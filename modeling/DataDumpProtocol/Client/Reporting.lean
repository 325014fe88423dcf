import DataDumpProtocol.Client.Overlap

/-!
# What the client reports

A transfer begins when the client departs from `IDLE` and ends when it is back.
With every lock acquired the flag that `TERMINATE` passes to `notifyCB` is that
of this transfer, and nothing of the transfer is left behind in `IDLE`.
-/

namespace DataDumpProtocol

namespace DDClient

/-- What a trace tells about the transfer since the client was in `IDLE`. -/
structure Report where
  /-- The body of another state began. -/
  departed : Bool := false
  /-- What `notifyCB` was called with. -/
  notices : List Bool := []
  /-- The continue bit of the block that was accepted last. -/
  continueBit : ContinueBit := .continueTransfer
  /-- A block with the terminate bit was stored. -/
  storedLast : Bool := false
  /-- A `BLOCK_ACK` was accepted by `sendCB`. -/
  acknowledged : Bool := false
  deriving DecidableEq

namespace Report

/-- Enter one event. -/
def note (report : Report) : Event → Report
  | .body .idle _ => {}
  | .body _ _ => { report with departed := true }
  | .blockReceived header =>
      { report with continueBit := header.getContinueBit }
  | .blockStored _ _ =>
      { report with
        storedLast :=
          report.storedLast || report.continueBit = .terminateTransfer }
  | .sent frame true =>
      { report with
        acknowledged :=
          report.acknowledged ||
            frame.head? = some MsgType.blockAck.toByte }
  | .notified status => { report with notices := report.notices ++ [status] }
  | _ => report

/-- The report that a trace ends in. -/
def ofTrace (trace : List Event) : Report :=
  trace.foldl note {}

theorem ofTrace_append (before after : List Event) :
    ofTrace (before ++ after) = after.foldl note (ofTrace before) :=
  List.foldl_append

/-- The transfer was successful: its last block was stored and acknowledged. -/
def outcome (report : Report) : Bool :=
  report.storedLast && report.acknowledged

/-- The transfer is under way and has not been notified. -/
def Open (report : Report) : Prop :=
  report.departed = true ∧ report.notices = []

/-- The transfer, if there was one, was notified once and truthfully. -/
def Closed (report : Report) : Prop :=
  report.notices = if report.departed then [report.outcome] else []

@[simp] theorem foldl_pollEvent (report : Report) (dump : DataDump) :
    dump.pollEvent.foldl note report = report :=
  DataDump.foldl_pollEvent_of_ignored (fun _ => rfl) report

/-- A control frame counts as an acknowledgement by its type. -/
theorem note_controlFrame
    (report : Report)
    (packet : TransactionPacket) :
    report.note (.sent (DataDump.controlFrame packet) true) =
      { report with
        acknowledged :=
          report.acknowledged || packet.header.msgType = .blockAck } := by
  have head : (DataDump.controlFrame packet).head? =
      some MsgType.blockAck.toByte ↔ packet.header.msgType = .blockAck := by
    simp only [DataDump.controlFrame, List.head?_cons, Option.some.injEq,
      TranscationHeader.typeByte]
    split
    next ackNot => simp [ackNot, MsgType.toByte]
    next => exact MsgType.toByte_inj
  simp [note, head]

theorem note_controlFrame_of_ne
    (report : Report)
    {packet : TransactionPacket}
    (other : packet.header.msgType ≠ .blockAck) :
    report.note (.sent (DataDump.controlFrame packet) true) = report := by
  simp [note_controlFrame, other]

end Report

/-- Nothing of a transfer is left. -/
def Cleared (client : DDClient) : Prop :=
  client.serverConfig = {} ∧ client.internalBuffer = none ∧
    client.internalBufferLen = 0 ∧ client.isTransferSuccess = false

instance (client : DDClient) : Decidable client.Cleared :=
  inferInstanceAs (Decidable (_ ∧ _))

/-- The transfer is under way and no acknowledgement was sent. -/
def Undecided (report : Report) (client : DDClient) : Prop :=
  report.Open ∧ report.acknowledged = false ∧
    client.isTransferSuccess = false

/-- What is known before the state's body. -/
def Ready (report : Report) (client : DDClient) : FsmState → Prop
  | .idle => client.Cleared ∧ report.Closed
  | .request => report = {} ∧ client.isTransferSuccess = false
  | .response | .initiateBlock | .block => client.Undecided report
  | .terminate =>
      report.Open ∧ client.isTransferSuccess = report.outcome

/-- What is known inside a state's body. -/
def During (report : Report) (client : DDClient) : ClientBody → Prop
  | .ackSend _ => client.Undecided report ∧ report.storedLast = true
  | _ => client.Undecided report

/-- What every run with acquired locks keeps. -/
structure Reports (client : DDClient) (report : Report) : Prop where
  heads : client.Heads (client.Ready report)
  during : ∀ body, client.point = .body body → client.During report body
  resting : client.isBusy = false →
    report = {} ∧ client.isTransferSuccess = false
  config : client.serverConfig.setTerms 0 0 0 0 = {}

section Reports

variable {parameters : Parameters} {client client' : DDClient}
variable {env : Environment} {events : List Event} {report : Report}

theorem reports_of_body
    {body : ClientBody}
    (here : client.point = .body body)
    (busy : client.isBusy = true)
    (config : client.serverConfig.setTerms 0 0 0 0 = {})
    (during : client.During report body) :
    client.Reports report := by
  refine ⟨Party.heads_of_body here, fun other there => ?_,
    fun resting => by simp [busy] at resting, config⟩
  obtain rfl := Point.body.inj (here.symm.trans there)
  exact during

theorem reports_of_leave
    {target : FsmState}
    (here : client.point = .leave target)
    (busy : client.isBusy = true)
    (config : client.serverConfig.setTerms 0 0 0 0 = {})
    (ready : client.Ready report target) :
    client.Reports report := by
  refine ⟨(Party.heads_of_leave here).mpr ready, fun body there => ?_,
    fun resting => by simp [busy] at resting, config⟩
  simp [here] at there

/-- What is ready when a body is entered. -/
theorem Reports.ready_of_enter
    {state : FsmState}
    (reports : client.Reports report)
    (here : client.point = .enter state) :
    client.Ready report state :=
  ((Party.heads_of_enter here).mp reports.heads).1

/-- A transfer under way keeps the client busy. -/
theorem Reports.busy
    (reports : client.Reports report)
    (opened : report.departed = true) :
    client.isBusy = true := by
  by_contra idle
  obtain ⟨rfl, -⟩ := reports.resting (by simpa using idle)
  simp at opened

theorem During.undecided
    {body : ClientBody}
    (during : client.During report body) :
    client.Undecided report := by
  cases body with
  | ackSend => exact during.1
  | _ => exact during

/-- Giving up without an acknowledgement is a failure. -/
theorem Undecided.ready_terminate
    (undecided : client.Undecided report)
    (point : Point ClientBody) :
    Ready report (client.goto point) .terminate := by
  obtain ⟨opened, acknowledged, flag⟩ := undecided
  exact ⟨opened, by simp [Report.outcome, acknowledged, flag]⟩

/-- The transfer stays undecided when its next body begins. -/
theorem Undecided.next (undecided : client.Undecided report) :
    client.Undecided { report with departed := true } :=
  ⟨⟨rfl, undecided.1.2⟩, undecided.2⟩

theorem Sound.busy_of_enter
    (sound : client.Sound parameters)
    (here : client.point = .enter .request) :
    client.isBusy = true := by
  have inside := sound.paced.current_of_enter here (by simp)
  have running := sound.paced.running (by rw [here]; trivial)
  rw [← inside] at running
  exact running.resolve_left (by simp)

theorem Moves.reports
    (moves : client.Moves env client' events)
    (sound : client.Sound parameters)
    (acquired : env.lockAcquired = true)
    (notifies : client.notifyCB = true)
    (reports : client.Reports report) :
    client'.Reports (events.foldl .note report) := by
  have config := reports.config
  have inBody {body : ClientBody} (here : client.point = .body body) :
      client.Undecided report ∧ client.isBusy = true :=
    ⟨(reports.during _ here).undecided, sound.busy_of_inside here⟩
  -- Frames that are refused and polls leave no entry.
  have gaveUp {body : ClientBody} (here : client.point = .body body)
      (same : events.foldl .note report = report) :
      Reports (client.goto (.leave .terminate))
        (events.foldl .note report) := by
    obtain ⟨undecided, busy⟩ := inBody here
    rw [same]
    exact reports_of_leave rfl busy config (undecided.ready_terminate _)
  cases moves with
  | shell shell =>
      have outside := shell.point_ne_body
      have heads := shell.heads acquired reports.heads
      obtain ⟨_, _, _, _, rfl, busy⟩ := shell.unchanged
      refine ⟨heads, fun body here => absurd here (outside body),
        fun resting => reports.resting ?_, config⟩
      by_contra active
      simp [busy (by simpa using active)] at resting
  | idle here =>
      obtain ⟨cleared, -⟩ : client.Cleared ∧ _ := reports.ready_of_enter here
      refine ⟨(Party.heads_of_readNext rfl).mpr ?_, by simp,
        fun _ => ⟨rfl, cleared.2.2.2⟩, config⟩
      rcases reports.heads.next_of_idle here with next | next
      · rw [next]
        exact ⟨cleared, rfl⟩
      · rw [next]
        exact ⟨rfl, cleared.2.2.2⟩
  | beginRequest here =>
      obtain ⟨rfl, flag⟩ : report = {} ∧ _ := reports.ready_of_enter here
      exact reports_of_body rfl (sound.busy_of_enter here) config
        ⟨⟨rfl, rfl⟩, rfl, flag⟩
  | noTimer here =>
      obtain ⟨rfl, flag⟩ : report = {} ∧ _ := reports.ready_of_enter here
      exact reports_of_leave rfl (sound.busy_of_enter here) config
        ⟨⟨rfl, rfl⟩, flag⟩
  | awaitResponse here | beginInitiate here | awaitBlock here =>
      have undecided : client.Undecided report := reports.ready_of_enter here
      have busy := reports.busy undecided.1.1
      exact reports_of_body rfl busy config undecided.next
  | refuse here =>
      have undecided : client.Undecided report := reports.ready_of_enter here
      have busy := reports.busy undecided.1.1
      exact reports_of_leave rfl busy config
        (undecided.next.ready_terminate _)
  | requestSent here =>
      have live : TransactionPacket.Carries _ _ _ := sound.live _ here
      obtain ⟨undecided, busy⟩ := inBody here
      rw [List.foldl_cons, report.note_controlFrame_of_ne]
      · exact reports_of_leave rfl busy config undecided
      · simp [live.msgType]
  | initiateSent here =>
      have live : TransactionPacket.Carries _ _ _ ∧ _ := sound.live _ here
      obtain ⟨undecided, busy⟩ := inBody here
      rw [List.foldl_cons, report.note_controlFrame_of_ne]
      · exact reports_of_leave rfl busy config undecided
      · simp [live.1.msgType]
  | acceptResponse here =>
      obtain ⟨undecided, busy⟩ := inBody here
      rw [List.foldl_append, Report.foldl_pollEvent]
      exact reports_of_leave rfl busy config undecided
  | storeMore here | missBlock here | refuseBlock here | poll here
  | pollBlock here =>
      obtain ⟨undecided, busy⟩ := inBody here
      simp only [List.foldl_append, Report.foldl_pollEvent]
      exact reports_of_body rfl busy config undecided
  | storeLast here _ _ _ last =>
      obtain ⟨undecided, busy⟩ := inBody here
      rw [List.foldl_append, Report.foldl_pollEvent]
      refine reports_of_body rfl busy config ⟨undecided, ?_⟩
      simp [Report.note, last]
  | continueBlock here =>
      obtain ⟨undecided, busy⟩ := inBody here
      have current : client.currentState = .block :=
        (sound.paced.inside _ here).symm
      refine reports_of_leave rfl busy config ?_
      rw [DataDump.getCurrentFSMState, if_pos acquired, current]
      exact undecided
  | ackSent here =>
      obtain ⟨⟨opened, -, -⟩, stored⟩ : client.Undecided report ∧ _ :=
        reports.during _ here
      have live : TransactionPacket.Carries _ _ _ ∧ _ := sound.live _ here
      refine reports_of_leave rfl (inBody here).2 config ⟨opened, ?_⟩
      simp [Report.note_controlFrame, live.1.msgType, Report.outcome, stored]
  | ackNotSent here =>
      have live : TransactionPacket.Carries _ _ _ := sound.live _ here
      exact gaveUp here
        (report.note_controlFrame_of_ne (by simp [live.msgType]))
  | retry here unsent =>
      rw [unsent.foldl_of_ignored fun _ _ => rfl]
      exact reports
  | giveUp here givesUp =>
      apply gaveUp here
      cases givesUp with
      | unsent unsent => exact unsent.foldl_of_ignored (fun _ _ => rfl) report
      | unheard => exact Report.foldl_pollEvent report _
  | terminate here =>
      obtain ⟨opened, flag⟩ : report.Open ∧ _ := reports.ready_of_enter here
      have busy := reports.busy opened.1
      refine reports_of_leave rfl busy config ⟨⟨config, rfl, rfl, rfl⟩, ?_⟩
      rw [List.foldl_cons, DataDump.notification, if_pos notifies, flag]
      simp [Report.Closed, Report.note, opened.2, Report.outcome]

/-- With the lock acquired, a call that is not refused stores `REQUEST`. -/
theorem startNewTransfer_of_acquired
    (client : DDClient)
    (buffer : Option Pointer)
    (size : Nat)
    (acquired : env.lockAcquired = true) :
    client.step (.startNewTransfer buffer size env) = (client, []) ∨
      ∃ pointer, client.isBusy = false ∧
        client.step (.startNewTransfer buffer size env) =
          ({ client with
              internalBuffer := some pointer
              internalBufferLen := size
              nextState := .request },
            [.transferStarted pointer size]) := by
  rcases client.startNewTransfer_cases buffer size env with
    refused | ⟨pointer, rfl, -, resting, started⟩
  · left
    cases buffer <;> simp [step, refused]
  · right
    refine ⟨pointer, resting, ?_⟩
    rw [DataDump.setNextFSMState_of_acquired _ _ acquired] at started
    simp only [step, started]
    rfl

/-- A call that is not refused finds a client that rests, and prepares the
next transfer. -/
theorem Reports.started
    (reports : client.Reports report)
    (here : client.point = .top .readNext)
    (resting : client.isBusy = false)
    (pointer : Pointer)
    (size : Nat) :
    Reports
      { client with
        internalBuffer := some pointer
        internalBufferLen := size
        nextState := .request }
      report := by
  obtain ⟨fresh, flag⟩ := reports.resting resting
  refine ⟨(Party.heads_of_readNext (by exact here)).mpr ?_,
    fun body inside => by simp [here] at inside,
    fun _ => ⟨fresh, flag⟩, reports.config⟩
  exact ⟨fresh, flag⟩

/-- An event that ends a transfer or notifies it is right. -/
def ReportsOnce (before : List Event) (event : Event) : Prop :=
  (∀ status, event = .notified status →
    (Report.ofTrace before).Open ∧
      status = (Report.ofTrace before).outcome) ∧
  ∀ buffer, event = .body .idle buffer → (Report.ofTrace before).Closed

theorem reportsOnce_of_other
    {before : List Event}
    {event : Event}
    (notified : ∀ status, event ≠ .notified status)
    (idle : ∀ buffer, event ≠ .body .idle buffer) :
    ReportsOnce before event :=
  ⟨fun status same => absurd same (notified status),
    fun buffer same => absurd same (idle buffer)⟩

theorem Moves.reportsOnce
    {trace : List Event}
    (moves : client.Moves env client' events)
    (reports : client.Reports (.ofTrace trace))
    (every : Trace.Every ReportsOnce trace) :
    Trace.Every ReportsOnce (trace ++ events) := by
  have others {events : List Event}
      (other : ∀ event ∈ events, (∀ status, event ≠ .notified status) ∧
        ∀ buffer, event ≠ .body .idle buffer) :
      Trace.Every ReportsOnce (trace ++ events) :=
    every.append_of_forall fun before event present =>
      reportsOnce_of_other (other event present).1 (other event present).2
  cases moves with
  | idle here =>
      obtain ⟨-, closed⟩ : _ ∧ (Report.ofTrace trace).Closed :=
        reports.ready_of_enter here
      rw [Trace.every_concat]
      exact ⟨every, by simp, fun _ _ => closed⟩
  | terminate here =>
      obtain ⟨opened, flag⟩ : (Report.ofTrace trace).Open ∧ _ :=
        reports.ready_of_enter here
      have begun : Trace.Every ReportsOnce
          (trace ++ [.body .terminate client.internalBuffer]) :=
        others (by simp)
      rw [List.append_cons]
      unfold DataDump.notification
      split
      next =>
        rw [Trace.every_concat]
        refine ⟨begun, fun status same => ?_, by simp⟩
        obtain rfl := Event.notified.inj same
        rw [Report.ofTrace_append]
        exact ⟨⟨rfl, opened.2⟩, flag⟩
      next => simpa using begun
  | retry here unsent =>
      apply others
      intro event present
      obtain ⟨frame, rfl⟩ := unsent event present
      simp
  | giveUp here givesUp =>
      apply others
      intro event present
      cases givesUp with
      | unsent unsent =>
          obtain ⟨frame, rfl⟩ := unsent event present
          simp
      | unheard =>
          rw [(DataDump.mem_pollEvent.mp present).2]
          simp
  | _ => exact others (by simp +contextual [or_imp])

theorem reports_new (parameters : Parameters) (heap : Heap) :
    (new parameters heap).Reports {} := by
  refine ⟨(Party.heads_of_readNext rfl).mpr ?_, by simp [new],
    fun _ => ⟨rfl, rfl⟩, rfl⟩
  exact ⟨⟨rfl, rfl, rfl, rfl⟩, rfl⟩

end Reports

/-- Every lock is acquired, and calls fall between two iterations. -/
def Action.Orderly (client : DDClient) (action : Action) : Prop :=
  action.Acquires ∧ action.BetweenIterations client

instance (client : DDClient) (action : Action) :
    Decidable (action.Orderly client) :=
  inferInstanceAs (Decidable (_ ∧ _))

/-- In every orderly run of a client that can notify: each transfer is notified
exactly once before the client is back in `IDLE`, with true exactly when its
last block was stored and its `BLOCK_ACK` accepted by `sendCB`, and nothing of
it is left then. -/
theorem client_reports_once
    {parameters : Parameters}
    {heap : Heap}
    {client : DDClient}
    {trace : List Event}
    (notifies : parameters.appStatusCB = true)
    (reaches : machine.Reaches
      (fun client _ action => action.Orderly client)
      (new parameters heap) client trace) :
    Trace.Every ReportsOnce trace ∧
      (client.point = .enter .idle → client.Cleared) := by
  obtain ⟨-, reports, every⟩ : client.Sound parameters ∧
      client.Reports (.ofTrace trace) ∧ Trace.Every ReportsOnce trace := by
    refine reaches.invariant
      (fun client trace => client.Sound parameters ∧
        client.Reports (.ofTrace trace) ∧ Trace.Every ReportsOnce trace)
      ⟨sound_new parameters heap, reports_new parameters heap,
        Trace.every_nil _⟩ ?_
    rintro client trace action ⟨sound, reports, every⟩ ⟨acquires, between⟩
    refine ⟨(sound.steps action).sound sound, ?_⟩
    rw [Report.ofTrace_append]
    cases action with
    | fsm env =>
        have moves := sound.moves env
        exact ⟨moves.reports sound acquires (sound.notifyCB.trans notifies)
          reports, moves.reportsOnce reports every⟩
    | startNewTransfer buffer size env =>
        have step : machine.step client (.startNewTransfer buffer size env) =
          client.step (.startNewTransfer buffer size env) := rfl
        rw [step]
        rcases client.startNewTransfer_of_acquired buffer size acquires with
          refused | ⟨pointer, resting, started⟩
        · rw [refused, List.append_nil]
          exact ⟨reports, every⟩
        · rw [started, Trace.every_concat]
          exact ⟨reports.started between resting pointer size, every,
            reportsOnce_of_other (by simp) (by simp)⟩
  exact ⟨every, fun here => (reports.ready_of_enter here).1⟩

end DDClient

end DataDumpProtocol

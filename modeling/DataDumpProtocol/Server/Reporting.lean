import DataDumpProtocol.Client.Reporting
import DataDumpProtocol.Server.Window

/-!
# What the server reports

A transaction begins when the server accepts a `REQUEST` and ends when it
accepts the next one.  With every lock acquired the flag that `TERMINATE`
passes to `notifyCB` is that of this transaction.
-/

namespace DataDumpProtocol

namespace DDServer

/-- What a trace tells about the transaction since its `REQUEST`. -/
structure Report where
  /-- A `REQUEST` was accepted. -/
  served : Bool := false
  /-- The transaction ID of that `REQUEST`. -/
  transactionID : TransactionId := 0
  /-- What `notifyCB` was called with. -/
  notices : List Bool := []
  /-- A `BLOCK_ACK` with the transaction ID was received. -/
  acknowledged : Bool := false
  /-- The erasing call returned the length that it was asked for. -/
  erasedAll : Bool := false
  deriving DecidableEq

namespace Report

/-- Enter one event. -/
def note (report : Report) : Event → Report
  | .received header =>
      match header.msgType with
      | .request => { served := true, transactionID := header.transactionID }
      | .blockAck =>
          { report with
            acknowledged :=
              report.acknowledged ||
                header.transactionID = report.transactionID }
      | _ => report
  | .storageErased size reported =>
      { report with erasedAll := report.erasedAll || reported = size }
  | .notified status => { report with notices := report.notices ++ [status] }
  | _ => report

/-- The report that a trace ends in. -/
def ofTrace (trace : List Event) : Report :=
  trace.foldl note {}

theorem ofTrace_append (before after : List Event) :
    ofTrace (before ++ after) = after.foldl note (ofTrace before) :=
  List.foldl_append

/-- The transaction was successful: it was acknowledged and erased. -/
def outcome (report : Report) : Bool :=
  report.acknowledged && report.erasedAll

/-- The transaction is served and has not been notified. -/
def Open (report : Report) : Prop :=
  report.served = true ∧ report.notices = []

/-- The transaction, if there was one, was notified once and truthfully. -/
def Closed (report : Report) : Prop :=
  report.notices = if report.served then [report.outcome] else []

@[simp] theorem foldl_pollEvent (report : Report) (dump : DataDump) :
    dump.pollEvent.foldl note report = report :=
  DataDump.foldl_pollEvent_of_ignored (fun _ => rfl) report

@[simp] theorem foldl_copyEvent (report : Report) (server : DDServer) :
    server.copyEvent.foldl note report = report :=
  foldl_copyEvent_of_ignored (fun _ _ _ => rfl) report

theorem note_request
    (report : Report)
    {header : TranscationHeader}
    (request : header.msgType = .request) :
    report.note (.received header) =
      { served := true, transactionID := header.transactionID } := by
  rw [note, request]

theorem note_initiate
    (report : Report)
    {header : TranscationHeader}
    (initiate : header.msgType = .initiateBlockTransfer) :
    report.note (.received header) = report := by
  rw [note, initiate]

theorem note_ack
    (report : Report)
    {header : TranscationHeader}
    (ack : header.msgType = .blockAck) :
    report.note (.received header) =
      { report with
        acknowledged :=
          report.acknowledged ||
            header.transactionID = report.transactionID } := by
  rw [note, ack]

end Report

/-- The transaction is served and nothing was erased. -/
def Undecided (report : Report) (server : DDServer) : Prop :=
  report.Open ∧ report.transactionID = server.clientConfig.transactionID ∧
    report.erasedAll = false ∧ server.isTransferSuccess = false

/-- What is known before the state's body. -/
def Prepared (report : Report) (server : DDServer) : FsmState → Prop
  | .idle => report = {} ∧ server.isTransferSuccess = false
  | .request => report.Closed ∧ server.isTransferSuccess = false
  | .response | .initiateBlock | .block => server.Undecided report
  | .terminate => report.Open ∧ server.isTransferSuccess = report.outcome

/-- What is known inside a state's body. -/
def Within (report : Report) (server : DDServer) : ServerBody → Prop
  | .requestReceive _ => server.Prepared report .request
  | _ => server.Undecided report

/-- What every run with acquired locks keeps. -/
structure Reports (server : DDServer) (report : Report) : Prop where
  heads : server.toParty.Heads (server.Prepared report)
  within : ∀ body, server.point = .body body → server.Within report body
  resting : server.isBusy = false →
    report = {} ∧ server.isTransferSuccess = false

section Reports

variable {parameters : Parameters} {server server' : DDServer}
variable {env : Environment} {events : List Event} {report : Report}

theorem reports_of_body
    {body : ServerBody}
    (here : server.point = .body body)
    (busy : server.isBusy = true)
    (within : server.Within report body) :
    server.Reports report := by
  refine ⟨Party.heads_of_body here, fun other there => ?_,
    fun resting => by simp [busy] at resting⟩
  obtain rfl := Point.body.inj (here.symm.trans there)
  exact within

theorem reports_of_leave
    {target : FsmState}
    (here : server.point = .leave target)
    (busy : server.isBusy = true)
    (prepared : server.Prepared report target) :
    server.Reports report := by
  refine ⟨(Party.heads_of_leave here).mpr prepared, fun body there => ?_,
    fun resting => by simp [busy] at resting⟩
  simp [here] at there

/-- What is ready when a body is entered. -/
theorem Reports.prepared_of_enter
    {state : FsmState}
    (reports : server.Reports report)
    (here : server.point = .enter state) :
    server.Prepared report state :=
  ((Party.heads_of_enter here).mp reports.heads).1

/-- A transaction under way keeps the server busy. -/
theorem Reports.busy
    (reports : server.Reports report)
    (opened : report.served = true) :
    server.isBusy = true := by
  by_contra idle
  obtain ⟨rfl, -⟩ := reports.resting (by simpa using idle)
  simp at opened

theorem Sound.busy_of_running
    (sound : server.Sound parameters)
    (running : server.point.Running)
    (active : server.currentState ≠ .idle) :
    server.isBusy = true :=
  (sound.paced.running running).resolve_left active

theorem Sound.busy_of_inside
    (sound : server.Sound parameters)
    {body : ServerBody}
    (here : server.point = .body body) :
    server.isBusy = true := by
  apply sound.busy_of_running (by rw [here]; trivial)
  rw [← sound.paced.inside body here]
  cases body <;> simp [ServerBody.state]

theorem Within.undecided
    {body : ServerBody}
    (within : server.Within report body)
    (serving : body.state ≠ .request) :
    server.Undecided report := by
  cases body with
  | requestReceive => exact absurd rfl serving
  | _ => exact within

/-- Giving up before the erasing call is a failure. -/
theorem Undecided.prepared_terminate
    (undecided : server.Undecided report)
    (acknowledged : Bool)
    (point : Point ServerBody) :
    Prepared { report with acknowledged := acknowledged } (server.goto point)
      .terminate := by
  obtain ⟨opened, -, erased, flag⟩ := undecided
  refine ⟨opened, ?_⟩
  simp [Report.outcome, erased, goto, flag]

theorem Moves.reports
    (moves : server.Moves env server' events)
    (sound : server.Sound parameters)
    (acquired : env.lockAcquired = true)
    (notifies : server.notifyCB = true)
    (reports : server.Reports report) :
    server'.Reports (events.foldl .note report) := by
  cases moves with
  | shell shell =>
      have outside := shell.point_ne_body
      have heads := shell.heads acquired reports.heads
      obtain ⟨_, _, _, _, rfl, busy⟩ := shell.unchanged
      refine ⟨heads, fun body here => absurd here (outside body),
        fun resting => reports.resting ?_⟩
      by_contra active
      simp [busy (by simpa using active)] at resting
  | idle here =>
      obtain ⟨rfl, -⟩ : report = {} ∧ _ := reports.prepared_of_enter here
      refine ⟨(Party.heads_of_readNext rfl).mpr ?_, by simp,
        fun _ => ⟨rfl, rfl⟩⟩
      rcases reports.heads.next_of_idle here with next | next
      · rw [next]
        exact ⟨rfl, rfl⟩
      · rw [next]
        exact ⟨rfl, rfl⟩
  | awaitRequest here =>
      have inside := sound.paced.current_of_enter here (by simp)
      have busy := sound.busy_of_running (by rw [here]; trivial)
        (by simp [← inside])
      exact reports_of_body rfl busy (reports.prepared_of_enter here)
  | acceptRequest here accepts =>
      obtain ⟨-, flag⟩ : report.Closed ∧ _ := reports.within _ here
      rw [List.foldl_append, Report.foldl_pollEvent, List.foldl_cons,
        report.note_request accepts.msgType]
      exact reports_of_leave rfl (sound.busy_of_inside here)
        ⟨⟨rfl, rfl⟩, rfl, rfl, flag⟩
  | readStorage here | awaitInitiate here | fillBlock here =>
      have undecided : server.Undecided report := reports.prepared_of_enter here
      have busy := reports.busy undecided.1.1
      simp only [List.foldl_cons, List.foldl_nil, Report.foldl_copyEvent]
      exact reports_of_body rfl busy undecided
  | readNothing here | noStorage here =>
      have undecided : server.Undecided report := reports.prepared_of_enter here
      have busy := reports.busy undecided.1.1
      exact reports_of_leave rfl busy (undecided.prepared_terminate _ _)
  | responseSent here =>
      exact reports_of_leave rfl (sound.busy_of_inside here)
        (reports.within _ here)
  | acceptInitiate here accepts =>
      rw [List.foldl_append, Report.foldl_pollEvent, List.foldl_cons,
        report.note_initiate accepts.msgType]
      exact reports_of_leave rfl (sound.busy_of_inside here)
        (reports.within _ here)
  | blockSent here | lastBlockSent here =>
      exact reports_of_body rfl (sound.busy_of_inside here)
        (reports.within _ here)
  | continueBlock here =>
      have current : server.currentState = .block :=
        (sound.paced.inside _ here).symm
      refine reports_of_leave rfl (sound.busy_of_inside here) ?_
      rw [DataDump.getCurrentFSMState, if_pos acquired, current]
      exact reports.within _ here
  | erase here accepts _ agrees all =>
      obtain ⟨opened, same, -⟩ : server.Undecided report :=
        reports.within _ here
      rw [List.foldl_append, Report.foldl_pollEvent, List.foldl_cons,
        report.note_ack accepts.msgType]
      refine reports_of_leave rfl (sound.busy_of_inside here) ⟨opened, ?_⟩
      simp [Report.note, Report.outcome, all, agrees, same]
  | eraseElse here accepts _ agrees differs =>
      have undecided : server.Undecided report := reports.within _ here
      rw [List.foldl_append, Report.foldl_pollEvent, List.foldl_cons,
        report.note_ack accepts.msgType]
      refine reports_of_leave rfl (sound.busy_of_inside here) ?_
      simp only [List.foldl_cons, List.foldl_nil, Report.note, differs,
        decide_false, Bool.or_false]
      exact undecided.prepared_terminate _ _
  | poll here polls =>
      have within := reports.within _ here
      rw [Report.foldl_pollEvent]
      cases polls <;>
        exact reports_of_body rfl (sound.busy_of_inside here) within
  | retry here unsent =>
      rw [unsent.foldl_of_ignored fun _ _ => rfl]
      exact reports
  | giveUp here givesUp timed =>
      have undecided : server.Undecided report :=
        (reports.within _ here).undecided timed
      have busy := sound.busy_of_inside here
      cases givesUp with
      | unsent unsent =>
          rw [unsent.foldl_of_ignored fun _ _ => rfl]
          exact reports_of_leave rfl busy (undecided.prepared_terminate _ _)
      | unheard =>
          rw [Report.foldl_pollEvent]
          exact reports_of_leave rfl busy (undecided.prepared_terminate _ _)
      | declined accepts =>
          rw [List.foldl_append, Report.foldl_pollEvent, List.foldl_cons,
            report.note_initiate accepts.msgType]
          exact reports_of_leave rfl busy (undecided.prepared_terminate _ _)
      | disputed accepts =>
          rw [List.foldl_append, Report.foldl_pollEvent, List.foldl_cons,
            report.note_ack accepts.msgType]
          exact reports_of_leave rfl busy (undecided.prepared_terminate _ _)
  | terminate here =>
      obtain ⟨opened, flag⟩ : report.Open ∧ _ :=
        reports.prepared_of_enter here
      refine reports_of_leave rfl (reports.busy opened.1) ⟨?_, rfl⟩
      rw [List.foldl_cons, DataDump.notification, if_pos notifies, flag]
      simp [Report.Closed, Report.note, opened.1, opened.2, Report.outcome]

/-- With the lock acquired, a call of `startServer` stores `REQUEST` while the
server rests. -/
theorem startServer_cases
    (server : DDServer)
    (acquired : env.lockAcquired = true) :
    server.step (.startServer env) = (server, []) ∨
      (server.isBusy = false ∧
        server.step (.startServer env) =
          ({ server with nextState := .request }, [.serverStarted])) := by
  by_cases resting : server.isBusy = false
  · right
    refine ⟨resting, ?_⟩
    simp [step, startServer, resting,
      DataDump.setNextFSMState_of_acquired _ _ acquired]
  · left
    simp [step, startServer, resting]

theorem Reports.started
    (reports : server.Reports report)
    (here : server.point = .top .readNext)
    (resting : server.isBusy = false) :
    Reports { server with nextState := .request } report := by
  obtain ⟨rfl, flag⟩ := reports.resting resting
  refine ⟨(Party.heads_of_readNext (by exact here)).mpr ?_,
    fun body inside => by simp [here] at inside, fun _ => ⟨rfl, flag⟩⟩
  exact ⟨rfl, flag⟩

/-- A notification, and the `REQUEST` that ends a transaction, are right. -/
def ReportsOnce (before : List Event) (event : Event) : Prop :=
  (∀ status, event = .notified status →
    (Report.ofTrace before).Open ∧
      status = (Report.ofTrace before).outcome) ∧
  ∀ header, event = .received header → header.msgType = .request →
    (Report.ofTrace before).Closed

theorem reportsOnce_of_other
    {before : List Event}
    {event : Event}
    (notified : ∀ status, event ≠ .notified status)
    (request : ∀ header, event = .received header →
      header.msgType ≠ .request) :
    ReportsOnce before event :=
  ⟨fun status same => absurd same (notified status),
    fun header same requested => absurd requested (request header same)⟩

theorem Moves.reportsOnce
    {trace : List Event}
    (moves : server.Moves env server' events)
    (reports : server.Reports (.ofTrace trace))
    (every : Trace.Every ReportsOnce trace) :
    Trace.Every ReportsOnce (trace ++ events) := by
  have others {events : List Event}
      (other : ∀ event ∈ events, (∀ status, event ≠ .notified status) ∧
        ∀ header, event = .received header → header.msgType ≠ .request) :
      Trace.Every ReportsOnce (trace ++ events) :=
    every.append_of_forall fun before event present =>
      reportsOnce_of_other (other event present).1 (other event present).2
  cases moves with
  | acceptRequest here =>
      obtain ⟨closed, -⟩ : (Report.ofTrace trace).Closed ∧ _ :=
        reports.within _ here
      rw [← List.append_assoc, Trace.every_concat]
      refine ⟨others (by simp +contextual), by simp, fun _ _ _ => ?_⟩
      rwa [Report.ofTrace_append, Report.foldl_pollEvent]
  | terminate here =>
      obtain ⟨opened, flag⟩ : (Report.ofTrace trace).Open ∧ _ :=
        reports.prepared_of_enter here
      have begun : Trace.Every ReportsOnce
          (trace ++ [.body .terminate server.internalBuffer]) :=
        others (by simp)
      rw [List.append_cons]
      unfold DataDump.notification
      split
      next =>
        rw [Trace.every_concat]
        refine ⟨begun, fun status same => ?_, by simp⟩
        obtain rfl := Event.notified.inj same
        rw [Report.ofTrace_append]
        exact ⟨opened, flag⟩
      next => simpa using begun
  | acceptInitiate here accepts | erase here accepts
  | eraseElse here accepts =>
      exact others (by simp +contextual [or_imp, accepts.msgType])
  | fillBlock =>
      apply others
      intro event present
      rcases List.mem_cons.mp present with rfl | copied
      · simp
      · obtain ⟨_, -, -, rfl⟩ := mem_copyEvent.mp copied
        simp
  | retry here unsent =>
      apply others
      intro event present
      obtain ⟨frame, rfl⟩ := unsent event present
      simp
  | giveUp here givesUp =>
      cases givesUp with
      | unsent unsent =>
          apply others
          intro event present
          obtain ⟨frame, rfl⟩ := unsent event present
          simp
      | unheard => exact others (by simp +contextual)
      | declined accepts | disputed accepts =>
          exact others (by simp +contextual [or_imp, accepts.msgType])
  | _ => exact others (by simp +contextual [or_imp])

theorem reports_new (parameters : Parameters) (heap : Heap) :
    (new parameters heap).Reports {} := by
  refine ⟨(Party.heads_of_readNext rfl).mpr ?_, by simp [new],
    fun _ => ⟨rfl, rfl⟩⟩
  exact ⟨rfl, rfl⟩

end Reports

/-- Every lock is acquired, `startServer` is called between two iterations, and
`stopServer` is not called. -/
def Action.Orderly (server : DDServer) : Action → Prop
  | .fsm env => env.lockAcquired = true
  | .startServer env =>
      env.lockAcquired = true ∧ server.point = .top .readNext
  | .stopServer _ => False

instance (server : DDServer) : (action : Action) →
    Decidable (action.Orderly server)
  | .fsm env => inferInstanceAs (Decidable (env.lockAcquired = true))
  | .startServer _ => inferInstanceAs (Decidable (_ ∧ _))
  | .stopServer _ => inferInstanceAs (Decidable False)

/-- In every orderly run of a server that can notify, each transaction is
notified exactly once before the next `REQUEST` is accepted, with true exactly
when a matching `BLOCK_ACK` was received and the erasing call returned the
length that it was asked for. -/
theorem server_reports_once
    {parameters : Parameters}
    {heap : Heap}
    {server : DDServer}
    {trace : List Event}
    (notifies : parameters.appStatusCB = true)
    (reaches : machine.Reaches
      (fun server _ action => action.Orderly server)
      (new parameters heap) server trace) :
    Trace.Every ReportsOnce trace := by
  obtain ⟨-, -, every⟩ : server.Sound parameters ∧
      server.Reports (.ofTrace trace) ∧ Trace.Every ReportsOnce trace := by
    refine reaches.invariant
      (fun server trace => server.Sound parameters ∧
        server.Reports (.ofTrace trace) ∧ Trace.Every ReportsOnce trace)
      ⟨sound_new parameters heap, reports_new parameters heap,
        Trace.every_nil _⟩ ?_
    rintro server trace action ⟨sound, reports, every⟩ orderly
    refine ⟨(sound.steps action).sound sound, ?_⟩
    rw [Report.ofTrace_append]
    cases action with
    | fsm env =>
        have moves := sound.moves env
        exact ⟨moves.reports sound orderly (sound.notifyCB.trans notifies)
          reports, moves.reportsOnce reports every⟩
    | startServer env =>
        have step : machine.step server (.startServer env) =
          server.step (.startServer env) := rfl
        rw [step]
        rcases server.startServer_cases orderly.1 with
          refused | ⟨resting, started⟩
        · rw [refused, List.append_nil]
          exact ⟨reports, every⟩
        · rw [started, Trace.every_concat]
          exact ⟨reports.started orderly.2 resting, every,
            reportsOnce_of_other (by simp) (by simp)⟩
    | stopServer env => exact absurd orderly id
  exact every

end DDServer

/-! ## Both machines -/

/-- In every orderly run, each machine reports each of its transfers exactly
once and truthfully, and a client that is back in `IDLE` has nothing of its
transfer left. -/
theorem each_transfer_reported_once
    {parameters : Parameters}
    {heap : Heap}
    (notifies : parameters.appStatusCB = true) :
    (∀ client trace,
      DDClient.machine.Reaches
          (fun client _ action => action.Orderly client)
          (DDClient.new parameters heap) client trace →
        Trace.Every
          (fun before event =>
            (∀ status, event = .notified status →
              (DDClient.Report.ofTrace before).Open ∧
                status = (DDClient.Report.ofTrace before).outcome) ∧
            ∀ buffer, event = .body .idle buffer →
              (DDClient.Report.ofTrace before).Closed)
          trace ∧
        (client.point = .enter .idle → client.Cleared)) ∧
    ∀ server trace,
      DDServer.machine.Reaches
          (fun server _ action => action.Orderly server)
          (DDServer.new parameters heap) server trace →
        Trace.Every
          (fun before event =>
            (∀ status, event = .notified status →
              (DDServer.Report.ofTrace before).Open ∧
                status = (DDServer.Report.ofTrace before).outcome) ∧
            ∀ header, event = .received header →
              header.msgType = .request →
                (DDServer.Report.ofTrace before).Closed)
          trace :=
  ⟨fun _ _ reaches => DDClient.client_reports_once notifies reaches,
    fun _ _ reaches => DDServer.server_reports_once notifies reaches⟩

/-- A transfer of one block, up to the client's return to `IDLE`. -/
def wholeTransfer : List DDClient.Action :=
  .startNewTransfer (some ⟨1, 0⟩) 8 {} :: List.replicate 16 (.fsm {}) ++
    .fsm { incoming := [2, 7, 0, 0, 0, 2, 11, 5, 0, 0, 0] } ::
      List.replicate 17 (.fsm {}) ++
    .fsm { incoming := [4, 1, 0, 0, 6, 1, 2, 3, 4, 5, 6] } ::
      List.replicate 16 (.fsm {})

/-- A transaction of one block, up to the next `REQUEST` body. -/
def wholeService : List DDServer.Action :=
  DDServer.exampleTransaction ++ DDServer.exampleAck

/-- Both sides reported the transfer once, as a success, and the client has
nothing of it left. -/
theorem each_transfer_reported_once_example :
    (DDClient.Report.ofTrace (DDClient.reassemblyRun wholeTransfer).2).notices =
        [true] ∧
      (DDClient.reassemblyRun wholeTransfer).1.Cleared ∧
      (DDServer.Report.ofTrace (DDServer.exampleRun wholeService).2).notices =
        [true] ∧
      Trace.Every DDServer.ReportsOnce
        (DDServer.exampleRun wholeService).2 := by
  have client : DDClient.reassemblyParameters.appStatusCB = true := rfl
  have server : DDServer.exampleParameters.appStatusCB = true := rfl
  refine ⟨by decide +kernel, ?_, by decide +kernel, ?_⟩
  · exact ((each_transfer_reported_once client).1 _ _
      (Machine.Reaches.execute wholeTransfer .start (by decide +kernel))).2
      (by decide +kernel)
  · exact (each_transfer_reported_once server).2 _ _
      (Machine.Reaches.execute wholeService .start (by decide +kernel))

end DataDumpProtocol

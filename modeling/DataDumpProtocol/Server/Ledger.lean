import DataDumpProtocol.Server.Window

/-!
# What the server erases

A ledger is kept of each transaction from what can be observed: what storage
delivered, what `sendCB` took, whether it was acknowledged, and what was
erased.  The server erases a transaction at most once, and only when all of it
was handed over and acknowledged.  But the length that it asks to erase was
counted down while the blocks were sent, and is zero by then.
-/

namespace DataDumpProtocol

open FsmState

/-- What was observed of the current transaction. -/
structure Ledger where
  transactionID : TransactionId := 0
  /-- What the last read of storage delivered. -/
  read : List Byte := []
  /-- The payload of the blocks that `sendCB` took since then. -/
  handed : List Byte := []
  /-- Whether a matching `BLOCK_ACK` was received since the last block. -/
  acknowledged : Bool := false
  /-- The number of calls that erased. -/
  erasures : Nat := 0
  /-- The sizes asked for and reported by erasing calls since `notifyCB` was
  last called. -/
  reports : List (Nat × Nat) := []

namespace Ledger

/-- Enter one event. -/
def observe (ledger : Ledger) : Event → Ledger
  | .received header =>
      match header.msgType with
      | .request =>
          { transactionID := header.transactionID, reports := ledger.reports }
      | .blockAck =>
          if header.transactionID = ledger.transactionID then
            { ledger with acknowledged := true }
          else
            ledger
      | _ => ledger
  | .storageRead _ _ contents =>
      { ledger with read := contents, handed := [], acknowledged := false }
  | .sent frame true =>
      if frame.head? = some MsgType.blockTransfer.toByte then
        { ledger with
          handed := ledger.handed ++ frame.drop 5, acknowledged := false }
      else
        ledger
  | .storageErased size reported =>
      { ledger with
        erasures := ledger.erasures + 1
        reports := ledger.reports ++ [(size, reported)] }
  | .notified _ => { ledger with reports := [] }
  | _ => ledger

/-- Everything that was read was handed over and acknowledged. -/
def Completed (ledger : Ledger) : Prop :=
  ledger.handed = ledger.read ∧ ledger.acknowledged = true

instance (ledger : Ledger) : Decidable ledger.Completed :=
  inferInstanceAs (Decidable (_ ∧ _))

end Ledger

/-- The ledger after a trace. -/
def ledger (trace : List Event) : Ledger :=
  trace.foldl Ledger.observe {}

theorem ledger_append (before after : List Event) :
    ledger (before ++ after) = after.foldl Ledger.observe (ledger before) :=
  List.foldl_append

namespace Ledger

@[simp] theorem observe_storageErased
    (ledger : Ledger)
    (size reported : Nat) :
    ledger.observe (.storageErased size reported) =
      { ledger with
        erasures := ledger.erasures + 1
        reports := ledger.reports ++ [(size, reported)] } := rfl

@[simp] theorem observe_notified (ledger : Ledger) (status : Bool) :
    ledger.observe (.notified status) = { ledger with reports := [] } := rfl

@[simp] theorem observe_body
    (ledger : Ledger)
    (state : FsmState)
    (buffer : Option Pointer) :
    ledger.observe (.body state buffer) = ledger := rfl

/-- A notification leaves the transaction alone. -/
theorem foldl_notification (ledger : Ledger) (dump : DataDump) :
    (dump.notification.foldl observe ledger).read = ledger.read ∧
      (dump.notification.foldl observe ledger).handed = ledger.handed := by
  unfold DataDump.notification
  split <;> simp

@[simp] theorem foldl_pollEvent (ledger : Ledger) (dump : DataDump) :
    dump.pollEvent.foldl observe ledger = ledger :=
  DataDump.foldl_pollEvent_of_ignored (fun _ => rfl) ledger

theorem foldl_unsent
    (ledger : Ledger)
    {events : List Event}
    (unsent : Unsent events) :
    events.foldl observe ledger = ledger :=
  unsent.foldl_of_ignored (fun _ _ => rfl) ledger

theorem foldl_calls
    (ledger : Ledger)
    {server server' : DDServer}
    {events : List Event}
    (calls : server.Calls server' events) :
    events.foldl observe ledger = ledger :=
  calls.foldl_of_ignored (fun _ => rfl) (fun _ => rfl) ledger

/-- A control frame is not a block. -/
theorem observe_controlFrame
    (ledger : Ledger)
    {packet : TransactionPacket}
    (control : packet.header.msgType ≠ .blockTransfer) :
    ledger.observe (.sent (DataDump.controlFrame packet) true) = ledger := by
  have head : (DataDump.controlFrame packet).head? ≠
      some MsgType.blockTransfer.toByte := by
    simp only [DataDump.controlFrame, List.head?_cons, ne_eq,
      Option.some.injEq, TranscationHeader.typeByte]
    split
    next => simp [MsgType.toByte]
    next => simpa using control
  simp [observe, head]

/-- A block's payload is entered as handed over. -/
theorem observe_block
    (ledger : Ledger)
    {packet : BlockTxRxPacket}
    {limit : Nat}
    {payload : List Byte}
    (holds : packet.Holds limit payload)
    (beyond : View) :
    ledger.observe (.sent (packet.frame beyond) true) =
      { ledger with
        handed := ledger.handed ++ payload
        acknowledged := decide (payload = []) && ledger.acknowledged } := by
  by_cases empty : payload = []
  · subst empty
    rw [holds.frame_nil]
    simp [observe]
  · have payload_eq : (packet.frame beyond).drop 5 = payload := by
      rw [holds.frame_eq empty, List.drop_succ_cons,
        List.drop_append_of_le_length (by simp)]
      simp
    rw [observe, payload_eq, holds.frame_eq empty]
    simp [empty]

/-- An acknowledgement changes no other entry. -/
theorem observe_ack
    (ledger : Ledger)
    {header : TranscationHeader}
    (ack : header.msgType = .blockAck) :
    ledger.observe (.received header) =
      { ledger with
        acknowledged :=
          ledger.acknowledged ||
            header.transactionID == ledger.transactionID } := by
  rw [observe, ack]
  simp only
  split
  next same => simp [same]
  next differs => rw [beq_false_of_ne differs, Bool.or_false]

theorem observe_initiate
    (ledger : Ledger)
    {header : TranscationHeader}
    (initiate : header.msgType = .initiateBlockTransfer) :
    ledger.observe (.received header) = ledger := by
  rw [observe, initiate]

@[simp] theorem foldl_copyEvent (ledger : Ledger) (server : DDServer) :
    server.copyEvent.foldl observe ledger = ledger :=
  DDServer.foldl_copyEvent_of_ignored (fun _ _ _ => rfl) ledger

end Ledger

namespace DDServer

/-! ## Erasing calls and notifications -/

/-- The event is neither an erasing call nor a notification. -/
def Unaccounted : Event → Prop
  | .storageErased _ _ | .notified _ => False
  | _ => True

theorem unaccounted_copyEvent
    {server : DDServer}
    {event : Event}
    (present : event ∈ server.copyEvent) :
    Unaccounted event := by
  obtain ⟨_, -, -, rfl⟩ := mem_copyEvent.mp present
  trivial

/-- What holds of each erasing call and each notification when it is made, and
of all other events at any time, holds of every event of a run. -/
theorem Moves.every
    {server server' : DDServer}
    {env : Environment}
    {trace events : List Event}
    {right : List Event → Event → Prop}
    (moves : server.Moves env server' events)
    (every : Trace.Every right trace)
    (other : ∀ before event, Unaccounted event → right before event)
    (erased : ∀ ackPacket reported,
      server.point = .body (.ackReceive ackPacket) →
      server.Accepts .blockAck env →
      (server.polledHeader env).transactionID =
        server.clientConfig.transactionID →
      right
        (trace ++ (server.pollEvent ++
          [.received (server.polledHeader env)]))
        (.storageErased server.internalBufferLen reported))
    (notified :
      right (trace ++ [.body .terminate server.internalBuffer])
        (.notified server.isTransferSuccess)) :
    Trace.Every right (trace ++ events) := by
  have others (events : List Event)
      (unaccounted : ∀ event ∈ events, Unaccounted event) :
      Trace.Every right (trace ++ events) :=
    every.append_of_forall fun before event present =>
      other before event (unaccounted event present)
  have acknowledged (header : TranscationHeader) (size reported : Nat)
      (last : right (trace ++ (server.pollEvent ++ [.received header]))
        (.storageErased size reported)) :
      Trace.Every right
        (trace ++ (server.pollEvent ++
          [.received header, .storageErased size reported])) := by
    have split : trace ++ (server.pollEvent ++
          [.received header, .storageErased size reported]) =
        (trace ++ (server.pollEvent ++ [.received header])) ++
          [.storageErased size reported] := by simp
    rw [split, Trace.every_concat]
    exact ⟨others _ (by simp +contextual [or_imp, Unaccounted]), last⟩
  cases moves with
  | erase here accepts _ agrees =>
      exact acknowledged _ _ _ (erased _ _ here accepts agrees)
  | eraseElse here accepts _ agrees =>
      exact acknowledged _ _ _ (erased _ _ here accepts agrees)
  | terminate =>
      have begun := others [.body .terminate server.internalBuffer]
        (by simp [Unaccounted])
      unfold DataDump.notification
      split
      next =>
        rw [← List.singleton_append, ← List.append_assoc, Trace.every_concat]
        exact ⟨begun, notified⟩
      next => exact begun
  | retry here unsent =>
      apply others _
      intro event present
      obtain ⟨frame, rfl⟩ := unsent event present
      trivial
  | giveUp here givesUp =>
      apply others _
      intro event present
      rcases givesUp.mem present with rfl | ⟨frame, rfl⟩ | rfl <;> trivial
  | fillBlock =>
      apply others _
      intro event present
      rcases List.mem_cons.mp present with rfl | copy
      · trivial
      · exact unaccounted_copyEvent copy
  | _ => exact others _ (by simp +contextual [or_imp, Unaccounted])

/-! ## The length that is asked to be erased -/

/-- The number of bytes in the block packet that is being sent. -/
def pending (server : DDServer) : Nat :=
  match server.point with
  | .body (.blockSend blockDataPacket) =>
      blockDataPacket.header.dataBufferSize.toNat
  | _ => 0

theorem pending_eq_zero
    {server : DDServer}
    (outside : ∀ packet, server.point ≠ .body (.blockSend packet)) :
    server.pending = 0 := by
  unfold pending
  split
  next packet here => exact absurd here (outside packet)
  next => rfl

theorem pending_of_blockSend
    {server : DDServer}
    {packet : BlockTxRxPacket}
    (here : server.point = .body (.blockSend packet)) :
    server.pending = packet.header.dataBufferSize.toNat := by
  simp [pending, here]

/-- What every run keeps about the ledger: no byte is counted twice, and
success was reported. -/
structure Counted (server : DDServer) (ledger : Ledger) : Prop where
  within : ledger.read ≠ [] →
    ledger.handed.length + server.pending + server.internalBufferLen ≤
      ledger.read.length
  reported : server.isTransferSuccess = true →
    ∃ size, (size, size) ∈ ledger.reports

/-- An erasing call of a completed transaction asks for nothing, and success
is notified after storage reported what it was asked for. -/
def ErasesNothing (before : List Event) (event : Event) : Prop :=
  (∀ size reported, event = .storageErased size reported →
    (ledger before).Completed → (ledger before).read ≠ [] → size = 0) ∧
  (event = .notified true → ∃ size, (size, size) ∈ (ledger before).reports)

theorem erasesNothing_of_unaccounted
    {before : List Event}
    {event : Event}
    (unaccounted : Unaccounted event) :
    ErasesNothing before event := by
  refine ⟨?_, ?_⟩
  · rintro size reported rfl
    exact absurd unaccounted id
  · rintro rfl
    exact absurd unaccounted id

/-- A body that gives up leaves at most an acknowledgement. -/
theorem GivesUp.entries
    {server : DDServer}
    {env : Environment}
    {body : ServerBody}
    {events : List Event}
    (givesUp : server.GivesUp env body events)
    (ledger : Ledger) :
    (events.foldl Ledger.observe ledger).read = ledger.read ∧
      (events.foldl Ledger.observe ledger).handed = ledger.handed ∧
      (events.foldl Ledger.observe ledger).reports = ledger.reports := by
  cases givesUp with
  | unsent unsent => simp [ledger.foldl_unsent unsent]
  | unheard => simp
  | declined accepts =>
      simp [List.foldl_append, ledger.observe_initiate accepts.msgType]
  | disputed accepts =>
      simp [List.foldl_append, ledger.observe_ack accepts.msgType]

section Counted

variable {parameters : Parameters} {server server' : DDServer}
variable {env : Environment} {trace events : List Event}

/-- A step that leaves no entry about this transaction. -/
theorem Counted.kept
    {before after : Ledger}
    (counted : server.Counted before)
    (read : after.read = before.read)
    (handed : after.handed = before.handed)
    (reports : after.reports = before.reports)
    (length : server'.pending + server'.internalBufferLen ≤
      server.pending + server.internalBufferLen)
    (success : server'.isTransferSuccess = true →
      server.isTransferSuccess = true) :
    server'.Counted after := by
  refine ⟨?_, ?_⟩
  · rw [read, handed]
    intro nonempty
    have within := counted.within nonempty
    omega
  · rw [reports]
    exact fun successful => counted.reported (success successful)

theorem Moves.counted
    (moves : server.Moves env server' events)
    (sound : server.Sound parameters)
    (counted : server.Counted (ledger trace)) :
    server'.Counted (ledger (trace ++ events)) := by
  rw [ledger_append]
  generalize ledger trace = before at counted ⊢
  -- Outside the send loop no packet is pending.
  have settled {after : DDServer}
      (outside : ∀ packet, after.point ≠ .body (.blockSend packet))
      (length : after.internalBufferLen ≤ server.internalBufferLen) :
      after.pending + after.internalBufferLen ≤
        server.pending + server.internalBufferLen := by
    rw [pending_eq_zero outside]
    omega
  cases moves with
  | shell shell =>
      have outside := shell.point_ne_body
      obtain ⟨_, _, _, _, rfl, -⟩ := shell.unchanged
      exact counted.kept rfl rfl rfl
        (settled (fun packet here => outside _ here) (Nat.le_refl _)) id
  | idle =>
      exact counted.kept rfl rfl rfl (settled (by simp) (Nat.zero_le _))
        (by simp)
  | awaitRequest | awaitInitiate | noStorage | continueBlock =>
      exact counted.kept rfl rfl rfl
        (settled (by simp [goto, negotiated]) (Nat.le_refl _)) id
  | acceptRequest here accepts =>
      have request := accepts.msgType
      refine ⟨?_, ?_⟩ <;>
        simp only [List.foldl_append, Ledger.foldl_pollEvent, List.foldl_cons,
          List.foldl_nil, Ledger.observe, request]
      · simp
      · exact counted.reported
  | readStorage | readNothing =>
      refine ⟨fun _ => ?_, counted.reported⟩
      rw [pending_eq_zero (by simp)]
      simp [Ledger.observe]
  | responseSent here =>
      have carries : TransactionPacket.Carries _ _ _ := sound.live _ here
      have control := Ledger.observe_controlFrame before
        (by rw [carries.msgType]; simp)
      simp only [List.foldl_cons, List.foldl_nil, control]
      exact counted.kept rfl rfl rfl
        (settled (by simp [goto]) (Nat.le_refl _)) id
  | acceptInitiate here accepts =>
      simp only [List.foldl_append, Ledger.foldl_pollEvent, List.foldl_cons,
        List.foldl_nil, before.observe_initiate accepts.msgType]
      exact counted.kept rfl rfl rfl
        (settled (by simp) (Nat.le_refl _)) id
  | fillBlock here buffer =>
      have room : 5 ≤ server.maxPacketSize := by
        have := sound.room_of_enter here
        omega
      have size_le : server.dataSizeCopiedToPacket ≤
          server.internalBufferLen := by
        rw [dataSizeCopiedToPacket_eq room]
        exact Nat.min_le_left _ _
      have filled := (blockPacket_holds room sound.byteSized buffer).size
      simp only [List.foldl_cons, Ledger.foldl_copyEvent]
      refine counted.kept rfl rfl rfl ?_ id
      rw [pending_of_blockSend rfl, filled, Heap.length_bytes]
      simp only
      omega
  | blockSent here | lastBlockSent here =>
      obtain ⟨source, size, -, holds⟩ := sound.live _ here
      simp only [List.foldl_cons, List.foldl_nil,
        before.observe_block holds env.beyond]
      refine ⟨fun nonempty => ?_, counted.reported⟩
      have within := counted.within nonempty
      rw [pending_of_blockSend here, holds.size] at within
      rw [pending_eq_zero (by simp [goto]), List.length_append]
      simp only [goto]
      omega
  | erase here accepts _ _ all =>
      simp only [List.foldl_append, Ledger.foldl_pollEvent, List.foldl_cons,
        List.foldl_nil, before.observe_ack accepts.msgType,
        Ledger.observe_storageErased]
      refine ⟨fun nonempty => ?_, fun _ => ⟨server.internalBufferLen, ?_⟩⟩
      · have within := counted.within nonempty
        rw [pending_eq_zero (by simp)]
        simp only
        omega
      · simp [all]
  | eraseElse here accepts =>
      simp only [List.foldl_append, Ledger.foldl_pollEvent, List.foldl_cons,
        List.foldl_nil, before.observe_ack accepts.msgType,
        Ledger.observe_storageErased]
      refine ⟨fun nonempty => ?_, fun successful => ?_⟩
      · have within := counted.within nonempty
        rw [pending_eq_zero (by simp [goto])]
        simp only [goto]
        omega
      · obtain ⟨size, reported⟩ := counted.reported successful
        exact ⟨size, List.mem_append_left _ reported⟩
  | poll here polls =>
      rw [Ledger.foldl_pollEvent]
      refine counted.kept rfl rfl rfl ?_ id
      refine settled ?_ (Nat.le_refl _)
      cases polls <;> simp [goto]
  | retry here unsent =>
      rw [Ledger.foldl_unsent before unsent]
      exact counted
  | giveUp here givesUp =>
      obtain ⟨read, handed, reports⟩ := givesUp.entries before
      exact counted.kept read handed reports
        (settled (by simp [goto]) (Nat.le_refl _)) id
  | terminate =>
      obtain ⟨read, handed⟩ := Ledger.foldl_notification before server.toDataDump
      simp only [List.foldl_cons, Ledger.observe_body]
      refine ⟨?_, by simp⟩
      rw [read, handed, pending_eq_zero (by simp)]
      intro nonempty
      have within := counted.within nonempty
      simp only
      omega

/-- An erasing call of a completed transaction asks for nothing. -/
theorem erasesNothing_of_ack
    (counted : server.Counted (ledger trace))
    {header : TranscationHeader}
    (ack : header.msgType = .blockAck)
    (reported : Nat) :
    ErasesNothing (trace ++ (server.pollEvent ++ [.received header]))
      (.storageErased server.internalBufferLen reported) := by
  refine ⟨?_, by simp⟩
  rintro _ _ same completed nonempty
  obtain ⟨rfl, -⟩ := Event.storageErased.inj same
  rw [ledger_append, List.foldl_append, Ledger.foldl_pollEvent,
    List.foldl_cons, List.foldl_nil, Ledger.observe_ack _ ack]
    at completed nonempty
  have within := counted.within nonempty
  have all := congrArg List.length completed.1
  simp only at all
  omega

theorem Moves.erasesNothing
    (moves : server.Moves env server' events)
    (counted : server.Counted (ledger trace))
    (every : Trace.Every ErasesNothing trace) :
    Trace.Every ErasesNothing (trace ++ events) := by
  apply moves.every every
  · intro before event unaccounted
    exact erasesNothing_of_unaccounted unaccounted
  · intro ackPacket reported here accepts agrees
    exact erasesNothing_of_ack counted accepts.msgType reported
  · refine ⟨by simp, fun success => ?_⟩
    rw [ledger_append]
    exact counted.reported (Event.notified.inj success)

theorem Calls.counted
    (calls : server.Calls server' events)
    (counted : server.Counted (ledger trace)) :
    server'.Counted (ledger (trace ++ events)) := by
  rw [ledger_append, Ledger.foldl_calls _ calls]
  obtain ⟨-, -⟩ := calls
  exact ⟨counted.within, counted.reported⟩

theorem Calls.erasesNothing
    (calls : server.Calls server' events)
    (every : Trace.Every ErasesNothing trace) :
    Trace.Every ErasesNothing (trace ++ events) :=
  calls.every (fun _ => erasesNothing_of_unaccounted trivial)
    (fun _ => erasesNothing_of_unaccounted trivial) every

end Counted

/-- In every run, whatever the locks and callbacks answer, an erasing call of
a completed transaction that read `L ≥ 1` bytes asks for 0 bytes and not for
`L`, and success is notified once storage reported what it was asked for. -/
theorem erase_never_exact
    {parameters : Parameters}
    {heap : Heap}
    {server : DDServer}
    {trace : List Event}
    (reaches : machine.Reaches (fun _ _ _ => True) (new parameters heap)
      server trace) :
    Trace.Every
      (fun before event =>
        (∀ size reported, event = .storageErased size reported →
          (ledger before).Completed → (ledger before).read ≠ [] →
            size = 0 ∧ size ≠ (ledger before).read.length) ∧
        (event = .notified true →
          ∃ size, (size, size) ∈ (ledger before).reports))
      trace := by
  have every : server.Counted (ledger trace) ∧
      Trace.Every ErasesNothing trace := by
    refine invariant_of_reaches reaches
      (fun server trace =>
        server.Counted (ledger trace) ∧ Trace.Every ErasesNothing trace)
      ⟨⟨by simp [ledger], by simp [new]⟩, Trace.every_nil _⟩ ?_
    rintro server trace action server' events sound ⟨counted, every⟩ - steps
    cases steps with
    | fsm moves =>
        exact ⟨moves.counted sound counted, moves.erasesNothing counted every⟩
    | call calls => exact ⟨calls.counted counted, calls.erasesNothing every⟩
  intro before event after split
  obtain ⟨nothing, success⟩ := every.2 before event after split
  refine ⟨?_, success⟩
  intro size reported same completed nonempty
  obtain rfl := nothing size reported same completed nonempty
  exact ⟨rfl, fun zero => nonempty (List.length_eq_zero_iff.mp zero.symm)⟩

/-- The example's transaction up to its notification. -/
def exampleAcknowledged : List Action :=
  exampleTransaction ++ exampleAck

theorem reaches_exampleAcknowledged :
    machine.Reaches (fun _ _ _ => True) (new exampleParameters fun _ _ => 0)
      (exampleRun exampleAcknowledged).1 (exampleRun exampleAcknowledged).2 :=
  Machine.Reaches.execute exampleAcknowledged .start
    (Machine.admitted_of_forall fun _ _ => trivial)

/-- The example's erasing call, which comes after fifteen events. -/
theorem erase_never_exact_example :
    (0 : Nat) ≠
      (ledger ((exampleRun exampleAcknowledged).2.take 15)).read.length :=
  ((erase_never_exact reaches_exampleAcknowledged
    ((exampleRun exampleAcknowledged).2.take 15) (.storageErased 0 0)
    ((exampleRun exampleAcknowledged).2.drop 16) (by decide +kernel)).1 0 0
    rfl (by decide +kernel) (by decide +kernel)).2

/-- A completed transaction of six bytes erases nothing and reports
success. -/
theorem erase_asks_nothing_example :
    ∃ server before after,
      machine.Reaches (fun _ _ _ => True) (new exampleParameters fun _ _ => 0)
        server (before ++ .storageErased 0 0 :: after) ∧
      (ledger before).Completed ∧ (ledger before).read.length = 6 ∧
      .notified true ∈ after := by
  refine ⟨(exampleRun exampleAcknowledged).1,
    (exampleRun exampleAcknowledged).2.take 15,
    (exampleRun exampleAcknowledged).2.drop 16, ?_, by decide +kernel,
    by decide +kernel, by decide +kernel⟩
  have split : (exampleRun exampleAcknowledged).2.take 15 ++
      .storageErased 0 0 :: (exampleRun exampleAcknowledged).2.drop 16 =
        (exampleRun exampleAcknowledged).2 := by decide +kernel
  rw [split]
  exact reaches_exampleAcknowledged

end DDServer

end DataDumpProtocol

import DataDumpProtocol.Base.Transport
import DataDumpProtocol.Library.Machine
import DataDumpProtocol.Machines.Shell

/-!
# Rounds of the send and receive loops

What one round of a loop can end in.  Control packets never carry payload, so
a round that sends one hands over its header and leaves the packet as it was.
-/

namespace DataDumpProtocol

/-- Every frame of these events was refused by `sendCB`. -/
def Unsent (events : List Event) : Prop :=
  ∀ event ∈ events, ∃ frame, event = .sent frame false

@[simp] theorem unsent_nil : Unsent [] := by
  simp [Unsent]

@[simp] theorem unsent_refused (frame : List Byte) :
    Unsent [.sent frame false] := by
  simp [Unsent]

/-- A record that ignores refused frames is the same after them. -/
theorem Unsent.foldl_of_ignored
    {Record : Type}
    {note : Record → Event → Record}
    {events : List Event}
    (unsent : Unsent events)
    (ignored : ∀ record frame, note record (.sent frame false) = record)
    (record : Record) :
    events.foldl note record = record := by
  refine Trace.foldl_eq_self (fun event present record => ?_) record
  obtain ⟨frame, rfl⟩ := unsent event present
  exact ignored record frame

/-- Every frame of these events is this one. -/
def Hands (frame : Option (List Byte)) (events : List Event) : Prop :=
  ∀ bytes accepted, .sent bytes accepted ∈ events → frame = some bytes

@[simp] theorem hands_nil (frame : Option (List Byte)) : Hands frame [] := by
  simp [Hands]

@[simp] theorem hands_sent (frame : List Byte) (accepted : Bool) :
    Hands (some frame) [.sent frame accepted] := by
  simp +contextual [Hands]

/-- The frame that a block packet becomes: nothing without payload. -/
def BlockTxRxPacket.frame (packet : BlockTxRxPacket) (beyond : View) :
    List Byte :=
  if 0#8 < packet.header.dataBufferSize then packet.image beyond 0 else []

namespace DataDump

variable {dump : DataDump} {env : Environment}

/-- How a round of a send loop ends, given the frame that it sends. -/
inductive SendOutcome
    (dump : DataDump)
    (env : Environment)
    (frame : List Byte) : Option Bool → List Event → Prop
  | sent (accepted : env.sendAccepted = true) (sendCB : dump.sendCB = true) :
      SendOutcome dump env frame (some true) [.sent frame true]
  | retried {events : List Event} (unsent : Unsent events)
      (hands : Hands (some frame) events) (running : env.timerExpired = false) :
      SendOutcome dump env frame none events
  | expired {events : List Event} (unsent : Unsent events)
      (hands : Hands (some frame) events) (expired : env.timerExpired = true) :
      SendOutcome dump env frame (some false) events

/-- The two branches of a send loop, for any attempt to send. -/
theorem sendOutcome_of_attempt
    {frame : List Byte}
    {stateRet : Bool}
    {events : List Event}
    (attempt :
      (stateRet = env.sendAccepted ∧ dump.sendCB = true ∧
        events = [.sent frame env.sendAccepted]) ∨
      (stateRet = false ∧ events = [])) :
    dump.SendOutcome env frame
      (if stateRet = false ∧ env.timerExpired = false then none
        else some stateRet)
      events := by
  have failed (unsent : Unsent events) (hands : Hands (some frame) events) :
      dump.SendOutcome env frame
        (if false = false ∧ env.timerExpired = false then none
          else some false)
        events := by
    cases expired : env.timerExpired with
    | false => simpa [expired] using SendOutcome.retried unsent hands expired
    | true => simpa [expired] using SendOutcome.expired unsent hands expired
  rcases attempt with ⟨rfl, sendCB, rfl⟩ | ⟨rfl, rfl⟩
  · cases accepted : env.sendAccepted with
    | true => simpa [accepted] using SendOutcome.sent accepted sendCB
    | false =>
        rw [accepted] at failed
        exact failed (unsent_refused frame) (hands_sent frame false)
  · exact failed unsent_nil (hands_nil frame)

/-- A round of the loop that sends a packet without payload. -/
theorem sendLoop_outcome
    (dump : DataDump)
    (env : Environment)
    {packet : TransactionPacket}
    (empty : packet.header.dataBufferSize = 0#8) :
    ∃ result events,
      dump.sendLoop packet env = (result, packet, events) ∧
      dump.SendOutcome env (controlFrame packet) result events ∧
      (result = some true → 11 ≤ dump.maxPacketSize) := by
  unfold sendLoop
  rw [send_of_empty packet empty]
  by_cases room : 11 ≤ dump.maxPacketSize ∧ dump.sendCB = true
  · have outcome : dump.SendOutcome env (controlFrame packet) _ _ :=
      sendOutcome_of_attempt (.inl ⟨rfl, room.2, rfl⟩)
    refine ⟨_, _, ?_, outcome, fun _ => room.1⟩
    simp only [if_pos room]
    split <;> rfl
  · have outcome : dump.SendOutcome env (controlFrame packet) _ _ :=
      sendOutcome_of_attempt (.inr ⟨rfl, rfl⟩)
    refine ⟨_, _, ?_, outcome, ?_⟩
    · simp only [if_neg room]
      split <;> rfl
    · intro sent
      split at sent <;> simp at sent

/-- A round of the loop that sends a block packet that fits. -/
theorem sendBlockLoop_outcome
    (dump : DataDump)
    (env : Environment)
    {packet : BlockTxRxPacket}
    (fits : packet.getPacketSize ≤ dump.maxPacketSize)
    (byteSized : dump.maxPacketSize < 2 ^ 8) :
    ∃ result events,
      dump.sendBlockLoop packet env = (result, events) ∧
      dump.SendOutcome env (packet.frame env.beyond) result events := by
  have room : 5 ≤ dump.maxPacketSize := by
    simp only [BlockTxRxPacket.getPacketSize,
      BlockTxRxPacket.getHeaderSize_eq] at fits
    omega
  have sent_eq : dump.sendBlock packet (.ofNat 8 packet.getPacketSize) env =
      if dump.sendCB = true then
        (env.sendAccepted,
          [.sent (packet.frame env.beyond) env.sendAccepted])
      else
        (false, []) := by
    unfold BlockTxRxPacket.frame
    by_cases payload : 0#8 < packet.header.dataBufferSize
    · rw [if_pos payload]
      exact sendBlock_of_payload packet payload fits byteSized
    · have zero : packet.header.dataBufferSize = 0#8 := by
        apply BitVec.eq_of_toNat_eq
        simpa [BitVec.lt_def] using payload
      rw [if_neg payload]
      exact sendBlock_of_empty packet zero room
  unfold sendBlockLoop
  rw [sent_eq]
  by_cases sendCB : dump.sendCB = true
  · refine ⟨_, _, ?_, sendOutcome_of_attempt (.inl ⟨rfl, sendCB, rfl⟩)⟩
    simp only [if_pos sendCB]
    split <;> rfl
  · refine ⟨_, _, ?_, sendOutcome_of_attempt (.inr ⟨rfl, rfl⟩)⟩
    simp only [if_neg sendCB]
    split <;> rfl

/-- The call of `notifyCB` that the `TERMINATE` body makes. -/
def notification (dump : DataDump) : List Event :=
  if dump.notifyCB then [.notified dump.isTransferSuccess] else []

@[simp] theorem mem_notification {event : Event} :
    event ∈ dump.notification ↔
      dump.notifyCB = true ∧ event = .notified dump.isTransferSuccess := by
  unfold notification
  split <;> simp_all

@[simp] theorem mem_pollEvent {event : Event} :
    event ∈ dump.pollEvent ↔ dump.recvCB = true ∧ event = .polled := by
  unfold pollEvent
  split <;> simp_all

/-- A record that ignores polls is the same after one. -/
theorem foldl_pollEvent_of_ignored
    {Record : Type}
    {note : Record → Event → Record}
    (ignored : ∀ record, note record .polled = record)
    (record : Record) :
    dump.pollEvent.foldl note record = record := by
  refine Trace.foldl_eq_self (fun event present record => ?_) record
  rw [(mem_pollEvent.mp present).2]
  exact ignored record

/-- A record that ignores notifications is the same after one. -/
theorem foldl_notification_of_ignored
    {Record : Type}
    {note : Record → Event → Record}
    (ignored : ∀ record success, note record (.notified success) = record)
    (record : Record) :
    dump.notification.foldl note record = record := by
  refine Trace.foldl_eq_self (fun event present record => ?_) record
  rw [(mem_notification.mp present).2]
  exact ignored record _

/-- How a round of a receive loop ends. -/
inductive ReceiveOutcome
    (dump : DataDump)
    (env : Environment)
    (accepts : Prop)
    (received : Event) : Option Nat → List Event → Prop
  | polled (rejects : ¬accepts) (running : env.timerExpired = false) :
      ReceiveOutcome dump env accepts received none dump.pollEvent
  | expired (rejects : ¬accepts) (expired : env.timerExpired = true) :
      ReceiveOutcome dump env accepts received (some 0) dump.pollEvent
  | accepted {recvLen : Nat} (accepts' : accepts) (positive : recvLen ≠ 0) :
      ReceiveOutcome dump env accepts received (some recvLen)
        (dump.pollEvent ++ [received])

/-- The outcome is told by the length that `receive` returns. -/
theorem receiveOutcome_of_length
    {env : Environment}
    {accepts : Prop}
    {received : Event}
    {recvLen : Nat}
    (positive : recvLen ≠ 0 ↔ accepts) :
    dump.ReceiveOutcome env accepts received
      (if recvLen = 0 ∧ env.timerExpired = false then none else some recvLen)
      (if recvLen = 0 then dump.pollEvent
        else dump.pollEvent ++ [received]) := by
  by_cases zero : recvLen = 0
  · have rejects : ¬accepts := fun accepts => positive.mpr accepts zero
    cases expired : env.timerExpired with
    | false =>
        have polled : dump.ReceiveOutcome env accepts received none _ :=
          .polled rejects expired
        simpa [zero] using polled
    | true => simpa [zero] using ReceiveOutcome.expired rejects expired
  · simpa [zero] using ReceiveOutcome.accepted (positive.mp zero) zero

theorem receiveLoop_outcome
    (dump : DataDump)
    (packet : TransactionPacket)
    (msgType : MsgType)
    (env : Environment) :
    ∃ result packet' events,
      dump.receiveLoop packet msgType env = (result, packet', events) ∧
      dump.ReceiveOutcome env (dump.Accepts msgType env)
        (.received (dump.polledHeader env)) result events ∧
      (dump.Accepts msgType env →
        packet'.header = dump.polledHeader env) := by
  have positive : (dump.receive packet msgType env).1 ≠ 0 ↔ _ :=
    receive_ne_zero_iff packet msgType
  refine ⟨_, (dump.receive packet msgType env).2, _, ?_,
    receiveOutcome_of_length positive,
    fun accepts => receive_header packet accepts⟩
  unfold receiveLoop
  by_cases zero : (dump.receive packet msgType env).1 = 0
  · simp only [zero]
    split <;> simp_all
  · have header := receive_header packet (positive.mp zero)
    simp [zero, header]

theorem receiveBlockLoop_outcome
    (dump : DataDump)
    (packet : BlockTxRxPacket)
    (msgType : MsgType)
    (env : Environment) :
    ∃ result packet' events,
      dump.receiveBlockLoop packet msgType env = (result, packet', events) ∧
      dump.ReceiveOutcome env (dump.AcceptsBlock msgType env)
        (.blockReceived (dump.polledBlockHeader env)) result events ∧
      (dump.AcceptsBlock msgType env →
        packet' = (dump.receiveBlock packet msgType env).2) := by
  have positive : (dump.receiveBlock packet msgType env).1 ≠ 0 ↔ _ :=
    receiveBlock_ne_zero_iff packet msgType
  refine ⟨_, (dump.receiveBlock packet msgType env).2, _, ?_,
    receiveOutcome_of_length positive, fun _ => rfl⟩
  unfold receiveBlockLoop
  by_cases zero : (dump.receiveBlock packet msgType env).1 = 0
  · simp only [zero]
    split <;> simp_all
  · have header := receiveBlock_header packet (positive.mp zero)
    simp [zero, header]

end DataDump

/-! ## Bodies that begin -/

section BeginsAt

variable {Body : Type} {point : Point Body} {source : Option Pointer}
variable {events : List Event}

/-- A body that begins in a step is observed first, and is the one that the
thread enters. -/
def BeginsAt
    (point : Point Body)
    (source : Option Pointer)
    (events : List Event) : Prop :=
  (∃ state rest, point = .enter state ∧
    events = .body state source :: rest ∧
    ∀ event ∈ rest, event.isBody = false) ∨
  ∀ event ∈ events, event.isBody = false

theorem BeginsAt.enter_of_mem
    (begins : BeginsAt point source events)
    {state : FsmState}
    {buffer : Option Pointer}
    (present : .body state buffer ∈ events) :
    point = .enter state := by
  rcases begins with ⟨entered, rest, here, rfl, none⟩ | none
  · rcases List.mem_cons.mp present with same | inRest
    · obtain ⟨rfl, -⟩ := Event.body.inj same
      exact here
    · simpa [Event.isBody] using none _ inRest
  · simpa [Event.isBody] using none _ present

/-- A property of starting bodies is checked where they are entered. -/
theorem BeginsAt.every
    {right : List Event → Event → Prop}
    {trace : List Event}
    (begins : BeginsAt point source events)
    (every : Trace.Every right trace)
    (other : ∀ before event, event.isBody = false → right before event)
    (begun : ∀ state, point = .enter state →
      right trace (.body state source)) :
    Trace.Every right (trace ++ events) := by
  rcases begins with ⟨state, rest, here, rfl, none⟩ | none
  · have first := Trace.every_concat.mpr ⟨every, begun state here⟩
    have all := first.append_of_forall fun before event present =>
      other before event (none event present)
    simpa using all
  · exact every.append_of_forall fun before event present =>
      other before event (none event present)

end BeginsAt

end DataDumpProtocol

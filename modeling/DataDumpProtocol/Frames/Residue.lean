import DataDumpProtocol.Frames.Acceptance
import DataDumpProtocol.Packet.Truncation

/-!
# What rejected frames leave behind

`receive` decodes into its packet before it checks the crc, and a frame without
payload does not drop the payload of the frame before it.  So the wait loops,
which call `receive` on one packet again and again, can accept a header together
with the payload of a frame that was rejected.
-/

namespace DataDumpProtocol

/-- The message type that a call of `receive` awaits, and what it polls. -/
abbrev Poll := MsgType × Environment

/-! ## Repeated calls -/

section Repeated

variable {Packet : Type} (receive : Packet → Poll → Nat × Packet)

/-- The packet after several calls of `receive` on it. -/
def receiveAll (packet : Packet) (polls : List Poll) : Packet :=
  polls.foldl (fun packet poll => (receive packet poll).2) packet

@[simp] theorem receiveAll_nil (packet : Packet) :
    receiveAll receive packet [] = packet := rfl

@[simp] theorem receiveAll_cons
    (packet : Packet)
    (poll : Poll)
    (polls : List Poll) :
    receiveAll receive packet (poll :: polls) =
      receiveAll receive (receive packet poll).2 polls := rfl

/-- Every one of the calls returns zero. -/
def RejectsAll : Packet → List Poll → Prop
  | _, [] => True
  | packet, poll :: polls =>
      (receive packet poll).1 = 0 ∧ RejectsAll (receive packet poll).2 polls

/-- The calls before the last one make no difference to it. -/
def LeaveNoTrace (fresh : Packet) (polls : List Poll) (last : Poll) : Prop :=
  (receive (receiveAll receive fresh polls) last).2 = (receive fresh last).2

variable {receive}
variable {buffer : Packet → Option (List Byte)}
variable {declares : Poll → Prop} {payload : Poll → List Byte}
variable [DecidablePred declares]

/-- A payload once declared is never dropped. -/
theorem buffer_receiveAll_eq_none_iff
    (replaces : ∀ packet poll, buffer (receive packet poll).2 =
      if declares poll then some (payload poll) else buffer packet)
    (packet : Packet)
    (polls : List Poll) :
    buffer (receiveAll receive packet polls) = none ↔
      buffer packet = none ∧ ∀ poll ∈ polls, ¬declares poll := by
  induction polls generalizing packet with
  | nil => simp
  | cons poll polls inductionHypothesis =>
      rw [receiveAll_cons, inductionHypothesis, replaces, List.forall_mem_cons]
      by_cases declared : declares poll
      · simp [declared]
      · simp [declared]

/-- An accepted frame replaces the header and the payload it declares, so the
calls before it leave their trace in the payload of a frame that declares
none. -/
theorem leaveNoTrace_iff
    {fresh : Packet}
    {last : Poll}
    (replaces : ∀ packet poll, buffer (receive packet poll).2 =
      if declares poll then some (payload poll) else buffer packet)
    (ext_buffer : ∀ packet packet',
      (receive packet last).2 = (receive packet' last).2 ↔
        buffer (receive packet last).2 = buffer (receive packet' last).2)
    (empty : buffer fresh = none)
    (polls : List Poll) :
    LeaveNoTrace receive fresh polls last ↔
      declares last ∨ ∀ poll ∈ polls, ¬declares poll := by
  rw [LeaveNoTrace, ext_buffer, replaces, replaces]
  by_cases declared : declares last
  · simp [declared]
  · simp [declared, empty, buffer_receiveAll_eq_none_iff replaces]

end Repeated

namespace DataDump

/-- The polled frame is of the awaited type. -/
def Typed (dump : DataDump) (poll : Poll) : Prop :=
  dump.delivered poll.2 ≠ [] ∧
    dump.recvByteBuffer poll.2 0 = poll.1.toByte

instance (dump : DataDump) : DecidablePred dump.Typed :=
  fun _ => inferInstanceAs (Decidable (_ ∧ _))

/-! ## Transaction packets -/

section Transaction

variable (dump : DataDump) (packet : TransactionPacket) (poll : Poll)

/-- One call of `receive` on a transaction packet. -/
abbrev receivePoll : Nat × TransactionPacket :=
  dump.receive packet poll.1 poll.2

/-- The polled frame is of the awaited type and declares a payload. -/
def Declares : Prop :=
  dump.Typed poll ∧ 0#8 < (dump.polledHeader poll.2).dataBufferSize

instance : DecidablePred dump.Declares :=
  fun _ => inferInstanceAs (Decidable (_ ∧ _))

/-- The payload that the polled frame declares. -/
def polledPayload : List Byte :=
  (dump.recvByteBuffer poll.2).bytes 11
    (dump.polledHeader poll.2).dataBufferSize.toNat

/-- The packet holds already what the polled frame decodes to. -/
def Holds : Prop :=
  packet.header = dump.polledHeader poll.2 ∧
    (dump.Declares poll → packet.buffer = some (dump.polledPayload poll))

theorem header_receivePoll :
    (dump.receivePoll packet poll).2.header =
      if dump.Typed poll then dump.polledHeader poll.2 else packet.header := by
  by_cases typed : dump.Typed poll
  · simp [receivePoll, receive, receiveWith_snd, typed.1, typed.2, typed,
      decoded, polledHeader]
  · have same : (dump.receivePoll packet poll).2 = packet :=
      receiveWith_snd.trans (if_neg typed)
    rw [same, if_neg typed]

theorem buffer_receivePoll :
    (dump.receivePoll packet poll).2.buffer =
      if dump.Declares poll then some (dump.polledPayload poll)
      else packet.buffer := by
  simp only [receivePoll, receive, receiveWith_snd, Declares, Typed]
  split
  next typed =>
    simp only [decoded, TransactionPacket.deserialize_buffer, ne_eq, typed,
      not_false_eq_true, and_self, true_and]
    rfl
  next other => simp [other]

/-- A call of `receive` leaves the packet when the frame is of another type,
or decodes to what the packet holds. -/
theorem receivePoll_eq_self_iff :
    (dump.receivePoll packet poll).2 = packet ↔
      (dump.Typed poll → dump.Holds packet poll) := by
  rw [TransactionPacket.ext_iff, header_receivePoll, buffer_receivePoll]
  by_cases typed : dump.Typed poll
  · by_cases declared : dump.Declares poll
    · simp [typed, declared, Holds, eq_comm]
    · simp [typed, declared, Holds, eq_comm]
  · have none : ¬dump.Declares poll := fun declared => typed declared.1
    simp [typed, none]

end Transaction

/-! ## Block packets -/

section Block

variable (dump : DataDump) (packet : BlockTxRxPacket) (poll : Poll)

/-- One call of `receive` on a block packet. -/
abbrev receiveBlockPoll : Nat × BlockTxRxPacket :=
  dump.receiveBlock packet poll.1 poll.2

/-- The polled frame is of the awaited type and declares a payload. -/
def DeclaresBlock : Prop :=
  dump.Typed poll ∧ 0#8 < (dump.polledBlockHeader poll.2).dataBufferSize

instance : DecidablePred dump.DeclaresBlock :=
  fun _ => inferInstanceAs (Decidable (_ ∧ _))

/-- The payload that the polled frame declares. -/
def polledBlockPayload : List Byte :=
  (dump.recvByteBuffer poll.2).bytes 5
    (dump.polledBlockHeader poll.2).dataBufferSize.toNat

/-- The packet holds already what the polled frame decodes to. -/
def HoldsBlock : Prop :=
  packet.header = dump.polledBlockHeader poll.2 ∧
    (dump.DeclaresBlock poll →
      packet.buffer = some (dump.polledBlockPayload poll))

theorem header_receiveBlockPoll :
    (dump.receiveBlockPoll packet poll).2.header =
      if dump.Typed poll then dump.polledBlockHeader poll.2
      else packet.header := by
  by_cases typed : dump.Typed poll
  · simp [receiveBlockPoll, receiveBlock, receiveWith_snd, typed.1, typed.2,
      typed, decoded, polledBlockHeader]
  · have same : (dump.receiveBlockPoll packet poll).2 = packet :=
      receiveWith_snd.trans (if_neg typed)
    rw [same, if_neg typed]

theorem buffer_receiveBlockPoll :
    (dump.receiveBlockPoll packet poll).2.buffer =
      if dump.DeclaresBlock poll then some (dump.polledBlockPayload poll)
      else packet.buffer := by
  simp only [receiveBlockPoll, receiveBlock, receiveWith_snd, DeclaresBlock,
    Typed]
  split
  next typed =>
    simp only [decoded, BlockTxRxPacket.deserialize_buffer, ne_eq, typed,
      not_false_eq_true, and_self, true_and]
    rfl
  next other => simp [other]

theorem receiveBlockPoll_eq_self_iff :
    (dump.receiveBlockPoll packet poll).2 = packet ↔
      (dump.Typed poll → dump.HoldsBlock packet poll) := by
  rw [BlockTxRxPacket.ext_iff, header_receiveBlockPoll,
    buffer_receiveBlockPoll]
  by_cases typed : dump.Typed poll
  · by_cases declared : dump.DeclaresBlock poll
    · simp [typed, declared, HoldsBlock, eq_comm]
    · simp [typed, declared, HoldsBlock, eq_comm]
  · have none : ¬dump.DeclaresBlock poll := fun declared => typed declared.1
    simp [typed, none]

end Block

/-! ## The condition -/

/-- Rejected frames leave no trace in a packet that then accepts a frame
exactly when that frame, or none of them, declares a payload.  A single
rejected frame leaves none exactly when it is of another type, or the packet
holds already what it decodes to. -/
theorem rejected_leave_no_trace_iff (dump : DataDump) :
    (∀ (polls : List Poll) (last : Poll),
      RejectsAll dump.receivePoll {} polls →
      (dump.receivePoll (receiveAll dump.receivePoll {} polls) last).1 ≠ 0 →
      (LeaveNoTrace dump.receivePoll {} polls last ↔
        dump.Declares last ∨ ∀ poll ∈ polls, ¬dump.Declares poll)) ∧
    (∀ packet poll, (dump.receivePoll packet poll).1 = 0 →
      ((dump.receivePoll packet poll).2 = packet ↔
        (dump.Typed poll → dump.Holds packet poll))) ∧
    (∀ (polls : List Poll) (last : Poll),
      RejectsAll dump.receiveBlockPoll {} polls →
      (dump.receiveBlockPoll (receiveAll dump.receiveBlockPoll {} polls)
        last).1 ≠ 0 →
      (LeaveNoTrace dump.receiveBlockPoll {} polls last ↔
        dump.DeclaresBlock last ∨ ∀ poll ∈ polls, ¬dump.DeclaresBlock poll)) ∧
    (∀ packet poll, (dump.receiveBlockPoll packet poll).1 = 0 →
      ((dump.receiveBlockPoll packet poll).2 = packet ↔
        (dump.Typed poll → dump.HoldsBlock packet poll))) := by
  refine ⟨fun polls last _ accepted => ?_,
    fun packet poll _ => dump.receivePoll_eq_self_iff packet poll,
    fun polls last _ accepted => ?_,
    fun packet poll _ => dump.receiveBlockPoll_eq_self_iff packet poll⟩
  · have typed : dump.Typed last := by
      have accepts := (receive_ne_zero_iff _ _).1 accepted
      exact ⟨accepts.1, accepts.2.1⟩
    apply leaveNoTrace_iff dump.buffer_receivePoll _ rfl
    intro packet packet'
    simp [TransactionPacket.ext_iff, header_receivePoll, typed]
  · have typed : dump.Typed last := by
      have accepts := (receiveBlock_ne_zero_iff _ _).1 accepted
      exact ⟨accepts.1, accepts.2.1⟩
    apply leaveNoTrace_iff dump.buffer_receiveBlockPoll _ rfl
    intro packet packet'
    simp [BlockTxRxPacket.ext_iff, header_receiveBlockPoll, typed]

/-- A block frame with payload leaves no trace when the frame accepted after it
has a payload of its own. -/
theorem replaced_payload_example :
    LeaveNoTrace exampleReceiver.receiveBlockPoll {}
      [(.blockTransfer, { incoming := [4, 1, 1, 0, 1, 9] })]
      (.blockTransfer, { incoming := [4, 1, 0, 0, 1, 7] }) := by
  have rejects : RejectsAll exampleReceiver.receiveBlockPoll {}
      [(.blockTransfer, { incoming := [4, 1, 1, 0, 1, 9] })] :=
    ⟨by decide, trivial⟩
  have exactly := (rejected_leave_no_trace_iff exampleReceiver).2.2.1 _
    (.blockTransfer, { incoming := [4, 1, 0, 0, 1, 7] }) rejects (by decide)
  exact exactly.2 (.inl (by decide))

/-- A block frame with a wrong crc leaves its payload to the accepted frame
without payload. -/
theorem kept_payload_example :
    ¬∀ (polls : List Poll) (last : Poll),
      RejectsAll exampleReceiver.receiveBlockPoll {} polls →
      (exampleReceiver.receiveBlockPoll
        (receiveAll exampleReceiver.receiveBlockPoll {} polls) last).1 ≠ 0 →
      LeaveNoTrace exampleReceiver.receiveBlockPoll {} polls last := by
  intro leaveNoTrace
  have same := leaveNoTrace
    [(.blockTransfer, { incoming := [4, 1, 1, 0, 1, 9] })]
    (.blockTransfer, { incoming := [4, 1, 0, 0, 0] })
    ⟨by decide, trivial⟩ (by decide)
  have buffer := congrArg BlockTxRxPacket.buffer same
  exact absurd buffer (by decide)

end DataDump

end DataDumpProtocol

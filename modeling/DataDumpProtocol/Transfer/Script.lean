import DataDumpProtocol.Frames.RoundTrip
import DataDumpProtocol.Library.Bridge
import DataDumpProtocol.Network.Terms

/-!
# What a first transfer sends

A fresh client asks a fresh server for its data.  As long as nothing fails,
each side follows a script: the client sends a request, an initiate message and
an acknowledgement, and the server a response and blocks that carry the data
from the first byte to the last.
-/

namespace DataDumpProtocol

/-- A first transfer: two parties that fit each other, the caller's buffer and
what storage holds. -/
structure FirstTransfer where
  client : Parameters
  server : Parameters
  buffer : Pointer
  size : Nat
  data : List Byte
  clientCallbacks : client.sendCB = true ∧ client.recvCB = true ∧
    client.appStatusCB = true
  serverCallbacks : server.sendCB = true ∧ server.recvCB = true ∧
    server.storageRead = true ∧ server.appStatusCB = true
  transactionID : client.transactionID ≠ 0#32
  clientBlocks : 1 ≤ client.blocksPerTransaction.toNat ∧
    client.blocksPerTransaction.toNat ≤ 127
  serverBlocks : 1 ≤ server.blocksPerTransaction.toNat ∧
    server.blocksPerTransaction.toNat ≤ 127
  packetlen : 11 ≤ server.maxPacketlen.toNat ∧
    server.maxPacketlen.toNat ≤ client.maxPacketlen.toNat
  nonempty : 1 ≤ data.length
  bounded : data.length ≤ (server.maxPacketlen.toNat - 5) *
    min client.blocksPerTransaction.toNat server.blocksPerTransaction.toNat
  fits : data.length ≤ size

namespace FirstTransfer

/-- The terms that both sides derive from the parameters. -/
def agreed (transfer : FirstTransfer) : Terms :=
  transfer.client.config.terms.agreed transfer.server.config.terms

theorem maxBlocksPerTransaction_agreed (transfer : FirstTransfer) :
    transfer.agreed.maxBlocksPerTransaction.toNat =
      min transfer.client.blocksPerTransaction.toNat
        transfer.server.blocksPerTransaction.toNat := by
  have bound := transfer.client.blocksPerTransaction.isLt
  change (BitVec.ofNat 8 (min _ _)).toNat = _
  rw [BitVec.toNat_ofNat]
  exact Nat.mod_eq_of_lt ((Nat.min_le_left _ _).trans_lt bound)

/-- The client's script: the places are the number of its messages. -/
inductive Asks (transfer : FirstTransfer) : Nat → List Byte → Nat → Prop
  | request {bytes : List Byte}
      (control : IsControl bytes .request transfer.client.config.terms) :
      Asks transfer 0 bytes 1
  | initiate {bytes : List Byte}
      (control : IsControl bytes .initiateBlockTransfer transfer.agreed) :
      Asks transfer 1 bytes 2
  | ack {bytes : List Byte}
      (control : IsControl bytes .blockAck
        (DDClient.ackTerms transfer.client.transactionID)) :
      Asks transfer 2 bytes 3

/-- A block with the data from this position on. -/
structure Slice
    (transfer : FirstTransfer)
    (position : Nat)
    (header : BlockHeader)
    (payload : List Byte) : Prop where
  crc : header.crc = 0#16
  size : header.dataBufferSize.toNat = payload.length
  nonempty : payload ≠ []
  room : 5 + payload.length ≤ transfer.server.maxPacketlen.toNat
  slice : payload = (transfer.data.drop position).take payload.length
  within : position + payload.length ≤ transfer.data.length
  last : header.getContinueBit = .terminateTransfer ↔
    position + payload.length = transfer.data.length

/-- The server's script: behind the response, the places are the positions in
the data. -/
inductive Answers (transfer : FirstTransfer) : Nat → List Byte → Nat → Prop
  | response {bytes : List Byte}
      (control : IsControl bytes .response transfer.agreed) :
      Answers transfer 0 bytes 1
  | block {position : Nat} {header : BlockHeader} {payload : List Byte}
      (slice : transfer.Slice position header payload) :
      Answers transfer (1 + position) (blockFrame header payload)
        (1 + (position + payload.length))

section Scripts

variable {transfer : FirstTransfer} {here there : Nat} {bytes : List Byte}

theorem Asks.lt (asks : transfer.Asks here bytes there) : here < there := by
  cases asks <;> omega

theorem Answers.lt (answers : transfer.Answers here bytes there) :
    here < there := by
  cases answers with
  | response => omega
  | block slice =>
      have some_ := List.length_pos_iff.mpr slice.nonempty
      omega

theorem Asks.ne_nil (asks : transfer.Asks here bytes there) : bytes ≠ [] := by
  cases asks with
  | request control | initiate control | ack control =>
      obtain ⟨packet, -, rfl⟩ := control
      simp [DataDump.controlFrame]

theorem Answers.ne_nil (answers : transfer.Answers here bytes there) :
    bytes ≠ [] := by
  cases answers with
  | response control =>
      obtain ⟨packet, -, rfl⟩ := control
      simp [DataDump.controlFrame]
  | block => simp [blockFrame]

/-- The client's script ends with the acknowledgement. -/
theorem Asks.last (asks : transfer.Asks here bytes 3) :
    IsControl bytes .blockAck
      (DDClient.ackTerms transfer.client.transactionID) := by
  cases asks with
  | ack control => exact control

/-- The server's script begins with the response. -/
theorem Answers.first (answers : transfer.Answers 0 bytes there) :
    IsControl bytes .response transfer.agreed ∧ there = 1 := by
  generalize first : 0 = here at answers
  cases answers with
  | response control => exact ⟨control, rfl⟩
  | block => omega

/-- Behind the response come blocks. -/
theorem Answers.next
    {position : Nat}
    (answers : transfer.Answers (1 + position) bytes there) :
    ∃ header payload, bytes = blockFrame header payload ∧
      transfer.Slice position header payload ∧
      there = 1 + (position + payload.length) := by
  generalize behind : 1 + position = here at answers
  cases answers with
  | response => omega
  | @block position' header payload slice =>
      obtain rfl : position' = position := by omega
      exact ⟨header, payload, rfl, slice, rfl⟩

end Scripts

end FirstTransfer

/-! ## Following a script -/

/-- Where a side stands: the place in its own script up to which it has sent,
the place in the other side's script up to which it has heard, and whether the
application was notified. -/
structure Standing where
  sent : Nat
  heard : Nat
  finished : Bool

/-- What a step shows to the outside when it leads from one standing to
another, given the place behind the frame that waits. -/
structure Follows
    (leads : Nat → List Byte → Nat → Prop)
    (env : Environment)
    (reached : Nat)
    (standing standing' : Standing)
    (events : List Event) : Prop where
  sends : (standing'.sent = standing.sent ∧
      ∀ bytes, .sent bytes true ∉ events) ∨
    ∃ bytes, events = [.sent bytes true] ∧
      leads standing.sent bytes standing'.sent
  hears : standing'.heard =
    if .polled ∈ events ∧ env.incoming ≠ [] then reached else standing.heard
  notifies : ∀ status, .notified status ∈ events →
    status = true ∧ standing'.finished = true
  finishes : standing'.finished = true ↔
    standing.finished = true ∨ .notified true ∈ events

section Follows

variable {leads : Nat → List Byte → Nat → Prop}
variable {env : Environment} {reached : Nat}
variable {standing standing' : Standing} {events : List Event}

/-- A step that shows nothing. -/
theorem follows_of_quiet
    (same : standing' = standing)
    (unsent : ∀ bytes, .sent bytes true ∉ events)
    (unheard : .polled ∈ events → env.incoming = [])
    (unnotified : ∀ status, .notified status ∉ events) :
    Follows leads env reached standing standing' events where
  sends := .inl ⟨congrArg Standing.sent same, unsent⟩
  hears := by
    rw [same, if_neg]
    exact fun heard => heard.2 (unheard heard.1)
  notifies status notified := absurd notified (unnotified status)
  finishes := by simp [same, unnotified]

/-- A step that sends the next message of the script. -/
theorem follows_of_sent
    {bytes : List Byte}
    (next : leads standing.sent bytes standing'.sent)
    (hears : standing'.heard = standing.heard)
    (finished : standing'.finished = standing.finished) :
    Follows leads env reached standing standing' [.sent bytes true] where
  sends := .inr ⟨bytes, rfl, next⟩
  hears := by simp [hears]
  notifies := by simp
  finishes := by simp [finished]

/-- A step that accepts what waits. -/
theorem follows_of_heard
    {dump : DataDump}
    (recvCB : dump.recvCB = true)
    (incoming : env.incoming ≠ [])
    (sends : standing'.sent = standing.sent)
    (hears : standing'.heard = reached)
    (finished : standing'.finished = standing.finished)
    (unsent : ∀ bytes, .sent bytes true ∉ events)
    (unnotified : ∀ status, .notified status ∉ events) :
    Follows leads env reached standing standing' (dump.pollEvent ++ events) where
  sends := .inl ⟨sends, by simp [unsent]⟩
  hears := by
    rw [if_pos ⟨by simp [recvCB], incoming⟩]
    exact hears
  notifies := by simp [unnotified]
  finishes := by simp [finished, unnotified]

/-- Refused frames show nothing. -/
theorem Unsent.follows (unsent : Unsent events) :
    Follows leads env reached standing standing events := by
  have silent {event : Event} (present : event ∈ events) :
      ∃ frame, event = .sent frame false := unsent event present
  refine follows_of_quiet rfl (fun bytes sent => ?_) (fun polled => ?_)
    fun status notified => ?_
  · simpa using silent sent
  · simpa using silent polled
  · simpa using silent notified

end Follows

end DataDumpProtocol

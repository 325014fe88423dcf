import DataDumpProtocol.Base.Transport
import DataDumpProtocol.Packet.Codec

/-!
# Whole frames or nothing

Both `send` functions take the packet's size as a byte.  The one for transaction
packets does not look at what `serialize` returned, and the one for block packets
passes it on as the length.  Here they are compared with a `send` that hands over
the whole encoding of a packet, or nothing.
-/

namespace DataDumpProtocol

/-- The wire format of a block packet: type, fields and payload. -/
def BlockTxRxPacket.wireBytes (packet : BlockTxRxPacket) : List Byte :=
  packet.header.msgType.toByte :: (packet.header.fieldBytes ++ packet.payload)

/-- The bytes that `serialize` leaves in a buffer of zeros that has room for
the packet. -/
def TransactionPacket.serialized (packet : TransactionPacket) : List Byte :=
  (packet.serialize (fun _ => 0) (some 0) packet.getPacketSize).2.2.bytes 0
    packet.getPacketSize

/-- The bytes that `serialize` leaves in a buffer of zeros that has room for
the packet. -/
def BlockTxRxPacket.serialized
    (packet : BlockTxRxPacket)
    (beyond : View) : List Byte :=
  (packet.serialize beyond (fun _ => 0) (some 0) packet.getPacketSize).2.bytes
    0 packet.getPacketSize

namespace TransactionPacket

/-- `serialize` writes the header wherever the packet fits. -/
theorem serialize_memory
    (packet : TransactionPacket)
    (memory : View)
    (address : Nat)
    {len : Nat}
    (fits : packet.getPacketSize ≤ len) :
    (packet.serialize memory (some address) len).2.2 =
      packet.written memory address := by
  by_cases positive : 0#8 < packet.header.dataBufferSize
  · rw [packet.serialize_of_payload memory address positive fits]
  · have empty : packet.header.dataBufferSize = 0#8 := by
      simpa [BitVec.pos_iff_ne_zero] using positive
    have room : headerSize ≤ len := by
      simp only [getPacketSize] at fits
      omega
    rw [packet.serialize_of_empty memory address len empty room]
    rfl

theorem serialized_eq (packet : TransactionPacket) :
    packet.serialized =
      packet.header.typeByte 0 :: (packet.header.fieldBytes ++
        List.replicate packet.header.dataBufferSize.toNat 0) := by
  have zeros (length : Nat) :
      View.bytes (fun _ => 0) (0 + headerSize) length =
        List.replicate length 0 := by
    simp [View.bytes]
  rw [serialized, packet.serialize_memory _ _ (Nat.le_refl _), getPacketSize,
    bytes_written, zeros]

/-- The encoding is serialized exactly when there is nothing to write but the
header, and its type is one that is written. -/
theorem serialized_eq_wireBytes_iff
    {packet : TransactionPacket}
    (declared : packet.header.dataBufferSize.toNat = packet.payload.length) :
    packet.serialized = packet.wireBytes ↔
      packet.header.msgType ≠ .blockAckNot ∧
        ∀ byte ∈ packet.payload, byte = 0#8 := by
  have type : packet.header.typeByte 0 = packet.header.msgType.toByte ↔
      packet.header.msgType ≠ .blockAckNot := by
    unfold TranscationHeader.typeByte
    cases packet.header.msgType <;> decide
  rw [serialized_eq, wireBytes, List.cons.injEq, List.append_cancel_left_eq,
    type, declared, eq_comm (b := packet.payload), List.eq_replicate_iff]
  simp

end TransactionPacket

namespace BlockTxRxPacket

/-- The image of a packet that holds its declared payload. -/
theorem image_eq
    {packet : BlockTxRxPacket}
    (declared : packet.header.dataBufferSize.toNat = packet.payload.length)
    (beyond : View)
    (before : Byte) :
    packet.image beyond before =
      packet.header.typeByte before ::
        (packet.header.fieldBytes ++ packet.payload) := by
  have whole := View.bytes_ofList packet.payload beyond 0
    packet.payload.length (by omega)
  rw [List.drop_zero, List.take_length] at whole
  rw [image, copiedFromBuffer, declared]
  exact congrArg _ (congrArg _ whole)

/-- A written image is the encoding unless its type is not written. -/
theorem image_eq_wireBytes_iff
    {packet : BlockTxRxPacket}
    (declared : packet.header.dataBufferSize.toNat = packet.payload.length)
    (beyond : View) :
    packet.image beyond 0 = packet.wireBytes ↔
      packet.header.msgType ≠ .blockAckNot := by
  rw [image_eq declared, wireBytes, List.cons.injEq]
  unfold BlockHeader.typeByte
  cases packet.header.msgType <;> simp [MsgType.toByte]

/-- What is serialized of a packet with payload is its image. -/
theorem serialized_of_payload
    (packet : BlockTxRxPacket)
    (beyond : View)
    (payload : 0#8 < packet.header.dataBufferSize) :
    packet.serialized beyond = packet.image beyond 0 := by
  have written := View.bytes_write (fun _ => 0) 0 (packet.image beyond 0)
  rw [length_image] at written
  rw [serialized, packet.serialize_of_payload beyond _ 0 _ payload
    (Nat.le_refl _)]
  exact written

end BlockTxRxPacket

namespace DataDump

variable (dump : DataDump) (env : Environment)

/-- What `send` is meant to do with a packet, given its size, its encoding and
what `serialize` makes of it: to hand over the encoding if it fits and is what
was serialized, and nothing otherwise. -/
def sentWhole
    (size : Nat)
    (wireBytes serialized : List Byte) : Bool × List Event :=
  if size ≤ dump.maxPacketSize ∧ serialized = wireBytes ∧
      dump.sendCB = true then
    (env.sendAccepted, [.sent wireBytes env.sendAccepted])
  else
    (false, [])

/-- `send`, called with the packet's size, hands over the whole packet or
nothing. -/
def SendsWhole (packet : TransactionPacket) : Prop :=
  ((dump.send packet (.ofNat 8 packet.getPacketSize) env).1,
      (dump.send packet (.ofNat 8 packet.getPacketSize) env).2.2) =
    dump.sentWhole env packet.getPacketSize packet.wireBytes packet.serialized

/-- `send` for block packets hands over the whole packet or nothing. -/
def SendsWholeBlock (packet : BlockTxRxPacket) : Prop :=
  dump.sendBlock packet (.ofNat 8 packet.getPacketSize) env =
    dump.sentWhole env packet.getPacketSize packet.wireBytes
      (packet.serialized env.beyond)

variable {dump env}

/-- What has to be decided for a packet that fits and for one that does not. -/
theorem sentWhole_iff
    {size : Nat}
    {wireBytes serialized : List Byte}
    {result : Bool × List Event}
    {good : Prop}
    (byteSized : dump.maxPacketSize < 2 ^ 8)
    (fitting : size ≤ dump.maxPacketSize → dump.sendCB = true →
      (result = dump.sentWhole env size wireBytes serialized ↔ good))
    (tooLong : dump.maxPacketSize < size → dump.sendCB = true →
      (result = (false, []) ↔ dump.maxPacketSize < size % 2 ^ 8))
    (silent : dump.sendCB = false → result = (false, [])) :
    result = dump.sentWhole env size wireBytes serialized ↔
      dump.sendCB = false ∨ dump.maxPacketSize < size % 2 ^ 8 ∨
        (size ≤ dump.maxPacketSize ∧ good) := by
  cases given : dump.sendCB with
  | false => simp [sentWhole, given, silent given]
  | true =>
      by_cases fits : size ≤ dump.maxPacketSize
      · have same : size % 2 ^ 8 = size := Nat.mod_eq_of_lt (by omega)
        rw [fitting fits given, same]
        simp [fits]
      · have beyond := Nat.lt_of_not_le fits
        have nothing : dump.sentWhole env size wireBytes serialized =
            (false, []) := if_neg fun whole => fits whole.1
        rw [nothing, tooLong beyond given]
        simp [fits]

/-- A frame that is handed over is what was meant if it is the encoding, and
that was serialized. -/
theorem sent_eq_sentWhole_iff
    {size : Nat}
    {wireBytes serialized frame : List Byte}
    (fits : size ≤ dump.maxPacketSize)
    (sendCB : dump.sendCB = true) :
    (env.sendAccepted, [Event.sent frame env.sendAccepted]) =
        dump.sentWhole env size wireBytes serialized ↔
      serialized = wireBytes ∧ frame = wireBytes := by
  by_cases same : serialized = wireBytes
  · simp [sentWhole, fits, sendCB, same]
  · simp [sentWhole, same]

/-! ## The condition -/

theorem sendsWhole_iff
    {packet : TransactionPacket}
    (byteSized : dump.maxPacketSize < 2 ^ 8)
    (declared : packet.header.dataBufferSize.toNat = packet.payload.length) :
    dump.SendsWhole env packet ↔
      dump.sendCB = false ∨
        dump.maxPacketSize < packet.getPacketSize % 2 ^ 8 ∨
        (packet.getPacketSize ≤ dump.maxPacketSize ∧
          packet.header.msgType ≠ .blockAckNot ∧
          ∀ byte ∈ packet.payload, byte = 0#8) := by
  apply sentWhole_iff byteSized
  · intro fits sendCB
    have size_eq : packet.getPacketSize % 2 ^ 8 = packet.getPacketSize :=
      Nat.mod_eq_of_lt (by omega)
    have sent : ((dump.send packet (.ofNat 8 packet.getPacketSize) env).1,
        (dump.send packet (.ofNat 8 packet.getPacketSize) env).2.2) =
          (env.sendAccepted,
            [Event.sent packet.serialized env.sendAccepted]) := by
      simp only [send, BitVec.toNat_ofNat, size_eq, Nat.not_lt.mpr fits,
        if_false, sendCB, fits, decide_true, Bool.and_self, if_true]
      rfl
    rw [sent, sent_eq_sentWhole_iff fits sendCB, and_self,
      TransactionPacket.serialized_eq_wireBytes_iff declared]
  · intro tooLong sendCB
    by_cases refused : dump.maxPacketSize < packet.getPacketSize % 2 ^ 8
    · simp only [send, BitVec.toNat_ofNat, if_pos refused]
      exact iff_of_true trivial refused
    · simp only [send, BitVec.toNat_ofNat, if_neg refused, sendCB,
        Nat.le_of_not_lt refused, decide_true, Bool.and_self, if_true]
      exact iff_of_false (by simp) refused
  · intro sendCB
    simp only [send, sendCB]
    split <;> rfl

theorem sendsWholeBlock_iff
    {packet : BlockTxRxPacket}
    (byteSized : dump.maxPacketSize < 2 ^ 8)
    (declared : packet.header.dataBufferSize.toNat = packet.payload.length) :
    dump.SendsWholeBlock env packet ↔
      dump.sendCB = false ∨
        dump.maxPacketSize < packet.getPacketSize % 2 ^ 8 ∨
        (packet.getPacketSize ≤ dump.maxPacketSize ∧
          packet.header.msgType ≠ .blockAckNot ∧ packet.payload ≠ []) := by
  apply sentWhole_iff byteSized
  · intro fits sendCB
    by_cases empty : packet.payload = []
    · -- `serialize` returns zero, and no byte is handed over.
      have zero : packet.header.dataBufferSize = 0#8 := by
        apply BitVec.eq_of_toNat_eq
        rw [declared, empty]
        rfl
      have room : 5 ≤ dump.maxPacketSize := by
        simp only [BlockTxRxPacket.getPacketSize,
          BlockTxRxPacket.getHeaderSize_eq] at fits
        omega
      rw [sendBlock_of_empty packet zero room, if_pos sendCB,
        sent_eq_sentWhole_iff fits sendCB]
      simp [BlockTxRxPacket.wireBytes, empty]
    · have payload : 0#8 < packet.header.dataBufferSize := by
        rw [BitVec.lt_def, declared]
        exact List.length_pos_iff.mpr empty
      rw [sendBlock_of_payload packet payload fits byteSized, if_pos sendCB,
        sent_eq_sentWhole_iff fits sendCB,
        packet.serialized_of_payload _ payload, and_self,
        BlockTxRxPacket.image_eq_wireBytes_iff declared]
      simp [empty]
  · intro tooLong sendCB
    by_cases refused : dump.maxPacketSize < packet.getPacketSize % 2 ^ 8
    · simp only [sendBlock, BitVec.toNat_ofNat, if_pos refused]
      exact iff_of_true trivial refused
    · -- `serialize` finds no room, and no byte is handed over.
      simp only [sendBlock, BitVec.toNat_ofNat, if_neg refused,
        packet.serialize_of_tooLong _ _ 0 _ tooLong, sendCB]
      exact iff_of_false (by simp) refused
  · intro sendCB
    simp only [sendBlock, sendCB]
    split <;> rfl

/-- Both `send` functions hand over whole packets or nothing exactly when there
is no `sendCB`, or the size passed as a byte is too long still, or the packet
fits, its type is written, and its payload is what gets there: zeros of a
transaction packet, and at least one byte of a block packet. -/
theorem send_whole_iff
    (dump : DataDump)
    (env : Environment)
    (byteSized : dump.maxPacketSize < 2 ^ 8) :
    (∀ packet : TransactionPacket,
      packet.header.dataBufferSize.toNat = packet.payload.length →
      (dump.SendsWhole env packet ↔
        dump.sendCB = false ∨
          dump.maxPacketSize < packet.getPacketSize % 2 ^ 8 ∨
          (packet.getPacketSize ≤ dump.maxPacketSize ∧
            packet.header.msgType ≠ .blockAckNot ∧
            ∀ byte ∈ packet.payload, byte = 0#8))) ∧
    (∀ packet : BlockTxRxPacket,
      packet.header.dataBufferSize.toNat = packet.payload.length →
      (dump.SendsWholeBlock env packet ↔
        dump.sendCB = false ∨
          dump.maxPacketSize < packet.getPacketSize % 2 ^ 8 ∨
          (packet.getPacketSize ≤ dump.maxPacketSize ∧
            packet.header.msgType ≠ .blockAckNot ∧ packet.payload ≠ []))) :=
  ⟨fun _ declared => sendsWhole_iff byteSized declared,
    fun _ declared => sendsWholeBlock_iff byteSized declared⟩

/-- A sender with all callbacks and room for sixteen bytes. -/
def exampleSender : DataDump where
  maxPacketSize := 16
  sendCB := true
  recvCB := true
  consumerCB := true
  notifyCB := true

/-- A block of one byte is handed over whole. -/
theorem block_sent_whole_example :
    exampleSender.SendsWholeBlock {}
      { header := { msgType := .blockTransfer, dataBufferSize := 1 }
        buffer := some [7] } :=
  ((send_whole_iff exampleSender {} (by decide)).2 _ rfl).2 (by decide)

/-- A request with a payload is handed over with a zero in its place. -/
theorem payload_sent_as_zero_example :
    ¬exampleSender.SendsWhole {}
      { header := { msgType := .request, dataBufferSize := 1 }
        buffer := some [7] } := by
  rw [sendsWhole_iff (by decide) rfl]
  decide

end DataDump

end DataDumpProtocol

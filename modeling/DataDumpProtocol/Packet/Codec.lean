import DataDumpProtocol.Packet.BlockPacket
import DataDumpProtocol.Packet.TransactionPacket

/-!
# Serializing and deserializing whole packets

A block packet goes through its codec without loss, in both directions.  A
transaction packet loses its payload: `serialize` fills the packet from its
destination instead of the destination from the packet, and it reports a packet
without payload as not written.  So it round-trips only when the destination
holds already what it leaves out.
-/

namespace DataDumpProtocol

open LittleEndian

/-! ## Transaction packets -/

namespace TransactionPacket

/-- The payload of a packet. -/
def payload (packet : TransactionPacket) : List Byte :=
  packet.buffer.getD []

/-- The wire format of a packet: type, fields and payload. -/
def wireBytes (packet : TransactionPacket) : List Byte :=
  packet.header.msgType.toByte ::
    (packet.header.fieldBytes ++ packet.payload)

/-- `serialize` writes the wire format and leaves the packet alone, and
`deserialize` reads the packet back from it. -/
def WritesWhole
    (packet : TransactionPacket)
    (memory : View)
    (address len : Nat) : Prop :=
  ∃ written,
    packet.serialize memory (some address) len =
        (packet.getPacketSize, packet, written) ∧
      written.bytes address packet.getPacketSize = packet.wireBytes ∧
      ∀ target : TransactionPacket, ∃ received : TransactionPacket,
        target.deserialize written (some address) packet.getPacketSize =
            (true, received) ∧
          received.header = packet.header ∧
          received.payload = packet.payload

/-- The codec round-trips in a destination of `len` bytes: it writes the whole
packet if it fits, and nothing otherwise. -/
def RoundTrips
    (packet : TransactionPacket)
    (memory : View)
    (address len : Nat) : Prop :=
  (packet.getPacketSize ≤ len → packet.WritesWhole memory address len) ∧
    (len < packet.getPacketSize →
      packet.serialize memory (some address) len = (0, packet, memory))

/-- The destination holds already what `serialize` does not write: the
payload, and the type byte of a `BLOCK_ACKNOT`. -/
def Prefilled
    (packet : TransactionPacket)
    (memory : View)
    (address : Nat) : Prop :=
  memory.bytes (address + headerSize) packet.payload.length =
      packet.payload ∧
    (packet.header.msgType = .blockAckNot →
      memory address = packet.header.msgType.toByte)

instance (packet : TransactionPacket) (memory : View) (address : Nat) :
    Decidable (packet.Prefilled memory address) :=
  inferInstanceAs (Decidable (_ ∧ _))

section Written

variable (packet : TransactionPacket) (memory : View) (address : Nat)

/-- The destination behind the header conversions. -/
def written : View :=
  memory.write address
    (packet.header.typeByte (memory address) :: packet.header.fieldBytes)

theorem bytes_written_behind (length : Nat) :
    (packet.written memory address).bytes (address + headerSize) length =
      memory.bytes (address + headerSize) length := by
  apply View.bytes_congr
  intro i _
  exact View.write_of_outside memory (by simp)

theorem bytes_written (length : Nat) :
    (packet.written memory address).bytes address (headerSize + length) =
      packet.header.typeByte (memory address) ::
        (packet.header.fieldBytes ++
          memory.bytes (address + headerSize) length) := by
  have behind := View.bytes_write_append memory address
    (packet.header.typeByte (memory address) :: packet.header.fieldBytes) length
  simpa [written] using behind

/-- A packet with payload is written as its header, and takes its payload from
behind it. -/
theorem serialize_of_payload
    {len : Nat}
    (positive : 0#8 < packet.header.dataBufferSize)
    (fits : packet.getPacketSize ≤ len) :
    packet.serialize memory (some address) len =
      (packet.getPacketSize,
        { packet with
          buffer := some (memory.bytes (address + headerSize)
            packet.header.dataBufferSize.toNat) },
        packet.written memory address) := by
  have behind := packet.bytes_written_behind memory address
    packet.header.dataBufferSize.toNat
  have positive' : 0 < packet.header.dataBufferSize.toNat := positive
  simp only [written] at behind ⊢
  simp only [serialize, if_neg (Nat.not_lt.mpr fits),
    TranscationHeader.writeAll_writers, if_pos positive', setBuffer,
    if_pos positive, behind]

/-- The header stands in the destination with the type byte it finds or
writes. -/
theorem decode_written :
    TranscationHeader.decode (packet.written memory address) address =
      { packet.header with
        msgType := .ofByte (packet.header.typeByte (memory address)) } := by
  apply TranscationHeader.decode_of_bytes
  simpa using packet.bytes_written memory address 0

end Written

theorem serialize_of_tooLong
    (packet : TransactionPacket)
    (memory : View)
    (address len : Nat)
    (tooLong : len < packet.getPacketSize) :
    packet.serialize memory (some address) len = (0, packet, memory) := by
  simp [serialize, tooLong]

section RoundTrips

variable {packet : TransactionPacket} {memory : View} {address len : Nat}

theorem buffer_of_payload (nonempty : packet.payload ≠ []) :
    packet.buffer = some packet.payload := by
  cases buffer : packet.buffer with
  | none => simp [payload, buffer] at nonempty
  | some contents => simp [payload, buffer]

variable (declared :
  packet.header.dataBufferSize.toNat = packet.payload.length)

include declared

theorem positive_iff :
    0#8 < packet.header.dataBufferSize ↔ packet.payload ≠ [] := by
  rw [BitVec.lt_def, declared, ← List.length_pos_iff]
  rfl

/-- What is left out must be there already. -/
theorem prefilled_of_writesWhole
    (fits : packet.getPacketSize ≤ len)
    (whole : packet.WritesWhole memory address len) :
    packet.payload ≠ [] ∧ packet.Prefilled memory address := by
  obtain ⟨written', serialized, image, -⟩ := whole
  have nonempty : packet.payload ≠ [] := by
    intro empty
    have size : packet.header.dataBufferSize = 0#8 := by
      apply BitVec.eq_of_toNat_eq
      rw [declared, empty]
      rfl
    rw [serialize_of_empty packet memory address len size
      (by simp [getPacketSize] at fits ⊢; omega)] at serialized
    have size_eq := congrArg Prod.fst serialized
    simp [getPacketSize] at size_eq
    omega
  rw [packet.serialize_of_payload memory address
    ((positive_iff declared).mpr nonempty) fits] at serialized
  simp only [Prod.mk.injEq, true_and] at serialized
  obtain ⟨same, rfl⟩ := serialized
  refine ⟨nonempty, ?_, fun ackNot => ?_⟩
  · have buffer := congrArg payload same
    rw [← declared]
    exact buffer
  · rw [getPacketSize, bytes_written] at image
    have type := (List.cons.inj image).1
    rwa [TranscationHeader.typeByte, if_pos ackNot] at type

/-- And then nothing is missing. -/
theorem writesWhole_of_prefilled
    (fits : packet.getPacketSize ≤ len)
    (nonempty : packet.payload ≠ [])
    (prefilled : packet.Prefilled memory address) :
    packet.WritesWhole memory address len := by
  obtain ⟨payload_eq, type_eq⟩ := prefilled
  have positive := (positive_iff declared).mpr nonempty
  have type : packet.header.typeByte (memory address) =
      packet.header.msgType.toByte := by
    unfold TranscationHeader.typeByte
    split
    next ackNot => exact type_eq ackNot
    next => rfl
  have header := packet.decode_written memory address
  rw [type, MsgType.ofByte_toByte] at header
  refine ⟨packet.written memory address, ?_, ?_, fun target => ?_⟩
  · rw [packet.serialize_of_payload memory address positive fits, declared,
      payload_eq, ← buffer_of_payload nonempty]
  · rw [getPacketSize, bytes_written, declared, payload_eq, type, wireBytes]
  · refine ⟨(target.deserialize (packet.written memory address)
      (some address) packet.getPacketSize).2, ?_, ?_, ?_⟩
    · refine Prod.ext ?_ rfl
      rw [deserialize_fst, header]
      simpa using positive
    · rw [deserialize_header, header]
    · have behind := packet.bytes_written_behind memory address
        packet.payload.length
      rw [headerSize_eq] at behind payload_eq
      rw [payload, deserialize_buffer, header, if_pos positive, declared,
        behind, payload_eq, Option.getD_some]

/-- The codec round-trips exactly when the packet does not fit, or has a
payload and finds what `serialize` leaves out in the destination. -/
theorem roundTrips_iff :
    packet.RoundTrips memory address len ↔
      (packet.getPacketSize ≤ len →
        packet.payload ≠ [] ∧ packet.Prefilled memory address) := by
  constructor
  · intro roundTrips fits
    exact prefilled_of_writesWhole declared fits (roundTrips.1 fits)
  · intro prefilled
    refine ⟨fun fits => ?_, serialize_of_tooLong packet memory address len⟩
    obtain ⟨nonempty, filled⟩ := prefilled fits
    exact writesWhole_of_prefilled declared fits nonempty filled

end RoundTrips

/-- A request that finds its payload of one byte in the destination. -/
theorem roundTrips_prefilled :
    ({ header := { msgType := .request, dataBufferSize := 1 }
       buffer := some [7] } : TransactionPacket).RoundTrips
      (fun _ => 7) 0 12 :=
  (roundTrips_iff rfl).mpr (by decide)

/-- A request that finds another byte there takes it for its payload. -/
theorem not_roundTrips_blank :
    ¬({ header := { msgType := .request, dataBufferSize := 1 }
        buffer := some [7] } : TransactionPacket).RoundTrips
      (fun _ => 0) 0 12 := by
  intro roundTrips
  have prefilled := prefilled_of_writesWhole rfl (by decide)
    (roundTrips.1 (by decide))
  exact absurd prefilled (by decide)

end TransactionPacket

/-! ## Block packets -/

namespace BlockTxRxPacket

/-- The payload of a packet. -/
def payload (packet : BlockTxRxPacket) : List Byte :=
  packet.buffer.getD []

/-- The packet is of the type whose codec is at issue, and its payload has the
declared size. -/
structure IsBlock (packet : BlockTxRxPacket) : Prop where
  msgType : packet.header.msgType = .blockTransfer
  declared : packet.header.dataBufferSize.toNat = packet.payload.length
  nonempty : packet.payload ≠ []

section Lossless

variable {packet : BlockTxRxPacket}

/-- Only the packet's own bytes are copied. -/
theorem IsBlock.copiedFromBuffer
    (isBlock : packet.IsBlock)
    (beyond : View) :
    packet.copiedFromBuffer beyond packet.header.dataBufferSize.toNat =
      packet.payload := by
  have whole := View.bytes_ofList packet.payload beyond 0
    packet.payload.length (by omega)
  rw [List.drop_zero, List.take_length] at whole
  rw [BlockTxRxPacket.copiedFromBuffer, isBlock.declared]
  exact whole

theorem IsBlock.positive (isBlock : packet.IsBlock) :
    0#8 < packet.header.dataBufferSize := by
  rw [BitVec.lt_def, isBlock.declared]
  exact List.length_pos_iff.mpr isBlock.nonempty

/-- The frame of a block packet: type, fields and payload. -/
theorem IsBlock.image_eq
    (isBlock : packet.IsBlock)
    (beyond : View)
    (before : Byte) :
    packet.image beyond before =
      MsgType.blockTransfer.toByte ::
        (packet.header.fieldBytes ++ packet.payload) := by
  rw [image, isBlock.copiedFromBuffer beyond, BlockHeader.typeByte,
    isBlock.msgType, if_neg (by simp)]

/-- What is read from the frame of a block packet is the packet. -/
theorem IsBlock.deserialize_image
    (isBlock : packet.IsBlock)
    {memory : View}
    {address : Nat}
    (image : memory.bytes address packet.getPacketSize =
      MsgType.blockTransfer.toByte ::
        (packet.header.fieldBytes ++ packet.payload))
    (target : BlockTxRxPacket)
    (len : Nat) :
    target.deserialize memory (some address) len = (true, packet) := by
  rw [getPacketSize, View.bytes_add, ← List.cons_append] at image
  obtain ⟨front, behind⟩ := List.append_inj image (by simp)
  have header := BlockHeader.decode_of_bytes front
  rw [MsgType.ofByte_toByte, ← isBlock.msgType] at header
  have buffer : packet.buffer = some packet.payload := by
    cases buffer : packet.buffer with
    | none => exact absurd (by simp [payload, buffer]) isBlock.nonempty
    | some contents => simp [payload, buffer]
  have fst := target.deserialize_fst memory address len
  have received_header := target.deserialize_header memory address len
  have received_buffer := target.deserialize_buffer memory address len
  rw [getHeaderSize_eq] at behind
  rw [header, if_pos isBlock.positive, behind, ← buffer] at received_buffer
  rw [header] at received_header fst
  apply Prod.ext (by rw [fst]; simpa using isBlock.positive)
  calc (target.deserialize memory (some address) len).2
    _ = ⟨(target.deserialize memory (some address) len).2.header,
          (target.deserialize memory (some address) len).2.buffer⟩ := rfl
    _ = packet := by rw [received_header, received_buffer]

/-- Every byte string with the type and the length of a block frame is the
frame of the packet that is read from it. -/
theorem isBlock_deserialize
    {memory : View}
    {address : Nat}
    (type : memory address = MsgType.blockTransfer.toByte)
    (nonempty : 0#8 < memory (address + 4))
    (target : BlockTxRxPacket)
    (len : Nat) :
    (target.deserialize memory (some address) len).2.IsBlock ∧
      (target.deserialize memory (some address) len).2.header =
        .decode memory address ∧
      (target.deserialize memory (some address) len).2.payload =
        memory.bytes (address + 5) (memory (address + 4)).toNat := by
  have size : (BlockHeader.decode memory address).dataBufferSize =
      memory (address + 4) := by
    simp [BlockHeader.decode, fromBytes]
  have header := target.deserialize_header memory address len
  have buffer := target.deserialize_buffer memory address len
  rw [size, if_pos nonempty] at buffer
  have payload_eq : (target.deserialize memory (some address) len).2.payload =
      memory.bytes (address + 5) (memory (address + 4)).toNat := by
    rw [payload, buffer, Option.getD_some]
  refine ⟨⟨?_, ?_, ?_⟩, header, payload_eq⟩
  · rw [header, BlockHeader.decode, type, MsgType.ofByte_toByte]
  · rw [header, size, payload_eq, View.length_bytes]
  · rw [payload_eq, ← List.length_pos_iff, View.length_bytes]
    exact nonempty

/-- A block packet that fits is written in full and read back, and one that
does not fit is not written. -/
theorem IsBlock.deserialize_serialize
    (isBlock : packet.IsBlock)
    (beyond memory : View)
    (address len : Nat) :
    (5 + packet.payload.length ≤ len →
      ∃ written,
        packet.serialize beyond memory (some address) len =
            (5 + packet.payload.length, written) ∧
          (∀ i, address + (5 + packet.payload.length) ≤ i →
            written i = memory i) ∧
          ∀ target : BlockTxRxPacket,
            target.deserialize written (some address)
              (5 + packet.payload.length) = (true, packet)) ∧
    (len < 5 + packet.payload.length →
      packet.serialize beyond memory (some address) len = (0, memory)) := by
  have size : packet.getPacketSize = 5 + packet.payload.length := by
    rw [getPacketSize, isBlock.declared, getHeaderSize_eq]
  rw [← size]
  refine ⟨fun fits => ?_,
    serialize_of_tooLong packet beyond memory address len⟩
  have serialized := serialize_of_payload packet beyond memory address len
    isBlock.positive fits
  have length := packet.length_image beyond (memory address)
  refine ⟨_, serialized, fun i behind => ?_, fun target => ?_⟩
  · exact View.write_of_outside memory (.inr (by omega))
  · apply isBlock.deserialize_image
    rw [← isBlock.image_eq beyond (memory address), ← length]
    exact View.bytes_write memory address _

/-- A frame of a block is written again from the packet that is read of it. -/
theorem serialize_deserialize
    {frame : List Byte}
    {size : Byte}
    (length : frame.length = 5 + size.toNat)
    (type : frame[0]? = some MsgType.blockTransfer.toByte)
    (declared : frame[4]? = some size)
    (positive : 0#8 < size)
    (behind beyond memory : View)
    (address len : Nat)
    (target : BlockTxRxPacket)
    (fits : frame.length ≤ len) :
    ∃ received,
      target.deserialize (View.ofList frame behind) (some 0) frame.length =
          (true, received) ∧
        received.serialize beyond memory (some address) len =
          (frame.length, memory.write address frame) := by
  have stands (i : Nat) : View.ofList frame behind i =
      frame[i]?.getD (behind i) := rfl
  have type_eq : View.ofList frame behind 0 =
      MsgType.blockTransfer.toByte := by
    rw [stands, type, Option.getD_some]
  have size_eq : View.ofList frame behind (0 + 4) = size := by
    rw [stands, declared, Option.getD_some]
  have whole : (View.ofList frame behind).bytes 0 frame.length = frame := by
    rw [View.bytes_ofList _ _ _ _ (by omega), List.drop_zero,
      List.take_length]
  obtain ⟨isBlock, header, payload_eq⟩ := isBlock_deserialize type_eq
    (by rwa [size_eq]) target frame.length
  have first := target.deserialize_fst (View.ofList frame behind) 0
    frame.length
  rw [size_eq] at payload_eq
  rw [← header] at first
  refine ⟨(target.deserialize (View.ofList frame behind) (some 0)
    frame.length).2, ?_, ?_⟩
  · exact Prod.ext (first.trans (decide_eq_true isBlock.positive)) rfl
  generalize (target.deserialize (View.ofList frame behind) (some 0)
    frame.length).2 = received at isBlock header payload_eq
  have packetSize : received.getPacketSize = frame.length := by
    rw [getPacketSize, isBlock.declared, payload_eq, View.length_bytes,
      length, getHeaderSize_eq]
  have image : received.image beyond (memory address) = frame := by
    calc received.image beyond (memory address)
      _ = (View.ofList frame behind).bytes 0 (1 + (4 + size.toNat)) := by
          rw [isBlock.image_eq, header, BlockHeader.fieldBytes_decode,
            payload_eq, ← type_eq, View.bytes_add, View.bytes_add]
          rfl
      _ = frame := by
          rw [← Nat.add_assoc, ← length, whole]
  rw [serialize_of_payload received beyond memory address len
    isBlock.positive (by omega), packetSize, image]

/-- The codec of block packets loses nothing: a packet is read back from what
was written for it, and a frame is written again from what was read of it. -/
theorem codec_lossless :
    (∀ packet : BlockTxRxPacket, packet.IsBlock →
      ∀ (beyond memory : View) (address len : Nat),
        (5 + packet.payload.length ≤ len →
          ∃ written,
            packet.serialize beyond memory (some address) len =
                (5 + packet.payload.length, written) ∧
              (∀ i, address + (5 + packet.payload.length) ≤ i →
                written i = memory i) ∧
              ∀ target : BlockTxRxPacket,
                target.deserialize written (some address)
                  (5 + packet.payload.length) = (true, packet)) ∧
        (len < 5 + packet.payload.length →
          packet.serialize beyond memory (some address) len = (0, memory))) ∧
    (∀ (frame : List Byte) (size : Byte),
      frame.length = 5 + size.toNat →
      frame[0]? = some MsgType.blockTransfer.toByte →
      frame[4]? = some size →
      0#8 < size →
      ∀ (behind beyond memory : View) (address len : Nat)
        (target : BlockTxRxPacket),
        frame.length ≤ len →
        ∃ received,
          target.deserialize (View.ofList frame behind) (some 0)
              frame.length = (true, received) ∧
            received.serialize beyond memory (some address) len =
              (frame.length, memory.write address frame)) :=
  ⟨fun _ isBlock => isBlock.deserialize_serialize,
    fun _ _ length type declared positive =>
      serialize_deserialize length type declared positive⟩

/-- The last block of a transaction, with frame number 1 and payload 7. -/
def exampleBlock : BlockTxRxPacket where
  header := { msgType := .blockTransfer, blockMetadata := 1, dataBufferSize := 1 }
  buffer := some [7]

/-- That packet is written and read back, and so is its frame. -/
theorem codec_lossless_example :
    (∃ written,
      exampleBlock.serialize (fun _ => 0) (fun _ => 0) (some 0) 6 =
          (6, written) ∧
        (∀ i, 0 + 6 ≤ i → written i = 0) ∧
        ∀ target : BlockTxRxPacket,
          target.deserialize written (some 0) 6 = (true, exampleBlock)) ∧
    ∃ received,
      ({} : BlockTxRxPacket).deserialize
          (View.ofList [4, 1, 0, 0, 1, 7] fun _ => 0) (some 0) 6 =
          (true, received) ∧
        received.serialize (fun _ => 0) (fun _ => 0) (some 0) 6 =
          (6, View.write (fun _ => 0) 0 [4, 1, 0, 0, 1, 7]) :=
  ⟨(codec_lossless.1 exampleBlock ⟨rfl, rfl, by decide⟩ _ _ 0 6).1 (by decide),
    codec_lossless.2 [4, 1, 0, 0, 1, 7] 1 rfl rfl rfl (by decide) _ _ _ 0 6 {}
      (by decide)⟩

end Lossless

end BlockTxRxPacket

end DataDumpProtocol

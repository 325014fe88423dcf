import DataDumpProtocol.Library.Machine
import DataDumpProtocol.Packet.Truncation

/-!
# Declared sizes

The size field of a header and the payload are changed by different calls.  A
packet is followed from its constructor through any calls of `setBuffer`,
`setHeader`, `deserialize` and `serialize`, and the calls that leave the field
and the payload in agreement are told from those that do not.
-/

namespace DataDumpProtocol

/-- The declared size counts the bytes that are held, and is zero exactly when
the buffer is `NULL`. -/
def SizeMatches
    (declared : DataBufferSize)
    (buffer : Option (List Byte)) : Prop :=
  declared.toNat = (buffer.getD []).length ∧ (declared = 0#8 ↔ buffer = none)

namespace SizeMatches

variable {declared : DataBufferSize} {buffer : Option (List Byte)}

@[simp] theorem none_iff : SizeMatches declared none ↔ declared = 0#8 := by
  constructor
  · rintro ⟨-, zero⟩
    exact zero.2 rfl
  · rintro rfl
    exact ⟨rfl, by simp⟩

/-- A copy of as many bytes as are declared. -/
@[simp] theorem copied_iff (memory : View) (address : Nat) :
    SizeMatches declared (some (memory.bytes address declared.toNat)) ↔
      0#8 < declared := by
  simp [SizeMatches, BitVec.pos_iff_ne_zero]

/-- The payload that is held leaves one size to declare. -/
theorem declare_iff
    (sizeMatches : SizeMatches declared buffer)
    (other : DataBufferSize) :
    SizeMatches other buffer ↔ other = declared := by
  constructor
  · intro otherMatches
    exact BitVec.eq_of_toNat_eq (otherMatches.1.trans sizeMatches.1.symm)
  · rintro rfl
    exact sizeMatches

end SizeMatches

/-! ## Calls on a packet -/

/-- The calls that can change a packet.  `Fields` are the arguments of
`setHeader`. -/
inductive PacketCall (Fields : Type)
  | setBuffer (memory : View) (inBuffer : Option Nat) (length : DataBufferSize)
  | setHeader (fields : Fields)
  | deserialize (memory : View) (ptr : Option Nat) (len : Nat)
  | serialize (memory : View) (ptr : Option Nat) (len : Nat)

/-- What both packet classes have in common: a declared size, a buffer, and
calls that treat the two alike. -/
structure PacketClass (Packet Fields : Type) where
  declared : Packet → DataBufferSize
  buffer : Packet → Option (List Byte)
  /-- The packet after a call. -/
  call : Packet → PacketCall Fields → Packet
  /-- What `serialize` returns and writes, with the given memory behind the
  packet's buffer. -/
  written : Packet → View → View → Option Nat → Nat → Nat × View
  /-- The size among the arguments of `setHeader`. -/
  sizeArgument : Fields → DataBufferSize
  /-- Where the size field stands in a frame. -/
  sizeOffset : Nat
  sized_setBuffer : ∀ packet memory inBuffer length,
    SizeMatches (declared packet) (buffer packet) →
      SizeMatches (declared (call packet (.setBuffer memory inBuffer length)))
        (buffer (call packet (.setBuffer memory inBuffer length)))
  declared_setHeader : ∀ packet fields,
    declared (call packet (.setHeader fields)) = sizeArgument fields
  buffer_setHeader : ∀ packet fields,
    buffer (call packet (.setHeader fields)) = buffer packet
  deserialize_none : ∀ packet memory len,
    call packet (.deserialize memory none len) = packet
  declared_deserialize : ∀ packet memory address len,
    declared (call packet (.deserialize memory (some address) len)) =
      memory (address + sizeOffset)
  buffer_deserialize : ∀ packet memory address len,
    buffer (call packet (.deserialize memory (some address) len)) =
      if 0#8 < memory (address + sizeOffset) then
        some (memory.bytes (address + (sizeOffset + 1))
          (memory (address + sizeOffset)).toNat)
      else buffer packet
  sized_serialize : ∀ packet memory ptr len,
    SizeMatches (declared packet) (buffer packet) →
      SizeMatches (declared (call packet (.serialize memory ptr len)))
        (buffer (call packet (.serialize memory ptr len)))
  written_of_sized : ∀ packet beyond beyond' memory ptr len,
    SizeMatches (declared packet) (buffer packet) →
      written packet beyond memory ptr len =
        written packet beyond' memory ptr len

namespace PacketClass

variable {Packet Fields : Type}
variable (packetClass : PacketClass Packet Fields)

/-- A packet under a sequence of calls. -/
def machine : Machine Packet (PacketCall Fields) Empty where
  step packet call := (packetClass.call packet call, [])

/-- The declared size is that of the payload, and `serialize` copies no byte
from behind it. -/
def Sized (packet : Packet) : Prop :=
  SizeMatches (packetClass.declared packet) (packetClass.buffer packet) ∧
    ∀ beyond beyond' memory ptr len,
      packetClass.written packet beyond memory ptr len =
        packetClass.written packet beyond' memory ptr len

/-- A constructor that gave a packet holding the payload it was given, and
calls that kept its declared size right throughout. -/
def SizesMatch
    (built : Option Packet)
    (payload : Option (List Byte))
    (calls : List (PacketCall Fields)) : Prop :=
  ∃ packet ∈ built,
    (∀ bytes ∈ payload, packetClass.buffer packet = some bytes) ∧
      packetClass.machine.Throughout
        (fun packet _ => packetClass.Sized packet) packet [] calls

/-- The calls that keep the size right: `setHeader` has to repeat it, and a
frame without payload must not meet a packet that holds one. -/
def KeepsSize (packet : Packet) : PacketCall Fields → Prop
  | .setHeader fields =>
      packetClass.sizeArgument fields = packetClass.declared packet
  | .deserialize memory ptr _ =>
      ∀ address ∈ ptr, memory (address + packetClass.sizeOffset) = 0#8 →
        packetClass.buffer packet = none
  | _ => True

theorem sized_iff (packet : Packet) :
    packetClass.Sized packet ↔
      SizeMatches (packetClass.declared packet)
        (packetClass.buffer packet) := by
  constructor
  · exact And.left
  · intro sizeMatches
    exact ⟨sizeMatches, fun beyond beyond' memory ptr len =>
      packetClass.written_of_sized packet beyond beyond' memory ptr len
        sizeMatches⟩

/-- What one call does to the size. -/
theorem sized_call_iff
    {packet : Packet}
    (sized : packetClass.Sized packet)
    (call : PacketCall Fields) :
    packetClass.Sized (packetClass.call packet call) ↔
      packetClass.KeepsSize packet call := by
  rw [sized_iff] at sized ⊢
  cases call with
  | setBuffer memory inBuffer length =>
      exact iff_of_true
        (packetClass.sized_setBuffer packet memory inBuffer length sized)
        trivial
  | setHeader fields =>
      rw [packetClass.declared_setHeader, packetClass.buffer_setHeader]
      exact sized.declare_iff _
  | deserialize memory ptr len =>
      cases ptr with
      | none => simpa [packetClass.deserialize_none, KeepsSize] using sized
      | some address =>
          simp only [packetClass.declared_deserialize,
            packetClass.buffer_deserialize, KeepsSize, Option.mem_def,
            Option.some.injEq, forall_eq']
          by_cases positive : 0#8 < memory (address + packetClass.sizeOffset)
          · have nonzero := (BitVec.pos_iff_ne_zero _).mp positive
            simp [positive, nonzero]
          · have zero : memory (address + packetClass.sizeOffset) = 0#8 := by
              simpa [BitVec.pos_iff_ne_zero] using positive
            rw [if_neg positive, zero]
            constructor
            · intro empty _
              exact empty.2.1 rfl
            · intro empty
              rw [empty rfl, SizeMatches.none_iff]
  | serialize memory ptr len =>
      exact iff_of_true
        (packetClass.sized_serialize packet memory ptr len sized) trivial

/-- From a packet of the right size, the size stays right exactly when every
call keeps it. -/
theorem throughout_sized_iff
    {packet : Packet}
    (sized : packetClass.Sized packet)
    (calls : List (PacketCall Fields)) :
    packetClass.machine.Throughout
        (fun packet _ => packetClass.Sized packet) packet [] calls ↔
      packetClass.machine.Admitted
        (fun packet _ call => packetClass.KeepsSize packet call)
        packet [] calls := by
  apply Machine.throughout_iff_admitted _ sized
  intro packet _ call sized
  exact packetClass.sized_call_iff sized call

theorem sizesMatch_iff
    (built : Option Packet)
    (payload : Option (List Byte))
    (calls : List (PacketCall Fields)) :
    packetClass.SizesMatch built payload calls ↔
      ∃ packet ∈ built,
        (∀ bytes ∈ payload, packetClass.buffer packet = some bytes) ∧
          SizeMatches (packetClass.declared packet)
            (packetClass.buffer packet) ∧
          packetClass.machine.Admitted
            (fun packet _ call => packetClass.KeepsSize packet call)
            packet [] calls := by
  constructor
  · rintro ⟨packet, isBuilt, holds, sizes⟩
    have sized := sizes.initial
    exact ⟨packet, isBuilt, holds, sized.1,
      (packetClass.throughout_sized_iff sized calls).1 sizes⟩
  · rintro ⟨packet, isBuilt, holds, sizeMatches, keep⟩
    have sized := (packetClass.sized_iff packet).2 sizeMatches
    exact ⟨packet, isBuilt, holds,
      (packetClass.throughout_sized_iff sized calls).2 keep⟩

end PacketClass

/-! ## Transaction packets -/

namespace TransactionPacket

/-- The two constructors, with their arguments. -/
inductive Construction
  | plain
  | fields
      (msgType : MsgType)
      (transactionID : TransactionId)
      (crc : Crc)
      (blocksPerTransaction : BlocksPerTransaction)
      (maxSizeofBlock : MaxPacketLen)
      (ackTimeout : AckTimeout)
      (memory : View)
      (buffer : Option Nat)
      (bufferSize : DataBufferSize)

namespace Construction

/-- The packet that is built, if there is one. -/
def build : Construction → Option TransactionPacket
  | plain => some {}
  | fields msgType transactionID crc blocks size timeout _ buffer bufferSize =>
      TransactionPacket.construct msgType transactionID crc blocks size timeout
        buffer bufferSize

/-- The size among the arguments. -/
def bufferSize : Construction → DataBufferSize
  | plain => 0
  | fields _ _ _ _ _ _ _ _ bufferSize => bufferSize

/-- The payload that the arguments hand over. -/
def payload : Construction → Option (List Byte)
  | fields _ _ _ _ _ _ memory (some address) bufferSize =>
      if 0#8 < bufferSize then some (memory.bytes address bufferSize.toNat)
      else none
  | _ => none

theorem payload_of_empty
    {construction : Construction}
    (empty : construction.bufferSize = 0#8) :
    construction.payload = none := by
  unfold payload
  split
  next => simp_all [bufferSize]
  next => rfl

/-- What is built declares the size it was given and holds nothing. -/
theorem of_mem_build
    {construction : Construction}
    {packet : TransactionPacket}
    (isBuilt : packet ∈ construction.build) :
    packet.header.dataBufferSize = construction.bufferSize ∧
      packet.buffer = none := by
  cases construction with
  | plain =>
      obtain rfl : {} = packet := by simpa [build] using isBuilt
      exact ⟨rfl, rfl⟩
  | fields msgType transactionID crc blocks size timeout _ buffer bufferSize =>
      simp only [build, construct, Option.mem_def] at isBuilt
      split at isBuilt
      · cases isBuilt
      · obtain rfl := Option.some.inj isBuilt
        exact ⟨rfl, rfl⟩

theorem build_of_empty
    {construction : Construction}
    (empty : construction.bufferSize = 0#8) :
    ∃ packet, packet ∈ construction.build := by
  cases construction with
  | plain => exact ⟨{}, rfl⟩
  | fields => simp_all [build, construct, bufferSize]

end Construction

theorem sized_setBuffer
    {packet : TransactionPacket}
    (sized : SizeMatches packet.header.dataBufferSize packet.buffer)
    (memory : View)
    (inBuffer : Option Nat)
    (length : DataBufferSize) :
    SizeMatches
      (packet.setBuffer memory inBuffer length).2.header.dataBufferSize
      (packet.setBuffer memory inBuffer length).2.buffer := by
  cases inBuffer with
  | none => exact sized
  | some address =>
      by_cases positive : 0#8 < length
      · simp [setBuffer, positive]
      · simpa [setBuffer, positive] using sized

theorem sized_serialize
    {packet : TransactionPacket}
    (sized : SizeMatches packet.header.dataBufferSize packet.buffer)
    (memory : View)
    (ptr : Option Nat)
    (len : Nat) :
    SizeMatches
      (packet.serialize memory ptr len).2.1.header.dataBufferSize
      (packet.serialize memory ptr len).2.1.buffer := by
  cases ptr with
  | none => exact sized
  | some address =>
      simp only [serialize, TranscationHeader.writeAll_writers]
      by_cases tooLong : len < packet.getPacketSize
      · simpa [tooLong] using sized
      · by_cases payload : 0 < packet.header.dataBufferSize.toNat
        · -- The payload is set from the destination, at its own size.
          have positive : 0#8 < packet.header.dataBufferSize := payload
          simp [tooLong, payload, setBuffer, positive]
        · simpa [tooLong, payload] using sized

/-- The calls of `TransactionPacket`.  What `setHeader` is given is all of a
header, and `serialize` copies nothing out of the packet's buffer. -/
def packetClass : PacketClass TransactionPacket TranscationHeader where
  declared packet := packet.header.dataBufferSize
  buffer packet := packet.buffer
  call
    | packet, .setBuffer memory inBuffer length =>
        (packet.setBuffer memory inBuffer length).2
    | packet, .setHeader fields =>
        packet.setHeader fields.msgType fields.transactionID fields.crc
          fields.dataBufferSize fields.maxBlocksPerTransaction
          fields.maxPacketlen fields.maxACKTimeout
    | packet, .deserialize memory ptr len =>
        (packet.deserialize memory ptr len).2
    | packet, .serialize memory ptr len =>
        (packet.serialize memory ptr len).2.1
  written packet _ memory ptr len :=
    ((packet.serialize memory ptr len).1, (packet.serialize memory ptr len).2.2)
  sizeArgument fields := fields.dataBufferSize
  sizeOffset := 10
  sized_setBuffer _ memory inBuffer length sized :=
    sized_setBuffer sized memory inBuffer length
  declared_setHeader _ _ := rfl
  buffer_setHeader _ _ := rfl
  deserialize_none _ _ _ := rfl
  declared_deserialize packet memory address len := by
    rw [packet.deserialize_header, TranscationHeader.dataBufferSize_decode]
  buffer_deserialize packet memory address len := by
    rw [packet.deserialize_buffer, TranscationHeader.dataBufferSize_decode]
  sized_serialize _ memory ptr len sized :=
    sized_serialize sized memory ptr len
  written_of_sized _ _ _ _ _ _ _ := rfl

end TransactionPacket

/-! ## Block packets -/

/-- The arguments of the block packet's `setHeader`. -/
structure BlockHeaderFields where
  msgType : MsgType
  frameNumber : FrameNumber
  continueBit : ContinueBit
  crc : Crc
  bufferSize : DataBufferSize

namespace BlockTxRxPacket

theorem sized_setBuffer
    {packet : BlockTxRxPacket}
    (sized : SizeMatches packet.header.dataBufferSize packet.buffer)
    (memory : View)
    (inBuffer : Option Nat)
    (length : DataBufferSize) :
    SizeMatches
      (packet.setBuffer memory inBuffer length).2.header.dataBufferSize
      (packet.setBuffer memory inBuffer length).2.buffer := by
  cases inBuffer with
  | none => exact sized
  | some address =>
      rw [packet.setBuffer_snd]
      split
      next positive => simpa using positive
      next => exact sized

/-- Copying as many bytes as the packet holds copies its own. -/
theorem copiedFromBuffer_of_held
    {packet : BlockTxRxPacket}
    {size : Nat}
    (held : size ≤ (packet.buffer.getD []).length)
    (beyond : View) :
    packet.copiedFromBuffer beyond size =
      (packet.buffer.getD []).take size := by
  rw [copiedFromBuffer, View.bytes_ofList _ _ _ _ (by omega), List.drop_zero]

/-- The calls of `blockTxRxPacket`. -/
def packetClass : PacketClass BlockTxRxPacket BlockHeaderFields where
  declared packet := packet.header.dataBufferSize
  buffer packet := packet.buffer
  call
    | packet, .setBuffer memory inBuffer length =>
        (packet.setBuffer memory inBuffer length).2
    | packet, .setHeader fields =>
        packet.setHeader fields.msgType fields.frameNumber fields.continueBit
          fields.crc fields.bufferSize
    | packet, .deserialize memory ptr len =>
        (packet.deserialize memory ptr len).2
    | packet, .serialize _ _ _ => packet
  written packet := packet.serialize
  sizeArgument fields := fields.bufferSize
  sizeOffset := 4
  sized_setBuffer _ memory inBuffer length sized :=
    sized_setBuffer sized memory inBuffer length
  declared_setHeader _ _ := rfl
  buffer_setHeader _ _ := rfl
  deserialize_none _ _ _ := rfl
  declared_deserialize packet memory address len := by
    rw [packet.deserialize_header, BlockHeader.dataBufferSize_decode]
  buffer_deserialize packet memory address len := by
    rw [packet.deserialize_buffer, BlockHeader.dataBufferSize_decode]
  sized_serialize _ _ _ _ sized := sized
  written_of_sized packet beyond beyond' memory ptr len sized := by
    simp only [serialize, copiedFromBuffer_of_held sized.1.le]

end BlockTxRxPacket

/-- The two constructors, with their arguments. -/
inductive BlockTxRxPacket.Construction
  | plain
  | fields
      (msgType : MsgType)
      (frameNumber : FrameNumber)
      (continueBit : ContinueBit)
      (crc : Crc)
      (memory : View)
      (inBuffer : Option Nat)
      (bufferSize : DataBufferSize)

namespace BlockTxRxPacket.Construction

/-- The packet that is built. -/
def build : Construction → BlockTxRxPacket
  | plain => {}
  | fields msgType frameNumber continueBit crc memory inBuffer bufferSize =>
      .construct msgType frameNumber continueBit crc memory inBuffer bufferSize

/-- The payload that the arguments hand over. -/
def payload : Construction → Option (List Byte)
  | fields _ _ _ _ memory (some address) bufferSize =>
      if 0#8 < bufferSize then some (memory.bytes address bufferSize.toNat)
      else none
  | _ => none

/-- A size comes with a buffer. -/
def HasBuffer : Construction → Prop
  | fields _ _ _ _ _ inBuffer bufferSize => inBuffer = none → bufferSize = 0#8
  | plain => True

/-- What is built holds the payload that was handed over. -/
theorem buffer_build (construction : Construction) :
    construction.build.buffer = construction.payload := by
  cases construction with
  | plain => rfl
  | fields _ _ _ _ _ inBuffer _ => cases inBuffer <;> rfl

theorem sized_build_iff (construction : Construction) :
    SizeMatches construction.build.header.dataBufferSize
        construction.build.buffer ↔
      construction.HasBuffer := by
  cases construction with
  | plain => simp [build, HasBuffer]
  | fields _ _ _ _ memory inBuffer bufferSize =>
      cases inBuffer with
      | none => simp [build, HasBuffer, construct, BlockHeader.construct]
      | some address =>
          by_cases positive : 0#8 < bufferSize
          · simp [build, HasBuffer, construct, BlockHeader.construct, positive]
          · have zero : bufferSize = 0#8 := by
              simpa [BitVec.pos_iff_ne_zero] using positive
            simp [build, HasBuffer, construct, BlockHeader.construct, zero]

end BlockTxRxPacket.Construction

/-! ## The condition -/

/-- From its constructor on, a packet's declared size matches its payload
exactly when a transaction packet is built without a payload, a block packet
is not built from a size without a buffer, and every call keeps the size. -/
theorem declared_size_matches_iff
    (construction : TransactionPacket.Construction)
    (calls : List (PacketCall TranscationHeader))
    (blockConstruction : BlockTxRxPacket.Construction)
    (blockCalls : List (PacketCall BlockHeaderFields)) :
    (TransactionPacket.packetClass.SizesMatch construction.build
        construction.payload calls ↔
      construction.bufferSize = 0#8 ∧
        ∀ packet ∈ construction.build,
          TransactionPacket.packetClass.machine.Admitted
            (fun packet _ call =>
              TransactionPacket.packetClass.KeepsSize packet call)
            packet [] calls) ∧
    (BlockTxRxPacket.packetClass.SizesMatch (some blockConstruction.build)
        blockConstruction.payload blockCalls ↔
      blockConstruction.HasBuffer ∧
        BlockTxRxPacket.packetClass.machine.Admitted
          (fun packet _ call =>
            BlockTxRxPacket.packetClass.KeepsSize packet call)
          blockConstruction.build [] blockCalls) := by
  constructor
  · rw [PacketClass.sizesMatch_iff]
    constructor
    · rintro ⟨packet, isBuilt, -, sizeMatches, keep⟩
      obtain ⟨declared, empty⟩ := construction.of_mem_build isBuilt
      have zero : packet.header.dataBufferSize = 0#8 := sizeMatches.2.2 empty
      refine ⟨declared.symm.trans zero, fun other otherBuilt => ?_⟩
      obtain rfl := Option.mem_unique isBuilt otherBuilt
      exact keep
    · rintro ⟨empty, keep⟩
      obtain ⟨packet, isBuilt⟩ := construction.build_of_empty empty
      obtain ⟨declared, held⟩ := construction.of_mem_build isBuilt
      refine ⟨packet, isBuilt, ?_, ?_, keep packet isBuilt⟩
      · simp [construction.payload_of_empty empty]
      · change SizeMatches packet.header.dataBufferSize packet.buffer
        rw [held, declared, SizeMatches.none_iff, empty]
  · rw [PacketClass.sizesMatch_iff]
    constructor
    · rintro ⟨packet, isBuilt, -, sizeMatches, keep⟩
      obtain rfl := Option.some.inj isBuilt
      exact ⟨blockConstruction.sized_build_iff.1 sizeMatches, keep⟩
    · rintro ⟨hasBuffer, keep⟩
      refine ⟨_, rfl, ?_, blockConstruction.sized_build_iff.2 hasBuffer, keep⟩
      intro bytes handed
      exact blockConstruction.buffer_build.trans handed

/-- A transaction packet built from one byte declares it and does not hold
it. -/
theorem constructed_without_payload_example :
    ¬∀ (construction : TransactionPacket.Construction)
        (calls : List (PacketCall TranscationHeader)),
      TransactionPacket.packetClass.SizesMatch construction.build
        construction.payload calls := by
  intro sizesMatch
  obtain ⟨packet, isBuilt, holds, -⟩ := sizesMatch
    (.fields .request 0 0 1 100 10 (fun _ => 7) (some 0) 1) []
  obtain rfl := Option.some.inj isBuilt
  exact absurd (holds [7] rfl) (by decide)

end DataDumpProtocol

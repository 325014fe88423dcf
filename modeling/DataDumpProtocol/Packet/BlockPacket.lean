import DataDumpProtocol.Packet.Field

/-!
# Block packets

The header and packet classes of the `BLOCK_TRANSFER` messages.  Frame number
and continue bit share the metadata byte of the header.
-/

namespace DataDumpProtocol

open LittleEndian

/-- `blockHeader`, with the values of its default constructor. -/
structure BlockHeader where
  msgType : MsgType := .unassigned
  blockMetadata : BlockMetaData := 0
  crc : Crc := 0
  dataBufferSize : DataBufferSize := 0
  deriving DecidableEq

namespace BlockHeader

/-- The position of the continue bit in the metadata byte. -/
def msbPos : Nat := 1 * 8 - 1

/-- The constructor with arguments, which takes the frame number as it is. -/
def construct
    (msgType : MsgType)
    (frameNumber : FrameNumber)
    (continueBit : ContinueBit)
    (crc : Crc)
    (dataBufferSize : DataBufferSize) : BlockHeader where
  msgType := msgType
  blockMetadata := continueBit.toByte <<< msbPos ||| frameNumber
  crc := crc
  dataBufferSize := dataBufferSize

/-- `getContinueBit`. -/
def getContinueBit (header : BlockHeader) : ContinueBit :=
  if header.blockMetadata >>> msbPos ≠ 0#8 then .continueTransfer
  else .terminateTransfer

/-- `setContinueBit`. -/
def setContinueBit
    (header : BlockHeader)
    (continueBit : ContinueBit) : BlockHeader :=
  { header with
    blockMetadata :=
      header.blockMetadata &&& ~~~(1#8 <<< msbPos) |||
        continueBit.toByte <<< msbPos }

/-- `getFrameNumber`. -/
def getFrameNumber (header : BlockHeader) : FrameNumber :=
  header.blockMetadata &&& ~~~(1#8 <<< msbPos)

/-- `setFrameNumber`, which joins the new number to the old one. -/
def setFrameNumber
    (header : BlockHeader)
    (frameNumber : FrameNumber) : BlockHeader :=
  { header with
    blockMetadata :=
      header.blockMetadata ||| frameNumber &&& ~~~(1#8 <<< msbPos) }

/-- `bytes_to_MsgType`. -/
def bytesToMsgType
    (header : BlockHeader)
    (memory : View)
    (ptr : Option Nat)
    (len : Nat) : Bool × BlockHeader :=
  match ptr with
  | some address =>
      if 1 ≤ len then
        (true, { header with msgType := .ofByte (memory address) })
      else
        (false, header)
  | none => (false, header)

/-- `bytes_to_BlockMetadata`. -/
def bytesToBlockMetadata (header : BlockHeader) :=
  readField 1 header fun value => { header with blockMetadata := value }

/-- `bytes_to_CRC`. -/
def bytesToCRC (header : BlockHeader) :=
  readField 2 header fun value => { header with crc := value }

/-- `Bytes_to_DataBufferSize`. -/
def bytesToDataBufferSize (header : BlockHeader) :=
  readField 1 header fun value => { header with dataBufferSize := value }

/-- `msgType_to_Bytes`. -/
def msgTypeToBytes (header : BlockHeader) : FieldWriter :=
  fun memory ptr len =>
    match ptr with
    | some address =>
        if 1 ≤ len then
          match header.msgType with
          -- This branch assigns the header's own type and writes no byte.
          | .blockAckNot => (true, memory)
          | msgType => (true, memory.write address [msgType.toByte])
        else
          (false, memory)
    | none => (false, memory)

/-- `blockMetaData_to_Bytes`. -/
def blockMetaDataToBytes (header : BlockHeader) : FieldWriter :=
  writeField 1 header.blockMetadata

/-- `crc_to_Bytes`. -/
def crcToBytes (header : BlockHeader) : FieldWriter :=
  writeField 2 header.crc

/-- `DataBufferSize_to_Bytes`. -/
def dataBufferSizeToBytes (header : BlockHeader) : FieldWriter :=
  writeField 1 header.dataBufferSize

/-- The conversions `serialize` runs, in its order, with the sizes it passes. -/
def writers (header : BlockHeader) : List (Nat × FieldWriter) :=
  [(1, header.msgTypeToBytes), (1, header.blockMetaDataToBytes),
    (2, header.crcToBytes), (1, header.dataBufferSizeToBytes)]

end BlockHeader

/-- `blockTxRxPacket`; its buffer is `none` when the pointer is `NULL`. -/
structure BlockTxRxPacket where
  header : BlockHeader := {}
  buffer : Option (List Byte) := none
  deriving DecidableEq

namespace BlockTxRxPacket

/-- The constructor with arguments. -/
def construct
    (msgType : MsgType)
    (frameNumber : FrameNumber)
    (continueBit : ContinueBit)
    (crc : Crc)
    (memory : View)
    (inBuffer : Option Nat)
    (bufferSize : DataBufferSize) : BlockTxRxPacket where
  header := .construct msgType frameNumber continueBit crc bufferSize
  buffer :=
    match inBuffer with
    | some address =>
        if 0#8 < bufferSize then
          some (memory.bytes address bufferSize.toNat)
        else none
    | none => none

/-- `setHeader`. -/
def setHeader
    (packet : BlockTxRxPacket)
    (msgType : MsgType)
    (frameNumber : FrameNumber)
    (continueBit : ContinueBit)
    (crc : Crc)
    (bufferSize : DataBufferSize) : BlockTxRxPacket :=
  let header := { packet.header with msgType := msgType }
  let header := header.setFrameNumber frameNumber
  let header := header.setContinueBit continueBit
  { packet with
    header := { header with crc := crc, dataBufferSize := bufferSize } }

/-- `getHeaderSize`, the sum of the fields' sizes. -/
def getHeaderSize : Nat := 1 + 1 + 2 + 1

/-- `getPacketSize`. -/
def getPacketSize (packet : BlockTxRxPacket) : Nat :=
  getHeaderSize + packet.header.dataBufferSize.toNat

/-- `setBuffer`: replace the payload by a copy of `length` bytes. -/
def setBuffer
    (packet : BlockTxRxPacket)
    (memory : View)
    (inBuffer : Option Nat)
    (length : DataBufferSize) : Bool × BlockTxRxPacket :=
  match inBuffer with
  | some address =>
      if 0#8 < length then
        (true,
          { header := { packet.header with dataBufferSize := length }
            buffer := some (memory.bytes address length.toNat) })
      else
        (false, packet)
  | none => (false, packet)

/-- `deserialize`.  The length argument is never looked at. -/
def deserialize
    (packet : BlockTxRxPacket)
    (memory : View)
    (ptr : Option Nat)
    (_len : Nat) : Bool × BlockTxRxPacket :=
  match ptr with
  | some address =>
      let header := (packet.header.bytesToMsgType memory (some address) 1).2
      let header :=
        (header.bytesToBlockMetadata memory (some (address + 1)) 1).2
      let header := (header.bytesToCRC memory (some (address + 2)) 2).2
      let header :=
        (header.bytesToDataBufferSize memory (some (address + 4)) 1).2
      { packet with header := header }.setBuffer memory
        (some (address + 5)) header.dataBufferSize
  | none => (false, packet)

/-- The bytes a `memcpy` of `size` bytes from the packet's buffer copies, with
`beyond` behind the buffer's end. -/
def copiedFromBuffer
    (packet : BlockTxRxPacket)
    (beyond : View)
    (size : Nat) : List Byte :=
  (View.ofList (packet.buffer.getD []) beyond).bytes 0 size

/-- `serialize`: the value returned and the memory afterwards.  The packet is
only read. -/
def serialize
    (packet : BlockTxRxPacket)
    (beyond : View)
    (memory : View)
    (ptr : Option Nat)
    (len : Nat) : Nat × View :=
  match ptr with
  | some address =>
      let payloadSize := packet.getPacketSize
      if len < payloadSize then
        (0, memory)
      else
        match writeAll packet.header.writers memory address with
        | (false, memory) => (0, memory)
        | (true, memory) =>
            let bufferSize := packet.header.dataBufferSize.toNat
            if 0 < bufferSize then
              (payloadSize,
                memory.write (address + getHeaderSize)
                  (packet.copiedFromBuffer beyond bufferSize))
            else
              (0, memory)
  | none => (0, memory)

/-- `generateCRC`, whose body is commented out. -/
def generateCRC (packet : BlockTxRxPacket) : Bool × BlockTxRxPacket :=
  (true, packet)

end BlockTxRxPacket

/-! ## What the conversions compute -/

namespace BlockHeader

/-- The header laid out in memory at `address`. -/
def decode (memory : View) (address : Nat) : BlockHeader where
  msgType := .ofByte (memory address)
  blockMetadata := fromBytes 8 1 fun i => memory (address + 1 + i)
  crc := fromBytes 16 2 fun i => memory (address + 2 + i)
  dataBufferSize := fromBytes 8 1 fun i => memory (address + 4 + i)

/-- The fields behind the message type, as they stand on the wire. -/
def fieldBytes (header : BlockHeader) : List Byte :=
  toBytes 1 header.blockMetadata ++
    (toBytes 2 header.crc ++ toBytes 1 header.dataBufferSize)

@[simp] theorem length_fieldBytes (header : BlockHeader) :
    header.fieldBytes.length = 4 := by
  simp [fieldBytes]

section Metadata

variable (header : BlockHeader)
variable (continueBit : ContinueBit) (frameNumber : FrameNumber)

@[simp] theorem msgType_setContinueBit :
    (header.setContinueBit continueBit).msgType = header.msgType := rfl

@[simp] theorem crc_setContinueBit :
    (header.setContinueBit continueBit).crc = header.crc := rfl

@[simp] theorem dataBufferSize_setContinueBit :
    (header.setContinueBit continueBit).dataBufferSize =
      header.dataBufferSize := rfl

@[simp] theorem msgType_setFrameNumber :
    (header.setFrameNumber frameNumber).msgType = header.msgType := rfl

@[simp] theorem crc_setFrameNumber :
    (header.setFrameNumber frameNumber).crc = header.crc := rfl

@[simp] theorem dataBufferSize_setFrameNumber :
    (header.setFrameNumber frameNumber).dataBufferSize =
      header.dataBufferSize := rfl

end Metadata

/-- The continue bit that was set is the one that is read. -/
@[simp] theorem getContinueBit_setContinueBit
    (header : BlockHeader)
    (continueBit : ContinueBit) :
    (header.setContinueBit continueBit).getContinueBit = continueBit := by
  have bits : ∀ metadata : BitVec 8,
      (metadata &&& ~~~(1#8 <<< msbPos) |||
          ContinueBit.terminateTransfer.toByte <<< msbPos) >>> msbPos = 0#8 ∧
      (metadata &&& ~~~(1#8 <<< msbPos) |||
          ContinueBit.continueTransfer.toByte <<< msbPos) >>> msbPos ≠ 0#8 := by
    decide +kernel
  obtain ⟨terminated, continued⟩ := bits header.blockMetadata
  cases continueBit with
  | terminateTransfer =>
      simp only [setContinueBit, getContinueBit, terminated, ne_eq,
        not_true_eq_false, if_false]
  | continueTransfer =>
      simp only [setContinueBit, getContinueBit, continued, ne_eq,
        not_false_eq_true, if_true]

/-- The continue bit leaves the frame number alone. -/
@[simp] theorem getFrameNumber_setContinueBit
    (header : BlockHeader)
    (continueBit : ContinueBit) :
    (header.setContinueBit continueBit).getFrameNumber =
      header.getFrameNumber := by
  have bits : ∀ metadata : BitVec 8,
      ((metadata &&& ~~~(1#8 <<< msbPos) |||
            ContinueBit.terminateTransfer.toByte <<< msbPos) &&&
          ~~~(1#8 <<< msbPos)) = metadata &&& ~~~(1#8 <<< msbPos) ∧
      ((metadata &&& ~~~(1#8 <<< msbPos) |||
            ContinueBit.continueTransfer.toByte <<< msbPos) &&&
          ~~~(1#8 <<< msbPos)) = metadata &&& ~~~(1#8 <<< msbPos) := by
    decide +kernel
  obtain ⟨terminated, continued⟩ := bits header.blockMetadata
  cases continueBit with
  | terminateTransfer => exact terminated
  | continueTransfer => exact continued

/-- A fresh header takes seven bits of a frame number. -/
theorem getFrameNumber_setFrameNumber
    {header : BlockHeader}
    (fresh : header.blockMetadata = 0#8)
    (frameNumber : FrameNumber) :
    (header.setFrameNumber frameNumber).getFrameNumber.toNat =
      frameNumber.toNat % 128 := by
  have bits : ∀ number : BitVec 8,
      ((0#8 ||| number &&& ~~~(1#8 <<< msbPos)) &&&
        ~~~(1#8 <<< msbPos)).toNat = number.toNat % 128 := by
    decide +kernel
  rw [getFrameNumber, setFrameNumber, fresh]
  exact bits frameNumber

/-- Writing a decoded header gives the bytes it was decoded from. -/
theorem fieldBytes_decode (memory : View) (address : Nat) :
    (decode memory address).fieldBytes = memory.bytes (address + 1) 4 := by
  have pieces : memory.bytes (address + 1) (1 + (2 + 1)) =
      (decode memory address).fieldBytes := by
    simp only [fieldBytes, decode, toBytes_fromBytes _ (Nat.le_refl _),
      Nat.add_assoc, Nat.reduceAdd]
    rfl
  exact pieces.symm

/-- A header is known by its type and its fields on the wire. -/
theorem eq_of_fieldBytes
    {left right : BlockHeader}
    (msgType : left.msgType = right.msgType)
    (fields : left.fieldBytes = right.fieldBytes) :
    left = right := by
  obtain ⟨metadata, fields⟩ := List.append_inj fields (by simp)
  obtain ⟨crc, size⟩ := List.append_inj fields (by simp)
  have metadata_eq := toBytes_injective (by omega) metadata
  have crc_eq := toBytes_injective (by omega) crc
  have size_eq := toBytes_injective (by omega) size
  cases left
  cases right
  simp_all

/-- A header that stands in memory decodes to itself, apart from its type,
which is that of the first byte. -/
theorem decode_of_bytes
    {memory : View}
    {address : Nat}
    {type : Byte}
    {header : BlockHeader}
    (image : memory.bytes address 5 = type :: header.fieldBytes) :
    decode memory address = { header with msgType := .ofByte type } := by
  have split : memory.bytes address (1 + 4) = [type] ++ header.fieldBytes :=
    image
  rw [View.bytes_add] at split
  obtain ⟨first, fields⟩ := List.append_inj split (by simp)
  apply eq_of_fieldBytes
  · have type_eq : memory address = type := by
      simpa [View.bytes] using first
    rw [decode, type_eq]
  · exact (fieldBytes_decode memory address).trans fields

/-- The byte that stands for the message type after `msgType_to_Bytes`, given
the byte that was there before. -/
def typeByte (header : BlockHeader) (before : Byte) : Byte :=
  if header.msgType = .blockAckNot then before else header.msgType.toByte

theorem msgTypeToBytes_some
    (header : BlockHeader)
    (memory : View)
    (address : Nat) :
    header.msgTypeToBytes memory (some address) 1 =
      (true, memory.write address [header.typeByte (memory address)]) := by
  unfold msgTypeToBytes typeByte
  cases header.msgType <;> simp [View.write_self]

/-- The conversions write the type byte and the fields behind it. -/
theorem writeAll_writers
    (header : BlockHeader)
    (memory : View)
    (address : Nat) :
    writeAll header.writers memory address =
      (true, memory.write address
        (header.typeByte (memory address) :: header.fieldBytes)) := by
  have fields : ∀ before : List Byte,
      writeAll header.writers.tail
        (memory.write address before) (address + before.length) =
      (true, memory.write address (before ++ header.fieldBytes)) := by
    intro before
    simp only [writers, List.tail_cons, blockMetaDataToBytes, crcToBytes,
      dataBufferSizeToBytes, writeAll_writeField]
    simp [writeAll, fieldBytes]
  rw [writers, writeAll, msgTypeToBytes_some]
  exact fields [header.typeByte (memory address)]

end BlockHeader

namespace BlockTxRxPacket

@[simp] theorem getHeaderSize_eq : getHeaderSize = 5 := rfl

/-- The packet after `setBuffer`, which ignores an empty payload. -/
theorem setBuffer_snd
    (packet : BlockTxRxPacket)
    (memory : View)
    (address : Nat)
    (length : DataBufferSize) :
    (packet.setBuffer memory (some address) length).2 =
      if 0#8 < length then
        { header := { packet.header with dataBufferSize := length }
          buffer := some (memory.bytes address length.toNat) }
      else packet := by
  by_cases positive : 0#8 < length <;> simp [setBuffer, positive]

/-- `deserialize` overwrites every header field, and replaces the payload and
reports success when the declared size is positive. -/
theorem deserialize_some
    (packet : BlockTxRxPacket)
    (memory : View)
    (address len : Nat) :
    packet.deserialize memory (some address) len =
      (decide (0#8 < (BlockHeader.decode memory address).dataBufferSize),
        { header := .decode memory address
          buffer :=
            if 0#8 < (BlockHeader.decode memory address).dataBufferSize then
              some (memory.bytes (address + 5)
                (BlockHeader.decode memory address).dataBufferSize.toNat)
            else packet.buffer }) := by
  simp only [deserialize, setBuffer, BlockHeader.bytesToMsgType,
    BlockHeader.bytesToBlockMetadata, BlockHeader.bytesToCRC,
    BlockHeader.bytesToDataBufferSize, readField_some, BlockHeader.decode]
  split
  next positive => simp [positive]
  next empty => simp [empty]

@[simp] theorem deserialize_header
    (packet : BlockTxRxPacket)
    (memory : View)
    (address len : Nat) :
    (packet.deserialize memory (some address) len).2.header =
      .decode memory address := by
  rw [deserialize_some]

theorem deserialize_fst
    (packet : BlockTxRxPacket)
    (memory : View)
    (address len : Nat) :
    (packet.deserialize memory (some address) len).1 =
      decide (0#8 < (BlockHeader.decode memory address).dataBufferSize) := by
  rw [deserialize_some]

@[simp] theorem deserialize_buffer
    (packet : BlockTxRxPacket)
    (memory : View)
    (address len : Nat) :
    (packet.deserialize memory (some address) len).2.buffer =
      if 0#8 < (BlockHeader.decode memory address).dataBufferSize then
        some (memory.bytes (address + 5)
          (BlockHeader.decode memory address).dataBufferSize.toNat)
      else packet.buffer := by
  rw [deserialize_some]

/-- The whole frame of a packet, with the given byte where `msgType_to_Bytes`
may leave one. -/
def image (packet : BlockTxRxPacket) (beyond : View) (before : Byte) :
    List Byte :=
  packet.header.typeByte before ::
    (packet.header.fieldBytes ++
      packet.copiedFromBuffer beyond packet.header.dataBufferSize.toNat)

@[simp] theorem length_image
    (packet : BlockTxRxPacket)
    (beyond : View)
    (before : Byte) :
    (packet.image beyond before).length = packet.getPacketSize := by
  simp [image, getPacketSize, copiedFromBuffer]
  omega

/-- A packet with payload is written in full when it fits. -/
theorem serialize_of_payload
    (packet : BlockTxRxPacket)
    (beyond memory : View)
    (address len : Nat)
    (payload : 0#8 < packet.header.dataBufferSize)
    (fits : packet.getPacketSize ≤ len) :
    packet.serialize beyond memory (some address) len =
      (packet.getPacketSize,
        memory.write address (packet.image beyond (memory address))) := by
  have positive : 0 < packet.header.dataBufferSize.toNat := payload
  have joined := View.write_write_adjacent memory address
    (packet.header.typeByte (memory address) :: packet.header.fieldBytes)
    (packet.copiedFromBuffer beyond packet.header.dataBufferSize.toNat)
  simp only [List.length_cons, BlockHeader.length_fieldBytes,
    Nat.reduceAdd, List.cons_append] at joined
  simp only [serialize, if_neg (Nat.not_lt.mpr fits),
    BlockHeader.writeAll_writers, if_pos positive, getHeaderSize_eq, joined,
    image]

/-- A packet without payload reports that nothing was written. -/
theorem serialize_of_empty
    (packet : BlockTxRxPacket)
    (beyond memory : View)
    (ptr : Option Nat)
    (len : Nat)
    (empty : packet.header.dataBufferSize = 0#8) :
    (packet.serialize beyond memory ptr len).1 = 0 := by
  unfold serialize
  cases ptr with
  | none => rfl
  | some address =>
      simp only [BlockHeader.writeAll_writers, empty]
      split <;> simp

/-- A packet that does not fit is not written. -/
theorem serialize_of_tooLong
    (packet : BlockTxRxPacket)
    (beyond memory : View)
    (address len : Nat)
    (tooLong : len < packet.getPacketSize) :
    packet.serialize beyond memory (some address) len = (0, memory) := by
  simp [serialize, tooLong]

end BlockTxRxPacket

end DataDumpProtocol

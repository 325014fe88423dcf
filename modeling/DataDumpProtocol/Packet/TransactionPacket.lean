import DataDumpProtocol.Packet.Field

/-!
# Transaction packets

The header and packet classes of the control messages: `REQUEST`, `RESPONSE`,
`INITIATE_BLOCK_TRANSFER` and the two acknowledgements.
-/

namespace DataDumpProtocol

open LittleEndian

/-- `TranscationHeader`, with the values of its default constructor. -/
structure TranscationHeader where
  msgType : MsgType := .unassigned
  transactionID : TransactionId := 0
  maxBlocksPerTransaction : BlocksPerTransaction := 0
  maxPacketlen : MaxPacketLen := 0
  maxACKTimeout : AckTimeout := 0
  crc : Crc := 0
  dataBufferSize : DataBufferSize := 0
  deriving DecidableEq

namespace TranscationHeader

/-- The constructor with arguments.  A block count outside the limits is
replaced by zero, which means an invalid header. -/
def construct
    (msgType : MsgType)
    (transactionID : TransactionId)
    (crc : Crc)
    (dataBufferSize : DataBufferSize)
    (blocksPerTransaction : BlocksPerTransaction)
    (maxSizeofBlock : MaxPacketLen)
    (ackTimeout : AckTimeout) : TranscationHeader where
  msgType := msgType
  transactionID := transactionID
  maxBlocksPerTransaction :=
    if minBlockPerTrasactionLimit ≤ blocksPerTransaction ∧
        blocksPerTransaction ≤ maxBlockPerTrasactionLimit then
      blocksPerTransaction
    else 0
  maxPacketlen := maxSizeofBlock
  maxACKTimeout := ackTimeout
  crc := crc
  dataBufferSize := dataBufferSize

/-- `bytes_to_MsgType`. -/
def bytesToMsgType
    (header : TranscationHeader)
    (memory : View)
    (ptr : Option Nat)
    (len : Nat) : Bool × TranscationHeader :=
  match ptr with
  | some address =>
      if 1 ≤ len then
        (true, { header with msgType := .ofByte (memory address) })
      else
        (false, header)
  | none => (false, header)

/-- `bytes_to_TransactionId`. -/
def bytesToTransactionId (header : TranscationHeader) :=
  readField 4 header fun value => { header with transactionID := value }

/-- `byte_to_BlockPerTransaction`. -/
def byteToBlockPerTransaction (header : TranscationHeader) :=
  readField 1 header fun value =>
    { header with maxBlocksPerTransaction := value }

/-- `byte_to_MaxSizeOfBlock`. -/
def byteToMaxSizeOfBlock (header : TranscationHeader) :=
  readField 1 header fun value => { header with maxPacketlen := value }

/-- `byte_to_ACKTimeout`. -/
def byteToACKTimeout (header : TranscationHeader) :=
  readField 1 header fun value => { header with maxACKTimeout := value }

/-- `byte_to_CRC`. -/
def byteToCRC (header : TranscationHeader) :=
  readField 2 header fun value => { header with crc := value }

/-- `byte_to_DataBufferSize`. -/
def byteToDataBufferSize (header : TranscationHeader) :=
  readField 1 header fun value => { header with dataBufferSize := value }

/-- `msgType_to_Bytes`. -/
def msgTypeToBytes (header : TranscationHeader) : FieldWriter :=
  fun memory ptr len =>
    match ptr with
    | some address =>
        if 1 ≤ len then
          match header.msgType with
          -- This branch assigns the header's own type and writes no byte.
          | .blockAckNot => (true, memory)
          | msgType => (true, memory.write address [msgType.toByte])
        else
          (false, memory)
    | none => (false, memory)

/-- `transactionID_to_Bytes`. -/
def transactionIDToBytes (header : TranscationHeader) : FieldWriter :=
  writeField 4 header.transactionID

/-- `blockPerTransaction_to_Bytes`. -/
def blockPerTransactionToBytes (header : TranscationHeader) : FieldWriter :=
  writeField 1 header.maxBlocksPerTransaction

/-- `maxSizeOfBlock_to_Bytes`. -/
def maxSizeOfBlockToBytes (header : TranscationHeader) : FieldWriter :=
  writeField 1 header.maxPacketlen

/-- `ackTimeout_to_Bytes`. -/
def ackTimeoutToBytes (header : TranscationHeader) : FieldWriter :=
  writeField 1 header.maxACKTimeout

/-- `crc_to_Bytes`. -/
def crcToBytes (header : TranscationHeader) : FieldWriter :=
  writeField 2 header.crc

/-- `dataBufferSize_to_Bytes`. -/
def dataBufferSizeToBytes (header : TranscationHeader) : FieldWriter :=
  writeField 1 header.dataBufferSize

/-- The conversions `serialize` runs, in its order, with the sizes it passes. -/
def writers (header : TranscationHeader) : List (Nat × FieldWriter) :=
  [(1, header.msgTypeToBytes), (4, header.transactionIDToBytes),
    (1, header.blockPerTransactionToBytes), (1, header.maxSizeOfBlockToBytes),
    (1, header.ackTimeoutToBytes), (2, header.crcToBytes),
    (1, header.dataBufferSizeToBytes)]

end TranscationHeader

/-- `TransactionPacket`; its buffer is `none` when the pointer is `NULL`. -/
structure TransactionPacket where
  header : TranscationHeader := {}
  buffer : Option (List Byte) := none
  deriving DecidableEq

namespace TransactionPacket

/-- The constructor with arguments.  It copies the buffer it is given when the
pointer is `NULL`, which has no outcome. -/
def construct
    (msgType : MsgType)
    (transactionID : TransactionId)
    (crc : Crc)
    (blocksPerTransaction : BlocksPerTransaction)
    (maxSizeofBlock : MaxPacketLen)
    (ackTimeout : AckTimeout)
    (buffer : Option Nat)
    (bufferSize : DataBufferSize) : Option TransactionPacket :=
  if buffer = none ∧ 0#8 < bufferSize then none
  else
    some
      { header := .construct msgType transactionID crc bufferSize
          blocksPerTransaction maxSizeofBlock ackTimeout
        buffer := none }

/-- `setHeader`. -/
def setHeader
    (packet : TransactionPacket)
    (msgType : MsgType)
    (transactionID : TransactionId)
    (crc : Crc)
    (dataBufferSize : DataBufferSize)
    (blocksPerTransaction : BlocksPerTransaction)
    (maxSizeofBlock : MaxPacketLen)
    (ackTimeout : AckTimeout) : TransactionPacket :=
  { packet with
    header :=
      { msgType := msgType
        maxACKTimeout := ackTimeout
        maxBlocksPerTransaction := blocksPerTransaction
        crc := crc
        dataBufferSize := dataBufferSize
        maxPacketlen := maxSizeofBlock
        transactionID := transactionID } }

/-- The header's share of `getPacketSize`, the sum of its fields' sizes. -/
def headerSize : Nat := 1 + 4 + 1 + 1 + 1 + 2 + 1

/-- `getPacketSize`. -/
def getPacketSize (packet : TransactionPacket) : Nat :=
  headerSize + packet.header.dataBufferSize.toNat

/-- `setBuffer`: replace the payload by a copy of `length` bytes. -/
def setBuffer
    (packet : TransactionPacket)
    (memory : View)
    (inBuffer : Option Nat)
    (length : DataBufferSize) : Bool × TransactionPacket :=
  match inBuffer with
  | some address =>
      if 0#8 < length then
        (true,
          { header := { packet.header with dataBufferSize := length }
            buffer := some (memory.bytes address length.toNat) })
      else
        (false, packet)
  | none => (false, packet)

/-- `deserialize`.  The length argument is never looked at. -/
def deserialize
    (packet : TransactionPacket)
    (memory : View)
    (ptr : Option Nat)
    (_len : Nat) : Bool × TransactionPacket :=
  match ptr with
  | some address =>
      let header := (packet.header.bytesToMsgType memory (some address) 1).2
      let header :=
        (header.bytesToTransactionId memory (some (address + 1)) 4).2
      let header :=
        (header.byteToBlockPerTransaction memory (some (address + 5)) 1).2
      let header :=
        (header.byteToMaxSizeOfBlock memory (some (address + 6)) 1).2
      let header := (header.byteToACKTimeout memory (some (address + 7)) 1).2
      let header := (header.byteToCRC memory (some (address + 8)) 2).2
      let header :=
        (header.byteToDataBufferSize memory (some (address + 10)) 1).2
      { packet with header := header }.setBuffer memory
        (some (address + 11)) header.dataBufferSize
  | none => (false, packet)

/-- `serialize`: the value returned, the packet and the memory afterwards. -/
def serialize
    (packet : TransactionPacket)
    (memory : View)
    (ptr : Option Nat)
    (len : Nat) : Nat × TransactionPacket × View :=
  match ptr with
  | some address =>
      let payloadSize := packet.getPacketSize
      if len < payloadSize then
        (0, packet, memory)
      else
        match writeAll packet.header.writers memory address with
        | (false, memory) => (0, packet, memory)
        | (true, memory) =>
            if 0 < packet.header.dataBufferSize.toNat then
              -- The payload is set from the destination, not written to it.
              match packet.setBuffer memory (some (address + headerSize))
                  packet.header.dataBufferSize with
              | (true, packet) => (payloadSize, packet, memory)
              | (false, packet) => (0, packet, memory)
            else
              (0, packet, memory)
  | none => (0, packet, memory)

/-- `generateCRC`, whose body is commented out. -/
def generateCRC (packet : TransactionPacket) : Bool × TransactionPacket :=
  (true, packet)

end TransactionPacket

/-! ## What the conversions compute -/

namespace TranscationHeader

/-- The header laid out in memory at `address`. -/
def decode (memory : View) (address : Nat) : TranscationHeader where
  msgType := .ofByte (memory address)
  transactionID := fromBytes 32 4 fun i => memory (address + 1 + i)
  maxBlocksPerTransaction := fromBytes 8 1 fun i => memory (address + 5 + i)
  maxPacketlen := fromBytes 8 1 fun i => memory (address + 6 + i)
  maxACKTimeout := fromBytes 8 1 fun i => memory (address + 7 + i)
  crc := fromBytes 16 2 fun i => memory (address + 8 + i)
  dataBufferSize := fromBytes 8 1 fun i => memory (address + 10 + i)

/-- The fields behind the message type, as they stand on the wire. -/
def fieldBytes (header : TranscationHeader) : List Byte :=
  toBytes 4 header.transactionID ++
    (toBytes 1 header.maxBlocksPerTransaction ++
      (toBytes 1 header.maxPacketlen ++
        (toBytes 1 header.maxACKTimeout ++
          (toBytes 2 header.crc ++ toBytes 1 header.dataBufferSize))))

@[simp] theorem length_fieldBytes (header : TranscationHeader) :
    header.fieldBytes.length = 10 := by
  simp [fieldBytes]

/-- Writing a decoded header gives the bytes it was decoded from. -/
theorem fieldBytes_decode (memory : View) (address : Nat) :
    (decode memory address).fieldBytes = memory.bytes (address + 1) 10 := by
  have pieces : memory.bytes (address + 1) (4 + (1 + (1 + (1 + (2 + 1))))) =
      (decode memory address).fieldBytes := by
    simp only [fieldBytes, decode, toBytes_fromBytes _ (Nat.le_refl _),
      Nat.add_assoc, Nat.reduceAdd]
    rfl
  exact pieces.symm

/-- A header is known by its type and its fields on the wire. -/
theorem eq_of_fieldBytes
    {left right : TranscationHeader}
    (msgType : left.msgType = right.msgType)
    (fields : left.fieldBytes = right.fieldBytes) :
    left = right := by
  obtain ⟨transactionID, fields⟩ := List.append_inj fields (by simp)
  obtain ⟨blocks, fields⟩ := List.append_inj fields (by simp)
  obtain ⟨packetlen, fields⟩ := List.append_inj fields (by simp)
  obtain ⟨timeout, fields⟩ := List.append_inj fields (by simp)
  obtain ⟨crc, size⟩ := List.append_inj fields (by simp)
  have transactionID_eq := toBytes_injective (by omega) transactionID
  have blocks_eq := toBytes_injective (by omega) blocks
  have packetlen_eq := toBytes_injective (by omega) packetlen
  have timeout_eq := toBytes_injective (by omega) timeout
  have crc_eq := toBytes_injective (by omega) crc
  have size_eq := toBytes_injective (by omega) size
  cases left
  cases right
  simp_all

/-- A header that stands in memory decodes to itself, apart from its type,
which is that of the first byte. -/
theorem decode_of_bytes
    {memory : View}
    {address : Nat}
    {type : Byte}
    {header : TranscationHeader}
    (image : memory.bytes address 11 = type :: header.fieldBytes) :
    decode memory address = { header with msgType := .ofByte type } := by
  have split : memory.bytes address (1 + 10) = [type] ++ header.fieldBytes :=
    image
  rw [View.bytes_add] at split
  obtain ⟨first, fields⟩ := List.append_inj split (by simp)
  apply eq_of_fieldBytes
  · have type_eq : memory address = type := by
      simpa [View.bytes] using first
    rw [decode, type_eq]
  · exact (fieldBytes_decode memory address).trans fields

/-- The byte that stands for the message type after `msgType_to_Bytes`, given
the byte that was there before. -/
def typeByte (header : TranscationHeader) (before : Byte) : Byte :=
  if header.msgType = .blockAckNot then before else header.msgType.toByte

theorem msgTypeToBytes_some
    (header : TranscationHeader)
    (memory : View)
    (address : Nat) :
    header.msgTypeToBytes memory (some address) 1 =
      (true, memory.write address [header.typeByte (memory address)]) := by
  unfold msgTypeToBytes typeByte
  cases header.msgType <;> simp [View.write_self]

/-- The conversions write the type byte and the fields behind it. -/
theorem writeAll_writers
    (header : TranscationHeader)
    (memory : View)
    (address : Nat) :
    writeAll header.writers memory address =
      (true, memory.write address
        (header.typeByte (memory address) :: header.fieldBytes)) := by
  have fields : ∀ before : List Byte,
      writeAll header.writers.tail
        (memory.write address before) (address + before.length) =
      (true, memory.write address (before ++ header.fieldBytes)) := by
    intro before
    simp only [writers, List.tail_cons, transactionIDToBytes,
      blockPerTransactionToBytes, maxSizeOfBlockToBytes, ackTimeoutToBytes,
      crcToBytes, dataBufferSizeToBytes, writeAll_writeField]
    simp [writeAll, fieldBytes]
  rw [writers, writeAll, msgTypeToBytes_some]
  exact fields [header.typeByte (memory address)]

end TranscationHeader

namespace TransactionPacket

@[simp] theorem headerSize_eq : headerSize = 11 := rfl

/-- `deserialize` overwrites every header field, and replaces the payload and
reports success when the declared size is positive. -/
theorem deserialize_some
    (packet : TransactionPacket)
    (memory : View)
    (address len : Nat) :
    packet.deserialize memory (some address) len =
      (decide (0#8 < (TranscationHeader.decode memory address).dataBufferSize),
        { header := .decode memory address
          buffer :=
            if 0#8 < (TranscationHeader.decode memory address).dataBufferSize then
              some (memory.bytes (address + 11)
                (TranscationHeader.decode memory address).dataBufferSize.toNat)
            else packet.buffer }) := by
  simp only [deserialize, setBuffer, TranscationHeader.bytesToMsgType,
    TranscationHeader.bytesToTransactionId,
    TranscationHeader.byteToBlockPerTransaction,
    TranscationHeader.byteToMaxSizeOfBlock,
    TranscationHeader.byteToACKTimeout, TranscationHeader.byteToCRC,
    TranscationHeader.byteToDataBufferSize, readField_some,
    TranscationHeader.decode]
  split
  next positive => simp [positive]
  next empty => simp [empty]

@[simp] theorem deserialize_header
    (packet : TransactionPacket)
    (memory : View)
    (address len : Nat) :
    (packet.deserialize memory (some address) len).2.header =
      .decode memory address := by
  rw [deserialize_some]

theorem deserialize_fst
    (packet : TransactionPacket)
    (memory : View)
    (address len : Nat) :
    (packet.deserialize memory (some address) len).1 =
      decide
        (0#8 < (TranscationHeader.decode memory address).dataBufferSize) := by
  rw [deserialize_some]

@[simp] theorem deserialize_buffer
    (packet : TransactionPacket)
    (memory : View)
    (address len : Nat) :
    (packet.deserialize memory (some address) len).2.buffer =
      if 0#8 < (TranscationHeader.decode memory address).dataBufferSize then
        some (memory.bytes (address + 11)
          (TranscationHeader.decode memory address).dataBufferSize.toNat)
      else packet.buffer := by
  rw [deserialize_some]

/-- A packet without payload is written as its header, leaves the packet as it
was, and returns zero. -/
theorem serialize_of_empty
    (packet : TransactionPacket)
    (memory : View)
    (address len : Nat)
    (empty : packet.header.dataBufferSize = 0#8)
    (fits : headerSize ≤ len) :
    packet.serialize memory (some address) len =
      (0, packet, memory.write address
        (packet.header.typeByte (memory address) ::
          packet.header.fieldBytes)) := by
  have size_eq : packet.getPacketSize = headerSize := by
    simp [getPacketSize, empty]
  simp only [serialize, size_eq, if_neg (Nat.not_lt.mpr fits),
    TranscationHeader.writeAll_writers]
  simp [empty]

end TransactionPacket

end DataDumpProtocol

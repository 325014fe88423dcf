import DataDumpProtocol.Machines.Control
import DataDumpProtocol.Machines.Loops

/-!
# The packets that the machines build

Control packets carry terms and no payload, and block packets hold a payload
that fits the sender's limit.
-/

namespace DataDumpProtocol

/-- A packet without payload that carries the given terms. -/
structure TransactionPacket.Carries
    (packet : TransactionPacket)
    (msgType : MsgType)
    (terms : Terms) : Prop where
  msgType : packet.header.msgType = msgType
  terms : packet.header.terms = terms
  crc : packet.header.crc = 0#16
  empty : packet.header.dataBufferSize = 0#8

/-- A block packet that holds a payload and fits the limit. -/
structure BlockTxRxPacket.Holds
    (packet : BlockTxRxPacket)
    (limit : Nat)
    (payload : List Byte) : Prop where
  msgType : packet.header.msgType = .blockTransfer
  crc : packet.header.crc = 0#16
  size : packet.header.dataBufferSize.toNat = payload.length
  buffer : payload ≠ [] → packet.buffer = some payload
  fits : 5 + payload.length ≤ limit

theorem BlockTxRxPacket.Holds.getPacketSize_le
    {packet : BlockTxRxPacket}
    {limit : Nat}
    {payload : List Byte}
    (holds : packet.Holds limit payload) :
    packet.getPacketSize ≤ limit := by
  rw [getPacketSize, holds.size]
  exact holds.fits

/-- The frame of a packet that holds a payload. -/
theorem BlockTxRxPacket.Holds.frame_eq
    {packet : BlockTxRxPacket}
    {limit : Nat}
    {payload : List Byte}
    (holds : packet.Holds limit payload)
    (nonempty : payload ≠ [])
    (beyond : View) :
    packet.frame beyond =
      MsgType.blockTransfer.toByte ::
        (packet.header.fieldBytes ++ payload) := by
  have positive : 0#8 < packet.header.dataBufferSize := by
    rw [BitVec.lt_def, holds.size]
    exact List.length_pos_iff.mpr nonempty
  have copied : packet.copiedFromBuffer beyond payload.length = payload := by
    rw [copiedFromBuffer, holds.buffer nonempty, Option.getD_some,
      View.bytes_ofList _ _ _ _ (by simp)]
    simp
  rw [frame, if_pos positive, image, holds.size, copied,
    BlockHeader.typeByte, holds.msgType, if_neg (by simp)]

/-- A packet without payload becomes an empty frame. -/
theorem BlockTxRxPacket.Holds.frame_nil
    {packet : BlockTxRxPacket}
    {limit : Nat}
    (holds : packet.Holds limit [])
    (beyond : View) :
    packet.frame beyond = [] := by
  have empty : ¬0#8 < packet.header.dataBufferSize := by
    rw [BitVec.lt_def, holds.size]
    exact Nat.lt_irrefl 0
  rw [frame, if_neg empty]

/-- Filling a fresh packet from memory. -/
theorem BlockTxRxPacket.setBuffer_holds
    {packet : BlockTxRxPacket}
    {limit size : Nat}
    (fresh : packet.Holds limit [])
    (memory : View)
    (address : Nat)
    (byteSized : size < 2 ^ 8)
    (fits : 5 + size ≤ limit) :
    (packet.setBuffer memory (some address) (.ofNat 8 size)).2.Holds limit
      (memory.bytes address size) := by
  have size_eq : (BitVec.ofNat 8 size).toNat = size := by
    rw [BitVec.toNat_ofNat]
    exact Nat.mod_eq_of_lt byteSized
  rw [setBuffer_snd, size_eq]
  by_cases positive : 0#8 < BitVec.ofNat 8 size
  · rw [if_pos positive]
    constructor
    case msgType => exact fresh.msgType
    case crc => exact fresh.crc
    case size => simp [size_eq]
    case buffer => exact fun _ => rfl
    case fits => simpa using fits
  · rw [if_neg positive]
    rw [BitVec.lt_def, size_eq] at positive
    obtain rfl : size = 0 := by simpa using positive
    exact fresh

end DataDumpProtocol

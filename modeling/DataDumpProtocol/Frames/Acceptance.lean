import DataDumpProtocol.Base.Transport

/-!
# Which frames `receive` accepts

A frame of either packet class has a fixed header with a crc field and the
size of the payload behind it.  Whether a frame is well formed is stated here
from the wire format alone.  `receive` compares the type and the crc, but not
the length, so it accepts exactly the well-formed frames among those whose
length agrees with their declared payload, or that fail the other checks.
-/

namespace DataDumpProtocol

open LittleEndian

/-- Where a packet class keeps its header fields. -/
structure FrameLayout where
  headerSize : Nat
  crcOffset : Nat
  sizeOffset : Nat

namespace FrameLayout

/-- The layout of `TransactionPacket`. -/
def transaction : FrameLayout := ⟨11, 8, 10⟩

/-- The layout of `blockTxRxPacket`. -/
def block : FrameLayout := ⟨5, 2, 4⟩

/-- The crc field of a frame. -/
def crcField (layout : FrameLayout) (frame : List Byte) : Crc :=
  fromBytes 16 2 fun i => frame.getD (layout.crcOffset + i) 0

/-- The payload size that a frame declares. -/
def declaredSize (layout : FrameLayout) (frame : List Byte) : Nat :=
  (frame.getD layout.sizeOffset 0).toNat

/-- The crc field is the checksum of the frame. -/
def CrcMatches (layout : FrameLayout) (frame : List Byte) : Prop :=
  layout.crcField frame =
    CRC16.generate (View.ofList frame fun _ => 0) frame.length

/-- The frame is as long as its header and the declared payload. -/
def LengthMatches (layout : FrameLayout) (frame : List Byte) : Prop :=
  frame.length = layout.headerSize + layout.declaredSize frame

/-- A frame of the given type with the right length and checksum. -/
def WellFormed
    (layout : FrameLayout)
    (msgType : MsgType)
    (frame : List Byte) : Prop :=
  frame.getD 0 0 = msgType.toByte ∧
    layout.LengthMatches frame ∧ layout.CrcMatches frame

instance (layout : FrameLayout) (frame : List Byte) :
    Decidable (layout.CrcMatches frame) :=
  inferInstanceAs (Decidable (_ = _))

instance (layout : FrameLayout) (frame : List Byte) :
    Decidable (layout.LengthMatches frame) :=
  inferInstanceAs (Decidable (_ = _))

end FrameLayout

/-- A frame is a packet's header followed by its payload. -/
def TransactionPacket.Encodes
    (packet : TransactionPacket)
    (frame : List Byte) : Prop :=
  frame = packet.header.msgType.toByte ::
    (packet.header.fieldBytes ++ packet.buffer.getD [])

/-- A frame is a block packet's header followed by its payload. -/
def BlockTxRxPacket.Encodes
    (packet : BlockTxRxPacket)
    (frame : List Byte) : Prop :=
  frame = packet.header.msgType.toByte ::
    (packet.header.fieldBytes ++ packet.buffer.getD [])

/-- A call of `receive` accepts its frame exactly when the frame is well formed,
and then the packet holds what the frame encodes. -/
def ReceivesExactly
    (layout : FrameLayout)
    (msgType : MsgType)
    (frame : List Byte)
    (recvLen : Nat)
    (encodes : Prop) : Prop :=
  (recvLen ≠ 0 ↔ layout.WellFormed msgType frame) ∧
    (recvLen ≠ 0 → recvLen = frame.length ∧ encodes)

namespace DataDump

variable {dump : DataDump} {env : Environment}

/-- A frame that fits is what the receive buffer begins with. -/
theorem recvByteBuffer_eq_getD
    (recvCB : dump.recvCB = true)
    (fits : env.incoming.length ≤ dump.maxPacketSize)
    {i : Nat}
    (inside : i < dump.maxPacketSize) :
    dump.recvByteBuffer env i = env.incoming.getD i 0 := by
  rw [recvByteBuffer_of_lt inside, delivered_of_fits recvCB fits]

/-- The frame is the first part of the receive buffer. -/
theorem bytes_recvByteBuffer
    (recvCB : dump.recvCB = true)
    (fits : env.incoming.length ≤ dump.maxPacketSize) :
    (dump.recvByteBuffer env).bytes 0 env.incoming.length = env.incoming := by
  apply List.ext_getElem
  · simp
  · intro i _ inside
    rw [View.getElem_bytes, Nat.zero_add,
      recvByteBuffer_eq_getD recvCB fits (by omega),
      List.getD_eq_getElem _ _ inside]

section Layout

variable {msgType : MsgType}
variable (recvCB : dump.recvCB = true)
variable (nonempty : env.incoming ≠ [])
variable (fits : env.incoming.length ≤ dump.maxPacketSize)

include recvCB nonempty fits

/-- For a frame that fits, `receive` checks the type and the crc field. -/
theorem accepts_iff_of_fits
    (room : FrameLayout.transaction.headerSize ≤ dump.maxPacketSize) :
    dump.Accepts msgType env ↔
      env.incoming.getD 0 0 = msgType.toByte ∧
        FrameLayout.transaction.CrcMatches env.incoming := by
  simp only [FrameLayout.transaction] at room
  have type_eq := recvByteBuffer_eq_getD recvCB fits (i := 0) (by omega)
  have crc_eq : (dump.polledHeader env).crc =
      FrameLayout.transaction.crcField env.incoming := by
    apply fromBytes_congr
    intro i inside
    rw [recvByteBuffer_eq_getD recvCB fits (by omega), Nat.zero_add]
    rfl
  rw [Accepts, delivered_of_fits recvCB fits, type_eq, crc_eq]
  simp only [ne_eq, nonempty, not_false_eq_true, true_and]
  rfl

theorem acceptsBlock_iff_of_fits
    (room : FrameLayout.block.headerSize ≤ dump.maxPacketSize) :
    dump.AcceptsBlock msgType env ↔
      env.incoming.getD 0 0 = msgType.toByte ∧
        FrameLayout.block.CrcMatches env.incoming := by
  simp only [FrameLayout.block] at room
  have type_eq := recvByteBuffer_eq_getD recvCB fits (i := 0) (by omega)
  have crc_eq : (dump.polledBlockHeader env).crc =
      FrameLayout.block.crcField env.incoming := by
    apply fromBytes_congr
    intro i inside
    rw [recvByteBuffer_eq_getD recvCB fits (by omega), Nat.zero_add]
    rfl
  rw [AcceptsBlock, delivered_of_fits recvCB fits, type_eq, crc_eq]
  simp only [ne_eq, nonempty, not_false_eq_true, true_and]
  rfl

end Layout

/-- A positive size byte or none, the payload of a decoded fresh packet is
the declared number of bytes. -/
theorem payload_getD (memory : View) (address : Nat) (size : DataBufferSize) :
    (if 0#8 < size then some (memory.bytes address size.toNat)
      else none).getD [] = memory.bytes address size.toNat := by
  split
  next => rfl
  next empty =>
    have zero : size.toNat = 0 := by
      simpa [BitVec.lt_def] using empty
    simp [zero]

/-- An accepted frame of the right length is what the packet encodes. -/
theorem encodes_of_lengthMatches
    {msgType : MsgType}
    (recvCB : dump.recvCB = true)
    (fits : env.incoming.length ≤ dump.maxPacketSize)
    (room : FrameLayout.transaction.headerSize ≤ dump.maxPacketSize)
    {packet : TransactionPacket}
    (fresh : packet.buffer = none)
    (accepts : dump.Accepts msgType env)
    (length : FrameLayout.transaction.LengthMatches env.incoming) :
    (dump.receive packet msgType env).2.Encodes env.incoming := by
  simp only [FrameLayout.transaction] at room
  have size_eq : (dump.polledHeader env).dataBufferSize.toNat =
      FrameLayout.transaction.declaredSize env.incoming := by
    have byte := recvByteBuffer_eq_getD recvCB fits (i := 10) (by omega)
    simp [polledHeader, TranscationHeader.decode, fromBytes,
      FrameLayout.declaredSize, FrameLayout.transaction, byte]
  unfold TransactionPacket.Encodes
  rw [receive_header packet accepts, receive_buffer packet accepts, fresh,
    payload_getD, accepts.msgType, ← accepts.2.1]
  simp only [polledHeader, TranscationHeader.fieldBytes_decode]
  conv_lhs => rw [← bytes_recvByteBuffer recvCB fits]
  rw [length, ← size_eq]
  simp only [FrameLayout.transaction, polledHeader]
  rw [show (11 : Nat) = 1 + 10 by rfl, View.bytes_add, View.bytes_add]
  rfl

theorem encodes_block_of_lengthMatches
    {msgType : MsgType}
    (recvCB : dump.recvCB = true)
    (fits : env.incoming.length ≤ dump.maxPacketSize)
    (room : FrameLayout.block.headerSize ≤ dump.maxPacketSize)
    {packet : BlockTxRxPacket}
    (fresh : packet.buffer = none)
    (accepts : dump.AcceptsBlock msgType env)
    (length : FrameLayout.block.LengthMatches env.incoming) :
    (dump.receiveBlock packet msgType env).2.Encodes env.incoming := by
  simp only [FrameLayout.block] at room
  have size_eq : (dump.polledBlockHeader env).dataBufferSize.toNat =
      FrameLayout.block.declaredSize env.incoming := by
    have byte := recvByteBuffer_eq_getD recvCB fits (i := 4) (by omega)
    simp [polledBlockHeader, BlockHeader.decode, fromBytes,
      FrameLayout.declaredSize, FrameLayout.block, byte]
  have type_eq : (dump.polledBlockHeader env).msgType = msgType := by
    simp [polledBlockHeader, BlockHeader.decode, accepts.2.1]
  unfold BlockTxRxPacket.Encodes
  rw [receiveBlock_header packet accepts, receiveBlock_buffer packet accepts,
    fresh, payload_getD, type_eq, ← accepts.2.1]
  simp only [polledBlockHeader, BlockHeader.fieldBytes_decode]
  conv_lhs => rw [← bytes_recvByteBuffer recvCB fits]
  rw [length, ← size_eq]
  simp only [FrameLayout.block, polledBlockHeader]
  rw [show (5 : Nat) = 1 + 4 by rfl, View.bytes_add, View.bytes_add]
  rfl

/-- The length check that `receive` leaves out decides whether it accepts
exactly the well-formed frames. -/
theorem receivesExactly_iff
    {layout : FrameLayout}
    {msgType : MsgType}
    {frame : List Byte}
    {recvLen : Nat}
    {encodes accepts : Prop}
    (accepted : recvLen ≠ 0 ↔ accepts)
    (accepts_iff : accepts ↔
      frame.getD 0 0 = msgType.toByte ∧ layout.CrcMatches frame)
    (length_eq : accepts → recvLen = frame.length)
    (encodes_of : accepts → layout.LengthMatches frame → encodes) :
    ReceivesExactly layout msgType frame recvLen encodes ↔
      (frame.getD 0 0 = msgType.toByte → layout.CrcMatches frame →
        layout.LengthMatches frame) := by
  constructor
  · rintro ⟨exact_, -⟩ typed checked
    have accepts' := accepts_iff.mpr ⟨typed, checked⟩
    exact (exact_.mp (accepted.mpr accepts')).2.1
  · intro lengths
    refine ⟨?_, ?_⟩
    · rw [accepted, accepts_iff]
      constructor
      · rintro ⟨typed, checked⟩
        exact ⟨typed, lengths typed checked, checked⟩
      · rintro ⟨typed, -, checked⟩
        exact ⟨typed, checked⟩
    · intro positive
      have accepts' := accepted.mp positive
      obtain ⟨typed, checked⟩ := accepts_iff.mp accepts'
      exact ⟨length_eq accepts', encodes_of accepts' (lengths typed checked)⟩

/-- Both `receive` functions treat a frame exactly as the wire format asks if
and only if its type is wrong, its crc field is wrong, or its length agrees
with its declared payload.  The packet may be any; what it held as payload
stays there only if the frame has none. -/
theorem receive_exact_iff
    (dump : DataDump)
    (msgType : MsgType)
    (env : Environment)
    (recvCB : dump.recvCB = true)
    (nonempty : env.incoming ≠ [])
    (fits : env.incoming.length ≤ dump.maxPacketSize) :
    (FrameLayout.transaction.headerSize ≤ dump.maxPacketSize →
      ∀ packet : TransactionPacket,
        (ReceivesExactly .transaction msgType env.incoming
            (dump.receive packet msgType env).1
            (packet.buffer = none →
              (dump.receive packet msgType env).2.Encodes env.incoming) ↔
          (env.incoming.getD 0 0 = msgType.toByte →
            FrameLayout.transaction.CrcMatches env.incoming →
            FrameLayout.transaction.LengthMatches env.incoming))) ∧
    (FrameLayout.block.headerSize ≤ dump.maxPacketSize →
      ∀ packet : BlockTxRxPacket,
        (ReceivesExactly .block msgType env.incoming
            (dump.receiveBlock packet msgType env).1
            (packet.buffer = none →
              (dump.receiveBlock packet msgType env).2.Encodes env.incoming) ↔
          (env.incoming.getD 0 0 = msgType.toByte →
            FrameLayout.block.CrcMatches env.incoming →
            FrameLayout.block.LengthMatches env.incoming))) := by
  constructor
  · intro room packet
    refine receivesExactly_iff (receive_ne_zero_iff packet msgType)
      (accepts_iff_of_fits recvCB nonempty fits room) ?_
      fun accepts length fresh =>
        encodes_of_lengthMatches recvCB fits room fresh accepts length
    intro accepts
    rw [receive_fst, if_pos accepts, delivered_of_fits recvCB fits]
  · intro room packet
    refine receivesExactly_iff (receiveBlock_ne_zero_iff packet msgType)
      (acceptsBlock_iff_of_fits recvCB nonempty fits room) ?_
      fun accepts length fresh =>
        encodes_block_of_lengthMatches recvCB fits room fresh accepts length
    intro accepts
    rw [receiveBlock_fst, if_pos accepts, delivered_of_fits recvCB fits]

/-- A receiver with all callbacks and room for sixteen bytes. -/
def exampleReceiver : DataDump where
  maxPacketSize := 16
  sendCB := true
  recvCB := true
  consumerCB := true
  notifyCB := true

/-- A request without payload that has its declared length is received exactly,
by a packet that has received a frame of another type before. -/
theorem receive_exact_request :
    let packet : TransactionPacket :=
      { header := { msgType := .blockAck, transactionID := 9 } }
    let received := exampleReceiver.receive packet .request
      { incoming := [1, 0, 0, 0, 0, 7, 2, 16, 0, 0, 0] }
    ReceivesExactly .transaction .request [1, 0, 0, 0, 0, 7, 2, 16, 0, 0, 0]
      received.1
      (packet.buffer = none →
        received.2.Encodes [1, 0, 0, 0, 0, 7, 2, 16, 0, 0, 0]) :=
  ((receive_exact_iff exampleReceiver .request
    { incoming := [1, 0, 0, 0, 0, 7, 2, 16, 0, 0, 0] } rfl (by decide)
    (by decide)).1 (by decide) _).mpr fun _ _ => by decide

/-- A request that declares five bytes of payload and carries none is accepted
all the same. -/
theorem receive_inexact_overDeclared :
    ¬ReceivesExactly .transaction .request [1, 0, 0, 0, 0, 7, 2, 16, 0, 0, 5]
      (exampleReceiver.receive {} .request
        { incoming := [1, 0, 0, 0, 0, 7, 2, 16, 0, 0, 5] }).1
      ((exampleReceiver.receive {} .request
        { incoming := [1, 0, 0, 0, 0, 7, 2, 16, 0, 0, 5] }).2.Encodes
          [1, 0, 0, 0, 0, 7, 2, 16, 0, 0, 5]) := by
  rintro ⟨exact_, -⟩
  have accepted : (exampleReceiver.receive {} .request
      { incoming := [1, 0, 0, 0, 0, 7, 2, 16, 0, 0, 5] }).1 ≠ 0 := by decide
  exact absurd (exact_.mp accepted).2.1 (by decide)

end DataDump

end DataDumpProtocol

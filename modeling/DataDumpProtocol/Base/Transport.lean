import DataDumpProtocol.Base.State

/-!
# What `send` and `receive` do to a frame

`receive` looks at the first byte and at the crc field of the buffer it polled
into; these lemmas say when it accepts and what the packet holds afterwards.
`send` of a packet without payload hands over its header, and `sendBlock` of a
packet with payload hands over its whole image, when they fit.
-/

namespace DataDumpProtocol

open LittleEndian

namespace DataDump

variable {dump : DataDump} {env : Environment}

/-! ## Receiving -/

theorem length_delivered_le (dump : DataDump) (env : Environment) :
    (dump.delivered env).length ≤ dump.maxPacketSize := by
  unfold delivered
  split
  next fits =>
    simp only [Bool.and_eq_true, decide_eq_true_eq] at fits
    exact fits.2
  next => simp

/-- A frame that fits is delivered as it is. -/
theorem delivered_of_fits
    (recvCB : dump.recvCB = true)
    (fits : env.incoming.length ≤ dump.maxPacketSize) :
    dump.delivered env = env.incoming := by
  simp [delivered, recvCB, fits]

/-- Inside the receive buffer stands the frame, with zeros behind it. -/
theorem recvByteBuffer_of_lt
    {i : Nat}
    (inside : i < dump.maxPacketSize) :
    dump.recvByteBuffer env i = (dump.delivered env).getD i 0 := by
  have fits := length_delivered_le dump env
  unfold recvByteBuffer
  rw [View.ofList_of_lt _ (by simp; omega)]
  by_cases inFrame : i < (dump.delivered env).length
  · rw [List.getElem_append_left inFrame, List.getD_eq_getElem _ _ inFrame]
  · rw [List.getElem_append_right (Nat.le_of_not_lt inFrame),
      List.getElem_replicate, List.getD_eq_default _ _ (by omega)]

section ReceiveWith

variable {Packet : Type}
variable {deserialize : Packet → View → Option Nat → Nat → Bool × Packet}
variable {getCrc : Packet → Crc}
variable {packet : Packet} {msgType : MsgType}

/-- The packet that decoding the polled bytes into `packet` gives. -/
abbrev decoded
    (deserialize : Packet → View → Option Nat → Nat → Bool × Packet)
    (dump : DataDump)
    (packet : Packet)
    (env : Environment) : Packet :=
  (deserialize packet (dump.recvByteBuffer env) (some 0)
    (dump.delivered env).length).2

/-- `receive` decodes into its packet as soon as the type is right, and returns
the frame's length when the crc is, too. -/
theorem receiveWith_eq :
    receiveWith deserialize getCrc dump packet msgType env =
      if dump.delivered env ≠ [] ∧
          dump.recvByteBuffer env 0 = msgType.toByte then
        (if getCrc (decoded deserialize dump packet env) = 0#16 then
            (dump.delivered env).length
          else 0,
          decoded deserialize dump packet env)
      else (0, packet) := by
  unfold receiveWith
  by_cases nonempty : dump.delivered env = []
  · simp [nonempty]
  · have positive := List.length_pos_iff.mpr nonempty
    by_cases typed : dump.recvByteBuffer env 0 = msgType.toByte
    · by_cases checked : getCrc (decoded deserialize dump packet env) = 0#16
      · simp [positive, nonempty, typed, checked, CRC16.generate]
      · simp [positive, nonempty, typed, checked, CRC16.generate]
    · simp [positive, nonempty, typed]

theorem receiveWith_fst :
    (receiveWith deserialize getCrc dump packet msgType env).1 =
      if dump.delivered env ≠ [] ∧
          dump.recvByteBuffer env 0 = msgType.toByte ∧
          getCrc (decoded deserialize dump packet env) = 0#16 then
        (dump.delivered env).length
      else 0 := by
  rw [receiveWith_eq]
  split
  next typed => simp [typed]
  next other => exact (if_neg fun all => other ⟨all.1, all.2.1⟩).symm

theorem receiveWith_snd :
    (receiveWith deserialize getCrc dump packet msgType env).2 =
      if dump.delivered env ≠ [] ∧
          dump.recvByteBuffer env 0 = msgType.toByte then
        decoded deserialize dump packet env
      else packet := by
  rw [receiveWith_eq]
  split <;> rfl

end ReceiveWith

/-- The header that the polled bytes decode to. -/
def polledHeader (dump : DataDump) (env : Environment) : TranscationHeader :=
  .decode (dump.recvByteBuffer env) 0

/-- The block header that the polled bytes decode to. -/
def polledBlockHeader (dump : DataDump) (env : Environment) : BlockHeader :=
  .decode (dump.recvByteBuffer env) 0

/-- The polled bytes pass the checks of `receive`. -/
def Accepts (dump : DataDump) (msgType : MsgType) (env : Environment) : Prop :=
  dump.delivered env ≠ [] ∧
    dump.recvByteBuffer env 0 = msgType.toByte ∧
    (dump.polledHeader env).crc = 0#16

/-- The polled bytes pass the checks of `receive` for block packets. -/
def AcceptsBlock
    (dump : DataDump)
    (msgType : MsgType)
    (env : Environment) : Prop :=
  dump.delivered env ≠ [] ∧
    dump.recvByteBuffer env 0 = msgType.toByte ∧
    (dump.polledBlockHeader env).crc = 0#16

instance (dump : DataDump) (msgType : MsgType) (env : Environment) :
    Decidable (dump.Accepts msgType env) :=
  inferInstanceAs (Decidable (_ ∧ _))

instance (dump : DataDump) (msgType : MsgType) (env : Environment) :
    Decidable (dump.AcceptsBlock msgType env) :=
  inferInstanceAs (Decidable (_ ∧ _))

theorem receive_fst
    (packet : TransactionPacket)
    (msgType : MsgType) :
    (dump.receive packet msgType env).1 =
      if dump.Accepts msgType env then (dump.delivered env).length else 0 := by
  simp only [receive, receiveWith_fst, TransactionPacket.deserialize_header]
  rfl

theorem receiveBlock_fst
    (packet : BlockTxRxPacket)
    (msgType : MsgType) :
    (dump.receiveBlock packet msgType env).1 =
      if dump.AcceptsBlock msgType env then (dump.delivered env).length
      else 0 := by
  simp only [receiveBlock, receiveWith_fst, BlockTxRxPacket.deserialize_header]
  rfl

/-- `receive` returns a positive length exactly when it accepts. -/
theorem receive_ne_zero_iff
    (packet : TransactionPacket)
    (msgType : MsgType) :
    (dump.receive packet msgType env).1 ≠ 0 ↔ dump.Accepts msgType env := by
  rw [receive_fst]
  constructor
  · intro positive
    by_contra rejected
    simp [rejected] at positive
  · intro accepts
    simp [accepts, accepts.1]

theorem receiveBlock_ne_zero_iff
    (packet : BlockTxRxPacket)
    (msgType : MsgType) :
    (dump.receiveBlock packet msgType env).1 ≠ 0 ↔
      dump.AcceptsBlock msgType env := by
  rw [receiveBlock_fst]
  constructor
  · intro positive
    by_contra rejected
    simp [rejected] at positive
  · intro accepts
    simp [accepts, accepts.1]

/-- After an accepted frame the packet's header is the polled one. -/
theorem receive_header
    (packet : TransactionPacket)
    {msgType : MsgType}
    (accepts : dump.Accepts msgType env) :
    (dump.receive packet msgType env).2.header = dump.polledHeader env := by
  simp [receive, receiveWith_snd, accepts.1, accepts.2.1, decoded,
    polledHeader]

theorem receiveBlock_header
    (packet : BlockTxRxPacket)
    {msgType : MsgType}
    (accepts : dump.AcceptsBlock msgType env) :
    (dump.receiveBlock packet msgType env).2.header =
      dump.polledBlockHeader env := by
  simp [receiveBlock, receiveWith_snd, accepts.1, accepts.2.1, decoded,
    polledBlockHeader]

/-- After an accepted frame the payload is the declared number of polled
bytes, or the packet's earlier payload when that number is zero. -/
theorem receive_buffer
    (packet : TransactionPacket)
    {msgType : MsgType}
    (accepts : dump.Accepts msgType env) :
    (dump.receive packet msgType env).2.buffer =
      if 0#8 < (dump.polledHeader env).dataBufferSize then
        some ((dump.recvByteBuffer env).bytes 11
          (dump.polledHeader env).dataBufferSize.toNat)
      else packet.buffer := by
  simp only [receive, receiveWith_snd, ne_eq, accepts.1, not_false_eq_true,
    accepts.2.1, and_self, if_true, decoded,
    TransactionPacket.deserialize_buffer, Nat.zero_add]
  rfl

theorem receiveBlock_buffer
    (packet : BlockTxRxPacket)
    {msgType : MsgType}
    (accepts : dump.AcceptsBlock msgType env) :
    (dump.receiveBlock packet msgType env).2.buffer =
      if 0#8 < (dump.polledBlockHeader env).dataBufferSize then
        some ((dump.recvByteBuffer env).bytes 5
          (dump.polledBlockHeader env).dataBufferSize.toNat)
      else packet.buffer := by
  simp only [receiveBlock, receiveWith_snd, ne_eq, accepts.1,
    not_false_eq_true, accepts.2.1, and_self, if_true, decoded,
    BlockTxRxPacket.deserialize_buffer, Nat.zero_add]
  rfl

/-- The type of an accepted header is the expected one. -/
theorem Accepts.msgType
    {msgType : MsgType}
    (accepts : dump.Accepts msgType env) :
    (dump.polledHeader env).msgType = msgType := by
  simp [polledHeader, TranscationHeader.decode, accepts.2.1]

/-! ## Sending -/

/-- The frame of a packet without payload, written over zeros. -/
def controlFrame (packet : TransactionPacket) : List Byte :=
  packet.header.typeByte 0 :: packet.header.fieldBytes

@[simp] theorem length_controlFrame (packet : TransactionPacket) :
    (controlFrame packet).length = 11 := by
  simp [controlFrame]

/-- `send` hands over the header of a packet without payload, and leaves the
packet as it was. -/
theorem send_of_empty
    (packet : TransactionPacket)
    (empty : packet.header.dataBufferSize = 0#8) :
    dump.send packet (.ofNat 8 packet.getPacketSize) env =
      if 11 ≤ dump.maxPacketSize ∧ dump.sendCB = true then
        (env.sendAccepted, packet,
          [.sent (controlFrame packet) env.sendAccepted])
      else
        (false, packet, []) := by
  have size_eq : (BitVec.ofNat 8 packet.getPacketSize).toNat = 11 := by
    simp [TransactionPacket.getPacketSize, empty]
  have written := View.bytes_write (fun _ => 0) 0 (controlFrame packet)
  rw [length_controlFrame] at written
  unfold send
  rw [size_eq]
  by_cases room : 11 ≤ dump.maxPacketSize
  · rw [if_neg (Nat.not_lt.mpr room),
      TransactionPacket.serialize_of_empty packet _ 0 11 empty (by simp)]
    simp only [room, decide_true, Bool.and_true, true_and]
    split
    next => simpa [controlFrame] using written
    next => rfl
  · rw [if_pos (Nat.lt_of_not_le room), if_neg (fun both => room both.1)]

/-- `sendBlock` hands over the whole image of a packet with payload, when it
fits. -/
theorem sendBlock_of_payload
    (packet : BlockTxRxPacket)
    (payload : 0#8 < packet.header.dataBufferSize)
    (fits : packet.getPacketSize ≤ dump.maxPacketSize)
    (byteSized : dump.maxPacketSize < 2 ^ 8) :
    dump.sendBlock packet (.ofNat 8 packet.getPacketSize) env =
      if dump.sendCB = true then
        (env.sendAccepted,
          [.sent (packet.image env.beyond 0) env.sendAccepted])
      else
        (false, []) := by
  have size_eq : (BitVec.ofNat 8 packet.getPacketSize).toNat =
      packet.getPacketSize := by
    rw [BitVec.toNat_ofNat]
    exact Nat.mod_eq_of_lt (by omega)
  have written :=
    View.bytes_write (fun _ => 0) 0 (packet.image env.beyond 0)
  rw [BlockTxRxPacket.length_image] at written
  unfold sendBlock
  rw [size_eq, if_neg (Nat.not_lt.mpr fits),
    BlockTxRxPacket.serialize_of_payload packet _ _ 0 _ payload fits]
  simp only [size_eq, fits, decide_true, Bool.and_true, written]

/-- `sendBlock` of a packet without payload hands over an empty frame. -/
theorem sendBlock_of_empty
    (packet : BlockTxRxPacket)
    (empty : packet.header.dataBufferSize = 0#8)
    (room : 5 ≤ dump.maxPacketSize) :
    dump.sendBlock packet (.ofNat 8 packet.getPacketSize) env =
      if dump.sendCB = true then
        (env.sendAccepted, [.sent [] env.sendAccepted])
      else
        (false, []) := by
  have size_eq : (BitVec.ofNat 8 packet.getPacketSize).toNat = 5 := by
    simp [BlockTxRxPacket.getPacketSize, empty]
  have zero := packet.serialize_of_empty env.beyond (fun _ => 0) (some 0)
    dump.maxPacketSize empty
  unfold sendBlock
  rw [size_eq, if_neg (Nat.not_lt.mpr room)]
  generalize packet.serialize env.beyond (fun _ => 0) (some 0)
    dump.maxPacketSize = result at zero ⊢
  obtain ⟨written, buffer⟩ := result
  obtain rfl : written = 0 := zero
  simp

end DataDump

end DataDumpProtocol

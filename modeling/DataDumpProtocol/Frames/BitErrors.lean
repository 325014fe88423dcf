import DataDumpProtocol.Frames.Acceptance

/-!
# Which bit errors `receive` detects

The checksum function returns zero for every frame and `generateCRC` stores
nothing, so a frame is accepted when its crc field is zero.  Flipping one bit
is noticed in the type byte and in the crc field, and nowhere else.
-/

namespace DataDumpProtocol

open LittleEndian

/-- A frame with one bit flipped. -/
def flipBit (frame : List Byte) (position bit : Nat) : List Byte :=
  frame.modify position fun byte => byte ^^^ 1#8 <<< bit

@[simp] theorem length_flipBit (frame : List Byte) (position bit : Nat) :
    (flipBit frame position bit).length = frame.length := by
  simp [flipBit]

theorem getD_flipBit_of_ne
    (frame : List Byte)
    {position i : Nat}
    (bit : Nat)
    (different : position ≠ i) :
    (flipBit frame position bit).getD i 0 = frame.getD i 0 := by
  simp [flipBit, different]

theorem getD_flipBit_ne
    (frame : List Byte)
    {position bit : Nat}
    (inside : position < frame.length)
    (inByte : bit < 8) :
    (flipBit frame position bit).getD position 0 ≠ frame.getD position 0 := by
  have flipped : (flipBit frame position bit).getD position 0 =
      frame[position] ^^^ 1#8 <<< bit := by
    simp [flipBit, inside]
  rw [flipped, List.getD_eq_getElem _ _ inside]
  intro same
  have bits := congrArg (BitVec.getLsbD · bit) same
  simp [inByte] at bits

theorem flipBit_of_le
    (frame : List Byte)
    {position : Nat}
    (bit : Nat)
    (outside : frame.length ≤ position) :
    flipBit frame position bit = frame := by
  apply List.ext_getElem (length_flipBit frame position bit)
  intro i _ inside
  simp only [flipBit, List.getElem_modify]
  rw [if_neg (by omega)]

/-- The byte at this position is checked on receipt. -/
def FrameLayout.Checked (layout : FrameLayout) (position : Nat) : Prop :=
  position = 0 ∨ position = layout.crcOffset ∨
    position = layout.crcOffset + 1

/-- The checks that `receive` makes of a frame. -/
def FrameLayout.Passes
    (layout : FrameLayout)
    (msgType : MsgType)
    (frame : List Byte) : Prop :=
  frame.getD 0 0 = msgType.toByte ∧ layout.CrcMatches frame

theorem FrameLayout.crcMatches_iff
    (layout : FrameLayout)
    (frame : List Byte) :
    layout.CrcMatches frame ↔
      frame.getD layout.crcOffset 0 = 0 ∧
        frame.getD (layout.crcOffset + 1) 0 = 0 := by
  unfold CrcMatches crcField CRC16.generate
  rw [fromBytes_eq_zero_iff _ (by decide)]
  constructor
  · intro zeros
    exact ⟨zeros 0 (by decide), zeros 1 (by decide)⟩
  · rintro ⟨low, high⟩ i inside
    match i, inside with
    | 0, _ => exact low
    | 1, _ => exact high

/-- A flipped bit of a frame that passes is noticed exactly in the bytes that
are checked. -/
theorem FrameLayout.passes_flipBit_iff
    (layout : FrameLayout)
    {msgType : MsgType}
    {frame : List Byte}
    {position bit : Nat}
    (passes : layout.Passes msgType frame)
    (inside : position < frame.length)
    (inByte : bit < 8) :
    layout.Passes msgType (flipBit frame position bit) ↔
      ¬layout.Checked position := by
  have changed := getD_flipBit_ne frame inside inByte
  obtain ⟨typed, checked⟩ := passes
  rw [crcMatches_iff] at checked
  unfold Passes Checked
  rw [crcMatches_iff]
  constructor
  · rintro ⟨typed', low, high⟩ (rfl | rfl | rfl)
    · exact changed (typed'.trans typed.symm)
    · exact changed (low.trans checked.1.symm)
    · exact changed (high.trans checked.2.symm)
  · intro unchecked
    push Not at unchecked
    obtain ⟨notType, notLow, notHigh⟩ := unchecked
    rw [getD_flipBit_of_ne frame bit notType,
      getD_flipBit_of_ne frame bit notLow,
      getD_flipBit_of_ne frame bit notHigh]
    exact ⟨typed, checked⟩

/-- A control frame passes the checks for its own type exactly when its crc
field is zero and its type is written to the wire at all. -/
theorem passes_controlFrame_iff (packet : TransactionPacket) :
    FrameLayout.transaction.Passes packet.header.msgType
        (DataDump.controlFrame packet) ↔
      packet.header.crc = 0#16 ∧ packet.header.msgType ≠ .blockAckNot := by
  have crc_eq : FrameLayout.transaction.crcField
      (DataDump.controlFrame packet) = packet.header.crc := by
    rw [← fromBytes_toByte packet.header.crc (by decide : 16 ≤ 2 * 8)]
    apply fromBytes_congr
    intro i inside
    match i, inside with
    | 0, _ => rfl
    | 1, _ => rfl
  unfold FrameLayout.Passes FrameLayout.CrcMatches CRC16.generate
  rw [crc_eq]
  have type_eq : (DataDump.controlFrame packet).getD 0 0 =
      packet.header.typeByte 0 := rfl
  rw [type_eq, TranscationHeader.typeByte]
  cases packet.header.msgType <;> simp [MsgType.toByte]

/-- The image of a block packet passes the checks for its own type exactly
when its crc field is zero and its type is written to the wire at all. -/
theorem passes_image_iff (packet : BlockTxRxPacket) (beyond : View) :
    FrameLayout.block.Passes packet.header.msgType
        (packet.image beyond 0) ↔
      packet.header.crc = 0#16 ∧ packet.header.msgType ≠ .blockAckNot := by
  have crc_eq : FrameLayout.block.crcField (packet.image beyond 0) =
      packet.header.crc := by
    rw [← fromBytes_toByte packet.header.crc (by decide : 16 ≤ 2 * 8)]
    apply fromBytes_congr
    intro i inside
    match i, inside with
    | 0, _ => rfl
    | 1, _ => rfl
  unfold FrameLayout.Passes FrameLayout.CrcMatches CRC16.generate
  rw [crc_eq]
  have type_eq : (packet.image beyond 0).getD 0 0 =
      packet.header.typeByte 0 := rfl
  rw [type_eq, BlockHeader.typeByte]
  cases packet.header.msgType <;> simp [MsgType.toByte]

/-- `recvLen`, the result of `receive` for a frame, is positive for this frame
and zero once the bit is flipped. -/
def DetectsFlip
    (recvLen : List Byte → Nat)
    (frame : List Byte)
    (position bit : Nat) : Prop :=
  recvLen frame ≠ 0 ∧ recvLen (flipBit frame position bit) = 0

/-- When the frames that are accepted are those that pass the checks, a flip
is detected exactly in a checked byte of a frame that passes. -/
theorem detectsFlip_iff_of_passes
    {layout : FrameLayout}
    {msgType : MsgType}
    {recvLen : List Byte → Nat}
    {frame : List Byte}
    {position bit : Nat}
    (accepts : ∀ candidate : List Byte, candidate.length = frame.length →
      (recvLen candidate ≠ 0 ↔ layout.Passes msgType candidate))
    (header : layout.crcOffset + 1 < frame.length)
    (inByte : bit < 8) :
    DetectsFlip recvLen frame position bit ↔
      layout.Passes msgType frame ∧ layout.Checked position := by
  have unflipped := accepts frame rfl
  have flipped := accepts (flipBit frame position bit)
    (length_flipBit frame position bit)
  unfold DetectsFlip
  rw [unflipped]
  apply and_congr_right
  intro passes
  by_cases inside : position < frame.length
  · rw [layout.passes_flipBit_iff passes inside inByte] at flipped
    constructor
    · intro refused
      by_contra unchecked
      exact flipped.mpr unchecked refused
    · intro checked
      by_contra accepted
      exact flipped.mp accepted checked
  · rw [flipBit_of_le frame bit (Nat.le_of_not_lt inside)]
    constructor
    · intro refused
      exact absurd refused (unflipped.mpr passes)
    · rintro (rfl | rfl | rfl) <;> omega

section Peer

variable {peer : DataDump} {env : Environment}
variable (recvCB : peer.recvCB = true)

include recvCB

/-- What a peer accepts of the frames of a given length. -/
theorem receive_ne_zero_iff_passes
    (target : TransactionPacket)
    (msgType : MsgType)
    {frame : List Byte}
    (header : FrameLayout.transaction.headerSize ≤ frame.length)
    (fits : frame.length ≤ peer.maxPacketSize) :
    (peer.receive target msgType { env with incoming := frame }).1 ≠ 0 ↔
      FrameLayout.transaction.Passes msgType frame := by
  rw [DataDump.receive_ne_zero_iff]
  refine DataDump.accepts_iff_of_fits recvCB ?_ fits (header.trans fits)
  rintro rfl
  simp [FrameLayout.transaction] at header

theorem receiveBlock_ne_zero_iff_passes
    (target : BlockTxRxPacket)
    (msgType : MsgType)
    {frame : List Byte}
    (header : FrameLayout.block.headerSize ≤ frame.length)
    (fits : frame.length ≤ peer.maxPacketSize) :
    (peer.receiveBlock target msgType { env with incoming := frame }).1 ≠ 0 ↔
      FrameLayout.block.Passes msgType frame := by
  rw [DataDump.receiveBlock_ne_zero_iff]
  refine DataDump.acceptsBlock_iff_of_fits recvCB ?_ fits (header.trans fits)
  rintro rfl
  simp [FrameLayout.block] at header

end Peer

/-- The frame that `sendBlock` hands over for a packet with payload: the whole
image, or an empty frame when the packet does not fit. -/
theorem sent_sendBlock
    {sender : DataDump}
    {packet : BlockTxRxPacket}
    {env : Environment}
    {frame : List Byte}
    {accepted : Bool}
    (byteSized : sender.maxPacketSize < 2 ^ 8)
    (payload : 0#8 < packet.header.dataBufferSize)
    (sent : .sent frame accepted ∈
      (sender.sendBlock packet (.ofNat 8 packet.getPacketSize) env).2) :
    (packet.getPacketSize ≤ sender.maxPacketSize ∧
        frame = packet.image env.beyond 0) ∨
      (¬packet.getPacketSize ≤ sender.maxPacketSize ∧ frame = []) := by
  by_cases fits : packet.getPacketSize ≤ sender.maxPacketSize
  · left
    rw [DataDump.sendBlock_of_payload packet payload fits byteSized] at sent
    split at sent
    next =>
      simp only [List.mem_singleton, Event.sent.injEq] at sent
      exact ⟨fits, sent.1⟩
    next => simp at sent
  · right
    refine ⟨fits, ?_⟩
    unfold DataDump.sendBlock at sent
    rw [BlockTxRxPacket.serialize_of_tooLong _ _ _ _ _
      (Nat.lt_of_not_le fits)] at sent
    split at sent
    next => simp at sent
    next =>
      simp only [BitVec.ofNat_eq_ofNat, BitVec.toNat_ofNat, Nat.zero_mod,
        View.bytes_zero] at sent
      split at sent
      next =>
        simp only [List.mem_singleton, Event.sent.injEq] at sent
        exact sent.1
      next => simp at sent

/-- A peer that is sent a control packet, or a block packet with payload,
accepts the frame and detects a flipped bit exactly when the crc field was
zero, the type is not `BLOCK_ACKNOT`, the packet fits the sender's limit, and
the bit is in the type byte or in the crc field. -/
theorem detects_flip_iff
    (sender peer : DataDump)
    (sending receiving : Environment)
    (recvCB : peer.recvCB = true)
    (byteSized : sender.maxPacketSize < 2 ^ 8)
    (frame : List Byte)
    (accepted : Bool)
    (fits : frame.length ≤ peer.maxPacketSize)
    (position bit : Nat)
    (inByte : bit < 8) :
    (∀ packet target : TransactionPacket,
      packet.header.dataBufferSize = 0#8 →
      .sent frame accepted ∈
        (sender.send packet.generateCRC.2
          (.ofNat 8 packet.generateCRC.2.getPacketSize) sending).2.2 →
      (DetectsFlip
          (fun incoming => (peer.receive target packet.header.msgType
            { receiving with incoming := incoming }).1)
          frame position bit ↔
        packet.header.crc = 0#16 ∧ packet.header.msgType ≠ .blockAckNot ∧
          FrameLayout.transaction.Checked position)) ∧
    (∀ packet target : BlockTxRxPacket,
      0#8 < packet.header.dataBufferSize →
      .sent frame accepted ∈
        (sender.sendBlock packet.generateCRC.2
          (.ofNat 8 packet.generateCRC.2.getPacketSize) sending).2 →
      (DetectsFlip
          (fun incoming => (peer.receiveBlock target packet.header.msgType
            { receiving with incoming := incoming }).1)
          frame position bit ↔
        packet.header.crc = 0#16 ∧ packet.header.msgType ≠ .blockAckNot ∧
          packet.getPacketSize ≤ sender.maxPacketSize ∧
          FrameLayout.block.Checked position)) := by
  constructor
  · intro packet target empty sent
    have frame_eq : frame = DataDump.controlFrame packet := by
      simp only [TransactionPacket.generateCRC] at sent
      rw [DataDump.send_of_empty packet empty] at sent
      split at sent
      next => simpa using (Event.sent.inj (List.mem_singleton.mp sent)).1
      next => simp at sent
    have length_eq : frame.length = 11 := by simp [frame_eq]
    rw [@detectsFlip_iff_of_passes .transaction packet.header.msgType _ _ _ _
        _ _ inByte, frame_eq, passes_controlFrame_iff, and_assoc]
    · intro candidate same
      exact receive_ne_zero_iff_passes recvCB target _
        (by simp [FrameLayout.transaction]; omega) (by omega)
    · simp [FrameLayout.transaction]; omega
  · intro packet target payload sent
    rcases sent_sendBlock byteSized payload sent with
      ⟨room, frame_eq⟩ | ⟨noRoom, rfl⟩
    · have length_eq : frame.length = packet.getPacketSize := by
        simp [frame_eq]
      have header : 5 ≤ packet.getPacketSize := by
        simp [BlockTxRxPacket.getPacketSize]
      rw [@detectsFlip_iff_of_passes .block packet.header.msgType _ _ _ _ _ _
        inByte, frame_eq]
      · have passes := passes_image_iff packet sending.beyond
        change packet.getPacketSize ≤ sender.maxPacketSize at room
        rw [passes]
        tauto
      · intro candidate same
        exact receiveBlock_ne_zero_iff_passes recvCB target _
          (by simp [FrameLayout.block]; omega) (by omega)
      · simp [FrameLayout.block]; omega
    · constructor
      · rintro ⟨positive, -⟩
        rw [DataDump.receiveBlock_ne_zero_iff] at positive
        have nothing := positive.1
        simp [DataDump.delivered] at nothing
      · rintro ⟨-, -, room, -⟩
        exact absurd room noRoom

/-- The acknowledgement of transaction 7, whose frame the receiver accepts and
refuses with a flipped bit in its type byte. -/
theorem detects_flip_ackType :
    DetectsFlip
      (fun incoming => (DataDump.exampleReceiver.receive {} .blockAck
        { incoming := incoming }).1)
      [5, 7, 0, 0, 0, 0, 0, 0, 0, 0, 0] 0 1 :=
  ((detects_flip_iff DataDump.exampleReceiver DataDump.exampleReceiver {} {}
    rfl (by decide) [5, 7, 0, 0, 0, 0, 0, 0, 0, 0, 0] true (by decide) 0 1
    (by decide)).1
      { header := { msgType := .blockAck, transactionID := 7 } } {} rfl
      (by decide)).mpr ⟨rfl, by decide, Or.inl rfl⟩

/-- The same acknowledgement with a flipped bit in its transaction ID is
accepted too. -/
theorem misses_flip_ackTransactionId :
    .sent [5, 7, 0, 0, 0, 0, 0, 0, 0, 0, 0] true ∈
      (DataDump.exampleReceiver.send
        (TransactionPacket.generateCRC
          { header := { msgType := .blockAck, transactionID := 7 } }).2
        11 {}).2.2 ∧
    ¬DetectsFlip
      (fun incoming => (DataDump.exampleReceiver.receive {} .blockAck
        { incoming := incoming }).1)
      [5, 7, 0, 0, 0, 0, 0, 0, 0, 0, 0] 1 0 := by
  refine ⟨by decide, ?_⟩
  rintro ⟨-, refused⟩
  exact absurd refused (by decide)

end DataDumpProtocol

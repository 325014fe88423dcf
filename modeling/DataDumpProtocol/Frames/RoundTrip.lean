import DataDumpProtocol.Machines.Packets

/-!
# What was sent is what is received

A control frame decodes to the header it was made from, and a block frame to
its header and payload, whenever `receive` accepts them.
-/

namespace DataDumpProtocol

open LittleEndian

/-- The memory begins with these bytes. -/
def View.BeginsWith (memory : View) (contents : List Byte) : Prop :=
  ∀ i, i < contents.length → memory i = contents.getD i 0

theorem View.beginsWith_ofList (contents : List Byte) (beyond : View) :
    (View.ofList contents beyond).BeginsWith contents := by
  intro i inside
  rw [View.ofList_of_lt _ inside, List.getD_eq_getElem _ _ inside]

theorem View.BeginsWith.bytes_eq
    {memory : View}
    {contents : List Byte}
    (begins : memory.BeginsWith contents) :
    memory.bytes 0 contents.length = contents := by
  apply List.ext_getElem
  · simp
  · intro i _ inside
    rw [View.getElem_bytes, Nat.zero_add, begins i inside,
      List.getD_eq_getElem _ _ inside]

/-- A control frame decodes to its header, apart from a type that is not
written. -/
theorem TranscationHeader.decode_controlFrame
    {memory : View}
    {packet : TransactionPacket}
    (image : memory.BeginsWith (DataDump.controlFrame packet)) :
    decode memory 0 =
      { packet.header with
        msgType := .ofByte (packet.header.typeByte 0) } := by
  apply decode_of_bytes
  simpa [DataDump.controlFrame] using image.bytes_eq

/-- The frame of a block. -/
def blockFrame (header : BlockHeader) (payload : List Byte) : List Byte :=
  MsgType.blockTransfer.toByte :: (header.fieldBytes ++ payload)

@[simp] theorem length_blockFrame
    (header : BlockHeader)
    (payload : List Byte) :
    (blockFrame header payload).length = 5 + payload.length := by
  simp [blockFrame]
  omega

section BlockFrame

variable {memory : View} {header : BlockHeader} {payload : List Byte}
variable (image : memory.BeginsWith (blockFrame header payload))

include image

/-- A block frame stands in memory with its header in front of its payload. -/
theorem bytes_of_blockFrame :
    memory.bytes 0 5 = MsgType.blockTransfer.toByte :: header.fieldBytes ∧
      memory.bytes 5 payload.length = payload := by
  have whole := image.bytes_eq
  rw [length_blockFrame, View.bytes_add] at whole
  have split : _ = (_ :: header.fieldBytes) ++ payload := whole
  simpa using List.append_inj split (by simp)

/-- A block frame decodes to its header. -/
theorem BlockHeader.decode_blockFrame :
    decode memory 0 = { header with msgType := .blockTransfer } :=
  decode_of_bytes (bytes_of_blockFrame image).1

/-- The payload of a block frame. -/
theorem View.bytes_blockFrame : memory.bytes 5 payload.length = payload :=
  (bytes_of_blockFrame image).2

end BlockFrame

/-- The frame of a packet without payload, by its type and terms. -/
def IsControl (frame : List Byte) (msgType : MsgType) (terms : Terms) : Prop :=
  ∃ packet : TransactionPacket,
    packet.Carries msgType terms ∧ frame = DataDump.controlFrame packet

theorem TransactionPacket.Carries.isControl
    {packet : TransactionPacket}
    {msgType : MsgType}
    {terms : Terms}
    (carries : packet.Carries msgType terms) :
    IsControl (DataDump.controlFrame packet) msgType terms :=
  ⟨packet, carries, rfl⟩

/-- A control frame begins with its type, unless that is not written. -/
theorem IsControl.of_head
    {frame : List Byte}
    {msgType other : MsgType}
    {terms : Terms}
    (control : IsControl frame msgType terms)
    (head : frame.head? = some other.toByte)
    (assigned : other ≠ .unassigned) :
    msgType = other := by
  obtain ⟨packet, carries, rfl⟩ := control
  simp only [DataDump.controlFrame, List.head?_cons, Option.some.injEq,
    TranscationHeader.typeByte, carries.msgType] at head
  split at head
  next =>
    have unwritten : MsgType.unassigned.toByte = other.toByte := head
    exact absurd (MsgType.toByte_injective unwritten).symm assigned
  next => exact MsgType.toByte_injective head

/-- A block packet becomes a block frame, or nothing without payload. -/
theorem BlockTxRxPacket.Holds.frame_cases
    {packet : BlockTxRxPacket}
    {limit : Nat}
    {payload : List Byte}
    (holds : packet.Holds limit payload)
    (beyond : View) :
    (payload = [] ∧ packet.frame beyond = []) ∨
      (payload ≠ [] ∧
        packet.frame beyond = blockFrame packet.header payload) := by
  by_cases empty : payload = []
  · rw [empty] at holds
    exact .inl ⟨empty, holds.frame_nil beyond⟩
  · exact .inr ⟨empty, holds.frame_eq empty beyond⟩

namespace DataDump

variable {dump : DataDump} {env : Environment} {msgType : MsgType}

/-- A frame that reaches `receive` reaches it whole. -/
theorem beginsWith_of_delivered (delivered : dump.delivered env ≠ []) :
    (dump.recvByteBuffer env).BeginsWith env.incoming := by
  unfold DataDump.delivered at delivered
  split at delivered
  next fits =>
    simp only [Bool.and_eq_true, decide_eq_true_eq] at fits
    intro i inside
    rw [recvByteBuffer_of_lt (by omega), delivered_of_fits fits.1 fits.2]
  next => simp at delivered

/-- A frame that passes the filter of `receive` begins with that type. -/
theorem head_of_delivered
    (delivered : dump.delivered env ≠ [])
    (type : dump.recvByteBuffer env 0 = msgType.toByte) :
    env.incoming.head? = some msgType.toByte := by
  have image := beginsWith_of_delivered delivered
  cases incoming : env.incoming with
  | nil => simp [DataDump.delivered, incoming] at delivered
  | cons first rest =>
      rw [incoming] at image
      rw [image 0 (by simp)] at type
      simpa using type

/-- An accepted control frame has the expected type and its own terms. -/
theorem Accepts.of_control
    {sent : MsgType}
    {terms : Terms}
    (accepts : dump.Accepts msgType env)
    (control : IsControl env.incoming sent terms)
    (assigned : msgType ≠ .unassigned) :
    sent = msgType ∧ (dump.polledHeader env).terms = terms := by
  obtain ⟨packet, carries, incoming⟩ := control
  have image := beginsWith_of_delivered accepts.1
  rw [incoming] at image
  have header : dump.polledHeader env = _ :=
    TranscationHeader.decode_controlFrame image
  have type := accepts.msgType
  rw [header] at type
  refine ⟨?_, ?_⟩
  · simp only [TranscationHeader.typeByte, carries.msgType] at type
    split at type
    next => exact absurd type.symm (by simpa [MsgType.ofByte] using assigned)
    next => simpa using type
  · rw [header, ← carries.terms]
    rfl

/-- A control frame that fits is accepted. -/
theorem accepts_of_control
    {terms : Terms}
    (control : IsControl env.incoming msgType terms)
    (written : msgType ≠ .blockAckNot)
    (recvCB : dump.recvCB = true)
    (room : 11 ≤ dump.maxPacketSize) :
    dump.Accepts msgType env := by
  obtain ⟨packet, carries, incoming⟩ := control
  have whole : dump.delivered env = controlFrame packet := by
    rw [delivered_of_fits recvCB (by simpa [incoming] using room), incoming]
  have nonempty : dump.delivered env ≠ [] := by
    rw [whole, controlFrame]
    simp
  have image := beginsWith_of_delivered nonempty
  rw [incoming] at image
  have header : dump.polledHeader env = _ :=
    TranscationHeader.decode_controlFrame image
  refine ⟨nonempty, ?_, ?_⟩
  · rw [image 0 (by simp)]
    simp [controlFrame, TranscationHeader.typeByte, carries.msgType, written]
  · rw [header]
    exact carries.crc

/-- An accepted block frame has its own header and payload. -/
theorem AcceptsBlock.of_blockFrame
    {header : BlockHeader}
    {payload : List Byte}
    (accepts : dump.AcceptsBlock msgType env)
    (incoming : env.incoming = blockFrame header payload)
    (size : header.dataBufferSize.toNat = payload.length) :
    (dump.polledBlockHeader env) =
        { header with msgType := .blockTransfer } ∧
      (dump.recvByteBuffer env).bytes 5
        (dump.polledBlockHeader env).dataBufferSize.toNat = payload := by
  have image := beginsWith_of_delivered accepts.1
  rw [incoming] at image
  have polled : dump.polledBlockHeader env = _ :=
    BlockHeader.decode_blockFrame image
  refine ⟨polled, ?_⟩
  rw [polled, size]
  exact View.bytes_blockFrame image

/-- A block frame that fits is accepted. -/
theorem acceptsBlock_of_blockFrame
    {header : BlockHeader}
    {payload : List Byte}
    (incoming : env.incoming = blockFrame header payload)
    (crc : header.crc = 0#16)
    (recvCB : dump.recvCB = true)
    (fits : 5 + payload.length ≤ dump.maxPacketSize) :
    dump.AcceptsBlock .blockTransfer env := by
  have whole : dump.delivered env = blockFrame header payload := by
    rw [delivered_of_fits recvCB (by simpa [incoming] using fits), incoming]
  have nonempty : dump.delivered env ≠ [] := by
    rw [whole, blockFrame]
    simp
  have image := beginsWith_of_delivered nonempty
  rw [incoming] at image
  have polled : dump.polledBlockHeader env = _ :=
    BlockHeader.decode_blockFrame image
  refine ⟨nonempty, ?_, ?_⟩
  · rw [image 0 (by rw [length_blockFrame]; omega)]
    rfl
  · rw [polled]
    exact crc

/-- A block frame is not taken for a control frame. -/
theorem Accepts.not_blockFrame
    {header : BlockHeader}
    {payload : List Byte}
    (accepts : dump.Accepts msgType env)
    (incoming : env.incoming = blockFrame header payload) :
    msgType = .blockTransfer := by
  have image := beginsWith_of_delivered accepts.1
  rw [incoming] at image
  have type := accepts.2.1
  rw [image 0 (by rw [length_blockFrame]; omega), blockFrame,
    List.getD_cons_zero] at type
  exact (MsgType.toByte_injective type).symm

/-- Nothing is delivered when nothing waits. -/
theorem incoming_ne_nil (delivered : dump.delivered env ≠ []) :
    env.incoming ≠ [] := by
  unfold DataDump.delivered at delivered
  split at delivered
  next => exact delivered
  next => simp at delivered

end DataDump

end DataDumpProtocol

import DataDumpProtocol.Frames.Acceptance
import DataDumpProtocol.Frames.RoundTrip

/-!
# Control messages arrive as what they are

A packet without payload is sent as its header, and its receiver recovers that
header, unless its type was not written: a `BLOCK_ACKNOT` arrives as a frame
that no `receive` of the protocol accepts.
-/

namespace DataDumpProtocol

/-- The types of the control messages that the machines send. -/
def controlTypes : List MsgType :=
  [.request, .response, .initiateBlockTransfer, .blockAck, .blockAckNot]

namespace DataDump

/-- A peer that polls this frame receives the packet with all header fields
when it waits for the packet's type, and nothing when it waits for another. -/
def ReceivesAs
    (peer : DataDump)
    (env : Environment)
    (packet : TransactionPacket) : Prop :=
  ∀ target : TransactionPacket,
    (peer.receive target packet.header.msgType env).1 = 11 ∧
      (peer.receive target packet.header.msgType env).2.header =
        packet.header ∧
      ∀ other ∈ controlTypes, other ≠ packet.header.msgType →
        (peer.receive target other env).1 = 0

/-- The packet arrives as what it is: `send` hands over eleven bytes, and the
peer that polls them receives the packet. -/
def Arrives
    (sender peer : DataDump)
    (sending receiving : Environment)
    (packet : TransactionPacket) : Prop :=
  ∃ frame,
    (sender.send packet (.ofNat 8 packet.getPacketSize) sending).2.2 =
        [.sent frame sending.sendAccepted] ∧
      frame.length = 11 ∧
      peer.ReceivesAs { receiving with incoming := frame } packet

section Arrives

variable {peer : DataDump} {env : Environment} {packet : TransactionPacket}
variable (recvCB : peer.recvCB = true)
variable (room : 11 ≤ peer.maxPacketSize)
variable (incoming : env.incoming = controlFrame packet)

include recvCB room incoming

theorem delivered_controlFrame : peer.delivered env = controlFrame packet := by
  rw [delivered_of_fits recvCB (by simpa [incoming] using room), incoming]

theorem beginsWith_controlFrame :
    (peer.recvByteBuffer env).BeginsWith (controlFrame packet) := by
  rw [← incoming]
  apply beginsWith_of_delivered
  rw [delivered_controlFrame recvCB room incoming]
  simp [controlFrame]

/-- What the peer's `receive` makes of the type byte. -/
theorem accepts_controlFrame_iff (msgType : MsgType) :
    peer.Accepts msgType env ↔
      packet.header.typeByte 0 = msgType.toByte ∧
        packet.header.crc = 0#16 := by
  have image := beginsWith_controlFrame recvCB room incoming
  have header : peer.polledHeader env = _ :=
    TranscationHeader.decode_controlFrame image
  have first : peer.recvByteBuffer env 0 = packet.header.typeByte 0 :=
    image 0 (by simp)
  rw [Accepts, header, first, delivered_controlFrame recvCB room incoming]
  simp [controlFrame]

/-- Every type but `BLOCK_ACKNOT` is recovered, if the crc field is zero. -/
theorem receivesAs_iff :
    peer.ReceivesAs env packet ↔
      packet.header.msgType ≠ .blockAckNot ∧ packet.header.crc = 0#16 := by
  have accepts_iff := accepts_controlFrame_iff recvCB room incoming
  have length : (peer.delivered env).length = 11 := by
    rw [delivered_controlFrame recvCB room incoming, length_controlFrame]
  constructor
  · intro receives
    obtain ⟨accepted, -, -⟩ := receives {}
    have accepts : peer.Accepts packet.header.msgType env := by
      rw [← receive_ne_zero_iff {}]
      omega
    obtain ⟨type, crc⟩ := (accepts_iff _).mp accepts
    refine ⟨fun ackNot => ?_, crc⟩
    simp [TranscationHeader.typeByte, ackNot, MsgType.toByte] at type
  · rintro ⟨written, crc⟩ target
    have type : packet.header.typeByte 0 = packet.header.msgType.toByte :=
      if_neg written
    have accepts := (accepts_iff _).mpr ⟨type, crc⟩
    refine ⟨?_, ?_, fun other _ differs => ?_⟩
    · rw [receive_fst, if_pos accepts, length]
    · rw [receive_header target accepts]
      have image := beginsWith_controlFrame recvCB room incoming
      have header : peer.polledHeader env = _ :=
        TranscationHeader.decode_controlFrame image
      rw [header, type, MsgType.ofByte_toByte]
    · rw [receive_fst, if_neg]
      intro impossible
      rw [accepts_iff, type, MsgType.toByte_inj] at impossible
      exact differs impossible.1.symm

end Arrives

section Message

variable {sender peer : DataDump} {sending receiving : Environment}
variable {packet : TransactionPacket}

/-- What `send` hands over is the message's frame, whatever its type. -/
theorem send_controlFrame
    (sendCB : sender.sendCB = true)
    (senderRoom : 11 ≤ sender.maxPacketSize)
    (empty : packet.header.dataBufferSize = 0#8) :
    (sender.send packet (.ofNat 8 packet.getPacketSize) sending).2.2 =
      [.sent (controlFrame packet) sending.sendAccepted] := by
  rw [@send_of_empty sender sending packet empty,
    if_pos ⟨senderRoom, sendCB⟩]

/-- The message arrives when its own frame does. -/
theorem arrives_iff_receivesAs
    (sendCB : sender.sendCB = true)
    (senderRoom : 11 ≤ sender.maxPacketSize)
    (empty : packet.header.dataBufferSize = 0#8) :
    sender.Arrives peer sending receiving packet ↔
      peer.ReceivesAs { receiving with incoming := controlFrame packet }
        packet := by
  have sent := @send_controlFrame sender sending packet sendCB senderRoom empty
  constructor
  · rintro ⟨frame, handed, -, arrives⟩
    rw [sent] at handed
    obtain rfl : controlFrame packet = frame := by simpa using handed
    exact arrives
  · intro arrives
    exact ⟨controlFrame packet, sent, length_controlFrame packet, arrives⟩

/-- A control message of either machine arrives as what it is exactly when it
is no `BLOCK_ACKNOT` and its crc field is zero. -/
theorem arrives_iff
    (sendCB : sender.sendCB = true)
    (recvCB : peer.recvCB = true)
    (senderRoom : 11 ≤ sender.maxPacketSize)
    (peerRoom : 11 ≤ peer.maxPacketSize)
    (empty : packet.header.dataBufferSize = 0#8) :
    sender.Arrives peer sending receiving packet ↔
      packet.header.msgType ≠ .blockAckNot ∧ packet.header.crc = 0#16 := by
  rw [arrives_iff_receivesAs sendCB senderRoom empty]
  exact receivesAs_iff recvCB peerRoom rfl

end Message

/-- An acknowledgement arrives as what it is. -/
theorem arrives_blockAck :
    exampleReceiver.Arrives exampleReceiver {} {}
      { header := { msgType := .blockAck, transactionID := 7 } } :=
  (arrives_iff rfl rfl (by decide) (by decide) rfl).mpr
    ⟨by decide, by decide⟩

/-- A negative acknowledgement does not. -/
theorem not_arrives_blockAckNot :
    ¬exampleReceiver.Arrives exampleReceiver {} {}
      { header := { msgType := .blockAckNot, transactionID := 7 } } := by
  rw [arrives_iff_receivesAs rfl (by decide) rfl]
  intro receives
  exact absurd (receives {}).1 (by decide)

end DataDump

end DataDumpProtocol

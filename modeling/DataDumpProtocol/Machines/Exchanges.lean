import DataDumpProtocol.Frames.RoundTrip
import DataDumpProtocol.Machines.ClientMoves
import DataDumpProtocol.Machines.ServerMoves

/-!
# What the machines send and receive

Which frame a step hands to `sendCB`, and in which state body a frame is
accepted.
-/

namespace DataDumpProtocol

/-- A call of the application took effect. -/
def Event.isCall : Event → Bool
  | .transferStarted _ _ | .serverStarted | .serverStopped => true
  | _ => false

namespace DDClient

variable {parameters : Parameters} {client client' : DDClient}
variable {env : Environment} {events : List Event}

/-- The loops that send, with the type and the terms of what they send and the
state that is stored when it was sent. -/
inductive Sends (client : DDClient) :
    ClientBody → MsgType → Terms → FsmState → Prop
  | request {packet : TransactionPacket} :
      Sends client (.requestSend packet) .request client.clientConfig.terms
        .response
  | initiate {packet : TransactionPacket} :
      Sends client (.initiateSend packet) .initiateBlockTransfer
        client.serverConfig.terms .block
  | ack {packet : TransactionPacket} :
      Sends client (.ackSend packet) .blockAck
        (ackTerms client.serverConfig.transactionID) .terminate
  | ackNot {packet : TransactionPacket} :
      Sends client (.ackNotSend packet) .blockAckNot
        (ackTerms client.serverConfig.transactionID) .terminate

/-- A frame is sent by a loop that sends, and ends it. -/
theorem Moves.sent
    (moves : client.Moves env client' events)
    (sound : client.Sound parameters)
    {bytes : List Byte}
    (present : .sent bytes true ∈ events) :
    ∃ body msgType terms target,
      client.point = .body body ∧ client.Sends body msgType terms target ∧
        IsControl bytes msgType terms ∧ client'.point = .leave target := by
  cases moves with
  | requestSent here =>
      have live : TransactionPacket.Carries _ _ _ := sound.live _ here
      obtain rfl : bytes = DataDump.controlFrame _ := by simpa using present
      exact ⟨_, _, _, _, here, .request, live.isControl, rfl⟩
  | initiateSent here =>
      have live : TransactionPacket.Carries _ _ _ ∧ _ := sound.live _ here
      obtain rfl : bytes = DataDump.controlFrame _ := by simpa using present
      exact ⟨_, _, _, _, here, .initiate, live.1.isControl, rfl⟩
  | ackSent here =>
      have live : TransactionPacket.Carries _ _ _ ∧ _ := sound.live _ here
      obtain rfl : bytes = DataDump.controlFrame _ := by simpa using present
      exact ⟨_, _, _, _, here, .ack, live.1.isControl, rfl⟩
  | ackNotSent here =>
      have live : TransactionPacket.Carries _ _ _ := sound.live _ here
      obtain rfl : bytes = DataDump.controlFrame _ := by simpa using present
      exact ⟨_, _, _, _, here, .ackNot, live.isControl, rfl⟩
  | retry here unsent =>
      obtain ⟨frame, impossible⟩ := unsent _ present
      simp at impossible
  | giveUp here givesUp =>
      rcases givesUp.mem present with impossible | ⟨frame, impossible⟩ <;>
        simp at impossible
  | _ => simp at present

/-- No call of the application takes effect in `FSMLoop`. -/
theorem Moves.not_call
    (moves : client.Moves env client' events)
    {event : Event}
    (present : event ∈ events) :
    event.isCall = false := by
  cases moves with
  | retry here unsent =>
      obtain ⟨frame, rfl⟩ := unsent event present
      rfl
  | giveUp here givesUp =>
      rcases givesUp.mem present with rfl | ⟨frame, rfl⟩ <;> rfl
  | _ =>
      revert event
      simp +contextual [or_imp, Event.isCall]

/-- The only control packet that a client accepts is a response. -/
theorem Moves.received
    (moves : client.Moves env client' events)
    {header : TranscationHeader}
    (present : .received header ∈ events) :
    (∃ response, client.point = .body (.responseReceive response)) ∧
      client.Accepts .response env ∧ header = client.polledHeader env := by
  cases moves with
  | acceptResponse here accepts =>
      exact ⟨⟨_, here⟩, accepts, by simpa using present⟩
  | retry here unsent =>
      obtain ⟨frame, impossible⟩ := unsent _ present
      simp at impossible
  | giveUp here givesUp =>
      rcases givesUp.mem present with impossible | ⟨frame, impossible⟩ <;>
        simp at impossible
  | _ => simp at present

end DDClient

namespace DDServer

variable {parameters : Parameters} {server server' : DDServer}
variable {env : Environment} {events : List Event}

/-- What a server sends: its response, or the block that was filled. -/
inductive Sends (server : DDServer) (bytes : List Byte) :
    ServerBody → Prop
  | response {packet : TransactionPacket}
      (control : IsControl bytes .response server.clientConfig.terms) :
      Sends server bytes (.responseSend packet)
  | block {packet : BlockTxRxPacket} {source : Pointer} {size : Nat}
      {beyond : View}
      (buffer : server.internalBuffer = some (source.advance size))
      (holds : packet.Holds server.maxPacketSize
        (server.heap.bytes source size))
      (frame : bytes = packet.frame beyond) :
      Sends server bytes (.blockSend packet)

theorem Sound.sends
    (sound : server.Sound parameters)
    {body : ServerBody}
    {bytes : List Byte}
    (beyond : View)
    (here : server.point = .body body)
    (frame : body.frame beyond = some bytes) :
    server.Sends bytes body := by
  have live := sound.live _ here
  cases body with
  | responseSend response =>
      obtain rfl : DataDump.controlFrame response = bytes :=
        Option.some.inj frame
      have carries : TransactionPacket.Carries _ _ _ := live
      exact .response carries.isControl
  | blockSend blockDataPacket =>
      obtain rfl : blockDataPacket.frame beyond = bytes :=
        Option.some.inj frame
      obtain ⟨source, size, buffer, holds⟩ := live
      exact .block buffer holds rfl
  | requestReceive | initiateReceive | blockContinue | ackReceive =>
      simp [ServerBody.frame] at frame

/-- A frame is handed over by a loop that sends, whether it is accepted or
not. -/
theorem Moves.sent
    (moves : server.Moves env server' events)
    (sound : server.Sound parameters)
    {bytes : List Byte}
    {accepted : Bool}
    (present : .sent bytes accepted ∈ events) :
    ∃ body, server.point = .body body ∧ server.Sends bytes body := by
  cases moves with
  | responseSent here =>
      obtain ⟨rfl, -⟩ : bytes = DataDump.controlFrame _ ∧ accepted = true := by
        simpa using present
      exact ⟨_, here, sound.sends env.beyond here rfl⟩
  | blockSent here | lastBlockSent here =>
      obtain ⟨rfl, -⟩ : bytes = BlockTxRxPacket.frame _ _ ∧
          accepted = true := by
        simpa using present
      exact ⟨_, here, sound.sends env.beyond here rfl⟩
  | retry here unsent hands =>
      exact ⟨_, here, sound.sends env.beyond here (hands _ _ present)⟩
  | giveUp here givesUp =>
      cases givesUp with
      | unsent unsent hands =>
          exact ⟨_, here, sound.sends env.beyond here (hands _ _ present)⟩
      | unheard | declined | disputed => simp at present
  | _ => simp at present

/-- No call of the application takes effect in `FSMLoop`. -/
theorem Moves.not_call
    (moves : server.Moves env server' events)
    {event : Event}
    (present : event ∈ events) :
    event.isCall = false := by
  cases moves with
  | fillBlock here buffer =>
      rcases List.mem_cons.mp present with rfl | copied
      · rfl
      · obtain ⟨_, -, -, rfl⟩ := mem_copyEvent.mp copied
        rfl
  | retry here unsent =>
      obtain ⟨frame, rfl⟩ := unsent event present
      rfl
  | giveUp here givesUp =>
      rcases givesUp.mem present with rfl | ⟨frame, rfl⟩ | rfl <;> rfl
  | _ =>
      revert event
      simp +contextual [or_imp, Event.isCall]

/-- The loops that wait, and the messages that they accept. -/
theorem Moves.received
    (moves : server.Moves env server' events)
    {header : TranscationHeader}
    (present : .received header ∈ events) :
    header = server.polledHeader env ∧
      ∃ body body' msgType, server.point = .body body ∧
        body.Polls body' msgType ∧ server.Accepts msgType env := by
  cases moves with
  | acceptRequest here accepts =>
      exact ⟨by simpa using present, _, _, _, here,
        @ServerBody.Polls.request _ {}, accepts⟩
  | acceptInitiate here accepts =>
      exact ⟨by simpa using present, _, _, _, here,
        @ServerBody.Polls.initiate _ {}, accepts⟩
  | erase here accepts | eraseElse here accepts =>
      exact ⟨by simpa using present, _, _, _, here,
        @ServerBody.Polls.ack _ {}, accepts⟩
  | retry here unsent =>
      obtain ⟨frame, impossible⟩ := unsent _ present
      simp at impossible
  | giveUp here givesUp =>
      cases givesUp with
      | unsent unsent =>
          obtain ⟨frame, impossible⟩ := unsent _ present
          simp at impossible
      | unheard => simp at present
      | declined accepts =>
          exact ⟨by simpa using present, _, _, _, here,
            @ServerBody.Polls.initiate _ {}, accepts⟩
      | disputed accepts =>
          exact ⟨by simpa using present, _, _, _, here,
            @ServerBody.Polls.ack _ {}, accepts⟩
  | _ => simp at present

end DDServer

end DataDumpProtocol

import DataDumpProtocol.Machines.Exchanges
import DataDumpProtocol.Machines.Heading
import DataDumpProtocol.Network.Model
import DataDumpProtocol.Session.Protocol

/-!
# Client and server take turns

The two machines and their channels carry out the steps of a session, as long
as every lock is acquired, no timer expires and the channels lose nothing.
-/

namespace DataDumpProtocol

/-! ## Messages and stages -/

/-- The message that a frame's first byte announces. -/
def Frame.message (frame : Frame) : MsgType :=
  .ofByte (frame.bytes.headD 0)

/-- A control frame announces its type, unless it was not written. -/
theorem IsControl.message
    {frame : Frame}
    {msgType : MsgType}
    {terms : Terms}
    (control : IsControl frame.bytes msgType terms) :
    frame.message = if msgType = .blockAckNot then .unassigned else msgType := by
  obtain ⟨packet, carries, bytes⟩ := control
  simp only [Frame.message, bytes, DataDump.controlFrame, List.headD_cons,
    TranscationHeader.typeByte, carries.msgType]
  split
  next => rfl
  next => simp

/-- A block packet becomes a block, or an empty frame. -/
theorem BlockTxRxPacket.Holds.message
    {packet : BlockTxRxPacket}
    {limit : Nat}
    {payload : List Byte}
    (holds : packet.Holds limit payload)
    (beyond : View) :
    Frame.message { bytes := packet.frame beyond } = .blockTransfer ∨
      Frame.message { bytes := packet.frame beyond } = .unassigned := by
  rw [Frame.message]
  rcases holds.frame_cases beyond with ⟨-, empty⟩ | ⟨-, block⟩
  · rw [empty]
    exact .inr rfl
  · rw [block]
    exact .inl rfl

/-- The stage of a client that is heading for a state. -/
def ClientStage.ofState : FsmState → ClientStage
  | .idle | .request | .terminate => .resting
  | .response => .asking
  | .initiateBlock => .initiating
  | .block => .receiving

/-- The stage of a client inside a state body. -/
def ClientBody.stage : ClientBody → ClientStage
  | .requestSend _ => .resting
  | .responseReceive _ => .asking
  | .initiateSend _ => .initiating
  | .blockReceive _ => .receiving
  | .blockContinue | .ackSend _ | .ackNotSend _ => .answering

/-- Where a client is in its transfer. -/
def DDClient.stage (client : DDClient) : ClientStage :=
  match client.point with
  | .body body => body.stage
  | _ => .ofState client.heading

/-- The stage of a server that is heading for a state. -/
def ServerStage.ofState : FsmState → ServerStage
  | .idle | .request | .terminate => .listening
  | .response => .responding
  | .initiateBlock => .expecting
  | .block => .transferring

/-- The stage of a server inside a state body. -/
def ServerBody.stage : ServerBody → ServerStage
  | .requestReceive _ => .listening
  | .responseSend _ => .responding
  | .initiateReceive _ => .expecting
  | .blockSend _ | .blockContinue | .ackReceive _ => .transferring

/-- Where a server is in its transaction. -/
def DDServer.stage (server : DDServer) : ServerStage :=
  match server.point with
  | .body body => body.stage
  | _ => .ofState server.toParty.heading

namespace DDClient

variable {client : DDClient}

theorem stage_of_body {body : ClientBody} (here : client.point = .body body) :
    client.stage = body.stage := by
  simp [stage, here]

theorem stage_of_enter
    {state : FsmState}
    (here : client.point = .enter state) :
    client.stage = .ofState state := by
  simp [stage, here, Party.heading]

theorem stage_of_leave
    {state : FsmState}
    (here : client.point = .leave state) :
    client.stage = .ofState state := by
  simp [stage, here, Party.heading]

theorem stage_of_outside
    (outside : ∀ body, client.point ≠ .body body) :
    client.stage = .ofState client.heading := by
  unfold stage
  split
  next body here => exact absurd here (outside body)
  next => rfl

end DDClient

namespace DDServer

variable {server : DDServer}

theorem stage_of_body {body : ServerBody} (here : server.point = .body body) :
    server.stage = body.stage := by
  simp [stage, here]

theorem stage_of_enter
    {state : FsmState}
    (here : server.point = .enter state) :
    server.stage = .ofState state := by
  simp [stage, here, Party.heading]

theorem stage_of_leave
    {state : FsmState}
    (here : server.point = .leave state) :
    server.stage = .ofState state := by
  simp [stage, here, Party.heading]

theorem stage_of_outside
    (outside : ∀ body, server.point ≠ .body body) :
    server.stage = .ofState server.toParty.heading := by
  unfold stage
  split
  next body here => exact absurd here (outside body)
  next => rfl

/-- The application can only make a server listen. -/
theorem stage_store
    (server : DDServer)
    {next : FsmState}
    (listens : ServerStage.ofState next = .listening)
    (stopper : Stopper) :
    ({ server with nextState := next, stopper := stopper } : DDServer).stage =
        server.stage ∨
      ({ server with nextState := next, stopper := stopper } : DDServer).stage =
        .listening := by
  by_cases inside : ∃ body, server.point = .body body
  · obtain ⟨body, here⟩ := inside
    left
    rw [stage_of_body here]
    exact stage_of_body here
  · have outside : ∀ body, server.point ≠ .body body :=
      fun body here => inside ⟨body, here⟩
    rw [stage_of_outside outside, stage_of_outside (by exact outside)]
    rcases server.toParty.heading_store next with kept | stored
    · exact .inl (congrArg ServerStage.ofState kept)
    · exact .inr ((congrArg ServerStage.ofState stored).trans listens)

end DDServer

/-! ## What is heard -/

namespace Channel

variable {channel : List Frame} {arrives : Bool} {events : List Event}
variable {dump : DataDump} {env : Environment} {msgType : MsgType}

/-- A frame whose type passes the filter of `receive` stands at the front of
the channel and announces that type. -/
theorem front_of_delivered
    (incoming : env.incoming = (heard channel arrives).bytes)
    (delivered : dump.delivered env ≠ [])
    (type : dump.recvByteBuffer env 0 = msgType.toByte) :
    ∃ frame rest, channel = frame :: rest ∧ frame.message = msgType ∧
      arrives = true ∧ dump.recvCB = true := by
  have nonempty := DataDump.incoming_ne_nil delivered
  have head := DataDump.head_of_delivered delivered type
  rw [incoming] at nonempty head
  obtain ⟨arrived, rest, split⟩ := heard_eq nonempty
  refine ⟨heard channel arrives, rest, split, ?_, arrived, ?_⟩
  · rw [Frame.message, List.headD_eq_head?_getD, head, Option.getD_some,
      MsgType.ofByte_toByte]
  · by_contra absent
    simp [DataDump.delivered, absent] at delivered

/-- A poll takes the front of the channel, or nothing. -/
theorem taken_cases (channel : List Frame) (arrives : Bool) (events : List Event) :
    taken channel arrives events = channel ∨
      ∃ frame, channel = frame :: taken channel arrives events := by
  unfold taken
  split
  · cases channel with
    | nil => exact .inl rfl
    | cons frame rest => exact .inr ⟨frame, rfl⟩
  · exact .inl rfl

end Channel

/-! ## One step -/

namespace Network

/-- What is left of a network in a session. -/
def session (network : Network) : Session where
  client := network.client.stage
  server := network.server.stage
  toServer := network.toServer.map Frame.message
  toClient := network.toClient.map Frame.message

section Client

variable {parameters : Parameters} {network : Network} {arrives : Bool}
variable {env : Environment} {client : DDClient} {events : List Event}

/-- A client that neither sends nor polls. -/
theorem session_of_silent
    (unsent : ∀ bytes, .sent bytes true ∉ events)
    (unpolled : .polled ∉ events) :
    (network.afterClient arrives client events).session =
      { network.session with client := client.stage } := by
  simp [session, afterClient, Channel.posted_of_unsent unsent,
    Channel.taken_of_unpolled unpolled]

/-- A client that neither sends nor polls, and stays where it is. -/
theorem session_of_quiet
    (stage : client.stage = network.client.stage)
    (unsent : ∀ bytes, .sent bytes true ∉ events)
    (unpolled : .polled ∉ events) :
    (network.afterClient arrives client events).session =
      network.session := by
  rw [session_of_silent unsent unpolled, stage]
  rfl

/-- A client that polls in vain. -/
theorem session_of_polled
    (stage : client.stage = network.client.stage) :
    (network.afterClient arrives client network.client.pollEvent).session =
        network.session ∨
      network.session.ClientStep
        (network.afterClient arrives client network.client.pollEvent).session := by
  have unsent : ∀ bytes, .sent bytes true ∉ network.client.pollEvent := by simp
  rcases Channel.taken_cases network.toClient arrives
    network.client.pollEvent with same | ⟨frame, split⟩
  · left
    simp [session, afterClient, stage, Channel.posted_of_unsent unsent, same]
  · right
    have front : network.session.toClient =
        frame.message :: (Channel.taken network.toClient arrives
          network.client.pollEvent).map Frame.message := by
      rw [session]
      conv_lhs => rw [split]
      rfl
    have step := Session.ClientStep.discard front
    simpa [session, afterClient, stage, Channel.posted_of_unsent unsent]
      using step

/-- A client that sends a frame. -/
theorem session_of_sent (bytes : List Byte) :
    (network.afterClient arrives client [.sent bytes true]).session =
      { network.session with
        client := client.stage
        toServer := network.session.toServer ++
          [Frame.message { bytes := bytes }] } := by
  simp [session, afterClient, Channel.posted,
    Channel.taken, Frame.message, History.clientFrame]

/-- A client that accepts the frame at the front of its channel. -/
theorem clientStep_of_heard
    {msgType : MsgType}
    (delivered : network.client.delivered
      (env.hearing (Channel.heard network.toClient arrives).bytes) ≠ [])
    (type : network.client.recvByteBuffer
      (env.hearing (Channel.heard network.toClient arrives).bytes) 0 =
        msgType.toByte)
    (step : ∀ rest, network.session.toClient = msgType :: rest →
      network.session.ClientStep
        { network.session with client := client.stage, toClient := rest })
    (unsent : ∀ bytes, .sent bytes true ∉ events) :
    network.session.ClientStep
      (network.afterClient arrives client
        (network.client.pollEvent ++ events)).session := by
  obtain ⟨frame, rest, split, message, arrived, recvCB⟩ :=
    Channel.front_of_delivered rfl delivered type
  have silent : ∀ bytes,
      .sent bytes true ∉ network.client.pollEvent ++ events := by
    simp [unsent]
  have after : (network.afterClient arrives client
      (network.client.pollEvent ++ events)).session =
      { network.session with
        client := client.stage, toClient := rest.map Frame.message } := by
    simp only [session, afterClient, Channel.posted_of_unsent silent, split,
      arrived]
    rw [Channel.taken_cons (by simp [recvCB])]
    simp
  rw [after]
  exact step _ (by simp [session, split, message])

/-- A step of the client is a step of the session, or leaves it alone. -/
theorem session_of_clientMoves
    (moves : network.client.Moves
      (env.hearing (Channel.heard network.toClient arrives).bytes)
      client events)
    (sound : network.client.Sound parameters)
    (acquired : env.lockAcquired = true)
    (running : env.timerExpired = false)
    (patient : network.client.Patient) :
    (network.afterClient arrives client events).session = network.session ∨
      network.session.ClientStep
        (network.afterClient arrives client events).session := by
  cases moves with
  | shell shell =>
      refine .inl (session_of_quiet ?_ (by simp) (by simp))
      rw [DDClient.stage_of_outside shell.outside,
        DDClient.stage_of_outside shell.point_ne_body,
        shell.heading_eq acquired]
  | idle here =>
      refine .inl (session_of_quiet ?_ (by simp) (by simp))
      rw [DDClient.stage_of_enter here, DDClient.stage_of_outside (by simp)]
      rcases patient.next_of_idle here with next | next <;>
        simp [Party.heading, next, ClientStage.ofState]
  | beginRequest here | noTimer here | awaitResponse here
  | beginInitiate here | awaitBlock here =>
      refine .inl (session_of_quiet ?_ (by simp) (by simp))
      rw [DDClient.stage_of_enter here]
      rfl
  | refuse here =>
      have stage : network.session.client = .initiating :=
        DDClient.stage_of_enter here
      right
      rw [session_of_silent (by simp) (by simp)]
      exact .refuse stage
  | requestSent here =>
      have live : TransactionPacket.Carries _ _ _ := sound.live _ here
      have stage : network.session.client = .resting :=
        DDClient.stage_of_body here
      right
      rw [session_of_sent, live.isControl.message]
      exact .ask stage
  | initiateSent here =>
      have live : TransactionPacket.Carries _ _ _ ∧ _ := sound.live _ here
      have stage : network.session.client = .initiating :=
        DDClient.stage_of_body here
      right
      rw [session_of_sent, live.1.isControl.message]
      exact .initiate stage
  | ackSent here =>
      have live : TransactionPacket.Carries _ _ _ ∧ _ := sound.live _ here
      have stage : network.session.client = .answering :=
        DDClient.stage_of_body here
      right
      rw [session_of_sent, live.1.isControl.message]
      exact .answer stage (.inl rfl)
  | ackNotSent here =>
      have live : TransactionPacket.Carries _ _ _ := sound.live _ here
      have stage : network.session.client = .answering :=
        DDClient.stage_of_body here
      right
      rw [session_of_sent, live.isControl.message]
      exact .answer stage (.inr rfl)
  | acceptResponse here accepts =>
      have stage : network.session.client = .asking :=
        DDClient.stage_of_body here
      exact .inr (clientStep_of_heard accepts.1 accepts.2.1
        (fun _ front => .heed stage front) (by simp))
  | storeMore here accepts | storeLast here accepts
  | refuseBlock here accepts =>
      have stage : network.session.client = .receiving :=
        DDClient.stage_of_body here
      exact .inr (clientStep_of_heard accepts.1 accepts.2.1
        (fun _ front => .take stage front) (by simp))
  | continueBlock here =>
      have stage : network.session.client = .answering :=
        DDClient.stage_of_body here
      have current : network.client.currentState = .block :=
        (sound.paced.inside _ here).symm
      right
      rw [session_of_silent (by simp) (by simp), DDClient.stage_of_leave rfl,
        DataDump.getCurrentFSMState, if_pos (by exact acquired), current]
      exact .more stage
  | poll here | pollBlock here =>
      apply session_of_polled
      rw [DDClient.stage_of_body here]
      rfl
  | retry here unsent =>
      refine .inl (session_of_quiet rfl (fun bytes sent => ?_) fun polled => ?_)
      · obtain ⟨frame, impossible⟩ := unsent _ sent
        simp at impossible
      · obtain ⟨frame, impossible⟩ := unsent _ polled
        simp at impossible
  | missBlock _ _ expired =>
      exact absurd (running.symm.trans expired) (by simp)
  | giveUp here givesUp =>
      cases givesUp with
      | unsent _ expired | unheard _ expired =>
          exact absurd (running.symm.trans expired) (by simp)
  | terminate here =>
      refine .inl (session_of_quiet ?_ (by simp) (by simp))
      rw [DDClient.stage_of_enter here]
      rfl

/-- A call by the application leaves the session alone. -/
theorem session_of_clientCalls
    {buffer : Option Pointer}
    {size : Nat}
    (calls : network.client.Calls buffer size client events)
    (sound : network.client.Sound parameters) :
    (network.afterClient arrives client events).session = network.session := by
  cases calls with
  | refused => exact session_of_quiet rfl (by simp) (by simp)
  | @started pointer next given positive resting allowed =>
      refine session_of_quiet ?_ (by simp) (by simp)
      have outside := sound.resting_point resting
      -- A client that rests heads for no state of a transfer.
      have rests : ClientStage.ofState network.client.heading = .resting := by
        have held := network.client.holds_heading
        have idle := @DDClient.Sound.not_holds_of_resting _ _ sound resting
        cases state : network.client.heading with
        | response | initiateBlock | block =>
            rw [state] at held
            exact absurd held (idle (by simp))
        | idle | request | terminate => rfl
      have stage : network.client.stage = .resting :=
        (DDClient.stage_of_outside outside).trans rests
      rw [stage]
      refine (DDClient.stage_of_outside (by exact outside)).trans ?_
      rcases allowed with rfl | rfl
      · exact rests
      · rcases network.client.heading_store .request with kept | stored
        · exact (congrArg ClientStage.ofState kept).trans rests
        · exact congrArg ClientStage.ofState stored

end Client

section Server

variable {parameters : Parameters} {network : Network} {arrives : Bool}
variable {env : Environment} {server : DDServer} {events : List Event}

/-- A server that neither sends nor polls. -/
theorem session_of_silentServer
    (unsent : ∀ bytes, .sent bytes true ∉ events)
    (unpolled : .polled ∉ events) :
    (network.afterServer arrives server events).session =
      { network.session with server := server.stage } := by
  simp [session, afterServer, Channel.posted_of_unsent unsent,
    Channel.taken_of_unpolled unpolled]

/-- A server that neither sends nor polls, and stays where it is. -/
theorem session_of_quietServer
    (stage : server.stage = network.server.stage)
    (unsent : ∀ bytes, .sent bytes true ∉ events)
    (unpolled : .polled ∉ events) :
    (network.afterServer arrives server events).session =
      network.session := by
  rw [session_of_silentServer unsent unpolled, stage]
  rfl

/-- A server that polls in vain. -/
theorem session_of_polledServer
    (stage : server.stage = network.server.stage) :
    (network.afterServer arrives server network.server.pollEvent).session =
        network.session ∨
      network.session.ServerStep
        (network.afterServer arrives server
          network.server.pollEvent).session := by
  have unsent : ∀ bytes, .sent bytes true ∉ network.server.pollEvent := by simp
  rcases Channel.taken_cases network.toServer arrives
    network.server.pollEvent with same | ⟨frame, split⟩
  · left
    simp [session, afterServer, stage, Channel.posted_of_unsent unsent, same]
  · right
    have front : network.session.toServer =
        frame.message :: (Channel.taken network.toServer arrives
          network.server.pollEvent).map Frame.message := by
      rw [session]
      conv_lhs => rw [split]
      rfl
    have step := Session.ServerStep.discard front
    simpa [session, afterServer, stage, Channel.posted_of_unsent unsent]
      using step

/-- A server that sends a frame. -/
theorem session_of_sentServer (bytes : List Byte) :
    (network.afterServer arrives server [.sent bytes true]).session =
      { network.session with
        server := server.stage
        toClient := network.session.toClient ++
          [Frame.message { bytes := bytes }] } := by
  simp [session, afterServer, Channel.posted, Channel.taken, Frame.message,
    History.serverFrame]

/-- A server that accepts the frame at the front of its channel. -/
theorem serverStep_of_heard
    {msgType : MsgType}
    (accepts : network.server.Accepts msgType
      (env.hearing (Channel.heard network.toServer arrives).bytes))
    (step : ∀ rest, network.session.toServer = msgType :: rest →
      network.session.ServerStep
        { network.session with server := server.stage, toServer := rest })
    (unsent : ∀ bytes, .sent bytes true ∉ events) :
    network.session.ServerStep
      (network.afterServer arrives server
        (network.server.pollEvent ++ events)).session := by
  obtain ⟨frame, rest, split, message, arrived, recvCB⟩ :=
    Channel.front_of_delivered rfl accepts.1 accepts.2.1
  have silent : ∀ bytes,
      .sent bytes true ∉ network.server.pollEvent ++ events := by
    simp [unsent]
  have after : (network.afterServer arrives server
      (network.server.pollEvent ++ events)).session =
      { network.session with
        server := server.stage, toServer := rest.map Frame.message } := by
    simp only [session, afterServer, Channel.posted_of_unsent silent, split,
      arrived]
    rw [Channel.taken_cons (by simp [recvCB])]
    simp
  rw [after]
  exact step _ (by simp [session, split, message])

/-- A step of the server is a step of the session, or leaves it alone. -/
theorem session_of_serverMoves
    (moves : network.server.Moves
      (env.hearing (Channel.heard network.toServer arrives).bytes)
      server events)
    (sound : network.server.Sound parameters)
    (acquired : env.lockAcquired = true)
    (running : env.timerExpired = false)
    (patient : network.server.toParty.Patient) :
    (network.afterServer arrives server events).session = network.session ∨
      network.session.ServerStep
        (network.afterServer arrives server events).session := by
  cases moves with
  | shell shell =>
      refine .inl (session_of_quietServer ?_ (by simp) (by simp))
      rw [DDServer.stage_of_outside shell.outside,
        DDServer.stage_of_outside shell.point_ne_body,
        shell.heading_eq acquired]
  | idle here =>
      refine .inl (session_of_quietServer ?_ (by simp) (by simp))
      rw [DDServer.stage_of_enter here, DDServer.stage_of_outside (by simp)]
      rcases patient.next_of_idle here with next | next <;>
        simp [Party.heading, next, ServerStage.ofState]
  | awaitRequest here | readStorage here | awaitInitiate here
  | fillBlock here =>
      refine .inl (session_of_quietServer ?_ (by simp) (by simp))
      rw [DDServer.stage_of_enter here]
      rfl
  | readNothing here | noStorage here =>
      right
      rw [session_of_silentServer (by simp) (by simp)]
      exact .leave
  | acceptRequest here accepts =>
      have stage : network.session.server = .listening :=
        DDServer.stage_of_body here
      exact .inr (serverStep_of_heard accepts
        (fun _ front => .accept stage front) (by simp))
  | acceptInitiate here accepts =>
      have stage : network.session.server = .expecting :=
        DDServer.stage_of_body here
      exact .inr (serverStep_of_heard accepts
        (fun _ front => .begin stage front) (by simp))
  | responseSent here =>
      have live : TransactionPacket.Carries _ _ _ := sound.live _ here
      have stage : network.session.server = .responding :=
        DDServer.stage_of_body here
      right
      rw [session_of_sentServer, live.isControl.message]
      exact .respond stage
  | blockSent here | lastBlockSent here =>
      obtain ⟨source, size, -, holds⟩ := sound.live _ here
      have stage : network.session.server = .transferring :=
        DDServer.stage_of_body here
      right
      rw [session_of_sentServer]
      have step := Session.ServerStep.send stage (holds.message env.beyond)
      rwa [stage] at step
  | continueBlock here =>
      have current : network.server.currentState = .block :=
        (sound.paced.inside _ here).symm
      refine .inl (session_of_quietServer ?_ (by simp) (by simp))
      rw [DDServer.stage_of_body here, DDServer.stage_of_leave rfl,
        DataDump.getCurrentFSMState, if_pos (by exact acquired), current]
      rfl
  | erase here accepts | eraseElse here accepts =>
      exact .inr (serverStep_of_heard accepts (fun _ front => .finish front)
        (by simp))
  | poll here polls =>
      apply session_of_polledServer
      rw [DDServer.stage_of_body here]
      cases polls <;> rfl
  | retry here unsent =>
      refine .inl (session_of_quietServer rfl (fun bytes sent => ?_)
        fun polled => ?_)
      · obtain ⟨frame, impossible⟩ := unsent _ sent
        simp at impossible
      · obtain ⟨frame, impossible⟩ := unsent _ polled
        simp at impossible
  | giveUp here givesUp =>
      cases givesUp with
      | unsent _ _ expired | unheard _ _ expired =>
          exact absurd (running.symm.trans expired) (by simp)
      | declined accepts | disputed accepts =>
          exact .inr (serverStep_of_heard accepts (fun _ front => .finish front)
            (by simp))
  | terminate here =>
      refine .inl (session_of_quietServer ?_ (by simp) (by simp))
      rw [DDServer.stage_of_enter here]
      rfl

/-- A call by the application leaves the session alone, or makes the server
leave its transaction. -/
theorem session_of_serverCalls
    (calls : network.server.Calls server events) :
    (network.afterServer arrives server events).session = network.session ∨
      network.session.ServerStep
        (network.afterServer arrives server events).session := by
  obtain ⟨allowed, calm⟩ := calls
  have unsent : ∀ bytes, .sent bytes true ∉ events := fun bytes sent => by
    simpa using calm _ sent
  have unpolled : .polled ∉ events := fun polled => by
    simpa using calm _ polled
  rename_i next stopper
  have stage : ({ network.server with
      nextState := next, stopper := stopper } : DDServer).stage =
        network.server.stage ∨
      ({ network.server with
        nextState := next, stopper := stopper } : DDServer).stage =
          .listening := by
    rcases allowed with rfl | rfl | ⟨rfl, -⟩
    · exact .inl rfl
    · exact network.server.stage_store rfl stopper
    · exact network.server.stage_store rfl stopper
  rcases stage with kept | listening
  · exact .inl (session_of_quietServer kept unsent unpolled)
  · right
    rw [session_of_silentServer unsent unpolled, listening]
    exact .leave

end Server

/-! ## Runs -/

/-- No timer expires, and the channels deliver every frame in order. -/
def Action.Calm : Action → Prop
  | .client (.fsm env) _ | .server (.fsm env) _ => env.timerExpired = false
  | .client _ _ | .server _ _ => True
  | .disturb _ _ => False

instance : (action : Action) → Decidable action.Calm
  | .client (.fsm env) _ | .server (.fsm env) _ =>
      inferInstanceAs (Decidable (env.timerExpired = false))
  | .client (.startNewTransfer _ _ _) _ => inferInstanceAs (Decidable True)
  | .server (.startServer _) _ => inferInstanceAs (Decidable True)
  | .server (.stopServer _) _ => inferInstanceAs (Decidable True)
  | .disturb _ _ => inferInstanceAs (Decidable False)

/-- Both machines carry out a session. -/
structure TakesTurns (network : Network) : Prop where
  client : network.client.Patient
  server : network.server.toParty.Patient
  session : network.session.Alternates

section Turns

variable {clientParameters serverParameters : Parameters}
variable {network network' : Network} {action : Action}
variable {observations : List Observation}

/-- A step of the network is a step of one side of the session. -/
theorem Steps.session
    (steps : network.Steps action network' observations)
    (sound : network.Sound clientParameters serverParameters)
    (acquires : action.Acquires)
    (calm : action.Calm)
    (client : network.client.Patient)
    (server : network.server.toParty.Patient) :
    network'.session = network.session ∨
      network.session.ClientStep network'.session ∨
      network.session.ServerStep network'.session := by
  cases steps with
  | clientMoves moves =>
      exact (session_of_clientMoves moves sound.client acquires calm
        client).imp_right .inl
  | clientCalls calls =>
      exact .inl (session_of_clientCalls calls sound.client)
  | serverMoves moves =>
      exact (session_of_serverMoves moves sound.server acquires calm
        server).imp_right .inr
  | serverCalls calls =>
      exact (session_of_serverCalls calls).imp_right .inr
  | disturb => exact absurd calm id

theorem Steps.takesTurns
    (steps : network.Steps action network' observations)
    (sound : network.Sound clientParameters serverParameters)
    (acquires : action.Acquires)
    (calm : action.Calm)
    (turns : network.TakesTurns) :
    network'.TakesTurns := by
  obtain ⟨client, server, alternates⟩ := turns
  have session : network'.session.Alternates := by
    rcases steps.session sound acquires calm client server with
      same | step | step
    · rw [same]
      exact alternates
    · exact step.alternates alternates
    · exact step.alternates alternates
  cases steps with
  | clientMoves moves => exact ⟨moves.patient acquires client, server, session⟩
  | clientCalls calls => exact ⟨calls.patient client, server, session⟩
  | serverMoves moves => exact ⟨client, moves.patient acquires server, session⟩
  | serverCalls calls => exact ⟨client, calls.patient server, session⟩
  | disturb => exact absurd calm id

/-- In every calm run with acquired locks, client and server take turns. -/
theorem takesTurns_of_reaches
    {clientHeap serverHeap : Heap}
    {trace : List Observation}
    (reaches : machine.Reaches
      (fun _ _ action => action.Acquires ∧ action.Calm)
      (new clientParameters serverParameters clientHeap serverHeap)
      network trace) :
    network.Sound clientParameters serverParameters ∧ network.TakesTurns := by
  exact invariant_of_reaches reaches TakesTurns
    ⟨trivial, trivial, Session.alternates_start⟩
    fun _ _ _ _ _ sound turns admitted steps =>
      steps.takesTurns sound admitted.1 admitted.2 turns

end Turns

end Network

end DataDumpProtocol

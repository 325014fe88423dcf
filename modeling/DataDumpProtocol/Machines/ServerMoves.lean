import DataDumpProtocol.Machines.Packets
import DataDumpProtocol.Machines.Server

/-!
# What one step of the server can do

`DDServer.Sound` is the invariant of every run of a server, whatever frames
arrive and whatever the locks and callbacks answer.  For a sound server,
`DDServer.Moves` lists what one step of `FSMLoop` can do; proofs about the
server go by cases on it.
-/

namespace DataDumpProtocol

namespace ServerBody

/-- The state whose body a program point belongs to. -/
def state : ServerBody → FsmState
  | .requestReceive _ => .request
  | .responseSend _ => .response
  | .initiateReceive _ => .initiateBlock
  | .blockSend _ | .blockContinue | .ackReceive _ => .block

/-- The frame that a loop hands to `sendCB`, if it is one that sends. -/
def frame (beyond : View) : ServerBody → Option (List Byte)
  | .responseSend response => some (DataDump.controlFrame response)
  | .blockSend blockDataPacket => some (blockDataPacket.frame beyond)
  | _ => none

/-- A loop that waits for this type of message, before and after a round. -/
inductive Polls : ServerBody → ServerBody → MsgType → Prop
  | request {before after : TransactionPacket} :
      Polls (.requestReceive before) (.requestReceive after) .request
  | initiate {before after : TransactionPacket} :
      Polls (.initiateReceive before) (.initiateReceive after)
        .initiateBlockTransfer
  | ack {before after : TransactionPacket} :
      Polls (.ackReceive before) (.ackReceive after) .blockAck

end ServerBody

namespace DDServer

/-! ## Spec lemmas of the state bodies -/

/-- Filling a block copies from the staging buffer, if it does anything. -/
@[simp] theorem mem_copyEvent {server : DDServer} {event : Event} :
    event ∈ server.copyEvent ↔
      ∃ source, server.internalBuffer = some source ∧
        0#8 < BitVec.ofNat 8 server.dataSizeCopiedToPacket ∧
        event = .payloadCopied source
          (BitVec.ofNat 8 server.dataSizeCopiedToPacket).toNat := by
  unfold copyEvent
  split
  next => split <;> simp_all
  next => simp_all

/-- A record that ignores copies is the same after a block was filled. -/
theorem foldl_copyEvent_of_ignored
    {Record : Type}
    {note : Record → Event → Record}
    {server : DDServer}
    (ignored : ∀ record source size,
      note record (.payloadCopied source size) = record)
    (record : Record) :
    server.copyEvent.foldl note record = record := by
  refine Trace.foldl_eq_self (fun event present record => ?_) record
  obtain ⟨source, -, -, rfl⟩ := mem_copyEvent.mp present
  exact ignored record source _

/-- The server after it has replaced the requested terms by the agreed ones. -/
def negotiated (server : DDServer) : DDServer :=
  let response := server.responsePacket
  { server with
    clientConfig := server.clientConfig.setTerms
      response.header.maxACKTimeout
      response.header.maxBlocksPerTransaction
      response.header.maxPacketlen
      response.header.transactionID }

/-- The number of bytes that the `RESPONSE` body asks storage for. -/
def readSize (server : DDServer) : Nat :=
  sizeMul (sizeSub server.maxPacketSize BlockTxRxPacket.getHeaderSize)
    server.negotiated.clientConfig.maxBlocksPerTransaction.toNat

theorem responsePacket_carries (server : DDServer) :
    server.responsePacket.Carries .response
      server.negotiated.clientConfig.terms :=
  ⟨rfl, rfl, rfl, rfl⟩

theorem dataSizeCopiedToPacket_eq
    {server : DDServer}
    (room : 5 ≤ server.maxPacketSize) :
    server.dataSizeCopiedToPacket =
      min server.internalBufferLen (server.maxPacketSize - 5) := by
  simp only [dataSizeCopiedToPacket, BlockTxRxPacket.getHeaderSize_eq,
    sizeSub_eq room]
  split <;> omega

section Block

variable {server : DDServer} {source : Pointer}
variable (room : 5 ≤ server.maxPacketSize)
variable (byteSized : server.maxPacketSize < 2 ^ 8)
variable (buffer : server.internalBuffer = some source)

include room byteSized

theorem dataSizeCopiedToPacket_lt : server.dataSizeCopiedToPacket < 2 ^ 8 := by
  rw [dataSizeCopiedToPacket_eq room]
  omega

theorem toNat_dataSizeCopiedToPacket :
    (BitVec.ofNat 8 server.dataSizeCopiedToPacket).toNat =
      server.dataSizeCopiedToPacket := by
  rw [BitVec.toNat_ofNat]
  exact Nat.mod_eq_of_lt (dataSizeCopiedToPacket_lt room byteSized)

include buffer

/-- The copy out of the staging buffer, if there is anything to copy. -/
theorem copyEvent_eq :
    server.copyEvent =
      if 0 < server.dataSizeCopiedToPacket then
        [.payloadCopied source server.dataSizeCopiedToPacket]
      else [] := by
  have size_eq := toNat_dataSizeCopiedToPacket room byteSized
  simp only [copyEvent, buffer, BitVec.lt_def, size_eq]
  rfl

/-- The `BLOCK` body's packet holds the next bytes of the staging buffer. -/
theorem filledPacket_holds :
    server.filledPacket.Holds server.maxPacketSize
      (server.heap.bytes source server.dataSizeCopiedToPacket) := by
  have small := dataSizeCopiedToPacket_lt room byteSized
  have bound := dataSizeCopiedToPacket_eq room
  unfold filledPacket
  rw [buffer]
  refine BlockTxRxPacket.setBuffer_holds ?_ _ _ small (by omega)
  exact ⟨rfl, rfl, rfl, fun nonempty => absurd rfl nonempty, room⟩

theorem blockPacket_holds :
    server.blockPacket.Holds server.maxPacketSize
      (server.heap.bytes source server.dataSizeCopiedToPacket) := by
  have holds := filledPacket_holds room byteSized buffer
  unfold blockPacket
  generalize server.filledPacket = packet at holds ⊢
  exact ⟨holds.msgType, holds.crc, holds.size, holds.buffer, holds.fits⟩

end Block

/-- The packet carries seven bits of the frame counter: the numbers repeat
after 128 blocks. -/
theorem blockPacket_getFrameNumber (server : DDServer) :
    server.blockPacket.header.getFrameNumber.toNat =
      server.internalCounter.toNat % 128 := by
  have metadata : server.filledPacket.header.blockMetadata =
      (BlockHeader.setFrameNumber { msgType := .blockTransfer }
        (server.internalCounter.setWidth 8)).blockMetadata := by
    unfold filledPacket
    split
    next source _ =>
      rw [BlockTxRxPacket.setBuffer_snd]
      split <;> rfl
    next => rfl
  have kept : server.blockPacket.header.getFrameNumber =
      server.filledPacket.header.getFrameNumber :=
    BlockHeader.getFrameNumber_setContinueBit _ _
  calc server.blockPacket.header.getFrameNumber.toNat
    _ = (BlockHeader.setFrameNumber { msgType := .blockTransfer }
          (server.internalCounter.setWidth 8)).getFrameNumber.toNat := by
        rw [kept, BlockHeader.getFrameNumber, metadata]
        rfl
    _ = (server.internalCounter.setWidth 8).toNat % 128 :=
        BlockHeader.getFrameNumber_setFrameNumber rfl _
    _ = server.internalCounter.toNat % 128 := by
        rw [BitVec.toNat_setWidth]
        omega

@[simp] theorem blockPacket_getContinueBit (server : DDServer) :
    server.blockPacket.header.getContinueBit = server.lastFrame := by
  unfold blockPacket
  generalize server.filledPacket = packet
  exact BlockHeader.getContinueBit_setContinueBit _ _

/-! ## The invariant of every run -/

/-- The states that may be stored as the next one at any time: `stopServer`
stores `IDLE`, and `startServer` and the cleanup of `TERMINATE` store
`REQUEST`, when no request is being served. -/
def Free (server : DDServer) (state : FsmState) : Prop :=
  state = .idle ∨ (state = .request ∧ server.clientConfig.transactionID = 0#32)

/-- What is known about the packet that is being sent. -/
def Live (server : DDServer) : ServerBody → Prop
  | .responseSend response =>
      response.Carries .response server.clientConfig.terms
  | .blockSend blockDataPacket =>
      ∃ source size,
        server.internalBuffer = some (source.advance size) ∧
          blockDataPacket.Holds server.maxPacketSize
            (server.heap.bytes source size)
  | _ => True

/-- What holds in every run of a server built from the parameters. -/
structure Sound (parameters : Parameters) (server : DDServer) : Prop where
  maxPacketSize : server.maxPacketSize = parameters.maxPacketlen.toNat
  sendCB : server.sendCB = parameters.sendCB
  recvCB : server.recvCB = parameters.recvCB
  consumerCB : server.consumerCB = parameters.storageRead
  notifyCB : server.notifyCB = parameters.appStatusCB
  serverConfig : server.serverConfig = parameters.config
  buffer : 5 ≤ server.maxPacketSize →
    ∃ offset, server.internalBuffer = some (staging.advance offset)
  paced : server.toParty.Paced ServerBody.state server.Free
  room : ∀ state, server.toParty.Holds state →
    state = .initiateBlock ∨ state = .block → 11 ≤ server.maxPacketSize
  live : ∀ body, server.point = .body body → server.Live body
  awake : server.clientConfig.transactionID ≠ 0#32 → server.isBusy = true

theorem Sound.byteSized
    {parameters : Parameters}
    {server : DDServer}
    (sound : server.Sound parameters) :
    server.maxPacketSize < 2 ^ 8 := by
  rw [sound.maxPacketSize]
  exact parameters.maxPacketlen.isLt

/-! ## One step -/

/-- How a state body gives up without success, and what is observed. -/
inductive GivesUp (server : DDServer) (env : Environment) :
    ServerBody → List Event → Prop
  | unsent {body : ServerBody} {events : List Event}
      (unsent : Unsent events)
      (hands : Hands (body.frame env.beyond) events)
      (expired : env.timerExpired = true) :
      GivesUp server env body events
  | unheard {body body' : ServerBody} {msgType : MsgType}
      (polls : body.Polls body' msgType)
      (rejects : ¬server.Accepts msgType env)
      (expired : env.timerExpired = true) :
      GivesUp server env body server.pollEvent
  | declined {initiate : TransactionPacket}
      (accepts : server.Accepts .initiateBlockTransfer env)
      (differs : server.clientConfig.transactionID ≠
        (server.polledHeader env).transactionID) :
      GivesUp server env (.initiateReceive initiate)
        (server.pollEvent ++ [.received (server.polledHeader env)])
  | disputed {ackPacket : TransactionPacket}
      (accepts : server.Accepts .blockAck env)
      (differs : server.consumerCB = false ∨
        (server.polledHeader env).transactionID ≠
          server.clientConfig.transactionID) :
      GivesUp server env (.ackReceive ackPacket)
        (server.pollEvent ++ [.received (server.polledHeader env)])

/-- What a step of `FSMLoop` can do to a server, and what is observed. -/
inductive Moves (server : DDServer) (env : Environment) :
    DDServer → List Event → Prop
  | shell {party : Party ServerBody}
      (shell : server.toParty.Shell env party) :
      Moves server env { server with toParty := party } []
  | idle (here : server.point = .enter .idle) :
      Moves server env
        { server with
          isTransferSuccess := false
          clientConfig := server.clientConfig.setTerms 0 0 0 0
          internalBufferLen := 0
          isBusy := false
          point := .top .readNext }
        [.body .idle server.internalBuffer]
  | awaitRequest (here : server.point = .enter .request) :
      Moves server env (server.goto (.body (.requestReceive {})))
        [.body .request server.internalBuffer]
  | acceptRequest {request : TransactionPacket}
      (here : server.point = .body (.requestReceive request))
      (accepts : server.Accepts .request env) :
      Moves server env
        { server with
          clientConfig := server.clientConfig.setTerms
            (server.polledHeader env).maxACKTimeout
            (server.polledHeader env).maxBlocksPerTransaction
            (server.polledHeader env).maxPacketlen
            (server.polledHeader env).transactionID
          point := .leave .response }
        (server.pollEvent ++ [.received (server.polledHeader env)])
  | readStorage {target : Pointer}
      (here : server.point = .enter .response)
      (consumer : server.consumerCB = true)
      (buffer : server.internalBuffer = some target)
      (nonempty : env.stored server.readSize ≠ []) :
      Moves server env
        { server.negotiated with
          heap := server.heap.write target (env.stored server.readSize)
          internalBufferLen := (env.stored server.readSize).length
          point := .body (.responseSend server.responsePacket) }
        [.body .response server.internalBuffer,
          .storageRead target server.readSize (env.stored server.readSize)]
  | readNothing {target : Pointer}
      (here : server.point = .enter .response)
      (buffer : server.internalBuffer = some target)
      (empty : env.stored server.readSize = []) :
      Moves server env
        { server.negotiated with
          heap := server.heap.write target (env.stored server.readSize)
          internalBufferLen := (env.stored server.readSize).length
          point := .leave .terminate }
        [.body .response server.internalBuffer,
          .storageRead target server.readSize (env.stored server.readSize)]
  | noStorage
      (here : server.point = .enter .response)
      (absent : server.consumerCB = false ∨ server.internalBuffer = none) :
      Moves server env (server.negotiated.goto (.leave .terminate))
        [.body .response server.internalBuffer]
  | responseSent {response : TransactionPacket}
      (here : server.point = .body (.responseSend response))
      (room : 11 ≤ server.maxPacketSize) :
      Moves server env (server.goto (.leave .initiateBlock))
        [.sent (DataDump.controlFrame response) true]
  | awaitInitiate (here : server.point = .enter .initiateBlock) :
      Moves server env (server.goto (.body (.initiateReceive {})))
        [.body .initiateBlock server.internalBuffer]
  | acceptInitiate {initiate : TransactionPacket}
      (here : server.point = .body (.initiateReceive initiate))
      (accepts : server.Accepts .initiateBlockTransfer env)
      (agrees : server.clientConfig.transactionID =
        (server.polledHeader env).transactionID) :
      Moves server env
        { server with internalCounter := 1, point := .leave .block }
        (server.pollEvent ++ [.received (server.polledHeader env)])
  | fillBlock {source : Pointer}
      (here : server.point = .enter .block)
      (buffer : server.internalBuffer = some source) :
      Moves server env
        { server with
          internalCounter := server.internalCounter + 1
          internalBufferLen :=
            server.internalBufferLen - server.dataSizeCopiedToPacket
          internalBuffer :=
            some (source.advance server.dataSizeCopiedToPacket)
          point := .body (.blockSend server.blockPacket) }
        (.body .block (some source) :: server.copyEvent)
  | blockSent {blockDataPacket : BlockTxRxPacket}
      (here : server.point = .body (.blockSend blockDataPacket))
      (more : blockDataPacket.header.getContinueBit = .continueTransfer) :
      Moves server env (server.goto (.body .blockContinue))
        [.sent (blockDataPacket.frame env.beyond) true]
  | lastBlockSent {blockDataPacket : BlockTxRxPacket}
      (here : server.point = .body (.blockSend blockDataPacket))
      (last : blockDataPacket.header.getContinueBit = .terminateTransfer) :
      Moves server env (server.goto (.body (.ackReceive {})))
        [.sent (blockDataPacket.frame env.beyond) true]
  | continueBlock (here : server.point = .body .blockContinue) :
      Moves server env (server.goto (.leave (server.getCurrentFSMState env)))
        []
  | erase {ackPacket : TransactionPacket}
      (here : server.point = .body (.ackReceive ackPacket))
      (accepts : server.Accepts .blockAck env)
      (consumer : server.consumerCB = true)
      (agrees : (server.polledHeader env).transactionID =
        server.clientConfig.transactionID)
      (all : env.erased server.internalBufferLen = server.internalBufferLen) :
      Moves server env
        { server with isTransferSuccess := true, point := .leave .terminate }
        (server.pollEvent ++
          [.received (server.polledHeader env),
            .storageErased server.internalBufferLen
              (env.erased server.internalBufferLen)])
  | eraseElse {ackPacket : TransactionPacket}
      (here : server.point = .body (.ackReceive ackPacket))
      (accepts : server.Accepts .blockAck env)
      (consumer : server.consumerCB = true)
      (agrees : (server.polledHeader env).transactionID =
        server.clientConfig.transactionID)
      (differs :
        env.erased server.internalBufferLen ≠ server.internalBufferLen) :
      Moves server env (server.goto (.leave .terminate))
        (server.pollEvent ++
          [.received (server.polledHeader env),
            .storageErased server.internalBufferLen
              (env.erased server.internalBufferLen)])
  | poll {body body' : ServerBody} {msgType : MsgType}
      (here : server.point = .body body)
      (polls : body.Polls body' msgType)
      (rejects : ¬server.Accepts msgType env) :
      Moves server env (server.goto (.body body')) server.pollEvent
  | retry {body : ServerBody} {events : List Event}
      (here : server.point = .body body)
      (unsent : Unsent events)
      (hands : Hands (body.frame env.beyond) events) :
      Moves server env server events
  | giveUp {body : ServerBody} {events : List Event}
      (here : server.point = .body body)
      (givesUp : server.GivesUp env body events)
      (timed : body.state ≠ .request) :
      Moves server env (server.goto (.leave .terminate)) events
  | terminate (here : server.point = .enter .terminate) :
      Moves server env
        { server with
          isTransferSuccess := false
          clientConfig := server.clientConfig.setTerms 0 0 0 0
          internalBufferLen := 0
          point := .leave .request }
        (.body .terminate server.internalBuffer :: server.notification)

theorem Moves.retried
    {server : DDServer}
    {env : Environment}
    {body : ServerBody}
    {events : List Event}
    (here : server.point = .body body)
    (unsent : Unsent events)
    (hands : Hands (body.frame env.beyond) events) :
    server.Moves env (server.goto (.body body)) events := by
  rw [goto, ← here]
  exact .retry here unsent hands

/-- The `BLOCK` body behind an accepted acknowledgement. -/
theorem moves_handleAck
    {server : DDServer}
    {env : Environment}
    {ackPacket received : TransactionPacket}
    {recvLen : Nat}
    (here : server.point = .body (.ackReceive ackPacket))
    (accepts : server.Accepts .blockAck env)
    (positive : recvLen ≠ 0)
    (header : received.header = server.polledHeader env) :
    server.Moves env (server.handleAck recvLen received env).1
      (server.pollEvent ++ [.received (server.polledHeader env)] ++
        (server.handleAck recvLen received env).2) := by
  unfold handleAck
  rw [if_pos positive, header, List.append_assoc]
  by_cases agrees : server.consumerCB = true ∧
      (server.polledHeader env).transactionID =
        server.clientConfig.transactionID
  · rw [if_pos agrees]
    by_cases all :
        env.erased server.internalBufferLen = server.internalBufferLen
    · rw [if_pos all]
      exact .erase here accepts agrees.1 agrees.2 all
    · rw [if_neg all]
      exact .eraseElse here accepts agrees.1 agrees.2 all
  · rw [if_neg agrees]
    have differs : server.consumerCB = false ∨
        (server.polledHeader env).transactionID ≠
          server.clientConfig.transactionID := by
      cases consumer : server.consumerCB with
      | false => exact .inl rfl
      | true => exact .inr fun same => agrees ⟨consumer, same⟩
    simpa using Moves.giveUp here (.disputed accepts differs)
      (by simp [ServerBody.state])

/-- The `RESPONSE` body up to its send loop. -/
theorem moves_enterResponse
    {server : DDServer}
    {env : Environment}
    (here : server.point = .enter .response) :
    server.Moves env (server.enterResponse env).1
      (.body .response server.internalBuffer ::
        (server.enterResponse env).2) := by
  simp only [enterResponse]
  split
  next target consumer buffer' =>
    split
    next nonempty =>
      have contents := List.length_eq_zero_iff.not.mp nonempty
      exact .readStorage here consumer buffer' contents
    next empty =>
      have contents := List.length_eq_zero_iff.mp (not_not.mp empty)
      exact .readNothing here buffer' contents
  next absent =>
    refine .noStorage here ?_
    cases consumer : server.consumerCB with
    | false => exact .inl rfl
    | true => exact .inr (Option.eq_none_iff_forall_ne_some.mpr fun target =>
        absent target consumer)

section Moves

variable {parameters : Parameters} {server : DDServer} {env : Environment}
variable (sound : server.Sound parameters)

include sound

/-- A block body runs only when a control frame fits. -/
theorem Sound.room_of_inside
    {body : ServerBody}
    (here : server.point = .body body)
    (inside : body.state = .initiateBlock ∨ body.state = .block) :
    11 ≤ server.maxPacketSize := by
  rw [sound.paced.inside body here] at inside
  exact sound.room _ (.inl rfl) inside

theorem Sound.room_of_enter
    (here : server.point = .enter .block) :
    11 ≤ server.maxPacketSize :=
  sound.room .block (.inr (.inr (.inr (.inl here)))) (.inr rfl)

theorem Sound.moves_enterBody
    {state : FsmState}
    (here : server.point = .enter state) :
    server.Moves env (server.enterBody env state).1
      (server.enterBody env state).2 := by
  cases state with
  | idle => exact .idle here
  | request => exact .awaitRequest here
  | response => exact moves_enterResponse here
  | initiateBlock => exact .awaitInitiate here
  | block =>
      have room := sound.room_of_enter here
      obtain ⟨offset, buffer⟩ := sound.buffer (by omega)
      have moves : server.Moves env _ _ := .fillBlock here buffer
      simp only [enterBody, enterBlock, buffer, Option.map_some]
      exact moves
  | terminate =>
      have moves : server.Moves env _ _ := .terminate here
      simp only [DataDump.notification] at moves
      simp only [enterBody]
      split at moves
      next notifies =>
        rw [if_pos notifies]
        exact moves
      next silent =>
        rw [if_neg silent]
        exact moves

theorem Sound.moves_stepBody
    {body : ServerBody}
    (here : server.point = .body body) :
    server.Moves env (server.stepBody env body).1
      (server.stepBody env body).2 := by
  cases body with
  | requestReceive request =>
      have positive : (server.receive request .request env).1 ≠ 0 ↔ _ :=
        DataDump.receive_ne_zero_iff request .request
      simp only [stepBody]
      by_cases accepts : server.Accepts .request env
      · have header := DataDump.receive_header request accepts
        have moves := Moves.acceptRequest here accepts
        rw [← header] at moves
        split
        next zero => simp [zero, accepts] at positive
        next => simpa [*] using moves
      · split
        next => exact .poll here .request accepts
        next nonzero equation =>
          simp [equation, accepts] at positive
          exact absurd positive (by simpa using nonzero)
  | responseSend response =>
      have live : response.Carries _ _ := sound.live _ here
      obtain ⟨result, events, round, outcome, room⟩ :=
        server.toDataDump.sendLoop_outcome env live.empty
      simp only [stepBody, round]
      cases outcome with
      | sent => exact .responseSent here (room rfl)
      | retried unsent hands => exact .retried here unsent hands
      | expired unsent hands expired =>
          exact .giveUp here (.unsent unsent hands expired)
            (by simp [ServerBody.state])
  | initiateReceive initiate =>
      obtain ⟨result, packet, events, round, outcome, header⟩ :=
        server.toDataDump.receiveLoop_outcome initiate .initiateBlockTransfer
          env
      simp only [stepBody, round]
      cases outcome with
      | polled rejects => exact .poll here .initiate rejects
      | expired rejects expired =>
          have polls : ServerBody.Polls (.initiateReceive initiate)
              (.initiateReceive initiate) _ := .initiate
          exact .giveUp here (.unheard polls rejects expired)
            (by simp [ServerBody.state])
      | accepted accepts positive =>
          simp only [header accepts]
          split
          next agrees => exact .acceptInitiate here accepts agrees.2
          next differs =>
            refine .giveUp here (.declined accepts fun agrees => ?_)
              (by simp [ServerBody.state])
            exact differs ⟨positive, agrees⟩
  | blockSend blockDataPacket =>
      obtain ⟨source, size, buffer, holds⟩ := sound.live _ here
      obtain ⟨result, events, round, outcome⟩ :=
        server.toDataDump.sendBlockLoop_outcome env holds.getPacketSize_le
          sound.byteSized
      simp only [stepBody, round]
      cases outcome with
      | sent =>
          cases continueBit : blockDataPacket.header.getContinueBit with
          | terminateTransfer => exact .lastBlockSent here continueBit
          | continueTransfer => exact .blockSent here continueBit
      | retried unsent hands => exact .retried here unsent hands
      | expired unsent hands expired =>
          exact .giveUp here (.unsent unsent hands expired)
            (by simp [ServerBody.state])
  | blockContinue => exact .continueBlock here
  | ackReceive ackPacket =>
      obtain ⟨result, packet, events, round, outcome, header⟩ :=
        server.toDataDump.receiveLoop_outcome ackPacket .blockAck env
      simp only [stepBody, round]
      cases outcome with
      | polled rejects => exact .poll here .ack rejects
      | expired rejects expired =>
          have polls : ServerBody.Polls (.ackReceive ackPacket)
              (.ackReceive ackPacket) _ := .ack
          simpa [handleAck] using
            Moves.giveUp here (.unheard polls rejects expired)
              (by simp [ServerBody.state])
      | accepted accepts positive =>
          exact moves_handleAck here accepts positive (header accepts)

/-- A step of `FSMLoop` is one of the moves. -/
theorem Sound.moves (env : Environment) :
    server.Moves env (server.fsmStep env).1 (server.fsmStep env).2 := by
  unfold fsmStep
  split
  next at_ here =>
    have dispatches := server.toDataDump.dispatches env at_
    have moves : server.Moves env _ _ := .shell (.dispatch here dispatches)
    generalize server.dispatch env at_ = result at moves
    obtain ⟨dump, next | state⟩ := result
    · exact moves
    · exact moves
  next state here => exact sound.moves_enterBody here
  next body here => exact sound.moves_stepBody here
  next target here => exact .shell (.leave here)

end Moves

/-- What can be observed when a state body gives up. -/
theorem GivesUp.mem
    {server : DDServer}
    {env : Environment}
    {body : ServerBody}
    {events : List Event}
    (givesUp : server.GivesUp env body events)
    {event : Event}
    (present : event ∈ events) :
    event = .polled ∨ (∃ frame, event = .sent frame false) ∨
      event = .received (server.polledHeader env) := by
  cases givesUp with
  | unsent unsent => exact .inr (.inl (unsent event present))
  | unheard => exact .inl (DataDump.mem_pollEvent.mp present).2
  | declined | disputed =>
      rcases List.mem_append.mp present with poll | header
      · exact .inl (DataDump.mem_pollEvent.mp poll).2
      · exact .inr (.inr (List.mem_singleton.mp header))

/-! ## The invariant is kept -/

section Kept

variable {parameters : Parameters} {server server' : DDServer}
variable {env : Environment} {events : List Event}

theorem free_of_unserved
    (unserved : server'.clientConfig.transactionID = 0#32)
    (state : FsmState)
    (free : server.Free state) :
    server'.Free state :=
  free.imp_right fun request => ⟨request.1, unserved⟩

/-- The pace is kept. -/
theorem Moves.paced
    (moves : server.Moves env server' events)
    (paced : server.toParty.Paced ServerBody.state server.Free) :
    server'.toParty.Paced ServerBody.state server'.Free := by
  have same : ∀ state, server.Free state → server.Free state := fun _ => id
  have entering {state : FsmState} (here : server.point = .enter state) :
      server.toParty.point.Running := by
    rw [here]
    trivial
  have inBody {body : ServerBody} (here : server.point = .body body) :
      server.toParty.point.Running := by
    rw [here]
    trivial
  cases moves with
  | shell shell =>
      obtain ⟨_, _, _, _, rfl, -⟩ := shell.unchanged
      exact shell.paced paced same
  | idle here =>
      refine ⟨paced.follows.mono (free_of_unserved rfl _), ?_, ?_, ?_, ?_,
        ?_⟩ <;> simp [Point.Running]
  | awaitRequest here =>
      have inside := paced.current_of_enter here (by simp)
      exact paced.toBody same (entering here) rfl rfl rfl rfl inside
  | acceptRequest here accepts =>
      have inside := paced.inside _ here
      have running := paced.running (inBody here)
      refine ⟨?_, ?_, ?_, ?_, ?_, fun _ => running⟩
      case refine_1 =>
        rcases paced.follows with last | first | same | successor | free
        · exact .inl last
        · exact .inr (.inl first)
        · exact .inr (.inr (.inl same))
        · exact .inr (.inr (.inr (.inl successor)))
        · rcases free with idle | ⟨requested, -⟩
          · exact .of_free _ (.inl idle)
          · exact .inr (.inr (.inl (requested.trans inside)))
      all_goals simp
      exact inside ▸ .successor _ .request
  | readStorage here =>
      have inside := paced.current_of_enter here (by simp)
      exact paced.toBody same (entering here) rfl rfl rfl rfl inside
  | readNothing here | noStorage here =>
      exact paced.toLeave same (entering here) rfl rfl rfl rfl (.terminate _ _)
  | responseSent here =>
      have inside := paced.inside _ here
      exact paced.toLeave same (inBody here) rfl rfl rfl rfl
        (inside ▸ .successor _ .response)
  | awaitInitiate here =>
      have inside := paced.current_of_enter here (by simp)
      exact paced.toBody same (entering here) rfl rfl rfl rfl inside
  | acceptInitiate here =>
      have inside := paced.inside _ here
      exact paced.toLeave same (inBody here) rfl rfl rfl rfl
        (inside ▸ .successor _ .initiateBlock)
  | fillBlock here =>
      have inside := paced.current_of_enter here (by simp)
      exact paced.toBody same (entering here) rfl rfl rfl rfl inside
  | blockSent here | lastBlockSent here =>
      have inside := paced.inside _ here
      exact paced.toBody same (inBody here) rfl rfl rfl rfl inside
  | continueBlock here =>
      refine paced.toLeave same (inBody here) rfl rfl rfl rfl ?_
      rcases server.getCurrentFSMState_cases env with read | failed
      · rw [read]
        exact .refl _ _
      · rw [failed]
        exact .terminate _ _
  | erase here | eraseElse here | giveUp here =>
      exact paced.toLeave same (inBody here) rfl rfl rfl rfl (.terminate _ _)
  | poll here polls =>
      have inside := paced.inside _ here
      cases polls <;>
        exact paced.toBody same (inBody here) rfl rfl rfl rfl inside
  | retry => exact paced
  | terminate here =>
      exact paced.toLeave (free_of_unserved rfl) (entering here) rfl rfl rfl
        rfl (.of_free _ (.inr ⟨rfl, rfl⟩))

/-- The states that a step brings up: `TERMINATE`, `REQUEST` by the cleanup,
or the successor of the state whose body ends. -/
theorem Moves.holds
    (moves : server.Moves env server' events)
    {state : FsmState}
    (holds : server'.toParty.Holds state)
    (new : ¬server.toParty.Holds state) :
    state = .terminate ∨
      (state = .request ∧ server.point = .enter .terminate) ∨
      ∃ body, server.point = .body body ∧ state = body.state.successor ∧
        (state = .initiateBlock → 11 ≤ server.maxPacketSize) ∧
        server'.point = .leave state := by
  have ofBody {body : ServerBody}
      (here : server'.toParty.point = .body body)
      (current : server'.currentState = server.currentState)
      (next : server'.nextState = server.nextState) : False :=
    new (Party.holds_of_body current next here holds)
  have ofLeave {target : FsmState}
      (here : server'.toParty.point = .leave target)
      (current : server'.currentState = server.currentState)
      (next : server'.nextState = server.nextState) : state = target :=
    (Party.holds_of_leave current next here holds).resolve_left new
  cases moves with
  | shell shell => exact .inl ((shell.holds holds).resolve_left new)
  | idle here =>
      refine absurd ?_ new
      simpa [Party.Holds, here] using holds.imp_right
        (Or.imp_right fun impossible => by simp at impossible)
  | awaitRequest | readStorage | awaitInitiate | fillBlock | blockSent
  | lastBlockSent | poll =>
      exact absurd (ofBody rfl rfl rfl) id
  | retry => exact absurd holds new
  | readNothing | noStorage | erase | eraseElse | giveUp =>
      exact .inl (ofLeave rfl rfl rfl)
  | terminate here => exact .inr (.inl ⟨ofLeave rfl rfl rfl, here⟩)
  | responseSent here room =>
      obtain rfl := ofLeave rfl rfl rfl
      exact .inr (.inr ⟨_, here, rfl, fun _ => room, rfl⟩)
  | acceptRequest here | acceptInitiate here =>
      obtain rfl := ofLeave rfl rfl rfl
      exact .inr (.inr ⟨_, here, rfl, by simp, rfl⟩)
  | continueBlock here =>
      have stored := ofLeave rfl rfl rfl
      rcases server.getCurrentFSMState_cases env with read | failed
      · exact absurd (.inl (stored.trans read)) new
      · exact .inl (stored.trans failed)

/-- No step changes the callbacks, the limit or the server's own terms. -/
theorem Moves.unchanged (moves : server.Moves env server' events) :
    server'.maxPacketSize = server.maxPacketSize ∧
      server'.sendCB = server.sendCB ∧ server'.recvCB = server.recvCB ∧
      server'.consumerCB = server.consumerCB ∧
      server'.notifyCB = server.notifyCB ∧
      server'.serverConfig = server.serverConfig := by
  cases moves with
  | shell shell =>
      obtain ⟨_, _, _, _, rfl, -⟩ := shell.unchanged
      exact ⟨rfl, rfl, rfl, rfl, rfl, rfl⟩
  | _ => exact ⟨rfl, rfl, rfl, rfl, rfl, rfl⟩

/-- A body is observed to start first, and where it is entered. -/
theorem Moves.body_cases (moves : server.Moves env server' events) :
    BeginsAt server.point server.internalBuffer events := by
  cases moves with
  | idle here | awaitRequest here | noStorage here | awaitInitiate here =>
      exact .inl ⟨_, [], here, rfl, by simp⟩
  | readStorage here | readNothing here =>
      exact .inl ⟨_, _, here, rfl, by simp [Event.isBody]⟩
  | fillBlock here buffer =>
      refine .inl ⟨_, _, here, by rw [buffer], ?_⟩
      intro event present
      obtain ⟨_, -, -, rfl⟩ := mem_copyEvent.mp present
      rfl
  | terminate here =>
      refine .inl ⟨_, _, here, rfl, ?_⟩
      simp +contextual [Event.isBody]
  | retry here unsent =>
      refine .inr fun event present => ?_
      obtain ⟨frame, rfl⟩ := unsent event present
      rfl
  | giveUp here givesUp =>
      refine .inr fun event present => ?_
      rcases givesUp.mem present with rfl | ⟨frame, rfl⟩ | rfl <;> rfl
  | _ =>
      right
      simp +contextual [or_imp, Event.isBody]

theorem Moves.buffer
    (moves : server.Moves env server' events)
    (buffer : ∃ offset,
      server.internalBuffer = some (staging.advance offset)) :
    ∃ offset, server'.internalBuffer = some (staging.advance offset) := by
  cases moves with
  | shell shell =>
      obtain ⟨_, _, _, _, rfl, -⟩ := shell.unchanged
      exact buffer
  | fillBlock here source_eq =>
      obtain ⟨offset, buffer⟩ := buffer
      obtain rfl := Option.some.inj (source_eq.symm.trans buffer)
      exact ⟨_, congrArg some (Pointer.advance_advance _ _ _)⟩
  | _ => exact buffer

theorem Moves.room
    (moves : server.Moves env server' events)
    (sound : server.Sound parameters)
    {state : FsmState}
    (holds : server'.toParty.Holds state)
    (inside : state = .initiateBlock ∨ state = .block) :
    11 ≤ server.maxPacketSize := by
  by_cases old : server.toParty.Holds state
  · exact sound.room state old inside
  rcases moves.holds holds old with
    rfl | ⟨rfl, -⟩ | ⟨body, here, rfl, room, -⟩
  · simp at inside
  · simp at inside
  · rcases inside with initiate | block
    · exact room initiate
    · apply sound.room_of_inside here
      cases body <;> simp_all [ServerBody.state, FsmState.successor]

theorem Moves.live
    (moves : server.Moves env server' events)
    (sound : server.Sound parameters)
    {body : ServerBody}
    (here' : server'.point = .body body) :
    server'.Live body := by
  cases moves with
  | shell shell => exact absurd here' (shell.point_ne_body body)
  | retry => exact sound.live body here'
  | poll _ polls =>
      obtain rfl := Point.body.inj here'
      cases polls <;> trivial
  | readStorage =>
      obtain rfl := Point.body.inj here'
      exact server.responsePacket_carries
  | fillBlock here buffer =>
      obtain rfl := Point.body.inj here'
      have room := sound.room_of_enter here
      exact ⟨_, _, rfl,
        blockPacket_holds (by omega) sound.byteSized buffer⟩
  | awaitRequest | awaitInitiate | blockSent | lastBlockSent =>
      obtain rfl := Point.body.inj here'
      trivial
  | _ => cases here'

theorem Moves.awake
    (moves : server.Moves env server' events)
    (sound : server.Sound parameters)
    (serving : server'.clientConfig.transactionID ≠ 0#32) :
    server'.isBusy = true := by
  cases moves with
  | shell shell =>
      obtain ⟨_, _, _, _, rfl, busy⟩ := shell.unchanged
      exact busy (sound.awake serving)
  | idle | terminate => exact absurd rfl serving
  | acceptRequest here =>
      have inside := sound.paced.inside _ here
      have running := sound.paced.running (by rw [here]; trivial)
      rw [← inside] at running
      exact running.resolve_left (by simp [ServerBody.state])
  | _ => exact sound.awake serving

/-- A state of the transaction is only brought up by the body before it. -/
theorem Moves.opens
    (moves : server.Moves env server' events)
    (sound : server.Sound parameters)
    {state : FsmState}
    (holds : server'.toParty.Holds state)
    (new : ¬server.toParty.Holds state) :
    state = .terminate ∨
      (state = .request ∧ server.point = .enter .terminate) ∨
      (server'.point = .leave state ∧
        ((state = .response ∧
            ∃ request, server.point = .body (.requestReceive request)) ∨
          (state = .initiateBlock ∧
            ∃ response, server.point = .body (.responseSend response)) ∨
          (state = .block ∧
            ∃ initiate, server.point = .body (.initiateReceive initiate)))) := by
  rcases moves.holds holds new with
    last | request | ⟨body, here, rfl, -, leaving⟩
  · exact .inl last
  · exact .inr (.inl request)
  · have inside := sound.paced.inside body here
    cases body with
    | requestReceive request =>
        exact .inr (.inr ⟨leaving, .inl ⟨rfl, _, here⟩⟩)
    | responseSend response =>
        exact .inr (.inr ⟨leaving, .inr (.inl ⟨rfl, _, here⟩)⟩)
    | initiateReceive initiate =>
        exact .inr (.inr ⟨leaving, .inr (.inr ⟨rfl, _, here⟩)⟩)
    | blockSend | blockContinue | ackReceive =>
        exact absurd (.inl inside) new

/-- A state of a transaction is held anew only behind a body of the state before
it. -/
theorem Moves.held
    (moves : server.Moves env server' events)
    (sound : server.Sound parameters)
    {state : FsmState}
    (aside : ∀ body, server.point = .body body →
      ∀ target, server'.point = .leave target →
        body.state = .block ∨ target = .terminate)
    (holds : server'.toParty.Holds state)
    (inside : state = .response ∨ state = .initiateBlock ∨ state = .block) :
    server.toParty.Holds state := by
  by_contra new
  rcases moves.opens sound holds new with rfl | ⟨rfl, -⟩ | ⟨leaving, opener⟩
  · simp at inside
  · simp at inside
  rcases opener with ⟨rfl, _, here⟩ | ⟨rfl, _, here⟩ | ⟨rfl, _, here⟩
  all_goals simpa [ServerBody.state] using aside _ here _ leaving

/-- Every move keeps the invariant. -/
theorem Moves.sound
    (moves : server.Moves env server' events)
    (sound : server.Sound parameters) :
    server'.Sound parameters := by
  obtain ⟨limit, sendCB, recvCB, consumerCB, notifyCB, serverConfig⟩ :=
    moves.unchanged
  exact
    { maxPacketSize := limit.trans sound.maxPacketSize
      sendCB := sendCB.trans sound.sendCB
      recvCB := recvCB.trans sound.recvCB
      consumerCB := consumerCB.trans sound.consumerCB
      notifyCB := notifyCB.trans sound.notifyCB
      serverConfig := serverConfig.trans sound.serverConfig
      buffer := fun room => moves.buffer (sound.buffer (limit ▸ room))
      paced := moves.paced sound.paced
      room := fun _ holds inside => limit ▸ moves.room sound holds inside
      live := fun _ here => moves.live sound here
      awake := moves.awake sound }

end Kept

/-! ## Calls by the application -/

/-- What a call by the application can do: nothing, or store `IDLE`, or store
`REQUEST` while the server rests. -/
inductive Calls (server : DDServer) : DDServer → List Event → Prop
  | store {next : FsmState} {stopper : Stopper} {events : List Event}
      (allowed : next = server.nextState ∨ next = .idle ∨
        (next = .request ∧ server.isBusy = false))
      (calm : ∀ event ∈ events,
        event = .serverStarted ∨ event = .serverStopped) :
      Calls server
        { server with nextState := next, stopper := stopper } events

theorem Calls.calm
    {server server' : DDServer}
    {events : List Event}
    (calls : server.Calls server' events) :
    ∀ event ∈ events, event = .serverStarted ∨ event = .serverStopped := by
  cases calls with
  | store _ calm => exact calm

/-- A record that ignores the calls is the same after one. -/
theorem Calls.foldl_of_ignored
    {server server' : DDServer}
    {events : List Event}
    {Record : Type}
    {note : Record → Event → Record}
    (calls : server.Calls server' events)
    (started : ∀ record, note record .serverStarted = record)
    (stopped : ∀ record, note record .serverStopped = record)
    (record : Record) :
    events.foldl note record = record := by
  refine Trace.foldl_eq_self (fun event present record => ?_) record
  rcases calls.calm event present with rfl | rfl
  · exact started record
  · exact stopped record

/-- What holds of the calls at any time holds of every event after one. -/
theorem Calls.every
    {server server' : DDServer}
    {trace events : List Event}
    {right : List Event → Event → Prop}
    (calls : server.Calls server' events)
    (started : ∀ before, right before .serverStarted)
    (stopped : ∀ before, right before .serverStopped)
    (every : Trace.Every right trace) :
    Trace.Every right (trace ++ events) := by
  apply every.append_of_forall
  intro before event present
  rcases calls.calm event present with rfl | rfl
  · exact started before
  · exact stopped before

/-- What the application stores is no state of a transaction. -/
theorem Calls.held
    {server server' : DDServer}
    {events : List Event}
    (calls : server.Calls server' events)
    {state : FsmState}
    (holds : server'.toParty.Holds state)
    (inside : state = .response ∨ state = .initiateBlock ∨ state = .block) :
    server.toParty.Holds state := by
  obtain ⟨allowed, -⟩ := calls
  rcases Party.holds_of_store holds with old | rfl
  · exact old
  · rcases allowed with rfl | rfl | ⟨rfl, -⟩
    · exact .inr (.inl rfl)
    · simp at inside
    · simp at inside

/-- What an action can do to a server. -/
inductive Steps (server : DDServer) : Action → DDServer → List Event → Prop
  | fsm {env : Environment} {server' : DDServer} {events : List Event}
      (moves : server.Moves env server' events) :
      Steps server (.fsm env) server' events
  | call {action : Action} {server' : DDServer} {events : List Event}
      (calls : server.Calls server' events) :
      Steps server action server' events

theorem calls_startServer (server : DDServer) (env : Environment) :
    server.Calls (server.step (.startServer env)).1
      (server.step (.startServer env)).2 := by
  by_cases resting : server.isBusy = false
  · simp only [step, startServer, if_pos resting]
    rcases server.setNextFSMState_cases .request env with stored | dropped
    · rw [stored]
      exact .store (.inr (.inr ⟨rfl, resting⟩)) (by simp)
    · rw [dropped]
      exact .store (.inl rfl) (by simp)
  · simp only [step, startServer, if_neg resting]
    exact @Calls.store server _ server.stopper _ (.inl rfl) (by simp)

theorem calls_stopServer (server : DDServer) (env : Environment) :
    server.Calls (server.stopServer env).1 (server.stopServer env).2 := by
  unfold stopServer
  split
  next => exact .store (.inl rfl) (by simp)
  next =>
    split
    next => exact @Calls.store server _ server.stopper _ (.inl rfl) (by simp)
    next => exact .store (.inl rfl) (by simp)
  next =>
    rcases server.setNextFSMState_cases .idle env with stored | dropped
    · rw [stored]
      exact .store (.inr (.inl rfl)) (by simp)
    · rw [dropped]
      exact .store (.inl rfl) (by simp)

section Runs

variable {parameters : Parameters} {server server' : DDServer}
variable {action : Action} {events : List Event}

theorem Sound.steps (sound : server.Sound parameters) (action : Action) :
    server.Steps action (server.step action).1 (server.step action).2 := by
  cases action with
  | fsm env => exact .fsm (sound.moves env)
  | startServer env => exact .call (calls_startServer server env)
  | stopServer env => exact .call (calls_stopServer server env)

/-- What the application stores may be stored at any time. -/
theorem Calls.paced
    (calls : server.Calls server' events)
    (paced : server.toParty.Paced ServerBody.state server.Free)
    (awake : server.clientConfig.transactionID ≠ 0#32 →
      server.isBusy = true) :
    server'.toParty.Paced ServerBody.state server'.Free := by
  obtain ⟨rfl | rfl | ⟨rfl, resting⟩, -⟩ := calls
  · exact paced
  · exact paced.store (.inl rfl)
  · refine paced.store (.inr ⟨rfl, ?_⟩)
    by_contra serving
    simp [resting] at awake
    exact serving awake

theorem Calls.sound
    (calls : server.Calls server' events)
    (sound : server.Sound parameters) :
    server'.Sound parameters := by
  have paced := calls.paced sound.paced sound.awake
  have held {state : FsmState} := @calls.held _ _ _ state
  obtain ⟨-, -⟩ := calls
  exact
    { sound with
      paced := paced
      room := fun state holds inside =>
        sound.room state (held holds (.inr inside)) inside }

/-- For a packet length that holds a block header, the allocation succeeds. -/
theorem allocate_stagingSize
    {parameters : Parameters}
    (room : 5 ≤ parameters.maxPacketlen.toNat) :
    allocate (stagingSize parameters) = some staging := by
  have length := parameters.maxPacketlen.isLt
  have blocks := parameters.blocksPerTransaction.isLt
  refine if_pos ?_
  rw [stagingSize, BlockTxRxPacket.getHeaderSize_eq, sizeSub_eq room, sizeMul]
  calc _ ≤ (parameters.maxPacketlen.toNat - 5) *
          parameters.blocksPerTransaction.toNat := Nat.mod_le _ _
    _ ≤ 2 ^ 8 * 2 ^ 8 := Nat.mul_le_mul (by omega) (by omega)
    _ < 2 ^ 63 := by decide

theorem new_internalBuffer
    {parameters : Parameters}
    (room : 5 ≤ parameters.maxPacketlen.toNat)
    (heap : Heap) :
    (new parameters heap).internalBuffer = some staging :=
  allocate_stagingSize room

theorem sound_new (parameters : Parameters) (heap : Heap) :
    (new parameters heap).Sound parameters where
  maxPacketSize := rfl
  sendCB := rfl
  recvCB := rfl
  consumerCB := rfl
  notifyCB := rfl
  serverConfig := rfl
  buffer := fun room => ⟨0, new_internalBuffer room heap⟩
  paced := by constructor <;> simp [new, FsmState.Follows, Point.Running]
  room := by simp [new, Party.Holds]
  live := by simp [new]
  awake := by simp [new]

theorem Steps.sound
    (steps : server.Steps action server' events)
    (sound : server.Sound parameters) :
    server'.Sound parameters := by
  cases steps with
  | fsm moves => exact moves.sound sound
  | call calls => exact calls.sound sound

/-- Every run of a server keeps the invariant. -/
theorem sound_of_reaches
    {admits : DDServer → List Event → Action → Prop}
    {heap : Heap}
    {trace : List Event}
    (reaches : machine.Reaches admits (new parameters heap) server trace) :
    server.Sound parameters :=
  reaches.invariant (fun server _ => server.Sound parameters)
    (sound_new parameters heap)
    fun _ _ action sound _ => (sound.steps action).sound sound

/-- The invariant rule for runs of a server: each step may assume that the
server is sound. -/
theorem invariant_of_reaches
    {admits : DDServer → List Event → Action → Prop}
    {heap : Heap}
    {trace : List Event}
    (reaches : machine.Reaches admits (new parameters heap) server trace)
    (invariant : DDServer → List Event → Prop)
    (initial : invariant (new parameters heap) [])
    (preserved : ∀ server trace action server' events,
      server.Sound parameters → invariant server trace →
        admits server trace action → server.Steps action server' events →
          invariant server' (trace ++ events)) :
    invariant server trace := by
  have both := reaches.invariant
    (fun server trace =>
      server.Sound parameters ∧ invariant server trace)
    ⟨sound_new parameters heap, initial⟩
    (by
      rintro server trace action ⟨sound, holds⟩ admitted
      have steps := sound.steps action
      exact ⟨steps.sound sound,
        preserved _ _ _ _ _ sound holds admitted steps⟩)
  exact both.2

end Runs

end DDServer

end DataDumpProtocol

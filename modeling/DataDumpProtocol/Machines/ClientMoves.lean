import DataDumpProtocol.Machines.Client
import DataDumpProtocol.Machines.Packets

/-!
# What one step of the client can do

`DDClient.Sound` is the invariant of every run of a client, whatever frames
arrive and whatever the locks and callbacks answer.  For a sound client,
`DDClient.Moves` lists what one step of `FSMLoop` can do; proofs about the
client go by cases on it.
-/

namespace DataDumpProtocol

namespace ClientBody

/-- The state whose body a program point belongs to. -/
def state : ClientBody → FsmState
  | .requestSend _ => .request
  | .responseReceive _ => .response
  | .initiateSend _ => .initiateBlock
  | .blockReceive _ | .blockContinue | .ackSend _ | .ackNotSend _ => .block

end ClientBody

namespace DDClient

/-! ## Spec lemmas of the state bodies -/

theorem termsPacket_carries (msgType : MsgType) (config : TranscationHeader) :
    (termsPacket msgType config).Carries msgType config.terms :=
  ⟨rfl, rfl, rfl, rfl⟩

/-- The terms of an acknowledgement: nothing but the transaction ID. -/
def ackTerms (transactionId : TransactionId) : Terms :=
  ⟨transactionId, 0, 0, 0⟩

theorem ackPacket_carries
    (msgType : MsgType)
    (transactionId : TransactionId) :
    (ackPacket msgType transactionId).Carries msgType
      (ackTerms transactionId) :=
  ⟨rfl, rfl, rfl, rfl⟩

/-- The payload of the block that waits at `recvCB`. -/
def polledPayload (client : DDClient) (env : Environment) : List Byte :=
  (client.recvByteBuffer env).bytes 5
    (client.polledBlockHeader env).dataBufferSize.toNat

@[simp] theorem length_polledPayload (client : DDClient) (env : Environment) :
    (client.polledPayload env).length =
      (client.polledBlockHeader env).dataBufferSize.toNat := by
  simp [polledPayload]

/-- The client after it has stored the block that waits at `recvCB`. -/
def storing (client : DDClient) (target : Pointer) (env : Environment) :
    DDClient :=
  let size := (client.polledBlockHeader env).dataBufferSize.toNat
  { client with
    heap := client.heap.write target (client.polledPayload env)
    internalBuffer := some (target.advance size)
    internalBufferLen := client.internalBufferLen - size }

/-- The waiting block does not fit the caller's buffer. -/
def Overflows (client : DDClient) (env : Environment) : Prop :=
  ∀ target, client.internalBuffer = some target →
    0#8 < (client.polledBlockHeader env).dataBufferSize →
      client.internalBufferLen <
        (client.polledBlockHeader env).dataBufferSize.toNat

/-- Storing an accepted block: it is written behind the blocks before it, or
it does not fit. -/
theorem storeBlock_cases
    {client : DDClient}
    {env : Environment}
    (packet : BlockTxRxPacket)
    (accepts : client.AcceptsBlock .blockTransfer env) :
    (∃ target, client.internalBuffer = some target ∧
      (client.polledBlockHeader env).dataBufferSize.toNat ≤
        client.internalBufferLen ∧
      client.storeBlock
          (client.receiveBlock packet .blockTransfer env).2 env =
        some (client.storing target env,
          .blockStored target (client.polledPayload env))) ∨
    (client.Overflows env ∧
      client.storeBlock
        (client.receiveBlock packet .blockTransfer env).2 env = none) := by
  have header := DataDump.receiveBlock_header packet accepts
  have buffer := DataDump.receiveBlock_buffer packet accepts
  generalize (client.receiveBlock packet .blockTransfer env).2 = received
    at header buffer
  unfold storeBlock
  rw [header]
  split
  next target contents target_eq contents_eq =>
    by_cases fits : (client.polledBlockHeader env).dataBufferSize.toNat ≤
        client.internalBufferLen
    · left
      have payload_eq : received.copiedFromBuffer env.beyond
          (client.polledBlockHeader env).dataBufferSize.toNat =
          client.polledPayload env := by
        rw [buffer] at contents_eq
        split at contents_eq
        next positive =>
          rw [BlockTxRxPacket.copiedFromBuffer, buffer, if_pos positive,
            Option.getD_some, View.bytes_ofList _ _ _ _ (by simp)]
          simp [polledPayload]
        next empty =>
          have zero : (client.polledBlockHeader env).dataBufferSize.toNat =
              0 := by
            simpa [BitVec.lt_def] using empty
          simp [polledPayload, BlockTxRxPacket.copiedFromBuffer, zero]
      refine ⟨target, target_eq, fits, ?_⟩
      simp only [if_pos fits, payload_eq]
      rfl
    · right
      simp only [if_neg fits, and_true]
      intro _ _ _
      omega
  next absent =>
    right
    refine ⟨fun target target_eq positive => ?_, rfl⟩
    rw [if_pos positive] at buffer
    exact absurd buffer (absent target _ target_eq)

/-! ## The invariant of every run -/

/-- The state that may be stored as the next one at any time: the cleanup of
`TERMINATE` stores `IDLE` when it has dropped the caller's buffer. -/
def Free (client : DDClient) (state : FsmState) : Prop :=
  state = .idle ∧ client.internalBuffer = none ∧ client.isBusy = true

/-- What is known about the packet that is being sent. -/
def Live (client : DDClient) : ClientBody → Prop
  | .requestSend request =>
      request.Carries .request client.clientConfig.terms
  | .initiateSend initiate =>
      initiate.Carries .initiateBlockTransfer client.serverConfig.terms ∧
        client.serverConfig.transactionID ≠ 0#32
  | .ackSend ackPacket =>
      ackPacket.Carries .blockAck
          (ackTerms client.serverConfig.transactionID) ∧
        client.serverConfig.transactionID ≠ 0#32 ∧
        client.internalBuffer ≠ none
  | .ackNotSend ackPacket =>
      ackPacket.Carries .blockAckNot
        (ackTerms client.serverConfig.transactionID)
  | _ => True

/-- What holds in every run of a client built from the parameters. -/
structure Sound (parameters : Parameters) (client : DDClient) : Prop where
  maxPacketSize : client.maxPacketSize = parameters.maxPacketlen.toNat
  sendCB : client.sendCB = parameters.sendCB
  recvCB : client.recvCB = parameters.recvCB
  notifyCB : client.notifyCB = parameters.appStatusCB
  clientConfig : client.clientConfig = parameters.config
  paced : client.Paced ClientBody.state client.Free
  busy : ∀ state, client.Holds state →
    state = .response ∨ state = .initiateBlock ∨ state = .block →
      client.isBusy = true
  live : ∀ body, client.point = .body body → client.Live body
  known : client.Holds .block → client.internalBuffer ≠ none →
    client.serverConfig.transactionID ≠ 0#32

/-! ## One step -/

/-- How a state body gives up without success, and what is observed. -/
inductive GivesUp (client : DDClient) (env : Environment) :
    ClientBody → List Event → Prop
  | unsent {body : ClientBody} {events : List Event}
      (unsent : Unsent events)
      (expired : env.timerExpired = true) :
      GivesUp client env body events
  | unheard {response : TransactionPacket}
      (rejects : ¬client.Accepts .response env)
      (expired : env.timerExpired = true) :
      GivesUp client env (.responseReceive response) client.pollEvent

/-- What can be observed when a state body gives up. -/
theorem GivesUp.mem
    {client : DDClient}
    {env : Environment}
    {body : ClientBody}
    {events : List Event}
    (givesUp : client.GivesUp env body events)
    {event : Event}
    (present : event ∈ events) :
    event = .polled ∨ ∃ frame, event = .sent frame false := by
  cases givesUp with
  | unsent unsent => exact .inr (unsent event present)
  | unheard => exact .inl (DataDump.mem_pollEvent.mp present).2

/-- What a step of `FSMLoop` can do to a client, and what is observed. -/
inductive Moves (client : DDClient) (env : Environment) :
    DDClient → List Event → Prop
  | shell {client' : DDClient}
      (shell : client.Shell env client') :
      Moves client env client' []
  | idle (here : client.point = .enter .idle) :
      Moves client env
        { client with isBusy := false, point := .top .readNext }
        [.body .idle client.internalBuffer]
  | beginRequest (here : client.point = .enter .request)
      (started : env.timerStarted = true) :
      Moves client env
        (client.goto
          (.body (.requestSend (termsPacket .request client.clientConfig))))
        [.body .request client.internalBuffer]
  | noTimer (here : client.point = .enter .request)
      (stopped : env.timerStarted = false) :
      Moves client env (client.goto (.leave .terminate))
        [.body .request client.internalBuffer]
  | requestSent {request : TransactionPacket}
      (here : client.point = .body (.requestSend request)) :
      Moves client env (client.goto (.leave .response))
        [.sent (DataDump.controlFrame request) true]
  | awaitResponse (here : client.point = .enter .response) :
      Moves client env (client.goto (.body (.responseReceive {})))
        [.body .response client.internalBuffer]
  | acceptResponse {response : TransactionPacket}
      (here : client.point = .body (.responseReceive response))
      (accepts : client.Accepts .response env) :
      Moves client env
        { client with
          serverConfig := client.serverConfig.setTerms
            (client.polledHeader env).maxACKTimeout
            (client.polledHeader env).maxBlocksPerTransaction
            (client.polledHeader env).maxPacketlen
            (client.polledHeader env).transactionID
          point := .leave .initiateBlock }
        (client.pollEvent ++ [.received (client.polledHeader env)])
  | beginInitiate (here : client.point = .enter .initiateBlock)
      (known : client.serverConfig.transactionID ≠ 0#32) :
      Moves client env
        (client.goto
          (.body (.initiateSend
            (termsPacket .initiateBlockTransfer client.serverConfig))))
        [.body .initiateBlock client.internalBuffer]
  | refuse (here : client.point = .enter .initiateBlock)
      (unknown : client.serverConfig.transactionID = 0#32) :
      Moves client env (client.goto (.leave .terminate))
        [.body .initiateBlock client.internalBuffer]
  | initiateSent {initiate : TransactionPacket}
      (here : client.point = .body (.initiateSend initiate)) :
      Moves client env (client.goto (.leave .block))
        [.sent (DataDump.controlFrame initiate) true]
  | awaitBlock (here : client.point = .enter .block) :
      Moves client env (client.goto (.body (.blockReceive {})))
        [.body .block client.internalBuffer]
  | storeMore {packet : BlockTxRxPacket} {target : Pointer}
      (here : client.point = .body (.blockReceive packet))
      (accepts : client.AcceptsBlock .blockTransfer env)
      (buffer : client.internalBuffer = some target)
      (fits : (client.polledBlockHeader env).dataBufferSize.toNat ≤
        client.internalBufferLen)
      (more : (client.polledBlockHeader env).getContinueBit =
        .continueTransfer) :
      Moves client env
        ((client.storing target env).goto (.body .blockContinue))
        (client.pollEvent ++
          [.blockReceived (client.polledBlockHeader env),
            .blockStored target (client.polledPayload env)])
  | storeLast {packet : BlockTxRxPacket} {target : Pointer}
      (here : client.point = .body (.blockReceive packet))
      (accepts : client.AcceptsBlock .blockTransfer env)
      (buffer : client.internalBuffer = some target)
      (fits : (client.polledBlockHeader env).dataBufferSize.toNat ≤
        client.internalBufferLen)
      (last : (client.polledBlockHeader env).getContinueBit =
        .terminateTransfer) :
      Moves client env
        ((client.storing target env).goto
          (.body (.ackSend
            (ackPacket .blockAck client.serverConfig.transactionID))))
        (client.pollEvent ++
          [.blockReceived (client.polledBlockHeader env),
            .blockStored target (client.polledPayload env)])
  | missBlock {packet : BlockTxRxPacket}
      (here : client.point = .body (.blockReceive packet))
      (rejects : ¬client.AcceptsBlock .blockTransfer env)
      (expired : env.timerExpired = true) :
      Moves client env
        (client.goto
          (.body (.ackNotSend
            (ackPacket .blockAckNot client.serverConfig.transactionID))))
        client.pollEvent
  | refuseBlock {packet : BlockTxRxPacket}
      (here : client.point = .body (.blockReceive packet))
      (accepts : client.AcceptsBlock .blockTransfer env)
      (overflows : client.Overflows env) :
      Moves client env
        (client.goto
          (.body (.ackNotSend
            (ackPacket .blockAckNot client.serverConfig.transactionID))))
        (client.pollEvent ++
          [.blockReceived (client.polledBlockHeader env)])
  | continueBlock (here : client.point = .body .blockContinue) :
      Moves client env (client.goto (.leave (client.getCurrentFSMState env)))
        []
  | ackSent {ackPacket : TransactionPacket}
      (here : client.point = .body (.ackSend ackPacket)) :
      Moves client env
        { client with isTransferSuccess := true, point := .leave .terminate }
        [.sent (DataDump.controlFrame ackPacket) true]
  | ackNotSent {ackPacket : TransactionPacket}
      (here : client.point = .body (.ackNotSend ackPacket)) :
      Moves client env (client.goto (.leave .terminate))
        [.sent (DataDump.controlFrame ackPacket) true]
  | poll {before after : TransactionPacket}
      (here : client.point = .body (.responseReceive before))
      (rejects : ¬client.Accepts .response env)
      (running : env.timerExpired = false) :
      Moves client env (client.goto (.body (.responseReceive after)))
        client.pollEvent
  | pollBlock {before after : BlockTxRxPacket}
      (here : client.point = .body (.blockReceive before))
      (rejects : ¬client.AcceptsBlock .blockTransfer env)
      (running : env.timerExpired = false) :
      Moves client env (client.goto (.body (.blockReceive after)))
        client.pollEvent
  | retry {body : ClientBody} {events : List Event}
      (here : client.point = .body body)
      (unsent : Unsent events) :
      Moves client env client events
  | giveUp {body : ClientBody} {events : List Event}
      (here : client.point = .body body)
      (givesUp : client.GivesUp env body events) :
      Moves client env (client.goto (.leave .terminate)) events
  | terminate (here : client.point = .enter .terminate) :
      Moves client env
        { client with
          isTransferSuccess := false
          serverConfig := client.serverConfig.setTerms 0 0 0 0
          internalBuffer := none
          internalBufferLen := 0
          point := .leave .idle }
        (.body .terminate client.internalBuffer :: client.notification)

theorem Moves.retried
    {client : DDClient}
    {env : Environment}
    {body : ClientBody}
    {events : List Event}
    (here : client.point = .body body)
    (unsent : Unsent events) :
    client.Moves env (client.goto (.body body)) events := by
  rw [Party.goto, ← here]
  exact .retry here unsent

theorem moves_enterBody
    {client : DDClient}
    {env : Environment}
    {state : FsmState}
    (here : client.point = .enter state) :
    client.Moves env (client.enterBody env state).1
      (client.enterBody env state).2 := by
  cases state with
  | idle => exact .idle here
  | request =>
      simp only [enterBody]
      split
      next started => exact .beginRequest here started
      next stopped => exact .noTimer here (by simpa using stopped)
  | response => exact .awaitResponse here
  | initiateBlock =>
      simp only [enterBody]
      split
      next known => exact .beginInitiate here known
      next unknown => exact .refuse here (not_not.mp unknown)
  | block => exact .awaitBlock here
  | terminate =>
      have moves : client.Moves env _ _ := .terminate here
      simp only [DataDump.notification] at moves
      simp only [enterBody]
      split at moves
      next notifies =>
        rw [if_pos notifies]
        exact moves
      next silent =>
        rw [if_neg silent]
        exact moves

/-- The `BLOCK` body behind an accepted block. -/
theorem moves_handleBlock
    {client : DDClient}
    {env : Environment}
    {packet : BlockTxRxPacket}
    {recvLen : Nat}
    (here : client.point = .body (.blockReceive packet))
    (accepts : client.AcceptsBlock .blockTransfer env)
    (positive : recvLen ≠ 0) :
    client.Moves env
      (client.handleBlock recvLen
        (client.receiveBlock packet .blockTransfer env).2 env).1
      (client.pollEvent ++
          [.blockReceived (client.polledBlockHeader env)] ++
        (client.handleBlock recvLen
          (client.receiveBlock packet .blockTransfer env).2 env).2) := by
  have header := DataDump.receiveBlock_header packet accepts
  unfold handleBlock
  rw [header]
  rcases storeBlock_cases packet accepts with
    ⟨target, buffer, fits, stored⟩ | ⟨overflows, refused⟩
  · simp only [Nat.pos_of_ne_zero positive, if_true, stored,
      List.append_assoc]
    cases continueBit : (client.polledBlockHeader env).getContinueBit with
    | terminateTransfer =>
        exact .storeLast here accepts buffer fits continueBit
    | continueTransfer =>
        exact .storeMore here accepts buffer fits continueBit
  · simp only [Nat.pos_of_ne_zero positive, if_true, refused,
      List.append_nil]
    exact .refuseBlock here accepts overflows

section Moves

variable {parameters : Parameters} {client : DDClient} {env : Environment}
variable (sound : client.Sound parameters)

include sound

theorem Sound.moves_stepBody
    {body : ClientBody}
    (here : client.point = .body body) :
    client.Moves env (client.stepBody env body).1
      (client.stepBody env body).2 := by
  cases body with
  | requestSend request =>
      have live : request.Carries _ _ := sound.live _ here
      obtain ⟨result, events, round, outcome, -⟩ :=
        client.sendLoop_outcome env live.empty
      simp only [stepBody, round]
      cases outcome with
      | sent => exact .requestSent here
      | retried unsent => exact .retried here unsent
      | expired unsent _ expired => exact .giveUp here (.unsent unsent expired)
  | responseReceive response =>
      obtain ⟨result, packet, events, round, outcome, header⟩ :=
        client.receiveLoop_outcome response .response env
      simp only [stepBody, round]
      cases outcome with
      | polled rejects running => exact .poll here rejects running
      | expired rejects expired =>
          exact .giveUp here (.unheard rejects expired)
      | accepted accepts positive =>
          simp only [Nat.pos_of_ne_zero positive, if_true, header accepts]
          exact .acceptResponse here accepts
  | initiateSend initiate =>
      have live : initiate.Carries _ _ ∧ _ := sound.live _ here
      obtain ⟨result, events, round, outcome, -⟩ :=
        client.sendLoop_outcome env live.1.empty
      simp only [stepBody, round]
      cases outcome with
      | sent => exact .initiateSent here
      | retried unsent => exact .retried here unsent
      | expired unsent _ expired => exact .giveUp here (.unsent unsent expired)
  | blockReceive blockDataPacket =>
      obtain ⟨result, packet, events, round, outcome, received⟩ :=
        client.receiveBlockLoop_outcome blockDataPacket .blockTransfer env
      simp only [stepBody, round]
      cases outcome with
      | polled rejects running => exact .pollBlock here rejects running
      | expired rejects expired =>
          simpa [handleBlock] using Moves.missBlock here rejects expired
      | accepted accepts positive =>
          rw [received accepts]
          exact moves_handleBlock here accepts positive
  | blockContinue => exact .continueBlock here
  | ackSend ackPacket =>
      have live : ackPacket.Carries _ _ ∧ _ := sound.live _ here
      obtain ⟨result, events, round, outcome, -⟩ :=
        client.sendLoop_outcome env live.1.empty
      simp only [stepBody, round]
      cases outcome with
      | sent => exact .ackSent here
      | retried unsent => exact .retried here unsent
      | expired unsent _ expired => exact .giveUp here (.unsent unsent expired)
  | ackNotSend ackPacket =>
      have live : ackPacket.Carries _ _ := sound.live _ here
      obtain ⟨result, events, round, outcome, -⟩ :=
        client.sendLoop_outcome env live.empty
      simp only [stepBody, round]
      cases outcome with
      | sent => exact .ackNotSent here
      | retried unsent => exact .retried here unsent
      | expired unsent _ expired => exact .giveUp here (.unsent unsent expired)

/-- A step of `FSMLoop` is one of the moves. -/
theorem Sound.moves (env : Environment) :
    client.Moves env (client.fsmStep env).1 (client.fsmStep env).2 := by
  unfold fsmStep
  split
  next at_ here =>
    have dispatches := client.toDataDump.dispatches env at_
    have moves := Moves.shell (.dispatch here dispatches)
    generalize client.dispatch env at_ = result at moves
    obtain ⟨dump, next | state⟩ := result
    · exact moves
    · exact moves
  next state here => exact moves_enterBody here
  next body here => exact sound.moves_stepBody here
  next target here => exact .shell (.leave here)

end Moves

/-! ## The invariant is kept -/

section Kept

variable {parameters : Parameters} {client client' : DDClient}
variable {env : Environment} {events : List Event}

/-- The pace is kept. -/
theorem Moves.paced
    (moves : client.Moves env client' events)
    (paced : client.Paced ClientBody.state client.Free) :
    client'.Paced ClientBody.state client'.Free := by
  have same : ∀ state, client.Free state → client.Free state := fun _ => id
  have entering {state : FsmState} (here : client.point = .enter state) :
      client.point.Running := by
    rw [here]
    trivial
  have inBody {body : ClientBody} (here : client.point = .body body) :
      client.point.Running := by
    rw [here]
    trivial
  cases moves with
  | shell shell =>
      obtain ⟨_, _, _, _, rfl, busy⟩ := shell.unchanged
      exact shell.paced paced fun _ free => ⟨free.1, free.2.1, busy free.2.2⟩
  | idle here =>
      have inside := paced.current_of_enter here (by simp)
      refine ⟨paced.follows.settle ?_, ?_, ?_, ?_, ?_,
        fun _ => .inl inside.symm⟩
      case refine_1 => exact fun free => free.1.trans inside
      all_goals simp
  | beginRequest here | awaitResponse here | beginInitiate here
  | awaitBlock here =>
      have inside := paced.current_of_enter here (by simp)
      exact paced.toBody same (entering here) rfl rfl rfl rfl inside
  | noTimer here | refuse here =>
      exact paced.toLeave same (entering here) rfl rfl rfl rfl
        (.terminate _ _)
  | requestSent here =>
      have inside := paced.inside _ here
      exact paced.toLeave same (inBody here) rfl rfl rfl rfl
        (inside ▸ .successor _ .request)
  | acceptResponse here =>
      have inside := paced.inside _ here
      exact paced.toLeave same (inBody here) rfl rfl rfl rfl
        (inside ▸ .successor _ .response)
  | initiateSent here =>
      have inside := paced.inside _ here
      exact paced.toLeave same (inBody here) rfl rfl rfl rfl
        (inside ▸ .successor _ .initiateBlock)
  | storeMore here accepts buffer | storeLast here accepts buffer =>
      have inside := paced.inside _ here
      refine paced.toBody (fun state free => ?_) (inBody here) rfl rfl rfl rfl
        inside
      exact absurd (buffer.symm.trans free.2.1) (by simp)
  | missBlock here | refuseBlock here | poll here | pollBlock here =>
      have inside := paced.inside _ here
      exact paced.toBody same (inBody here) rfl rfl rfl rfl inside
  | continueBlock here =>
      refine paced.toLeave same (inBody here) rfl rfl rfl rfl ?_
      rcases client.getCurrentFSMState_cases env with read | failed
      · rw [read]
        exact .refl _ _
      · rw [failed]
        exact .terminate _ _
  | ackSent here | ackNotSent here | giveUp here =>
      exact paced.toLeave same (inBody here) rfl rfl rfl rfl (.terminate _ _)
  | retry => exact paced
  | terminate here =>
      refine paced.toLeave (fun _ free => ⟨free.1, rfl, free.2.2⟩)
        (entering here) rfl rfl rfl rfl ?_
      rcases paced.running (entering here) with idle | busy
      · rw [idle]
        exact .refl _ _
      · exact .of_free _ ⟨rfl, rfl, busy⟩

/-- The states that a step brings up: `TERMINATE`, `IDLE` by the cleanup, or
the successor of the state whose body ends. -/
theorem Moves.holds
    (moves : client.Moves env client' events)
    {state : FsmState}
    (holds : client'.Holds state)
    (new : ¬client.Holds state) :
    state = .terminate ∨
      (state = .idle ∧ client.point = .enter .terminate) ∨
      ∃ body, client.point = .body body ∧ state = body.state.successor ∧
        client'.point = .leave state := by
  have ofBody {body : ClientBody}
      (here : client'.point = .body body)
      (current : client'.currentState = client.currentState)
      (next : client'.nextState = client.nextState) : False :=
    new (Party.holds_of_body current next here holds)
  have ofLeave {target : FsmState}
      (here : client'.point = .leave target)
      (current : client'.currentState = client.currentState)
      (next : client'.nextState = client.nextState) : state = target :=
    (Party.holds_of_leave current next here holds).resolve_left new
  cases moves with
  | shell shell => exact .inl ((shell.holds holds).resolve_left new)
  | idle here =>
      refine absurd ?_ new
      simpa [Party.Holds, here] using holds.imp_right
        (Or.imp_right fun impossible => by simp at impossible)
  | beginRequest | awaitResponse | beginInitiate | awaitBlock | storeMore
  | storeLast | missBlock | refuseBlock | poll | pollBlock =>
      exact absurd (ofBody rfl rfl rfl) id
  | retry => exact absurd holds new
  | noTimer | refuse | ackSent | ackNotSent | giveUp =>
      exact .inl (ofLeave rfl rfl rfl)
  | terminate here => exact .inr (.inl ⟨ofLeave rfl rfl rfl, here⟩)
  | requestSent here | acceptResponse here | initiateSent here =>
      obtain rfl := ofLeave rfl rfl rfl
      exact .inr (.inr ⟨_, here, rfl, rfl⟩)
  | continueBlock here =>
      have stored := ofLeave rfl rfl rfl
      rcases client.getCurrentFSMState_cases env with read | failed
      · exact absurd (.inl (stored.trans read)) new
      · exact .inl (stored.trans failed)

/-- No step changes the callbacks, the limit or the client's own terms. -/
theorem Moves.unchanged (moves : client.Moves env client' events) :
    client'.maxPacketSize = client.maxPacketSize ∧
      client'.sendCB = client.sendCB ∧ client'.recvCB = client.recvCB ∧
      client'.notifyCB = client.notifyCB ∧
      client'.clientConfig = client.clientConfig := by
  cases moves with
  | shell shell =>
      obtain ⟨_, _, _, _, rfl, -⟩ := shell.unchanged
      exact ⟨rfl, rfl, rfl, rfl, rfl⟩
  | _ => exact ⟨rfl, rfl, rfl, rfl, rfl⟩

/-- Only the `IDLE` body clears the running indicator. -/
theorem Moves.isBusy
    (moves : client.Moves env client' events)
    (busy : client.isBusy = true) :
    client'.isBusy = true ∨ client.point = .enter .idle := by
  cases moves with
  | shell shell =>
      obtain ⟨_, _, _, _, rfl, kept⟩ := shell.unchanged
      exact .inl (kept busy)
  | idle here => exact .inr here
  | _ => exact .inl busy

/-- The server's terms are only replaced by a response, and dropped together
with the caller's buffer. -/
theorem Moves.serverConfig (moves : client.Moves env client' events) :
    client'.serverConfig = client.serverConfig ∧
        (client'.internalBuffer ≠ none → client.internalBuffer ≠ none) ∨
      (∃ response, client.point = .body (.responseReceive response)) ∨
      client'.internalBuffer = none := by
  cases moves with
  | shell shell =>
      obtain ⟨_, _, _, _, rfl, -⟩ := shell.unchanged
      exact .inl ⟨rfl, id⟩
  | acceptResponse here => exact .inr (.inl ⟨_, here⟩)
  | storeMore _ _ buffer | storeLast _ _ buffer =>
      exact .inl ⟨rfl, fun _ => by simp [buffer]⟩
  | terminate => exact .inr (.inr rfl)
  | _ => exact .inl ⟨rfl, id⟩

/-- A body is observed to start first, and where it is entered. -/
theorem Moves.body_cases (moves : client.Moves env client' events) :
    BeginsAt client.point client.internalBuffer events := by
  cases moves with
  | idle here | beginRequest here | noTimer here | awaitResponse here
  | beginInitiate here | refuse here | awaitBlock here =>
      exact .inl ⟨_, [], here, rfl, by simp⟩
  | terminate here =>
      refine .inl ⟨_, _, here, rfl, ?_⟩
      simp +contextual [Event.isBody]
  | retry here unsent =>
      refine .inr fun event present => ?_
      obtain ⟨frame, rfl⟩ := unsent event present
      rfl
  | giveUp here givesUp =>
      refine .inr fun event present => ?_
      rcases givesUp.mem present with rfl | ⟨frame, rfl⟩ <;> rfl
  | _ =>
      right
      simp +contextual [or_imp, Event.isBody]

theorem Sound.busy_of_inside
    (sound : client.Sound parameters)
    {body : ClientBody}
    (here : client.point = .body body) :
    client.isBusy = true := by
  have inside := sound.paced.inside body here
  have running := sound.paced.running (by rw [here]; trivial)
  rw [← inside] at running
  apply running.resolve_left
  cases body <;> simp [ClientBody.state]

theorem Moves.busy
    (moves : client.Moves env client' events)
    (sound : client.Sound parameters)
    {state : FsmState}
    (holds : client'.Holds state)
    (transferring : state = .response ∨ state = .initiateBlock ∨
      state = .block) :
    client'.isBusy = true := by
  by_cases old : client.Holds state
  · refine (moves.isBusy (sound.busy state old transferring)).resolve_right ?_
    intro resting
    have follows := sound.paced.follows_of_enter resting old
    rcases transferring with rfl | rfl | rfl <;>
      simp [FsmState.Follows, FsmState.successor, Free] at follows
  · rcases moves.holds holds old with
      rfl | ⟨rfl, -⟩ | ⟨body, here, rfl, -⟩
    · simp at transferring
    · simp at transferring
    · refine (moves.isBusy (sound.busy_of_inside here)).resolve_right ?_
      simp [here]

theorem Moves.live
    (moves : client.Moves env client' events)
    (sound : client.Sound parameters)
    {body : ClientBody}
    (here' : client'.point = .body body) :
    client'.Live body := by
  cases moves with
  | shell shell => exact absurd here' (shell.point_ne_body body)
  | retry => exact sound.live body here'
  | beginRequest =>
      obtain rfl := Point.body.inj here'
      exact termsPacket_carries _ _
  | beginInitiate _ known =>
      obtain rfl := Point.body.inj here'
      exact ⟨termsPacket_carries _ _, known⟩
  | storeLast here _ buffer =>
      obtain rfl := Point.body.inj here'
      have inside := sound.paced.inside _ here
      have known := sound.known (.inl inside) (by simp [buffer])
      exact ⟨ackPacket_carries _ _, known, by simp [storing]⟩
  | missBlock | refuseBlock =>
      obtain rfl := Point.body.inj here'
      exact ackPacket_carries _ _
  | awaitResponse | awaitBlock | storeMore | poll | pollBlock =>
      obtain rfl := Point.body.inj here'
      trivial
  | _ => cases here'

/-- A state of the transfer is only brought up by the body before it. -/
theorem Moves.opens
    (moves : client.Moves env client' events)
    (sound : client.Sound parameters)
    {state : FsmState}
    (holds : client'.Holds state)
    (new : ¬client.Holds state) :
    state = .terminate ∨
      (state = .idle ∧ client.point = .enter .terminate) ∨
      (client'.point = .leave state ∧
        ((state = .response ∧
            ∃ request, client.point = .body (.requestSend request)) ∨
          (state = .initiateBlock ∧
            ∃ response, client.point = .body (.responseReceive response)) ∨
          (state = .block ∧
            ∃ initiate, client.point = .body (.initiateSend initiate)))) := by
  rcases moves.holds holds new with last | idle | ⟨body, here, rfl, leaving⟩
  · exact .inl last
  · exact .inr (.inl idle)
  · have inside := sound.paced.inside body here
    cases body with
    | requestSend request =>
        exact .inr (.inr ⟨leaving, .inl ⟨rfl, _, here⟩⟩)
    | responseReceive response =>
        exact .inr (.inr ⟨leaving, .inr (.inl ⟨rfl, _, here⟩)⟩)
    | initiateSend initiate =>
        exact .inr (.inr ⟨leaving, .inr (.inr ⟨rfl, _, here⟩)⟩)
    | blockReceive | blockContinue | ackSend | ackNotSend =>
        exact absurd (.inl inside) new

theorem Moves.known
    (moves : client.Moves env client' events)
    (sound : client.Sound parameters)
    (holds : client'.Holds .block)
    (given : client'.internalBuffer ≠ none) :
    client'.serverConfig.transactionID ≠ 0#32 := by
  have inResponse {response : TransactionPacket}
      (here : client.point = .body (.responseReceive response)) :
      ¬client'.Holds .block := by
    intro holds
    by_cases old : client.Holds .block
    · have follows := sound.paced.follows_of_inside here old
      simp [FsmState.Follows, ClientBody.state, FsmState.successor, Free]
        at follows
    · simpa [here] using moves.opens sound holds old
  rcases moves.serverConfig with ⟨same, buffer⟩ | ⟨response, here⟩ | dropped
  · rw [same]
    by_cases old : client.Holds .block
    · exact sound.known old (buffer given)
    · obtain ⟨-, initiate, here⟩ : client'.point = .leave .block ∧
          ∃ initiate, client.point = .body (.initiateSend initiate) := by
        simpa using moves.opens sound holds old
      exact (sound.live _ here).2
  · exact absurd holds (inResponse here)
  · exact absurd dropped given

/-- Every move keeps the invariant. -/
theorem Moves.sound
    (moves : client.Moves env client' events)
    (sound : client.Sound parameters) :
    client'.Sound parameters := by
  obtain ⟨limit, sendCB, recvCB, notifyCB, clientConfig⟩ := moves.unchanged
  exact
    { maxPacketSize := limit.trans sound.maxPacketSize
      sendCB := sendCB.trans sound.sendCB
      recvCB := recvCB.trans sound.recvCB
      notifyCB := notifyCB.trans sound.notifyCB
      clientConfig := clientConfig.trans sound.clientConfig
      paced := moves.paced sound.paced
      busy := fun _ holds => moves.busy sound holds
      live := fun _ here => moves.live sound here
      known := moves.known sound }

end Kept

/-! ## Calls by the application -/

/-- What a call of `startNewTransfer` can do: nothing, or hand over a buffer
and store `REQUEST` while the client rests. -/
inductive Calls (client : DDClient) (buffer : Option Pointer) (size : Nat) :
    DDClient → List Event → Prop
  | refused : Calls client buffer size client []
  | started {pointer : Pointer} {next : FsmState}
      (given : buffer = some pointer)
      (positive : 0 < size)
      (resting : client.isBusy = false)
      (allowed : next = client.nextState ∨ next = .request) :
      Calls client buffer size
        { client with
          internalBuffer := some pointer
          internalBufferLen := size
          nextState := next }
        [.transferStarted pointer size]

/-- What an action can do to a client. -/
inductive Steps (client : DDClient) : Action → DDClient → List Event → Prop
  | fsm {env : Environment} {client' : DDClient} {events : List Event}
      (moves : client.Moves env client' events) :
      Steps client (.fsm env) client' events
  | call {buffer : Option Pointer} {size : Nat} {env : Environment}
      {client' : DDClient} {events : List Event}
      (calls : client.Calls buffer size client' events) :
      Steps client (.startNewTransfer buffer size env) client' events

/-- The client after it has taken over the caller's buffer. -/
def taking (client : DDClient) (pointer : Pointer) (size : Nat) : DDClient :=
  { client with
    internalBuffer := some pointer
    internalBufferLen := size }

/-- What a call of `startNewTransfer` does. -/
theorem startNewTransfer_cases
    (client : DDClient)
    (buffer : Option Pointer)
    (size : Nat)
    (env : Environment) :
    client.startNewTransfer buffer size env = (false, client) ∨
      ∃ pointer, buffer = some pointer ∧ 0 < size ∧ client.isBusy = false ∧
        client.startNewTransfer buffer size env =
          (true,
            { toDataDump :=
                (client.taking pointer size).setNextFSMState .request env
              point := client.point }) := by
  cases buffer with
  | none => exact .inl rfl
  | some pointer =>
      simp only [startNewTransfer]
      by_cases positive : 0 < size
      · by_cases busy : client.isBusy = true
        · simp [busy]
        · right
          refine ⟨pointer, rfl, positive, by simpa using busy, ?_⟩
          rw [if_neg (by omega), if_neg busy]
          rfl
      · simp [Nat.eq_zero_of_not_pos positive]

theorem calls_startNewTransfer
    (client : DDClient)
    (buffer : Option Pointer)
    (size : Nat)
    (env : Environment) :
    client.Calls buffer size (client.step (.startNewTransfer buffer size env)).1
      (client.step (.startNewTransfer buffer size env)).2 := by
  rcases client.startNewTransfer_cases buffer size env with
    refused | ⟨pointer, rfl, positive, resting, started⟩
  · cases buffer <;> simpa [step, refused] using .refused
  · simp only [step, started]
    rcases (client.taking pointer size).setNextFSMState_cases .request env with
      stored | dropped
    · rw [stored]
      exact .started rfl positive resting (.inr rfl)
    · rw [dropped]
      exact .started rfl positive resting (.inl rfl)

section Runs

variable {parameters : Parameters} {client client' : DDClient}
variable {action : Action} {events : List Event}
variable {buffer : Option Pointer} {size : Nat}

theorem Sound.steps (sound : client.Sound parameters) (action : Action) :
    client.Steps action (client.step action).1 (client.step action).2 := by
  cases action with
  | fsm env => exact .fsm (sound.moves env)
  | startNewTransfer buffer size env =>
      exact .call (calls_startNewTransfer client buffer size env)

/-- A resting client holds no state of a transfer. -/
theorem Sound.not_holds_of_resting
    (sound : client.Sound parameters)
    (resting : client.isBusy = false)
    {state : FsmState}
    (transferring : state = .response ∨ state = .initiateBlock ∨
      state = .block) :
    ¬client.Holds state := by
  intro holds
  have busy := sound.busy state holds transferring
  simp [resting] at busy

/-- `REQUEST` follows every state that a resting client holds. -/
theorem Sound.follows_request
    (sound : client.Sound parameters)
    (resting : client.isBusy = false)
    {state : FsmState}
    (holds : client.Holds state)
    (free : FsmState → Prop) :
    FsmState.Follows free state .request := by
  cases state with
  | idle => exact .successor _ .idle
  | request => exact .refl _ _
  | terminate => exact .afterTerminate _ _
  | response | initiateBlock | block =>
      exact absurd holds (sound.not_holds_of_resting resting (by simp))

theorem Calls.paced
    (calls : client.Calls buffer size client' events)
    (sound : client.Sound parameters) :
    client'.Paced ClientBody.state client'.Free := by
  have paced := sound.paced
  cases calls with
  | refused => exact paced
  | @started pointer next given positive resting allowed =>
      -- A resting client stores no state out of turn.
      have inTurn {state next : FsmState}
          (follows : FsmState.Follows client.Free state next)
          (free : FsmState → Prop) : FsmState.Follows free state next :=
        follows.mono fun free => by simp [free.2.2] at resting
      have chosen {state : FsmState}
          (holds : client.Holds state)
          (follows : FsmState.Follows client.Free state client.nextState)
          (free : FsmState → Prop) : FsmState.Follows free state next := by
        rcases allowed with rfl | rfl
        · exact inTurn follows free
        · exact sound.follows_request resting holds free
      exact
        { follows := chosen (.inl rfl) paced.follows _
          stored := fun state here =>
            chosen (.inr (.inr (.inl here))) (paced.stored state here) _
          entered := paced.entered
          inside := paced.inside
          leaving := fun state here => inTurn (paced.leaving state here) _
          running := paced.running }

/-- The application is only served while no body runs. -/
theorem Sound.resting_point
    (sound : client.Sound parameters)
    (resting : client.isBusy = false)
    (body : ClientBody) :
    client.point ≠ .body body := by
  intro here
  have busy := sound.busy_of_inside here
  simp [resting] at busy

/-- A client that is asked for a transfer holds no state of one. -/
theorem Sound.not_holds_of_started
    (sound : client.Sound parameters)
    (resting : client.isBusy = false)
    {next : FsmState}
    (allowed : next = client.nextState ∨ next = .request)
    {state : FsmState}
    (transferring : state = .response ∨ state = .initiateBlock ∨
      state = .block) :
    ¬({ client with nextState := next } : DDClient).Holds state := by
  intro holds
  rcases Party.holds_of_store holds with old | rfl
  · exact sound.not_holds_of_resting resting transferring old
  · rcases allowed with rfl | rfl
    · exact sound.not_holds_of_resting resting transferring (.inr (.inl rfl))
    · simp at transferring

theorem Calls.sound
    (calls : client.Calls buffer size client' events)
    (sound : client.Sound parameters) :
    client'.Sound parameters := by
  have paced := calls.paced sound
  cases calls with
  | refused => exact sound
  | @started pointer next given positive resting allowed =>
      have absent {state : FsmState} :=
        @sound.not_holds_of_started _ _ resting _ allowed state
      exact
        { sound with
          paced := paced
          busy := fun _ holds transferring =>
            absurd holds (absent transferring)
          live := fun body here =>
            absurd here (sound.resting_point resting body)
          known := fun holds => absurd holds (absent (by simp)) }

theorem sound_new (parameters : Parameters) (heap : Heap) :
    (new parameters heap).Sound parameters where
  maxPacketSize := rfl
  sendCB := rfl
  recvCB := rfl
  notifyCB := rfl
  clientConfig := rfl
  paced := by constructor <;> simp [new, FsmState.Follows, Point.Running]
  busy := by simp [new, Party.Holds]
  live := by simp [new]
  known := by simp [new]

theorem Steps.sound
    (steps : client.Steps action client' events)
    (sound : client.Sound parameters) :
    client'.Sound parameters := by
  cases steps with
  | fsm moves => exact moves.sound sound
  | call calls => exact calls.sound sound

/-- Every run of a client keeps the invariant. -/
theorem sound_of_reaches
    {admits : DDClient → List Event → Action → Prop}
    {heap : Heap}
    {trace : List Event}
    (reaches : machine.Reaches admits (new parameters heap) client trace) :
    client.Sound parameters :=
  reaches.invariant (fun client _ => client.Sound parameters)
    (sound_new parameters heap)
    fun _ _ action sound _ => (sound.steps action).sound sound

/-- The invariant rule for runs of a client: each step may assume that the
client is sound. -/
theorem invariant_of_reaches
    {admits : DDClient → List Event → Action → Prop}
    {heap : Heap}
    {trace : List Event}
    (reaches : machine.Reaches admits (new parameters heap) client trace)
    (invariant : DDClient → List Event → Prop)
    (initial : invariant (new parameters heap) [])
    (preserved : ∀ client trace action client' events,
      client.Sound parameters → invariant client trace →
        admits client trace action → client.Steps action client' events →
          invariant client' (trace ++ events)) :
    invariant client trace := by
  have both := reaches.invariant
    (fun client trace =>
      client.Sound parameters ∧ invariant client trace)
    ⟨sound_new parameters heap, initial⟩
    (by
      rintro client trace action ⟨sound, holds⟩ admitted
      have steps := sound.steps action
      exact ⟨steps.sound sound,
        preserved _ _ _ _ _ sound holds admitted steps⟩)
  exact both.2

end Runs

end DDClient

end DataDumpProtocol

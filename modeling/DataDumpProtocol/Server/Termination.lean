import DataDumpProtocol.Server.Numbering
import DataDumpProtocol.Machines.Ranking

/-!
# The end of a service

From the request that it accepts on, a server goes through its states in one
direction, and it counts the blocks that it sends.  So the steps that no loop
can repeat are bounded until it waits for a request again: a server whose
timeouts come is back after a number of steps that is linear in the number of
blocks that the client asked for.
-/

namespace DataDumpProtocol

namespace ServerBody

/-- The body keeps sending or polling until the timer expires. -/
def repeats : ServerBody → Bool
  | .responseSend _ | .initiateReceive _ | .blockSend _ | .ackReceive _ => true
  | .requestReceive _ | .blockContinue => false

/-- A loop before and after a round that does not end it. -/
def GoesOn (body body' : ServerBody) : Prop :=
  body' = body ∨ ∃ msgType, body.Polls body' msgType

end ServerBody

namespace DDServer

/-- The step may be one round of a loop that goes on until the timer expires,
or is one of the application. -/
def MayRepeat (server : DDServer) : Action → Bool
  | .fsm env =>
      match server.point with
      | .body body => body.repeats && !env.timerExpired
      | _ => false
  | .startServer _ | .stopServer _ => true

/-- The blocks that may follow the one that the counter is at. -/
def blocksLeft (server : DDServer) : Nat :=
  server.clientConfig.maxBlocksPerTransaction.toNat -
    (server.internalCounter.setWidth 8).toNat

/-- The phases of a service of so many blocks, with three for each that may
follow.  A server that waits for a request is in none. -/
def phaseAt (blocks left : Nat) : FsmState ⊕ ServerBody → Nat
  | .inl .idle | .inl .request | .inr (.requestReceive _) => 0
  | .inl .terminate => 1
  | .inr (.ackReceive _) => 2
  | .inr (.blockSend blockDataPacket) =>
      match blockDataPacket.header.getContinueBit with
      | .terminateTransfer => 3
      | .continueTransfer => 3 * left + 6
  | .inl .block => 3 * left + 4
  | .inr .blockContinue => 3 * left + 5
  | .inr (.initiateReceive _) => 3 * blocks + 5
  | .inl .initiateBlock => 3 * blocks + 6
  | .inr (.responseSend _) => 3 * blocks + 7
  | .inl .response => 3 * blocks + 8

/-- The phase of the server's thread. -/
def phase (server : DDServer) : Nat :=
  phaseAt server.clientConfig.maxBlocksPerTransaction.toNat server.blocksLeft
    server.site

section Phase

variable {parameters : Parameters} {server server' : DDServer}
variable {env : Environment} {events : List Event}

theorem blocksLeft_le (server : DDServer) :
    server.blocksLeft ≤ server.clientConfig.maxBlocksPerTransaction.toNat :=
  Nat.sub_le _ _

theorem phaseAt_le
    {blocks left : Nat}
    (within : left ≤ blocks)
    (site : FsmState ⊕ ServerBody) :
    phaseAt blocks left site ≤ 3 * blocks + 8 := by
  rcases site with state | body
  · cases state <;> simp only [phaseAt] <;> omega
  · cases body with
    | blockSend =>
        simp only [phaseAt]
        split <;> omega
    | requestReceive | responseSend | initiateReceive | blockContinue
    | ackReceive =>
        simp only [phaseAt]
        omega

theorem phase_le (server : DDServer) :
    server.phase ≤
      3 * server.clientConfig.maxBlocksPerTransaction.toNat + 8 :=
  phaseAt_le server.blocksLeft_le _

theorem phase_of_body
    {body : ServerBody}
    (here : server.point = .body body) :
    server.phase =
      phaseAt server.clientConfig.maxBlocksPerTransaction.toNat
        server.blocksLeft (.inr body) := by
  rw [phase, Party.site_of_body here]

theorem phase_of_enter
    {state : FsmState}
    (here : server.point = .enter state) :
    server.phase =
      phaseAt server.clientConfig.maxBlocksPerTransaction.toNat
        server.blocksLeft (.inl state) := by
  rw [phase, Party.site_of_enter here]

theorem phase_of_leave
    {state : FsmState}
    (here : server.point = .leave state) :
    server.phase =
      phaseAt server.clientConfig.maxBlocksPerTransaction.toNat
        server.blocksLeft (.inl state) := by
  rw [phase, Party.site_of_leave here]

/-- Every body of a service is in a later phase than `TERMINATE`. -/
theorem one_lt_phaseAt
    {body : ServerBody}
    (timed : body.state ≠ .request)
    (blocks left : Nat) :
    1 < phaseAt blocks left (.inr body) := by
  cases body with
  | requestReceive => simp [ServerBody.state] at timed
  | blockSend blockDataPacket =>
      simp only [phaseAt]
      split <;> omega
  | responseSend | initiateReceive | blockContinue | ackReceive =>
      simp [phaseAt]

/-- A block that announces another one uses up one of the blocks. -/
theorem blocksLeft_lt
    (more : server.lastFrame = .continueTransfer) :
    server.clientConfig.maxBlocksPerTransaction.toNat -
        ((server.internalCounter + 1).setWidth 8).toNat <
      server.blocksLeft := by
  simp only [lastFrame] at more
  split at more
  next => simp at more
  next within =>
    have allowed : server.internalCounter.setWidth 8 <
        server.clientConfig.maxBlocksPerTransaction :=
      BitVec.not_le.mp fun limit => within (.inl limit)
    have bound := server.clientConfig.maxBlocksPerTransaction.isLt
    have one : (1 : BitVec 32).toNat = 1 := rfl
    rw [BitVec.lt_def, BitVec.toNat_setWidth] at allowed
    rw [blocksLeft, BitVec.toNat_setWidth, BitVec.toNat_setWidth,
      BitVec.toNat_add, one]
    omega

/-- Each move brings a server closer to its next request, or is a round of a
loop. -/
theorem Moves.rank
    (moves : server.Moves env server' events)
    (sound : server.Sound parameters)
    (acquired : env.lockAcquired = true)
    (serving : server.phase ≠ 0) :
    server'.rank server'.phase < server.rank server.phase ∨
      server'.rank server'.phase = server.rank server.phase ∧
        ∃ body body', server.point = .body body ∧
          server'.point = .body body' ∧ body.GoesOn body' := by
  cases moves with
  | @shell party shell =>
      left
      have same : ({ server with toParty := party } : DDServer).phase =
          server.phase := by
        have site := shell.site_eq acquired
        obtain ⟨_, _, _, _, rfl, -⟩ := shell.unchanged
        simp only [phase, site, blocksLeft]
      rw [same]
      exact shell.rank_lt _
  | idle here | awaitRequest here => exact absurd (phase_of_enter here) serving
  | acceptRequest here => exact absurd (phase_of_body here) serving
  | readStorage here =>
      left
      apply Party.rank_lt_of_phase
      have fewer := negotiated_blocks_le server
      rw [phase_of_enter here, phase_of_body rfl]
      simp only [phaseAt]
      omega
  | readNothing here | noStorage here | terminate here =>
      left
      apply Party.rank_lt_of_phase
      rw [phase_of_enter here, phase_of_leave rfl]
      simp [phaseAt]
  | awaitInitiate here =>
      left
      apply Party.rank_lt_of_phase
      rw [phase_of_enter here, phase_of_body rfl]
      simp [phaseAt, goto]
  | responseSent here | erase here | eraseElse here =>
      left
      apply Party.rank_lt_of_phase
      rw [phase_of_body here, phase_of_leave rfl]
      simp [phaseAt, goto]
  | acceptInitiate here =>
      left
      apply Party.rank_lt_of_phase
      rw [phase_of_body here, phase_of_leave rfl]
      simp only [phaseAt, blocksLeft]
      omega
  | fillBlock here =>
      left
      apply Party.rank_lt_of_phase
      rw [phase_of_enter here, phase_of_body rfl]
      simp only [phaseAt, blockPacket_getContinueBit]
      -- The last block is followed by its acknowledgement, whatever is left.
      cases frame : server.lastFrame with
      | terminateTransfer => simp
      | continueTransfer =>
          have fewer := blocksLeft_lt frame
          simp only [blocksLeft] at fewer ⊢
          omega
  | blockSent here more =>
      left
      apply Party.rank_lt_of_phase
      rw [phase_of_body here, phase_of_body rfl]
      simp [phaseAt, more, goto, blocksLeft]
  | lastBlockSent here last =>
      left
      apply Party.rank_lt_of_phase
      rw [phase_of_body here, phase_of_body rfl]
      simp [phaseAt, last]
  | continueBlock here =>
      left
      apply Party.rank_lt_of_phase
      have inside := sound.paced.inside _ here
      rw [phase_of_body here, phase_of_leave rfl]
      simp [phaseAt, DataDump.getCurrentFSMState, acquired, ← inside,
        ServerBody.state, goto, blocksLeft]
  | poll here polls =>
      refine .inr ⟨?_, _, _, here, rfl, .inr ⟨_, polls⟩⟩
      rw [Party.rank, Party.rank, phase_of_body here, phase_of_body rfl, here]
      cases polls <;> rfl
  | retry here => exact .inr ⟨rfl, _, _, here, here, .inl rfl⟩
  | giveUp here _ timed =>
      left
      apply Party.rank_lt_of_phase
      rw [phase_of_body here, phase_of_leave rfl]
      exact one_lt_phaseAt timed _ _

/-- A body whose loop cannot go on is left, or goes on to its next loop. -/
theorem fsmStep_not_goesOn
    {body body' : ServerBody}
    (here : server.point = .body body)
    (timed : body.state ≠ .request)
    (once : body.repeats = false ∨ env.timerExpired = true)
    (goesOn : body.GoesOn body') :
    (server.fsmStep env).1.point ≠ .body body' := by
  have expired (repeats : body.repeats = true) : env.timerExpired = true :=
    once.resolve_left (by simp [repeats])
  cases body with
  | requestReceive => simp [ServerBody.state] at timed
  | blockContinue => simp [fsmStep, here, stepBody, goto]
  | responseSend response =>
      have ends := server.sendLoop_of_expired (expired rfl) response
      simp only [fsmStep, here, stepBody]
      rcases loop : server.sendLoop response env with
        ⟨_ | _ | _, response', events⟩
      · rw [loop] at ends
        exact absurd rfl ends
      · simp [goto]
      · simp [goto]
  | initiateReceive initiate =>
      have ends := server.receiveLoop_of_expired (expired rfl) initiate
        .initiateBlockTransfer
      simp only [fsmStep, here, stepBody]
      rcases loop : server.receiveLoop initiate .initiateBlockTransfer env with
        ⟨_ | recvLen, initiate', events⟩
      · rw [loop] at ends
        exact absurd rfl ends
      · simp only
        split <;> simp [goto]
  | blockSend blockDataPacket =>
      have ends :=
        server.sendBlockLoop_of_expired (expired rfl) blockDataPacket
      obtain rfl : body' = .blockSend blockDataPacket := by
        rcases goesOn with same | ⟨_, polls⟩
        · exact same
        · cases polls
      simp only [fsmStep, here, stepBody]
      rcases loop : server.sendBlockLoop blockDataPacket env with
        ⟨_ | _ | _, events⟩
      · rw [loop] at ends
        exact absurd rfl ends
      · simp [goto]
      · cases blockDataPacket.header.getContinueBit <;> simp [goto]
  | ackReceive ackPacket =>
      have ends :=
        server.receiveLoop_of_expired (expired rfl) ackPacket .blockAck
      simp only [fsmStep, here, stepBody]
      rcases loop : server.receiveLoop ackPacket .blockAck env with
        ⟨_ | recvLen, ackPacket', events⟩
      · rw [loop] at ends
        exact absurd rfl ends
      · simp only [handleAck]
        split
        · split
          · split <;> simp [goto]
          · simp [goto]
        · simp [goto]

/-- The steps to the next request that no loop can repeat, at most. -/
def stepsLeft (server : DDServer) : Nat :=
  if server.phase = 0 then 0 else server.rank server.phase

theorem stepsLeft_le (server : DDServer) :
    server.stepsLeft ≤
      24 * server.clientConfig.maxBlocksPerTransaction.toNat + 71 := by
  have phase := server.phase_le
  have rank := server.rank_le server.phase
  unfold stepsLeft
  split <;> omega

/-- What a step costs: nothing where a loop may repeat it. -/
def cost (server : DDServer) (action : Action) : Nat :=
  if server.MayRepeat action then 0 else 1

/-- The thread serves a request and acquires its lock, or it is the application
that acts. -/
def Works (server : DDServer) : Action → Prop
  | .fsm env => server.phase ≠ 0 ∧ env.lockAcquired = true
  | .startServer _ | .stopServer _ => True

instance
    (server : DDServer) :
    (action : Action) → Decidable (server.Works action)
  | .fsm _ => inferInstanceAs (Decidable (_ ∧ _))
  | .startServer _ | .stopServer _ => inferInstanceAs (Decidable True)

/-- The application can only end a service. -/
theorem Calls.stepsLeft_le
    (calls : server.Calls server' events) :
    server'.stepsLeft ≤ server.stepsLeft := by
  cases calls with
  | @store next stopper _ allowed =>
      rcases allowed with rfl | stored
      · exact Nat.le_refl _
      · rcases server.toParty.site_store next with same | turned
        · have phase : phase { server with
              nextState := next, stopper := stopper } = server.phase :=
            congrArg (phaseAt _ server.blocksLeft) same
          exact Nat.le_of_eq (by rw [stepsLeft, stepsLeft, phase]; rfl)
        · have phase : phase { server with
              nextState := next, stopper := stopper } =
                phaseAt _ server.blocksLeft (.inl next) :=
            congrArg (phaseAt _ server.blocksLeft) turned
          have rests : phaseAt server.clientConfig.maxBlocksPerTransaction.toNat
              server.blocksLeft (.inl next) = 0 := by
            rcases stored with rfl | ⟨rfl, -⟩ <;> rfl
          rw [stepsLeft, if_pos (phase.trans rests)]
          exact Nat.zero_le _

/-- A step behind which a loop goes on is one that the loop may repeat. -/
theorem mayRepeat_of_goesOn
    {body body' : ServerBody}
    (here : server.point = .body body)
    (timed : body.state ≠ .request)
    (goesOn : body.GoesOn body')
    (here' : (server.fsmStep env).1.point = .body body') :
    server.MayRepeat (.fsm env) = true := by
  by_contra once
  have ends : body.repeats = false ∨ env.timerExpired = true := by
    simp only [MayRepeat, here, Bool.and_eq_true, Bool.not_eq_true', not_and,
      Bool.not_eq_false] at once
    cases repeats : body.repeats with
    | false => exact .inl rfl
    | true => exact .inr (once repeats)
  exact fsmStep_not_goesOn here timed ends goesOn here'

/-- A step that no loop can repeat leaves fewer steps to the next request. -/
theorem stepsLeft_step
    {action : Action}
    (sound : server.Sound parameters)
    (works : server.Works action) :
    (server.step action).1.stepsLeft + server.cost action ≤
      server.stepsLeft := by
  cases action with
  | fsm env =>
      obtain ⟨serving, acquired⟩ := works
      have now : server.stepsLeft = server.rank server.phase := if_neg serving
      have later : (server.fsmStep env).1.stepsLeft ≤
          (server.fsmStep env).1.rank (server.fsmStep env).1.phase := by
        unfold stepsLeft
        split <;> omega
      have most : server.cost (.fsm env) ≤ 1 := by
        unfold cost
        split <;> omega
      rw [step, now]
      rcases (sound.moves env).rank sound acquired serving with
        less | ⟨same, body, body', here, here', goesOn⟩
      · omega
      · have timed : body.state ≠ .request := by
          intro requested
          cases body with
          | requestReceive => exact serving (phase_of_body here)
          | _ => simp [ServerBody.state] at requested
        have free : server.cost (.fsm env) = 0 :=
          if_pos (mayRepeat_of_goesOn here timed goesOn here')
        omega
  | startServer env =>
      simpa [cost, MayRepeat] using (calls_startServer server env).stepsLeft_le
  | stopServer env =>
      simpa [cost, MayRepeat, step] using
        (calls_stopServer server env).stepsLeft_le

end Phase

/-- The server with the number of its steps that no loop can repeat. -/
def counting : Machine (DDServer × Nat) Action Event :=
  machine.recording fun total server action => total + server.cost action

/-- In every run from a server that serves a request on, as long as it serves
it, whatever it hears and whatever the application calls: the steps that no
loop can repeat are at most so many. -/
theorem service_ends
    {parameters : Parameters}
    {heap : Heap}
    {admits : DDServer → List Event → Action → Prop}
    {start server : DDServer}
    {before trace : List Event}
    {count : Nat}
    (reaches : machine.Reaches admits (new parameters heap) start before)
    (onward : counting.Reaches
      (fun recorded _ action => recorded.1.Works action) (start, 0)
      (server, count) trace) :
    count ≤ 24 * start.clientConfig.maxBlocksPerTransaction.toNat + 71 := by
  have paid := Machine.Reaches.budget onward stepsLeft
    (fun server => server.Sound parameters) (sound_of_reaches reaches)
    fun recorded _ action sound works =>
      ⟨(sound.steps action).sound sound, stepsLeft_step sound works⟩
  have most := start.stepsLeft_le
  omega

/-- From a request for two blocks to the body that waits for the next request,
without an acknowledgement. -/
def exampleService : List Action :=
  (twoFrames 2).drop 9 ++ [.stopServer {}, .fsm { timerExpired := true }] ++
    plain 8

/-- The steps of a server that gives up. -/
theorem service_ends_example :
    let serving := (machine.execute (new (blocksParameters 2) fun _ _ => 0) []
      ((twoFrames 2).take 9)).1
    (counting.execute (serving, 0) [] exampleService).1.2 = 40 ∧
      (counting.execute (serving, 0) [] exampleService).1.2 ≤
        24 * serving.clientConfig.maxBlocksPerTransaction.toNat + 71 := by
  intro serving
  have reaches := Machine.Reaches.execute ((twoFrames 2).take 9)
    (.start : machine.Reaches (fun _ _ _ => True)
      (new (blocksParameters 2) fun _ _ => 0) _ _)
    (by decide +kernel)
  have onward := Machine.Reaches.execute exampleService
    (.start : counting.Reaches
      (fun recorded _ action => recorded.1.Works action) (serving, 0) _ _)
    (by decide +kernel)
  exact ⟨by decide +kernel, service_ends reaches onward⟩

end DDServer

end DataDumpProtocol

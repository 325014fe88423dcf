import DataDumpProtocol.Client.Progress
import DataDumpProtocol.Machines.Ranking

/-!
# The end of a transfer

A client goes through its states in one direction and stays in `BLOCK` only as
long as blocks shorten the rest of the caller's buffer.  So the steps that no
loop can repeat are bounded: a client whose timeouts come rests after a number
of steps that is linear in the size of the buffer.
-/

namespace DataDumpProtocol

/-- The body keeps sending or polling until the timer expires. -/
def ClientBody.repeats : ClientBody → Bool
  | .requestSend _ | .responseReceive _ | .initiateSend _ | .blockReceive _
  | .ackSend _ | .ackNotSend _ => true
  | .blockContinue => false

namespace DDClient

/-- The step may be one round of a loop that goes on until the timer expires. -/
def MayRepeat (client : DDClient) : Action → Bool
  | .fsm env =>
      match client.point with
      | .body body => body.repeats && !env.timerExpired
      | _ => false
  | .startNewTransfer _ _ _ => true

/-- The phases, with three for each byte that still has room. -/
def phaseAt (room : Nat) : FsmState ⊕ ClientBody → Nat
  | .inl .idle => 0
  | .inl .terminate => 1
  | .inr (.ackSend _) | .inr (.ackNotSend _) => 2
  | .inr (.blockReceive _) => 3 * room + 3
  | .inl .block => 3 * room + 4
  | .inr .blockContinue | .inr (.initiateSend _) => 3 * room + 5
  | .inl .initiateBlock => 3 * room + 6
  | .inr (.responseReceive _) => 3 * room + 7
  | .inl .response => 3 * room + 8
  | .inr (.requestSend _) => 3 * room + 9
  | .inl .request => 3 * room + 10

/-- The phase of the client's thread. -/
def phase (client : DDClient) : Nat :=
  phaseAt client.internalBufferLen client.site

section Phase

variable {parameters : Parameters} {client client' : DDClient}
variable {env : Environment} {events : List Event}

theorem phase_le (client : DDClient) :
    client.phase ≤ 3 * client.internalBufferLen + 10 := by
  unfold phase phaseAt
  split <;> omega

theorem phase_of_body
    {body : ClientBody}
    (here : client.point = .body body) :
    client.phase = phaseAt client.internalBufferLen (.inr body) := by
  rw [phase, Party.site_of_body here]

theorem phase_of_enter
    {state : FsmState}
    (here : client.point = .enter state) :
    client.phase = phaseAt client.internalBufferLen (.inl state) := by
  rw [phase, Party.site_of_enter here]

theorem phase_of_leave
    {state : FsmState}
    (here : client.point = .leave state) :
    client.phase = phaseAt client.internalBufferLen (.inl state) := by
  rw [phase, Party.site_of_leave here]

/-- Every body is in a later phase than `TERMINATE`. -/
theorem one_lt_phaseAt (room : Nat) (body : ClientBody) :
    1 < phaseAt room (.inr body) := by
  cases body <;> simp [phaseAt]

/-- Each move brings a client closer to its rest, or is a round of a loop. -/
theorem Moves.rank
    (moves : client.Moves env client' events)
    (sound : client.Sound parameters)
    (acquired : env.lockAcquired = true)
    (still : client'.isBusy = true)
    (advances : ∀ packet, client.point = .body (.blockReceive packet) →
      ¬(client'.point = .body .blockContinue ∧
        client'.internalBufferLen = client.internalBufferLen)) :
    client'.rank client'.phase < client.rank client.phase ∨
      client'.rank client'.phase = client.rank client.phase ∧
        ∃ body, client.point = .body body ∧
          (client' = client ∨
            body.repeats = true ∧ env.timerExpired = false) := by
  cases moves with
  | shell shell =>
      left
      have same : client'.phase = client.phase := by
        obtain ⟨_, _, _, _, rfl, -⟩ := shell.unchanged
        simp only [phase, shell.site_eq acquired]
      rw [same]
      exact shell.rank_lt _
  | idle => simp at still
  | beginRequest here | awaitResponse here | beginInitiate here
  | awaitBlock here =>
      left
      apply Party.rank_lt_of_phase
      rw [phase_of_enter here, phase_of_body rfl]
      simp [phaseAt]
  | noTimer here | refuse here | terminate here =>
      left
      apply Party.rank_lt_of_phase
      rw [phase_of_enter here, phase_of_leave rfl]
      simp [phaseAt]
  | requestSent here | acceptResponse here | initiateSent here | ackSent here
  | ackNotSent here =>
      left
      apply Party.rank_lt_of_phase
      rw [phase_of_body here, phase_of_leave rfl]
      simp [phaseAt]
  | missBlock here | refuseBlock here =>
      left
      apply Party.rank_lt_of_phase
      rw [phase_of_body here, phase_of_body rfl]
      simp [phaseAt]
  | continueBlock here =>
      left
      apply Party.rank_lt_of_phase
      have inside := sound.paced.inside _ here
      rw [phase_of_body here, phase_of_leave rfl]
      simp [phaseAt, DataDump.getCurrentFSMState, acquired, ← inside,
        ClientBody.state]
  | storeMore here =>
      left
      apply Party.rank_lt_of_phase
      rw [phase_of_body here, phase_of_body rfl]
      have shorter := mt (And.intro rfl) (advances _ here)
      simp only [storing, Party.toDataDump_goto] at shorter
      simp only [phaseAt, storing, Party.toDataDump_goto]
      omega
  | storeLast here =>
      left
      apply Party.rank_lt_of_phase
      rw [phase_of_body here, phase_of_body rfl]
      simp [phaseAt]
  | poll here _ running | pollBlock here _ running =>
      refine .inr ⟨?_, _, here, .inr ⟨rfl, running⟩⟩
      rw [Party.rank, Party.rank, phase_of_body here, phase_of_body rfl, here]
      rfl
  | retry here => exact .inr ⟨rfl, _, here, .inl rfl⟩
  | giveUp here =>
      left
      apply Party.rank_lt_of_phase
      rw [phase_of_body here, phase_of_leave rfl]
      exact one_lt_phaseAt _ _

theorem handleBlock_point_ne
    (client : DDClient)
    (recvLen : Nat)
    (received : BlockTxRxPacket)
    (env : Environment)
    (packet : BlockTxRxPacket) :
    (client.handleBlock recvLen received env).1.point ≠
      .body (.blockReceive packet) := by
  simp only [handleBlock]
  generalize (if 0 < recvLen then client.storeBlock received env else none) =
    stored
  cases stored with
  | none => simp
  | some stored => cases received.header.getContinueBit <;> simp

/-- A body whose loops cannot go on is left, or goes on to its next loop. -/
theorem fsmStep_point_ne
    {body : ClientBody}
    (here : client.point = .body body)
    (once : body.repeats = false ∨ env.timerExpired = true) :
    (client.fsmStep env).1.point ≠ client.point := by
  have expired (repeats : body.repeats = true) : env.timerExpired = true :=
    once.resolve_left (by simp [repeats])
  cases body with
  | blockContinue => simp [fsmStep, here, stepBody]
  | requestSend packet | initiateSend packet | ackSend packet
  | ackNotSend packet =>
      have ends := client.sendLoop_of_expired (expired rfl) packet
      simp only [fsmStep, here, stepBody]
      rcases loop : client.sendLoop packet env with ⟨_ | _ | _, packet', events⟩
      · rw [loop] at ends
        exact absurd rfl ends
      · simp
      · simp
  | responseReceive response =>
      have ends :=
        client.receiveLoop_of_expired (expired rfl) response .response
      simp only [fsmStep, here, stepBody]
      rcases loop : client.receiveLoop response .response env with
        ⟨_ | recvLen, response', events⟩
      · rw [loop] at ends
        exact absurd rfl ends
      · by_cases heard : 0 < recvLen <;> simp [heard]
  | blockReceive blockDataPacket =>
      have ends := client.receiveBlockLoop_of_expired (expired rfl)
        blockDataPacket .blockTransfer
      simp only [fsmStep, here, stepBody]
      rcases loop : client.receiveBlockLoop blockDataPacket .blockTransfer env
        with ⟨_ | recvLen, blockDataPacket', events⟩
      · rw [loop] at ends
        exact absurd rfl ends
      · exact client.handleBlock_point_ne recvLen blockDataPacket' env _

/-- The steps to the client's rest that no loop can repeat, at most. -/
def stepsLeft (client : DDClient) : Nat :=
  if client.isBusy = true then client.rank client.phase + 1 else 0

theorem stepsLeft_le (client : DDClient) :
    client.stepsLeft ≤ 24 * client.internalBufferLen + 88 := by
  have phase := client.phase_le
  have rank := client.rank_le client.phase
  unfold stepsLeft
  split <;> omega

/-- What a step costs: nothing where a loop may repeat it. -/
def cost (client : DDClient) (action : Action) : Nat :=
  if client.MayRepeat action then 0 else 1

/-- The client is busy, the lock is acquired, and no block is stored without a
byte. -/
def Works (client : DDClient) : Action → Prop
  | .fsm env =>
      client.isBusy = true ∧ env.lockAcquired = true ∧
        ∀ packet ∈ client.blockDataPacket?, ¬client.StoresNothing packet env
  | .startNewTransfer _ _ _ => client.isBusy = true

instance
    (client : DDClient) :
    (action : Action) → Decidable (client.Works action)
  | .fsm _ => inferInstanceAs (Decidable (_ ∧ _))
  | .startNewTransfer _ _ _ => inferInstanceAs (Decidable (_ = _))

/-- A step that leaves the client where it is is one that a loop may repeat. -/
theorem mayRepeat_of_same
    {body : ClientBody}
    (here : client.point = .body body)
    (same : (client.fsmStep env).1 = client) :
    client.MayRepeat (.fsm env) = true := by
  by_contra once
  have ends : body.repeats = false ∨ env.timerExpired = true := by
    simp only [MayRepeat, here, Bool.and_eq_true, Bool.not_eq_true', not_and,
      Bool.not_eq_false] at once
    cases repeats : body.repeats with
    | false => exact .inl rfl
    | true => exact .inr (once repeats)
  exact fsmStep_point_ne here ends (by rw [same])

/-- A step that no loop can repeat leaves fewer steps to the rest. -/
theorem stepsLeft_step
    {action : Action}
    (sound : client.Sound parameters)
    (works : client.Works action) :
    (client.step action).1.stepsLeft + client.cost action ≤
      client.stepsLeft := by
  cases action with
  | fsm env =>
      obtain ⟨busy, acquired, brings⟩ := works
      have most : client.cost (.fsm env) ≤ 1 := by
        unfold cost
        split <;> omega
      have now : client.stepsLeft = client.rank client.phase + 1 := if_pos busy
      by_cases still : (client.fsmStep env).1.isBusy = true
      · have later : (client.fsmStep env).1.stepsLeft =
            (client.fsmStep env).1.rank (client.fsmStep env).1.phase + 1 :=
          if_pos still
        have ranked := (sound.moves env).rank sound acquired still
          fun packet here => by
            rw [storesNothing_iff here]
            exact brings packet (by simp [blockDataPacket?, here])
        rw [step, later, now]
        rcases ranked with less | ⟨same, body, here, repeated⟩
        · omega
        · have free : client.cost (.fsm env) = 0 := by
            apply if_pos
            rcases repeated with unmoved | ⟨repeats, running⟩
            · exact mayRepeat_of_same here unmoved
            · simp [MayRepeat, here, repeats, running]
          omega
      · have rests : (client.fsmStep env).1.stepsLeft = 0 := if_neg still
        rw [step, rests, now]
        omega
  | startNewTransfer buffer size env =>
      have calls := calls_startNewTransfer client buffer size env
      generalize client.step (.startNewTransfer buffer size env) = result
        at calls
      obtain ⟨client', events⟩ := result
      cases calls with
      | refused => simp [cost, MayRepeat]
      | started _ _ resting =>
          have busy : client.isBusy = true := works
          simp [busy] at resting

end Phase

/-- The client with the number of its steps that no loop can repeat. -/
def counting : Machine (DDClient × Nat) Action Event :=
  machine.recording fun total client action => total + client.cost action

/-- In every run from a busy client on, as long as it is busy and whatever it
hears: the steps that no loop can repeat are at most so many. -/
theorem transfer_ends
    {parameters : Parameters}
    {heap : Heap}
    {admits : DDClient → List Event → Action → Prop}
    {start client : DDClient}
    {before trace : List Event}
    {count : Nat}
    (reaches : machine.Reaches admits (new parameters heap) start before)
    (onward : counting.Reaches
      (fun recorded _ action => recorded.1.Works action) (start, 0)
      (client, count) trace) :
    count ≤ 24 * start.internalBufferLen + 88 := by
  have paid := Machine.Reaches.budget onward stepsLeft
    (fun client => client.Sound parameters) (sound_of_reaches reaches)
    fun recorded _ action sound works =>
      ⟨(sound.steps action).sound sound, stepsLeft_step sound works⟩
  have most := start.stepsLeft_le
  omega

/-- A busy client that hears a response and a block, and then waits in vain for
the second block. -/
def exampleGivingUp : List Action :=
  (beforeBlock ⟨1, 0⟩ 8).drop 6 ++
    blockRound [[4, 129, 0, 0, 6, 1, 2, 3, 4, 5, 6]] ++
    [.fsm {}, .fsm {}, .fsm { timerExpired := true }, .fsm {}]

/-- The steps of a client that gives up. -/
theorem transfer_ends_example :
    let busy := (reassemblyRun ((beforeBlock ⟨1, 0⟩ 8).take 6)).1
    (counting.execute (busy, 0) [] exampleGivingUp).1.2 = 34 ∧
      (counting.execute (busy, 0) [] exampleGivingUp).1.2 ≤
        24 * busy.internalBufferLen + 88 := by
  intro busy
  have reaches := Machine.Reaches.execute ((beforeBlock ⟨1, 0⟩ 8).take 6)
    (.start : machine.Reaches (fun _ _ _ => True)
      (new reassemblyParameters fun _ _ => 0) _ _)
    (by decide +kernel)
  have onward := Machine.Reaches.execute exampleGivingUp
    (.start : counting.Reaches
      (fun recorded _ action => recorded.1.Works action) (busy, 0) _ _)
    (by decide +kernel)
  exact ⟨by decide +kernel, transfer_ends reaches onward⟩

end DDClient

end DataDumpProtocol

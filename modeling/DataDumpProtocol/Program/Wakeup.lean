import DataDumpProtocol.Program.Transfers

/-!
# Who starts the next transfer

The main thread and the client's thread pass one token to each other: either
`startNextTransfer` is set, or a transfer is pending.  Between its call of
`startNewTransfer` and the clearing of `startNextTransfer`, the main thread
holds on to both.  A success that is notified there sets a flag that is already
set, and the clearing loses it.

The transfers are right for as long as the server stays inside its staging
buffer, which is for two of them.
-/

namespace DataDumpProtocol

instance (client : DDClient) : Decidable client.Rests :=
  inferInstanceAs (Decidable (_ ∧ (_ ∨ _)))

/-- The number of transfers that were handed over and are not finished. -/
def DDClient.pending (client : DDClient) : Nat :=
  if client.Rests then 0 else 1

namespace DDTest

/-- Whether success was notified between the last accepted call of
`startNewTransfer` and the clearing of `startNextTransfer` behind it. -/
def noteOverlap (overlapped : Bool) (test : DDTest) : Action → Bool
  | .main _ => if test.main = .calling then false else overlapped
  | .clientTaskloop env =>
      if test.main = .counting ∨ test.main = .clearing then
        clientNotify overlapped (test.fetched env).2
      else overlapped
  | .serverTaskloop _ => overlapped

/-- The client has notified success so often. -/
def successes (trace : List Observation) : Nat :=
  trace.count (.client (.notified true))

/-- Who holds the token at each point of the main thread: `startNextTransfer`
is set, a transfer is pending, or the last success was lost. -/
def Token (test : DDTest) (overlapped : Bool) : Prop :=
  match test.main with
  | .filling | .starting =>
      test.startNextTransfer = true ∧ overlapped = false ∧
        test.network.client.pending = 0 ∧ test.transactionCount = 0
  | .looping =>
      test.startNextTransfer.toNat + overlapped.toNat +
        test.network.client.pending = 1 ∧ test.transactionCount < 10
  | .calling =>
      test.startNextTransfer = true ∧ overlapped = false ∧
        test.network.client.pending = 0 ∧ test.transactionCount < 10
  | .counting =>
      test.startNextTransfer = true ∧
        overlapped.toNat + test.network.client.pending = 1 ∧
        test.transactionCount < 10
  | .clearing =>
      test.startNextTransfer = true ∧
        overlapped.toNat + test.network.client.pending = 1 ∧
        test.transactionCount ≤ 10
  | .sleeping =>
      test.startNextTransfer.toNat + overlapped.toNat +
        test.network.client.pending = 1 ∧ test.transactionCount ≤ 10
  | .ended =>
      test.startNextTransfer.toNat + overlapped.toNat +
        test.network.client.pending = 1 ∧ test.transactionCount = 10

/-- What holds between the threads, given whether the last success was lost. -/
structure Hands
    (test : DDTest)
    (overlapped : Bool)
    (trace : List Observation) : Prop where
  token : test.Token overlapped
  counted : successes trace + test.network.client.pending =
    test.transactionCount + if test.main = .counting then 1 else 0
  caller : test.network.history.caller = clientStorage

end DDTest

/-- In a series, a transfer is pending until the client notifies its
success. -/
theorem Series.Proceeds.pending_clientStep
    {series : Series}
    {network : Network}
    {trace : List Observation}
    {clientTally serverTally : Tally}
    {env : Environment}
    (proceeds : series.Proceeds network trace clientTally serverTally)
    (sound : network.client.Sound series.client)
    (steady : env.Steady)
    (arrives : Bool) :
    DDClient.pending (network.step (.client (.fsm env) arrives)).1.client +
        DDTest.successes (network.step (.client (.fsm env) arrives)).2 =
      network.client.pending := by
  obtain ⟨reached, waits, -⟩ :=
    Channel.bridges_taken proceeds.toClient (fun _ _ _ => Answers.ne_nil)
      arrives
  have moves := sound.moves
    (env.hearing (Channel.heard network.toClient arrives).bytes)
  simp only [Network.step, DDClient.Action.hearing, DDClient.step,
    Network.afterClient, DDTest.successes]
  rw [List.count_map_of_injective _ _ fun _ _ => Observation.client.inj]
  by_cases resting : network.client.Rests
  · obtain ⟨rests, -, bodies⟩ := moves.rests steady.1 resting
    have silent : .notified true ∉ (network.client.fsmStep
        (env.hearing (Channel.heard network.toClient arrives).bytes)).2 :=
      fun notified => by simpa [Event.isBody] using bodies _ notified
    simp [DDClient.pending, resting, rests, List.count_eq_zero.mpr silent]
  · by_cases rests : DDClient.Rests (network.client.fsmStep
        (env.hearing (Channel.heard network.toClient arrives).bytes)).1
    · have notified := @DDClient.Takes.notified_of_rests _ _ _ _
        (env.hearing (Channel.heard network.toClient arrives).bytes) _
        proceeds.client sound steady.1 steady.2.2 steady.2.1 waits resting rests
      have once := moves.notified_once true
      have some_ := List.count_pos_iff.mpr notified
      simp only [DDClient.pending, if_neg resting, if_pos rests]
      omega
    · have silent : .notified true ∉ (network.client.fsmStep
          (env.hearing (Channel.heard network.toClient arrives).bytes)).2 :=
        fun notified => rests (moves.rests_of_notified notified)
      simp [DDClient.pending, resting, rests, List.count_eq_zero.mpr silent]

namespace DDTest

section Steps

variable {test test' : DDTest} {trace observations : List Observation}
variable {action : Action} {env : Environment} {overlapped : Bool}
variable {clientTally serverTally : Tally}

/-- What a call does that is not refused. -/
theorem called_of_resting
    (resting : test.network.client.isBusy = false)
    (acquired : env.lockAcquired = true) :
    (test.called env).1.client =
        { test.network.client with
          internalBuffer := some clientStorage
          internalBufferLen := transferSize
          nextState := .request } ∧
      (test.called env).1.history.caller = clientStorage ∧
      successes (test.called env).2 = 0 := by
  have stepped : test.network.client.step
      (.startNewTransfer (some clientStorage) transferSize env) =
        ({ test.network.client with
            internalBuffer := some clientStorage
            internalBufferLen := transferSize
            nextState := .request },
          [.transferStarted clientStorage transferSize]) := by
    simp [DDClient.step, DDClient.startNewTransfer, resting,
      DataDump.setNextFSMState_of_acquired _ _ acquired, transferSize]
  simp only [called, Network.step, DDClient.Action.hearing, stepped]
  exact ⟨rfl, rfl, by simp [successes]⟩

/-- A client that is handed a transfer does not rest. -/
theorem pending_called
    (available : test.network.client.Available)
    (resting : test.network.client.isBusy = false)
    (acquired : env.lockAcquired = true) :
    (test.called env).1.client.pending = 1 := by
  rw [(called_of_resting resting acquired).1, DDClient.pending, if_neg]
  rintro ⟨-, leaves | idle⟩
  · exact (available resting).1 _ leaves
  · cases idle

@[simp] theorem successes_append (before after : List Observation) :
    successes (before ++ after) = successes before + successes after :=
  List.count_append

/-- The server's steps neither notify for the client nor touch it. -/
theorem server_aside
    (action : DDServer.Action) :
    (test.network.step (.server action true)).1.client =
        test.network.client ∧
      (test.network.step (.server action true)).1.history.caller =
        test.network.history.caller ∧
      successes (test.network.step (.server action true)).2 = 0 := by
  refine ⟨rfl, congrArg Prod.fst (History.gathered_noteServer _ _ _), ?_⟩
  apply List.count_eq_zero.mpr
  simp [Network.step]

theorem clientNotify_of_silent
    (startNextTransfer : Bool)
    (silent : successes observations = 0) :
    clientNotify startNextTransfer observations = startNextTransfer := by
  simp [clientNotify, List.count_eq_zero.mp silent]

theorem clientNotify_of_success
    (startNextTransfer : Bool)
    (notified : successes observations = 1) :
    clientNotify startNextTransfer observations = true := by
  have present : .client (.notified true) ∈ observations :=
    List.count_pos_iff.mp (Nat.lt_of_lt_of_eq Nat.one_pos notified.symm)
  simp [clientNotify, present]

/-- A step of the client's thread passes on the token. -/
theorem Token.fetches
    (token : test.Token overlapped)
    (pending : (test.fetched env).1.client.pending +
      successes (test.fetched env).2 = test.network.client.pending) :
    Token
      { test with
        network := (test.fetched env).1
        startNextTransfer :=
          clientNotify test.startNextTransfer (test.fetched env).2 }
      (test.noteOverlap overlapped (.clientTaskloop env)) := by
  have atMost : test.network.client.pending ≤ 1 := by
    unfold DDClient.pending
    split <;> omega
  obtain ⟨silent, same⟩ | ⟨notified, before, after⟩ :
      successes (test.fetched env).2 = 0 ∧
          (test.fetched env).1.client.pending = test.network.client.pending ∨
        successes (test.fetched env).2 = 1 ∧
          test.network.client.pending = 1 ∧
          (test.fetched env).1.client.pending = 0 := by
    omega
  · have kept : test.noteOverlap overlapped (.clientTaskloop env) =
        overlapped := by
      simp [noteOverlap, clientNotify_of_silent _ silent]
    rw [kept, clientNotify_of_silent _ silent]
    simpa only [Token, same] using token
  · rw [clientNotify_of_success _ notified]
    simp only [Token, before, after, noteOverlap,
      clientNotify_of_success _ notified] at token ⊢
    cases here : test.main <;> simp [here] at token ⊢ <;> simp [token]

/-- The threads pass on the token. -/
theorem Steps.hands
    (steps : test.Steps action test' observations)
    (proceeds : storageSeries.Proceeds test.network trace clientTally
      serverTally)
    (sound : test.network.Sound testClient testServer)
    (filled : test.Filled)
    (steady : action.Steady)
    (hands : test.Hands overlapped trace) :
    test'.Hands (noteOverlap overlapped test action)
      (trace ++ observations) := by
  have ⟨token, counted, caller⟩ := hands
  cases steps with
  | ends here => cases action <;> simpa [noteOverlap, here] using hands
  | fills here =>
      simp only [Token, here] at token
      exact ⟨by simpa [Token, noteOverlap, here] using token,
        by simpa [here] using counted, caller⟩
  | @starts env _ here goesOn =>
      obtain ⟨same, kept, silent⟩ :=
        test.server_aside (.startServer env)
      have resting := (filled.unstarted (.inr here)).resting
      obtain rfl := goesOn.resolve_right fun ended => by simp [ended] at resting
      simp only [Token, here] at token
      refine ⟨?_, ?_, kept.trans caller⟩
      · simp [Token, noteOverlap, here, started, same, token]
      · simpa [started, same, silent, here] using counted
  | reads here =>
      simp only [Token, here] at token
      refine ⟨?_, ?_, caller⟩
      · cases set : test.startNextTransfer
        · simp [set] at token
          simp [Token, noteOverlap, here]
          omega
        · simp [set] at token
          have lost : overlapped = false :=
            Bool.toNat_eq_zero.mp (by omega)
          simp [Token, noteOverlap, here, lost, token]
          omega
      · split <;> simpa [here] using counted
  | calls here resting =>
      obtain ⟨-, given, silent⟩ := called_of_resting resting steady
      have pending :=
        pending_called proceeds.clientAvailable resting steady
      simp only [Token, here] at token
      refine ⟨?_, ?_, given⟩
      · simp [Token, noteOverlap, here, pending, token]
      · simp [here, token, pending, silent] at counted ⊢
        omega
  | refused here =>
      simp only [Token, here] at token
      refine ⟨?_, by simpa [here] using counted, caller⟩
      simp [Token, noteOverlap, here, token]
      omega
  | counts here =>
      simp only [Token, here] at token
      obtain ⟨set, held, fewer⟩ := token
      refine ⟨?_, by simpa [here] using counted, caller⟩
      simpa [Token, noteOverlap, here] using ⟨set, held, by omega⟩
  | clears here =>
      simp only [Token, here] at token
      refine ⟨?_, by simpa [here] using counted, caller⟩
      simp [Token, noteOverlap, here, token]
  | wakes here =>
      simp only [Token, here] at token
      refine ⟨?_, ?_, caller⟩
      · split
        next more => simp [Token, noteOverlap, here, token, more]
        next =>
          simp [Token, noteOverlap, here, token]
          omega
      · split <;> simpa [here] using counted
  | @serves env running =>
      obtain ⟨same, kept, silent⟩ :=
        test.server_aside (.fsm (test.serverEnv env))
      refine ⟨?_, ?_, kept.trans caller⟩
      · simpa [Token, noteOverlap, served, same] using token
      · simpa [served, same, silent] using counted
  | @fetches env running =>
      have steady : (test.clientEnv env).Steady := steady
      have pending := proceeds.pending_clientStep sound.client steady true
      refine ⟨token.fetches pending, ?_, ?_⟩
      · rw [successes_append]
        rw [← counted, ← pending]
        simp only [fetched]
        omega
      · refine Eq.trans ?_ caller
        exact (sound.client.moves _).caller_eq _ _

/-- No transfer is pending, and none will be started. -/
structure Hung (count : Nat) (test : DDTest) : Prop where
  main : test.main = .looping ∨ test.main = .sleeping ∨ test.main = .ended
  unset : test.startNextTransfer = false
  rests : test.network.client.Rests
  counted : test.transactionCount = count
  further : count < 10 → test.main ≠ .ended

/-- No step ends it. -/
theorem Steps.hung
    {count : Nat}
    (steps : test.Steps action test' observations)
    (sound : test.network.Sound testClient testServer)
    (steady : action.Steady)
    (hung : test.Hung count) :
    test'.Hung count ∧ successes observations = 0 := by
  have main := hung.main
  cases steps with
  | ends => exact ⟨hung, rfl⟩
  | fills here | starts here | calls here | refused here | counts here
  | clears here =>
      simp [here] at main
  | reads =>
      refine ⟨⟨?_, hung.unset, hung.rests, hung.counted, fun _ => ?_⟩, rfl⟩ <;>
        simp [hung.unset]
  | wakes =>
      refine ⟨⟨?_, hung.unset, hung.rests, hung.counted, fun more => ?_⟩, rfl⟩
      · split <;> simp
      · simp [hung.counted, more]
  | @serves env =>
      obtain ⟨same, -, silent⟩ :=
        test.server_aside (.fsm (test.serverEnv env))
      exact ⟨⟨main, hung.unset, same ▸ hung.rests, hung.counted, hung.further⟩,
        silent⟩
  | @fetches env =>
      obtain ⟨rests, -, bodies⟩ :=
        (sound.client.moves ((test.clientEnv env).hearing
          (Channel.heard test.network.toClient true).bytes)).rests steady.1
          hung.rests
      have silent : successes (test.fetched env).2 = 0 := by
        apply List.count_eq_zero.mpr
        intro notified
        obtain ⟨event, present, same⟩ := List.mem_map.mp notified
        obtain rfl := Observation.client.inj same
        simpa [Event.isBody] using bodies _ present
      refine ⟨⟨main, ?_, rests, hung.counted, hung.further⟩, silent⟩
      rw [clientNotify_of_silent _ silent]
      exact hung.unset

end Steps

/-! ## Results -/

section Results

variable {test : DDTest} {overlapped : Bool} {trace : List Observation}
variable {clientHeap serverHeap : Heap}

theorem hands_of_reaches
    (reaches : (machine.recording noteOverlap).Reaches
      (fun _ _ action => action.Steady) (new clientHeap serverHeap, false)
      (test, overlapped) trace) :
    machine.Reaches (fun _ _ action => action.Steady)
        (new clientHeap serverHeap) test trace ∧
      test.Hands overlapped trace := by
  refine reaches.invariant
    (fun recorded trace =>
      machine.Reaches (fun _ _ action => action.Steady)
          (new clientHeap serverHeap) recorded.1 trace ∧
        recorded.1.Hands recorded.2 trace)
    ⟨.start, ?_⟩ ?_
  · exact ⟨⟨rfl, rfl, rfl, rfl⟩, rfl, rfl⟩
  · rintro ⟨test, overlapped⟩ trace action ⟨reached, hands⟩ steady
    obtain ⟨sound, filled⟩ := sound_of_reaches reached
    obtain ⟨clientTally, serverTally, proceeds⟩ := proceeds_of_reaches reached
    exact ⟨reached.step steady,
      (test.steps action).hands proceeds sound filled steady hands⟩

/-- Behind an access outside the server's staging buffer, anything may happen in
the program.  As long as there was none, locks are acquired and timers do not
expire, no transfer fails, whenever the client has just notified success the
storages agree, and neither side has notified it more than twice.  So the
program does not end without such an access. -/
theorem program_transfers
    (reaches : machine.orAnything.Reaches
      (Machine.AdmitsBehind (Observation.Overruns testServer)
        fun _ _ action => action.Steady)
      (new clientHeap serverHeap) test trace)
    (contained : ∀ observation ∈ trace, ¬observation.Overruns testServer) :
    (∀ status, .client (.notified status) ∈ trace ∨
      .server (.notified status) ∈ trace → status = true) ∧
    (∀ before, trace = before ++ [.client (.notified true)] →
      test.network.client.heap.bytes clientStorage transferSize =
        contents) ∧
    successes trace ≤ 2 ∧
    trace.count (.server (.notified true)) ≤ 2 ∧
    test.transactionCount ≤ 3 ∧
    test.main ≠ .ended := by
  have reached := reaches.defined contained
  obtain ⟨overlapped, recorded⟩ := reached.recorded noteOverlap false
  obtain ⟨-, token, counted, caller⟩ := hands_of_reaches recorded
  obtain ⟨clientTally, serverTally, proceeds⟩ := proceeds_of_reaches reached
  -- Two transfers fit into the staging buffer.
  have series := series_of_reaches reached
  have inside : delivered (trace.filterMap Observation.ofServer) ≤ 525 :=
    delivered_le_of_contained series contained
  have served := (drains_of_series series).bounds.1
  have client := drift_le_delivered series
  rw [drift_storageSeries, transferSize] at served client
  have twice : successes trace ≤ 2 := by
    unfold successes
    omega
  have atMost : test.network.client.pending ≤ 1 := by
    unfold DDClient.pending
    split <;> omega
  have started : test.transactionCount ≤ 3 := by omega
  refine ⟨?_, fun before last => ?_, twice, by omega, started, fun ended => ?_⟩
  · rintro status (notified | notified)
    · exact proceeds.clientReported.truthful status notified
    · exact proceeds.serverReported.truthful status notified
  · have rests := proceeds.rests before true last
    have notified : clientTally.notified =
        before.count (.client (.notified true)) + 1 := by
      rw [proceeds.clientReported.count, last, List.count_append,
        List.count_singleton_self]
    have delivered := proceeds.client.delivered rests notified
    rwa [data_storageSeries, length_contents, caller] at delivered
  · simp only [Token, ended] at token
    omega

/-- The program loses a wakeup exactly when the client notifies success before
the main thread has cleared `startNextTransfer`: where the main thread goes
round its loop and the client rests, `startNextTransfer` is set if and only if
that did not happen in the last transfer.  Once it has happened, no transfer is
started any more, and the program only ends if it was the tenth. -/
theorem lost_wakeup
    (reaches : (machine.recording noteOverlap).Reaches
      (fun _ _ action => action.Steady) (new clientHeap serverHeap, false)
      (test, overlapped) trace)
    (here : test.main = .looping ∨ test.main = .sleeping)
    (rests : test.network.client.Rests) :
    (test.startNextTransfer = true ↔ overlapped = false) ∧
    (overlapped = true → ∀ test' later,
      machine.Reaches (fun _ _ action => action.Steady) test test' later →
        test'.network.client.Rests ∧
          test'.transactionCount = test.transactionCount ∧
          successes later = 0 ∧
          (test.transactionCount < 10 → test'.main ≠ .ended)) := by
  obtain ⟨reached, token, -, -⟩ := hands_of_reaches reaches
  have idle : test.network.client.pending = 0 := if_pos rests
  have either : test.startNextTransfer.toNat + overlapped.toNat = 1 := by
    rcases here with here | here <;> simp only [Token, here, idle] at token <;>
      omega
  constructor
  · revert either
    cases test.startNextTransfer <;> cases overlapped <;> simp
  · rintro rfl test' later continues
    have unset : test.startNextTransfer = false := by
      apply Bool.toNat_eq_zero.mp
      simpa using either
    have hung : test.Hung test.transactionCount :=
      ⟨here.imp_right .inl, unset, rests, rfl, fun _ => by
        rcases here with here | here <;> simp [here]⟩
    have kept := continues.invariant
      (fun test' later => test'.network.Sound testClient testServer ∧
        test'.Hung test.transactionCount ∧ successes later = 0)
      ⟨(sound_of_reaches reached).1, hung, rfl⟩ ?_
    · obtain ⟨-, hung, silent⟩ := kept
      exact ⟨hung.rests, hung.counted, silent, hung.further⟩
    · rintro test' later action ⟨sound, hung, silent⟩ steady
      have steps := test'.steps action
      obtain ⟨hung, still⟩ := steps.hung sound steady hung
      refine ⟨steps.sound sound, hung, ?_⟩
      rw [successes_append, silent, Nat.zero_add]
      exact still

end Results

/-! ## Example runs -/

/-- Steps of both threads that run `FSMLoop`, in turn. -/
def exampleTasks (count : Nat) : List Action :=
  (List.replicate count [.serverTaskloop {}, .clientTaskloop {}]).flatten

/-- The first transfer, until the client notifies success. -/
def exampleTransfer : List Action :=
  List.replicate 4 (.main {}) ++ exampleTasks 182

/-- The main thread counts the transfer when the client is back in `IDLE`. -/
def exampleOverlap : List Action :=
  exampleTransfer ++ exampleTasks 8 ++ List.replicate 2 (.main {})

theorem steady_exampleOverlap : ∀ action ∈ exampleOverlap, action.Steady := by
  decide +kernel

/-- The program after the first transfer. -/
def exampleRun : DDTest × List Observation :=
  machine.execute (new (fun _ _ => 0) fun _ _ => 0) [] exampleTransfer

/-- The program behind the overlap, and whether there was one. -/
def exampleOverlapRun : (DDTest × Bool) × List Observation :=
  (machine.recording noteOverlap).execute
    (new (fun _ _ => 0) fun _ _ => 0, false) [] exampleOverlap

theorem reaches_exampleRun :
    machine.Reaches (fun _ _ action => action.Steady)
      (new (fun _ _ => 0) fun _ _ => 0) exampleRun.1 exampleRun.2 := by
  have steady : ∀ action ∈ exampleTransfer, action.Steady := by
    intro action present
    apply steady_exampleOverlap
    simp [exampleOverlap, present]
  exact Machine.Reaches.execute exampleTransfer .start
    (Machine.admitted_of_forall steady)

/-- The first transfer delivers the storage, and stays inside the staging
buffer. -/
theorem program_transfers_example :
    exampleRun.1.network.client.heap.bytes clientStorage transferSize =
      contents := by
  have once : exampleRun.2.count (.server (.notified true)) ≤ 1 := by
    decide +kernel
  have contained := contained_of_fits (series_of_reaches reaches_exampleRun)
    (drift_le_stagingSize once)
  exact (program_transfers reaches_exampleRun.orAnything contained).2.1
    exampleRun.2.dropLast (by decide +kernel)

/-- The threads go on, each for a while. -/
def exampleLater : List Action :=
  exampleTasks 4 ++ List.replicate 4 (.main {})

/-- Behind an overlap in the first transfer, the program goes round without
starting another one. -/
theorem lost_wakeup_example :
    let later := machine.execute exampleOverlapRun.1.1 [] exampleLater
    exampleOverlapRun.1.1.startNextTransfer = false ∧
      successes later.2 = 0 ∧ later.1.main ≠ .ended := by
  have reaches : (machine.recording noteOverlap).Reaches
      (fun _ _ action => action.Steady)
      (new (fun _ _ => 0) fun _ _ => 0, false)
      (exampleOverlapRun.1.1, exampleOverlapRun.1.2) exampleOverlapRun.2 := by
    rw [Prod.mk.eta]
    exact Machine.Reaches.execute exampleOverlap .start
      (Machine.admitted_of_forall steady_exampleOverlap)
  have here : exampleOverlapRun.1.1.main = .sleeping := by decide +kernel
  have rests : exampleOverlapRun.1.1.network.client.Rests := by
    decide +kernel
  have overlapped : exampleOverlapRun.1.2 = true := by decide +kernel
  have first : exampleOverlapRun.1.1.transactionCount < 10 := by
    decide +kernel
  have steady : ∀ action ∈ exampleLater, action.Steady := by
    decide +kernel
  obtain ⟨set_iff, hangs⟩ := lost_wakeup reaches (.inr here) rests
  obtain ⟨-, -, silent, further⟩ := hangs overlapped _ _
    (Machine.Reaches.execute exampleLater .start
      (Machine.admitted_of_forall steady))
  refine ⟨?_, silent, further first⟩
  rw [overlapped] at set_iff
  simpa using set_iff

end DDTest

end DataDumpProtocol

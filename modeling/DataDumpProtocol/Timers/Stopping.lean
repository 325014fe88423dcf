import DataDumpProtocol.Timers.Threads

/-!
# Stopping the polled timer from another thread

A call of `stop` clears the status and then the timeout.  A loop that has the
timer in hand goes on: it may call the callback once more, and in periodic mode
it may start the timer again.
-/

namespace DataDumpProtocol

namespace MsTimer

namespace Threads

section Stopped

variable {threads : Threads} {action : Action}

/-- The loop has no timeout in hand. -/
def Quiet : LoopPoint → Prop
  | .ready | .waiting | .checks | .callback | .sleeps => True
  | _ => False

/-- The timer does not run, and nobody is inside a call. -/
structure Rests (threads : Threads) : Prop where
  stopped : threads.timer.isTimerRunning = false
  outside : threads.application = none
  uncalled : ∀ call, threads.loop ≠ .calls call

theorem Rests.quiet_step
    (rests : threads.Rests)
    (quiet : Quiet threads.loop)
    (alone : action.LeavesAlone) :
    (threads.step action).1.Rests ∧ Quiet (threads.step action).1.loop ∧
      ¬Notified (threads.step action).2 := by
  obtain ⟨timer, clock, loop, application⟩ := threads
  obtain ⟨stopped, rfl, uncalled⟩ := rests
  have stopped : timer.isTimerRunning = false := stopped
  cases action with
  | evaluationLoop request =>
      obtain rfl : request = none := by
        cases request with
        | none => rfl
        | some => exact alone.elim
      cases loop with
      | ready | waiting | callback | sleeps =>
          exact ⟨⟨stopped, rfl, by simp [step, loopStep]⟩, trivial,
            by simp [step, loopStep, Notified]⟩
      | checks =>
          have stepped : Threads.step ⟨timer, clock, .checks, none⟩
              (.evaluationLoop none) = (⟨timer, clock, .ready, none⟩, []) := by
            simp [step, loopStep, stopped]
          rw [stepped]
          exact ⟨⟨stopped, rfl, by simp⟩, trivial, by simp [Notified]⟩
      | times | reads | handles | expires | notifies | calls =>
          exact quiet.elim
  | application | pass | isExpired =>
      exact ⟨⟨stopped, rfl, uncalled⟩, quiet,
        by simp [step, applicationStep, Notified]⟩
  | call | wake => exact alone.elim

/-- A timer that does not run is silent from here on exactly when its loop has
no timeout in hand. -/
theorem silent_iff_quiet (rests : threads.Rests) :
    (∀ threads' trace, threads.Goes threads' trace → ¬Notified trace) ↔
      Quiet threads.loop := by
  constructor
  · intro silent
    by_contra loud
    have calm (fires : threads.Fires) : False := by
      obtain ⟨threads', trace, goes, observed⟩ := fires
      exact silent threads' trace goes ⟨_, observed⟩
    cases here : threads.loop with
    | ready | waiting | checks | callback | sleeps =>
        rw [here] at loud
        exact loud trivial
    | times =>
        obtain ⟨delay, due⟩ := exists_due threads.timer threads.clock
        have passes : threads.Goes (threads.after delay) [] :=
          goes_step (show Action.LeavesAlone (.pass delay) from trivial)
        obtain ⟨threads', trace, goes, observed⟩ :=
          (threads.after delay).fires_of_times here due
        exact silent threads' _ (passes.trans goes) ⟨_, observed⟩
    | reads => exact calm (fires_of_reads here)
    | handles call => exact calm (fires_of_handles here)
    | expires => exact calm (fires_of_expires here)
    | notifies => exact calm (fires_of_notifies here)
    | calls call => exact rests.uncalled call here
  · intro quiet threads' trace goes
    have kept := goes.invariant
      (fun threads trace =>
        threads.Rests ∧ Quiet threads.loop ∧ ¬Notified trace)
      ⟨rests, quiet, by simp [Notified]⟩ ?_
    · exact kept.2.2
    · rintro threads trace action ⟨rests, quiet, silent⟩ alone
      obtain ⟨rests', quiet', silent'⟩ := rests.quiet_step quiet alone
      refine ⟨rests', quiet', ?_⟩
      rintro ⟨now, observed⟩
      rcases List.mem_append.mp observed with before | observed
      · exact silent ⟨now, before⟩
      · exact silent' ⟨now, observed⟩

/-- The application starts the timer, and stops it between the two checks of the
loop. -/
def exampleStop : List Action :=
  [.evaluationLoop none, .call (.start 1000)] ++
    List.replicate 5 .application ++
    [.evaluationLoop none, .call .stop] ++ List.replicate 3 .application

/-- Without its timeout, the stopped timer expires at once. -/
theorem silent_iff_quiet_example :
    ¬∀ threads' trace, (exampleRun .oneShot exampleStop).Goes threads' trace →
      ¬Notified trace := by
  have here : (exampleRun .oneShot exampleStop).loop = .times := by decide
  rw [silent_iff_quiet ⟨by decide, by decide, by simp [here]⟩, here]
  exact id

/-- The loop is about to set a timeout and to start the timer again. -/
def Restarts : LoopPoint → Prop
  | .handles (.startChecks timeoutMs) => 0 < timeoutMs
  | .handles (.startSetsTimeout _) | .handles .startSetsStatus => True
  | _ => False

/-- The number of times that the callback will still be called. -/
def owed : LoopPoint → Nat
  | .times | .reads | .handles _ | .expires | .notifies => 1
  | _ => 0

/-- How often the callback was called. -/
def calls (trace : List Observation) : Nat :=
  trace.countP fun observation =>
    match observation with
    | .notified _ => true
    | _ => false

/-- A timer that does not run, has no timeout, and is not about to be started
again. -/
structure Settled (threads : Threads) : Prop extends threads.Rests where
  zero : threads.timer.timeoutms = 0
  ends : ¬Restarts threads.loop

theorem step_of_settled
    {timer : MsTimer}
    {call : CallPoint}
    (stopped : timer.isTimerRunning = false)
    (zero : timer.timeoutms = 0)
    (ends : ¬Restarts (.handles call))
    (now : Nat) :
    (call.step timer now).1.isTimerRunning = false ∧
      (call.step timer now).1.timeoutms = 0 ∧
      ∀ call', (call.step timer now).2 = .inl call' →
        ¬Restarts (.handles call') := by
  cases call with
  | startChecks given =>
      obtain rfl : given = 0 := Nat.eq_zero_of_not_pos ends
      simp [CallPoint.step, stopped, zero, Restarts]
  | stopChecks => simp [CallPoint.step, stopped, zero]
  | startSetsTimeout | startSetsStatus => exact absurd trivial ends
  | startStartsTimer =>
      exact ⟨stopped, zero, fun call' same => by cases same; exact id⟩
  | startSetsZero =>
      exact ⟨stopped, rfl, fun call' same => by cases same; exact id⟩
  | stopClearsStatus =>
      exact ⟨rfl, zero, fun call' same => by cases same; exact id⟩
  | startNotifies => exact ⟨stopped, zero, fun call' same => by cases same⟩
  | startClearsStatus => exact ⟨rfl, zero, fun call' same => by cases same⟩
  | stopSetsZero => exact ⟨stopped, rfl, fun call' same => by cases same⟩

theorem Settled.loopStep
    (settled : threads.Settled) :
    (threads.loopStep none).1.Settled ∧
      calls (threads.loopStep none).2 + owed (threads.loopStep none).1.loop ≤
        owed threads.loop := by
  obtain ⟨timer, clock, loop, application⟩ := threads
  obtain ⟨⟨stopped, rfl, uncalled⟩, zero, ends⟩ := settled
  have stopped : timer.isTimerRunning = false := stopped
  have zero : timer.timeoutms = 0 := zero
  cases loop with
  | ready | waiting | callback | sleeps =>
      exact ⟨⟨⟨stopped, rfl, by simp [Threads.loopStep]⟩, zero, id⟩, le_rfl⟩
  | checks =>
      simp only [Threads.loopStep, stopped, Bool.false_eq_true, if_false]
      exact ⟨⟨⟨stopped, rfl, by simp⟩, zero, id⟩, le_rfl⟩
  | times =>
      simp only [Threads.loopStep]
      split
      next =>
        split
        next => exact ⟨⟨⟨stopped, rfl, by simp⟩, zero, id⟩, le_rfl⟩
        next => exact ⟨⟨⟨stopped, rfl, by simp⟩, zero, id⟩, le_rfl⟩
      next => exact ⟨⟨⟨stopped, rfl, by simp⟩, zero, id⟩, Nat.zero_le _⟩
  | reads =>
      refine ⟨⟨⟨stopped, rfl, by simp [Threads.loopStep]⟩, zero, ?_⟩, le_rfl⟩
      have zero : timer.timeoutms = 0 := zero
      simp [Threads.loopStep, Restarts, zero]
  | handles call =>
      obtain ⟨stopped', zero', ends'⟩ :=
        step_of_settled stopped zero ends clock
      simp only [Threads.loopStep]
      rcases accessed : call.step timer clock with ⟨timer', call' | ret⟩
      · rw [accessed] at stopped' zero' ends'
        exact ⟨⟨⟨stopped', rfl, by simp⟩, zero', ends' call' rfl⟩, le_rfl⟩
      · rw [accessed] at stopped' zero'
        exact ⟨⟨⟨stopped', rfl, by simp⟩, zero', id⟩, le_rfl⟩
  | expires =>
      exact ⟨⟨⟨stopped, rfl, by simp [Threads.loopStep]⟩, zero, id⟩, le_rfl⟩
  | notifies =>
      exact ⟨⟨⟨stopped, rfl, by simp [Threads.loopStep]⟩, zero, id⟩, le_rfl⟩
  | calls call => exact absurd rfl (uncalled call)

theorem Settled.step
    (settled : threads.Settled)
    (alone : action.LeavesAlone) :
    (threads.step action).1.Settled ∧
      calls (threads.step action).2 + owed (threads.step action).1.loop ≤
        owed threads.loop := by
  cases action with
  | evaluationLoop request =>
      obtain rfl : request = none := by
        cases request with
        | none => rfl
        | some => exact alone.elim
      exact settled.loopStep
  | application =>
      simp only [Threads.step, applicationStep, settled.outside]
      exact ⟨settled, (Nat.zero_add _).le⟩
  | isExpired =>
      simp only [Threads.step, settled.outside, if_true]
      exact ⟨⟨⟨settled.stopped, rfl, settled.uncalled⟩, settled.zero,
        settled.ends⟩, (Nat.zero_add _).le⟩
  | pass nanoseconds =>
      exact ⟨⟨⟨settled.stopped, settled.outside, settled.uncalled⟩,
        settled.zero, settled.ends⟩, (Nat.zero_add _).le⟩
  | call | wake => exact alone.elim

/-- A loop that is about to start the timer again does so. -/
theorem runs_of_restarts
    (stopped : threads.timer.isTimerRunning = false)
    (restarts : Restarts threads.loop) :
    ∃ threads' trace, threads.Goes threads' trace ∧
      threads'.timer.isTimerRunning = true := by
  have alone (count : Nat) : ∀ action ∈
      List.replicate count (Action.evaluationLoop none),
      action.LeavesAlone := by
    intro action present
    rw [List.eq_of_mem_replicate present]
    trivial
  obtain ⟨timer, clock, loop, application⟩ := threads
  have stopped : timer.isTimerRunning = false := stopped
  cases loop with
  | handles call =>
      cases call with
      | startChecks given =>
          have accepted : timer.isTimerRunning = false ∧ 0 < given :=
            ⟨stopped, restarts⟩
          refine ⟨_, _, goes_execute (alone 3), ?_⟩
          simp only [machine, Machine.execute, List.replicate, Threads.step,
            Threads.loopStep, CallPoint.step, if_pos accepted]
          rfl
      | startSetsTimeout => exact ⟨_, _, goes_execute (alone 2), rfl⟩
      | startSetsStatus => exact ⟨_, _, goes_execute (alone 1), rfl⟩
      | _ => exact restarts.elim
  | _ => exact restarts.elim

/-- A timer that was stopped stays stopped, with one more call of the callback
at most, exactly when its loop is not about to start it again. -/
theorem stays_stopped_iff
    (rests : threads.Rests)
    (zero : threads.timer.timeoutms = 0) :
    (∀ threads' trace, threads.Goes threads' trace →
        threads'.timer.isTimerRunning = false ∧ calls trace ≤ 1) ↔
      ¬Restarts threads.loop := by
  constructor
  · intro stays restarts
    obtain ⟨threads', trace, goes, running⟩ :=
      runs_of_restarts rests.stopped restarts
    simp [(stays threads' trace goes).1] at running
  · intro ends threads' trace goes
    have kept := goes.invariant
      (fun threads' trace =>
        threads'.Settled ∧
          calls trace + owed threads'.loop ≤ owed threads.loop)
      ⟨⟨rests, zero, ends⟩, (Nat.zero_add _).le⟩ ?_
    · have once : owed threads.loop ≤ 1 := by
        cases threads.loop <;> simp [owed]
      exact ⟨kept.1.stopped, by omega⟩
    · rintro threads' trace action ⟨settled, counted⟩ alone
      obtain ⟨settled', counted'⟩ := settled.step alone
      refine ⟨settled', ?_⟩
      rw [calls, List.countP_append]
      unfold calls at counted counted'
      simp only [machine] at counted' ⊢
      omega

/-- The application stops a periodic timer when its loop has read the timeout to
start it again. -/
def exampleRestart : List Action :=
  [.evaluationLoop none, .call (.start 1)] ++
    List.replicate 5 .application ++
    [.pass 1000000] ++ List.replicate 3 (.evaluationLoop none) ++
    [.call .stop] ++ List.replicate 3 .application

/-- The stop is undone. -/
theorem stays_stopped_iff_example :
    ¬∀ threads' trace,
      (exampleRun .periodic exampleRestart).Goes threads' trace →
        threads'.timer.isTimerRunning = false ∧ calls trace ≤ 1 := by
  have here : (exampleRun .periodic exampleRestart).loop =
      .handles (.startChecks 1) := by decide
  rw [stays_stopped_iff ⟨by decide, by decide, by simp [here]⟩ (by decide),
    here]
  exact fun ends => ends Nat.one_pos

end Stopped

end Threads

end MsTimer

end DataDumpProtocol

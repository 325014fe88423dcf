import DataDumpProtocol.Timers.MsTimer

/-!
# The threads of the polled timer

`evaluationLoop` runs in a thread of its own, and the application calls `start`
and `stop` from another one.  Each member is read and written under a lock, but
no lock is held from one access to the next, and `start` notifies the condition
variable without the mutex that the loop waits with.  So a call may meet the
loop anywhere, and only where the loop waits is it safe.
-/

namespace DataDumpProtocol

namespace MsTimer

/-! ## Members under their lock -/

/-- `setTimeoutms`. -/
def setTimeoutms (timer : MsTimer) (timeoutms : Nat) : MsTimer :=
  { timer with timeoutms := timeoutms }

/-- `setTimerStatus`. -/
def setTimerStatus (timer : MsTimer) (timerStatus : Bool) : MsTimer :=
  { timer with timerStatus := timerStatus }

/-- `startTimer`. -/
def startTimer (timer : MsTimer) (now : Nat) : MsTimer :=
  { timer with timerHandle := timer.timerHandle.start now }

/-- `setExpiredIND`. -/
def setExpiredIND (timer : MsTimer) (ind : Bool) : MsTimer :=
  { timer with expired := ind }

/-- `getExpiredIND`, which resets the indicator. -/
def getExpiredIND (timer : MsTimer) : Bool × MsTimer :=
  (timer.expired, { timer with expired := false })

/-! ## Calls -/

/-- A call of the timer. -/
inductive Request
  | start (timeoutMs : Nat)
  | stop
  deriving DecidableEq

/-- Where a thread stands inside `start` or `stop`, named by the access that it
makes next. -/
inductive CallPoint
  | startChecks (timeoutMs : Nat)
  | startSetsTimeout (timeoutMs : Nat)
  | startSetsStatus
  | startStartsTimer
  | startNotifies
  /-- The branch of `start` for a timeout of zero. -/
  | startSetsZero
  | startClearsStatus
  | stopChecks
  | stopClearsStatus
  | stopSetsZero
  deriving DecidableEq

/-- The first access of a call. -/
def Request.entry : Request → CallPoint
  | .start timeoutMs => .startChecks timeoutMs
  | .stop => .stopChecks

/-- A call without interruption. -/
def Request.perform (timer : MsTimer) (now : Nat) : Request → Bool × MsTimer
  | .start timeoutMs => timer.start now timeoutMs
  | .stop => timer.stop

/-- One access of a call: the timer afterwards, and where the call stands, or
what it returned. -/
def CallPoint.step (timer : MsTimer) (now : Nat) :
    CallPoint → MsTimer × (CallPoint ⊕ Bool)
  | .startChecks timeoutMs =>
      if timer.isTimerRunning = false ∧ 0 < timeoutMs then
        (timer, .inl (.startSetsTimeout timeoutMs))
      else if timeoutMs = 0 then
        (timer, .inl .startSetsZero)
      else
        (timer, .inr false)
  | .startSetsTimeout timeoutMs =>
      (timer.setTimeoutms timeoutMs, .inl .startSetsStatus)
  | .startSetsStatus => (timer.setTimerStatus true, .inl .startStartsTimer)
  | .startStartsTimer => (timer.startTimer now, .inl .startNotifies)
  | .startNotifies => (timer, .inr true)
  | .startSetsZero => (timer.setTimeoutms 0, .inl .startClearsStatus)
  | .startClearsStatus => (timer.setTimerStatus false, .inr true)
  | .stopChecks =>
      if timer.isTimerRunning then
        (timer, .inl .stopClearsStatus)
      else
        (timer, .inr false)
  | .stopClearsStatus => (timer.setTimerStatus false, .inl .stopSetsZero)
  | .stopSetsZero => (timer.setTimeoutms 0, .inr true)

/-- The number of accesses that a call has in front of it at most. -/
def CallPoint.accesses : CallPoint → Nat
  | .startChecks _ => 5
  | .startSetsTimeout _ => 4
  | .startSetsStatus | .stopChecks => 3
  | .startStartsTimer | .startSetsZero | .stopClearsStatus => 2
  | .startNotifies | .startClearsStatus | .stopSetsZero => 1

theorem CallPoint.accesses_step
    {timer timer' : MsTimer}
    {now : Nat}
    {call call' : CallPoint}
    (accessed : call.step timer now = (timer', .inl call')) :
    call'.accesses < call.accesses := by
  cases call with
  | startChecks =>
      simp only [CallPoint.step] at accessed
      split at accessed
      next =>
        cases accessed
        simp [accesses]
      next =>
        split at accessed
        next =>
          cases accessed
          simp [accesses]
        next => cases accessed
  | stopChecks =>
      simp only [CallPoint.step] at accessed
      split at accessed
      next =>
        cases accessed
        simp [accesses]
      next => cases accessed
  | startSetsTimeout | startSetsStatus | startStartsTimer | startSetsZero
  | stopClearsStatus =>
      cases accessed
      simp [accesses]
  | startNotifies | startClearsStatus | stopSetsZero => cases accessed

/-! ## Threads -/

/-- Where the thread of `evaluationLoop` stands. -/
inductive LoopPoint
  /-- In front of `trigger_condVar.wait`. -/
  | ready
  /-- In `trigger_condVar.wait`. -/
  | waiting
  /-- In front of `isTimerRunning`. -/
  | checks
  /-- In front of `checkTimeOut`. -/
  | times
  /-- In front of `getTimeoutms`, in periodic mode. -/
  | reads
  /-- Inside the call of `start` or `stop` behind a timeout. -/
  | handles (call : CallPoint)
  /-- In front of `setExpiredIND`. -/
  | expires
  /-- In front of `notify`. -/
  | notifies
  /-- In the callback. -/
  | callback
  /-- Inside a call that the callback makes. -/
  | calls (call : CallPoint)
  /-- In `usleep`. -/
  | sleeps
  deriving DecidableEq

/-- A timer with the two threads that use it. -/
structure Threads where
  timer : MsTimer
  /-- The nanosecond that it is. -/
  clock : Nat := 0
  loop : LoopPoint := .ready
  /-- Where the application's thread stands, if it is inside a call. -/
  application : Option CallPoint := none

namespace Threads

/-- What can happen to the threads. -/
inductive Action
  /-- A step of `evaluationLoop`, with what its callback calls if it runs. -/
  | evaluationLoop (request : Option Request)
  /-- A step of the application inside its call. -/
  | application
  /-- The application calls `start` or `stop`. -/
  | call (request : Request)
  /-- The application calls `isExpired`. -/
  | isExpired
  /-- Time passes. -/
  | pass (nanoseconds : Nat)
  /-- The wait ends although it was not notified. -/
  | wake
  deriving DecidableEq

/-- What is observed of the threads. -/
inductive Observation
  /-- The callback was called. -/
  | notified (now : Nat)
  /-- A call of the application returned. -/
  | returned (ret : Bool)
  /-- What `isExpired` returned. -/
  | indicated (expired : Bool)
  deriving DecidableEq

/-- One step of `evaluationLoop`. -/
def loopStep (threads : Threads) (request : Option Request) :
    Threads × List Observation :=
  match threads.loop with
  | .ready => ({ threads with loop := .waiting }, [])
  | .waiting => (threads, [])
  | .checks =>
      if threads.timer.isTimerRunning then
        ({ threads with loop := .times }, [])
      else
        ({ threads with loop := .ready }, [])
  | .times =>
      if threads.timer.checkTimeOut threads.clock then
        match threads.timer.mode with
        | .periodic => ({ threads with loop := .reads }, [])
        | .oneShot => ({ threads with loop := .handles .stopChecks }, [])
      else
        ({ threads with loop := .sleeps }, [])
  | .reads =>
      ({ threads with loop := .handles (.startChecks threads.timer.timeoutms) },
        [])
  | .handles call =>
      match call.step threads.timer threads.clock with
      | (timer, .inl call) =>
          ({ threads with timer := timer, loop := .handles call }, [])
      | (timer, .inr _) =>
          ({ threads with timer := timer, loop := .expires }, [])
  | .expires =>
      ({ threads with
          timer := threads.timer.setExpiredIND true
          loop := .notifies }, [])
  | .notifies => ({ threads with loop := .callback }, [.notified threads.clock])
  | .callback =>
      match request with
      | none => ({ threads with loop := .sleeps }, [])
      | some request => ({ threads with loop := .calls request.entry }, [])
  | .calls call =>
      match call.step threads.timer threads.clock with
      | (timer, .inl call) =>
          ({ threads with timer := timer, loop := .calls call }, [])
      | (timer, .inr _) =>
          ({ threads with timer := timer, loop := .callback }, [])
  | .sleeps => ({ threads with loop := .checks }, [])

/-- The loop after `notify_one`, which ends a wait and is lost elsewhere. -/
def woken (loop : LoopPoint) : LoopPoint :=
  if loop = .waiting then .checks else loop

/-- One step of the application inside its call. -/
def applicationStep (threads : Threads) : Threads × List Observation :=
  match threads.application with
  | none => (threads, [])
  | some call =>
      let loop :=
        if call = .startNotifies then woken threads.loop else threads.loop
      match call.step threads.timer threads.clock with
      | (timer, .inl call) =>
          ({ threads with
              timer := timer, loop := loop, application := some call }, [])
      | (timer, .inr ret) =>
          ({ threads with
              timer := timer, loop := loop, application := none },
            [.returned ret])

/-- The application at the first access of a call. -/
def calling (threads : Threads) (request : Request) : Threads :=
  { threads with application := some request.entry }

/-- One action.  The application makes no call inside another. -/
def step (threads : Threads) : Action → Threads × List Observation
  | .evaluationLoop request => threads.loopStep request
  | .application => threads.applicationStep
  | .call request =>
      if threads.application = none then (threads.calling request, [])
      else (threads, [])
  | .isExpired =>
      if threads.application = none then
        let (expired, timer) := threads.timer.getExpiredIND
        ({ threads with timer := timer }, [.indicated expired])
      else
        (threads, [])
  | .pass nanoseconds =>
      ({ threads with clock := threads.clock + nanoseconds }, [])
  | .wake => ({ threads with loop := woken threads.loop }, [])

/-- The timer with its threads, in any order of their steps. -/
def machine : Machine Threads Action Observation := ⟨step⟩

/-! ## One thread at a time -/

section Alone

variable (threads : Threads)

/-- A call during which the loop stands still does what it does at once. -/
theorem application_alone
    (outside : threads.application = none)
    (request : Request) :
    let performed := request.perform threads.timer threads.clock
    ∃ count,
      let run := machine.execute threads []
        (.call request :: List.replicate count .application)
      run.1.timer = performed.2 ∧ run.1.application = none ∧
        run.2 = [.returned performed.1] := by
  obtain ⟨timer, clock, loop, application⟩ := threads
  obtain rfl : application = none := outside
  cases request with
  | start timeoutMs =>
      by_cases accepted : timer.isTimerRunning = false ∧ 0 < timeoutMs
      · refine ⟨5, ?_⟩
        simp [machine, Machine.execute, step, applicationStep, calling,
          Request.entry, CallPoint.step, Request.perform, MsTimer.start,
          accepted, List.replicate, setTimeoutms, setTimerStatus, startTimer]
      · by_cases zero : timeoutMs = 0
        · refine ⟨3, ?_⟩
          subst zero
          simp [machine, Machine.execute, step, applicationStep, calling,
            Request.entry, CallPoint.step, Request.perform, MsTimer.start,
            List.replicate, setTimeoutms, setTimerStatus]
        · refine ⟨1, ?_⟩
          simp [machine, Machine.execute, step, applicationStep, calling,
            Request.entry, CallPoint.step, Request.perform, MsTimer.start,
            accepted, zero, List.replicate]
  | stop =>
      by_cases running : timer.isTimerRunning
      · refine ⟨3, ?_⟩
        simp [machine, Machine.execute, step, applicationStep, calling,
          Request.entry, CallPoint.step, Request.perform, MsTimer.stop,
          running, List.replicate, setTimeoutms, setTimerStatus]
      · refine ⟨1, ?_⟩
        simp [machine, Machine.execute, step, applicationStep, calling,
          Request.entry, CallPoint.step, Request.perform, MsTimer.stop,
          running, List.replicate]

/-- A pass of the loop during which the application stands still is a poll. -/
theorem loop_alone
    (checks : threads.loop = .checks) :
    let polled := threads.timer.poll threads.clock
    ∃ count,
      let run := machine.execute threads []
        (List.replicate count (.evaluationLoop none))
      run.1.timer = polled.1 ∧
        (run.1.loop = .ready ∨ run.1.loop = .sleeps) ∧
        run.2 = polled.2.map .notified := by
  obtain ⟨timer, clock, loop, application⟩ := threads
  obtain rfl : loop = .checks := checks
  by_cases running : timer.isTimerRunning
  · by_cases due : timer.checkTimeOut clock
    · cases mode : timer.mode with
      | oneShot =>
          refine ⟨8, ?_⟩
          simp [machine, Machine.execute, step, loopStep, CallPoint.step, poll,
            MsTimer.stop, running, due, mode, List.replicate, setTimeoutms,
            setTimerStatus, setExpiredIND]
      | periodic =>
          by_cases zero : timer.timeoutms = 0
          · refine ⟨9, ?_⟩
            simp [machine, Machine.execute, step, loopStep, CallPoint.step,
              poll, MsTimer.start, running, due, mode, zero, List.replicate,
              setTimeoutms, setTimerStatus, setExpiredIND]
          · refine ⟨7, ?_⟩
            simp [machine, Machine.execute, step, loopStep, CallPoint.step,
              poll, MsTimer.start, running, due, mode, zero, List.replicate,
              setExpiredIND]
    · refine ⟨2, ?_⟩
      simp [machine, Machine.execute, step, loopStep, poll, running, due,
        List.replicate]
  · refine ⟨1, ?_⟩
    simp [machine, Machine.execute, step, loopStep, poll, running,
      List.replicate]

end Alone

/-! ## A timer that is left alone -/

/-- Neither the application nor the callback begins a call, and no wait ends
that was not notified. -/
def Action.LeavesAlone : Action → Prop
  | .evaluationLoop none | .application | .isExpired | .pass _ => True
  | _ => False

instance : (action : Action) → Decidable action.LeavesAlone
  | .evaluationLoop none | .application | .isExpired | .pass _ =>
      inferInstanceAs (Decidable True)
  | .evaluationLoop (some _) | .call _ | .wake =>
      inferInstanceAs (Decidable False)

/-- Where the threads may come to, and what is observed on the way. -/
def Goes (threads threads' : Threads) (trace : List Observation) : Prop :=
  machine.Reaches (fun _ _ action => action.LeavesAlone) threads threads' trace

/-- The threads when nothing but time went by. -/
def after (threads : Threads) (delay : Nat) : Threads :=
  { threads with clock := threads.clock + delay }

/-- The callback was called. -/
def Notified (trace : List Observation) : Prop :=
  ∃ now, .notified now ∈ trace

section Goes

variable {threads : Threads}

theorem Goes.trans
    {threads' threads'' : Threads}
    {trace trace' : List Observation}
    (goes : threads.Goes threads' trace)
    (further : threads'.Goes threads'' trace') :
    threads.Goes threads'' (trace ++ trace') :=
  Machine.Reaches.trans goes further

theorem goes_step {action : Action} (alone : action.LeavesAlone) :
    threads.Goes (threads.step action).1 (threads.step action).2 :=
  Machine.Reaches.start.step alone

theorem goes_execute
    {actions : List Action}
    (alone : ∀ action ∈ actions, action.LeavesAlone) :
    threads.Goes (machine.execute threads [] actions).1
      (machine.execute threads [] actions).2 :=
  Machine.Reaches.execute actions .start (Machine.admitted_of_forall alone)

/-- The callback may be called at once. -/
def Fires (threads : Threads) : Prop :=
  ∃ threads' trace, threads.Goes threads' trace ∧
    .notified threads.clock ∈ trace

/-- What fires behind a step of the loop fires in front of it. -/
theorem Fires.of_loopStep
    {next : Threads}
    (stepped : threads.loopStep none = (next, []))
    (instant : next.clock = threads.clock)
    (fires : next.Fires) :
    threads.Fires := by
  obtain ⟨threads', trace, goes, observed⟩ := fires
  have alone : Action.LeavesAlone (.evaluationLoop none) := trivial
  have reached : threads.Goes next [] := by
    simpa [step, stepped] using threads.goes_step alone
  rw [instant] at observed
  exact ⟨threads', trace, reached.trans goes, observed⟩

/-- Behind a timeout the callback is called soon. -/
theorem fires_of_notifies (here : threads.loop = .notifies) :
    threads.Fires := by
  have alone : Action.LeavesAlone (.evaluationLoop none) := trivial
  refine ⟨_, _, threads.goes_step alone, ?_⟩
  simp [step, loopStep, here]

theorem fires_of_expires (here : threads.loop = .expires) :
    threads.Fires := by
  have stepped : threads.loopStep none =
      ({ threads with
          timer := threads.timer.setExpiredIND true
          loop := .notifies }, []) := by
    simp only [loopStep, here]
  exact Fires.of_loopStep stepped rfl (fires_of_notifies rfl)

theorem fires_of_handles
    {call : CallPoint}
    (here : threads.loop = .handles call) :
    threads.Fires := by
  induction remaining : call.accesses using Nat.strong_induction_on
    generalizing threads call with
  | _ remaining inductionHypothesis =>
      subst remaining
      rcases accessed : call.step threads.timer threads.clock with
        ⟨timer, call' | ret⟩
      · have stepped : threads.loopStep none =
            ({ threads with timer := timer, loop := .handles call' }, []) := by
          simp only [loopStep, here, accessed]
        have less := CallPoint.accesses_step accessed
        exact Fires.of_loopStep stepped rfl (inductionHypothesis _ less rfl rfl)
      · have stepped : threads.loopStep none =
            ({ threads with timer := timer, loop := .expires }, []) := by
          simp only [loopStep, here, accessed]
        exact Fires.of_loopStep stepped rfl (fires_of_expires rfl)

theorem fires_of_reads (here : threads.loop = .reads) :
    threads.Fires := by
  have stepped : threads.loopStep none =
      ({ threads with
          loop := .handles (.startChecks threads.timer.timeoutms) }, []) := by
    simp only [loopStep, here]
  exact Fires.of_loopStep stepped rfl (fires_of_handles rfl)

theorem fires_of_times
    (here : threads.loop = .times)
    (due : threads.timer.checkTimeOut threads.clock = true) :
    threads.Fires := by
  cases mode : threads.timer.mode with
  | oneShot =>
      have stepped : threads.loopStep none =
          ({ threads with loop := .handles .stopChecks }, []) := by
        simp only [loopStep, here, due, mode, if_true]
      exact Fires.of_loopStep stepped rfl (fires_of_handles rfl)
  | periodic =>
      have stepped : threads.loopStep none =
          ({ threads with loop := .reads }, []) := by
        simp only [loopStep, here, due, mode, if_true]
      exact Fires.of_loopStep stepped rfl (fires_of_reads rfl)

/-- The loop finds the timer running and its timeout gone by. -/
theorem fires_of_checks
    (here : threads.loop = .checks)
    (running : threads.timer.isTimerRunning = true)
    (due : threads.timer.checkTimeOut threads.clock = true) :
    threads.Fires := by
  have stepped : threads.loopStep none =
      ({ threads with loop := .times }, []) := by
    simp only [loopStep, here, running, if_true]
  exact Fires.of_loopStep stepped rfl (fires_of_times rfl due)

theorem fires_of_sleeps
    (here : threads.loop = .sleeps)
    (running : threads.timer.isTimerRunning = true)
    (due : threads.timer.checkTimeOut threads.clock = true) :
    threads.Fires := by
  have stepped : threads.loopStep none =
      ({ threads with loop := .checks }, []) := by
    simp only [loopStep, here]
  exact Fires.of_loopStep stepped rfl (fires_of_checks rfl running due)

theorem fires_of_callback
    (here : threads.loop = .callback)
    (running : threads.timer.isTimerRunning = true)
    (due : threads.timer.checkTimeOut threads.clock = true) :
    threads.Fires := by
  have stepped : threads.loopStep none =
      ({ threads with loop := .sleeps }, []) := by
    simp only [loopStep, here]
  exact Fires.of_loopStep stepped rfl (fires_of_sleeps rfl running due)

/-- Every timeout goes by. -/
theorem exists_due (timer : MsTimer) (clock : Nat) :
    ∃ delay, timer.checkTimeOut (clock + delay) = true := by
  refine ⟨timer.timerHandle.startTime + timer.timeoutms * 1000000, ?_⟩
  rw [checkTimeOut, decide_eq_true_iff, Stopwatch.elapsed, Stopwatch.ticks_eq]
  omega

/-- A timer that runs and whose timeout has gone by fires, unless its loop
stands at its wait or inside a call of the callback. -/
theorem fires_of_due
    (front : threads.loop ≠ .ready)
    (waits : threads.loop ≠ .waiting)
    (uncalled : ∀ call, threads.loop ≠ .calls call)
    (running : threads.timer.isTimerRunning = true)
    (due : threads.timer.checkTimeOut threads.clock = true) :
    threads.Fires := by
  cases here : threads.loop with
  | ready => exact absurd here front
  | waiting => exact absurd here waits
  | checks => exact fires_of_checks here running due
  | times => exact fires_of_times here due
  | reads => exact fires_of_reads here
  | handles call => exact fires_of_handles here
  | expires => exact fires_of_expires here
  | notifies => exact fires_of_notifies here
  | callback => exact fires_of_callback here running due
  | calls call => exact absurd here (uncalled call)
  | sleeps => exact fires_of_sleeps here running due

end Goes

/-! ## Example runs -/

/-- A timer right behind `create`. -/
def created (mode : TimerMode) : Threads where
  timer := { mode := mode, timerHandle := ⟨0⟩ }

/-- What the actions make of it. -/
def exampleRun (mode : TimerMode) (actions : List Action) : Threads :=
  (machine.execute (created mode) [] actions).1

end Threads

end MsTimer

end DataDumpProtocol

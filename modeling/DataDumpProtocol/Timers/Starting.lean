import DataDumpProtocol.Timers.Threads

/-!
# Starting the polled timer from another thread

A call of `start` sets the timeout, the status and the stopwatch one after the
other and then notifies the loop.  A loop that waits sees all of it.  A loop on
its way to the wait misses the notification, and a loop anywhere else may see
the new timeout beside the old stopwatch.
-/

namespace DataDumpProtocol

namespace MsTimer

namespace Threads

/-- A call of `start` that is left alone is heeded: the callback is not called
before the timeout has gone by, and the loop does not wait again before it was
called. -/
def Reliable (threads : Threads) : Prop :=
  ∀ delay timeoutMs, 0 < timeoutMs → ∀ threads' trace,
    ((threads.after delay).calling (.start timeoutMs)).Goes threads' trace →
      (∀ now, .notified now ∈ trace →
          timeoutMs ≤ Stopwatch.ticks (threads.clock + delay) now) ∧
        (threads'.application = none → threads'.loop = .waiting →
          Notified trace)

/-! ## From the wait -/

section Waiting

variable {calledAt timeoutMs : Nat} {threads : Threads}
variable {trace : List Observation} {notified : Prop}

/-- The timer runs with this timeout, and was not started before the call. -/
structure Armed (calledAt timeoutMs : Nat) (timer : MsTimer) : Prop where
  running : timer.isTimerRunning = true
  given : timer.timeoutms = timeoutMs
  later : calledAt ≤ timer.timerHandle.startTime

/-- The timeout has gone by since the call. -/
def Reached (calledAt timeoutMs clock : Nat) : Prop :=
  timeoutMs ≤ Stopwatch.ticks calledAt clock

/-- The timer expires after the timeout has gone by. -/
theorem Armed.reached
    {timer : MsTimer}
    {clock : Nat}
    (armed : Armed calledAt timeoutMs timer)
    (due : timer.checkTimeOut clock = true) :
    Reached calledAt timeoutMs clock := by
  have elapsed := of_decide_eq_true due
  have later := armed.later
  rw [armed.given, Stopwatch.elapsed, Stopwatch.ticks_eq] at elapsed
  rw [Reached, Stopwatch.ticks_eq]
  exact elapsed.trans (Nat.div_le_div_right (by omega))

theorem Armed.indicates
    {timer : MsTimer}
    (armed : Armed calledAt timeoutMs timer)
    (ind : Bool) :
    Armed calledAt timeoutMs (timer.setExpiredIND ind) :=
  ⟨armed.running, armed.given, armed.later⟩

/-- What holds at each access of `start` while the loop waits. -/
def CallPhase (calledAt timeoutMs : Nat) (timer : MsTimer) : CallPoint → Prop
  | .startChecks given => given = timeoutMs ∧ timer.isTimerRunning = false
  | .startSetsTimeout given => given = timeoutMs
  | .startSetsStatus => timer.timeoutms = timeoutMs
  | .startStartsTimer =>
      timer.timeoutms = timeoutMs ∧ timer.isTimerRunning = true
  | .startNotifies => Armed calledAt timeoutMs timer
  | _ => False

/-- What holds at each access that the loop makes behind a timeout. -/
def HandlePhase (calledAt timeoutMs : Nat) (timer : MsTimer) :
    CallPoint → Prop
  | .startChecks given => 0 < given ∧ Armed calledAt timeoutMs timer
  | .stopChecks => Armed calledAt timeoutMs timer
  | .stopClearsStatus => True
  | .stopSetsZero => timer.isTimerRunning = false
  | _ => False

/-- What holds at each point of the loop once `start` has returned. -/
def LoopPhase
    (calledAt timeoutMs : Nat)
    (notified : Prop)
    (timer : MsTimer)
    (clock : Nat) : LoopPoint → Prop
  | .ready | .waiting => notified
  | .checks | .sleeps | .callback =>
      Armed calledAt timeoutMs timer ∨
        timer.isTimerRunning = false ∧ notified
  | .times => Armed calledAt timeoutMs timer
  | .reads =>
      Armed calledAt timeoutMs timer ∧ Reached calledAt timeoutMs clock
  | .handles call =>
      HandlePhase calledAt timeoutMs timer call ∧
        Reached calledAt timeoutMs clock
  | .expires | .notifies =>
      (Armed calledAt timeoutMs timer ∨ timer.isTimerRunning = false) ∧
        Reached calledAt timeoutMs clock
  | .calls _ => False

/-- What holds from a call of `start` on that found the loop waiting. -/
def Phase
    (calledAt timeoutMs : Nat)
    (notified : Prop)
    (threads : Threads) : Prop :=
  match threads.application with
  | some call =>
      threads.loop = .waiting ∧
        CallPhase calledAt timeoutMs threads.timer call
  | none =>
      LoopPhase calledAt timeoutMs notified threads.timer threads.clock
        threads.loop

theorem Phase.applicationStep
    (positive : 0 < timeoutMs)
    (later : calledAt ≤ threads.clock)
    (phase : threads.Phase calledAt timeoutMs notified) :
    threads.applicationStep.1.Phase calledAt timeoutMs notified := by
  obtain ⟨timer, clock, loop, application⟩ := threads
  cases application with
  | none => exact phase
  | some call =>
      obtain ⟨rfl, phase⟩ := phase
      cases call with
      | startChecks given =>
          obtain ⟨rfl, stopped⟩ := phase
          simp [Threads.applicationStep, CallPoint.step, Phase, CallPhase,
            stopped, positive]
      | startSetsTimeout => exact ⟨rfl, phase⟩
      | startSetsStatus => exact ⟨rfl, phase, rfl⟩
      | startStartsTimer => exact ⟨rfl, ⟨phase.2, phase.1, later⟩⟩
      | startNotifies => exact .inl phase
      | startSetsZero | startClearsStatus | stopChecks | stopClearsStatus
      | stopSetsZero => exact phase.elim

theorem Phase.loopStep
    (positive : 0 < timeoutMs)
    (phase : threads.Phase calledAt timeoutMs notified) :
    (threads.loopStep none).1.Phase calledAt timeoutMs
      (notified ∨ threads.loop = .notifies) := by
  obtain ⟨timer, clock, loop, application⟩ := threads
  cases application with
  | some call =>
      obtain ⟨rfl, phase⟩ := phase
      exact ⟨rfl, phase⟩
  | none =>
      cases loop with
      | ready | waiting => exact .inl phase
      | checks =>
          rcases phase with armed | ⟨stopped, before⟩
          · simp only [Threads.loopStep, armed.running, if_true]
            exact armed
          · simp only [Threads.loopStep, stopped, Bool.false_eq_true, if_false]
            exact .inl before
      | times =>
          have armed : Armed calledAt timeoutMs timer := phase
          by_cases due : timer.checkTimeOut clock = true
          · have reached := armed.reached due
            cases mode : timer.mode with
            | oneShot =>
                simp only [Threads.loopStep, due, mode, if_true]
                exact ⟨armed, reached⟩
            | periodic =>
                simp only [Threads.loopStep, due, mode, if_true]
                exact ⟨armed, reached⟩
          · simp only [Threads.loopStep, due, Bool.false_eq_true, if_false]
            exact .inl armed
      | reads =>
          obtain ⟨armed, reached⟩ := phase
          exact ⟨⟨armed.given ▸ positive, armed⟩, reached⟩
      | handles call =>
          obtain ⟨handles, reached⟩ := phase
          cases call with
          | startChecks given =>
              obtain ⟨positive, armed⟩ := handles
              have refused : ¬(timer.isTimerRunning = false ∧ 0 < given) := by
                simp [armed.running]
              simp only [Threads.loopStep, CallPoint.step, if_neg refused,
                if_neg (Nat.ne_of_gt positive)]
              exact ⟨.inl armed, reached⟩
          | stopChecks =>
              have armed : Armed calledAt timeoutMs timer := handles
              simp only [Threads.loopStep, CallPoint.step, armed.running,
                if_true]
              exact ⟨trivial, reached⟩
          | stopClearsStatus => exact ⟨rfl, reached⟩
          | stopSetsZero => exact ⟨.inr handles, reached⟩
          | startSetsTimeout | startSetsStatus | startStartsTimer
          | startNotifies | startSetsZero | startClearsStatus =>
              exact handles.elim
      | expires =>
          exact phase.imp_left (.imp_left fun armed => armed.indicates true)
      | notifies => exact phase.1.imp_right fun stopped => ⟨stopped, .inr rfl⟩
      | callback | sleeps => exact phase.imp_right (.imp_right .inl)
      | calls call => exact phase.elim

theorem LoopPhase.indicates
    {timer : MsTimer}
    {clock : Nat}
    {loop : LoopPoint}
    (phase : LoopPhase calledAt timeoutMs notified timer clock loop)
    (ind : Bool) :
    LoopPhase calledAt timeoutMs notified (timer.setExpiredIND ind) clock
      loop := by
  have armed (before : Armed calledAt timeoutMs timer) :=
    before.indicates ind
  cases loop with
  | ready | waiting | calls => exact phase
  | checks | sleeps | callback => exact phase.imp_left armed
  | times => exact armed phase
  | reads => exact phase.imp_left armed
  | handles call =>
      refine phase.imp_left fun handles => ?_
      cases call with
      | startChecks => exact handles.imp_right armed
      | stopChecks => exact armed handles
      | _ => exact handles
  | expires | notifies => exact phase.imp_left (.imp_left armed)

theorem LoopPhase.mono
    {timer : MsTimer}
    {clock clock' : Nat}
    {loop : LoopPoint}
    {notified' : Prop}
    (phase : LoopPhase calledAt timeoutMs notified timer clock loop)
    (passed : clock ≤ clock')
    (further : notified → notified') :
    LoopPhase calledAt timeoutMs notified' timer clock' loop := by
  have reached (before : Reached calledAt timeoutMs clock) :
      Reached calledAt timeoutMs clock' :=
    before.trans (Stopwatch.ticks_mono _ passed)
  cases loop with
  | ready | waiting => exact further phase
  | checks | sleeps | callback => exact phase.imp_right (.imp_right further)
  | times | calls => exact phase
  | reads | handles | expires | notifies => exact phase.imp_right reached

theorem Phase.mono
    {notified' : Prop}
    (phase : threads.Phase calledAt timeoutMs notified)
    (delay : Nat)
    (further : notified → notified') :
    (threads.after delay).Phase calledAt timeoutMs notified' := by
  obtain ⟨timer, clock, loop, application⟩ := threads
  cases application with
  | none => exact LoopPhase.mono phase (Nat.le_add_right _ _) further
  | some call => exact phase

/-- The callback is called by the loop only, at its call of `notify`. -/
theorem notified_step
    {action : Action}
    {now : Nat}
    (observed : .notified now ∈ (threads.step action).2) :
    now = threads.clock ∧ threads.loop = .notifies ∧
      ∃ request, action = .evaluationLoop request := by
  cases action with
  | evaluationLoop request =>
      refine ⟨?_, ?_, request, rfl⟩ <;>
        · simp only [step, loopStep] at observed
          repeat' split at observed
          all_goals simp_all
  | application =>
      simp only [step, applicationStep] at observed
      repeat' split at observed
      all_goals simp at observed
  | call | isExpired =>
      simp only [step] at observed
      split at observed <;> simp at observed
  | pass | wake => simp [step] at observed

theorem clock_step (threads : Threads) (action : Action) :
    threads.clock ≤ (threads.step action).1.clock := by
  cases action with
  | evaluationLoop request =>
      simp only [step, loopStep]
      repeat' split
      all_goals exact le_rfl
  | application =>
      simp only [step, applicationStep]
      repeat' split
      all_goals exact le_rfl
  | call | isExpired =>
      simp only [step]
      split <;> exact le_rfl
  | pass nanoseconds => exact Nat.le_add_right _ _
  | wake => exact le_rfl

theorem Phase.reached
    (phase : threads.Phase calledAt timeoutMs notified)
    (here : threads.loop = .notifies) :
    Reached calledAt timeoutMs threads.clock := by
  unfold Phase at phase
  rw [here] at phase
  split at phase
  next => simp at phase
  next => exact phase.2

/-- What holds throughout a run that begins with such a call. -/
structure Serves
    (calledAt timeoutMs : Nat)
    (threads : Threads)
    (trace : List Observation) : Prop where
  later : calledAt ≤ threads.clock
  punctual : ∀ now, .notified now ∈ trace →
    Reached calledAt timeoutMs now
  phase : threads.Phase calledAt timeoutMs (Notified trace)

theorem Serves.step
    {action : Action}
    (positive : 0 < timeoutMs)
    (serves : threads.Serves calledAt timeoutMs trace)
    (alone : action.LeavesAlone) :
    (threads.step action).1.Serves calledAt timeoutMs
      (trace ++ (threads.step action).2) := by
  obtain ⟨later, punctual, phase⟩ := serves
  refine ⟨later.trans (threads.clock_step action), ?_, ?_⟩
  · intro now observed
    rcases List.mem_append.mp observed with before | observed
    · exact punctual now before
    · obtain ⟨rfl, here, -⟩ := notified_step observed
      exact phase.reached here
  · have further {observations : List Observation} :
        Notified trace → Notified (trace ++ observations) :=
      fun ⟨now, before⟩ => ⟨now, List.mem_append_left _ before⟩
    cases action with
    | evaluationLoop request =>
        obtain rfl : request = none := by
          cases request with
          | none => rfl
          | some => exact alone.elim
        refine (phase.loopStep positive).mono 0 ?_
        rintro (before | here)
        · exact further before
        · refine ⟨threads.clock, List.mem_append_right _ ?_⟩
          simp [Threads.step, Threads.loopStep, here]
    | application =>
        exact (phase.applicationStep positive later).mono 0 further
    | isExpired =>
        simp only [Threads.step]
        split
        next outside =>
          unfold Phase at phase ⊢
          rw [outside] at phase ⊢
          exact (phase.indicates false).mono le_rfl further
        next => exact phase.mono 0 further
    | pass nanoseconds => exact phase.mono nanoseconds further
    | call | wake => exact alone.elim

/-- A call of `start` that finds the loop waiting is heeded. -/
theorem reliable_of_waiting
    (stopped : threads.timer.isTimerRunning = false)
    (waits : threads.loop = .waiting) :
    threads.Reliable := by
  intro delay timeoutMs positive threads' trace goes
  have serves : threads'.Serves (threads.clock + delay) timeoutMs trace := by
    refine goes.invariant (Serves (threads.clock + delay) timeoutMs) ?_
      fun _ _ _ serves alone => serves.step positive alone
    exact ⟨le_rfl, by simp, waits, rfl, stopped⟩
  refine ⟨serves.punctual, fun outside waits' => ?_⟩
  have phase := serves.phase
  unfold Phase at phase
  rwa [outside, waits'] at phase

end Waiting

/-! ## From anywhere else -/

section Elsewhere

variable {threads : Threads}

/-- A call of `start` may come this far before its stopwatch is started. -/
theorem goes_startsTimer
    {timeoutMs : Nat}
    (stopped : threads.timer.isTimerRunning = false)
    (positive : 0 < timeoutMs) :
    (threads.calling (.start timeoutMs)).Goes
      { threads with
        timer := (threads.timer.setTimeoutms timeoutMs).setTimerStatus true
        application := some .startStartsTimer } [] := by
  have alone : ∀ action ∈ List.replicate 3 Action.application,
      action.LeavesAlone := by decide
  have goes := (threads.calling (.start timeoutMs)).goes_execute alone
  simpa [machine, Machine.execute, step, applicationStep, calling,
    Request.entry, CallPoint.step, List.replicate, stopped, positive] using goes

/-- Where the loop goes to its wait behind the notification, nothing wakes
it. -/
theorem not_reliable_of_ready
    (stopped : threads.timer.isTimerRunning = false)
    (front : threads.loop = .ready) :
    ¬threads.Reliable := by
  intro reliable
  have alone : ∀ action ∈
      [Action.application, .application, .evaluationLoop none],
      action.LeavesAlone := by decide
  have called : (threads.after 0).timer.isTimerRunning = false := stopped
  have goes :=
    (goes_startsTimer called Nat.one_pos).trans (goes_execute alone)
  have heeded := (reliable 0 1 Nat.one_pos _ _ goes).2
  simp [machine, Machine.execute, step, applicationStep, loopStep, after,
    CallPoint.step, woken, front, Notified] at heeded

/-- Anywhere else the loop may see the new timeout beside the old stopwatch. -/
theorem not_reliable_of_elsewhere
    (stopped : threads.timer.isTimerRunning = false)
    (uncalled : ∀ call, threads.loop ≠ .calls call)
    (front : threads.loop ≠ .ready)
    (waits : threads.loop ≠ .waiting) :
    ¬threads.Reliable := by
  intro reliable
  obtain ⟨delay, due⟩ := exists_due
    ((threads.timer.setTimeoutms 1).setTimerStatus true) threads.clock
  have called : (threads.after delay).timer.isTimerRunning = false := stopped
  let called' : Threads :=
    { threads.after delay with
      timer := (threads.timer.setTimeoutms 1).setTimerStatus true
      application := some .startStartsTimer }
  obtain ⟨threads', trace, fires, observed⟩ :=
    called'.fires_of_due front waits uncalled rfl due
  have goes := (goes_startsTimer called Nat.one_pos).trans fires
  have punctual := (reliable delay 1 Nat.one_pos _ _ goes).1 _ observed
  simp [called', after, Stopwatch.ticks] at punctual

/-- A call of `start` is heeded in every schedule exactly when it finds the loop
waiting. -/
theorem reliable_iff_waiting
    (stopped : threads.timer.isTimerRunning = false)
    (uncalled : ∀ call, threads.loop ≠ .calls call) :
    threads.Reliable ↔ threads.loop = .waiting := by
  refine ⟨fun reliable => ?_, reliable_of_waiting stopped⟩
  by_contra elsewhere
  by_cases front : threads.loop = .ready
  · exact not_reliable_of_ready stopped front reliable
  · exact not_reliable_of_elsewhere stopped uncalled front elsewhere reliable

end Elsewhere

/-- A timer is not reliable before its loop has come to wait. -/
theorem reliable_iff_waiting_example :
    ¬(created .oneShot).Reliable ∧
      (exampleRun .oneShot [.evaluationLoop none]).Reliable := by
  constructor
  · rw [reliable_iff_waiting rfl (by simp [created])]
    decide
  · rw [reliable_iff_waiting rfl (by
      simp [exampleRun, machine, Machine.execute, step, loopStep, created])]
    rfl

/-! ## A start that was lost -/

section Lost

variable {threads threads' : Threads} {trace : List Observation}

/-- Whatever happens but a call that would stop the timer, or a wait that ends
without notification. -/
def Action.Persists : Action → Prop
  | .call .stop | .call (.start 0) | .wake => False
  | _ => True

/-- The timer runs, its loop waits, and nobody is about to notify it. -/
structure Lost (threads : Threads) : Prop where
  running : threads.timer.isTimerRunning = true
  waits : threads.loop = .waiting
  calls : ∀ call, threads.application = some call →
    ∃ timeoutMs, 0 < timeoutMs ∧ call = .startChecks timeoutMs

theorem Lost.step
    {action : Action}
    (lost : threads.Lost)
    (persists : action.Persists) :
    (threads.step action).1.Lost ∧
      ¬Notified (threads.step action).2 ∧
      .returned true ∉ (threads.step action).2 := by
  obtain ⟨timer, clock, loop, application⟩ := threads
  obtain ⟨running, rfl, calls⟩ := lost
  have running : timer.isTimerRunning = true := running
  cases action with
  | evaluationLoop request =>
      exact ⟨⟨running, rfl, calls⟩, by simp [step, loopStep, Notified],
        by simp [step, loopStep]⟩
  | application =>
      cases application with
      | none =>
          exact ⟨⟨running, rfl, calls⟩,
            by simp [step, applicationStep, Notified],
            by simp [step, applicationStep]⟩
      | some call =>
          obtain ⟨timeoutMs, positive, rfl⟩ := calls call rfl
          have zero : timeoutMs ≠ 0 := Nat.ne_of_gt positive
          have stepped : Threads.step
              ⟨timer, clock, .waiting, some (.startChecks timeoutMs)⟩
              .application =
                (⟨timer, clock, .waiting, none⟩, [.returned false]) := by
            simp [step, applicationStep, CallPoint.step, running, zero]
          rw [stepped]
          exact ⟨⟨running, rfl, by simp⟩, by simp [Notified], by simp⟩
  | call request =>
      cases application with
      | some call =>
          exact ⟨⟨running, rfl, calls⟩, by simp [step, Notified],
            by simp [step]⟩
      | none =>
          cases request with
          | stop => exact persists.elim
          | start timeoutMs =>
              cases timeoutMs with
              | zero => exact persists.elim
              | succ timeoutMs =>
                  refine ⟨⟨running, rfl, ?_⟩, by simp [step, Notified],
                    by simp [step]⟩
                  intro call same
                  exact ⟨timeoutMs + 1, timeoutMs.succ_pos,
                    (Option.some.inj same).symm⟩
  | isExpired =>
      cases application with
      | some call =>
          exact ⟨⟨running, rfl, calls⟩, by simp [step, Notified],
            by simp [step]⟩
      | none =>
          exact ⟨⟨running, rfl, by simp [step]⟩, by simp [step, Notified],
            by simp [step]⟩
  | pass =>
      exact ⟨⟨running, rfl, calls⟩, by simp [step, Notified], by simp [step]⟩
  | wake => exact persists.elim

/-- A start that was lost is lost for ever: the timer says that it runs, the
callback is not called, and every further start is refused. -/
theorem lost_forever
    (lost : threads.Lost)
    (goes : machine.Reaches (fun _ _ action => action.Persists) threads threads'
      trace) :
    threads'.Lost ∧ ¬Notified trace ∧ .returned true ∉ trace := by
  refine goes.invariant
    (fun threads trace =>
      threads.Lost ∧ ¬Notified trace ∧ .returned true ∉ trace)
    ⟨lost, by simp [Notified], by simp⟩ ?_
  rintro threads trace action ⟨lost, silent, refused⟩ persists
  obtain ⟨lost', silent', refused'⟩ := lost.step persists
  refine ⟨lost', ?_, ?_⟩
  · rintro ⟨now, observed⟩
    rcases List.mem_append.mp observed with before | observed
    · exact silent ⟨now, before⟩
    · exact silent' ⟨now, observed⟩
  · intro observed
    rcases List.mem_append.mp observed with before | observed
    · exact refused before
    · exact refused' observed

end Lost

/-- The application starts the timer before its loop has come to wait. -/
def exampleStart : List Action :=
  .call (.start 1000) :: List.replicate 5 .application ++
    [.evaluationLoop none]

/-- Ten seconds later, the loop waits and a further start is refused. -/
theorem lost_forever_example :
    let later := machine.execute (exampleRun .oneShot exampleStart) []
      [.pass 10000000000, .evaluationLoop none, .call (.start 5), .application]
    later.2 = [.returned false] ∧
      later.1.Lost ∧ ¬Notified later.2 ∧ .returned true ∉ later.2 := by
  refine ⟨by decide, lost_forever ⟨by decide, by decide, ?_⟩
    (Machine.Reaches.execute _ .start
      ⟨trivial, trivial, trivial, trivial, trivial⟩)⟩
  have outside : (exampleRun .oneShot exampleStart).application = none := by
    decide
  simp [outside]

end Threads

end MsTimer

end DataDumpProtocol

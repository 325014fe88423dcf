import Mathlib.Data.List.Chain
import DataDumpProtocol.Library.Machine

/-!
# The polled timer

`msTimer` is polled by the loop of its own thread, which compares the reading of
a stopwatch with the timeout.  In periodic mode the loop is meant to start the
timer again, but `start` refuses a timer that runs.  So the stopwatch goes on,
and every poll from the first timeout on is one more timeout.
-/

namespace DataDumpProtocol

/-! ## Stopwatch -/

/-- `Stopwatch`, with the nanosecond it was started at.  Its laps are not
used. -/
structure Stopwatch where
  startTime : Nat
  deriving DecidableEq

namespace Stopwatch

/-- `ticks` in milliseconds, rounded by the first digit that is cut off. -/
def ticks (startTime endTime : Nat) : Nat :=
  let nsCount := endTime - startTime
  nsCount / 1000000 + if 5 ≤ nsCount / 100000 % 10 then 1 else 0

/-- `elapsed`, in the default format. -/
def elapsed (stopwatch : Stopwatch) (now : Nat) : Nat :=
  ticks stopwatch.startTime now

/-- `start`. -/
def start (_stopwatch : Stopwatch) (now : Nat) : Stopwatch where
  startTime := now

/-- The reading is rounded to the nearest millisecond. -/
theorem ticks_eq (startTime endTime : Nat) :
    ticks startTime endTime = (endTime - startTime + 500000) / 1000000 := by
  simp only [ticks]
  split <;> omega

theorem ticks_mono
    (startTime : Nat)
    {earlier later : Nat}
    (le : earlier ≤ later) :
    ticks startTime earlier ≤ ticks startTime later := by
  rw [ticks_eq, ticks_eq]
  exact Nat.div_le_div_right (by omega)

end Stopwatch

/-! ## Timer -/

/-- `msTimer::mode_e`. -/
inductive TimerMode
  | oneShot
  | periodic
  deriving DecidableEq

/-- `msTimer`, with the members of `base_timer`. -/
structure MsTimer where
  mode : TimerMode
  timerHandle : Stopwatch
  timeoutms : Nat := 0
  timerStatus : Bool := false
  expired : Bool := false
  deriving DecidableEq

namespace MsTimer

/-- `isTimerRunning`. -/
def isTimerRunning (timer : MsTimer) : Bool :=
  timer.timerStatus

/-- `checkTimeOut`. -/
def checkTimeOut (timer : MsTimer) (now : Nat) : Bool :=
  decide (timer.timeoutms ≤ timer.timerHandle.elapsed now)

/-- `start`, which refuses a timer that runs. -/
def start (timer : MsTimer) (now timeoutMs : Nat) : Bool × MsTimer :=
  if timer.isTimerRunning = false ∧ 0 < timeoutMs then
    (true,
      { timer with
        timeoutms := timeoutMs
        timerStatus := true
        timerHandle := timer.timerHandle.start now })
  else if timeoutMs = 0 then
    (true, { timer with timeoutms := timeoutMs, timerStatus := false })
  else
    (false, timer)

/-- `stop`. -/
def stop (timer : MsTimer) : Bool × MsTimer :=
  if timer.isTimerRunning then
    (true, { timer with timerStatus := false, timeoutms := 0 })
  else
    (false, timer)

/-- One round of `evaluationLoop`: the timer afterwards, and the time at which
`notify` was called, if it was. -/
def poll (timer : MsTimer) (now : Nat) : MsTimer × List Nat :=
  if timer.isTimerRunning then
    if timer.checkTimeOut now then
      let timer :=
        match timer.mode with
        | .periodic => (timer.start now timer.timeoutms).2
        | .oneShot => timer.stop.2
      ({ timer with expired := true }, [now])
    else
      (timer, [])
  else
    (timer, [])

/-- A timer that is left alone with `evaluationLoop`. -/
def machine : Machine MsTimer Nat Nat where
  step := poll

/-! ## What is promised -/

/-- The polls at which the reading has come to the timeout. -/
def due (reading : Nat → Nat) (timeoutMs poll : Nat) : Bool :=
  decide (timeoutMs ≤ reading poll)

/-- `notify` is called once, at the first poll that finds the timeout reached,
and the timer does not run any more. -/
def FiresOnce
    (reading : Nat → Nat)
    (timeoutMs : Nat)
    (polls : List Nat)
    (timer : MsTimer)
    (notified : List Nat) : Prop :=
  notified = (polls.find? (due reading timeoutMs)).toList ∧
    timer.isTimerRunning = (polls.find? (due reading timeoutMs)).isNone

/-- The timer runs on, and `notify` is called at intervals of at least the
timeout, so not more often than the timeout fits in the time gone by. -/
def FiresAtRate
    (reading : Nat → Nat)
    (timeoutMs : Nat)
    (polls : List Nat)
    (timer : MsTimer)
    (notified : List Nat) : Prop :=
  timer.isTimerRunning = true ∧
    notified.IsChain
      (fun earlier later => reading earlier + timeoutMs ≤ reading later) ∧
    ∀ last ∈ polls.getLast?, notified.length * timeoutMs ≤ reading last

/-- A timer started at `now` and then polled fires as its mode promises. -/
def FiresAsPromised
    (timer : MsTimer)
    (now timeoutMs : Nat)
    (polls : List Nat) : Prop :=
  let started := timer.start now timeoutMs
  let run := machine.execute started.2 [] polls
  started.1 = true ∧
    match timer.mode with
    | .oneShot =>
        FiresOnce (Stopwatch.ticks now) timeoutMs polls run.1 run.2
    | .periodic =>
        FiresAtRate (Stopwatch.ticks now) timeoutMs polls run.1 run.2

/-- Once the timeout is reached, the polls are as far apart as the timeout. -/
def PolledAtRate
    (reading : Nat → Nat)
    (timeoutMs : Nat)
    (polls : List Nat) : Prop :=
  polls.IsChain fun earlier later =>
    timeoutMs ≤ reading earlier →
      reading earlier + timeoutMs ≤ reading later

instance (reading : Nat → Nat) (timeoutMs : Nat) (polls : List Nat) :
    Decidable (PolledAtRate reading timeoutMs polls) :=
  inferInstanceAs (Decidable (List.IsChain _ _))

/-! ## Intervals -/

section Intervals

variable {reading : Nat → Nat} {timeoutMs : Nat} {polls : List Nat}

/-- Values that grow by at least the interval count the intervals. -/
theorem length_mul_le_of_isChain
    {first : Nat}
    (count : Nat)
    (apart : (first :: polls).IsChain
      fun earlier later => reading earlier + timeoutMs ≤ reading later)
    (enough : count * timeoutMs ≤ reading first) :
    (count + polls.length) * timeoutMs ≤
      reading ((first :: polls).getLast (by simp)) := by
  induction polls generalizing first count with
  | nil => simpa using enough
  | cons next rest inductionHypothesis =>
      rw [List.isChain_cons_cons] at apart
      have further : (count + 1) * timeoutMs ≤ reading next := by
        rw [Nat.add_mul]
        omega
      have counted := inductionHypothesis (count + 1) apart.2 further
      rw [List.getLast_cons (by simp), List.length_cons]
      rwa [Nat.add_assoc, Nat.add_comm 1] at counted

/-- Among polls in order, the due ones are apart when no poll follows a due one
too soon. -/
theorem isChain_filter_due_iff
    (mono : ∀ {earlier later}, earlier ≤ later →
      reading earlier ≤ reading later)
    (nondecreasing : polls.Pairwise (· ≤ ·)) :
    (polls.filter (due reading timeoutMs)).IsChain
        (fun earlier later => reading earlier + timeoutMs ≤ reading later) ↔
      PolledAtRate reading timeoutMs polls := by
  induction polls with
  | nil => simp [PolledAtRate]
  | cons first rest inductionHypothesis =>
      rw [List.pairwise_cons] at nondecreasing
      by_cases reached : timeoutMs ≤ reading first
      · have allDue : ∀ poll ∈ first :: rest, timeoutMs ≤ reading poll := by
          intro poll present
          rcases List.mem_cons.mp present with rfl | behind
          · exact reached
          · exact reached.trans (mono (nondecreasing.1 poll behind))
        have whole : (first :: rest).filter (due reading timeoutMs) =
            first :: rest := by
          rw [List.filter_eq_self]
          intro poll present
          exact decide_eq_true (allDue poll present)
        rw [whole, PolledAtRate]
        apply List.IsChain.iff_of_mem_imp
        intro earlier later present _
        simp [allDue earlier present]
      · have skipped : (first :: rest).filter (due reading timeoutMs) =
            rest.filter (due reading timeoutMs) := by
          simp [due, reached]
        rw [skipped, inductionHypothesis nondecreasing.2, PolledAtRate,
          PolledAtRate, List.isChain_cons]
        simp [reached]

/-- Due polls that are apart are no more than the intervals gone by. -/
theorem length_filter_due_mul_le
    (mono : ∀ {earlier later}, earlier ≤ later →
      reading earlier ≤ reading later)
    (nondecreasing : polls.Pairwise (· ≤ ·))
    (apart : (polls.filter (due reading timeoutMs)).IsChain
      fun earlier later => reading earlier + timeoutMs ≤ reading later)
    {last : Nat}
    (isLast : last ∈ polls.getLast?) :
    (polls.filter (due reading timeoutMs)).length * timeoutMs ≤
      reading last := by
  have enough : ∀ poll ∈ polls.filter (due reading timeoutMs),
      timeoutMs ≤ reading poll ∧ reading poll ≤ reading last := by
    intro poll present
    obtain ⟨polled, reached⟩ := List.mem_filter.mp present
    obtain ⟨init, rfl⟩ := List.getLast?_eq_some_iff.mp isLast
    refine ⟨of_decide_eq_true reached, mono ?_⟩
    rcases List.mem_append.mp polled with before | same
    · exact (List.pairwise_append.mp nondecreasing).2.2 poll before last
        (List.mem_singleton.mpr rfl)
    · exact (List.mem_singleton.mp same).le
  cases found : polls.filter (due reading timeoutMs) with
  | nil => simp
  | cons first rest =>
      rw [found] at apart enough
      have counted := length_mul_le_of_isChain 1 apart
        (by simpa using (enough first List.mem_cons_self).1)
      rw [List.length_cons, Nat.add_comm]
      exact counted.trans (enough _ (List.getLast_mem _)).2

end Intervals

/-! ## Runs -/

section Runs

variable (timer : MsTimer) (trace polls : List Nat)

theorem poll_of_stopped (stopped : timer.isTimerRunning = false) (now : Nat) :
    timer.poll now = (timer, []) := by
  simp [poll, stopped]

/-- A stopped timer stays as it is. -/
theorem execute_of_stopped (stopped : timer.isTimerRunning = false) :
    machine.execute timer trace polls = (timer, trace) := by
  induction polls generalizing trace with
  | nil => rfl
  | cons now polls inductionHypothesis =>
      have step : machine.step timer now = (timer, []) :=
        poll_of_stopped timer stopped now
      simp only [Machine.execute, step, List.append_nil]
      exact inductionHypothesis trace

/-- A running timer in one-shot mode stops at the first due poll. -/
theorem execute_oneShot
    (running : timer.isTimerRunning = true)
    (mode : timer.mode = .oneShot) :
    (machine.execute timer trace polls).2 =
        trace ++ (polls.find? timer.checkTimeOut).toList ∧
      (machine.execute timer trace polls).1.isTimerRunning =
        (polls.find? timer.checkTimeOut).isNone := by
  induction polls generalizing trace with
  | nil => simpa [Machine.execute] using running
  | cons now polls inductionHypothesis =>
      by_cases reached : timer.checkTimeOut now
      · have step : machine.step timer now =
            ({ timer.stop.2 with expired := true }, [now]) := by
          simp [machine, poll, running, reached, mode]
        have stopped : isTimerRunning { timer.stop.2 with expired := true } =
            false := by
          have status : timer.timerStatus = true := running
          simp [stop, isTimerRunning, status]
        simp only [Machine.execute, step, List.find?_cons_of_pos reached]
        rw [execute_of_stopped _ _ _ stopped]
        exact ⟨rfl, stopped⟩
      · have step : machine.step timer now = (timer, []) := by
          simp [machine, poll, running, reached]
        simp only [Machine.execute, step, List.append_nil,
          List.find?_cons_of_neg reached]
        exact inductionHypothesis trace

/-- A running timer in periodic mode is refused its new start, and counts every
due poll. -/
theorem execute_periodic
    (running : timer.isTimerRunning = true)
    (mode : timer.mode = .periodic)
    (positive : 0 < timer.timeoutms) :
    (machine.execute timer trace polls).2 =
        trace ++ polls.filter timer.checkTimeOut ∧
      (machine.execute timer trace polls).1.isTimerRunning = true := by
  induction polls generalizing trace timer with
  | nil => simpa [Machine.execute] using running
  | cons now polls inductionHypothesis =>
      by_cases reached : timer.checkTimeOut now
      · have refused : (timer.start now timer.timeoutms).2 = timer := by
          simp [start, running, Nat.ne_of_gt positive]
        have step : machine.step timer now =
            ({ timer with expired := true }, [now]) := by
          simp [machine, poll, running, reached, mode, refused]
        have rest := inductionHypothesis { timer with expired := true }
          (trace ++ [now]) running mode positive
        simp only [Machine.execute, step, List.filter_cons_of_pos reached]
        rwa [List.append_assoc, List.singleton_append] at rest
      · have step : machine.step timer now = (timer, []) := by
          simp [machine, poll, running, reached]
        simp only [Machine.execute, step, List.append_nil,
          List.filter_cons_of_neg reached]
        exact inductionHypothesis timer trace running mode positive

end Runs

/-- A timer that was just started. -/
def startedAt (timer : MsTimer) (now timeoutMs : Nat) : MsTimer :=
  { timer with
    timeoutms := timeoutMs
    timerStatus := true
    timerHandle := ⟨now⟩ }

section Started

variable (timer : MsTimer) (now timeoutMs : Nat)

@[simp] theorem mode_startedAt :
    (timer.startedAt now timeoutMs).mode = timer.mode := rfl

@[simp] theorem isTimerRunning_startedAt :
    (timer.startedAt now timeoutMs).isTimerRunning = true := rfl

@[simp] theorem timeoutms_startedAt :
    (timer.startedAt now timeoutMs).timeoutms = timeoutMs := rfl

/-- The polls that find a timeout are the due ones. -/
@[simp] theorem checkTimeOut_startedAt :
    (timer.startedAt now timeoutMs).checkTimeOut =
      due (Stopwatch.ticks now) timeoutMs := rfl

theorem start_of_stopped
    {timer : MsTimer}
    {timeoutMs : Nat}
    (stopped : timer.isTimerRunning = false)
    (positive : 0 < timeoutMs) :
    timer.start now timeoutMs = (true, timer.startedAt now timeoutMs) := by
  simp [start, stopped, positive, Stopwatch.start, startedAt]

end Started

/-- A timer that is started and left alone fires as its mode promises exactly
when the mode is not periodic, or the polls are as far apart as the timeout from
the first timeout on. -/
theorem fires_as_promised_iff
    {timer : MsTimer}
    {now timeoutMs : Nat}
    {polls : List Nat}
    (stopped : timer.isTimerRunning = false)
    (positive : 0 < timeoutMs)
    (nondecreasing : (now :: polls).Pairwise (· ≤ ·)) :
    timer.FiresAsPromised now timeoutMs polls ↔
      (timer.mode = .periodic →
        PolledAtRate (Stopwatch.ticks now) timeoutMs polls) := by
  have ordered := (List.pairwise_cons.mp nondecreasing).2
  simp only [FiresAsPromised, start_of_stopped now stopped positive, true_and]
  cases mode : timer.mode with
  | oneShot =>
      have fires := execute_oneShot (timer.startedAt now timeoutMs) [] polls
        rfl mode
      exact iff_of_true fires (by simp)
  | periodic =>
      obtain ⟨notified, running⟩ := execute_periodic
        (timer.startedAt now timeoutMs) [] polls rfl mode positive
      rw [List.nil_append, checkTimeOut_startedAt] at notified
      simp only [FiresAtRate, notified, running, true_and, true_implies]
      rw [← isChain_filter_due_iff (Stopwatch.ticks_mono now) ordered]
      constructor
      · exact And.left
      · intro apart
        exact ⟨apart, fun last isLast => length_filter_due_mul_le
          (Stopwatch.ticks_mono now) ordered apart isLast⟩

/-- A periodic second that is polled every second. -/
theorem fires_every_second_example :
    FiresAsPromised { mode := .periodic, timerHandle := ⟨0⟩ } 0 1000
      [1000000000, 2000000000] :=
  (fires_as_promised_iff rfl (by decide) (by decide)).2 fun _ => by decide

/-- A periodic second that is polled after one second and ten milliseconds
later. -/
theorem fires_again_too_soon_example :
    ¬FiresAsPromised { mode := .periodic, timerHandle := ⟨0⟩ } 0 1000
      [1000000000, 1010000000] := by
  rw [fires_as_promised_iff rfl (by decide) (by decide)]
  decide

end MsTimer

end DataDumpProtocol

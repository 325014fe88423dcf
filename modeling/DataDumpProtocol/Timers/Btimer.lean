import DataDumpProtocol.Timers.MsTimer

/-!
# The protocol timer

`btimer` waits on a `deadline_timer` of boost and is asked by `isExpired`.  Its
constructor takes the `io_service` that the application runs, but the class has a
member of that name and type, and this is the one that `start` constructs the
`deadline_timer` on.  The member is never run, so the timer does not expire.

Boost is a parameter here: which of the pending waits one turn of an
`io_service` runs the handlers of.
-/

namespace DataDumpProtocol

/-- The `io_service` that the constructor is given, and the timer's member. -/
inductive IoService
  | given
  | member
  deriving DecidableEq

/-- A wait that was started on a `deadline_timer`, with `timeoutCB` as its
handler. -/
structure Wait where
  service : IoService
  deadline : Nat
  cancelled : Bool := false
  deriving DecidableEq

/-- `btimer`.  A handle is represented by when it expires, and the callback by
whether it was given. -/
structure Btimer where
  mode : TimerMode
  handle : Option Nat := none
  service : IoService := .member
  duration : Nat := 1
  notifyCB : Bool := false
  timerExpiry : Bool := false

/-- The constructor, which does not use the service it is given. -/
def Btimer.construct
    (_service : IoService)
    (mode : TimerMode)
    (callback : Bool) : Btimer where
  mode := mode
  notifyCB := callback

/-- A timer with the waits that boost holds for it, and the number of times its
callback was called. -/
structure TimerWaits where
  timer : Btimer
  pending : List Wait := []
  notified : Nat := 0

namespace TimerWaits

/-- `stop`, whose destructor call cancels the wait of a handle as well. -/
def stop (waits : TimerWaits) : Bool × TimerWaits :=
  match waits.timer.handle with
  | some _ =>
      (true,
        { waits with
          timer := { waits.timer with handle := none }
          pending :=
            waits.pending.map fun wait => { wait with cancelled := true } })
  | none => (false, waits)

/-- `start`. -/
def start (waits : TimerWaits) (now intervalms : Nat) : Bool × TimerWaits :=
  let waits := waits.stop.2
  (true,
    { waits with
      timer :=
        { waits.timer with
          duration := intervalms
          timerExpiry := false
          handle := some (now + intervalms) }
      pending := waits.pending ++
        [{ service := waits.timer.service, deadline := now + intervalms }] })

/-- `isExpired`, which clears the flag it reads. -/
def isExpired (waits : TimerWaits) : Bool × TimerWaits :=
  (waits.timer.timerExpiry,
    { waits with timer := { waits.timer with timerExpiry := false } })

/-- `restart`, which waits again in periodic mode. -/
def restart (waits : TimerWaits) (now : Nat) : Bool × TimerWaits :=
  match waits.timer.handle, waits.timer.mode with
  | some _, .periodic =>
      let deadline := now + waits.timer.duration
      (true,
        { waits with
          timer := { waits.timer with handle := some deadline }
          pending := waits.pending ++
            [{ service := waits.timer.service, deadline := deadline }] })
  | some _, .oneShot => (true, waits)
  | none, _ => (false, waits)

/-- `timeoutCB`, which looks at the handle that there is when it runs. -/
def timeoutCB (waits : TimerWaits) (now : Nat) : TimerWaits :=
  match waits.timer.handle with
  | some expiresAt =>
      let didTimeoutOccur := decide (expiresAt ≤ now)
      let waits :=
        { waits with
          timer := { waits.timer with timerExpiry := didTimeoutOccur } }
      if didTimeoutOccur then
        let waits :=
          if waits.timer.notifyCB then
            { waits with notified := waits.notified + 1 }
          else waits
        (waits.restart now).2
      else waits
  | none => waits

end TimerWaits

/-! ## Boost -/

/-- The waits whose handlers a turn of a service runs, in order. -/
abbrev Ran := IoService → Nat → List Wait → List Wait

/-- A turn of a service runs the handlers of the waits that were started on
that service and are ready: their deadline has passed, or they were
cancelled. -/
def RunsReady (ran : Ran) : Prop :=
  ∀ service now pending wait,
    wait ∈ ran service now pending ↔
      wait ∈ pending ∧ wait.service = service ∧
        (wait.deadline ≤ now ∨ wait.cancelled = true)

/-- A turn of a service. -/
def TimerWaits.turn
    (ran : Ran)
    (waits : TimerWaits)
    (service : IoService)
    (now : Nat) : TimerWaits :=
  let handlers := ran service now waits.pending
  handlers.foldl (fun waits _ => waits.timeoutCB now)
    { waits with
      pending := waits.pending.filter fun wait => decide (wait ∉ handlers) }

/-- The calls of a timer, and the turns of the service it was given. -/
inductive TimerCall
  | start (now intervalms : Nat)
  | stop (now : Nat)
  | isExpired
  | turn (now : Nat)
  deriving DecidableEq

namespace TimerWaits

/-- What a call leaves. -/
def call (ran : Ran) (waits : TimerWaits) : TimerCall → TimerWaits
  | .start now intervalms => (waits.start now intervalms).2
  | .stop _ => waits.stop.2
  | .isExpired => waits.isExpired.2
  | .turn now => waits.turn ran .given now

/-- What a sequence of calls leaves. -/
def callAll (ran : Ran) (waits : TimerWaits) (calls : List TimerCall) :
    TimerWaits :=
  calls.foldl (call ran) waits

end TimerWaits

/-! ## What is promised -/

/-- What the calls so far promise of the next `isExpired`. -/
inductive TimerPhase
  /-- Nothing. -/
  | unset
  /-- The timer was started, and its service has not run since the deadline. -/
  | running (deadline : Nat)
  /-- The service ran at the deadline or later, and the next answer is true. -/
  | due
  /-- The expiry was reported. -/
  | spent
  /-- The timer was stopped before its deadline. -/
  | stopped
  deriving DecidableEq

namespace TimerPhase

/-- The phase after a call. -/
def after : TimerPhase → TimerCall → TimerPhase
  | _, .start now intervalms => running (now + intervalms)
  | running deadline, .stop now => if now < deadline then stopped else unset
  | due, .stop _ => unset
  | running deadline, .turn now =>
      if deadline ≤ now then due else running deadline
  | due, .isExpired => spent
  | phase, _ => phase

/-- The phase after a sequence of calls. -/
def afterAll (calls : List TimerCall) : TimerPhase :=
  calls.foldl after unset

/-- The answers of `isExpired` that keep the promise. -/
def Allows : TimerPhase → Bool → Prop
  | due, answer => answer = true
  | spent, answer => answer = false
  | stopped, answer => answer = false
  | _, _ => True

instance : (phase : TimerPhase) → (answer : Bool) →
    Decidable (phase.Allows answer)
  | due, answer => inferInstanceAs (Decidable (answer = true))
  | spent, answer => inferInstanceAs (Decidable (answer = false))
  | stopped, answer => inferInstanceAs (Decidable (answer = false))
  | unset, _ => inferInstanceAs (Decidable True)
  | running _, _ => inferInstanceAs (Decidable True)

theorem allows_false_iff (phase : TimerPhase) :
    phase.Allows false ↔ phase ≠ due := by
  cases phase <;> simp [Allows]

end TimerPhase

/-- Every `isExpired` in a sequence of calls on a fresh timer in one-shot mode
answers what was promised. -/
def AnswersAsPromised
    (ran : Ran)
    (callback : Bool)
    (calls : List TimerCall) : Prop :=
  Trace.Every
    (fun before call => call = .isExpired →
      (TimerPhase.afterAll before).Allows
        (TimerWaits.callAll ran
          { timer := .construct .given .oneShot callback } before).isExpired.1)
    calls

/-! ## Waits on the member -/

/-- Nothing has expired, and every wait is on the member. -/
structure TimerWaits.Inert (waits : TimerWaits) : Prop where
  service : waits.timer.service = .member
  timerExpiry : waits.timer.timerExpiry = false
  pending : ∀ wait ∈ waits.pending, wait.service = .member

namespace TimerWaits.Inert

variable {waits : TimerWaits}

theorem stop (inert : waits.Inert) : waits.stop.2.Inert := by
  unfold TimerWaits.stop
  split
  next =>
    refine ⟨inert.service, inert.timerExpiry, ?_⟩
    intro wait present
    obtain ⟨before, held, rfl⟩ := List.mem_map.mp present
    exact inert.pending before held
  next => exact inert

theorem start (inert : waits.Inert) (now intervalms : Nat) :
    (waits.start now intervalms).2.Inert := by
  have stopped := inert.stop
  refine ⟨stopped.service, rfl, ?_⟩
  intro wait present
  rcases List.mem_append.mp present with held | new
  · exact stopped.pending wait held
  · obtain rfl := List.mem_singleton.mp new
    exact stopped.service

/-- The given service has no handler to run. -/
theorem turn
    {ran : Ran}
    (runsReady : RunsReady ran)
    (inert : waits.Inert)
    (now : Nat) :
    (waits.turn ran .given now).Inert := by
  have none : ran .given now waits.pending = [] := by
    apply List.eq_nil_iff_forall_not_mem.mpr
    intro wait runs
    obtain ⟨held, service, -⟩ := (runsReady ..).mp runs
    have onMember := inert.pending wait held
    rw [service] at onMember
    cases onMember
  simp only [TimerWaits.turn, none, List.foldl_nil]
  refine ⟨inert.service, inert.timerExpiry, ?_⟩
  intro wait present
  exact inert.pending wait (List.mem_of_mem_filter present)

theorem call
    {ran : Ran}
    (runsReady : RunsReady ran)
    (inert : waits.Inert)
    (call : TimerCall) :
    (waits.call ran call).Inert := by
  cases call with
  | start now intervalms => exact inert.start now intervalms
  | stop now => exact inert.stop
  | isExpired => exact ⟨inert.service, rfl, inert.pending⟩
  | turn now => exact inert.turn runsReady now

theorem callAll
    {ran : Ran}
    (runsReady : RunsReady ran)
    (inert : waits.Inert)
    (calls : List TimerCall) :
    (waits.callAll ran calls).Inert := by
  induction calls generalizing waits with
  | nil => exact inert
  | cons call calls inductionHypothesis =>
      exact inductionHypothesis (inert.call runsReady call)

end TimerWaits.Inert

/-- The timer answers as promised exactly when it is never asked while an expiry
is due: it never reports one. -/
theorem expires_as_promised_iff
    {ran : Ran}
    (runsReady : RunsReady ran)
    (callback : Bool)
    (calls : List TimerCall) :
    AnswersAsPromised ran callback calls ↔
      Trace.Every
        (fun before call => call = .isExpired →
          TimerPhase.afterAll before ≠ .due)
        calls := by
  have fresh : TimerWaits.Inert
      { timer := .construct .given .oneShot callback } :=
    ⟨rfl, rfl, by simp⟩
  have never (before : List TimerCall) :
      (TimerWaits.callAll ran
        { timer := .construct .given .oneShot callback } before).isExpired.1 =
          false :=
    (fresh.callAll runsReady before).timerExpiry
  simp only [AnswersAsPromised, never, TimerPhase.allows_false_iff]

/-- Boost, with the handlers run in the order of their waits. -/
def ranInOrder : Ran := fun service now pending =>
  pending.filter fun wait =>
    decide (wait.service = service ∧
      (wait.deadline ≤ now ∨ wait.cancelled = true))

theorem runsReady_ranInOrder : RunsReady ranInOrder := by
  intro service now pending wait
  simp [ranInOrder]

/-- A timer that is stopped in time does not expire. -/
theorem stopped_timer_example :
    AnswersAsPromised ranInOrder false
      [.start 0 100, .stop 50, .turn 200, .isExpired] := by
  refine (expires_as_promised_iff runsReady_ranInOrder false _).2 ?_
  simp [Trace.every_cons, Trace.every_nil, TimerPhase.afterAll,
    TimerPhase.after]

/-- A timer of 100 ms does not expire after 100 ms. -/
theorem timer_never_expires_example :
    ¬AnswersAsPromised ranInOrder false
      [.start 0 100, .turn 100, .isExpired] := by
  intro answers
  have promised := answers [.start 0 100, .turn 100] .isExpired [] rfl rfl
  exact absurd promised (by decide)

-- With its waits on the service that it was given, it would.
example :
    (TimerWaits.callAll ranInOrder
      { timer := { mode := .oneShot, service := .given } }
      [.start 0 100, .turn 100]).isExpired.1 = true := by
  decide

end DataDumpProtocol

import DataDumpProtocol.Machines.Shell

/-!
# Control flow of `FSMLoop`

What the state variables, and the copies of them that the thread carries from
one step to the next, can be.  A state that a thread may still act on is
*held*.  Two invariants are offered to proofs about the machines:

* `Party.Paced` holds whatever the locks do.  A dropped store or a failed read
  can repeat a state or insert `TERMINATE`, but it cannot skip ahead.
* `Party.Heads` holds when every lock is acquired.  The thread then enters
  exactly the states that were stored for it, each of them prepared.
-/

namespace DataDumpProtocol

namespace FsmState

/-- The state that follows when all goes well. -/
def successor : FsmState → FsmState
  | .idle => .request
  | .request => .response
  | .response => .initiateBlock
  | .initiateBlock => .block
  | .block => .block
  | .terminate => .terminate

/-- What the next state can be, given the current one, where `free` says which
states may be stored at any time. -/
def Follows (free : FsmState → Prop) (current next : FsmState) : Prop :=
  next = .terminate ∨ current = .terminate ∨ next = current ∨
    next = current.successor ∨ free next

theorem Follows.refl (free : FsmState → Prop) (state : FsmState) :
    Follows free state state :=
  .inr (.inr (.inl rfl))

theorem Follows.successor (free : FsmState → Prop) (state : FsmState) :
    Follows free state state.successor :=
  .inr (.inr (.inr (.inl rfl)))

theorem Follows.terminate (free : FsmState → Prop) (state : FsmState) :
    Follows free state .terminate :=
  .inl rfl

theorem Follows.afterTerminate (free : FsmState → Prop) (state : FsmState) :
    Follows free .terminate state :=
  .inr (.inl rfl)

theorem Follows.of_free
    {free : FsmState → Prop}
    (current : FsmState)
    {next : FsmState}
    (allowed : free next) :
    Follows free current next :=
  .inr (.inr (.inr (.inr allowed)))

theorem Follows.mono
    {free free' : FsmState → Prop}
    {current next : FsmState}
    (follows : Follows free current next)
    (weaker : free next → free' next) :
    Follows free' current next := by
  rcases follows with last | first | same | successor | allowed
  · exact .inl last
  · exact .inr (.inl first)
  · exact .inr (.inr (.inl same))
  · exact .inr (.inr (.inr (.inl successor)))
  · exact .of_free current (weaker allowed)

/-- A state that is free only where it repeats the current one follows it
anyway. -/
theorem Follows.settle
    {free free' : FsmState → Prop}
    {current next : FsmState}
    (follows : Follows free current next)
    (repeats : free next → next = current) :
    Follows free' current next := by
  rcases follows with last | first | same | successor | allowed
  · exact .inl last
  · exact .inr (.inl first)
  · exact .inr (.inr (.inl same))
  · exact .inr (.inr (.inr (.inl successor)))
  · exact .inr (.inr (.inl (repeats allowed)))

end FsmState

open FsmState

namespace DataDump

/-- Reading a state gives the stored one, or `TERMINATE` when the lock is not
acquired. -/
theorem getNextFSMState_cases (dump : DataDump) (env : Environment) :
    dump.getNextFSMState env = dump.nextState ∨
      dump.getNextFSMState env = .terminate := by
  unfold getNextFSMState
  split <;> simp

theorem getCurrentFSMState_cases (dump : DataDump) (env : Environment) :
    dump.getCurrentFSMState env = dump.currentState ∨
      dump.getCurrentFSMState env = .terminate := by
  unfold getCurrentFSMState
  split <;> simp

/-- Storing a state replaces it, or does nothing when the lock is not
acquired. -/
theorem setNextFSMState_cases
    (dump : DataDump)
    (state : FsmState)
    (env : Environment) :
    dump.setNextFSMState state env = { dump with nextState := state } ∨
      dump.setNextFSMState state env = dump := by
  unfold setNextFSMState
  split <;> simp

theorem setNextFSMState_of_acquired
    (dump : DataDump)
    (state : FsmState)
    {env : Environment}
    (acquired : env.lockAcquired = true) :
    dump.setNextFSMState state env = { dump with nextState := state } := by
  simp [setNextFSMState, acquired]

/-- One step before the state bodies. -/
inductive Dispatches
    (dump : DataDump)
    (env : Environment) :
    Dispatch → DataDump → Dispatch ⊕ FsmState → Prop
  | readNext :
      Dispatches dump env .readNext dump
        (.inl (.readCurrent (dump.getNextFSMState env)))
  | changed {next : FsmState}
      (different : next ≠ dump.getCurrentFSMState env) :
      Dispatches dump env (.readCurrent next) dump (.inl .reloadNext)
  | unchanged {next : FsmState}
      (same : next = dump.getCurrentFSMState env) :
      Dispatches dump env (.readCurrent next) dump (.inl .updateStatus)
  | reloadNext :
      Dispatches dump env .reloadNext dump
        (.inl (.storeCurrent (dump.getNextFSMState env)))
  | storeCurrent {next : FsmState} :
      Dispatches dump env (.storeCurrent next)
        (dump.setCurrentFSMState next env) (.inl .updateStatus)
  | busy (running : dump.getCurrentFSMState env ≠ .idle) :
      Dispatches dump env .updateStatus { dump with isBusy := true }
        (.inl .select)
  | resting (idle : dump.getCurrentFSMState env = .idle) :
      Dispatches dump env .updateStatus dump (.inl .select)
  | select :
      Dispatches dump env .select dump (.inr (dump.getCurrentFSMState env))

theorem dispatches
    (dump : DataDump)
    (env : Environment)
    (at_ : Dispatch) :
    dump.Dispatches env at_ (dump.dispatch env at_).1
      (dump.dispatch env at_).2 := by
  cases at_ with
  | readNext => exact .readNext
  | readCurrent next =>
      simp only [dispatch]
      split
      next different => exact .changed different
      next same => exact .unchanged (not_not.mp same)
  | reloadNext => exact .reloadNext
  | storeCurrent next => exact .storeCurrent
  | updateStatus =>
      simp only [dispatch]
      split
      next running => exact .busy running
      next idle => exact .resting (not_not.mp idle)
  | select => exact .select

end DataDump

namespace Point

variable {Body : Type}

/-- The point behind a step of the part before the state bodies. -/
def ofDispatch : Dispatch ⊕ FsmState → Point Body
  | .inl next => .top next
  | .inr state => .enter state

/-- The point lies inside a state body. -/
def Inside : Point Body → Prop
  | .top _ => False
  | .enter _ | .body _ | .leave _ => True

instance : (point : Point Body) → Decidable point.Inside
  | .top _ => inferInstanceAs (Decidable False)
  | .enter _ | .body _ | .leave _ => inferInstanceAs (Decidable True)

/-- The point lies behind the update of the running indicator. -/
def Running : Point Body → Prop
  | .top at_ => at_ = .select
  | .enter _ | .body _ | .leave _ => True

end Point

namespace Party

variable {Body : Type}

/-- A step of the shell: before the state bodies or behind them. -/
inductive Shell (party : Party Body) (env : Environment) : Party Body → Prop
  | dispatch {at_ : Dispatch} {dump : DataDump} {next : Dispatch ⊕ FsmState}
      (here : party.point = .top at_)
      (dispatches : party.Dispatches env at_ dump next) :
      Shell party env { toDataDump := dump, point := .ofDispatch next }
  | leave {target : FsmState}
      (here : party.point = .leave target) :
      Shell party env
        { toDataDump := party.setNextFSMState target env
          point := .top .readNext }

/-- The thread may still act on this state. -/
def Holds (party : Party Body) (state : FsmState) : Prop :=
  state = party.currentState ∨ state = party.nextState ∨
    party.point = .top (.storeCurrent state) ∨ party.point = .enter state ∨
    party.point = .leave state

/-- Whatever the locks do, the next state follows the current one, and the
body that runs is that of the current state. -/
structure Paced
    (stateOf : Body → FsmState)
    (free : FsmState → Prop)
    (party : Party Body) : Prop where
  follows : Follows free party.currentState party.nextState
  stored : ∀ state, party.point = .top (.storeCurrent state) →
    Follows free state party.nextState
  entered : ∀ state, party.point = .enter state →
    state = party.currentState ∨ state = .terminate
  inside : ∀ body, party.point = .body body →
    stateOf body = party.currentState
  leaving : ∀ state, party.point = .leave state →
    Follows free party.currentState state
  running : party.point.Running →
    party.currentState = .idle ∨ party.isBusy = true

/-- The shell touches the state variables and the running indicator only. -/
theorem Shell.unchanged
    {party party' : Party Body}
    {env : Environment}
    (shell : party.Shell env party') :
    ∃ current next busy point,
      party' =
        { party with
          currentState := current
          nextState := next
          isBusy := busy
          point := point } ∧
      (party.isBusy = true → busy = true) := by
  cases shell with
  | @leave target here =>
      rcases party.setNextFSMState_cases target env with stored | dropped
      · exact ⟨_, _, _, _, by rw [stored], id⟩
      · exact ⟨_, _, _, _, by rw [dropped], id⟩
  | dispatch here dispatches =>
      cases dispatches with
      | @storeCurrent next =>
          unfold DataDump.setCurrentFSMState
          split <;> exact ⟨_, _, _, _, rfl, id⟩
      | busy => exact ⟨_, _, _, _, rfl, fun _ => rfl⟩
      | readNext | changed | unchanged | reloadNext | resting | select =>
          exact ⟨_, _, _, _, rfl, id⟩

section Loose

variable {party party' : Party Body} {env : Environment}
variable {stateOf : Body → FsmState} {free free' : FsmState → Prop}

/-- The shell keeps the pace. -/
theorem Shell.paced
    (shell : party.Shell env party')
    (paced : party.Paced stateOf free)
    (weaker : ∀ state, free state → free' state) :
    party'.Paced stateOf free' := by
  have follows := paced.follows.mono (weaker _)
  cases shell with
  | leave here =>
      have target := (paced.leaving _ here).mono (weaker _)
      rcases party.setNextFSMState_cases _ env with stored | dropped
      · rw [stored]
        constructor <;> simp [target, Point.Running]
      · rw [dropped]
        constructor <;> simp [follows, Point.Running]
  | dispatch here dispatches =>
      cases dispatches with
      | readNext | changed | unchanged =>
          constructor <;> simp [Point.ofDispatch, Point.Running, follows]
      | reloadNext =>
          constructor <;> simp only [Point.ofDispatch, Point.Running, follows]
          case stored =>
            intro state stored
            obtain rfl : party.getNextFSMState env = state := by
              simpa using stored
            rcases party.getNextFSMState_cases env with read | failed
            · rw [read]
              exact .refl _ _
            · rw [failed]
              exact .afterTerminate _ _
          all_goals simp
      | @storeCurrent next =>
          have stored := (paced.stored next here).mono (weaker _)
          unfold DataDump.setCurrentFSMState
          split <;> constructor <;>
            simp [Point.ofDispatch, Point.Running, follows, stored]
      | busy => constructor <;> simp [Point.ofDispatch, follows]
      | resting idle =>
          rcases party.getCurrentFSMState_cases env with read | failed
          · rw [read] at idle
            rw [idle] at follows
            constructor <;> simp [Point.ofDispatch, follows, idle]
          · simp [failed] at idle
      | select =>
          have running := paced.running (by rw [here]; rfl)
          constructor <;>
            simp [Point.ofDispatch, follows, running,
              party.getCurrentFSMState_cases env]

/-- A body keeps the pace as long as it stays within its state. -/
theorem Paced.toBody
    {body : Body}
    (paced : party.Paced stateOf free)
    (weaker : ∀ state, free state → free' state)
    (running : party.point.Running)
    (current : party'.currentState = party.currentState)
    (next : party'.nextState = party.nextState)
    (busy : party'.isBusy = party.isBusy)
    (here : party'.point = .body body)
    (inside : stateOf body = party.currentState) :
    party'.Paced stateOf free' := by
  have follows := paced.follows.mono (weaker _)
  constructor <;> simp [here, current, next, busy, inside, follows,
    paced.running running]

/-- A body keeps the pace when the state it stores may follow its own. -/
theorem Paced.toLeave
    {target : FsmState}
    (paced : party.Paced stateOf free)
    (weaker : ∀ state, free state → free' state)
    (running : party.point.Running)
    (current : party'.currentState = party.currentState)
    (next : party'.nextState = party.nextState)
    (busy : party'.isBusy = party.isBusy)
    (here : party'.point = .leave target)
    (leaving : Follows free' party.currentState target) :
    party'.Paced stateOf free' := by
  have follows := paced.follows.mono (weaker _)
  constructor <;> simp [here, current, next, busy, leaving, follows,
    paced.running running]

/-- The application keeps the pace when it stores a state that is free. -/
theorem Paced.store
    {next : FsmState}
    (paced : party.Paced stateOf free)
    (allowed : free next) :
    ({ party with nextState := next } : Party Body).Paced stateOf free where
  follows := .of_free _ allowed
  stored _ _ := .of_free _ allowed
  entered := paced.entered
  inside := paced.inside
  leaving := paced.leaving
  running := paced.running

/-- The state that is entered is the current one, or `TERMINATE`. -/
theorem Paced.current_of_enter
    {state : FsmState}
    (paced : party.Paced stateOf free)
    (here : party.point = .enter state)
    (different : state ≠ .terminate) :
    state = party.currentState :=
  (paced.entered state here).resolve_right different

/-- While a body runs, every state that is held follows its state. -/
theorem Paced.follows_of_inside
    {body : Body}
    {state : FsmState}
    (paced : party.Paced stateOf free)
    (here : party.point = .body body)
    (holds : party.Holds state) :
    Follows free (stateOf body) state := by
  rw [paced.inside body here]
  rcases holds with rfl | rfl | other | other | other
  · exact .refl _ _
  · exact paced.follows
  all_goals simp [here] at other

/-- When a state is entered, every state that is held follows it. -/
theorem Paced.follows_of_enter
    {entered state : FsmState}
    (paced : party.Paced stateOf free)
    (here : party.point = .enter entered)
    (holds : party.Holds state) :
    Follows free entered state := by
  by_cases last : entered = .terminate
  · exact last ▸ .afterTerminate _ _
  rw [paced.current_of_enter here last]
  rcases holds with rfl | rfl | other | same | other
  · exact .refl _ _
  · exact paced.follows
  · simp [here] at other
  · obtain rfl : entered = state := by simpa [here] using same
    rw [paced.current_of_enter here last]
    exact .refl _ _
  · simp [here] at other

/-- The shell brings up no state but `TERMINATE`. -/
theorem Shell.holds
    (shell : party.Shell env party')
    {state : FsmState}
    (holds : party'.Holds state) :
    party.Holds state ∨ state = .terminate := by
  unfold Holds at holds ⊢
  cases shell with
  | @leave target here =>
      rcases party.setNextFSMState_cases target env with stored | dropped
      · simp only [stored, here, Point.leave.injEq, reduceCtorEq] at holds ⊢
        rcases holds with current | next | impossible
        · exact .inl (.inl current)
        · exact .inl (by simp [next])
        · simp at impossible
      · simp only [dropped, reduceCtorEq, Point.top.injEq] at holds ⊢
        rcases holds with current | next | impossible
        · exact .inl (.inl current)
        · exact .inl (.inr (.inl next))
        · simp at impossible
  | dispatch here dispatches =>
      have reads := party.getNextFSMState_cases env
      have readsCurrent := party.getCurrentFSMState_cases env
      cases dispatches with
      | storeCurrent =>
          unfold DataDump.setCurrentFSMState at holds
          split at holds <;> simp [Point.ofDispatch, here] at holds ⊢ <;> grind
      | readNext | changed | unchanged | reloadNext | busy | resting | select =>
          simp [Point.ofDispatch, here] at holds ⊢
          grind

/-- The shell starts in front of the state bodies or behind them. -/
theorem Shell.outside (shell : party.Shell env party') (body : Body) :
    party.point ≠ .body body := by
  cases shell with
  | leave here | dispatch here => simp [here]

theorem Shell.not_entering
    (shell : party.Shell env party')
    (state : FsmState) :
    party.point ≠ .enter state := by
  cases shell with
  | leave here | dispatch here => simp [here]

/-- The shell stops in front of the state bodies. -/
theorem Shell.point_ne_body
    (shell : party.Shell env party')
    (body : Body) :
    party'.point ≠ .body body := by
  cases shell with
  | leave => simp
  | dispatch _ dispatches => cases dispatches <;> simp [Point.ofDispatch]

/-- A step into a body brings up no state. -/
theorem holds_of_body
    {body : Body}
    (current : party'.currentState = party.currentState)
    (next : party'.nextState = party.nextState)
    (here : party'.point = .body body)
    {state : FsmState}
    (holds : party'.Holds state) :
    party.Holds state := by
  simp only [Holds, current, next, here, reduceCtorEq, or_false] at holds
  exact holds.imp_right .inl

/-- A body brings up the state that it stores. -/
theorem holds_of_leave
    {target : FsmState}
    (current : party'.currentState = party.currentState)
    (next : party'.nextState = party.nextState)
    (here : party'.point = .leave target)
    {state : FsmState}
    (holds : party'.Holds state) :
    party.Holds state ∨ state = target := by
  simp only [Holds, current, next, here, reduceCtorEq, Point.leave.injEq,
    false_or] at holds
  rcases holds with held | held | stored
  · exact .inl (.inl held)
  · exact .inl (.inr (.inl held))
  · exact .inr stored.symm

/-- The application brings up the state that it stores. -/
theorem holds_of_store
    {next state : FsmState}
    (holds : ({ party with nextState := next } : Party Body).Holds state) :
    party.Holds state ∨ state = next := by
  rcases holds with current | stored | stored | entered | leaving
  · exact .inl (.inl current)
  · exact .inr stored
  · exact .inl (.inr (.inr (.inl stored)))
  · exact .inl (.inr (.inr (.inr (.inl entered))))
  · exact .inl (.inr (.inr (.inr (.inr leaving))))

end Loose

/-! ## When every lock is acquired -/

/-- The application has not stored anything since this state was read, or has
stored `IDLE` or `REQUEST`. -/
def Settled (state next : FsmState) : Prop :=
  next = state ∨ next = .idle ∨ next = .request

/-- The thread is about to enter states that are ready. -/
def Heads (ready : FsmState → Prop) (party : Party Body) : Prop :=
  match party.point with
  | .top .readNext | .top .reloadNext => ready party.nextState
  | .top (.readCurrent next) =>
      ready next ∧ ready party.nextState ∧ Settled next party.nextState
  | .top (.storeCurrent next) => ready next ∧ Settled next party.nextState
  | .top .updateStatus | .top .select =>
      ready party.currentState ∧ Settled party.currentState party.nextState
  | .enter state => ready state ∧ Settled state party.nextState
  | .body _ => True
  | .leave target => ready target

section Strict

variable {party party' : Party Body} {env : Environment}
variable {ready : FsmState → Prop}

theorem heads_of_readNext (here : party.point = .top .readNext) :
    party.Heads ready ↔ ready party.nextState := by
  simp only [Heads, here]

theorem heads_of_enter
    {state : FsmState}
    (here : party.point = .enter state) :
    party.Heads ready ↔ ready state ∧ Settled state party.nextState := by
  simp only [Heads, here]

theorem heads_of_body
    {body : Body}
    (here : party.point = .body body) :
    party.Heads ready := by
  simp only [Heads, here]

theorem heads_of_leave
    {target : FsmState}
    (here : party.point = .leave target) :
    party.Heads ready ↔ ready target := by
  simp only [Heads, here]

/-- Behind the `IDLE` body, the thread reads `IDLE` or `REQUEST` next. -/
theorem Heads.next_of_idle
    (heads : party.Heads ready)
    (here : party.point = .enter .idle) :
    party.nextState = .idle ∨ party.nextState = .request := by
  rcases ((heads_of_enter here).mp heads).2 with next | next | next
  · exact .inl next
  · exact .inl next
  · exact .inr next

/-- The shell keeps heading for states that are ready. -/
theorem Shell.heads
    (shell : party.Shell env party')
    (acquired : env.lockAcquired = true)
    (heads : party.Heads ready) :
    party'.Heads ready := by
  have readsNext : party.getNextFSMState env = party.nextState := by
    simp [DataDump.getNextFSMState, acquired]
  have readsCurrent : party.getCurrentFSMState env = party.currentState := by
    simp [DataDump.getCurrentFSMState, acquired]
  cases shell with
  | leave here =>
      simpa [Heads, here, DataDump.setNextFSMState, acquired] using heads
  | dispatch here dispatches =>
      simp only [Heads, here] at heads
      cases dispatches with
      | readNext =>
          rw [readsNext]
          exact ⟨heads, heads, .inl rfl⟩
      | changed => exact heads.2.1
      | unchanged same =>
          rw [readsCurrent] at same
          rw [same] at heads
          exact ⟨heads.1, heads.2.2⟩
      | reloadNext =>
          rw [readsNext]
          exact ⟨heads, .inl rfl⟩
      | storeCurrent =>
          simpa [Heads, Point.ofDispatch, DataDump.setCurrentFSMState,
            acquired] using heads
      | busy => exact heads
      | resting => exact heads
      | select =>
          rw [readsCurrent]
          exact heads

/-- The shell enters the current state. -/
theorem Shell.entered
    (shell : party.Shell env party')
    (acquired : env.lockAcquired = true)
    (inside : party'.point.Inside) :
    party'.point = .enter party'.currentState := by
  cases shell with
  | leave => simp [Point.Inside] at inside
  | dispatch here dispatches =>
      cases dispatches with
      | select =>
          simp [Point.ofDispatch, DataDump.getCurrentFSMState, acquired]
      | _ => simp [Point.Inside, Point.ofDispatch] at inside

/-- The application may store a state that is ready anyway. -/
theorem Heads.store
    (heads : party.Heads ready)
    {state : FsmState}
    (requested : state = .idle ∨ state = .request)
    (isReady : ready state) :
    ({ party with nextState := state } : Party Body).Heads ready := by
  unfold Heads at heads ⊢
  split <;> simp_all [Settled]

end Strict

end Party

end DataDumpProtocol

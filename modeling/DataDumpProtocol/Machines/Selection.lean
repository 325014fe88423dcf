import DataDumpProtocol.Machines.Exchanges

/-!
# State transitions and their locks

A state is selected by a body, which passes it to its last `setNextFSMState`,
or by a call of the application.  The accessors try their locks for one
millisecond: a store that times out is dropped, and a read that times out gives
`TERMINATE`.  Where that makes no difference, every body is that of the state
that was selected.
-/

namespace DataDumpProtocol

/-- What was selected, whether or not it was stored. -/
structure Selection where
  /-- The state that was selected last. -/
  selected : FsmState := .idle
  /-- The state that was selected last when `FSMLoop` last read the next
  state. -/
  due : FsmState := .idle
  deriving DecidableEq

namespace Selection

/-- Enter a step of `FSMLoop`, by the program point before it. -/
def atPoint {Body : Type} (selection : Selection) : Point Body → Selection
  | .leave target => { selection with selected := target }
  | .top .readNext | .top .reloadNext =>
      { selection with due := selection.selected }
  | _ => selection

@[simp] theorem atPoint_enter
    {Body : Type}
    (selection : Selection)
    (state : FsmState) :
    selection.atPoint (.enter state : Point Body) = selection := rfl

@[simp] theorem atPoint_body
    {Body : Type}
    (selection : Selection)
    (body : Body) :
    selection.atPoint (.body body) = selection := rfl

end Selection

namespace Party

variable {Body : Type}

/-- It makes no difference that the lock attempt of the next step of `FSMLoop`
times out. -/
def Tolerates (party : Party Body) (selection : Selection) : Prop :=
  match party.point with
  | .leave target => party.nextState = target
  | .top .readNext =>
      party.nextState = .terminate ∨ party.currentState ≠ .terminate
  | .top (.readCurrent next) =>
      next = .terminate → party.currentState = selection.due
  | .top .reloadNext => party.nextState = .terminate
  | .top (.storeCurrent next) => party.currentState = next
  | .top .select => party.currentState = .terminate
  | .top .updateStatus | .enter _ | .body _ => True

instance (party : Party Body) (selection : Selection) :
    Decidable (party.Tolerates selection) :=
  match here : party.point with
  | .leave target =>
      decidable_of_iff (party.nextState = target) (by simp [Tolerates, here])
  | .top .readNext =>
      decidable_of_iff
        (party.nextState = .terminate ∨ party.currentState ≠ .terminate)
        (by simp [Tolerates, here])
  | .top (.readCurrent next) =>
      decidable_of_iff
        (next = .terminate → party.currentState = selection.due)
        (by simp [Tolerates, here])
  | .top .reloadNext =>
      decidable_of_iff (party.nextState = .terminate)
        (by simp [Tolerates, here])
  | .top (.storeCurrent next) =>
      decidable_of_iff (party.currentState = next) (by simp [Tolerates, here])
  | .top .select =>
      decidable_of_iff (party.currentState = .terminate)
        (by simp [Tolerates, here])
  | .top .updateStatus | .enter _ | .body _ =>
      .isTrue (by simp [Tolerates, here])

/-- What `FSMLoop` carries from one step to the next leads to the state that is
due. -/
def Passes (party : Party Body) (due : FsmState) : Prop :=
  match party.point with
  | .top (.readCurrent next) =>
      next = due ∨ next = .terminate ∧ party.currentState ≠ .terminate
  | .top (.storeCurrent next) => next = due
  | .top .updateStatus | .top .select => party.currentState = due
  | .enter state => state = due
  | .top .readNext | .top .reloadNext | .body _ | .leave _ => True

/-- The selected state is stored, and `FSMLoop` passes on what it reads. -/
structure Obeys (party : Party Body) (selection : Selection) : Prop where
  stored : party.nextState = selection.selected
  passes : party.Passes selection.due

/-- Behind the end of a transfer, the thread rests in these states, and waits in
these bodies. -/
def Rests
    (calm : FsmState → Prop)
    (waits : Body → Prop)
    (party : Party Body)
    (selection : Selection) : Prop :=
  match party.point with
  | .leave target => calm target
  | .top .readNext | .top .reloadNext => calm selection.selected
  | .top _ | .enter _ => calm selection.selected ∧ calm selection.due
  | .body body => waits body

section Selection

variable {party party' : Party Body} {env : Environment}
variable {selection : Selection}
variable {calm : FsmState → Prop} {waits : Body → Prop}

theorem Obeys.due_of_enter
    {state : FsmState}
    (obeys : party.Obeys selection)
    (here : party.point = .enter state) :
    state = selection.due := by
  have passes := obeys.passes
  simpa only [Passes, here] using passes

theorem rests_of_enter
    {state : FsmState}
    (here : party.point = .enter state) :
    party.Rests calm waits selection ↔
      calm selection.selected ∧ calm selection.due := by
  simp only [Rests, here]

theorem rests_of_body
    {body : Body}
    (here : party.point = .body body) :
    party.Rests calm waits selection ↔ waits body := by
  simp only [Rests, here]

/-- The shell obeys where every lock is acquired or makes no difference. -/
theorem Shell.obeys
    (shell : party.Shell env party')
    (obeys : party.Obeys selection)
    (survives : env.lockAcquired = true ∨ party.Tolerates selection) :
    party'.Obeys (selection.atPoint party.point) := by
  obtain ⟨stored, passes⟩ := obeys
  cases shell with
  | @leave target here =>
      simp only [Tolerates, Selection.atPoint, here] at survives ⊢
      refine ⟨?_, trivial⟩
      rcases party.setNextFSMState_cases target env with set | dropped
      · rw [set]
      · rw [dropped]
        rcases survives with acquired | same
        · rw [← dropped, party.setNextFSMState_of_acquired _ acquired]
        · exact same
  | dispatch here dispatches =>
      simp only [Tolerates, Passes, Selection.atPoint, here]
        at survives passes ⊢
      cases dispatches with
      | readNext =>
          refine ⟨stored, ?_⟩
          rcases party.getNextFSMState_cases env with read | failed
          · exact .inl (read.trans stored)
          · rcases survives with acquired | last | other
            · have read : party.getNextFSMState env = party.nextState :=
                if_pos acquired
              exact .inl (read.trans stored)
            · exact .inl (failed.trans (last.symm.trans stored))
            · exact .inr ⟨failed, other⟩
      | changed => exact ⟨stored, trivial⟩
      | @unchanged next same =>
          refine ⟨stored, ?_⟩
          rcases survives with acquired | last
          · have read : party.getCurrentFSMState env = party.currentState :=
              if_pos acquired
            rw [same, read] at passes
            exact passes.resolve_right fun impossible =>
              impossible.2 impossible.1
          · rcases party.getCurrentFSMState_cases env with read | failed
            · rw [same, read] at passes
              exact passes.resolve_right fun impossible =>
                impossible.2 impossible.1
            · exact last (same.trans failed)
      | reloadNext =>
          refine ⟨stored, ?_⟩
          rcases party.getNextFSMState_cases env with read | failed
          · exact read.trans stored
          · rcases survives with acquired | last
            · have read : party.getNextFSMState env = party.nextState :=
                if_pos acquired
              exact read.trans stored
            · exact failed.trans (last.symm.trans stored)
      | @storeCurrent next =>
          rcases survives with acquired | same
          · simp only [DataDump.setCurrentFSMState, acquired, if_true]
            exact ⟨stored, passes⟩
          · unfold DataDump.setCurrentFSMState
            split
            next => exact ⟨stored, passes⟩
            next => exact ⟨stored, same.trans passes⟩
      | busy | resting => exact ⟨stored, passes⟩
      | select =>
          refine ⟨stored, ?_⟩
          rcases party.getCurrentFSMState_cases env with read | failed
          · exact read.trans passes
          · rcases survives with acquired | last
            · have read : party.getCurrentFSMState env = party.currentState :=
                if_pos acquired
              exact read.trans passes
            · exact failed.trans (last.symm.trans passes)

/-- The shell passes a state on in which the thread rests. -/
theorem Shell.rests
    (shell : party.Shell env party')
    (resting : party.Rests calm waits selection) :
    party'.Rests calm waits (selection.atPoint party.point) := by
  cases shell with
  | leave here => simpa only [Rests, Selection.atPoint, here] using resting
  | dispatch here dispatches =>
      simp only [Rests, Selection.atPoint, here] at resting ⊢
      cases dispatches with
      | readNext | reloadNext => exact ⟨resting, resting⟩
      | changed => exact resting.1
      | unchanged | storeCurrent | busy | resting | select => exact resting

/-- A body leaves the next state to its last `setNextFSMState`. -/
theorem Obeys.inside
    (obeys : party.Obeys selection)
    (next : party'.nextState = party.nextState)
    (passes : party'.Passes selection.due) :
    party'.Obeys selection :=
  ⟨next.trans obeys.stored, passes⟩

/-- The application selects a state that is stored. -/
theorem Obeys.store
    {state : FsmState}
    (obeys : party.Obeys selection) :
    ({ party with nextState := state } : Party Body).Obeys
      { selection with selected := state } :=
  ⟨rfl, obeys.passes⟩

/-- The application selects a state in which the thread rests. -/
theorem Rests.select
    {state next : FsmState}
    (resting : party.Rests calm waits selection)
    (quiet : calm state) :
    ({ party with nextState := next } : Party Body).Rests calm waits
      { selection with selected := state } := by
  unfold Rests at resting ⊢
  split <;> simp_all

end Selection

end Party

/-- A call of the application that starts a transfer has returned true. -/
def Event.isStarted : Event → Bool
  | .transferStarted _ _ | .serverStarted => true
  | _ => false

theorem Event.isCall_of_isStarted
    {event : Event}
    (started : event.isStarted = true) :
    event.isCall = true := by
  cases event <;> first | rfl | simp [isStarted] at started

/-- `FSMLoop` shows the body of the state that is due, and no call. -/
theorem Party.Obeys.observed
    {Body : Type}
    {party : Party Body}
    {selection : Selection}
    {events : List Event}
    {source : Option Pointer}
    {stored : Prop}
    (obeys : party.Obeys selection)
    (begins : BeginsAt party.point source events)
    (not_call : ∀ event ∈ events, event.isCall = false) :
    (∀ state buffer, .body state buffer ∈ events → state = selection.due) ∧
      ∀ event ∈ events, event.isStarted = true → stored := by
  constructor
  · intro state buffer present
    have here := begins.enter_of_mem present
    exact obeys.due_of_enter here
  · intro event present started
    have called := not_call event present
    simp [Event.isCall_of_isStarted started] at called

/-! ## `TERMINATE` once for each transfer -/

/-- Enter whether `TERMINATE` has run since a transfer was started. -/
def noteTerminated (starts : Event → Bool) (ended : Bool) : Event → Bool
  | .body .terminate _ => true
  | event => ended && !starts event

/-- `TERMINATE` has run since the last of the events that start a transfer. -/
def terminated (starts : Event → Bool) (trace : List Event) : Bool :=
  trace.foldl (noteTerminated starts) false

/-- `TERMINATE` runs once for each transfer at most. -/
def TerminatesOnce (starts : Event → Bool) : List Event → Event → Prop :=
  fun before event => ∀ buffer,
    event = .body .terminate buffer → terminated starts before = false

/-- Other events than the start of a body are not concerned. -/
theorem terminatesOnce_of_other
    {starts : Event → Bool}
    (before : List Event)
    {event : Event}
    (other : event.isBody = false) :
    TerminatesOnce starts before event := by
  rintro buffer rfl
  simp [Event.isBody] at other

theorem terminated_append
    {starts : Event → Bool}
    {before after : List Event}
    (elsewhere : ∀ buffer, .body .terminate buffer ∉ after)
    (ended : terminated starts (before ++ after) = true) :
    terminated starts before = true ∧
      ∀ event ∈ after, starts event = false := by
  induction after using List.reverseRecOn with
  | nil => simpa using ended
  | append_singleton after event inductionHypothesis =>
      have other : ∀ buffer, event ≠ .body .terminate buffer := by
        rintro buffer rfl
        exact elsewhere buffer (by simp)
      rw [terminated, ← List.append_assoc, List.foldl_concat] at ended
      have both : terminated starts (before ++ after) = true ∧
          starts event = false := by
        cases event with
        | body state buffer =>
            cases state <;> simp_all [noteTerminated, terminated]
        | _ => simpa [noteTerminated, terminated] using ended
      obtain ⟨earlier, none⟩ := inductionHypothesis
        (fun buffer present => elsewhere buffer (by simp [present])) both.1
      refine ⟨earlier, fun event' present => ?_⟩
      rcases List.mem_append.mp present with old | new
      · exact none event' old
      · rw [List.mem_singleton.mp new]
        exact both.2

namespace DataDump

/-- A store that makes no difference when it is dropped. -/
theorem setNextFSMState_of_survives
    {dump : DataDump}
    {state : FsmState}
    {env : Environment}
    (survives : env.lockAcquired = true ∨ dump.nextState = state) :
    dump.setNextFSMState state env = { dump with nextState := state } := by
  rcases survives with acquired | rfl
  · exact dump.setNextFSMState_of_acquired _ acquired
  · rcases dump.setNextFSMState_cases dump.nextState env with set | dropped
    · exact set
    · exact dropped

end DataDump

end DataDumpProtocol

import DataDumpProtocol.Machines.Control

/-!
# Departing from `BLOCK`

A `BLOCK` body that gives up stores `TERMINATE`.  The thread gets there unless
one of few lock attempts on the way times out: the one that stores `TERMINATE`,
the one that compares it with the current state, and the one that makes it the
current state.  A party that departs is on this way.
-/

namespace DataDumpProtocol

open FsmState

namespace Point

variable {Body : Type}

/-- The thread is about to try a lock without which it would stay in the state
that it departs from.  `ended` says that the next state is one of those that
it departs to. -/
def NeedsLock (ended : Prop) : Point Body → Prop
  | .leave target => target = .terminate ∧ ¬ended
  | .top (.readCurrent next) => next = .terminate
  | .top (.storeCurrent _) => True
  | _ => False

instance (ended : Prop) [Decidable ended] :
    (point : Point Body) → Decidable (point.NeedsLock ended)
  | .leave _ => inferInstanceAs (Decidable (_ ∧ _))
  | .top (.readCurrent _) => inferInstanceAs (Decidable (_ = _))
  | .top (.storeCurrent _) => inferInstanceAs (Decidable True)
  | .top .readNext | .top .reloadNext | .top .updateStatus | .top .select
  | .enter _ | .body _ => inferInstanceAs (Decidable False)

end Point

namespace Party

variable {Body : Type}

/-- A lock that times out now may lead the thread back to `BLOCK`. -/
def MayReturn (ends : FsmState → Prop) (party : Party Body) : Prop :=
  party.currentState = .block ∧
    party.point.NeedsLock (ends party.nextState)

instance (ends : FsmState → Prop) [DecidablePred ends] (party : Party Body) :
    Decidable (party.MayReturn ends) :=
  inferInstanceAs (Decidable (_ ∧ _))

/-- The thread is in one of these program points of `BLOCK`, or on its way from
there to a state that ends the transfer. -/
def Departing
    (ends : FsmState → Prop)
    (stalls : Body → Prop)
    (party : Party Body) : Prop :=
  match party.point with
  | .body body => stalls body
  | .leave target => target = .terminate ∧ party.currentState = .block
  | .top .readNext | .top .reloadNext =>
      ends party.nextState ∧ party.currentState = .block
  | .top (.readCurrent next) | .top (.storeCurrent next) =>
      ends next ∧ ends party.nextState ∧ party.currentState = .block
  | .top .updateStatus | .top .select => ends party.currentState
  | .enter state => ends state

section Departing

variable {party party' : Party Body} {env : Environment}
variable {ends : FsmState → Prop} {stalls : Body → Prop}

theorem departing_of_body
    {body : Body}
    (here : party.point = .body body) :
    party.Departing ends stalls ↔ stalls body := by
  simp only [Departing, here]

theorem departing_of_leave
    {target : FsmState}
    (here : party.point = .leave target) :
    party.Departing ends stalls ↔
      target = .terminate ∧ party.currentState = .block := by
  simp only [Departing, here]

theorem departing_of_enter
    {state : FsmState}
    (here : party.point = .enter state) :
    party.Departing ends stalls ↔ ends state := by
  simp only [Departing, here]

variable (terminates : ends .terminate)

include terminates

theorem ends_getNextFSMState
    (ended : ends party.nextState)
    (env : Environment) :
    ends (party.getNextFSMState env) := by
  rcases party.getNextFSMState_cases env with read | failed
  · rwa [read]
  · rwa [failed]

theorem ends_getCurrentFSMState
    (ended : ends party.currentState)
    (env : Environment) :
    ends (party.getCurrentFSMState env) := by
  rcases party.getCurrentFSMState_cases env with read | failed
  · rwa [read]
  · rwa [failed]

/-- The shell keeps a party departing when no lock times out that it needs. -/
theorem Shell.departing
    (shell : party.Shell env party')
    (departing : party.Departing ends stalls)
    (stays : ¬ends .block)
    (acquires : party.MayReturn ends → env.lockAcquired = true) :
    party'.Departing ends stalls := by
  cases shell with
  | @leave target here =>
      obtain ⟨rfl, current⟩ := (departing_of_leave here).mp departing
      by_cases ended : ends party.nextState
      · rcases party.setNextFSMState_cases .terminate env with stored | dropped
        · rw [stored]
          exact ⟨terminates, current⟩
        · rw [dropped]
          exact ⟨ended, current⟩
      · have acquired := acquires ⟨current, by rw [here]; exact ⟨rfl, ended⟩⟩
        rw [party.setNextFSMState_of_acquired _ acquired]
        exact ⟨terminates, current⟩
  | dispatch here dispatches =>
      simp only [Departing, here] at departing
      cases dispatches with
      | readNext =>
          exact ⟨ends_getNextFSMState terminates departing.1 env, departing⟩
      | changed => exact departing.2
      | @unchanged next same =>
          obtain ⟨ended, -, current⟩ := departing
          rcases party.getCurrentFSMState_cases env with read | failed
          · rw [same, read, current] at ended
            exact absurd ended stays
          · have last : next = .terminate := same.trans failed
            have acquired := acquires ⟨current, by rw [here]; exact last⟩
            rw [same, DataDump.getCurrentFSMState, if_pos acquired, current]
              at last
            simp at last
      | reloadNext =>
          exact ⟨ends_getNextFSMState terminates departing.1 env, departing⟩
      | @storeCurrent next =>
          obtain ⟨ended, -, current⟩ := departing
          have acquired := acquires ⟨current, by rw [here]; trivial⟩
          simpa [DataDump.setCurrentFSMState, acquired, Point.ofDispatch,
            Departing] using ended
      | busy | resting => exact departing
      | select => exact ends_getCurrentFSMState terminates departing env

omit terminates in
/-- The application may store a state that ends the transfer, too. -/
theorem Departing.store
    {state : FsmState}
    (departing : party.Departing ends stalls)
    (ended : ends state) :
    ({ party with nextState := state } : Party Body).Departing ends stalls := by
  unfold Departing at departing ⊢
  split <;> simp_all

end Departing

end Party

end DataDumpProtocol

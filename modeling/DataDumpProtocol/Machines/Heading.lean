import DataDumpProtocol.Machines.ClientMoves
import DataDumpProtocol.Machines.ServerMoves

/-!
# Where `FSMLoop` is heading

When every lock is acquired, the part of `FSMLoop` before the state bodies only
passes on the state that was stored.  The state that a thread is in, or will
enter next, is then a function of the party, and changes in the bodies alone.
-/

namespace DataDumpProtocol

namespace Party

variable {Body : Type}

/-- The state whose body runs or will run next. -/
def heading (party : Party Body) : FsmState :=
  match party.point with
  | .top .readNext | .top .reloadNext => party.nextState
  | .top (.readCurrent next) =>
      if next ≠ party.currentState then party.nextState else next
  | .top (.storeCurrent next) => next
  | .top .updateStatus | .top .select | .body _ => party.currentState
  | .enter state | .leave state => state

section Heading

variable {party party' : Party Body} {env : Environment}

/-- The shell passes on the state that was stored. -/
theorem Shell.heading_eq
    (shell : party.Shell env party')
    (acquired : env.lockAcquired = true) :
    party'.heading = party.heading := by
  have readsNext : party.getNextFSMState env = party.nextState := by
    simp [DataDump.getNextFSMState, acquired]
  have readsCurrent : party.getCurrentFSMState env = party.currentState := by
    simp [DataDump.getCurrentFSMState, acquired]
  cases shell with
  | leave here => simp [heading, here, DataDump.setNextFSMState, acquired]
  | dispatch here dispatches =>
      cases dispatches with
      | readNext =>
          simp only [heading, here, Point.ofDispatch, readsNext]
          split <;> rfl
      | changed different =>
          rw [readsCurrent] at different
          simp [heading, here, Point.ofDispatch, different]
      | unchanged same =>
          rw [readsCurrent] at same
          simp [heading, here, Point.ofDispatch, same]
      | reloadNext => simp [heading, here, Point.ofDispatch, readsNext]
      | storeCurrent =>
          simp [heading, here, Point.ofDispatch, DataDump.setCurrentFSMState,
            acquired]
      | busy | resting => simp [heading, here, Point.ofDispatch]
      | select => simp [heading, here, Point.ofDispatch, readsCurrent]

/-- The body that the thread is inside, or else the state that it is heading
for. -/
def site (party : Party Body) : FsmState ⊕ Body :=
  match party.point with
  | .body body => .inr body
  | _ => .inl party.heading

theorem site_of_body {body : Body} (here : party.point = .body body) :
    party.site = .inr body := by
  simp [site, here]

theorem site_of_outside (outside : ∀ body, party.point ≠ .body body) :
    party.site = .inl party.heading := by
  unfold site
  split
  next body here => exact absurd here (outside body)
  next => rfl

theorem site_of_enter
    {state : FsmState}
    (here : party.point = .enter state) :
    party.site = .inl state := by
  simp [site, heading, here]

theorem site_of_leave
    {state : FsmState}
    (here : party.point = .leave state) :
    party.site = .inl state := by
  simp [site, heading, here]

/-- The shell passes on where the thread is. -/
theorem Shell.site_eq
    (shell : party.Shell env party')
    (acquired : env.lockAcquired = true) :
    party'.site = party.site := by
  rw [site_of_outside shell.outside, site_of_outside shell.point_ne_body,
    shell.heading_eq acquired]

/-- The shell stores nothing but what a body left. -/
theorem Shell.nextState_eq
    {state : FsmState}
    (shell : party.Shell env party')
    (acquired : env.lockAcquired = true)
    (site : party.site = .inl state)
    (leaves : party.point = .leave state ∨ party.nextState = state) :
    party'.nextState = state := by
  cases shell with
  | leave here =>
      rw [site_of_leave here, Sum.inl.injEq] at site
      simpa [DataDump.setNextFSMState, acquired] using site
  | dispatch here dispatches =>
      have stored : party.nextState = state :=
        leaves.resolve_left (by simp [here])
      cases dispatches with
      | storeCurrent =>
          simpa [DataDump.setCurrentFSMState, acquired] using stored
      | _ => exact stored

/-- The application can only turn a thread to the state that it stores. -/
theorem heading_store (party : Party Body) (next : FsmState) :
    ({ party with nextState := next } : Party Body).heading = party.heading ∨
      ({ party with nextState := next } : Party Body).heading = next := by
  obtain ⟨dump, point⟩ := party
  rcases point with (_ | read | _ | stored | _ | _) | state | body | state
  case top.readCurrent =>
    simp only [heading]
    split
    next => exact .inr rfl
    next => exact .inl rfl
  case top.readNext | top.reloadNext => exact .inr rfl
  all_goals exact .inl rfl

/-- The application turns a thread to what it stores, or leaves it where it
is. -/
theorem site_store (party : Party Body) (next : FsmState) :
    ({ party with nextState := next } : Party Body).site = party.site ∨
      ({ party with nextState := next } : Party Body).site = .inl next := by
  by_cases inside : ∃ body, party.point = .body body
  · obtain ⟨body, here⟩ := inside
    left
    rw [site_of_body here]
    exact site_of_body here
  · have outside : ∀ body, party.point ≠ .body body :=
      fun body here => inside ⟨body, here⟩
    have site : ({ party with nextState := next } : Party Body).site = .inl _ :=
      site_of_outside outside
    rw [site, site_of_outside outside]
    exact (heading_store party next).imp (congrArg _) (congrArg _)

/-- The thread may still act on the state it is heading for. -/
theorem holds_heading (party : Party Body) : party.Holds party.heading := by
  unfold heading Holds
  split
  all_goals try split
  all_goals simp_all

/-- The application has stored nothing but `IDLE` or `REQUEST` since the thread
read its state. -/
def Patient (party : Party Body) : Prop :=
  party.Heads fun _ => True

/-- Behind the `IDLE` body, a thread heads for `IDLE` or `REQUEST`. -/
theorem Patient.next_of_idle
    (patient : party.Patient)
    (here : party.point = .enter .idle) :
    party.nextState = .idle ∨ party.nextState = .request :=
  Heads.next_of_idle patient here

end Heading

end Party

theorem DDClient.Moves.patient
    {client client' : DDClient}
    {env : Environment}
    {events : List Event}
    (moves : client.Moves env client' events)
    (acquired : env.lockAcquired = true)
    (patient : client.Patient) :
    client'.Patient := by
  cases moves with
  | shell shell => exact shell.heads acquired patient
  | idle => trivial
  | retry => exact patient
  | _ => trivial

theorem DDClient.Calls.patient
    {client client' : DDClient}
    {buffer : Option Pointer}
    {size : Nat}
    {events : List Event}
    (calls : client.Calls buffer size client' events)
    (patient : client.Patient) :
    client'.Patient := by
  cases calls with
  | refused => exact patient
  | started _ _ _ allowed =>
      rcases allowed with rfl | rfl
      · exact patient
      · exact Party.Heads.store patient (.inr rfl) trivial

theorem DDServer.Moves.patient
    {server server' : DDServer}
    {env : Environment}
    {events : List Event}
    (moves : server.Moves env server' events)
    (acquired : env.lockAcquired = true)
    (patient : server.toParty.Patient) :
    server'.toParty.Patient := by
  cases moves with
  | shell shell => exact shell.heads acquired patient
  | idle => trivial
  | retry => exact patient
  | _ => trivial

theorem DDServer.Calls.patient
    {server server' : DDServer}
    {events : List Event}
    (calls : server.Calls server' events)
    (patient : server.toParty.Patient) :
    server'.toParty.Patient := by
  obtain ⟨allowed, -⟩ := calls
  rcases allowed with rfl | rfl | ⟨rfl, -⟩
  · exact patient
  · exact patient.store (.inl rfl) trivial
  · exact patient.store (.inr rfl) trivial

end DataDumpProtocol

import DataDumpProtocol.Machines.Heading
import DataDumpProtocol.Network.Model

/-!
# When a party can be reached

The application reaches a party that is not busy: its thread is then in front
of the state bodies, and heads for `IDLE` or `REQUEST`.  The other side reaches
a party in the loops that poll: elsewhere no step depends on the frame that
waits.
-/

namespace DataDumpProtocol

namespace Party

variable {Body : Type} {party party' : Party Body} {env : Environment}

/-- A thread that is not busy has nothing left to store, and heads for `IDLE`
or `REQUEST`. -/
def Available (party : Party Body) : Prop :=
  party.isBusy = false →
    (∀ state, party.point ≠ .leave state) ∧
      (party.site = .inl .idle ∨ party.site = .inl .request)

theorem Shell.available
    (shell : party.Shell env party')
    (acquired : env.lockAcquired = true)
    (available : party.Available) :
    party'.Available := by
  intro resting'
  have resting : party.isBusy = false := by
    obtain ⟨_, _, _, _, rfl, kept⟩ := shell.unchanged
    cases busy : party.isBusy with
    | false => rfl
    | true => exact absurd ((kept busy).symm.trans resting') (by simp)
  refine ⟨fun state => ?_, ?_⟩
  · cases shell with
    | leave => simp
    | dispatch _ dispatches => cases dispatches <;> simp [Point.ofDispatch]
  · rw [shell.site_eq acquired]
    exact (available resting).2

theorem Available.store
    (available : party.Available)
    {next : FsmState}
    (requested : next = .idle ∨ next = .request) :
    ({ party with nextState := next } : Party Body).Available := by
  intro resting
  obtain ⟨front, site⟩ := available resting
  refine ⟨front, ?_⟩
  rcases site_store party next with same | stored
  · rwa [same]
  · rw [stored]
    exact requested.imp (congrArg _) (congrArg _)

/-- A thread that runs a body of another state than `IDLE` is busy. -/
theorem Paced.busy_of_body
    {stateOf : Body → FsmState}
    {free : FsmState → Prop}
    {body : Body}
    (paced : party.Paced stateOf free)
    (here : party.point = .body body)
    (active : stateOf body ≠ .idle) :
    party.isBusy = true := by
  have inside := paced.inside body here
  have running := paced.running (by rw [here]; trivial)
  rw [← inside] at running
  exact running.resolve_left active

theorem Paced.busy_of_enter
    {stateOf : Body → FsmState}
    {free : FsmState → Prop}
    {state : FsmState}
    (paced : party.Paced stateOf free)
    (here : party.point = .enter state)
    (active : state ≠ .idle)
    (further : state ≠ .terminate) :
    party.isBusy = true := by
  have entered := paced.current_of_enter here further
  have running := paced.running (by rw [here]; trivial)
  rw [← entered] at running
  exact running.resolve_left active

end Party

namespace ClientBody

/-- The loop polls for a frame. -/
def listens : ClientBody → Bool
  | .responseReceive _ | .blockReceive _ => true
  | _ => false

end ClientBody

namespace DDClient

variable {parameters : Parameters} {client client' : DDClient}
variable {env : Environment} {events : List Event}

theorem Moves.available
    (moves : client.Moves env client' events)
    (sound : client.Sound parameters)
    (acquired : env.lockAcquired = true)
    (patient : client.Patient)
    (available : client.Available) :
    client'.Available := by
  intro resting
  have inside {body : ClientBody} (here : client.point = .body body) :
      client.isBusy = true :=
    sound.busy_of_inside here
  cases moves with
  | shell shell => exact shell.available acquired available resting
  | idle here =>
      refine ⟨by simp, ?_⟩
      rw [Party.site_of_outside (by simp)]
      simpa [Party.heading] using patient.next_of_idle here
  | retry => exact available resting
  | beginRequest here | noTimer here =>
      have busy := sound.paced.busy_of_enter here (by simp) (by simp)
      exact absurd (busy.symm.trans resting) (by simp)
  | awaitResponse here | beginInitiate here | refuse here | awaitBlock here
  | terminate here =>
      have site := (available resting).2
      simp [Party.site_of_enter here] at site
  | requestSent here | acceptResponse here | initiateSent here
  | storeMore here | storeLast here | missBlock here | refuseBlock here
  | continueBlock here | ackSent here | ackNotSent here | poll here
  | pollBlock here | giveUp here =>
      exact absurd ((inside here).symm.trans resting) (by simp)

/-- Only the loops that poll hear anything. -/
theorem fsmStep_hearing
    (incoming : List Byte)
    (deaf : ∀ body, client.point = .body body → body.listens = false) :
    client.fsmStep (env.hearing incoming) = client.fsmStep env := by
  unfold fsmStep
  split
  next at_ _ => cases at_ <;> rfl
  next state _ => cases state <;> rfl
  next body here =>
      have deaf := deaf body here
      cases body with
      | responseReceive | blockReceive => simp [ClientBody.listens] at deaf
      | _ => rfl
  next => rfl

theorem Moves.listens_of_polled
    (moves : client.Moves env client' events)
    (polled : .polled ∈ events) :
    ∃ body, client.point = .body body ∧ body.listens = true := by
  cases moves with
  | acceptResponse here | storeMore here | storeLast here | missBlock here
  | refuseBlock here | poll here | pollBlock here =>
      exact ⟨_, here, rfl⟩
  | retry here unsent =>
      obtain ⟨frame, impossible⟩ := unsent _ polled
      simp at impossible
  | giveUp here givesUp =>
      cases givesUp with
      | unsent unsent =>
          obtain ⟨frame, impossible⟩ := unsent _ polled
          simp at impossible
      | unheard => exact ⟨_, here, rfl⟩
  | _ => simp at polled

/-- A step notifies the application at most once. -/
theorem Moves.notified_once
    (moves : client.Moves env client' events)
    (status : Bool) :
    events.count (.notified status) ≤ 1 := by
  have never (absent : .notified status ∉ events) :
      events.count (.notified status) ≤ 1 := by
    rw [List.count_eq_zero.mpr absent]
    exact Nat.zero_le 1
  cases moves with
  | terminate =>
      rw [List.count_cons_of_ne (by simp), DataDump.notification]
      split
      next => exact List.count_le_length
      next => exact Nat.zero_le 1
  | retry here unsent =>
      apply never
      intro notified
      obtain ⟨frame, impossible⟩ := unsent _ notified
      simp at impossible
  | giveUp here givesUp =>
      apply never
      intro notified
      rcases givesUp.mem notified with impossible | ⟨frame, impossible⟩ <;>
        simp at impossible
  | _ => exact never (by simp)

end DDClient

namespace ServerBody

/-- The loop polls for a frame. -/
def listens : ServerBody → Bool
  | .requestReceive _ | .initiateReceive _ | .ackReceive _ => true
  | _ => false

end ServerBody

namespace DDServer

variable {parameters : Parameters} {server server' : DDServer}
variable {env : Environment} {events : List Event}

theorem Moves.available
    (moves : server.Moves env server' events)
    (sound : server.Sound parameters)
    (acquired : env.lockAcquired = true)
    (patient : server.toParty.Patient)
    (available : server.toParty.Available) :
    server'.toParty.Available := by
  intro resting
  have inside {body : ServerBody} (here : server.point = .body body) :
      server.isBusy = true :=
    sound.paced.busy_of_body here (by cases body <;> simp [ServerBody.state])
  cases moves with
  | shell shell => exact shell.available acquired available resting
  | idle here =>
      refine ⟨by simp, ?_⟩
      rw [Party.site_of_outside (by simp)]
      simpa [Party.heading] using patient.next_of_idle here
  | retry => exact available resting
  | awaitRequest here =>
      have busy := sound.paced.busy_of_enter here (by simp) (by simp)
      exact absurd (busy.symm.trans resting) (by simp)
  | readStorage here | readNothing here | noStorage here | awaitInitiate here
  | fillBlock here | terminate here =>
      have site := (available resting).2
      simp [Party.site_of_enter here] at site
  | acceptRequest here | responseSent here | acceptInitiate here
  | blockSent here | lastBlockSent here | continueBlock here | erase here
  | eraseElse here | poll here | giveUp here =>
      exact absurd ((inside here).symm.trans resting) (by simp)

/-- Only the loops that poll hear anything. -/
theorem fsmStep_hearing
    (incoming : List Byte)
    (deaf : ∀ body, server.point = .body body → body.listens = false) :
    server.fsmStep (env.hearing incoming) = server.fsmStep env := by
  unfold fsmStep
  split
  next at_ _ => cases at_ <;> rfl
  next state _ => cases state <;> rfl
  next body here =>
      have deaf := deaf body here
      cases body with
      | requestReceive | initiateReceive | ackReceive =>
          simp [ServerBody.listens] at deaf
      | _ => rfl
  next => rfl

theorem Moves.listens_of_polled
    (moves : server.Moves env server' events)
    (polled : .polled ∈ events) :
    ∃ body, server.point = .body body ∧ body.listens = true := by
  cases moves with
  | acceptRequest here | acceptInitiate here | erase here | eraseElse here =>
      exact ⟨_, here, rfl⟩
  | poll here polls => exact ⟨_, here, by cases polls <;> rfl⟩
  | retry here unsent =>
      obtain ⟨frame, impossible⟩ := unsent _ polled
      simp at impossible
  | giveUp here givesUp =>
      cases givesUp with
      | unsent unsent =>
          obtain ⟨frame, impossible⟩ := unsent _ polled
          simp at impossible
      | unheard polls => exact ⟨_, here, by cases polls <;> rfl⟩
      | declined | disputed => exact ⟨_, here, rfl⟩
  | _ => simp at polled

/-- A step notifies the application at most once. -/
theorem Moves.notified_once
    (moves : server.Moves env server' events)
    (status : Bool) :
    events.count (.notified status) ≤ 1 := by
  have never (absent : .notified status ∉ events) :
      events.count (.notified status) ≤ 1 := by
    rw [List.count_eq_zero.mpr absent]
    exact Nat.zero_le 1
  cases moves with
  | terminate =>
      rw [List.count_cons_of_ne (by simp), DataDump.notification]
      split
      next => exact List.count_le_length
      next => exact Nat.zero_le 1
  | retry here unsent =>
      apply never
      intro notified
      obtain ⟨frame, impossible⟩ := unsent _ notified
      simp at impossible
  | giveUp here givesUp =>
      apply never
      intro notified
      rcases givesUp.mem notified with impossible | ⟨frame, impossible⟩ |
        impossible <;> simp at impossible
  | _ => exact never (by simp)

end DDServer

end DataDumpProtocol

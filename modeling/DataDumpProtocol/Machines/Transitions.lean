import DataDumpProtocol.Machines.Selection

/-!
# State transitions survive

The bodies of client and server are those of the states that were selected, in
every run whose lock attempts are acquired or make no difference when they time
out.  `TERMINATE` then runs once for each transfer, and what the application
asks for is stored.
-/

namespace DataDumpProtocol

/-! ## The client -/

namespace DDClient

/-- Enter what an action selects. -/
def select
    (selection : Selection)
    (client : DDClient) : Action → Selection
  | .fsm _ => selection.atPoint client.point
  | .startNewTransfer buffer size env =>
      if (client.startNewTransfer buffer size env).1 then
        { selection with selected := .request }
      else
        selection

/-- The action's lock is acquired, or it makes no difference. -/
def Action.Survives (recorded : DDClient × Selection) : Action → Prop
  | .fsm env => env.lockAcquired = true ∨ recorded.1.Tolerates recorded.2
  | .startNewTransfer buffer size env =>
      buffer ≠ none → 0 < size → recorded.1.isBusy = false →
        env.lockAcquired = true ∨ recorded.1.nextState = .request

instance (recorded : DDClient × Selection) : (action : Action) →
    Decidable (action.Survives recorded)
  | .fsm _ => inferInstanceAs (Decidable (_ ∨ _))
  | .startNewTransfer _ _ _ => inferInstanceAs (Decidable (_ → _ → _ → _ ∨ _))

/-- The event starts a transfer of the client. -/
def startsTransfer : Event → Bool
  | .transferStarted _ _ => true
  | _ => false

/-- The client obeys what was selected, and `TERMINATE` ran once for each
transfer. -/
structure Transits
    (client : DDClient)
    (selection : Selection)
    (trace : List Event) : Prop where
  obeys : client.Obeys selection
  resting : terminated startsTransfer trace = true →
    client.Rests (· = .idle) (fun _ => False) selection
  once : Trace.Every (TerminatesOnce startsTransfer) trace

section Transits

variable {parameters : Parameters} {client client' : DDClient}
variable {env : Environment} {events trace : List Event}
variable {selection : Selection}

theorem Moves.obeys
    (moves : client.Moves env client' events)
    (obeys : client.Obeys selection)
    (survives : env.lockAcquired = true ∨ client.Tolerates selection) :
    client'.Obeys (selection.atPoint client.point) := by
  cases moves with
  | shell shell => exact shell.obeys obeys survives
  | retry here =>
      rw [here, Selection.atPoint_body]
      exact obeys
  | idle here | beginRequest here | noTimer here | requestSent here
  | awaitResponse here | acceptResponse here | beginInitiate here
  | refuse here | initiateSent here | awaitBlock here | storeMore here
  | storeLast here | missBlock here | refuseBlock here | continueBlock here
  | ackSent here | ackNotSent here | poll here | pollBlock here | giveUp here
  | terminate here =>
      rw [here]
      exact obeys.inside rfl trivial

/-- Behind `TERMINATE`, the client rests until a transfer is started. -/
theorem Moves.resting
    (moves : client.Moves env client' events)
    (transits : client.Transits selection trace)
    (ended : terminated startsTransfer (trace ++ events) = true) :
    client'.Rests (· = .idle) (fun _ => False)
      (selection.atPoint client.point) := by
  by_cases last : client.point = .enter .terminate
  · cases moves with
    | terminate => rfl
    | shell shell => exact absurd last (shell.not_entering _)
    | _ => simp_all
  have elsewhere : ∀ buffer, .body .terminate buffer ∉ events :=
    fun buffer present => last (moves.body_cases.enter_of_mem present)
  have resting := transits.resting (terminated_append elsewhere ended).1
  have entered {state : FsmState} (here : client.point = .enter state) :
      state = .idle :=
    (transits.obeys.due_of_enter here).trans
      ((Party.rests_of_enter here).mp resting).2
  have inside {body : ClientBody} (here : client.point = .body body) : False :=
    (Party.rests_of_body here).mp resting
  cases moves with
  | shell shell => exact shell.rests resting
  | idle here =>
      rw [here]
      exact ((Party.rests_of_enter here).mp resting).1
  | beginRequest here | noTimer here | awaitResponse here | beginInitiate here
  | refuse here | awaitBlock here | terminate here =>
      exact absurd (entered here) (by simp)
  | requestSent here | acceptResponse here | initiateSent here
  | storeMore here | storeLast here | missBlock here | refuseBlock here
  | continueBlock here | ackSent here | ackNotSent here | poll here
  | pollBlock here | retry here | giveUp here =>
      exact (inside here).elim

theorem Moves.transits
    (moves : client.Moves env client' events)
    (transits : client.Transits selection trace)
    (survives : env.lockAcquired = true ∨ client.Tolerates selection) :
    client'.Transits (selection.atPoint client.point) (trace ++ events) where
  obeys := moves.obeys transits.obeys survives
  resting := moves.resting transits
  once := by
    apply moves.body_cases.every transits.once
    · exact fun before event => terminatesOnce_of_other before
    · intro state here buffer same
      obtain ⟨rfl, -⟩ := Event.body.inj same
      by_contra ended
      have resting := transits.resting (by simpa using ended)
      have calm := ((Party.rests_of_enter here).mp resting).2
      have due := transits.obeys.due_of_enter here
      exact absurd (due.trans calm) (by simp)

/-- A transfer that is started stores `REQUEST`. -/
theorem transits_startNewTransfer
    {buffer : Option Pointer}
    {size : Nat}
    (transits : client.Transits selection trace)
    (survives : Action.Survives (client, selection)
      (.startNewTransfer buffer size env)) :
    let stepped := client.step (.startNewTransfer buffer size env)
    stepped.1.Transits
        (select selection client (.startNewTransfer buffer size env))
        (trace ++ stepped.2) ∧
      ∀ pointer size', .transferStarted pointer size' ∈ stepped.2 →
        stepped.1.nextState = .request := by
  rcases client.startNewTransfer_cases buffer size env with
    refused | ⟨pointer, rfl, positive, resting, started⟩
  · have same : client.step (.startNewTransfer buffer size env) =
        (client, []) := by
      cases buffer <;> simp [step, refused]
    simp only [same, select, refused]
    exact ⟨by simpa using transits, by simp⟩
  · have stored : env.lockAcquired = true ∨
        (client.taking pointer size).nextState = .request :=
      survives (by simp) positive resting
    rw [DataDump.setNextFSMState_of_survives stored] at started
    have taken : (client.taking pointer size).Obeys selection :=
      transits.obeys.inside rfl transits.obeys.passes
    simp only [step, select, started, if_true]
    refine ⟨⟨taken.store, ?_, ?_⟩, by simp⟩
    · intro ended
      simp [terminated, noteTerminated, startsTransfer] at ended
    · exact Trace.every_concat.mpr
        ⟨transits.once, terminatesOnce_of_other _ rfl⟩

/-- What a step shows: the body of the state that is due, or a call that
returned true and stored `REQUEST`. -/
theorem Transits.observed
    {action : Action}
    (transits : client.Transits selection trace)
    (sound : client.Sound parameters)
    (survives : action.Survives (client, selection)) :
    (∀ state buffer, .body state buffer ∈ (client.step action).2 →
      state = selection.due) ∧
    ∀ event ∈ (client.step action).2, event.isStarted = true →
      (client.step action).1.nextState = .request := by
  cases action with
  | fsm env =>
      have moves := sound.moves env
      exact transits.obeys.observed moves.body_cases
        fun event present => moves.not_call present
  | startNewTransfer buffer size env =>
      have stored := (transits_startNewTransfer transits survives).2
      have calls := calls_startNewTransfer client buffer size env
      generalize client.step (.startNewTransfer buffer size env) = stepped
        at stored calls
      obtain ⟨client', events⟩ := stepped
      cases calls with
      | refused => simp
      | @started pointer =>
          simpa [Event.isStarted] using stored pointer size (by simp)

end Transits

end DDClient

/-! ## The server -/

namespace DDServer

/-- Enter what an action selects. -/
def select
    (selection : Selection)
    (server : DDServer) : Action → Selection
  | .fsm _ => selection.atPoint server.point
  | .startServer env =>
      if (server.startServer env).1 then
        { selection with selected := .request }
      else
        selection
  | .stopServer _ =>
      if server.stopper = .storing then { selection with selected := .idle }
      else selection

/-- The action's lock is acquired, or it makes no difference. -/
def Action.Survives (recorded : DDServer × Selection) : Action → Prop
  | .fsm env =>
      env.lockAcquired = true ∨ recorded.1.toParty.Tolerates recorded.2
  | .startServer env =>
      recorded.1.isBusy = false →
        env.lockAcquired = true ∨ recorded.1.nextState = .request
  | .stopServer env =>
      recorded.1.stopper = .storing →
        env.lockAcquired = true ∨ recorded.1.nextState = .idle

instance (recorded : DDServer × Selection) : (action : Action) →
    Decidable (action.Survives recorded)
  | .fsm _ => inferInstanceAs (Decidable (_ ∨ _))
  | .startServer _ | .stopServer _ => inferInstanceAs (Decidable (_ → _ ∨ _))

/-- The event starts a transfer of the server. -/
def startsTransfer : Event → Bool
  | .received header => header.msgType = .request
  | _ => false

/-- The states in which the server rests behind `TERMINATE`. -/
def Calm (state : FsmState) : Prop :=
  state = .idle ∨ state = .request

/-- The program points at which the server waits behind `TERMINATE`. -/
def AwaitsRequest (body : ServerBody) : Prop :=
  ∃ request, body = .requestReceive request

/-- The server obeys what was selected, and `TERMINATE` ran once for each
transfer. -/
structure Transits
    (server : DDServer)
    (selection : Selection)
    (trace : List Event) : Prop where
  obeys : server.toParty.Obeys selection
  resting : terminated startsTransfer trace = true →
    server.toParty.Rests Calm AwaitsRequest selection
  once : Trace.Every (TerminatesOnce startsTransfer) trace

section Transits

variable {parameters : Parameters} {server server' : DDServer}
variable {env : Environment} {events trace : List Event}
variable {selection : Selection}

theorem Moves.obeys
    (moves : server.Moves env server' events)
    (obeys : server.toParty.Obeys selection)
    (survives : env.lockAcquired = true ∨
      server.toParty.Tolerates selection) :
    server'.toParty.Obeys (selection.atPoint server.point) := by
  cases moves with
  | shell shell => exact shell.obeys obeys survives
  | retry here =>
      rw [here, Selection.atPoint_body]
      exact obeys
  | idle here | awaitRequest here | acceptRequest here | readStorage here
  | readNothing here | noStorage here | responseSent here
  | awaitInitiate here | acceptInitiate here | fillBlock here
  | blockSent here | lastBlockSent here | continueBlock here | erase here
  | eraseElse here | poll here | giveUp here | terminate here =>
      rw [here]
      exact obeys.inside rfl trivial

/-- Behind `TERMINATE`, the server rests until it accepts a request. -/
theorem Moves.resting
    (moves : server.Moves env server' events)
    (transits : server.Transits selection trace)
    (ended : terminated startsTransfer (trace ++ events) = true) :
    server'.toParty.Rests Calm AwaitsRequest
      (selection.atPoint server.point) := by
  by_cases last : server.point = .enter .terminate
  · cases moves with
    | terminate => exact .inr rfl
    | shell shell => exact absurd last (shell.not_entering _)
    | _ => simp_all
  have elsewhere : ∀ buffer, .body .terminate buffer ∉ events :=
    fun buffer present => last (moves.body_cases.enter_of_mem present)
  obtain ⟨earlier, unstarted⟩ := terminated_append elsewhere ended
  have resting := transits.resting earlier
  have entered {state : FsmState} (here : server.point = .enter state) :
      Calm state := by
    rw [transits.obeys.due_of_enter here]
    exact ((Party.rests_of_enter here).mp resting).2
  have inside {body : ServerBody} (here : server.point = .body body) :
      AwaitsRequest body :=
    (Party.rests_of_body here).mp resting
  cases moves with
  | shell shell => exact shell.rests resting
  | idle here =>
      rw [here]
      exact ((Party.rests_of_enter here).mp resting).1
  | awaitRequest here => exact ⟨_, rfl⟩
  | acceptRequest here accepts =>
      have started := unstarted (.received (server.polledHeader env)) (by simp)
      simp [startsTransfer, accepts.msgType] at started
  | poll here polls =>
      obtain ⟨request, rfl⟩ := inside here
      cases polls
      exact ⟨_, rfl⟩
  | retry here =>
      rw [here, Selection.atPoint_body]
      exact resting
  | giveUp here _ timed =>
      obtain ⟨request, rfl⟩ := inside here
      exact absurd rfl timed
  | readStorage here | readNothing here | noStorage here
  | awaitInitiate here | fillBlock here | terminate here =>
      exact absurd (entered here) (by simp [Calm])
  | responseSent here | acceptInitiate here | blockSent here
  | lastBlockSent here | continueBlock here | erase here | eraseElse here =>
      exact absurd (inside here) (by simp [AwaitsRequest])

theorem Moves.transits
    (moves : server.Moves env server' events)
    (transits : server.Transits selection trace)
    (survives : env.lockAcquired = true ∨
      server.toParty.Tolerates selection) :
    server'.Transits (selection.atPoint server.point) (trace ++ events) where
  obeys := moves.obeys transits.obeys survives
  resting := moves.resting transits
  once := by
    apply moves.body_cases.every transits.once
    · exact fun before event => terminatesOnce_of_other before
    · intro state here buffer same
      obtain ⟨rfl, -⟩ := Event.body.inj same
      by_contra ended
      have resting := transits.resting (by simpa using ended)
      have calm := ((Party.rests_of_enter here).mp resting).2
      rw [← transits.obeys.due_of_enter here] at calm
      exact absurd calm (by simp [Calm])

/-- The application stores a state in which the server rests. -/
theorem Transits.store
    {state : FsmState}
    {event : Event}
    (transits : server.Transits selection trace)
    (calm : Calm state)
    (stopper : Stopper)
    (called : event = .serverStarted ∨ event = .serverStopped) :
    ({ server with nextState := state, stopper := stopper } :
        DDServer).Transits
      { selection with selected := state } (trace ++ [event]) := by
  have aside : event.isBody = false ∧ startsTransfer event = false := by
    rcases called with rfl | rfl <;> exact ⟨rfl, rfl⟩
  have other : ∀ buffer, event ≠ .body .terminate buffer := by
    rintro buffer rfl
    simp [Event.isBody] at aside
  constructor
  case obeys => exact transits.obeys.store
  case resting =>
    intro ended
    have earlier := terminated_append
      (by simpa [eq_comm] using other) ended
    exact (transits.resting earlier.1).select calm
  case once =>
    exact Trace.every_concat.mpr
      ⟨transits.once, terminatesOnce_of_other _ aside.1⟩

/-- A server that is started stores `REQUEST`. -/
theorem transits_startServer
    (transits : server.Transits selection trace)
    (survives : Action.Survives (server, selection) (.startServer env)) :
    let stepped := server.step (.startServer env)
    stepped.1.Transits (select selection server (.startServer env))
        (trace ++ stepped.2) ∧
      (.serverStarted ∈ stepped.2 → stepped.1.nextState = .request) := by
  by_cases resting : server.isBusy = false
  · have stored := DataDump.setNextFSMState_of_survives (survives resting)
    simp only [step, select, startServer, if_pos resting, stored, if_true]
    exact ⟨transits.store (.inr rfl) server.stopper (.inl rfl), by simp⟩
  · simp only [step, select, startServer, if_neg resting, List.append_nil]
    exact ⟨transits, by simp⟩

theorem transits_stopServer
    (transits : server.Transits selection trace)
    (survives : Action.Survives (server, selection) (.stopServer env)) :
    let stepped := server.step (.stopServer env)
    stepped.1.Transits (select selection server (.stopServer env))
      (trace ++ stepped.2) := by
  cases stopper : server.stopper with
  | outside =>
      simpa [step, select, stopServer, stopper] using
        ⟨transits.obeys, transits.resting, transits.once⟩
  | waiting =>
      simp only [step, select, stopServer, stopper]
      split
      next => simpa using transits
      next => simpa using ⟨transits.obeys, transits.resting, transits.once⟩
  | storing =>
      have stored := DataDump.setNextFSMState_of_survives (survives stopper)
      simp only [step, select, stopServer, stopper, stored, if_true]
      exact transits.store (.inl rfl) .outside (.inr rfl)

/-- What a step shows: the body of the state that is due, or a call that
returned true and stored `REQUEST`. -/
theorem Transits.observed
    {action : Action}
    (transits : server.Transits selection trace)
    (sound : server.Sound parameters)
    (survives : action.Survives (server, selection)) :
    (∀ state buffer, .body state buffer ∈ (server.step action).2 →
      state = selection.due) ∧
    ∀ event ∈ (server.step action).2, event.isStarted = true →
      (server.step action).1.nextState = .request := by
  cases action with
  | fsm env =>
      have moves := sound.moves env
      exact transits.obeys.observed moves.body_cases
        fun event present => moves.not_call present
  | startServer env =>
      have stored := (transits_startServer transits survives).2
      have calm := (calls_startServer server env).calm
      constructor
      · intro state buffer present
        simpa using calm _ present
      · intro event present started
        rcases calm event present with rfl | rfl
        · exact stored present
        · simp [Event.isStarted] at started
  | stopServer env =>
      have stopped : ∀ event ∈ (server.step (.stopServer env)).2,
          event = .serverStopped := by
        cases stopper : server.stopper with
        | outside | storing => simp [step, stopServer, stopper]
        | waiting =>
            simp only [step, stopServer, stopper]
            split <;> simp
      constructor
      · intro state buffer present
        simpa using stopped _ present
      · intro event present started
        rw [stopped event present] at started
        simp [Event.isStarted] at started

end Transits

end DDServer

/-! ## Runs -/

section Runs

variable {parameters : Parameters} {heap : Heap} {selection : Selection}
variable {trace : List Event}

theorem DDClient.transits_of_reaches
    {client : DDClient}
    (reaches : (DDClient.machine.recording DDClient.select).Reaches
      (fun recorded _ action => action.Survives recorded)
      (DDClient.new parameters heap, {}) (client, selection) trace) :
    client.Sound parameters ∧ client.Transits selection trace := by
  refine reaches.invariant
    (fun recorded trace =>
      recorded.1.Sound parameters ∧ recorded.1.Transits recorded.2 trace)
    ⟨DDClient.sound_new parameters heap,
      ⟨⟨rfl, trivial⟩, fun ended => by simp [terminated] at ended,
        Trace.every_nil _⟩⟩
    ?_
  rintro ⟨client, selection⟩ trace action ⟨sound, transits⟩ survives
  refine ⟨(sound.steps action).sound sound, ?_⟩
  cases action with
  | fsm env => exact (sound.moves env).transits transits survives
  | startNewTransfer buffer size env =>
      exact (transits_startNewTransfer transits survives).1

theorem DDServer.transits_of_reaches
    {server : DDServer}
    (reaches : (DDServer.machine.recording DDServer.select).Reaches
      (fun recorded _ action => action.Survives recorded)
      (DDServer.new parameters heap, {}) (server, selection) trace) :
    server.Sound parameters ∧ server.Transits selection trace := by
  refine reaches.invariant
    (fun recorded trace =>
      recorded.1.Sound parameters ∧ recorded.1.Transits recorded.2 trace)
    ⟨DDServer.sound_new parameters heap,
      ⟨⟨rfl, trivial⟩, fun ended => by simp [terminated] at ended,
        Trace.every_nil _⟩⟩
    ?_
  rintro ⟨server, selection⟩ trace action ⟨sound, transits⟩ survives
  refine ⟨(sound.steps action).sound sound, ?_⟩
  cases action with
  | fsm env => exact (sound.moves env).transits transits survives
  | startServer env => exact (transits_startServer transits survives).1
  | stopServer env => exact transits_stopServer transits survives

end Runs

/-- In every run with admitted lock outcomes: every body is that of the state
that was selected last when `FSMLoop` read it, `TERMINATE` runs once for each
transfer at most, and a call returns true only when `REQUEST` is stored then. -/
def TransitionsSurvive
    {State Action : Type}
    (machine : Machine State Action Event)
    (select : Selection → State → Action → Selection)
    (admits : State × Selection → Action → Prop)
    (starts : Event → Bool)
    (nextState : State → FsmState)
    (start : State) : Prop :=
  ∀ recorded trace,
    (machine.recording select).Reaches (fun recorded _ => admits recorded)
        (start, {}) recorded trace →
      Trace.Every (TerminatesOnce starts) trace ∧
      ∀ action, admits recorded action →
        (∀ state buffer,
          .body state buffer ∈ (machine.step recorded.1 action).2 →
            state = recorded.2.due) ∧
        ∀ event ∈ (machine.step recorded.1 action).2,
          event.isStarted = true →
            nextState (machine.step recorded.1 action).1 = .request

/-- In every run of a client and of a server whose locks are acquired or make no
difference, state transitions survive. -/
theorem transitions_survive
    (parameters : Parameters)
    (heap : Heap) :
    TransitionsSurvive DDClient.machine DDClient.select
        (fun recorded action => action.Survives recorded)
        DDClient.startsTransfer (·.nextState)
        (DDClient.new parameters heap) ∧
      TransitionsSurvive DDServer.machine DDServer.select
        (fun recorded action => action.Survives recorded)
        DDServer.startsTransfer (·.nextState)
        (DDServer.new parameters heap) := by
  constructor
  · rintro ⟨client, selection⟩ trace reaches
    obtain ⟨sound, transits⟩ := DDClient.transits_of_reaches reaches
    exact ⟨transits.once, fun _ survives => transits.observed sound survives⟩
  · rintro ⟨server, selection⟩ trace reaches
    obtain ⟨sound, transits⟩ := DDServer.transits_of_reaches reaches
    exact ⟨transits.once, fun _ survives => transits.observed sound survives⟩

/-! ## Runs with and without a timeout -/

/-- Parameters of a client or a server that agrees on two blocks. -/
def selectionParameters : Parameters where
  transactionID := 7
  blocksPerTransaction := 2
  maxPacketlen := 11
  ackTimeout := 5

/-- The first read of the next state and the read for the running indicator
time out, in front of the first body. -/
def timeouts {Action : Type} (fsm : Environment → Action) : List Action :=
  fsm { lockAcquired := false } :: List.replicate 3 (fsm {}) ++
    fsm { lockAcquired := false } :: List.replicate 2 (fsm {})

/-- A client gives up its request, runs `TERMINATE` and rests. -/
def givenUpRun : (DDClient × Selection) × List Event :=
  (DDClient.machine.recording DDClient.select).execute
    (DDClient.new selectionParameters fun _ _ => 0, {}) []
    (.startNewTransfer (some ⟨1, 0⟩) 8 {} :: timeouts .fsm ++
      .fsm { sendAccepted := false, timerExpired := true } ::
        List.replicate 16 (.fsm {}))

/-- A server finds nothing to send, runs `TERMINATE` and awaits a request. -/
def nothingStoredRun : (DDServer × Selection) × List Event :=
  (DDServer.machine.recording DDServer.select).execute
    (DDServer.new selectionParameters fun _ _ => 0, {}) []
    (.startServer {} :: timeouts .fsm ++
      .fsm { incoming := [1, 7, 0, 0, 0, 2, 11, 5, 0, 0, 0] } ::
        List.replicate 24 (.fsm {}))

/-- In both runs locks time out that make no difference, and `TERMINATE` runs
once, for one transfer. -/
theorem transitions_survive_example :
    Trace.Every (TerminatesOnce DDClient.startsTransfer) givenUpRun.2 ∧
      Trace.Every (TerminatesOnce DDServer.startsTransfer)
        nothingStoredRun.2 := by
  constructor
  · have reaches : (DDClient.machine.recording DDClient.select).Reaches
        (fun recorded _ action => action.Survives recorded) _ givenUpRun.1
        givenUpRun.2 :=
      Machine.Reaches.execute _ .start (by decide +kernel)
    exact ((transitions_survive _ _).1 _ _ reaches).1
  · have reaches : (DDServer.machine.recording DDServer.select).Reaches
        (fun recorded _ action => action.Survives recorded) _
        nothingStoredRun.1 nothingStoredRun.2 :=
      Machine.Reaches.execute _ .start (by decide +kernel)
    exact ((transitions_survive _ _).2 _ _ reaches).1

/-- A client that has selected nothing reads its current state, the lock times
out, and `TERMINATE` runs. -/
theorem transition_lost_example :
    ¬((∀ parameters heap,
        TransitionsSurvive DDClient.machine DDClient.select
          (fun _ _ => True) DDClient.startsTransfer (·.nextState)
          (DDClient.new parameters heap)) ∧
      ∀ parameters heap,
        TransitionsSurvive DDServer.machine DDServer.select
          (fun _ _ => True) DDServer.startsTransfer (·.nextState)
          (DDServer.new parameters heap)) := by
  rintro ⟨survive, -⟩
  have reaches := Machine.Reaches.execute
    (List.replicate 3 (.fsm {}) ++ [.fsm { lockAcquired := false }])
    (.start : (DDClient.machine.recording DDClient.select).Reaches
      (fun _ _ _ => True)
      (DDClient.new selectionParameters fun _ _ => 0, {}) _ _)
    (Machine.admitted_of_forall fun _ _ => trivial)
  have due := ((survive _ _ _ _ reaches).2 (.fsm {}) trivial).1 .terminate none
    (by decide +kernel)
  revert due
  decide +kernel

end DataDumpProtocol

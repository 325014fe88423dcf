import DataDumpProtocol.Machines.Exchanges

/-!
# Stop requests

`stopServer` stores `IDLE` once it has seen the server in `REQUEST`, but every
state body ends with a store of its own.  A stop is heeded exactly when it
comes before `FSMLoop` has read the state whose body starts next, and when no
body that is running then comes to its end.
-/

namespace DataDumpProtocol

/-- How far the last call that took effect has got. -/
inductive StopPhase
  /-- The server was started, or never stopped. -/
  | running
  /-- `stopServer` has stored `IDLE`. -/
  | pending
  /-- A state body has started since. -/
  | stopped
  deriving DecidableEq

namespace StopPhase

/-- Enter one event. -/
def note (phase : StopPhase) : Event → StopPhase
  | .serverStopped => .pending
  | .serverStarted => .running
  | .body _ _ => if phase = .pending then .stopped else phase
  | _ => phase

/-- The phase that a trace ends in. -/
def ofTrace (trace : List Event) : StopPhase :=
  trace.foldl note .running

theorem ofTrace_append (before after : List Event) :
    ofTrace (before ++ after) = after.foldl note (ofTrace before) :=
  List.foldl_append

theorem foldl_eq_self
    {events : List Event}
    (noBody : ∀ event ∈ events, event.isBody = false)
    (noCall : ∀ event ∈ events, event.isCall = false)
    (phase : StopPhase) :
    events.foldl note phase = phase := by
  refine Trace.foldl_eq_self (fun event present phase => ?_) phase
  have body := noBody event present
  have call := noCall event present
  cases event <;> simp_all [note, Event.isBody, Event.isCall]

end StopPhase

namespace DDServer

/-- The state whose body starts next, whatever is stored in the meantime. -/
def bound (server : DDServer) : Option FsmState :=
  match server.point with
  | .top (.readCurrent next) =>
      if next = server.currentState then some next else none
  | .top (.storeCurrent next) => some next
  | .top .updateStatus | .top .select => some server.currentState
  | .enter state => some state
  | .top .readNext | .top .reloadNext | .body _ | .leave _ => none

/-- A body has ended and is about to store the state behind it. -/
def leaving (server : DDServer) : Bool :=
  match server.point with
  | .leave _ => true
  | _ => false

/-- `stopServer` stores `IDLE` while no other body is bound to start, and a
body that runs then does not store the state behind it. -/
def Action.StopsInTime
    (server : DDServer)
    (trace : List Event) : Action → Prop
  | .fsm _ =>
      StopPhase.ofTrace trace = .pending → server.leaving = false
  | .stopServer _ =>
      server.stopper = .storing → ∀ state ∈ server.bound, state = .idle
  | .startServer _ => True

instance (server : DDServer) (trace : List Event) :
    (action : Action) → Decidable (action.StopsInTime server trace)
  | .fsm _ => inferInstanceAs (Decidable (_ → server.leaving = false))
  | .stopServer _ => inferInstanceAs (Decidable (_ → _))
  | .startServer _ => inferInstanceAs (Decidable True)

/-- A stop is on its way to be heeded. -/
structure Stops (server : DDServer) : Prop where
  next : server.nextState = .idle
  bound : ∀ state ∈ server.bound, state = .idle

section Stops

variable {parameters : Parameters} {server server' : DDServer}
variable {env : Environment} {events trace : List Event}

theorem stops_of_unbound
    (next : server.nextState = .idle)
    (unbound : server.bound = none) :
    server.Stops :=
  ⟨next, by simp [unbound]⟩

/-- The thread goes on to `IDLE`. -/
theorem Moves.stops
    (moves : server.Moves env server' events)
    (acquired : env.lockAcquired = true)
    (running : ∀ target, server.point ≠ .leave target)
    (stops : server.Stops) :
    server'.Stops := by
  have readsNext : server.getNextFSMState env = .idle := by
    rw [DataDump.getNextFSMState, if_pos acquired, stops.next]
  have readsCurrent : server.getCurrentFSMState env = server.currentState := by
    rw [DataDump.getCurrentFSMState, if_pos acquired]
  have bound := stops.bound
  cases moves with
  | shell shell =>
      cases shell with
      | leave here => exact absurd here (running _)
      | dispatch here dispatches =>
          simp only [DDServer.bound, here] at bound
          cases dispatches with
          | readNext =>
              refine ⟨stops.next, ?_⟩
              simp [DDServer.bound, Point.ofDispatch, readsNext]
          | changed => exact stops_of_unbound stops.next rfl
          | unchanged same =>
              rw [readsCurrent] at same
              refine ⟨stops.next, ?_⟩
              simpa [DDServer.bound, Point.ofDispatch, same] using bound
          | reloadNext =>
              refine ⟨stops.next, ?_⟩
              simp [DDServer.bound, Point.ofDispatch, readsNext]
          | storeCurrent =>
              rw [DataDump.setCurrentFSMState, if_pos acquired]
              refine ⟨stops.next, ?_⟩
              simpa [DDServer.bound, Point.ofDispatch] using bound
          | busy => exact ⟨stops.next, bound⟩
          | resting => exact ⟨stops.next, bound⟩
          | select =>
              rw [readsCurrent]
              exact ⟨stops.next, bound⟩
  | retry => exact stops
  | _ => exact stops_of_unbound stops.next rfl

/-- What a stop has achieved so far. -/
structure Heeds (server : DDServer) (phase : StopPhase) : Prop where
  stops : phase ≠ .running → server.Stops
  outside : phase = .stopped →
    (∀ body, server.point ≠ .body body) ∧
      ∀ target, server.point ≠ .leave target

/-- A body that starts when a stop was stored is that of `IDLE`. -/
theorem Heeds.idle
    {phase : StopPhase}
    (heeds : server.Heeds phase)
    (stopped : phase ≠ .running)
    {state : FsmState}
    (here : server.point = .enter state) :
    state = .idle :=
  (heeds.stops stopped).bound state (by simp [bound, here])

/-- Behind the bodies, the thread only ever runs that of `IDLE`. -/
theorem Moves.outside
    (moves : server.Moves env server' events)
    (notInside : ∀ body, server.point ≠ .body body)
    (notLeaving : ∀ target, server.point ≠ .leave target)
    (idle : ∀ state, server.point = .enter state → state = .idle) :
    (∀ body, server'.point ≠ .body body) ∧
      ∀ target, server'.point ≠ .leave target := by
  cases moves with
  | shell shell =>
      refine ⟨shell.point_ne_body, fun target => ?_⟩
      cases shell with
      | leave here => exact absurd here (notLeaving _)
      | dispatch _ dispatches =>
          cases dispatches <;> simp [Point.ofDispatch]
  | idle => simp
  | awaitRequest here | readStorage here | readNothing here | noStorage here
  | awaitInitiate here | fillBlock here | terminate here =>
      exact absurd (idle _ here) (by simp)
  | acceptRequest here | responseSent here | acceptInitiate here
  | blockSent here | lastBlockSent here | continueBlock here | erase here
  | eraseElse here | poll here | retry here | giveUp here =>
      exact absurd here (notInside _)

theorem Moves.heeds
    (moves : server.Moves env server' events)
    (acquired : env.lockAcquired = true)
    (inTime : Action.StopsInTime server trace (.fsm env))
    (heeds : server.Heeds (.ofTrace trace)) :
    server'.Heeds (.ofTrace (trace ++ events)) := by
  have notLeaving (stopped : StopPhase.ofTrace trace ≠ .running)
      (target : FsmState) : server.point ≠ .leave target := by
    cases phase : StopPhase.ofTrace trace with
    | running => exact absurd phase stopped
    | pending =>
        intro here
        have inside := inTime phase
        simp [leaving, here] at inside
    | stopped => exact (heeds.outside phase).2 target
  have stops (stopped : StopPhase.ofTrace trace ≠ .running) : server'.Stops :=
    moves.stops acquired (notLeaving stopped) (heeds.stops stopped)
  have noCall : ∀ event ∈ events, event.isCall = false := fun _ =>
    moves.not_call
  rw [StopPhase.ofTrace_append]
  rcases moves.body_cases with ⟨state, rest, here, rfl, none⟩ | none
  · have phase_eq : (Event.body state server.internalBuffer :: rest).foldl
        .note (StopPhase.ofTrace trace) =
        if StopPhase.ofTrace trace = .pending then .stopped
        else .ofTrace trace :=
      StopPhase.foldl_eq_self none
        (fun event present => noCall event (by simp [present])) _
    rw [phase_eq]
    by_cases stopped : StopPhase.ofTrace trace = .running
    · constructor <;> simp [stopped]
    · have outside := moves.outside (by simp [here]) (by simp [here])
        fun _ => heeds.idle stopped
      exact ⟨fun _ => stops stopped, fun _ => outside⟩
  · rw [StopPhase.foldl_eq_self none noCall]
    refine ⟨stops, fun stopped => ?_⟩
    obtain ⟨notInside, notLeaving⟩ := heeds.outside stopped
    exact moves.outside notInside notLeaving fun _ =>
      heeds.idle (by simp [stopped])

/-- The application starts the server, or stops it in time. -/
theorem heeds_call
    {action : Action}
    (acquired : action.Acquires)
    (inTime : action.StopsInTime server trace)
    (call : ∀ env, action ≠ .fsm env)
    (heeds : server.Heeds (.ofTrace trace)) :
    (server.step action).1.Heeds
      (.ofTrace (trace ++ (server.step action).2)) := by
  rw [StopPhase.ofTrace_append]
  cases action with
  | fsm env => exact absurd rfl (call env)
  | startServer env =>
      by_cases resting : server.isBusy = false
      · simp only [step, startServer, if_pos resting]
        constructor <;> simp [StopPhase.note]
      · simp only [step, startServer, if_neg resting]
        exact heeds
  | stopServer env =>
      have waits (stopper : Stopper) :
          ({ server with stopper := stopper } : DDServer).Heeds
            (.ofTrace trace) :=
        ⟨fun stopped => ⟨(heeds.stops stopped).next,
            (heeds.stops stopped).bound⟩,
          heeds.outside⟩
      simp only [step, stopServer]
      split
      next => exact waits .waiting
      next =>
        split
        next => exact heeds
        next => exact waits .storing
      next storing =>
        rw [DataDump.setNextFSMState_of_acquired _ _ acquired]
        refine ⟨fun _ => ⟨rfl, inTime storing⟩, ?_⟩
        simp [StopPhase.note]

/-- After a stop was stored, the state bodies that start are those of `IDLE`:
the next one, and in place of every state of a transaction. -/
def HeedsStop (before : List Event) (event : Event) : Prop :=
  ∀ state buffer, event = .body state buffer →
    (StopPhase.ofTrace before = .pending → state = .idle) ∧
      (StopPhase.ofTrace before ≠ .running →
        state ≠ .response ∧ state ≠ .initiateBlock ∧ state ≠ .block)

theorem Moves.heedsStop
    (moves : server.Moves env server' events)
    (heeds : server.Heeds (.ofTrace trace))
    (every : Trace.Every HeedsStop trace) :
    Trace.Every HeedsStop (trace ++ events) := by
  apply moves.body_cases.every every
  · rintro before _ none state buffer rfl
    simp [Event.isBody] at none
  · rintro entered here state buffer same
    obtain ⟨rfl, -⟩ := Event.body.inj same
    refine ⟨fun pending => heeds.idle (by simp [pending]) here,
      fun stopped => ?_⟩
    rw [heeds.idle stopped here]
    simp

end Stops

/-- In every run in which the locks are acquired and each stop comes in time,
the body that starts after a stop is that of `IDLE`, and no state of a
transaction runs until the server is started again. -/
theorem stop_not_lost
    {parameters : Parameters}
    {heap : Heap}
    {server : DDServer}
    {trace : List Event}
    (reaches : machine.Reaches
      (fun server trace action =>
        action.Acquires ∧ action.StopsInTime server trace)
      (new parameters heap) server trace) :
    Trace.Every HeedsStop trace := by
  have kept := reaches.invariant
    (fun server trace =>
      server.Sound parameters ∧ server.Heeds (.ofTrace trace) ∧
        Trace.Every HeedsStop trace)
    ⟨sound_new parameters heap, by constructor <;> simp [StopPhase.ofTrace],
      Trace.every_nil _⟩
    (by
      rintro server trace action ⟨sound, heeds, every⟩ ⟨acquired, inTime⟩
      refine ⟨(sound.steps action).sound sound, ?_⟩
      have calm (calls : server.Calls (server.step action).1
          (server.step action).2) :
          Trace.Every HeedsStop (trace ++ (server.step action).2) :=
        calls.every (by simp [HeedsStop]) (by simp [HeedsStop]) every
      cases action with
      | fsm env =>
          have moves := sound.moves env
          exact ⟨moves.heeds acquired inTime heeds,
            moves.heedsStop heeds every⟩
      | startServer env =>
          exact ⟨heeds_call acquired inTime (by simp) heeds,
            calm (calls_startServer server env)⟩
      | stopServer env =>
          exact ⟨heeds_call acquired inTime (by simp) heeds,
            calm (calls_stopServer server env)⟩)
  exact kept.2.2

/-! ## Two stops -/

/-- Parameters of a server with one block of six bytes. -/
def stopParameters : Parameters where
  transactionID := 7
  blocksPerTransaction := 1
  maxPacketlen := 11
  ackTimeout := 5

/-- A server that waits for a request when `stopServer` sees it, and then
accepts one. -/
def requestWhileStopping : List Action :=
  .startServer {} :: List.replicate 7 (.fsm {}) ++
    [.stopServer {}, .stopServer {}]

/-- The frame of a request. -/
def requestFrame : List Byte :=
  [1, 7, 0, 0, 0, 1, 11, 5, 0, 0, 0]

/-- The stop is stored behind the end of the `REQUEST` body. -/
def stopInTime : List Action :=
  requestWhileStopping ++
    [.fsm { incoming := requestFrame }, .fsm {}, .stopServer {}] ++
    List.replicate 7 (.fsm {})

/-- The stop is stored while the `REQUEST` body waits. -/
def stopTooEarly : List Action :=
  requestWhileStopping ++
    [.stopServer {}, .fsm { incoming := requestFrame }] ++
    List.replicate 8 (.fsm {})

/-- What a list of actions makes of a fresh server. -/
def stopRun (actions : List Action) : DDServer × List Event :=
  machine.execute (new stopParameters fun _ _ => 0) [] actions

/-- The stop behind the `REQUEST` body is heeded. -/
theorem stop_not_lost_example :
    Trace.Every HeedsStop (stopRun stopInTime).2 :=
  stop_not_lost
    (Machine.Reaches.execute stopInTime .start (by decide +kernel))

/-- The stop in the `REQUEST` body is lost: `RESPONSE` follows. -/
theorem stop_lost_example :
    ∃ server before after,
      machine.Reaches (fun _ _ action => action.Acquires)
        (new stopParameters fun _ _ => 0) server
        (before ++ .body .response (some staging) :: after) ∧
      StopPhase.ofTrace before = .pending ∧
      ¬HeedsStop before (.body .response (some staging)) := by
  have pending : StopPhase.ofTrace ((stopRun stopTooEarly).2.take 5) =
      .pending := by
    decide +kernel
  refine ⟨(stopRun stopTooEarly).1, (stopRun stopTooEarly).2.take 5,
    (stopRun stopTooEarly).2.drop 6, ?_, pending, fun heeds => ?_⟩
  · have split : (stopRun stopTooEarly).2.take 5 ++
        .body .response (some staging) :: (stopRun stopTooEarly).2.drop 6 =
          (stopRun stopTooEarly).2 := by
      decide +kernel
    rw [split]
    exact Machine.Reaches.execute stopTooEarly .start (by decide +kernel)
  · exact absurd ((heeds _ _ rfl).1 pending) (by decide)

end DDServer

end DataDumpProtocol

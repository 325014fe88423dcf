import DataDumpProtocol.Series.EndToEnd
import DataDumpProtocol.Timers.Btimer

/-!
# The state machines with their timers

Each party has a `btimer` in one-shot mode, which its state bodies start, stop
and ask.  The `io_service` that the party was given may take a turn at any time.
As the timers never expire, what the parties do with them is what they do in an
environment where timers start and run on.
-/

namespace DataDumpProtocol

/-! ## Calls of the timer -/

/-- `startStateTransitionTimer`, whose timeout is in tenths of a second. -/
def startStateTransitionTimer (now : Nat) (timeout : AckTimeout) : TimerCall :=
  .start now (timeout.toNat * 100)

/-- The calls of a round of a send loop, and of what follows a frame that was
sent. -/
def sendCalls (stateRet : Option Bool) (behind : List TimerCall) :
    List TimerCall :=
  if stateRet = some true then behind else [.isExpired]

namespace DDClient

/-- The calls that a step of `FSMLoop` makes on the state transition timer. -/
def timerCalls (client : DDClient) (env : Environment) (now : Nat) :
    List TimerCall :=
  match client.point with
  | .enter .request => [startStateTransitionTimer now 200]
  | .enter .terminate => [.stop now]
  | .body (.requestSend request) =>
      sendCalls (client.sendLoop request env).1
        [startStateTransitionTimer now client.clientConfig.maxACKTimeout]
  | .body (.responseReceive response) =>
      match client.receiveLoop response .response env with
      | (some recvLen, response, _) =>
          if 0 < recvLen then
            [startStateTransitionTimer now response.header.maxACKTimeout]
          else
            [.isExpired]
      | (none, _, _) => [.isExpired]
  | .body (.initiateSend initiate) =>
      sendCalls (client.sendLoop initiate env).1
        [startStateTransitionTimer now client.serverConfig.maxACKTimeout]
  | .body (.blockReceive blockDataPacket) =>
      match client.receiveBlockLoop blockDataPacket .blockTransfer env with
      | (some recvLen, blockDataPacket, _) =>
          -- Behind the loop the timer is asked twice more, for the log.
          (if recvLen = 0 then [.isExpired, .isExpired, .isExpired] else []) ++
            match (client.handleBlock recvLen blockDataPacket env).1.point with
            | .body .blockContinue => []
            | _ =>
                [startStateTransitionTimer now
                  client.serverConfig.maxACKTimeout]
      | (none, _, _) => [.isExpired]
  | .body .blockContinue =>
      [startStateTransitionTimer now client.serverConfig.maxACKTimeout]
  | .body (.ackSend ackPacket) | .body (.ackNotSend ackPacket) =>
      sendCalls (client.sendLoop ackPacket env).1 []
  | _ => []

end DDClient

namespace DDServer

/-- The calls that a step of `FSMLoop` makes on the state transition timer. -/
def timerCalls (server : DDServer) (env : Environment) (now : Nat) :
    List TimerCall :=
  match server.point with
  | .enter .idle => [.stop now]
  | .enter .terminate => [.stop now, .stop now]
  | .body (.requestReceive request) =>
      if (server.receive request .request env).1 = 0 then []
      else [startStateTransitionTimer now server.serverConfig.maxACKTimeout]
  | .body (.responseSend response) =>
      sendCalls (server.sendLoop response env).1
        [startStateTransitionTimer now server.clientConfig.maxACKTimeout]
  | .body (.initiateReceive initiate) =>
      match server.receiveLoop initiate .initiateBlockTransfer env with
      | (some recvLen, initiate, _) =>
          if recvLen = 0 then [.isExpired]
          else if server.clientConfig.transactionID =
              initiate.header.transactionID then
            [startStateTransitionTimer now server.clientConfig.maxACKTimeout]
          else []
      | (none, _, _) => [.isExpired]
  | .body (.blockSend blockDataPacket) =>
      sendCalls (server.sendBlockLoop blockDataPacket env).1 []
  | .body .blockContinue =>
      [startStateTransitionTimer now server.clientConfig.maxACKTimeout]
  | .body (.ackReceive ackPacket) =>
      match server.receiveLoop ackPacket .blockAck env with
      | (some recvLen, _, _) => if recvLen = 0 then [.isExpired] else []
      | (none, _, _) => [.isExpired]
  | _ => []

end DDServer

/-! ## The parties with their timers -/

/-- The environment with the answers of a timer. -/
def Environment.timed (env : Environment) (waits : TimerWaits) (now : Nat) :
    Environment :=
  { env with
    timerStarted := (waits.start now (200 * 100)).1
    timerExpired := waits.isExpired.1 }

/-- An action of the client, with the answers of its timer. -/
def DDClient.Action.timed (waits : TimerWaits) (now : Nat) :
    DDClient.Action → DDClient.Action
  | .fsm env => .fsm (env.timed waits now)
  | other => other

/-- The calls that an action of the client makes on its timer. -/
def DDClient.Action.timerCalls (client : DDClient) (now : Nat) :
    DDClient.Action → List TimerCall
  | .fsm env => client.timerCalls env now
  | _ => []

/-- An action of the server, with the answers of its timer. -/
def DDServer.Action.timed (waits : TimerWaits) (now : Nat) :
    DDServer.Action → DDServer.Action
  | .fsm env => .fsm (env.timed waits now)
  | other => other

/-- The calls that an action of the server makes on its timer. -/
def DDServer.Action.timerCalls (server : DDServer) (now : Nat) :
    DDServer.Action → List TimerCall
  | .fsm env => server.timerCalls env now
  | _ => []

/-- A network whose parties have timers. -/
structure Timed where
  network : Network
  clientTimer : TimerWaits
  serverTimer : TimerWaits

namespace Timed

/-- The timer that the constructor of `DataDump` makes. -/
def stateTransitionTimer : TimerWaits where
  timer := .construct .given .oneShot false

/-- Both parties as constructed. -/
def new (client server : Parameters) (clientHeap serverHeap : Heap) :
    Timed where
  network := .new client server clientHeap serverHeap
  clientTimer := stateTransitionTimer
  serverTimer := stateTransitionTimer

/-- What can happen to the parties and their timers, each at a time. -/
inductive Action
  | client (action : DDClient.Action) (arrives : Bool) (now : Nat)
  | server (action : DDServer.Action) (arrives : Bool) (now : Nat)
  | disturb (toServer toClient : List Frame)
  /-- The `io_service` that the client was given takes a turn. -/
  | clientTurn (now : Nat)
  /-- The `io_service` that the server was given takes a turn. -/
  | serverTurn (now : Nat)

/-- What an action does to the network, if it does anything there. -/
def Action.plain (timed : Timed) : Action → Option Network.Action
  | .client action arrives now =>
      some (.client (action.timed timed.clientTimer now) arrives)
  | .server action arrives now =>
      some (.server (action.timed timed.serverTimer now) arrives)
  | .disturb toServer toClient => some (.disturb toServer toClient)
  | .clientTurn _ | .serverTurn _ => none

/-- One action. -/
def step (ran : Ran) (timed : Timed) : Action → Timed × List Observation
  | .client action arrives now =>
      let action := action.timed timed.clientTimer now
      let (network, observations) :=
        timed.network.step (.client action arrives)
      let heard := Channel.heard timed.network.toClient arrives
      let calls :=
        (action.hearing heard.bytes).timerCalls timed.network.client now
      ({ timed with
          network := network
          clientTimer := timed.clientTimer.callAll ran calls },
        observations)
  | .server action arrives now =>
      let action := action.timed timed.serverTimer now
      let (network, observations) :=
        timed.network.step (.server action arrives)
      let heard := Channel.heard timed.network.toServer arrives
      let calls :=
        (action.hearing heard.bytes).timerCalls timed.network.server now
      ({ timed with
          network := network
          serverTimer := timed.serverTimer.callAll ran calls },
        observations)
  | .disturb toServer toClient =>
      let (network, observations) :=
        timed.network.step (.disturb toServer toClient)
      ({ timed with network := network }, observations)
  | .clientTurn now =>
      ({ timed with clientTimer := timed.clientTimer.turn ran .given now }, [])
  | .serverTurn now =>
      ({ timed with serverTimer := timed.serverTimer.turn ran .given now }, [])

/-- The parties and their timers, with boost as it may be. -/
def machine (ran : Ran) : Machine Timed Action Observation := ⟨step ran⟩

end Timed

/-! ## Runs -/

/-- The timer starts, and does not expire. -/
def Network.Action.TimersRun : Network.Action → Prop
  | .client (.fsm env) _ | .server (.fsm env) _ =>
      env.timerStarted = true ∧ env.timerExpired = false
  | _ => True

namespace Timed

/-- The network admits what an action does there, provided that timers run. -/
def Admits
    (admits : Network → List Observation → Network.Action → Prop)
    (timed : Timed)
    (trace : List Observation)
    (action : Action) : Prop :=
  ∀ plain, action.plain timed = some plain → plain.TimersRun →
    admits timed.network trace plain

/-- Neither timer has expired, and neither waits on the service that it was
given. -/
structure Inert (timed : Timed) : Prop where
  client : timed.clientTimer.Inert
  server : timed.serverTimer.Inert

section Runs

variable {ran : Ran} {timed : Timed} {action : Action}
variable {trace : List Observation}

theorem inert_stateTransitionTimer : stateTransitionTimer.Inert :=
  ⟨rfl, rfl, by simp [stateTransitionTimer]⟩

/-- Whatever a party does with its timer, it does not expire. -/
theorem Inert.step
    (runsReady : RunsReady ran)
    (inert : timed.Inert)
    (action : Action) :
    (timed.step ran action).1.Inert := by
  cases action with
  | client => exact ⟨inert.client.callAll runsReady _, inert.server⟩
  | server => exact ⟨inert.client, inert.server.callAll runsReady _⟩
  | disturb => exact ⟨inert.client, inert.server⟩
  | clientTurn now => exact ⟨inert.client.turn runsReady now, inert.server⟩
  | serverTurn now => exact ⟨inert.client, inert.server.turn runsReady now⟩

theorem Inert.timersRun
    {plain : Network.Action}
    (inert : timed.Inert)
    (same : action.plain timed = some plain) :
    plain.TimersRun := by
  cases action with
  | client action =>
      obtain rfl := Option.some.inj same
      cases action with
      | fsm => exact ⟨rfl, inert.client.timerExpiry⟩
      | startNewTransfer => trivial
  | server action =>
      obtain rfl := Option.some.inj same
      cases action with
      | fsm => exact ⟨rfl, inert.server.timerExpiry⟩
      | startServer | stopServer => trivial
  | disturb =>
      obtain rfl := Option.some.inj same
      trivial
  | clientTurn | serverTurn => cases same

/-- A step does to the network what the action does there. -/
theorem step_network (ran : Ran) (timed : Timed) (action : Action) :
    match action.plain timed with
    | some plain =>
        timed.network.step plain =
          ((timed.step ran action).1.network, (timed.step ran action).2)
    | none =>
        (timed.step ran action).1.network = timed.network ∧
          (timed.step ran action).2 = [] := by
  cases action with
  | client | server | disturb => rfl
  | clientTurn | serverTurn => exact ⟨rfl, rfl⟩

theorem projects
    {admits : Network → List Observation → Network.Action → Prop}
    (inert : timed.Inert)
    (admitted : timed.Admits admits trace action) :
    (machine ran).Projects Network.machine
      (fun network trace action =>
        admits network trace action ∧ action.TimersRun)
      Timed.network some timed trace action := by
  have stepped := step_network ran timed action
  simp only [Machine.Projects, machine, Network.machine, List.filterMap_some]
  cases plain : action.plain timed with
  | none =>
      rw [plain] at stepped
      exact .inl stepped
  | some plain' =>
      rw [plain] at stepped
      have runs := inert.timersRun plain
      exact .inr ⟨plain', ⟨admitted plain' plain runs, runs⟩, stepped⟩

theorem inert_of_reaches
    {admits : Timed → List Observation → Action → Prop}
    {start : Timed}
    (runsReady : RunsReady ran)
    (inert : start.Inert)
    (reaches : (machine ran).Reaches admits start timed trace) :
    timed.Inert :=
  reaches.invariant (fun timed _ => timed.Inert) inert
    fun _ _ action inert _ => inert.step runsReady action

/-- A run of the parties with timers that do nothing is one in which all timers
start and none expires. -/
theorem network_of_reaches
    {admits : Network → List Observation → Network.Action → Prop}
    {start : Timed}
    (runsReady : RunsReady ran)
    (inert : start.Inert)
    (reaches : (machine ran).Reaches (Admits admits) start timed trace) :
    Network.machine.Reaches
      (fun network trace action =>
        admits network trace action ∧ action.TimersRun)
      start.network timed.network trace := by
  have projected := reaches.project Timed.network some
    fun _ _ _ reached _ admitted =>
      projects (inert_of_reaches runsReady inert reached) admitted
  rwa [List.filterMap_some] at projected

/-- The timers that the constructors make do nothing. -/
theorem inert_new
    (client server : Parameters)
    (clientHeap serverHeap : Heap) :
    (new client server clientHeap serverHeap).Inert :=
  ⟨inert_stateTransitionTimer, inert_stateTransitionTimer⟩

/-- With the timers that the constructors make, every run of the parties is one
in which all timers start and none expires, whatever the channels do and
whenever the `io_service` of a party takes a turn. -/
theorem never_expires
    {admits : Network → List Observation → Network.Action → Prop}
    {client server : Parameters}
    {clientHeap serverHeap : Heap}
    (runsReady : RunsReady ran)
    (reaches : (machine ran).Reaches (Admits admits)
      (new client server clientHeap serverHeap) timed trace) :
    Network.machine.Reaches
      (fun network trace action =>
        admits network trace action ∧ action.TimersRun)
      (.new client server clientHeap serverHeap) timed.network trace :=
  network_of_reaches runsReady (inert_new _ _ _ _) reaches

end Runs

/-- A client sends its request and polls for a response, and its `io_service`
takes a turn long after. -/
def exampleTurn : List Action :=
  .client (.startNewTransfer (some ⟨1, 0⟩) 12 {}) true 0 ::
    List.replicate 19 (.client (.fsm {}) true 0) ++
    [.clientTurn 1000000, .client (.fsm {}) true 1000000]

/-- What the actions make of a fresh network with timers. -/
def exampleRun (actions : List Action) : Timed × List Observation :=
  (machine ranInOrder).execute
    (new Network.exampleParameters Network.exampleParameters (fun _ _ => 0)
      fun _ _ => 0) [] actions

theorem reaches_exampleRun
    {admits : Timed → List Observation → Action → Prop}
    {actions : List Action}
    (admitted : ∀ timed trace, ∀ action ∈ actions, admits timed trace action) :
    (machine ranInOrder).Reaches admits
      (new Network.exampleParameters Network.exampleParameters (fun _ _ => 0)
        fun _ _ => 0)
      (exampleRun actions).1 (exampleRun actions).2 := by
  have known : (machine ranInOrder).Reaches
      (fun _ _ action => action ∈ actions) _ (exampleRun actions).1
      (exampleRun actions).2 :=
    Machine.Reaches.execute actions .start
      (Machine.admitted_of_forall fun action present => present)
  exact known.mono fun timed trace action present =>
    admitted timed trace action present

/-- The wait for the response is overdue, and no timer has expired. -/
theorem never_expires_example :
    Network.machine.Reaches (fun _ _ action => True ∧ action.TimersRun)
        (.new Network.exampleParameters Network.exampleParameters
          (fun _ _ => 0) fun _ _ => 0)
        (exampleRun exampleTurn).1.network (exampleRun exampleTurn).2 ∧
      (exampleRun exampleTurn).1.clientTimer.pending.getLast? =
        some { service := .member, deadline := 500 } :=
  ⟨never_expires runsReady_ranInOrder
    (reaches_exampleRun fun _ _ _ _ _ _ _ => trivial), by decide +kernel⟩

end Timed

end DataDumpProtocol

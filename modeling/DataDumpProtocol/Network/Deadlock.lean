import DataDumpProtocol.Network.Availability
import DataDumpProtocol.Timers.Timed

/-!
# Two parties that wait for each other

When both parties are in a loop that waits, and no frame in flight is one that
its receiver accepts, only a timeout could help.  As the timers never expire,
one frame that is lost is enough to keep both parties there for ever.
-/

namespace DataDumpProtocol

/-- What holds where nothing waits, and where a frame of the channel waits,
holds of a poll. -/
theorem Channel.holds_of_heard
    {holds : Environment → Prop}
    {channel : List Frame}
    (nothing : ∀ env : Environment, env.incoming = [] → holds env)
    (each : ∀ frame ∈ channel, ∀ env,
      holds (Environment.hearing env frame.bytes))
    (arrives : Bool)
    (env : Environment) :
    holds (env.hearing (heard channel arrives).bytes) := by
  by_cases empty : (heard channel arrives).bytes = []
  · exact nothing _ empty
  · exact each _ (heard_mem empty) env

theorem DataDump.delivered_of_nothing
    {dump : DataDump}
    {env : Environment}
    (nothing : env.incoming = []) :
    dump.delivered env = [] := by
  unfold delivered
  split
  · exact nothing
  · rfl

/-! ## The client -/

namespace DDClient

/-- The frame that waits is not the one that the loop waits for. -/
def Rejects (client : DDClient) (env : Environment) : ClientBody → Prop
  | .responseReceive _ => ¬client.Accepts .response env
  | .blockReceive _ => ¬client.AcceptsBlock .blockTransfer env
  | _ => False

/-- The client is in a loop that waits, and for none of these frames. -/
def Starves (channel : List Frame) (client : DDClient) : Prop :=
  ∃ body, client.point = .body body ∧ body.listens = true ∧
    ∀ frame ∈ channel, ∀ env,
      client.Rejects (Environment.hearing env frame.bytes) body

section Starves

variable {client : DDClient} {env : Environment}

theorem rejects_of_nothing
    {body : ClientBody}
    (listens : body.listens = true)
    (nothing : env.incoming = []) :
    client.Rejects env body := by
  cases body with
  | responseReceive | blockReceive =>
      exact fun accepts => accepts.1 (DataDump.delivered_of_nothing nothing)
  | _ => simp [ClientBody.listens] at listens

/-- A client that rejects what waits goes round its loop. -/
theorem fsmStep_of_rejects
    {body : ClientBody}
    (here : client.point = .body body)
    (listens : body.listens = true)
    (rejects : client.Rejects env body)
    (running : env.timerExpired = false) :
    ∃ body', body'.listens = true ∧
      (∀ env, client.Rejects env body → client.Rejects env body') ∧
      client.fsmStep env = (client.goto (.body body'), client.pollEvent) := by
  cases body with
  | responseReceive response =>
      obtain ⟨result, response', events, loop, outcome, -⟩ :=
        client.receiveLoop_outcome response .response env
      refine ⟨.responseReceive response', rfl, fun _ => id, ?_⟩
      simp only [fsmStep, here, stepBody, loop]
      cases outcome with
      | polled => rfl
      | expired _ expired => simp [running] at expired
      | accepted accepts => exact absurd accepts rejects
  | blockReceive blockDataPacket =>
      obtain ⟨result, packet', events, loop, outcome, -⟩ :=
        client.receiveBlockLoop_outcome blockDataPacket .blockTransfer env
      refine ⟨.blockReceive packet', rfl, fun _ => id, ?_⟩
      simp only [fsmStep, here, stepBody, loop]
      cases outcome with
      | polled => rfl
      | expired _ expired => simp [running] at expired
      | accepted accepts => exact absurd accepts rejects
  | _ => simp [ClientBody.listens] at listens

theorem Starves.mono
    {channel channel' : List Frame}
    (starves : client.Starves channel)
    (subset : channel' ⊆ channel) :
    client.Starves channel' := by
  obtain ⟨body, here, listens, rejects⟩ := starves
  exact ⟨body, here, listens, fun frame present =>
    rejects frame (subset present)⟩

/-- A client that starves goes on to starve. -/
theorem Starves.step
    {channel : List Frame}
    (starves : client.Starves channel)
    (arrives : Bool)
    (running : env.timerExpired = false) :
    Starves channel
        (client.fsmStep
          (env.hearing (Channel.heard channel arrives).bytes)).1 ∧
      ∀ event ∈ (client.fsmStep
        (env.hearing (Channel.heard channel arrives).bytes)).2,
        event = .polled := by
  obtain ⟨body, here, listens, rejects⟩ := starves
  have rejected := Channel.holds_of_heard
    (fun _ => rejects_of_nothing listens) rejects arrives env
  obtain ⟨body', listens', congr, stepped⟩ :=
    fsmStep_of_rejects here listens rejected running
  rw [stepped]
  refine ⟨⟨body', rfl, listens', fun frame present env => ?_⟩, ?_⟩
  · exact congr _ (rejects frame present env)
  · exact fun event polled => (DataDump.mem_pollEvent.mp polled).2

/-- A client that starves is busy. -/
theorem Starves.refuses
    {parameters : Parameters}
    {channel : List Frame}
    {buffer : Option Pointer}
    {size : Nat}
    {client' : DDClient}
    {events : List Event}
    (starves : client.Starves channel)
    (sound : client.Sound parameters)
    (calls : client.Calls buffer size client' events) :
    client' = client ∧ events = [] := by
  obtain ⟨body, here, -⟩ := starves
  cases calls with
  | refused => exact ⟨rfl, rfl⟩
  | started _ _ resting =>
      exact absurd ((sound.busy_of_inside here).symm.trans resting) (by simp)

end Starves

end DDClient

/-! ## The server -/

namespace DDServer

/-- The frame that waits is not the one that the loop waits for. -/
def Rejects (server : DDServer) (env : Environment) : ServerBody → Prop
  | .requestReceive _ => ¬server.Accepts .request env
  | .initiateReceive _ => ¬server.Accepts .initiateBlockTransfer env
  | .ackReceive _ => ¬server.Accepts .blockAck env
  | _ => False

/-- The server is in a loop that waits, and for none of these frames. -/
def Starves (channel : List Frame) (server : DDServer) : Prop :=
  ∃ body, server.point = .body body ∧ body.listens = true ∧
    ∀ frame ∈ channel, ∀ env,
      server.Rejects (Environment.hearing env frame.bytes) body

section Starves

variable {server : DDServer} {env : Environment}

theorem rejects_of_nothing
    {body : ServerBody}
    (listens : body.listens = true)
    (nothing : env.incoming = []) :
    server.Rejects env body := by
  cases body with
  | requestReceive | initiateReceive | ackReceive =>
      exact fun accepts => accepts.1 (DataDump.delivered_of_nothing nothing)
  | _ => simp [ServerBody.listens] at listens

/-- A server that rejects what waits goes round its loop. -/
theorem fsmStep_of_rejects
    {body : ServerBody}
    (here : server.point = .body body)
    (listens : body.listens = true)
    (rejects : server.Rejects env body)
    (running : env.timerExpired = false) :
    ∃ body', body'.listens = true ∧
      (∀ env, server.Rejects env body → server.Rejects env body') ∧
      server.fsmStep env = (server.goto (.body body'), server.pollEvent) := by
  cases body with
  | requestReceive request =>
      have zero : (server.receive request .request env).1 = 0 := by
        by_contra positive
        exact rejects ((DataDump.receive_ne_zero_iff _ _).mp positive)
      obtain ⟨recvLen, request', received⟩ :
          ∃ recvLen request',
            server.receive request .request env = (recvLen, request') :=
        ⟨_, _, rfl⟩
      rw [received] at zero
      refine ⟨.requestReceive request', rfl, fun _ => id, ?_⟩
      simp only [fsmStep, here, stepBody, received]
      obtain rfl : recvLen = 0 := zero
      rfl
  | initiateReceive initiate =>
      obtain ⟨result, initiate', events, loop, outcome, -⟩ :=
        server.receiveLoop_outcome initiate .initiateBlockTransfer env
      refine ⟨.initiateReceive initiate', rfl, fun _ => id, ?_⟩
      simp only [fsmStep, here, stepBody, loop]
      cases outcome with
      | polled => rfl
      | expired _ expired => simp [running] at expired
      | accepted accepts => exact absurd accepts rejects
  | ackReceive ackPacket =>
      obtain ⟨result, ackPacket', events, loop, outcome, -⟩ :=
        server.receiveLoop_outcome ackPacket .blockAck env
      refine ⟨.ackReceive ackPacket', rfl, fun _ => id, ?_⟩
      simp only [fsmStep, here, stepBody, loop]
      cases outcome with
      | polled => rfl
      | expired _ expired => simp [running] at expired
      | accepted accepts => exact absurd accepts rejects
  | _ => simp [ServerBody.listens] at listens

theorem Starves.mono
    {channel channel' : List Frame}
    (starves : server.Starves channel)
    (subset : channel' ⊆ channel) :
    server.Starves channel' := by
  obtain ⟨body, here, listens, rejects⟩ := starves
  exact ⟨body, here, listens, fun frame present =>
    rejects frame (subset present)⟩

/-- A server that starves goes on to starve. -/
theorem Starves.step
    {channel : List Frame}
    (starves : server.Starves channel)
    (arrives : Bool)
    (running : env.timerExpired = false) :
    Starves channel
        (server.fsmStep
          (env.hearing (Channel.heard channel arrives).bytes)).1 ∧
      ∀ event ∈ (server.fsmStep
        (env.hearing (Channel.heard channel arrives).bytes)).2,
        event = .polled := by
  obtain ⟨body, here, listens, rejects⟩ := starves
  have rejected := Channel.holds_of_heard
    (fun _ => rejects_of_nothing listens) rejects arrives env
  obtain ⟨body', listens', congr, stepped⟩ :=
    fsmStep_of_rejects here listens rejected running
  rw [stepped]
  refine ⟨⟨body', rfl, listens', fun frame present env => ?_⟩, ?_⟩
  · exact congr _ (rejects frame present env)
  · exact fun event polled => (DataDump.mem_pollEvent.mp polled).2

/-- What the application stores does not end a loop that waits. -/
theorem Starves.calls
    {channel : List Frame}
    {server' : DDServer}
    {events : List Event}
    (starves : server.Starves channel)
    (calls : server.Calls server' events) :
    server'.Starves channel := by
  cases calls with
  | store => exact starves

/-- A server that starves is busy. -/
theorem Starves.startServer
    {parameters : Parameters}
    {channel : List Frame}
    (starves : server.Starves channel)
    (sound : server.Sound parameters)
    (env : Environment) :
    (server.step (.startServer env)).2 = [] := by
  obtain ⟨body, here, -⟩ := starves
  have busy : server.isBusy = true :=
    sound.paced.busy_of_body here (by cases body <;> simp [ServerBody.state])
  simp [DDServer.step, DDServer.startServer, busy]

theorem stopServer_observed (env : Environment) :
    ∀ event ∈ (server.stopServer env).2, event = .serverStopped := by
  unfold stopServer
  split
  next => simp
  next => split <;> simp
  next => simp

end Starves

end DDServer

/-! ## Both parties -/

/-- An observation of two parties that wait: a poll, or the return of
`stopServer`. -/
def Observation.Idle : Observation → Prop
  | .client .polled | .server .polled | .server .serverStopped => True
  | _ => False

namespace Network

/-- Each party is in a loop that polls. -/
def Waits (network : Network) : Bool :=
  match network.client.point, network.server.point with
  | .body clientBody, .body serverBody =>
      clientBody.listens && serverBody.listens
  | _, _ => false

/-- Each party waits, and for none of the frames that are in flight. -/
structure Stuck (network : Network) : Prop where
  client : network.client.Starves network.toClient
  server : network.server.Starves network.toServer

section Stuck

variable {clientParameters serverParameters : Parameters}
variable {network : Network} {action : Action} {events : List Event}

theorem Stuck.afterClient
    {client : DDClient}
    (stuck : network.Stuck)
    (starves : client.Starves network.toClient)
    (arrives : Bool)
    (unsent : ∀ bytes, .sent bytes true ∉ events) :
    (network.afterClient arrives client events).Stuck := by
  refine ⟨starves.mono Channel.taken_sublist.subset, ?_⟩
  simpa [Network.afterClient, Channel.posted_of_unsent unsent]
    using stuck.server

theorem Stuck.afterServer
    {server : DDServer}
    (stuck : network.Stuck)
    (starves : server.Starves network.toServer)
    (arrives : Bool)
    (unsent : ∀ bytes, .sent bytes true ∉ events) :
    (network.afterServer arrives server events).Stuck := by
  refine ⟨?_, starves.mono Channel.taken_sublist.subset⟩
  simpa [Network.afterServer, Channel.posted_of_unsent unsent]
    using stuck.client

theorem Stuck.client_step
    {action : DDClient.Action}
    {arrives : Bool}
    (stuck : network.Stuck)
    (sound : network.Sound clientParameters serverParameters)
    (runs : Action.TimersRun (.client action arrives)) :
    (network.step (.client action arrives)).1.Stuck ∧
      ∀ observation ∈ (network.step (.client action arrives)).2,
        observation.Idle := by
  cases action with
  | fsm env =>
      obtain ⟨starves, polls⟩ := stuck.client.step arrives runs.2
      refine ⟨stuck.afterClient starves arrives fun bytes sent => ?_, ?_⟩
      · simpa using polls _ sent
      · intro observation observed
        obtain ⟨event, present, rfl⟩ := List.mem_map.mp observed
        rw [polls event present]
        trivial
  | startNewTransfer buffer size env =>
      obtain ⟨same, silent⟩ := stuck.client.refuses sound.client
        (DDClient.calls_startNewTransfer network.client buffer size env)
      simp only [step, DDClient.Action.hearing, silent, same]
      exact ⟨stuck.afterClient stuck.client arrives (by simp), by simp⟩

theorem Stuck.server_step
    {action : DDServer.Action}
    {arrives : Bool}
    (stuck : network.Stuck)
    (sound : network.Sound clientParameters serverParameters)
    (runs : Action.TimersRun (.server action arrives)) :
    (network.step (.server action arrives)).1.Stuck ∧
      ∀ observation ∈ (network.step (.server action arrives)).2,
        observation.Idle := by
  cases action with
  | fsm env =>
      obtain ⟨starves, polls⟩ := stuck.server.step arrives runs.2
      refine ⟨stuck.afterServer starves arrives fun bytes sent => ?_, ?_⟩
      · simpa using polls _ sent
      · intro observation observed
        obtain ⟨event, present, rfl⟩ := List.mem_map.mp observed
        rw [polls event present]
        trivial
  | startServer env =>
      have silent := stuck.server.startServer sound.server env
      have starves :=
        stuck.server.calls (DDServer.calls_startServer network.server env)
      simp only [step, DDServer.Action.hearing, silent]
      exact ⟨stuck.afterServer starves arrives (by simp), by simp⟩
  | stopServer env =>
      have stopped := network.server.stopServer_observed env
      have starves :=
        stuck.server.calls (DDServer.calls_stopServer network.server env)
      refine ⟨stuck.afterServer starves arrives fun bytes sent => ?_, ?_⟩
      · simpa using stopped _ sent
      · intro observation observed
        obtain ⟨event, present, rfl⟩ := List.mem_map.mp observed
        rw [stopped event present]
        trivial

/-- Whatever the locks and the channels do and the application calls, two
parties that are stuck stay there, and the application is told nothing. -/
theorem Stuck.step
    (stuck : network.Stuck)
    (sound : network.Sound clientParameters serverParameters)
    (shuffles : action.Shuffles network)
    (runs : action.TimersRun) :
    (network.step action).1.Stuck ∧
      ∀ observation ∈ (network.step action).2, observation.Idle := by
  cases action with
  | client => exact stuck.client_step sound runs
  | server => exact stuck.server_step sound runs
  | disturb toServer toClient =>
      exact ⟨⟨stuck.client.mono shuffles.2, stuck.server.mono shuffles.1⟩,
        by simp [Network.step]⟩

/-- Two parties that wait are stuck as soon as nothing is in flight. -/
theorem stuck_of_lost
    (waits : network.Waits = true)
    (lost : network.toServer = [] ∧ network.toClient = []) :
    network.Stuck := by
  unfold Waits at waits
  split at waits
  next clientBody serverBody client server =>
    obtain ⟨clientListens, serverListens⟩ := Bool.and_eq_true_iff.mp waits
    exact ⟨⟨clientBody, client, clientListens, by simp [lost.2]⟩,
      ⟨serverBody, server, serverListens, by simp [lost.1]⟩⟩
  next => simp at waits

end Stuck

end Network

/-! ## With the real timers -/

namespace Timed

section Deadlock

variable {ran : Ran} {timed timed' : Timed} {action : Action}
variable {clientParameters serverParameters : Parameters}

/-- What holds of two parties from where they are stuck. -/
structure Hangs (client server : Parameters) (timed : Timed) : Prop where
  stuck : timed.network.Stuck
  sound : timed.network.Sound client server
  inert : timed.Inert

/-- The channels may lose, duplicate, delay or reorder frames. -/
abbrev Shuffles (timed : Timed) (trace : List Observation) (action : Action) :
    Prop :=
  timed.Admits (fun network _ plain => plain.Shuffles network) trace action

theorem Hangs.step
    {trace : List Observation}
    (runsReady : RunsReady ran)
    (hangs : timed.Hangs clientParameters serverParameters)
    (shuffles : timed.Shuffles trace action) :
    (timed.step ran action).1.Hangs clientParameters serverParameters ∧
      ∀ observation ∈ (timed.step ran action).2, observation.Idle := by
  have inert := hangs.inert.step runsReady action
  have stepped := step_network ran timed action
  cases same : action.plain timed with
  | none =>
      rw [same] at stepped
      obtain ⟨network, silent⟩ := stepped
      refine ⟨⟨?_, ?_, inert⟩, by simp [silent]⟩
      · rw [network]
        exact hangs.stuck
      · rw [network]
        exact hangs.sound
  | some plain =>
      rw [same] at stepped
      have runs := hangs.inert.timersRun same
      have kept := hangs.stuck.step hangs.sound (shuffles plain same runs) runs
      have sound := (hangs.sound.steps plain).sound hangs.sound
      rw [stepped] at kept sound
      exact ⟨⟨kept.1, sound, inert⟩, kept.2⟩

/-- Once both parties wait and no frame in flight is one that its receiver
accepts, no run gets them out of it: they poll for ever, no notification is
made, and every call that would start a transfer is refused. -/
theorem stuck_forever
    {admits : Network → List Observation → Network.Action → Prop}
    {clientHeap serverHeap : Heap}
    {trace trace' : List Observation}
    (runsReady : RunsReady ran)
    (reaches : (machine ran).Reaches (Admits admits)
      (new clientParameters serverParameters clientHeap serverHeap) timed trace)
    (stuck : timed.network.Stuck)
    (goes : (machine ran).Reaches Shuffles timed timed' trace') :
    timed'.network.Stuck ∧ ∀ observation ∈ trace', observation.Idle := by
  have inert :=
    inert_new clientParameters serverParameters clientHeap serverHeap
  have hangs : timed.Hangs clientParameters serverParameters :=
    ⟨stuck,
      Network.sound_of_reaches (network_of_reaches runsReady inert reaches),
      inert_of_reaches runsReady inert reaches⟩
  have hung := goes.invariant
    (fun timed trace => timed.Hangs clientParameters serverParameters ∧
      ∀ observation ∈ trace, observation.Idle)
    ⟨hangs, by simp⟩ fun timed trace action hung shuffles => by
      obtain ⟨kept, idle⟩ := hung.1.step runsReady shuffles
      refine ⟨kept, fun observation observed => ?_⟩
      rcases List.mem_append.mp observed with earlier | now
      · exact hung.2 observation earlier
      · exact idle observation now
  exact ⟨hung.1.stuck, hung.2⟩

end Deadlock

/-- The client sends its request, which the channel loses, and both parties
poll. -/
def exampleLoss : List Action :=
  [.server (.startServer {}) true 0,
      .client (.startNewTransfer (some ⟨1, 0⟩) 12 {}) true 0] ++
    List.replicate 19 (.client (.fsm {}) true 0) ++
    List.replicate 7 (.server (.fsm {}) true 0) ++ [.disturb [] []]

/-- The parties go on to poll, their services take turns long after, and the
application tries to start another transfer. -/
def exampleWait : List Action :=
  [.clientTurn 1000000, .serverTurn 1000000,
    .client (.fsm {}) true 1000000, .server (.fsm {}) true 1000000,
    .client (.startNewTransfer (some ⟨1, 0⟩) 12 {}) true 1000000]

/-- Long after its request was lost, the client polls for a response, and a new
transfer is refused. -/
theorem stuck_forever_example :
    let lost := (exampleRun exampleLoss).1
    let waited := (machine ranInOrder).execute lost [] exampleWait
    waited.2 = [.client .polled, .server .polled] ∧
      waited.1.network.Stuck ∧
      ∀ observation ∈ waited.2, observation.Idle := by
  have reached : (machine ranInOrder).Reaches (Admits fun _ _ _ => True) _
      (exampleRun exampleLoss).1 (exampleRun exampleLoss).2 :=
    reaches_exampleRun fun _ _ _ _ _ _ _ => trivial
  refine ⟨by decide +kernel, stuck_forever runsReady_ranInOrder reached
    (Network.stuck_of_lost (by decide +kernel) (by decide +kernel))
    (Machine.Reaches.execute exampleWait .start ?_)⟩
  refine ⟨?_, ?_, ?_, ?_, ?_, trivial⟩
  all_goals
    intro plain same runs
    cases same <;> trivial

end Timed

end DataDumpProtocol

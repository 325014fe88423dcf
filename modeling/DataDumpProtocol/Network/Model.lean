import DataDumpProtocol.Machines.ClientMoves
import DataDumpProtocol.Machines.ServerMoves

/-!
# Client and server joined by two channels

Whatever one party's `sendCB` takes waits in a channel until the other party's
`recvCB` hands it over.  A poll finds the frame at the front, or nothing when
it has not arrived yet.  What else a channel may do to its frames, such as
lose or duplicate them, is left to the runs: the action `disturb` replaces both
channels, and `admits` says by what.

Frames are tagged with what they were sent for, and a history is kept of both
parties.  Neither tags nor history are seen by the parties.
-/

namespace DataDumpProtocol

/-- A frame in flight. -/
structure Frame where
  bytes : List Byte := []
  /-- The transfer that it was sent in. -/
  transfer : Nat := 0
  /-- The transaction whose data it carries or acknowledges. -/
  transaction : Nat := 0
  /-- Where its payload starts in that transaction's data. -/
  position : Nat := 0
  /-- The caller's buffer of the transfer that it was sent in. -/
  buffer : Pointer := ⟨0, 0⟩
  deriving DecidableEq

/-- What happened so far.  Transfers are counted by `startNewTransfer`, and
transactions by the reads of storage. -/
structure History where
  /-- The number of transfers that were started. -/
  transfer : Nat := 0
  /-- The caller's buffer of the last transfer. -/
  caller : Pointer := ⟨0, 0⟩
  /-- The number of bytes stored in it. -/
  stored : Nat := 0
  /-- The transaction of the block that was stored last. -/
  source : Nat := 0
  /-- Where that block ends in the transaction's data. -/
  reached : Nat := 0
  /-- The transfer whose request was accepted last. -/
  serving : Nat := 0
  /-- The number of transactions. -/
  transaction : Nat := 0
  /-- What storage delivered for each transaction. -/
  contents : Nat → List Byte := fun _ => []
  /-- Where the last transaction's data start in the staging buffer. -/
  origin : Nat := 0
  /-- Where the last payload was copied from in the staging buffer. -/
  copied : Nat := 0
  /-- The caller's buffer that the last erasing call was acknowledged for. -/
  acknowledged : Pointer := ⟨0, 0⟩

namespace History

/-- Enter an event of the client, which heard this frame. -/
def noteClient (heard : Frame) (history : History) : Event → History
  | .transferStarted buffer _ =>
      { history with
        transfer := history.transfer + 1, caller := buffer, stored := 0 }
  | .blockStored _ payload =>
      { history with
        stored := history.stored + payload.length
        source := heard.transaction
        reached := heard.position + payload.length }
  | _ => history

/-- Enter an event of the server, which heard this frame. -/
def noteServer (heard : Frame) (history : History) : Event → History
  | .received header =>
      if header.msgType = .request then
        { history with serving := heard.transfer }
      else
        history
  | .storageRead target _ contents =>
      { history with
        transaction := history.transaction + 1
        contents := Function.update history.contents (history.transaction + 1)
          contents
        origin := target.offset }
  | .payloadCopied source _ => { history with copied := source.offset }
  | .storageErased _ _ => { history with acknowledged := heard.buffer }
  | _ => history

/-- A frame that the client sends. -/
def clientFrame (history : History) (bytes : List Byte) : Frame where
  bytes := bytes
  transfer := history.transfer
  transaction := history.source
  buffer := history.caller

/-- A frame that the server sends. -/
def serverFrame (history : History) (bytes : List Byte) : Frame where
  bytes := bytes
  transfer := history.serving
  transaction := history.transaction
  position := history.copied - history.origin

end History

namespace Channel

/-- The frame that a poll would find. -/
def heard (channel : List Frame) (arrives : Bool) : Frame :=
  if arrives then channel.headD {} else {}

/-- The channel after a party made these observations. -/
def taken (channel : List Frame) (arrives : Bool) (events : List Event) :
    List Frame :=
  if arrives = true ∧ .polled ∈ events then channel.tail else channel

/-- The frames that `sendCB` took. -/
def posted (stamp : List Byte → Frame) (events : List Event) : List Frame :=
  events.filterMap fun event =>
    match event with
    | .sent bytes true => some (stamp bytes)
    | _ => none

end Channel

/-- Client and server, and the frames between them. -/
structure Network where
  client : DDClient
  server : DDServer
  toServer : List Frame := []
  toClient : List Frame := []
  history : History := {}

/-- An event of one of the parties. -/
inductive Observation
  | client (event : Event)
  | server (event : Event)
  deriving DecidableEq

/-- The environment with these bytes waiting at `recvCB`. -/
def Environment.hearing (env : Environment) (incoming : List Byte) :
    Environment :=
  { env with incoming := incoming }

/-- An action of the client, with these bytes waiting at `recvCB`. -/
def DDClient.Action.hearing (incoming : List Byte) :
    DDClient.Action → DDClient.Action
  | .fsm env => .fsm (env.hearing incoming)
  | other => other

/-- An action of the server, with these bytes waiting at `recvCB`. -/
def DDServer.Action.hearing (incoming : List Byte) :
    DDServer.Action → DDServer.Action
  | .fsm env => .fsm (env.hearing incoming)
  | other => other

namespace Network

/-- Both parties as constructed. -/
def new (client server : Parameters) (clientHeap serverHeap : Heap) :
    Network where
  client := .new client clientHeap
  server := .new server serverHeap

/-- The network after a step of the client. -/
def afterClient
    (network : Network)
    (arrives : Bool)
    (client : DDClient)
    (events : List Event) : Network where
  client := client
  server := network.server
  toServer := network.toServer ++
    Channel.posted network.history.clientFrame events
  toClient := Channel.taken network.toClient arrives events
  history := events.foldl
    (History.noteClient (Channel.heard network.toClient arrives))
    network.history

/-- The network after a step of the server. -/
def afterServer
    (network : Network)
    (arrives : Bool)
    (server : DDServer)
    (events : List Event) : Network where
  client := network.client
  server := server
  toServer := Channel.taken network.toServer arrives events
  toClient := network.toClient ++
    Channel.posted network.history.serverFrame events
  history := events.foldl
    (History.noteServer (Channel.heard network.toServer arrives))
    network.history

/-- What can happen to a network.  A party's action comes with whether the
frame at the front of its channel has arrived. -/
inductive Action
  | client (action : DDClient.Action) (arrives : Bool)
  | server (action : DDServer.Action) (arrives : Bool)
  /-- The channels do something to their frames. -/
  | disturb (toServer toClient : List Frame)

/-- Every lock is acquired within its millisecond. -/
def Action.Acquires : Action → Prop
  | .client action _ => action.Acquires
  | .server action _ => action.Acquires
  | .disturb _ _ => True

instance : (action : Action) → Decidable action.Acquires
  | .client action _ => inferInstanceAs (Decidable action.Acquires)
  | .server action _ => inferInstanceAs (Decidable action.Acquires)
  | .disturb _ _ => inferInstanceAs (Decidable True)

/-- The channels lose, duplicate, delay or reorder frames, but make up none. -/
def Action.Shuffles (network : Network) : Action → Prop
  | .client _ _ | .server _ _ => True
  | .disturb toServer toClient =>
      toServer ⊆ network.toServer ∧ toClient ⊆ network.toClient

instance (network : Network) :
    (action : Action) → Decidable (action.Shuffles network)
  | .client _ _ | .server _ _ => inferInstanceAs (Decidable True)
  | .disturb toServer toClient =>
      inferInstanceAs (Decidable
        (toServer ⊆ network.toServer ∧ toClient ⊆ network.toClient))

/-- One action on a network. -/
def step (network : Network) : Action → Network × List Observation
  | .client action arrives =>
      let heard := Channel.heard network.toClient arrives
      let (client, events) := network.client.step (action.hearing heard.bytes)
      (network.afterClient arrives client events, events.map .client)
  | .server action arrives =>
      let heard := Channel.heard network.toServer arrives
      let (server, events) := network.server.step (action.hearing heard.bytes)
      (network.afterServer arrives server events, events.map .server)
  | .disturb toServer toClient =>
      ({ network with toServer := toServer, toClient := toClient }, [])

/-- Two parties in an arbitrary environment. -/
def machine : Machine Network Action Observation := ⟨step⟩

/-! ## What one step can do -/

/-- What an action can do to a network. -/
inductive Steps (network : Network) :
    Action → Network → List Observation → Prop
  | clientMoves {env : Environment} {arrives : Bool} {client : DDClient}
      {events : List Event}
      (moves : network.client.Moves
        (env.hearing (Channel.heard network.toClient arrives).bytes)
        client events) :
      Steps network (.client (.fsm env) arrives)
        (network.afterClient arrives client events) (events.map .client)
  | clientCalls {buffer : Option Pointer} {size : Nat} {env : Environment}
      {arrives : Bool} {client : DDClient} {events : List Event}
      (calls : network.client.Calls buffer size client events) :
      Steps network (.client (.startNewTransfer buffer size env) arrives)
        (network.afterClient arrives client events) (events.map .client)
  | serverMoves {env : Environment} {arrives : Bool} {server : DDServer}
      {events : List Event}
      (moves : network.server.Moves
        (env.hearing (Channel.heard network.toServer arrives).bytes)
        server events) :
      Steps network (.server (.fsm env) arrives)
        (network.afterServer arrives server events) (events.map .server)
  | serverCalls {action : DDServer.Action} {arrives : Bool}
      {server : DDServer} {events : List Event}
      (calls : network.server.Calls server events) :
      Steps network (.server action arrives)
        (network.afterServer arrives server events) (events.map .server)
  | disturb {toServer toClient : List Frame} :
      Steps network (.disturb toServer toClient)
        { network with toServer := toServer, toClient := toClient } []

/-- What holds in every run of a network built from the parameters. -/
structure Sound (client server : Parameters) (network : Network) : Prop where
  client : network.client.Sound client
  server : network.server.Sound server

section Runs

variable {clientParameters serverParameters : Parameters}
variable {network network' : Network} {action : Action}
variable {observations : List Observation}

theorem Sound.steps
    (sound : network.Sound clientParameters serverParameters)
    (action : Action) :
    network.Steps action (network.step action).1 (network.step action).2 := by
  cases action with
  | client action arrives =>
      cases action with
      | fsm env => exact .clientMoves (sound.client.moves _)
      | startNewTransfer buffer size env =>
          exact .clientCalls (DDClient.calls_startNewTransfer _ _ _ _)
  | server action arrives =>
      cases action with
      | fsm env => exact .serverMoves (sound.server.moves _)
      | startServer env => exact .serverCalls (DDServer.calls_startServer _ _)
      | stopServer env => exact .serverCalls (DDServer.calls_stopServer _ _)
  | disturb toServer toClient => exact .disturb

theorem Steps.sound
    (steps : network.Steps action network' observations)
    (sound : network.Sound clientParameters serverParameters) :
    network'.Sound clientParameters serverParameters := by
  cases steps with
  | clientMoves moves => exact ⟨moves.sound sound.client, sound.server⟩
  | clientCalls calls => exact ⟨calls.sound sound.client, sound.server⟩
  | serverMoves moves => exact ⟨sound.client, moves.sound sound.server⟩
  | serverCalls calls => exact ⟨sound.client, calls.sound sound.server⟩
  | disturb => exact ⟨sound.client, sound.server⟩

theorem sound_new (client server : Parameters) (clientHeap serverHeap : Heap) :
    (new client server clientHeap serverHeap).Sound client server :=
  ⟨DDClient.sound_new _ _, DDServer.sound_new _ _⟩

/-- The invariant rule for runs of a network: each step may assume that both
parties are sound. -/
theorem invariant_of_reaches
    {admits : Network → List Observation → Action → Prop}
    {clientHeap serverHeap : Heap}
    {trace : List Observation}
    (reaches : machine.Reaches admits
      (new clientParameters serverParameters clientHeap serverHeap)
      network trace)
    (invariant : Network → Prop)
    (initial : invariant
      (new clientParameters serverParameters clientHeap serverHeap))
    (preserved : ∀ network trace action network' observations,
      network.Sound clientParameters serverParameters → invariant network →
        admits network trace action →
          network.Steps action network' observations → invariant network') :
    network.Sound clientParameters serverParameters ∧ invariant network := by
  refine reaches.invariant
    (fun network _ =>
      network.Sound clientParameters serverParameters ∧ invariant network)
    ⟨sound_new _ _ _ _, initial⟩ ?_
  rintro network trace action ⟨sound, holds⟩ admitted
  have steps := sound.steps action
  exact ⟨steps.sound sound, preserved _ _ _ _ _ sound holds admitted steps⟩

/-- Every run of a network keeps both parties sound. -/
theorem sound_of_reaches
    {admits : Network → List Observation → Action → Prop}
    {clientHeap serverHeap : Heap}
    {trace : List Observation}
    (reaches : machine.Reaches admits
      (new clientParameters serverParameters clientHeap serverHeap)
      network trace) :
    network.Sound clientParameters serverParameters :=
  (invariant_of_reaches reaches (fun _ => True) trivial
    fun _ _ _ _ _ _ _ _ _ => trivial).1

end Runs

end Network

/-! ## Example runs -/

namespace Network

/-- Parameters of both parties in the examples: two blocks of six bytes. -/
def exampleParameters : Parameters where
  transactionID := 7
  blocksPerTransaction := 2
  maxPacketlen := 11
  ackTimeout := 5

/-- Steps of the client's `FSMLoop`, in which frames arrive and every callback
answers by default. -/
def clientSteps (count : Nat) : List Action :=
  List.replicate count (.client (.fsm {}) true)

/-- Steps of the server's `FSMLoop`, in which frames arrive and every callback
answers by default. -/
def serverSteps (count : Nat) : List Action :=
  List.replicate count (.server (.fsm {}) true)

/-- A transfer up to the request. -/
def exampleRequest : List Action :=
  [.server (.startServer {}) true,
    .client (.startNewTransfer (some ⟨1, 0⟩) 12 {}) true] ++ clientSteps 9

/-- The server accepts the request and sends its response. -/
def exampleResponse (data : List Byte) : List Action :=
  serverSteps 15 ++ [.server (.fsm { stored := data.take }) true] ++
    serverSteps 2

/-- What the actions make of a fresh network. -/
def exampleRun (actions : List Action) : Network × List Observation :=
  machine.execute
    (new exampleParameters exampleParameters (fun _ _ => 0) fun _ _ => 0) []
    actions

theorem reaches_exampleRun
    {admits : Network → List Observation → Action → Prop}
    {actions : List Action}
    (admitted : machine.Admitted admits
      (new exampleParameters exampleParameters (fun _ _ => 0) fun _ _ => 0) []
      actions) :
    machine.Reaches admits
      (new exampleParameters exampleParameters (fun _ _ => 0) fun _ _ => 0)
      (exampleRun actions).1 (exampleRun actions).2 :=
  Machine.Reaches.execute actions .start admitted

end Network

/-! ## Channels -/

namespace Channel

variable {channel : List Frame} {arrives : Bool} {events : List Event}
variable {stamp : List Byte → Frame} {frame : Frame}

theorem taken_sublist : (taken channel arrives events).Sublist channel := by
  unfold taken
  split
  · exact List.tail_sublist channel
  · exact List.Sublist.refl channel

theorem mem_of_mem_taken (present : frame ∈ taken channel arrives events) :
    frame ∈ channel :=
  taken_sublist.subset present

theorem mem_posted :
    frame ∈ posted stamp events ↔
      ∃ bytes, .sent bytes true ∈ events ∧ frame = stamp bytes := by
  unfold posted
  rw [List.mem_filterMap]
  constructor
  · rintro ⟨event, present, posted⟩
    split at posted
    next bytes => exact ⟨bytes, present, (Option.some.inj posted).symm⟩
    next => simp at posted
  · rintro ⟨bytes, present, rfl⟩
    exact ⟨_, present, rfl⟩

theorem posted_of_unsent
    (unsent : ∀ bytes, .sent bytes true ∉ events) :
    posted stamp events = [] := by
  apply List.eq_nil_iff_forall_not_mem.mpr
  intro frame present
  obtain ⟨bytes, sent, -⟩ := mem_posted.mp present
  exact unsent bytes sent

theorem taken_of_unpolled (unpolled : .polled ∉ events) :
    taken channel arrives events = channel := by
  simp [taken, unpolled]

theorem taken_cons
    {frame : Frame}
    {rest : List Frame}
    (polled : .polled ∈ events) :
    taken (frame :: rest) true events = rest := by
  simp [taken, polled]

/-- A call by the application sends nothing. -/
theorem posted_clientCalls
    {client client' : DDClient}
    {buffer : Option Pointer}
    {size : Nat}
    (calls : client.Calls buffer size client' events) :
    posted stamp events = [] := by
  cases calls <;> rfl

theorem posted_serverCalls
    {server server' : DDServer}
    (calls : server.Calls server' events) :
    posted stamp events = [] := by
  obtain ⟨-, calm⟩ := calls
  apply List.eq_nil_iff_forall_not_mem.mpr
  intro frame present
  obtain ⟨bytes, sent, -⟩ := mem_posted.mp present
  simpa using calm _ sent

/-- A frame that is heard is in the channel, in front of all others. -/
theorem heard_eq (nonempty : (heard channel arrives).bytes ≠ []) :
    arrives = true ∧ ∃ rest, channel = heard channel arrives :: rest := by
  unfold heard at nonempty ⊢
  split at nonempty
  next arrived =>
    refine ⟨arrived, ?_⟩
    rw [if_pos arrived]
    cases channel with
    | nil => simp at nonempty
    | cons first rest => exact ⟨rest, rfl⟩
  next => simp at nonempty

theorem heard_mem (nonempty : (heard channel arrives).bytes ≠ []) :
    heard channel arrives ∈ channel := by
  obtain ⟨-, rest, split⟩ := heard_eq nonempty
  have front : heard channel arrives ∈ heard channel arrives :: rest :=
    List.mem_cons_self
  rwa [← split] at front

end Channel

end DataDumpProtocol

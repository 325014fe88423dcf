import DataDumpProtocol.Transfer.Client
import DataDumpProtocol.Transfer.Server

/-!
# A first transfer is correct from end to end

Client and server are constructed, `startServer` and `startNewTransfer` are
called, and from then on nothing fails: the channels bridge the two scripts, so
both sides get through to the end, in whatever order they take their steps.
-/

namespace DataDumpProtocol

/-! ## The channels -/

namespace Channel

variable {leads : Nat → List Byte → Nat → Prop} {channel : List Frame}
variable {heard sent : Nat}

/-- The frame at the front of a bridge is the next one of the script, and
behind it the bridge goes on. -/
theorem bridges_taken
    (bridges : Bridges (fun here frame => leads here frame.bytes) heard
      channel sent)
    (nonempty : ∀ here bytes there, leads here bytes there → bytes ≠ [])
    (arrives : Bool) :
    ∃ reached,
      ((Channel.heard channel arrives).bytes ≠ [] →
        leads heard (Channel.heard channel arrives).bytes reached) ∧
      ∀ events, Bridges (fun here frame => leads here frame.bytes)
        (if .polled ∈ events ∧ (Channel.heard channel arrives).bytes ≠ [] then
          reached else heard)
        (taken channel arrives events) sent := by
  cases arrives with
  | false =>
      refine ⟨heard, fun waits => absurd rfl waits, fun events => ?_⟩
      simpa [Channel.heard, taken] using bridges
  | true =>
      cases channel with
      | nil =>
          refine ⟨heard, fun waits => absurd rfl waits, fun events => ?_⟩
          simpa [Channel.heard, taken] using bridges
      | cons frame rest =>
          obtain ⟨reached, step, behind⟩ := bridges
          have waits := nonempty _ _ _ step
          refine ⟨reached, fun _ => step, fun events => ?_⟩
          by_cases polled : .polled ∈ events
          · rw [if_pos ⟨polled, waits⟩, taken_cons polled]
            exact behind
          · rw [if_neg fun both => polled both.1, taken_of_unpolled polled]
            exact ⟨reached, step, behind⟩

/-- What a side sends goes on with its script. -/
theorem bridges_posted
    {env : Environment}
    {reached : Nat}
    {standing standing' : Standing}
    {events : List Event}
    {stamp : List Byte → Frame}
    (bridges : Bridges (fun here frame => leads here frame.bytes) heard
      channel standing.sent)
    (follows : Follows leads env reached standing standing' events)
    (same : ∀ bytes, (stamp bytes).bytes = bytes) :
    Bridges (fun here frame => leads here frame.bytes) heard
      (channel ++ posted stamp events) standing'.sent := by
  rcases follows.sends with ⟨sent, unsent⟩ | ⟨bytes, rfl, next⟩
  · rw [posted_of_unsent unsent, List.append_nil, sent]
    exact bridges
  · refine bridges.append (Bridges.singleton ?_)
    rw [same]
    exact next

end Channel

/-! ## The notifications -/

/-- A side has notified, truthfully, exactly when it is finished. -/
structure Notices
    (side : Event → Observation)
    (finished : Bool)
    (trace : List Observation) : Prop where
  truthful : ∀ status, side (.notified status) ∈ trace → status = true
  finished : finished = true ↔ side (.notified true) ∈ trace

section Notices

variable {side : Event → Observation} {finished : Bool}
variable {trace observations : List Observation}

/-- Observations of the other side change nothing. -/
theorem Notices.aside
    (notices : Notices side finished trace)
    (others : ∀ event, side event ∉ observations) :
    Notices side finished (trace ++ observations) where
  truthful status notified := by
    rcases List.mem_append.mp notified with old | new
    · exact notices.truthful status old
    · exact absurd new (others _)
  finished := by simp [notices.finished, others]

/-- A step of the script notifies truthfully. -/
theorem Notices.follow
    {leads : Nat → List Byte → Nat → Prop}
    {env : Environment}
    {reached : Nat}
    {standing standing' : Standing}
    {events : List Event}
    (notices : Notices side standing.finished trace)
    (follows : Follows leads env reached standing standing' events)
    (injective : Function.Injective side) :
    Notices side standing'.finished (trace ++ events.map side) where
  truthful status notified := by
    rcases List.mem_append.mp notified with old | new
    · exact notices.truthful status old
    · exact (follows.notifies status
        ((List.mem_map_of_injective injective).mp new)).1
  finished := by
    rw [follows.finishes, notices.finished, List.mem_append,
      List.mem_map_of_injective injective]

end Notices

/-! ## Runs -/

/-- Locks are acquired, the timer starts and does not expire, and `sendCB`
accepts. -/
def Environment.Undisturbed (env : Environment) : Prop :=
  env.lockAcquired = true ∧ env.timerStarted = true ∧
    env.timerExpired = false ∧ env.sendAccepted = true

namespace FirstTransfer

/-- Fresh parties behind `startServer` and `startNewTransfer`. -/
def start (transfer : FirstTransfer) (clientHeap serverHeap : Heap) :
    Network :=
  let network :=
    Network.new transfer.client transfer.server clientHeap serverHeap
  let network := (network.step (.server (.startServer {}) true)).1
  (network.step
    (.client (.startNewTransfer (some transfer.buffer) transfer.size {})
      true)).1

/-- Either side takes a step of `FSMLoop`, and nothing fails: storage holds the
data, and reports zero for an erasing call of size zero. -/
def Admits (transfer : FirstTransfer) : Network.Action → Prop
  | .client (.fsm env) _ => env.Undisturbed
  | .server (.fsm env) _ =>
      env.Undisturbed ∧
        (∀ maxSize, env.stored maxSize = transfer.data.take maxSize) ∧
        env.erased 0 = 0
  | _ => False

/-- Both sides follow their scripts, and the channels bridge them. -/
structure Proceeds
    (transfer : FirstTransfer)
    (before : Heap)
    (network : Network)
    (trace : List Observation)
    (clientPhase : ClientPhase)
    (serverPhase : ServerPhase) : Prop where
  client : network.client.At transfer before clientPhase
  server : network.server.At transfer network.history serverPhase
  toServer : Bridges (fun here frame => transfer.Asks here frame.bytes)
    (serverPhase.standing transfer.data.length).heard network.toServer
    (clientPhase.standing transfer.data.length).sent
  toClient : Bridges (fun here frame => transfer.Answers here frame.bytes)
    (clientPhase.standing transfer.data.length).heard network.toClient
    (serverPhase.standing transfer.data.length).sent
  clientNotices : Notices .client
    (clientPhase.standing transfer.data.length).finished trace
  serverNotices : Notices .server
    (serverPhase.standing transfer.data.length).finished trace
  acknowledged : (clientPhase.standing transfer.data.length).sent = 3 →
    ∃ bytes, .client (.sent bytes true) ∈ trace ∧
      IsControl bytes .blockAck
        (DDClient.ackTerms transfer.client.transactionID)

section Proceeds

variable {transfer : FirstTransfer} {before : Heap} {network : Network}
variable {trace : List Observation} {clientPhase : ClientPhase}
variable {serverPhase : ServerPhase} {env : Environment} {arrives : Bool}

theorem Proceeds.clientMoves
    {client : DDClient}
    {events : List Event}
    (proceeds : transfer.Proceeds before network trace clientPhase serverPhase)
    (moves : network.client.Moves
      (env.hearing (Channel.heard network.toClient arrives).bytes)
      client events)
    (sound : network.client.Sound transfer.client)
    (undisturbed : env.Undisturbed) :
    ∃ clientPhase',
      transfer.Proceeds before (network.afterClient arrives client events)
        (trace ++ events.map .client) clientPhase' serverPhase := by
  obtain ⟨acquired, started, running, -⟩ := undisturbed
  obtain ⟨reached, waits, behind⟩ :=
    Channel.bridges_taken proceeds.toClient (fun _ _ _ => Answers.ne_nil) arrives
  obtain ⟨clientPhase', client', follows⟩ :=
    moves.follows sound acquired running started waits proceeds.client
  refine ⟨clientPhase', ?_⟩
  constructor
  case client => exact client'
  case server =>
    exact proceeds.server.congr (History.supply_noteClient events _ _)
  case toServer =>
    exact Channel.bridges_posted proceeds.toServer follows fun _ => rfl
  case toClient =>
    have hears := follows.hears
    rw [hears]
    exact behind events
  case clientNotices =>
    exact proceeds.clientNotices.follow follows fun _ _ => Observation.client.inj
  case serverNotices => exact proceeds.serverNotices.aside (by simp)
  case acknowledged =>
    intro all
    rcases follows.sends with ⟨same, -⟩ | ⟨bytes, rfl, asks⟩
    · obtain ⟨bytes, sent, control⟩ := proceeds.acknowledged (same ▸ all)
      exact ⟨bytes, List.mem_append_left _ sent, control⟩
    · rw [all] at asks
      exact ⟨bytes, by simp, asks.last⟩

theorem Proceeds.serverMoves
    {server : DDServer}
    {events : List Event}
    (proceeds : transfer.Proceeds before network trace clientPhase serverPhase)
    (moves : network.server.Moves
      (env.hearing (Channel.heard network.toServer arrives).bytes)
      server events)
    (sound : network.server.Sound transfer.server)
    (undisturbed : env.Undisturbed)
    (stored : ∀ maxSize, env.stored maxSize = transfer.data.take maxSize)
    (erased : env.erased 0 = 0) :
    ∃ serverPhase',
      transfer.Proceeds before (network.afterServer arrives server events)
        (trace ++ events.map .server) clientPhase serverPhase' := by
  obtain ⟨acquired, -, running, -⟩ := undisturbed
  obtain ⟨reached, waits, behind⟩ :=
    Channel.bridges_taken proceeds.toServer (fun _ _ _ => Asks.ne_nil) arrives
  obtain ⟨serverPhase', server', follows⟩ :=
    moves.follows sound acquired running stored erased waits proceeds.server
      (Channel.heard network.toServer arrives)
  refine ⟨serverPhase', ?_⟩
  constructor
  case client => exact proceeds.client
  case server => exact server'
  case toServer =>
    have hears := follows.hears
    rw [hears]
    exact behind events
  case toClient =>
    exact Channel.bridges_posted proceeds.toClient follows fun _ => rfl
  case clientNotices => exact proceeds.clientNotices.aside (by simp)
  case serverNotices =>
    exact proceeds.serverNotices.follow follows fun _ _ => Observation.server.inj
  case acknowledged =>
    intro all
    obtain ⟨bytes, sent, control⟩ := proceeds.acknowledged all
    exact ⟨bytes, List.mem_append_left _ sent, control⟩

end Proceeds

/-- Both sides begin with their scripts. -/
theorem proceeds_start
    (transfer : FirstTransfer)
    (clientHeap serverHeap : Heap) :
    transfer.Proceeds clientHeap (transfer.start clientHeap serverHeap) []
      .preparing .listening := by
  have some_ : ¬transfer.size ≤ 0 := by
    have nonempty := transfer.nonempty
    have fits := transfer.fits
    omega
  have start : transfer.start clientHeap serverHeap =
      { client :=
          { DDClient.new transfer.client clientHeap with
            internalBuffer := some transfer.buffer
            internalBufferLen := transfer.size
            nextState := .request }
        server :=
          { DDServer.new transfer.server serverHeap with nextState := .request }
        history := { transfer := 1, caller := transfer.buffer } } := by
    simp [FirstTransfer.start, Network.step, Network.new,
      DDServer.Action.hearing, DDServer.step, DDServer.startServer,
      DDServer.new, Network.afterServer, DDClient.Action.hearing, DDClient.step,
      DDClient.startNewTransfer, DDClient.new, Network.afterClient, some_,
      DataDump.setNextFSMState, Channel.posted, Channel.taken,
      History.noteServer, History.noteClient]
  rw [start]
  constructor
  case client =>
    exact
      { site := .request
        rests := by simp
        heap := (Heap.write_nil _ _).symm
        window := fun _ => ⟨rfl, rfl⟩
        success := by simp
        config := fun agreed => agreed.elim }
  case server =>
    exact
      { site := .request
        fits := DDServer.fits_of_empty rfl
        supplies := DDServer.supplies_of_empty (by simp [DDServer.new]) rfl
        current := fun reads => reads.elim
        left := fun reads => reads.elim
        filled := by simp [DDServer.new]
        requested := by simp
        config := fun reads => reads.elim
        success := by simp }
  case toServer => rfl
  case toClient => rfl
  case clientNotices => exact ⟨by simp, by simp [ClientPhase.standing]⟩
  case serverNotices => exact ⟨by simp, by simp [ServerPhase.standing]⟩
  case acknowledged => simp [ClientPhase.standing]

/-- In every run of a first transfer, both sides follow their scripts. -/
theorem proceeds_of_reaches
    {transfer : FirstTransfer}
    {clientHeap serverHeap : Heap}
    {network : Network}
    {trace : List Observation}
    (reaches : Network.machine.Reaches
      (fun _ _ action => transfer.Admits action)
      (transfer.start clientHeap serverHeap) network trace) :
    ∃ clientPhase serverPhase,
      transfer.Proceeds clientHeap network trace clientPhase serverPhase := by
  refine (reaches.invariant
    (fun network trace =>
      network.Sound transfer.client transfer.server ∧
        ∃ clientPhase serverPhase,
          transfer.Proceeds clientHeap network trace clientPhase serverPhase)
    ⟨?_, _, _, transfer.proceeds_start clientHeap serverHeap⟩ ?_).2
  · have sound := Network.sound_new transfer.client transfer.server clientHeap
      serverHeap
    have sound := (sound.steps (.server (.startServer {}) true)).sound sound
    exact (sound.steps _).sound sound
  · rintro network trace action ⟨sound, clientPhase, serverPhase, proceeds⟩
      admitted
    refine ⟨(sound.steps action).sound sound, ?_⟩
    cases action with
    | client action arrives =>
        cases action with
        | fsm env =>
            obtain ⟨clientPhase', proceeds'⟩ :=
              proceeds.clientMoves (sound.client.moves _) sound.client admitted
            exact ⟨clientPhase', serverPhase, proceeds'⟩
        | startNewTransfer => exact admitted.elim
    | server action arrives =>
        cases action with
        | fsm env =>
            obtain ⟨undisturbed, stored, erased⟩ := admitted
            obtain ⟨serverPhase', proceeds'⟩ :=
              proceeds.serverMoves (sound.server.moves _) sound.server
                undisturbed stored erased
            exact ⟨clientPhase, serverPhase', proceeds'⟩
        | startServer | stopServer => exact admitted.elim
    | disturb => exact admitted.elim

/-- While both sides wait, both are finished. -/
theorem Proceeds.finished_of_waits
    {transfer : FirstTransfer}
    {before : Heap}
    {network : Network}
    {trace : List Observation}
    {clientPhase : ClientPhase}
    {serverPhase : ServerPhase}
    (proceeds : transfer.Proceeds before network trace clientPhase serverPhase)
    (client : network.client.Waits network.toClient)
    (server : network.server.Waits network.toServer) :
    (clientPhase.standing transfer.data.length).finished = true ∧
      (serverPhase.standing transfer.data.length).finished = true := by
  obtain ⟨empty, expects⟩ := proceeds.server.of_waits server
  have asked := proceeds.toServer
  rw [empty, Bridges.nil_iff] at asked
  rcases proceeds.client.of_waits client with rfl | ⟨silent, waits⟩
  · -- The client has sent everything, so the server has heard it.
    rcases expects with rfl | rfl | rfl | rfl
    · simp [ClientPhase.standing, ServerPhase.standing] at asked
    · simp [ClientPhase.standing, ServerPhase.standing] at asked
    · simp [ClientPhase.standing, ServerPhase.standing] at asked
    · exact ⟨rfl, rfl⟩
  · have answered := proceeds.toClient
    rw [silent, Bridges.nil_iff] at answered
    rcases waits with rfl | ⟨stored, more, rfl⟩
    · rcases expects with rfl | rfl | rfl | rfl <;>
        simp [ClientPhase.standing, ServerPhase.standing] at asked answered
    · rcases expects with rfl | rfl | rfl | rfl <;>
        simp [ClientPhase.standing, ServerPhase.standing] at asked answered
      omega

/-- A first transfer is correct from end to end: no side notifies failure; when
the client has notified, its buffer begins with the data and nothing else has
changed; the server notifies only when the client has stored all data and sent
the acknowledgement; and not both sides wait before both have notified. -/
theorem correct_end_to_end
    (transfer : FirstTransfer)
    {clientHeap serverHeap : Heap}
    {network : Network}
    {trace : List Observation}
    (reaches : Network.machine.Reaches
      (fun _ _ action => transfer.Admits action)
      (transfer.start clientHeap serverHeap) network trace) :
    (∀ status, .client (.notified status) ∈ trace →
      status = true ∧
        network.client.heap =
          clientHeap.write transfer.buffer transfer.data) ∧
    (∀ status, .server (.notified status) ∈ trace →
      status = true ∧
        network.client.heap =
          clientHeap.write transfer.buffer transfer.data ∧
        ∃ bytes, .client (.sent bytes true) ∈ trace ∧
          IsControl bytes .blockAck
            (DDClient.ackTerms transfer.client.transactionID)) ∧
    (network.client.Waits network.toClient →
      network.server.Waits network.toServer →
        .client (.notified true) ∈ trace ∧
          .server (.notified true) ∈ trace) := by
  obtain ⟨clientPhase, serverPhase, proceeds⟩ := proceeds_of_reaches reaches
  have clientNotices := proceeds.clientNotices
  have serverNotices := proceeds.serverNotices
  refine ⟨fun status notified => ?_, fun status notified => ?_,
    fun client server => ?_⟩
  · obtain rfl := clientNotices.truthful status notified
    have sent := ClientPhase.sent_of_finished
      (clientNotices.finished.mpr notified)
    exact ⟨rfl, proceeds.client.heap_of_sent sent⟩
  · obtain rfl := serverNotices.truthful status notified
    have heard := ServerPhase.heard_of_finished
      (serverNotices.finished.mpr notified)
    -- What the server has heard, the client has sent.
    have asked := proceeds.toServer.le fun _ _ _ asks => asks.lt.le
    have sent := clientPhase.sent_le transfer.data.length
    have all : (clientPhase.standing transfer.data.length).sent = 3 := by omega
    exact ⟨rfl, proceeds.client.heap_of_sent all, proceeds.acknowledged all⟩
  · obtain ⟨client, server⟩ := proceeds.finished_of_waits client server
    exact ⟨clientNotices.finished.mp client, serverNotices.finished.mp server⟩

/-- Twelve bytes in two blocks of six. -/
def exampleTransfer : FirstTransfer where
  client := Network.exampleParameters
  server := Network.exampleParameters
  buffer := ⟨1, 0⟩
  size := 12
  data := [1, 2, 3, 4, 5, 6, 7, 8, 9, 10, 11, 12]
  clientCallbacks := by decide
  serverCallbacks := by decide
  transactionID := by decide
  clientBlocks := by decide
  serverBlocks := by decide
  packetlen := by decide
  nonempty := by decide
  bounded := by decide
  fits := by decide

/-- Steps of both sides in turn, until both have notified. -/
def exampleSteps : List Network.Action :=
  let serverSteps (count : Nat) : List Network.Action :=
    List.replicate count
      (.server (.fsm { stored := exampleTransfer.data.take }) true)
  Network.clientSteps 9 ++ serverSteps 18 ++ Network.clientSteps 25 ++
    serverSteps 25 ++ Network.clientSteps 18 ++ serverSteps 9

/-- What the steps make of the fresh parties. -/
def exampleEnd : Network × List Observation :=
  Network.machine.execute
    (exampleTransfer.start (fun _ _ => 0) fun _ _ => 0) [] exampleSteps

theorem correct_end_to_end_example :
    exampleEnd.1.client.heap =
        Heap.write (fun _ _ => 0) ⟨1, 0⟩ exampleTransfer.data ∧
      .server (.notified true) ∈ exampleEnd.2 := by
  have reaches : Network.machine.Reaches
      (fun _ _ action => exampleTransfer.Admits action)
      (exampleTransfer.start (fun _ _ => 0) fun _ _ => 0)
      exampleEnd.1 exampleEnd.2 := by
    refine Machine.Reaches.execute _ .start (Machine.admitted_of_forall ?_)
    simp [exampleSteps, Network.clientSteps, Admits, Environment.Undisturbed,
      or_imp, forall_and]
  have correct := exampleTransfer.correct_end_to_end reaches
  exact ⟨(correct.1 true (by decide +kernel)).2, by decide +kernel⟩

end FirstTransfer

end DataDumpProtocol

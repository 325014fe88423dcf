import DataDumpProtocol.Machines.Exchanges
import DataDumpProtocol.Network.Model

/-!
# Frames of earlier transfers

A frame that is left over from one transfer should not be taken for a frame of
the next.  The transaction ID is all that could tell them apart, and a client
sends the same one in every transfer.  So what keeps the transfers apart is
that nothing is left over: no frame of a handshake is in flight, and no
response is about to be sent, when a transfer starts.
-/

namespace DataDumpProtocol

open FsmState

/-- A frame that is accepted in place of another transfer's, if it is left
over. -/
def Frame.IsHandshake (frame : Frame) : Prop :=
  ∃ msgType ∈ [MsgType.request, .response, .initiateBlockTransfer, .blockAck],
    frame.bytes.head? = some msgType.toByte

instance (frame : Frame) : Decidable frame.IsHandshake :=
  inferInstanceAs (Decidable (∃ msgType ∈ [_, _, _, _], _))

instance {Body : Type} [DecidableEq Body] (party : Party Body)
    (state : FsmState) : Decidable (party.Holds state) :=
  inferInstanceAs (Decidable (_ ∨ _))

/-- What is accepted begins with the type that was waited for. -/
theorem DataDump.Accepts.head_incoming
    {dump : DataDump}
    {env : Environment}
    {msgType : MsgType}
    (accepts : dump.Accepts msgType env) :
    env.incoming.head? = some msgType.toByte :=
  head_of_delivered accepts.1 accepts.2.1

/-- A request is accepted. -/
def Event.isRequest : Event → Bool
  | .received header => decide (header.msgType = .request)
  | _ => false

namespace History

/-- Only `startNewTransfer` starts a transfer. -/
theorem transfer_noteClient
    {events : List Event}
    (silent : ∀ event ∈ events, event.isCall = false)
    (heard : Frame)
    (history : History) :
    (events.foldl (noteClient heard) history).transfer = history.transfer := by
  refine Trace.foldl_keeps transfer (fun event present history => ?_) history
  cases event with
  | transferStarted => simpa [Event.isCall] using silent _ present
  | _ => rfl

theorem serving_noteClient
    (events : List Event)
    (heard : Frame)
    (history : History) :
    (events.foldl (noteClient heard) history).serving = history.serving := by
  refine Trace.foldl_keeps serving (fun event _ history => ?_) history
  cases event <;> rfl

theorem transfer_noteServer
    (events : List Event)
    (heard : Frame)
    (history : History) :
    (events.foldl (noteServer heard) history).transfer = history.transfer := by
  refine Trace.foldl_keeps transfer (fun event _ history => ?_) history
  cases event with
  | received header =>
      simp only [noteServer]
      split <;> rfl
  | _ => rfl

/-- An accepted request, and nothing else, makes the server serve its
transfer. -/
theorem serving_noteServer
    (events : List Event)
    (heard : Frame)
    (history : History) :
    (events.foldl (noteServer heard) history).serving =
      if events.any Event.isRequest then heard.transfer
      else history.serving := by
  have once (event : Event) (history : History) :
      (noteServer heard history event).serving =
        if event.isRequest then heard.transfer else history.serving := by
    cases event with
    | received header =>
        by_cases request : header.msgType = .request
        · simp [noteServer, Event.isRequest, request]
        · simp [noteServer, Event.isRequest, request]
    | _ => rfl
  induction events generalizing history with
  | nil => rfl
  | cons event events inductionHypothesis =>
      rw [List.foldl_cons, inductionHypothesis, once, List.any_cons]
      by_cases later : events.any Event.isRequest = true
      · simp [later]
      · simp [later]

end History

namespace Network

/-- Nothing is left over from the transfer before. -/
def Clean (network : Network) : Prop :=
  (∀ frame ∈ network.toServer ++ network.toClient, ¬frame.IsHandshake) ∧
    ¬network.server.toParty.Holds .response

instance (network : Network) : Decidable network.Clean :=
  inferInstanceAs (Decidable (_ ∧ _))

/-- A transfer starts only when nothing is left over. -/
def Action.StartsClean (network : Network) : Action → Prop
  | .client (.startNewTransfer buffer size _) _ =>
      buffer ≠ none → 0 < size → network.client.isBusy = false → network.Clean
  | _ => True

instance (network : Network) :
    (action : Action) → Decidable (action.StartsClean network)
  | .client (.startNewTransfer buffer size _) _ =>
      inferInstanceAs (Decidable
        (buffer ≠ none → 0 < size → network.client.isBusy = false →
          network.Clean))
  | .client (.fsm _) _ | .server _ _ | .disturb _ _ =>
      inferInstanceAs (Decidable True)

/-- An action takes a frame that was sent in an earlier transfer for the
response, the initiate message or the acknowledgement of this one. -/
def Action.AcceptsStale (network : Network) : Action → Prop
  | .client (.fsm env) arrives =>
      let heard := Channel.heard network.toClient arrives
      heard.transfer < network.history.transfer ∧
        ∃ header, .received header ∈
          (network.client.fsmStep (env.hearing heard.bytes)).2
  | .server (.fsm env) arrives =>
      let heard := Channel.heard network.toServer arrives
      heard.transfer < network.history.serving ∧
        ∃ header, .received header ∈
            (network.server.fsmStep (env.hearing heard.bytes)).2 ∧
          header.msgType ≠ .request ∧
          header.transactionID = network.server.clientConfig.transactionID
  | _ => False

/-- Every frame of a handshake belongs to the transfer that was started
last. -/
structure Fresh (network : Network) : Prop where
  toServer : ∀ frame ∈ network.toServer, frame.IsHandshake →
    frame.transfer = network.history.transfer
  toClient : ∀ frame ∈ network.toClient, frame.IsHandshake →
    frame.transfer = network.history.transfer
  responding : network.server.toParty.Holds .response →
    network.history.serving = network.history.transfer
  serving : network.history.serving ≤ network.history.transfer

end Network

namespace DDServer

variable {parameters : Parameters} {server server' : DDServer}
variable {env : Environment} {events : List Event}

/-- The only frame of a handshake that a server sends is its response. -/
theorem Moves.responds
    (moves : server.Moves env server' events)
    (sound : server.Sound parameters)
    {frame : Frame}
    (sent : .sent frame.bytes true ∈ events)
    (handshake : frame.IsHandshake) :
    server.toParty.Holds .response := by
  obtain ⟨body, here, sends⟩ := moves.sent sound sent
  cases sends with
  | response => exact .inl (sound.paced.inside _ here)
  | block buffer holds bytes =>
      obtain ⟨msgType, member, head⟩ := handshake
      rename_i beyond
      rcases holds.frame_cases beyond with ⟨-, empty⟩ | ⟨-, block⟩
      · simp [bytes, empty] at head
      · rw [bytes, block, blockFrame, List.head?_cons, Option.some.injEq] at head
        obtain rfl := MsgType.toByte_injective head
        simp at member

/-- A response is only brought up by an accepted request. -/
theorem Moves.any_isRequest
    (moves : server.Moves env server' events)
    (sound : server.Sound parameters)
    (holds : server'.toParty.Holds .response)
    (new : ¬server.toParty.Holds .response) :
    events.any Event.isRequest = true := by
  obtain ⟨leaving, request, here⟩ : server'.point = .leave .response ∧
      ∃ request, server.point = .body (.requestReceive request) := by
    simpa using moves.opens sound holds new
  cases moves with
  | acceptRequest _ accepts =>
      simp [Event.isRequest, accepts.msgType]
  | shell shell =>
      exact absurd ((shell.holds holds).resolve_right (by simp)) new
  | poll | giveUp => cases leaving
  | _ => simp_all

end DDServer

namespace Network

section Fresh

variable {clientParameters serverParameters : Parameters}
variable {network network' : Network} {action : Action}
variable {observations : List Observation}

/-- What a party accepts from its channel is of the current transfer. -/
theorem transfer_heard
    {channel : List Frame}
    {arrives : Bool}
    {transfer : Nat}
    (fresh : ∀ frame ∈ channel, frame.IsHandshake → frame.transfer = transfer)
    {dump : DataDump}
    {env : Environment}
    {msgType : MsgType}
    (accepts : dump.Accepts msgType
      (env.hearing (Channel.heard channel arrives).bytes))
    (handshake : msgType ∈
      [MsgType.request, .response, .initiateBlockTransfer, .blockAck]) :
    (Channel.heard channel arrives).transfer = transfer :=
  fresh _ (Channel.heard_mem (DataDump.incoming_ne_nil accepts.1))
    ⟨msgType, handshake, accepts.head_incoming⟩

theorem Fresh.not_acceptsStale
    (fresh : network.Fresh)
    (sound : network.Sound clientParameters serverParameters)
    (action : Action) :
    ¬action.AcceptsStale network := by
  intro stale
  cases action with
  | client action arrives =>
      cases action with
      | startNewTransfer => exact stale
      | fsm env =>
          obtain ⟨earlier, header, received⟩ := stale
          obtain ⟨-, accepts, -⟩ := (sound.client.moves _).received received
          have current := transfer_heard fresh.toClient accepts (by simp)
          omega
  | server action arrives =>
      cases action with
      | startServer | stopServer => exact stale
      | fsm env =>
          obtain ⟨earlier, header, received, -⟩ := stale
          obtain ⟨-, body, body', msgType, -, polls, accepts⟩ :=
            (sound.server.moves _).received received
          have current := transfer_heard fresh.toServer accepts
            (by cases polls <;> simp)
          have bound := fresh.serving
          omega
  | disturb => exact stale

/-- An accepted request is of the current transfer. -/
theorem Fresh.requested
    (fresh : network.Fresh)
    {arrives : Bool}
    {env : Environment}
    {server : DDServer}
    {events : List Event}
    (moves : network.server.Moves
      (env.hearing (Channel.heard network.toServer arrives).bytes)
      server events)
    (request : events.any Event.isRequest = true) :
    (Channel.heard network.toServer arrives).transfer =
      network.history.transfer := by
  obtain ⟨event, present, requests⟩ := List.any_eq_true.mp request
  cases event with
  | received header =>
      obtain ⟨-, body, body', msgType, -, polls, accepts⟩ :=
        moves.received present
      exact transfer_heard fresh.toServer accepts (by cases polls <;> simp)
  | _ => simp [Event.isRequest] at requests

theorem Steps.fresh
    (steps : network.Steps action network' observations)
    (sound : network.Sound clientParameters serverParameters)
    (shuffles : action.Shuffles network)
    (startsClean : action.StartsClean network)
    (fresh : network.Fresh) :
    network'.Fresh := by
  cases steps with
  | @clientMoves env arrives client events moves =>
      have transfer := History.transfer_noteClient (fun _ => moves.not_call)
        (Channel.heard network.toClient arrives) network.history
      have serving := History.serving_noteClient events
        (Channel.heard network.toClient arrives) network.history
      constructor
      case toServer =>
        intro frame present handshake
        simp only [afterClient, transfer]
        rcases List.mem_append.mp present with old | new
        · exact fresh.toServer frame old handshake
        · obtain ⟨bytes, -, rfl⟩ := Channel.mem_posted.mp new
          rfl
      case toClient =>
        intro frame present handshake
        simp only [afterClient, transfer]
        exact fresh.toClient frame (Channel.mem_of_mem_taken present) handshake
      case responding =>
        intro holds
        simp only [afterClient, transfer, serving]
        exact fresh.responding holds
      case serving =>
        simp only [afterClient, transfer, serving]
        exact fresh.serving
  | clientCalls calls =>
      cases calls with
      | refused =>
          exact ⟨by simpa [afterClient, Channel.posted] using fresh.toServer,
            fun frame present =>
              fresh.toClient frame (Channel.mem_of_mem_taken present),
            fresh.responding, fresh.serving⟩
      | started given positive resting =>
          obtain ⟨silent, idle⟩ :=
            startsClean (by simp [given]) positive resting
          constructor
          case toServer =>
            intro frame present handshake
            have old : frame ∈ network.toServer := by
              simpa [afterClient, Channel.posted] using present
            exact absurd handshake (silent frame (List.mem_append_left _ old))
          case toClient =>
            intro frame present handshake
            have old := Channel.mem_of_mem_taken present
            exact absurd handshake (silent frame (List.mem_append_right _ old))
          case responding => exact fun holds => absurd holds idle
          case serving => exact Nat.le_succ_of_le fresh.serving
  | @serverMoves env arrives server events moves =>
      have transfer := History.transfer_noteServer events
        (Channel.heard network.toServer arrives) network.history
      have serving := History.serving_noteServer events
        (Channel.heard network.toServer arrives) network.history
      have requested := fresh.requested moves
      constructor
      case toServer =>
        intro frame present handshake
        simp only [afterServer, transfer]
        exact fresh.toServer frame (Channel.mem_of_mem_taken present) handshake
      case toClient =>
        intro frame present handshake
        simp only [afterServer, transfer]
        rcases List.mem_append.mp present with old | new
        · exact fresh.toClient frame old handshake
        · obtain ⟨bytes, sent, rfl⟩ := Channel.mem_posted.mp new
          exact fresh.responding (moves.responds sound.server sent handshake)
      case responding =>
        intro holds
        simp only [afterServer, transfer, serving]
        split
        next request => exact requested request
        next silent =>
          apply fresh.responding
          by_contra new
          exact silent (moves.any_isRequest sound.server holds new)
      case serving =>
        simp only [afterServer, transfer, serving]
        split
        next request => exact Nat.le_of_eq (requested request)
        next => exact fresh.serving
  | @serverCalls action arrives server events calls =>
      have transfer := History.transfer_noteServer events
        (Channel.heard network.toServer arrives) network.history
      have serving := History.serving_noteServer events
        (Channel.heard network.toServer arrives) network.history
      have posted := @Channel.posted_serverCalls events
        network.history.serverFrame _ _ calls
      have held {state : FsmState} := @calls.held _ _ _ state
      obtain ⟨-, calm⟩ := calls
      have silent : events.any Event.isRequest = false := by
        apply List.any_eq_false.mpr
        intro event present
        rcases calm event present with rfl | rfl <;> simp [Event.isRequest]
      simp only [silent, Bool.false_eq_true, if_false] at serving
      constructor
      case toServer =>
        intro frame present handshake
        simp only [afterServer, transfer]
        exact fresh.toServer frame (Channel.mem_of_mem_taken present) handshake
      case toClient =>
        intro frame present handshake
        simp only [afterServer, posted, List.append_nil] at present
        simp only [afterServer, transfer]
        exact fresh.toClient frame present handshake
      case responding =>
        intro holds
        simp only [afterServer, transfer, serving]
        exact fresh.responding (held holds (.inl rfl))
      case serving =>
        simp only [afterServer, transfer, serving]
        exact fresh.serving
  | disturb =>
      exact ⟨fun frame present => fresh.toServer frame (shuffles.1 present),
        fun frame present => fresh.toClient frame (shuffles.2 present),
        fresh.responding, fresh.serving⟩

end Fresh

/-- In every run over channels that make up no frames, in which a transfer
starts only when nothing is left over, no step takes a frame of an earlier
transfer for one of the current transfer. -/
theorem never_accepts_stale
    {clientParameters serverParameters : Parameters}
    {clientHeap serverHeap : Heap}
    {network : Network}
    {trace : List Observation}
    (reaches : machine.Reaches
      (fun network _ action =>
        action.Shuffles network ∧ action.StartsClean network)
      (new clientParameters serverParameters clientHeap serverHeap)
      network trace)
    (action : Action) :
    ¬action.AcceptsStale network := by
  have fresh := invariant_of_reaches reaches Fresh
    { toServer := by simp [new]
      toClient := by simp [new]
      responding := by simp [new, DDServer.new, Party.Holds]
      serving := Nat.le_refl _ }
    fun _ _ _ _ _ sound fresh admitted steps =>
      steps.fresh sound admitted.1 admitted.2 fresh
  exact fresh.2.not_acceptsStale fresh.1 action

/-- A client that accepts the response to its request. -/
theorem never_accepts_stale_example :
    ¬(Action.client (.fsm {}) true).AcceptsStale
      (exampleRun (exampleRequest ++ exampleResponse [1, 2, 3] ++
        clientSteps 7)).1 :=
  never_accepts_stale (@reaches_exampleRun _
    (exampleRequest ++ exampleResponse [1, 2, 3] ++ clientSteps 7)
    (by decide +kernel)) _

/-- The client gives up on a transfer before its response arrives, starts
another one, and takes the response for the response to its second request. -/
def exampleLeftover : List Action :=
  exampleRequest ++ exampleResponse [1, 2, 3] ++
    List.replicate 8 (.client (.fsm { timerExpired := true }) false) ++
    List.replicate 18 (.client (.fsm {}) false) ++
    [.client (.startNewTransfer (some ⟨1, 0⟩) 12 {}) true] ++ clientSteps 19

theorem accepts_stale_example :
    ∃ network trace, machine.Reaches
      (fun network _ action => action.Shuffles network)
      (new exampleParameters exampleParameters (fun _ _ => 0) fun _ _ => 0)
      network trace ∧
      (Action.client (.fsm {}) true).AcceptsStale network := by
  refine ⟨_, _, @reaches_exampleRun _ exampleLeftover (by decide +kernel), ?_⟩
  refine ⟨by decide +kernel,
    { msgType := .response
      transactionID := 7
      maxBlocksPerTransaction := 2
      maxPacketlen := 11
      maxACKTimeout := 5 }, ?_⟩
  decide +kernel

end Network

end DataDumpProtocol

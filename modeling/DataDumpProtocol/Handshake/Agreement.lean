import DataDumpProtocol.Frames.RoundTrip
import DataDumpProtocol.Machines.ClientMoves
import DataDumpProtocol.Machines.ServerMoves

/-!
# Terms that were agreed

Against a peer that sends anything.  The client should transfer only on a
response within its request, and the server only after an initiate message
that repeats its response.  Each side checks one of the four terms, and not
even that fully: the client that the transaction ID is not zero, the server
that it is its own.  What each side needs to see is exactly what it does not
check.
-/

namespace DataDumpProtocol

open FsmState

/-- A response to this request that asks for no more than it. -/
structure Terms.Within (response request : Terms) : Prop where
  transactionID : response.transactionID = request.transactionID
  blocks : response.maxBlocksPerTransaction ≤ request.maxBlocksPerTransaction
  packetlen : response.maxPacketlen ≤ request.maxPacketlen
  timeout : request.maxACKTimeout ≤ response.maxACKTimeout

instance (response request : Terms) : Decidable (response.Within request) :=
  decidable_of_iff
    (response.transactionID = request.transactionID ∧
      response.maxBlocksPerTransaction ≤ request.maxBlocksPerTransaction ∧
      response.maxPacketlen ≤ request.maxPacketlen ∧
      request.maxACKTimeout ≤ response.maxACKTimeout)
    ⟨fun ⟨transactionID, blocks, packetlen, timeout⟩ =>
        ⟨transactionID, blocks, packetlen, timeout⟩,
      fun ⟨transactionID, blocks, packetlen, timeout⟩ =>
        ⟨transactionID, blocks, packetlen, timeout⟩⟩

/-! ## The client -/

namespace DDClient

/-- Enter one event: the response accepted in the current transfer. -/
def noteResponse (response : Option Terms) : Event → Option Terms
  | .transferStarted _ _ => none
  | .received header => some header.terms
  | _ => response

/-- The terms of the response that the client accepted since a transfer was
last started. -/
def acceptedResponse (trace : List Event) : Option Terms :=
  trace.foldl noteResponse none

theorem acceptedResponse_append (before after : List Event) :
    acceptedResponse (before ++ after) =
      after.foldl noteResponse (acceptedResponse before) :=
  List.foldl_append

@[simp] theorem foldl_noteResponse_pollEvent
    (response : Option Terms)
    (dump : DataDump) :
    dump.pollEvent.foldl noteResponse response = response :=
  DataDump.foldl_pollEvent_of_ignored (fun _ => rfl) response

theorem foldl_noteResponse_unsent
    {events : List Event}
    (unsent : Unsent events)
    (response : Option Terms) :
    events.foldl noteResponse response = response :=
  unsent.foldl_of_ignored (fun _ _ => rfl) response

/-- In the loop that waits for the response. -/
def awaitsResponse (client : DDClient) : Bool :=
  match client.point with
  | .body (.responseReceive _) => true
  | _ => false

/-- The response that is accepted, unless it carries no transaction ID, is
within the request. -/
def Action.RespondsWithin (client : DDClient) : Action → Prop
  | .fsm env =>
      client.awaitsResponse = true → client.Accepts .response env →
        (client.polledHeader env).transactionID ≠ 0#32 →
          (client.polledHeader env).terms.Within client.clientConfig.terms
  | .startNewTransfer _ _ _ => True

instance (client : DDClient) :
    (action : Action) → Decidable (action.RespondsWithin client)
  | .fsm env =>
      inferInstanceAs (Decidable
        (client.awaitsResponse = true → client.Accepts .response env →
          (client.polledHeader env).transactionID ≠ 0#32 → _))
  | .startNewTransfer _ _ _ => inferInstanceAs (Decidable True)

/-- The accepted response is within the request. -/
def Agreed (request : Terms) (response : Option Terms) : Prop :=
  ∃ terms, response = some terms ∧ terms.Within request

/-- What the accepted response is known to be on the way to `BLOCK`. -/
structure Informed
    (request : Terms)
    (response : Option Terms)
    (client : DDClient) : Prop where
  initiating : client.Holds .initiateBlock →
    client.serverConfig.transactionID ≠ 0#32 → Agreed request response
  sending : ∀ initiate, client.point = .body (.initiateSend initiate) →
    Agreed request response
  blocking : client.Holds .block → Agreed request response

section Informed

variable {parameters : Parameters} {client client' : DDClient}
variable {env : Environment} {events : List Event}
variable {request : Terms} {response : Option Terms}

/-- A step that brings up no state of the transfer. -/
theorem Informed.kept
    (informed : client.Informed request response)
    (held : ∀ state, client'.Holds state →
      state = .initiateBlock ∨ state = .block → client.Holds state)
    (config : client'.serverConfig.transactionID ≠ 0#32 →
      client'.serverConfig = client.serverConfig)
    (sends : ∀ initiate, client'.point ≠ .body (.initiateSend initiate)) :
    client'.Informed request response where
  initiating holds known :=
    informed.initiating (held _ holds (.inl rfl)) (config known ▸ known)
  sending initiate here := absurd here (sends initiate)
  blocking holds := informed.blocking (held _ holds (.inr rfl))

theorem Moves.informed
    (moves : client.Moves env client' events)
    (sound : client.Sound parameters)
    (within : Action.RespondsWithin client (.fsm env))
    (informed : client.Informed client.clientConfig.terms response) :
    client'.Informed client.clientConfig.terms
      (events.foldl noteResponse response) := by
  have opens {state : FsmState} := @moves.opens _ _ _ _ _ sound state
  cases moves with
  | shell shell =>
      have outside := shell.point_ne_body
      obtain ⟨_, _, _, _, rfl, -⟩ := shell.unchanged
      refine informed.kept (fun state holds inside => ?_) (fun _ => rfl)
        fun _ => outside _
      rcases shell.holds holds with old | rfl
      · exact old
      · simp at inside
  | acceptResponse here accepts =>
      rw [List.foldl_append, foldl_noteResponse_pollEvent]
      constructor
      case initiating =>
        intro _ known
        exact ⟨_, rfl, within (by simp [awaitsResponse, here]) accepts known⟩
      case sending => simp
      case blocking =>
        intro holds
        by_cases old : client.Holds .block
        · have follows := sound.paced.follows_of_inside here old
          simp [Follows, ClientBody.state, successor, Free] at follows
        · simpa [here] using opens holds old
  | beginInitiate here known =>
      have agreed := informed.initiating (.inr (.inr (.inr (.inl here)))) known
      exact ⟨fun _ _ => agreed, fun _ _ => agreed, fun _ => agreed⟩
  | initiateSent here =>
      have agreed := informed.sending _ here
      exact ⟨fun _ _ => agreed, fun _ _ => agreed, fun _ => agreed⟩
  | retry here unsent =>
      rw [foldl_noteResponse_unsent unsent]
      exact informed
  | giveUp here givesUp =>
      have silent : events.foldl noteResponse response = response := by
        cases givesUp with
        | unsent unsent => exact foldl_noteResponse_unsent unsent _
        | unheard => exact foldl_noteResponse_pollEvent _ _
      rw [silent]
      refine informed.kept (fun state holds inside => ?_) (fun _ => rfl)
        (by simp)
      by_contra new
      rcases inside with rfl | rfl <;> simpa using opens holds new
  | terminate here =>
      have silent : client.notification.foldl noteResponse response =
          response := by
        unfold DataDump.notification
        split <;> rfl
      rw [List.foldl_cons]
      simp only [noteResponse, silent]
      refine informed.kept (fun state holds inside => ?_) ?_ (by simp)
      · by_contra new
        rcases inside with rfl | rfl <;> simpa using opens holds new
      · simp [TranscationHeader.setTerms]
  | idle here | beginRequest here | noTimer here | requestSent here
  | awaitResponse here | refuse here | awaitBlock here | storeMore here
  | storeLast here | missBlock here | refuseBlock here | continueBlock here
  | ackSent here | ackNotSent here | poll here | pollBlock here =>
      simp only [List.foldl_append, foldl_noteResponse_pollEvent,
        List.foldl_cons, List.foldl_nil, noteResponse]
      refine informed.kept (fun state holds inside => ?_) (fun _ => rfl)
        (by simp)
      by_contra new
      rcases inside with rfl | rfl <;> simpa [here] using opens holds new

theorem Calls.informed
    {buffer : Option Pointer}
    {size : Nat}
    (calls : client.Calls buffer size client' events)
    (sound : client.Sound parameters)
    (informed : client.Informed request response) :
    client'.Informed request (events.foldl noteResponse response) := by
  cases calls with
  | refused => exact informed
  | @started pointer next _ _ resting allowed =>
      have absent {state : FsmState} :=
        @sound.not_holds_of_started _ _ resting _ allowed state
      constructor
      case initiating => exact fun holds => absurd holds (absent (by simp))
      case sending =>
        exact fun _ here => absurd here (sound.resting_point resting _)
      case blocking => exact fun holds => absurd holds (absent (by simp))

/-- A block body starts on a response within the request. -/
def BlocksAgreed (request : Terms) (before : List Event) (event : Event) :
    Prop :=
  ∀ buffer, event = .body .block buffer →
    Agreed request (acceptedResponse before)

theorem Moves.blocksAgreed
    {trace : List Event}
    (moves : client.Moves env client' events)
    (informed : client.Informed request (acceptedResponse trace))
    (every : Trace.Every (BlocksAgreed request) trace) :
    Trace.Every (BlocksAgreed request) (trace ++ events) := by
  apply moves.body_cases.every every
  · rintro before _ none buffer rfl
    simp [Event.isBody] at none
  · rintro state here buffer same
    obtain ⟨rfl, -⟩ := Event.body.inj same
    exact informed.blocking (.inr (.inr (.inr (.inl here))))

end Informed

/-- In every run in which the accepted responses are within the request, the
client executes `BLOCK` only on such a response. -/
theorem every_blocksAgreed
    {parameters : Parameters}
    {heap : Heap}
    {client : DDClient}
    {trace : List Event}
    (reaches : machine.Reaches
      (fun client _ action => action.RespondsWithin client)
      (new parameters heap) client trace) :
    Trace.Every (BlocksAgreed parameters.config.terms) trace := by
  have both : client.Informed parameters.config.terms
        (acceptedResponse trace) ∧
      Trace.Every (BlocksAgreed parameters.config.terms) trace := by
    refine invariant_of_reaches reaches
      (fun client trace =>
        client.Informed parameters.config.terms (acceptedResponse trace) ∧
          Trace.Every (BlocksAgreed parameters.config.terms) trace)
      ⟨⟨by simp [new, Party.Holds], by simp [new],
        by simp [new, Party.Holds]⟩, Trace.every_nil _⟩ ?_
    rintro client trace action client' events sound ⟨informed, every⟩ within
      steps
    rw [acceptedResponse_append]
    cases steps with
    | fsm moves =>
        refine ⟨?_, moves.blocksAgreed informed every⟩
        rw [← sound.clientConfig] at informed ⊢
        exact moves.informed sound within informed
    | call calls =>
        refine ⟨calls.informed sound informed, ?_⟩
        cases calls with
        | refused => simpa using every
        | started =>
            apply every.append_of_forall
            intro before event present
            rw [List.mem_singleton.mp present]
            simp [BlocksAgreed]
  exact both.2

end DDClient

/-! ## The server -/

/-- What was observed of a server's handshake. -/
structure Handshake where
  /-- The terms of the response that was last sent. -/
  offered : Option Terms := none
  /-- The terms of the initiate message that was accepted since then. -/
  initiated : Option Terms := none

namespace DDServer

/-- The terms that a frame carries. -/
def frameTerms (frame : List Byte) : Terms :=
  (TranscationHeader.decode (View.ofList frame fun _ => 0) 0).terms

/-- Enter one event: a response sent, or an initiate message with its
transaction ID accepted. -/
def noteHandshake (handshake : Handshake) : Event → Handshake
  | .sent frame true =>
      if frame.head? = some MsgType.response.toByte then
        { offered := some (frameTerms frame) }
      else
        handshake
  | .received header =>
      if header.msgType = .initiateBlockTransfer ∧
          handshake.offered.map Terms.transactionID =
            some header.transactionID then
        { handshake with initiated := some header.terms }
      else
        handshake
  | _ => handshake

/-- The handshake after a trace. -/
def handshake (trace : List Event) : Handshake :=
  trace.foldl noteHandshake {}

theorem handshake_append (before after : List Event) :
    handshake (before ++ after) =
      after.foldl noteHandshake (handshake before) :=
  List.foldl_append

@[simp] theorem foldl_noteHandshake_pollEvent
    (handshake : Handshake)
    (dump : DataDump) :
    dump.pollEvent.foldl noteHandshake handshake = handshake :=
  DataDump.foldl_pollEvent_of_ignored (fun _ => rfl) handshake

theorem foldl_noteHandshake_unsent
    {events : List Event}
    (unsent : Unsent events)
    (handshake : Handshake) :
    events.foldl noteHandshake handshake = handshake :=
  unsent.foldl_of_ignored (fun _ _ => rfl) handshake

/-- Other messages than an initiate message leave no entry. -/
theorem noteHandshake_received
    {header : TranscationHeader}
    (other : header.msgType ≠ .initiateBlockTransfer)
    (handshake : Handshake) :
    noteHandshake handshake (.received header) = handshake :=
  if_neg fun both => other both.1

/-- Block frames leave no entry. -/
theorem noteHandshake_block
    {packet : BlockTxRxPacket}
    {limit : Nat}
    {payload : List Byte}
    (holds : packet.Holds limit payload)
    (beyond : View)
    (handshake : Handshake) :
    noteHandshake handshake (.sent (packet.frame beyond) true) =
      handshake := by
  apply if_neg
  intro response
  rcases holds.frame_cases beyond with ⟨-, frame⟩ | ⟨-, frame⟩
  · simp [frame] at response
  · simp [frame, blockFrame] at response

/-- In the loop that waits for the initiate message. -/
def awaitsInitiate (server : DDServer) : Bool :=
  match server.point with
  | .body (.initiateReceive _) => true
  | _ => false

/-- An initiate message that is accepted, or has the transaction ID of the
response that was sent, carries the terms of that response. -/
def Action.InitiatesOffered
    (server : DDServer)
    (trace : List Event) : Action → Prop
  | .fsm env =>
      server.awaitsInitiate = true → server.Accepts .initiateBlockTransfer env →
        server.clientConfig.transactionID =
            (server.polledHeader env).transactionID ∨
          (handshake trace).offered.map Terms.transactionID =
            some (server.polledHeader env).transactionID →
          (handshake trace).offered = some (server.polledHeader env).terms
  | .startServer _ | .stopServer _ => True

instance (server : DDServer) (trace : List Event) :
    (action : Action) → Decidable (action.InitiatesOffered server trace)
  | .fsm env =>
      inferInstanceAs (Decidable
        (server.awaitsInitiate = true → server.Accepts .initiateBlockTransfer env →
          _ ∨ _ → _ = _))
  | .startServer _ | .stopServer _ => inferInstanceAs (Decidable True)

/-- The initiate message that was accepted repeats the response. -/
def Matched (handshake : Handshake) : Prop :=
  ∃ terms, handshake.offered = some terms ∧ handshake.initiated = some terms

section Matched

variable {parameters : Parameters} {server server' : DDServer}
variable {env : Environment} {events trace : List Event}

theorem matched_of_offered
    {header : TranscationHeader}
    (initiate : header.msgType = .initiateBlockTransfer)
    {handshake : Handshake}
    (offered : handshake.offered = some header.terms) :
    Matched (noteHandshake handshake (.received header)) := by
  have noted : noteHandshake handshake (.received header) =
      { handshake with initiated := some header.terms } :=
    if_pos ⟨initiate, by rw [offered]; rfl⟩
  rw [noted]
  exact ⟨_, offered, rfl⟩

theorem Moves.matched
    (moves : server.Moves env server' events)
    (sound : server.Sound parameters)
    (offered : Action.InitiatesOffered server trace (.fsm env))
    (matched : server.toParty.Holds .block → Matched (handshake trace))
    (holds : server'.toParty.Holds .block) :
    Matched (handshake (trace ++ events)) := by
  rw [handshake_append]
  have opens := moves.opens sound holds
  by_cases old : server.toParty.Holds .block
  · have before := matched old
    cases moves with
    | responseSent here =>
        have follows := sound.paced.follows_of_inside here old
        simp [Follows, ServerBody.state, successor, Free] at follows
    | acceptInitiate here accepts agrees =>
        simp only [List.foldl_append, foldl_noteHandshake_pollEvent,
          List.foldl_cons, List.foldl_nil]
        exact matched_of_offered accepts.msgType
          (offered (by simp [awaitsInitiate, here]) accepts (.inl agrees))
    | acceptRequest here accepts | erase here accepts
    | eraseElse here accepts =>
        simp only [List.foldl_append, foldl_noteHandshake_pollEvent,
          List.foldl_cons, List.foldl_nil]
        rw [noteHandshake_received (by simp [accepts.msgType])]
        exact before
    | blockSent here | lastBlockSent here =>
        obtain ⟨_, _, _, packet⟩ := sound.live _ here
        simp only [List.foldl_cons, List.foldl_nil]
        rw [noteHandshake_block packet]
        exact before
    | fillBlock here buffer =>
        have silent : server.copyEvent.foldl noteHandshake (handshake trace) =
            handshake trace :=
          foldl_copyEvent_of_ignored (fun _ _ _ => rfl) _
        rw [List.foldl_cons]
        simp only [noteHandshake, silent]
        exact before
    | retry here unsent =>
        rw [foldl_noteHandshake_unsent unsent]
        exact before
    | giveUp here givesUp =>
        cases givesUp with
        | unsent unsent =>
            rw [foldl_noteHandshake_unsent unsent]
            exact before
        | unheard =>
            rw [foldl_noteHandshake_pollEvent]
            exact before
        | declined accepts differs =>
            simp only [List.foldl_append, foldl_noteHandshake_pollEvent,
              List.foldl_cons, List.foldl_nil]
            by_cases same : (handshake trace).offered.map
                Terms.transactionID =
                some (server.polledHeader env).transactionID
            · exact matched_of_offered accepts.msgType
                (offered (by simp [awaitsInitiate, here]) accepts (.inr same))
            · rw [noteHandshake, if_neg fun both => same both.2]
              exact before
        | disputed accepts =>
            simp only [List.foldl_append, foldl_noteHandshake_pollEvent,
              List.foldl_cons, List.foldl_nil]
            rw [noteHandshake_received (by simp [accepts.msgType])]
            exact before
    | terminate =>
        have silent : server.notification.foldl noteHandshake
            (handshake trace) = handshake trace := by
          unfold DataDump.notification
          split <;> rfl
        rw [List.foldl_cons]
        simp only [noteHandshake, silent]
        exact before
    | shell | idle | awaitRequest | readStorage | readNothing | noStorage
    | awaitInitiate | continueBlock | poll =>
        simpa [noteHandshake] using before
  · obtain ⟨leaving, initiate, here⟩ : server'.point = .leave .block ∧
        ∃ initiate, server.point = .body (.initiateReceive initiate) := by
      simpa using opens old
    cases moves with
    | acceptInitiate _ accepts agrees =>
        simp only [List.foldl_append, foldl_noteHandshake_pollEvent,
          List.foldl_cons, List.foldl_nil]
        exact matched_of_offered accepts.msgType
          (offered (by simp [awaitsInitiate, here]) accepts (.inl agrees))
    | shell shell => cases shell <;> simp_all
    | _ => simp_all [goto]

/-- A block body starts after an initiate message that repeats the
response. -/
def BlocksMatched (before : List Event) (event : Event) : Prop :=
  ∀ buffer, event = .body .block buffer → Matched (handshake before)

theorem Moves.blocksMatched
    (moves : server.Moves env server' events)
    (matched : server.toParty.Holds .block → Matched (handshake trace))
    (every : Trace.Every BlocksMatched trace) :
    Trace.Every BlocksMatched (trace ++ events) := by
  apply moves.body_cases.every every
  · rintro before _ none buffer rfl
    simp [Event.isBody] at none
  · rintro state here buffer same
    obtain ⟨rfl, -⟩ := Event.body.inj same
    exact matched (.inr (.inr (.inr (.inl here))))

end Matched

/-- In every run in which the accepted initiate messages repeat the response,
the server executes `BLOCK` only after such a message. -/
theorem every_blocksMatched
    {parameters : Parameters}
    {heap : Heap}
    {server : DDServer}
    {trace : List Event}
    (reaches : machine.Reaches
      (fun server trace action => action.InitiatesOffered server trace)
      (new parameters heap) server trace) :
    Trace.Every BlocksMatched trace := by
  have both : (server.toParty.Holds .block → Matched (handshake trace)) ∧
      Trace.Every BlocksMatched trace := by
    refine invariant_of_reaches reaches
      (fun server trace =>
        (server.toParty.Holds .block → Matched (handshake trace)) ∧
          Trace.Every BlocksMatched trace)
      ⟨by simp [new, Party.Holds], Trace.every_nil _⟩ ?_
    rintro server trace action server' events sound ⟨matched, every⟩ offered
      steps
    cases steps with
    | fsm moves =>
        exact ⟨moves.matched sound offered matched,
          moves.blocksMatched matched every⟩
    | call calls =>
        have held {state : FsmState} := @calls.held _ _ _ state
        have silent : events.foldl noteHandshake (handshake trace) =
            handshake trace :=
          calls.foldl_of_ignored (fun _ => rfl) (fun _ => rfl) _
        have blocks := calls.every (by simp [BlocksMatched])
          (by simp [BlocksMatched]) every
        rw [handshake_append, silent]
        obtain ⟨-, -⟩ := calls
        exact ⟨fun holds => matched (held holds (by simp)), blocks⟩
  exact both.2

end DDServer

/-- Neither side enters `BLOCK` on terms that were not agreed, in the runs in
which what a side does not check is right: every response that the client
accepts is within its request, and every initiate message that the server
accepts repeats its response. -/
theorem block_on_agreed_terms
    {clientParameters serverParameters : Parameters}
    {clientHeap serverHeap : Heap}
    {client : DDClient}
    {server : DDServer}
    {clientTrace serverTrace : List Event}
    (clientReaches : DDClient.machine.Reaches
      (fun client _ action => action.RespondsWithin client)
      (.new clientParameters clientHeap) client clientTrace)
    (serverReaches : DDServer.machine.Reaches
      (fun server trace action => action.InitiatesOffered server trace)
      (.new serverParameters serverHeap) server serverTrace) :
    Trace.Every
        (DDClient.BlocksAgreed clientParameters.config.terms) clientTrace ∧
      Trace.Every DDServer.BlocksMatched serverTrace :=
  ⟨DDClient.every_blocksAgreed clientReaches,
    DDServer.every_blocksMatched serverReaches⟩

/-! ## Runs with both kinds of peer -/

/-- Parameters of a party that asks for one block of six bytes. -/
def handshakeParameters : Parameters where
  transactionID := 7
  blocksPerTransaction := 1
  maxPacketlen := 11
  ackTimeout := 5

/-- A client that hears this response and starts `BLOCK`. -/
def clientHears (response : List Byte) : List DDClient.Action :=
  .startNewTransfer (some ⟨1, 0⟩) 6 {} :: List.replicate 16 (.fsm {}) ++
    .fsm { incoming := response } :: List.replicate 17 (.fsm {})

/-- What the actions make of a fresh client. -/
def clientRun (actions : List DDClient.Action) : DDClient × List Event :=
  DDClient.machine.execute (.new handshakeParameters fun _ _ => 0) [] actions

theorem reaches_clientRun
    {admits : DDClient → List Event → DDClient.Action → Prop}
    {actions : List DDClient.Action}
    (admitted : DDClient.machine.Admitted admits
      (.new handshakeParameters fun _ _ => 0) [] actions) :
    DDClient.machine.Reaches admits (.new handshakeParameters fun _ _ => 0)
      (clientRun actions).1 (clientRun actions).2 :=
  Machine.Reaches.execute actions .start admitted

/-- A server that hears a request and this initiate message and starts
`BLOCK`. -/
def serverHears (initiate : List Byte) : List DDServer.Action :=
  .startServer {} :: List.replicate 7 (.fsm {}) ++
    .fsm { incoming := [1, 7, 0, 0, 0, 1, 11, 5, 0, 0, 0] } ::
      List.replicate 7 (.fsm {}) ++
    .fsm { stored := [1, 2, 3, 4, 5, 6].take } :: List.replicate 9 (.fsm {}) ++
    .fsm { incoming := initiate } :: List.replicate 8 (.fsm {})

/-- What the actions make of a fresh server. -/
def serverRun (actions : List DDServer.Action) : DDServer × List Event :=
  DDServer.machine.execute (.new handshakeParameters fun _ _ => 0) [] actions

theorem reaches_serverRun
    {admits : DDServer → List Event → DDServer.Action → Prop}
    {actions : List DDServer.Action}
    (admitted : DDServer.machine.Admitted admits
      (.new handshakeParameters fun _ _ => 0) [] actions) :
    DDServer.machine.Reaches admits (.new handshakeParameters fun _ _ => 0)
      (serverRun actions).1 (serverRun actions).2 :=
  Machine.Reaches.execute actions .start admitted

/-- Two parties that reach `BLOCK` with an honest peer. -/
theorem block_on_agreed_terms_example :
    Trace.Every (DDClient.BlocksAgreed handshakeParameters.config.terms)
        (clientRun (clientHears [2, 7, 0, 0, 0, 1, 11, 5, 0, 0, 0])).2 ∧
      Trace.Every DDServer.BlocksMatched
        (serverRun (serverHears [3, 7, 0, 0, 0, 1, 11, 5, 0, 0, 0])).2 :=
  block_on_agreed_terms (reaches_clientRun (by decide +kernel))
    (reaches_serverRun (by decide +kernel))

/-- A client accepts another transaction ID, more blocks, longer packets and a
shorter timeout than it asked for, and a server other terms than it offered,
and both execute `BLOCK`. -/
theorem block_on_other_terms_example :
    (∃ client before after,
      DDClient.machine.Reaches (fun _ _ _ => True)
        (.new handshakeParameters fun _ _ => 0) client
        (before ++ .body .block (some ⟨1, 0⟩) :: after) ∧
      DDClient.acceptedResponse before = some ⟨9, 200, 255, 0⟩) ∧
    ∃ server before after,
      DDServer.machine.Reaches (fun _ _ _ => True)
        (.new handshakeParameters fun _ _ => 0) server
        (before ++ .body .block (some ⟨0, 0⟩) :: after) ∧
      (DDServer.handshake before).offered = some ⟨7, 1, 11, 5⟩ ∧
      (DDServer.handshake before).initiated = some ⟨7, 200, 255, 0⟩ := by
  constructor
  · let run := clientRun (clientHears [2, 9, 0, 0, 0, 200, 255, 0, 0, 0, 0])
    refine ⟨run.1, run.2.take 8, [], ?_, by decide +kernel⟩
    have split : run.2.take 8 ++ [.body .block (some ⟨1, 0⟩)] = run.2 := by
      decide +kernel
    rw [split]
    exact reaches_clientRun (Machine.admitted_of_forall fun _ _ => trivial)
  · let run := serverRun (serverHears [3, 7, 0, 0, 0, 200, 255, 0, 0, 0, 0])
    refine ⟨run.1, run.2.take 10, [.payloadCopied ⟨0, 0⟩ 6], ?_,
      by decide +kernel, by decide +kernel⟩
    have split : run.2.take 10 ++
        [.body .block (some ⟨0, 0⟩), .payloadCopied ⟨0, 0⟩ 6] = run.2 := by
      decide +kernel
    rw [split]
    exact reaches_serverRun (Machine.admitted_of_forall fun _ _ => trivial)

end DataDumpProtocol

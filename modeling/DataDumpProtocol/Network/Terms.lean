import DataDumpProtocol.Machines.Exchanges
import DataDumpProtocol.Network.Model

/-!
# Both sides transfer on the same terms

Whatever the channels lose, duplicate, delay or reorder: every request in
flight carries the client's own terms and every response the terms that both
sides derive from them, and so does each side's copy while it transfers.
-/

namespace DataDumpProtocol

open FsmState

/-- The terms that a client and a server agree on: the client's transaction
ID, the smaller block count, the smaller packet length and the larger
timeout. -/
def Terms.agreed (client server : Terms) : Terms where
  transactionID := client.transactionID
  maxBlocksPerTransaction := .ofNat 8
    (min client.maxBlocksPerTransaction.toNat
      server.maxBlocksPerTransaction.toNat)
  maxPacketlen := .ofNat 8
    (min client.maxPacketlen.toNat server.maxPacketlen.toNat)
  maxACKTimeout := .ofNat 8
    (max client.maxACKTimeout.toNat server.maxACKTimeout.toNat)

theorem ofNat_min_toNat (left right : BitVec 8) :
    BitVec.ofNat 8 (min left.toNat right.toNat) =
      if left < right then left else right := by
  by_cases less : left < right
  · rw [if_pos less, Nat.min_eq_left (Nat.le_of_lt less)]
    simp
  · rw [if_neg less, Nat.min_eq_right (Nat.le_of_not_lt less)]
    simp

theorem ofNat_max_toNat (left right : BitVec 8) :
    BitVec.ofNat 8 (max left.toNat right.toNat) =
      if left > right then left else right := by
  by_cases greater : left > right
  · rw [if_pos greater, Nat.max_eq_left (Nat.le_of_lt greater)]
    simp
  · rw [if_neg greater, Nat.max_eq_right (Nat.le_of_not_lt greater)]
    simp

/-- The `RESPONSE` body agrees on the terms. -/
theorem DDServer.negotiated_terms (server : DDServer) :
    server.negotiated.clientConfig.terms =
      server.clientConfig.terms.agreed server.serverConfig.terms := by
  simp only [Terms.agreed, ofNat_min_toNat, ofNat_max_toNat]
  rfl

/-- The thread is inside the body of this state. -/
def Party.Executes
    {Body : Type}
    (party : Party Body)
    (state : FsmState) : Prop :=
  party.point.Inside ∧ party.currentState = state

instance {Body : Type} (party : Party Body) (state : FsmState) :
    Decidable (party.Executes state) :=
  inferInstanceAs (Decidable (party.point.Inside ∧ _))

/-- A state in which both sides rely on the agreed terms. -/
def FsmState.Transfers (state : FsmState) : Prop :=
  state = .initiateBlock ∨ state = .block

/-! ## The client -/

namespace DDClient

/-- The client's copy of the server's terms is right when it enters the
state. -/
def Copied (terms : Terms) (client : DDClient) (state : FsmState) : Prop :=
  state.Transfers → client.serverConfig.terms = terms

/-- The client's copy is right wherever it relies on it. -/
structure Relies (terms : Terms) (client : DDClient) : Prop where
  heads : client.Heads (client.Copied terms)
  inside : client.point.Inside → client.Copied terms client.currentState
  entered : ∀ state, client.point = .enter state →
    state = client.currentState

section Relies

variable {parameters : Parameters} {client client' : DDClient}
variable {env : Environment} {events : List Event} {terms : Terms}

/-- A step inside a body that keeps the copy. -/
theorem Relies.toBody
    {body : ClientBody}
    (relies : client.Relies terms)
    (inside : client.point.Inside)
    (current : client'.currentState = client.currentState)
    (config : client'.serverConfig = client.serverConfig)
    (here : client'.point = .body body) :
    client'.Relies terms where
  heads := Party.heads_of_body here
  inside _ := by
    rw [Copied, current, config]
    exact relies.inside inside
  entered := by simp [here]

/-- A step to the end of a body. -/
theorem Relies.toLeave
    {target : FsmState}
    (inside : client'.Copied terms client'.currentState)
    (here : client'.point = .leave target)
    (ready : client'.Copied terms target) :
    client'.Relies terms where
  heads := (Party.heads_of_leave here).mpr ready
  inside _ := inside
  entered := by simp [here]

theorem Moves.relies
    (moves : client.Moves env client' events)
    (sound : client.Sound parameters)
    (acquired : env.lockAcquired = true)
    (responses : client.Accepts .response env →
      (client.polledHeader env).terms = terms)
    (relies : client.Relies terms) :
    client'.Relies terms := by
  have unready (state : FsmState) (other : ¬state.Transfers)
      (client : DDClient) : client.Copied terms state :=
    fun transfers => absurd transfers other
  cases moves with
  | shell shell =>
      have heads := shell.heads acquired relies.heads
      have entered := shell.entered acquired
      obtain ⟨current, next, busy, point, rfl, -⟩ := shell.unchanged
      refine ⟨heads, fun inside => ?_, fun state here => ?_⟩
      · obtain rfl : point = .enter current := entered inside
        exact heads.1
      · obtain rfl : point = .enter state := here
        exact Point.enter.inj (entered trivial)
  | idle here =>
      refine ⟨(Party.heads_of_readNext rfl).mpr ?_,
        fun inside => inside.elim, by simp⟩
      rcases relies.heads.next_of_idle here with next | next <;>
        simp [next, Copied, Transfers]
  | beginRequest here | awaitResponse here | beginInitiate here
  | awaitBlock here =>
      exact relies.toBody (by rw [here]; trivial) rfl rfl rfl
  | storeMore here | storeLast here | missBlock here | refuseBlock here
  | poll here | pollBlock here =>
      exact relies.toBody (by rw [here]; trivial) rfl rfl rfl
  | noTimer here | refuse here | ackSent here | ackNotSent here
  | giveUp here =>
      exact Relies.toLeave (relies.inside (by rw [here]; trivial)) rfl
        (unready _ (by simp [Transfers]) _)
  | requestSent here =>
      exact Relies.toLeave (relies.inside (by rw [here]; trivial)) rfl
        (unready _ (by simp [Transfers]) _)
  | acceptResponse here accepts =>
      have inside := sound.paced.inside _ here
      have copied := responses accepts
      exact Relies.toLeave (fun _ => copied) rfl fun _ => copied
  | initiateSent here =>
      have current := sound.paced.inside _ here
      have inside := relies.inside (by rw [here]; trivial)
      refine Relies.toLeave inside rfl fun _ => inside ?_
      exact .inl current.symm
  | continueBlock here =>
      have inside := relies.inside (by rw [here]; trivial)
      refine Relies.toLeave inside rfl ?_
      simp only [DataDump.getCurrentFSMState, acquired, if_true]
      exact inside
  | retry => exact relies
  | terminate here =>
      have current := relies.entered _ here
      exact Relies.toLeave (unready _ (by simp [← current, Transfers]) _) rfl
        (unready _ (by simp [Transfers]) _)

theorem Calls.relies
    {buffer : Option Pointer}
    {size : Nat}
    (calls : client.Calls buffer size client' events)
    (relies : client.Relies terms) :
    client'.Relies terms := by
  cases calls with
  | refused => exact relies
  | started _ _ _ allowed =>
      refine ⟨?_, relies.inside, relies.entered⟩
      rcases allowed with rfl | rfl
      · exact relies.heads
      · exact relies.heads.store (.inr rfl) (by simp [Copied, Transfers])

end Relies

end DDClient

/-! ## The server -/

namespace DDServer

/-- The server's copy of the client's terms is right when it enters the state:
before `RESPONSE` as requested, and afterwards as agreed. -/
def Copied
    (requested agreed : Terms)
    (server : DDServer)
    (state : FsmState) : Prop :=
  (state = .response → server.clientConfig.terms = requested) ∧
    (state.Transfers → server.clientConfig.terms = agreed)

/-- The server's copy is right wherever it relies on it. -/
structure Relies (requested agreed : Terms) (server : DDServer) : Prop where
  heads : server.toParty.Heads (server.Copied requested agreed)
  responding : ∀ response, server.point = .body (.responseSend response) →
    server.clientConfig.terms = agreed
  inside : server.point.Inside → server.currentState.Transfers →
    server.clientConfig.terms = agreed
  entered : ∀ state, server.point = .enter state →
    state = server.currentState

section Relies

variable {parameters : Parameters} {server server' : DDServer}
variable {env : Environment} {events : List Event}
variable {requested agreed : Terms}

/-- A step inside a body that keeps the copy. -/
theorem Relies.toBody
    {body : ServerBody}
    (relies : server.Relies requested agreed)
    (inside : server.point.Inside)
    (current : server'.currentState = server.currentState)
    (config : server'.clientConfig = server.clientConfig)
    (here : server'.point = .body body)
    (silent : ∀ response, body ≠ .responseSend response) :
    server'.Relies requested agreed where
  heads := Party.heads_of_body here
  responding response there := by simp [here, silent response] at there
  inside _ := by
    rw [current, config]
    exact relies.inside inside
  entered := by simp [here]

/-- A step to the end of a body. -/
theorem Relies.toLeave
    {target : FsmState}
    (inside : server'.currentState.Transfers →
      server'.clientConfig.terms = agreed)
    (here : server'.point = .leave target)
    (ready : server'.Copied requested agreed target) :
    server'.Relies requested agreed where
  heads := (Party.heads_of_leave here).mpr ready
  responding := by simp [here]
  inside _ := inside
  entered := by simp [here]

/-- Nothing is relied on in other states. -/
theorem copied_of_other
    {state : FsmState}
    (other : state ≠ .response ∧ ¬state.Transfers)
    (server : DDServer) :
    server.Copied requested agreed state :=
  ⟨fun response => absurd response other.1,
    fun transfers => absurd transfers other.2⟩

theorem Moves.relies
    (moves : server.Moves env server' events)
    (sound : server.Sound parameters)
    (acquired : env.lockAcquired = true)
    (requests : server.Accepts .request env →
      (server.polledHeader env).terms = requested)
    (agrees : agreed = requested.agreed server.serverConfig.terms)
    (relies : server.Relies requested agreed) :
    server'.Relies requested agreed := by
  have unready (state : FsmState)
      (other : state ≠ .response ∧ ¬state.Transfers) :=
    @copied_of_other requested agreed state other
  -- The terms while `RESPONSE` is entered.
  have negotiated (here : server.point = .enter .response) :
      server.negotiated.clientConfig.terms = agreed := by
    have copied := ((Party.heads_of_enter here).mp relies.heads).1
    rw [negotiated_terms, copied.1 rfl, agrees]
  have responding (here : server.point = .enter .response) :
      ¬server.currentState.Transfers := by
    rw [← relies.entered _ here]
    simp [Transfers]
  cases moves with
  | shell shell =>
      have heads := shell.heads acquired relies.heads
      have entered := shell.entered acquired
      have outside := shell.point_ne_body
      obtain ⟨current, next, busy, point, rfl, -⟩ := shell.unchanged
      refine ⟨heads, fun _ here => absurd here (outside _), fun inside => ?_,
        fun state here => ?_⟩
      · obtain rfl : point = .enter current := entered inside
        exact heads.1.2
      · obtain rfl : point = .enter state := here
        exact Point.enter.inj (entered trivial)
  | idle here =>
      refine ⟨(Party.heads_of_readNext rfl).mpr ?_, by simp,
        fun inside => inside.elim, by simp⟩
      rcases relies.heads.next_of_idle here with next | next <;>
        simp [next, Copied, Transfers]
  | awaitRequest here | awaitInitiate here | fillBlock here =>
      exact relies.toBody (by rw [here]; trivial) rfl rfl rfl (by simp)
  | blockSent here | lastBlockSent here =>
      exact relies.toBody (by rw [here]; trivial) rfl rfl rfl (by simp)
  | poll here polls =>
      refine relies.toBody (by rw [here]; trivial) rfl rfl rfl ?_
      cases polls <;> simp
  | acceptRequest here accepts =>
      have current := sound.paced.inside _ here
      refine Relies.toLeave ?_ rfl ⟨fun _ => requests accepts, ?_⟩
      · simp [← current, ServerBody.state, Transfers]
      · simp [Transfers]
  | readStorage here =>
      refine ⟨by simp [Party.Heads], fun _ _ => negotiated here,
        fun _ _ => negotiated here, by simp⟩
  | readNothing here | noStorage here =>
      exact Relies.toLeave (fun _ => negotiated here) rfl
        (unready _ (by simp [Transfers]) _)
  | responseSent here =>
      have terms := relies.responding _ here
      exact Relies.toLeave (fun _ => terms) rfl ⟨by simp, fun _ => terms⟩
  | acceptInitiate here =>
      have current := sound.paced.inside _ here
      have inside := relies.inside (by rw [here]; trivial)
      refine Relies.toLeave inside rfl ⟨by simp, fun _ => inside ?_⟩
      exact .inl current.symm
  | continueBlock here =>
      have current := sound.paced.inside _ here
      have inside := relies.inside (by rw [here]; trivial)
      refine Relies.toLeave inside rfl ?_
      simp only [DataDump.getCurrentFSMState, acquired, if_true, ← current]
      exact ⟨by simp [ServerBody.state], fun _ => inside (.inr current.symm)⟩
  | erase here | eraseElse here | giveUp here =>
      exact Relies.toLeave (relies.inside (by rw [here]; trivial)) rfl
        (unready _ (by simp [Transfers]) _)
  | retry => exact relies
  | terminate here =>
      have current := relies.entered _ here
      refine Relies.toLeave ?_ rfl (unready _ (by simp [Transfers]) _)
      simp [← current, Transfers]

theorem Calls.relies
    (calls : server.Calls server' events)
    (relies : server.Relies requested agreed) :
    server'.Relies requested agreed := by
  obtain ⟨allowed, -⟩ := calls
  refine ⟨?_, relies.responding, relies.inside, relies.entered⟩
  rcases allowed with rfl | rfl | ⟨rfl, -⟩
  · exact relies.heads
  · exact relies.heads.store (.inl rfl) (copied_of_other (by simp [Transfers]) _)
  · exact relies.heads.store (.inr rfl) (copied_of_other (by simp [Transfers]) _)

end Relies

end DDServer

/-! ## Both, and the frames between them -/

/-- A frame of a client with these terms. -/
def Frame.FromClient (requested : Terms) (frame : Frame) : Prop :=
  ∃ msgType terms, IsControl frame.bytes msgType terms ∧
    (msgType = .request → terms = requested)

/-- A frame of a server that answers with these terms. -/
def Frame.FromServer (agreed : Terms) (frame : Frame) : Prop :=
  IsControl frame.bytes .response agreed ∨ frame.bytes = [] ∨
    ∃ header payload, frame.bytes = blockFrame header payload

namespace Network

/-- Both sides and every frame in flight are on the same terms. -/
structure Agrees (requested agreed : Terms) (network : Network) : Prop where
  client : network.client.Relies agreed
  server : network.server.Relies requested agreed
  toServer : ∀ frame ∈ network.toServer, frame.FromClient requested
  toClient : ∀ frame ∈ network.toClient, frame.FromServer agreed

section Agrees

variable {clientParameters serverParameters : Parameters}
variable {network : Network} {requested agreed : Terms}
variable {arrives : Bool} {env : Environment}

/-- A response that the client accepts carries the agreed terms. -/
theorem Agrees.responses
    (agrees : network.Agrees requested agreed)
    (incoming : env.incoming =
      (Channel.heard network.toClient arrives).bytes)
    (accepts : network.client.Accepts .response env) :
    (network.client.polledHeader env).terms = agreed := by
  have nonempty := DataDump.incoming_ne_nil accepts.1
  rw [incoming] at nonempty
  rcases agrees.toClient _ (Channel.heard_mem nonempty) with
    control | empty | ⟨header, payload, block⟩
  · rw [← incoming] at control
    exact (accepts.of_control control (by simp)).2
  · exact absurd empty nonempty
  · rw [← incoming] at block
    simpa using accepts.not_blockFrame block

/-- A request that the server accepts carries the client's terms. -/
theorem Agrees.requests
    (agrees : network.Agrees requested agreed)
    (incoming : env.incoming =
      (Channel.heard network.toServer arrives).bytes)
    (accepts : network.server.Accepts .request env) :
    (network.server.polledHeader env).terms = requested := by
  have nonempty := DataDump.incoming_ne_nil accepts.1
  rw [incoming] at nonempty
  obtain ⟨msgType, terms, control, request⟩ :=
    agrees.toServer _ (Channel.heard_mem nonempty)
  rw [← incoming] at control
  obtain ⟨rfl, same⟩ := accepts.of_control control (by simp)
  rw [same, request rfl]

variable {network' : Network} {action : Action}
variable {observations : List Observation}

/-- What a client sends carries its own terms. -/
theorem fromClient_of_sent
    {client client' : DDClient}
    {events : List Event}
    {bytes : List Byte}
    (moves : client.Moves env client' events)
    (sound : client.Sound clientParameters)
    (present : .sent bytes true ∈ events)
    (history : History) :
    (history.clientFrame bytes).FromClient clientParameters.config.terms := by
  obtain ⟨body, msgType, terms, target, here, sends, control, -⟩ :=
    moves.sent sound present
  refine ⟨msgType, terms, control, ?_⟩
  rw [← sound.clientConfig]
  cases sends <;> simp

/-- What a server sends carries the agreed terms. -/
theorem fromServer_of_sent
    {server server' : DDServer}
    {events : List Event}
    {bytes : List Byte}
    (moves : server.Moves env server' events)
    (sound : server.Sound serverParameters)
    (relies : server.Relies requested agreed)
    (present : .sent bytes true ∈ events)
    (history : History) :
    (history.serverFrame bytes).FromServer agreed := by
  obtain ⟨body, here, sends⟩ := moves.sent sound present
  cases sends with
  | response control =>
      left
      rw [← relies.responding _ here]
      exact control
  | block buffer holds frame =>
      rename_i beyond
      rcases holds.frame_cases beyond with ⟨-, empty⟩ | ⟨-, block⟩
      · exact .inr (.inl (frame.trans empty))
      · exact .inr (.inr ⟨_, _, frame.trans block⟩)

theorem Steps.agrees
    (steps : network.Steps action network' observations)
    (sound : network.Sound clientParameters serverParameters)
    (acquires : action.Acquires)
    (shuffles : action.Shuffles network)
    (terms : agreed =
      clientParameters.config.terms.agreed serverParameters.config.terms)
    (agrees : network.Agrees clientParameters.config.terms agreed) :
    network'.Agrees clientParameters.config.terms agreed := by
  have taken (arrives : Bool) (events : List Event) :
      (∀ frame ∈ Channel.taken network.toClient arrives events,
        frame.FromServer agreed) ∧
      ∀ frame ∈ Channel.taken network.toServer arrives events,
        frame.FromClient clientParameters.config.terms :=
    ⟨fun frame present =>
        agrees.toClient frame (Channel.mem_of_mem_taken present),
      fun frame present =>
        agrees.toServer frame (Channel.mem_of_mem_taken present)⟩
  cases steps with
  | clientMoves moves =>
      refine ⟨moves.relies sound.client acquires (agrees.responses rfl)
        agrees.client, agrees.server, ?_, (taken _ _).1⟩
      intro frame present
      rcases List.mem_append.mp present with old | new
      · exact agrees.toServer frame old
      · obtain ⟨bytes, sent, rfl⟩ := Channel.mem_posted.mp new
        exact fromClient_of_sent moves sound.client sent _
  | clientCalls calls =>
      refine ⟨calls.relies agrees.client, agrees.server, ?_, (taken _ _).1⟩
      simp only [afterClient, Channel.posted_clientCalls calls,
        List.append_nil]
      exact agrees.toServer
  | serverMoves moves =>
      refine ⟨agrees.client, moves.relies sound.server acquires
        (agrees.requests rfl) (by rw [terms, sound.server.serverConfig])
        agrees.server, (taken _ _).2, ?_⟩
      intro frame present
      rcases List.mem_append.mp present with old | new
      · exact agrees.toClient frame old
      · obtain ⟨bytes, sent, rfl⟩ := Channel.mem_posted.mp new
        exact fromServer_of_sent moves sound.server agrees.server sent _
  | serverCalls calls =>
      refine ⟨agrees.client, calls.relies agrees.server, (taken _ _).2, ?_⟩
      simp only [afterServer, Channel.posted_serverCalls calls,
        List.append_nil]
      exact agrees.toClient
  | disturb =>
      exact ⟨agrees.client, agrees.server,
        fun frame present => agrees.toServer frame (shuffles.1 present),
        fun frame present => agrees.toClient frame (shuffles.2 present)⟩

end Agrees

/-- In every run over channels that make up no frames, whenever a side executes
`INITIATE_BLOCK` or `BLOCK`, its copy of the other side's terms is what both
derive from the parameters. -/
theorem transfers_on_agreed_terms
    {clientParameters serverParameters : Parameters}
    {clientHeap serverHeap : Heap}
    {network : Network}
    {trace : List Observation}
    (reaches : machine.Reaches
      (fun network _ action => action.Acquires ∧ action.Shuffles network)
      (new clientParameters serverParameters clientHeap serverHeap)
      network trace) :
    (∀ state, state.Transfers → network.client.Executes state →
      network.client.serverConfig.terms =
        clientParameters.config.terms.agreed serverParameters.config.terms) ∧
    (∀ state, state.Transfers → network.server.Executes state →
      network.server.clientConfig.terms =
        clientParameters.config.terms.agreed
          serverParameters.config.terms) := by
  have agrees := invariant_of_reaches reaches
    (fun network => network.Agrees clientParameters.config.terms
      (clientParameters.config.terms.agreed serverParameters.config.terms))
    { client := ⟨(Party.heads_of_readNext rfl).mpr fun transfers => by
          simp [new, DDClient.new, Transfers] at transfers,
          fun inside => inside.elim, by simp [new, DDClient.new]⟩
      server := ⟨(Party.heads_of_readNext rfl).mpr
          (DDServer.copied_of_other (by simp [new, DDServer.new, Transfers]) _),
          by simp [new, DDServer.new],
          fun inside => inside.elim, by simp [new, DDServer.new]⟩
      toServer := by simp [new]
      toClient := by simp [new] }
    fun _ _ _ _ _ sound agrees admitted steps =>
      steps.agrees sound admitted.1 admitted.2 rfl agrees
  refine ⟨?_, ?_⟩
  · rintro state transfers ⟨inside, rfl⟩
    exact agrees.2.client.inside inside transfers
  · rintro state transfers ⟨inside, rfl⟩
    exact agrees.2.server.inside inside transfers

/-- Both parties execute `BLOCK` on the agreed terms. -/
theorem transfers_on_agreed_terms_example :
    (exampleRun (exampleRequest ++ exampleResponse [1, 2, 3] ++
        clientSteps 25 ++ serverSteps 16)).1.client.serverConfig.terms =
      ⟨7, 2, 11, 5⟩ ∧
    (exampleRun (exampleRequest ++ exampleResponse [1, 2, 3] ++
        clientSteps 25 ++ serverSteps 16)).1.server.clientConfig.terms =
      ⟨7, 2, 11, 5⟩ := by
  have agreed := transfers_on_agreed_terms (@reaches_exampleRun _
    (exampleRequest ++ exampleResponse [1, 2, 3] ++ clientSteps 25 ++
      serverSteps 16)
    (by decide +kernel))
  exact ⟨agreed.1 .block (.inr rfl) (by decide +kernel),
    agreed.2 .block (.inr rfl) (by decide +kernel)⟩

end Network

end DataDumpProtocol

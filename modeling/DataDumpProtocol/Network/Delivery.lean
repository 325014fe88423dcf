import DataDumpProtocol.Network.Gathering

/-!
# Success means delivery

Over channels that lose frames but keep them in order: when a side notifies
success, the caller's buffer begins with the data of the transaction, provided
that every block that was stored continued the data before it.  The client does
not look at the frame numbers, so a lost block goes unnoticed.
-/

namespace DataDumpProtocol

/-! ## The server's success -/

namespace DDServer

/-- In the loop that waits for the acknowledgement. -/
def awaitsAck (server : DDServer) : Bool :=
  match server.point with
  | .body (.ackReceive _) => true
  | _ => false

/-- An acknowledgement that is taken for the server's own was sent for its
transaction. -/
def HeedsOwn
    (history : History)
    (heard : Frame)
    (env : Environment)
    (server : DDServer) : Prop :=
  server.awaitsAck = true →
    server.Accepts .blockAck env →
      (server.polledHeader env).transactionID =
          server.clientConfig.transactionID →
        heard.transaction = history.transaction

instance (history : History) (heard : Frame) (env : Environment)
    (server : DDServer) : Decidable (server.HeedsOwn history heard env) :=
  inferInstanceAs (Decidable (_ → _ → _ → _))

/-- The server has served its request and can only terminate. -/
structure Done (server : DDServer) : Prop where
  served : server.clientConfig.transactionID ≠ 0#32
  held : ∀ state, server.toParty.Holds state →
    state = .block ∨ state = .terminate ∨ state = .idle

section Done

variable {parameters : Parameters} {server server' : DDServer}
variable {env : Environment} {events : List Event}

/-- An erasing call is made for an acknowledgement. -/
theorem Moves.erased_cases (moves : server.Moves env server' events) :
    (∀ size reported, .storageErased size reported ∉ events) ∨
      ∃ ackPacket size reported,
        server.point = .body (.ackReceive ackPacket) ∧
        server.Accepts .blockAck env ∧
        (server.polledHeader env).transactionID =
          server.clientConfig.transactionID ∧
        events = server.pollEvent ++
          [.received (server.polledHeader env),
            .storageErased size reported] ∧
        server'.clientConfig = server.clientConfig ∧
        server'.currentState = server.currentState ∧
        server'.nextState = server.nextState ∧
        server'.toParty.point = .leave .terminate := by
  cases moves with
  | erase here accepts _ agrees | eraseElse here accepts _ agrees =>
      exact .inr ⟨_, _, _, here, accepts, agrees, rfl, rfl, rfl, rfl, rfl⟩
  | retry here unsent =>
      refine .inl fun size reported present => ?_
      obtain ⟨frame, impossible⟩ := unsent _ present
      simp at impossible
  | giveUp here givesUp =>
      refine .inl fun size reported present => ?_
      rcases givesUp.mem present with impossible | ⟨frame, impossible⟩ |
        impossible <;> simp at impossible
  | _ => exact .inl (by simp)

/-- Only an erasing call makes a transaction successful, and only `TERMINATE`
and `IDLE` forget it. -/
theorem Moves.success_cases
    (moves : server.Moves env server' events)
    (success : server'.isTransferSuccess = true) :
    (server.isTransferSuccess = true ∧
        server.point ≠ .enter .terminate ∧ server.point ≠ .enter .idle) ∨
      ∃ size reported, .storageErased size reported ∈ events := by
  cases moves with
  | shell shell =>
      have outside := shell.not_entering
      obtain ⟨_, _, _, _, rfl, -⟩ := shell.unchanged
      exact .inl ⟨success, outside _, outside _⟩
  | erase =>
      exact .inr ⟨server.internalBufferLen,
        env.erased server.internalBufferLen, by simp⟩
  | idle | terminate => simp at success
  | awaitRequest here | acceptRequest here | readStorage here
  | readNothing here | noStorage here | responseSent here
  | awaitInitiate here | acceptInitiate here | fillBlock here
  | blockSent here | lastBlockSent here | continueBlock here
  | eraseElse here | poll here | retry here | giveUp here =>
      exact .inl ⟨success, by simp [here], by simp [here]⟩

/-- A server that notifies success was successful. -/
theorem Moves.success_of_notified
    (moves : server.Moves env server' events)
    (notified : .notified true ∈ events) :
    server.isTransferSuccess = true := by
  cases moves with
  | terminate here => exact (by simpa using notified : _ ∧ _).2
  | retry here unsent =>
      obtain ⟨frame, impossible⟩ := unsent _ notified
      simp at impossible
  | giveUp here givesUp =>
      rcases givesUp.mem notified with impossible | ⟨frame, impossible⟩ |
        impossible <;> simp at impossible
  | _ => simp at notified

/-- A server that is done stays done until it forgets its success. -/
theorem Moves.done
    (moves : server.Moves env server' events)
    (sound : server.Sound parameters)
    (done : server.Done)
    (outside : server.point ≠ .enter .terminate)
    (awake : server.point ≠ .enter .idle) :
    server'.Done := by
  obtain ⟨served, held⟩ := done
  have inside {body : ServerBody} (here : server.point = .body body) :
      body.state = .block ∨ body.state = .terminate ∨ body.state = .idle :=
    held _ (.inl (sound.paced.inside _ here))
  have entered {state : FsmState} (here : server.point = .enter state) :
      state = .block ∨ state = .terminate ∨ state = .idle :=
    held _ (.inr (.inr (.inr (.inl here))))
  constructor
  case served =>
    cases moves with
    | shell shell =>
        obtain ⟨_, _, _, _, rfl, -⟩ := shell.unchanged
        exact served
    | idle here => exact absurd here awake
    | terminate here => exact absurd here outside
    | acceptRequest here => simpa [ServerBody.state] using inside here
    | readStorage here | readNothing here | noStorage here =>
        simpa using entered here
    | _ => exact served
  case held =>
    intro state holds
    by_cases old : server.toParty.Holds state
    · exact held state old
    rcases moves.opens sound holds old with
      last | ⟨-, here⟩ | ⟨-, ⟨-, request, here⟩ | ⟨-, response, here⟩ |
        ⟨-, initiate, here⟩⟩
    · exact .inr (.inl last)
    · exact absurd here outside
    · simpa [ServerBody.state] using inside here
    · simpa [ServerBody.state] using inside here
    · simpa [ServerBody.state] using inside here

theorem Calls.done
    (calls : server.Calls server' events)
    (sound : server.Sound parameters)
    (done : server.Done) :
    server'.Done := by
  obtain ⟨served, held⟩ := done
  obtain ⟨allowed, -⟩ := calls
  refine ⟨served, fun state holds => ?_⟩
  rcases Party.holds_of_store holds with old | rfl
  · exact held state old
  · rcases allowed with rfl | rfl | ⟨rfl, resting⟩
    · exact held _ (.inr (.inl rfl))
    · exact .inr (.inr rfl)
    · simp [sound.awake served] at resting

/-- A server that leaves the wait for the acknowledgement of a request that it
serves is done. -/
theorem Sound.done_of_ack
    {ackPacket : TransactionPacket}
    (sound : server.Sound parameters)
    (here : server.point = .body (.ackReceive ackPacket))
    (served : server.clientConfig.transactionID ≠ 0#32)
    (config : server'.clientConfig = server.clientConfig)
    (current : server'.currentState = server.currentState)
    (next : server'.nextState = server.nextState)
    (leaving : server'.toParty.point = .leave .terminate) :
    server'.Done := by
  refine ⟨config ▸ served, fun state holds => ?_⟩
  rcases Party.holds_of_leave current next leaving holds with old | rfl
  · have follows := sound.paced.follows_of_inside here old
    simp only [FsmState.Follows, ServerBody.state, FsmState.successor, Free,
      served, and_false, or_false, reduceCtorEq, false_or] at follows
    rcases follows with last | same | next | idle
    · exact .inr (.inl last)
    · exact .inl same
    · exact .inl next
    · exact .inr (.inr idle)
  · exact .inr (.inl rfl)

end Done

end DDServer

/-! ## Both parties -/

namespace History

/-- What the history tells about the caller's buffer. -/
def gathered (history : History) : Pointer × Nat × Nat × Nat :=
  (history.caller, history.stored, history.source, history.reached)

theorem gathered_noteServer
    (events : List Event)
    (heard : Frame)
    (history : History) :
    (events.foldl (noteServer heard) history).gathered = history.gathered := by
  refine Trace.foldl_keeps gathered (fun event _ history => ?_) history
  cases event with
  | received header =>
      simp only [noteServer]
      split <;> rfl
  | _ => rfl

end History

namespace DDClient

variable {client : DDClient} {history history' : History}

/-- What a client gathers stays in the history. -/
theorem Gathers.congr
    (gathers : client.Gathers history)
    (gathered : history'.gathered = history.gathered)
    (contents : history'.contents history.source =
      history.contents history.source) :
    client.Gathers history' := by
  obtain ⟨caller, stored, source, reached⟩ :
      history'.caller = history.caller ∧ history'.stored = history.stored ∧
        history'.source = history.source ∧
        history'.reached = history.reached := by
    simpa [History.gathered] using gathered
  obtain ⟨aim, full, data⟩ := gathers
  rw [← contents] at data
  rw [← caller, ← stored] at aim data
  rw [← stored, ← reached] at full
  rw [← source] at data
  exact ⟨aim, full, data⟩

theorem Concludes.congr
    (concludes : client.Concludes history)
    (gathered : history'.gathered = history.gathered)
    (contents : history'.contents history.source =
      history.contents history.source) :
    client.Concludes history' := by
  obtain ⟨-, stored, source, -⟩ :
      _ ∧ history'.stored = history.stored ∧
        history'.source = history.source ∧ _ := by
    simpa [History.gathered] using gathered
  have whole : history.Whole → history'.Whole := by
    rintro ⟨some_, all⟩
    rw [History.Whole, stored, source, contents]
    exact ⟨some_, all⟩
  refine ⟨fun packet here => whole (concludes.acking packet here),
    fun success => ?_⟩
  obtain ⟨all, rest⟩ := concludes.success success
  exact ⟨whole all, rest⟩

end DDClient

/-- The frame acknowledges blocks. -/
def Frame.isAck (frame : Frame) : Bool :=
  frame.bytes.head? = some MsgType.blockAck.toByte

namespace Network

/-- All data of the last transaction stand in this buffer. -/
structure Delivered (network : Network) (buffer : Pointer) : Prop where
  source : network.history.source = network.history.transaction
  reached : network.history.reached = network.history.current.length
  contents : network.client.heap.bytes buffer
    network.history.current.length = network.history.current

/-- The frame acknowledges a transaction whose data were delivered, if it is
the last one. -/
structure Acknowledges (network : Network) (frame : Frame) : Prop where
  past : frame.transaction ≤ network.history.transaction
  control : ∃ terms, IsControl frame.bytes .blockAck terms ∧
    terms.transactionID ≠ 0#32
  delivered : frame.transaction = network.history.transaction →
    network.Delivered frame.buffer

/-- What every run keeps in which the blocks that are stored continue each
other. -/
structure Delivers (network : Network) : Prop where
  fits : network.server.Fits
  supplies : network.server.Supplies network.history
  gathers : network.client.Gathers network.history
  concludes : network.client.Concludes network.history
  relays : Relays network.history.contents
    (DDClient.place network.history) network.toClient
    (network.server.place network.history)
  acks : ∀ frame ∈ network.toServer, frame.isAck = true →
    network.Acknowledges frame
  success : network.server.isTransferSuccess = true →
    network.Delivered network.history.acknowledged ∧ network.server.Done

section Client

variable {clientParameters serverParameters : Parameters} {network : Network}
variable {env : Environment} {arrives : Bool} {client : DDClient}
variable {events : List Event} {buffer : Pointer}

/-- Nothing is left to be heard of a transaction that was delivered. -/
theorem Delivers.silent
    (delivers : network.Delivers)
    (delivered : network.Delivered buffer) :
    ∀ frame ∈ network.toClient, frame.isBlock = false := by
  intro frame present
  by_contra block
  have block : frame.isBlock = true := by simpa using block
  obtain ⟨header, payload, covers⟩ := delivers.relays.covers frame present block
  obtain ⟨after, before⟩ := delivers.relays.inOrder.mem
    (List.mem_filter.mpr ⟨present, block⟩)
  have nonempty := List.length_pos_iff.mpr covers.nonempty
  rw [Frame.finish_of_blockFrame covers.bytes] at before
  have after := place_le_iff.mp after
  have before := place_le_iff.mp before
  rw [delivered.source, delivered.reached] at after
  omega

/-- The next block that is stored continues the others. -/
theorem Delivers.storing
    (delivers : network.Delivers)
    (continues : network.client.Continues network.history
      (Channel.heard network.toClient arrives)
      (env.hearing (Channel.heard network.toClient arrives).bytes)) :
    network.client.Storing network.history
      (Channel.heard network.toClient arrives)
      (env.hearing (Channel.heard network.toClient arrives).bytes) := by
  intro packet target here accepts given fits
  refine delivers.gathers.stores continues (fun block => ?_) rfl here accepts
    given fits
  exact delivers.relays.covers _
    (Channel.heard_mem (DataDump.incoming_ne_nil accepts.1)) block

/-- A step of the client stores the block at the front of its channel, or
leaves the caller's buffer alone. -/
theorem Delivers.client_cases
    (delivers : network.Delivers)
    (moves : network.client.Moves
      (env.hearing (Channel.heard network.toClient arrives).bytes)
      client events)
    (continues : network.client.Continues network.history
      (Channel.heard network.toClient arrives)
      (env.hearing (Channel.heard network.toClient arrives).bytes)) :
    (∃ header payload rest,
      (Channel.heard network.toClient arrives).Covers network.history.contents
        header payload ∧
      network.toClient = Channel.heard network.toClient arrives :: rest ∧
      Channel.taken network.toClient arrives events = rest ∧
      (∀ bytes, .sent bytes true ∉ events) ∧
      (network.afterClient arrives client events).history =
        network.history.storing (Channel.heard network.toClient arrives)
          payload.length) ∨
    ((network.afterClient arrives client events).history = network.history ∧
      client.heap = network.client.heap) := by
  have known := delivers.storing continues
  have uncalled : ∀ event ∈ events, event.isCall = false :=
    fun event present => moves.not_call present
  rcases moves.buffer_cases with
    ⟨packet, target, here, accepts, given, fits, -, rfl⟩ |
    ⟨here, heap, -, rfl⟩ | ⟨heap, -, -, aside⟩
  · left
    obtain ⟨header, stores⟩ := known packet target here accepts given fits
    obtain ⟨arrived, rest, split⟩ :=
      Channel.heard_eq (DataDump.incoming_ne_nil accepts.1)
    have polls : network.client.recvCB = true := by
      by_contra absent
      simpa [DataDump.delivered, absent] using accepts.1
    refine ⟨header, _, rest, stores.covers, split, ?_, by simp,
      DDClient.noteClient_stored _ _ _ _ _⟩
    rw [Channel.taken, if_pos ⟨arrived, by simp [polls]⟩]
    conv_lhs => rw [split]
    rfl
  · exact .inr ⟨History.noteClient_eq_self (by simp) uncalled _ _, heap⟩
  · refine .inr ⟨History.noteClient_eq_self (fun _ _ stored => ?_) uncalled _
      _, heap⟩
    simpa [Event.concernsBuffer] using aside _ stored

/-- The frame that a client sends as an acknowledgement is for everything that
it stored. -/
theorem Delivers.acknowledges
    (delivers : network.Delivers)
    (moves : network.client.Moves
      (env.hearing (Channel.heard network.toClient arrives).bytes)
      client events)
    (sound : network.client.Sound clientParameters)
    {bytes : List Byte}
    (sent : .sent bytes true ∈ events)
    (ack : (network.history.clientFrame bytes).isAck = true) :
    network.Acknowledges (network.history.clientFrame bytes) := by
  obtain ⟨body, msgType, terms, target, here, sends, control, -⟩ :=
    moves.sent sound sent
  obtain rfl : msgType = .blockAck :=
    control.of_head (of_decide_eq_true ack) (by simp)
  cases sends with
  | @ack packet =>
      have live : _ ∧ network.client.serverConfig.transactionID ≠ 0#32 ∧ _ :=
        sound.live _ here
      obtain ⟨some_, all⟩ := delivers.concludes.acking packet here
      have past := place_le_iff.mp delivers.relays.inOrder.le
      have reached := delivers.gathers.reached some_
      have contents := delivers.gathers.contents
      refine ⟨?_, ⟨_, control, live.2.1⟩, fun last => ?_⟩
      · simp only [History.clientFrame]
        omega
      · have last : network.history.source = network.history.transaction := last
        rw [last] at all contents
        rw [all, List.take_length] at contents
        exact ⟨last, reached.symm.trans all, contents⟩

/-- What was delivered stays delivered while history and memory do. -/
theorem Delivered.congr
    {network' : Network}
    (delivered : network.Delivered buffer)
    (history : network'.history = network.history)
    (heap : network'.client.heap = network.client.heap) :
    network'.Delivered buffer := by
  obtain ⟨source, reached, contents⟩ := delivered
  rw [← history] at source reached contents
  rw [← heap] at contents
  exact ⟨source, reached, contents⟩

theorem Acknowledges.congr
    {network' : Network}
    {frame : Frame}
    (acknowledges : network.Acknowledges frame)
    (transaction : network'.history.transaction = network.history.transaction)
    (delivered : ∀ buffer, network.Delivered buffer →
      network'.Delivered buffer) :
    network'.Acknowledges frame where
  past := transaction ▸ acknowledges.past
  control := acknowledges.control
  delivered last :=
    delivered _ (acknowledges.delivered (last.trans transaction))

theorem Delivers.clientMoves
    (delivers : network.Delivers)
    (moves : network.client.Moves
      (env.hearing (Channel.heard network.toClient arrives).bytes)
      client events)
    (sound : network.client.Sound clientParameters)
    (continues : network.client.Continues network.history
      (Channel.heard network.toClient arrives)
      (env.hearing (Channel.heard network.toClient arrives).bytes)) :
    (network.afterClient arrives client events).Delivers := by
  have known := delivers.storing continues
  have gathers := moves.gathers known delivers.gathers
  have concludes := moves.concludes sound known delivers.concludes
  rcases delivers.client_cases moves continues with
    ⟨header, payload, rest, covers, front, taken, unsent, history⟩ |
    ⟨history, heap⟩
  · -- A block is stored, so the last transaction was not delivered yet.
    have pending {buffer : Pointer} : ¬network.Delivered buffer := by
      intro delivered
      have silent := delivers.silent delivered _
        (by rw [front]; exact List.mem_cons_self)
      simp [Frame.isBlock_of_blockFrame covers.bytes] at silent
    have transaction : (network.afterClient arrives client
        events).history.transaction = network.history.transaction := by
      rw [history]
      rfl
    constructor
    case fits => exact delivers.fits
    case supplies =>
      rw [history]
      exact delivers.supplies.congr rfl
    case gathers => exact gathers
    case concludes => exact concludes
    case relays =>
      have relays := delivers.relays
      rw [front] at relays
      have next := relays.next (Frame.isBlock_of_blockFrame covers.bytes)
      rw [Frame.finish_of_blockFrame covers.bytes] at next
      change Relays _ _ (Channel.taken network.toClient arrives events) _
      rw [taken, history]
      exact next
    case acks =>
      intro frame present ack
      simp only [afterClient, Channel.posted_of_unsent unsent,
        List.append_nil] at present
      exact (delivers.acks frame present ack).congr transaction
        fun buffer delivered => absurd delivered pending
    case success =>
      intro success
      exact absurd (delivers.success success).1 pending
  · have kept : ∀ buffer, network.Delivered buffer →
        (network.afterClient arrives client events).Delivered buffer :=
      fun buffer delivered => delivered.congr history heap
    constructor
    case fits => exact delivers.fits
    case supplies =>
      rw [history]
      exact delivers.supplies
    case gathers => exact gathers
    case concludes => exact concludes
    case relays =>
      rw [history]
      exact delivers.relays.sublist Channel.taken_sublist
    case acks =>
      intro frame present ack
      refine Acknowledges.congr ?_ (congrArg History.transaction history) kept
      rcases List.mem_append.mp present with old | new
      · exact delivers.acks frame old ack
      · obtain ⟨bytes, sent, rfl⟩ := Channel.mem_posted.mp new
        exact delivers.acknowledges moves sound sent ack
    case success =>
      intro success
      obtain ⟨delivered, done⟩ := delivers.success success
      rw [history]
      exact ⟨kept _ delivered, done⟩

theorem Delivers.clientCalls
    {pointer : Option Pointer}
    {size : Nat}
    (delivers : network.Delivers)
    (calls : network.client.Calls pointer size client events)
    (sound : network.client.Sound clientParameters) :
    (network.afterClient arrives client events).Delivers := by
  have supply := History.supply_noteClient events
    (Channel.heard network.toClient arrives) network.history
  have kept : ∀ buffer, network.Delivered buffer →
      (network.afterClient arrives client events).Delivered buffer := by
    rintro buffer ⟨source, reached, contents⟩
    cases calls with
    | refused | started => exact ⟨source, reached, contents⟩
  constructor
  case fits => exact delivers.fits
  case supplies => exact delivers.supplies.congr supply
  case gathers => exact calls.gathers delivers.gathers
  case concludes => exact calls.concludes sound delivers.concludes
  case relays =>
    have relays := delivers.relays.sublist
      (@Channel.taken_sublist network.toClient arrives events)
    cases calls with
    | refused | started => exact relays
  case acks =>
    intro frame present ack
    simp only [afterClient, Channel.posted_clientCalls calls,
      List.append_nil] at present
    refine (delivers.acks frame present ack).congr ?_ kept
    exact congrArg Prod.fst supply
  case success =>
    intro success
    obtain ⟨delivered, done⟩ := delivers.success success
    refine ⟨?_, done⟩
    have delivered := kept _ delivered
    cases calls with
    | refused | started => exact delivered

end Client

section Server

variable {clientParameters serverParameters : Parameters} {network : Network}
variable {env : Environment} {arrives : Bool} {server : DDServer}
variable {events : List Event} {buffer : Pointer}

/-- What was delivered stays delivered until storage is read again. -/
theorem Delivered.afterServer
    (delivered : network.Delivered buffer)
    (same : (network.afterServer arrives server events).history.transaction =
      network.history.transaction) :
    (network.afterServer arrives server events).Delivered buffer := by
  have later := History.extends_noteServer events
    (Channel.heard network.toServer arrives) network.history
  have gathered := History.gathered_noteServer events
    (Channel.heard network.toServer arrives) network.history
  have current : (network.afterServer arrives server events).history.current =
      network.history.current := by
    rw [History.current, same]
    exact later.contents _ (Nat.le_refl _)
  obtain ⟨-, -, source, reached⟩ : _ ∧ _ ∧ _ = _ ∧ _ = _ := by
    simpa only [History.gathered, Prod.mk.injEq] using gathered
  obtain ⟨atLast, whole, contents⟩ := delivered
  rw [← current] at whole contents
  exact ⟨source.trans (atLast.trans same.symm), reached.trans whole, contents⟩

/-- A server that erases got the acknowledgement of what was delivered. -/
theorem Delivers.acknowledged
    {ackPacket : TransactionPacket}
    (delivers : network.Delivers)
    (heeds : network.server.HeedsOwn network.history
      (Channel.heard network.toServer arrives)
      (env.hearing (Channel.heard network.toServer arrives).bytes))
    (here : network.server.point = .body (.ackReceive ackPacket))
    (accepts : network.server.Accepts .blockAck
      (env.hearing (Channel.heard network.toServer arrives).bytes))
    (agrees : (network.server.polledHeader
        (env.hearing (Channel.heard network.toServer arrives).bytes)
          ).transactionID =
      network.server.clientConfig.transactionID) :
    network.Delivered (Channel.heard network.toServer arrives).buffer ∧
      network.server.clientConfig.transactionID ≠ 0#32 := by
  have own := heeds (by rw [DDServer.awaitsAck, here]) accepts agrees
  have ack : (Channel.heard network.toServer arrives).isAck = true :=
    decide_eq_true (DataDump.head_of_delivered accepts.1 accepts.2.1)
  obtain ⟨-, ⟨terms, control, served⟩, delivered⟩ := delivers.acks _
    (Channel.heard_mem (DataDump.incoming_ne_nil accepts.1)) ack
  obtain ⟨-, same⟩ := accepts.of_control control (by simp)
  refine ⟨delivered own, ?_⟩
  rw [← agrees]
  exact fun zero => served ((congrArg Terms.transactionID same).symm.trans zero)

theorem Delivers.serverMoves
    (delivers : network.Delivers)
    (moves : network.server.Moves
      (env.hearing (Channel.heard network.toServer arrives).bytes)
      server events)
    (sound : network.server.Sound serverParameters)
    (atMost : ∀ maxSize, (env.stored maxSize).length ≤ maxSize)
    (heeds : network.server.HeedsOwn network.history
      (Channel.heard network.toServer arrives)
      (env.hearing (Channel.heard network.toServer arrives).bytes)) :
    (network.afterServer arrives server events).Delivers := by
  have later := History.extends_noteServer events
    (Channel.heard network.toServer arrives) network.history
  have gathered := History.gathered_noteServer events
    (Channel.heard network.toServer arrives) network.history
  have past := place_le_iff.mp delivers.relays.inOrder.le
  have contents := later.contents network.history.source (by omega)
  constructor
  case fits => exact moves.fits sound atMost delivers.fits
  case supplies => exact moves.supplies sound delivers.fits delivers.supplies _
  case gathers => exact delivers.gathers.congr gathered contents
  case concludes => exact delivers.concludes.congr gathered contents
  case relays =>
    have relays := delivers.relays.append (moves.posts sound delivers.supplies
      (Channel.heard network.toServer arrives))
    obtain ⟨-, -, source, reached⟩ : _ ∧ _ ∧ _ = _ ∧ _ = _ := by
      simpa only [History.gathered, Prod.mk.injEq] using gathered
    have place : DDClient.place
        (network.afterServer arrives server events).history =
          DDClient.place network.history := by
      rw [DDClient.place, DDClient.place]
      exact congrArg toLex (Prod.ext source reached)
    rw [place]
    refine relays.congr fun frame present block => later.contents _ ?_
    rcases List.mem_append.mp present with old | new
    · have before := (delivers.relays.inOrder.mem
        (List.mem_filter.mpr ⟨old, block⟩)).2
      have before := place_le_iff.mp before
      omega
    · obtain ⟨bytes, -, rfl⟩ := Channel.mem_posted.mp new
      exact Nat.le_refl _
  case acks =>
    intro frame present ack
    obtain ⟨past, control, delivered⟩ :=
      delivers.acks frame (Channel.mem_of_mem_taken present) ack
    refine ⟨past.trans later.transaction, control, fun last => ?_⟩
    have same : (network.afterServer arrives server events).history.transaction
        = network.history.transaction :=
      Nat.le_antisymm (last.symm.trans_le past) later.transaction
    exact (delivered (last.trans same)).afterServer same
  case success =>
    intro success
    rcases moves.erased_cases with
      none | ⟨ackPacket, size, reported, here, accepts, agrees, rfl, config,
        current, next, leaving⟩
    · obtain ⟨old, outside, awake⟩ := (moves.success_cases success).resolve_right
        fun ⟨size, reported, erased⟩ => none size reported erased
      obtain ⟨delivered, done⟩ := delivers.success old
      have elsewhere : network.server.point ≠ .enter .response := fun here => by
        simpa using done.held _ (.inr (.inr (.inr (.inl here))))
      have same := @DDServer.Moves.transaction_eq _ _ _ _ network.history moves
        elsewhere (Channel.heard network.toServer arrives)
      have acknowledged :
          (network.afterServer arrives server events).history.acknowledged =
            network.history.acknowledged := by
        refine Trace.foldl_keeps History.acknowledged
          (fun event present history => ?_) _
        cases event with
        | storageErased => exact absurd present (none _ _)
        | received header =>
            simp only [History.noteServer]
            split <;> rfl
        | _ => rfl
      rw [acknowledged]
      exact ⟨delivered.afterServer same, moves.done sound done outside awake⟩
    · obtain ⟨delivered, served⟩ :=
        delivers.acknowledged heeds here accepts agrees
      have same := @DDServer.Moves.transaction_eq _ _ _ _ network.history moves
        (by simp [here]) (Channel.heard network.toServer arrives)
      refine ⟨?_, sound.done_of_ack here served config current next leaving⟩
      have acknowledged : (network.afterServer arrives server
          (network.server.pollEvent ++
            [.received (network.server.polledHeader
                (env.hearing (Channel.heard network.toServer arrives).bytes)),
              .storageErased size reported])).history.acknowledged =
            (Channel.heard network.toServer arrives).buffer := by
        simp [afterServer, History.noteServer, List.foldl_append]
      rw [acknowledged]
      exact delivered.afterServer same

theorem Delivers.serverCalls
    (delivers : network.Delivers)
    (calls : network.server.Calls server events)
    (sound : network.server.Sound serverParameters) :
    (network.afterServer arrives server events).Delivers := by
  have history :
      (network.afterServer arrives server events).history =
        network.history :=
    calls.foldl_of_ignored (fun _ => rfl) (fun _ => rfl) network.history
  have kept : ∀ buffer, network.Delivered buffer →
      (network.afterServer arrives server events).Delivered buffer :=
    fun buffer delivered => delivered.congr history rfl
  have done := @calls.done _ _ _ _ sound
  constructor
  case fits => exact calls.fits delivers.fits
  case supplies =>
    rw [history]
    obtain ⟨within, staged, placed, filled⟩ := delivers.supplies
    obtain ⟨-, -⟩ := calls
    exact ⟨within, staged, placed, filled⟩
  case gathers =>
    rw [history]
    exact delivers.gathers
  case concludes =>
    rw [history]
    exact delivers.concludes
  case relays =>
    rw [history]
    simp only [afterServer, Channel.posted_serverCalls calls, List.append_nil]
    obtain ⟨-, -⟩ := calls
    exact delivers.relays
  case acks =>
    intro frame present ack
    exact (delivers.acks frame (Channel.mem_of_mem_taken present) ack).congr
      (congrArg History.transaction history) kept
  case success =>
    intro success
    have old : network.server.isTransferSuccess = true := by
      obtain ⟨-, -⟩ := calls
      exact success
    obtain ⟨delivered, before⟩ := delivers.success old
    rw [history]
    exact ⟨kept _ delivered, done before⟩

end Server

/-! ## Runs -/

/-- The channels may lose frames, but neither change, duplicate nor reorder
them. -/
def Action.Loses (network : Network) : Action → Prop
  | .client _ _ | .server _ _ => True
  | .disturb toServer toClient =>
      toServer.Sublist network.toServer ∧ toClient.Sublist network.toClient

instance (network : Network) :
    (action : Action) → Decidable (action.Loses network)
  | .client _ _ | .server _ _ => inferInstanceAs (Decidable True)
  | .disturb toServer toClient =>
      inferInstanceAs (Decidable
        (toServer.Sublist network.toServer ∧
          toClient.Sublist network.toClient))

/-- The server's storage writes at most as many bytes as it is asked for. -/
def Action.ReadsAtMost : Action → Prop
  | .server action _ => action.ReadsAtMost
  | .client _ _ | .disturb _ _ => True

/-- A block that is stored is the next one of its transaction, and a matching
acknowledgement that is accepted is for the transaction that waits for it. -/
def Action.InSequence (network : Network) : Action → Prop
  | .client (.fsm env) arrives =>
      let heard := Channel.heard network.toClient arrives
      network.client.Continues network.history heard (env.hearing heard.bytes)
  | .server (.fsm env) arrives =>
      let heard := Channel.heard network.toServer arrives
      network.server.HeedsOwn network.history heard (env.hearing heard.bytes)
  | _ => True

instance (network : Network) :
    (action : Action) → Decidable (action.InSequence network)
  | .client (.fsm env) arrives =>
      inferInstanceAs (Decidable (network.client.Continues network.history
        (Channel.heard network.toClient arrives)
        (env.hearing (Channel.heard network.toClient arrives).bytes)))
  | .server (.fsm env) arrives =>
      inferInstanceAs (Decidable (network.server.HeedsOwn network.history
        (Channel.heard network.toServer arrives)
        (env.hearing (Channel.heard network.toServer arrives).bytes)))
  | .client (.startNewTransfer _ _ _) _ | .server (.startServer _) _
  | .server (.stopServer _) _ | .disturb _ _ =>
      inferInstanceAs (Decidable True)

section Runs

variable {clientParameters serverParameters : Parameters}
variable {network network' : Network} {action : Action}
variable {observations : List Observation}

theorem Steps.delivers
    (steps : network.Steps action network' observations)
    (sound : network.Sound clientParameters serverParameters)
    (loses : action.Loses network)
    (atMost : action.ReadsAtMost)
    (inSequence : action.InSequence network)
    (delivers : network.Delivers) :
    network'.Delivers := by
  cases steps with
  | clientMoves moves => exact delivers.clientMoves moves sound.client inSequence
  | clientCalls calls => exact delivers.clientCalls calls sound.client
  | serverMoves moves =>
      exact delivers.serverMoves moves sound.server atMost inSequence
  | serverCalls calls => exact delivers.serverCalls calls sound.server
  | disturb =>
      exact
        { delivers with
          relays := delivers.relays.sublist loses.2
          acks := fun frame present ack =>
            (delivers.acks frame (loses.1.subset present) ack).congr rfl
              fun _ delivered => delivered.congr rfl rfl
          success := fun success =>
            (delivers.success success).imp_left fun delivered =>
              delivered.congr rfl rfl }

theorem delivers_new
    (client server : Parameters)
    (clientHeap serverHeap : Heap) :
    (new client server clientHeap serverHeap).Delivers where
  fits := DDServer.fits_of_empty rfl
  supplies := DDServer.supplies_of_empty (by simp [new, DDServer.new]) rfl
  gathers := ⟨by simp [new, DDClient.new], fun stored => absurd rfl stored, rfl⟩
  concludes := ⟨by simp [new, DDClient.new], by simp [new, DDClient.new]⟩
  relays := .of_silent (by simp [new])
    (place_le_iff.mpr (.inr ⟨rfl, Nat.zero_le _⟩))
  acks := by simp [new]
  success := by simp [new, DDServer.new]

/-- A client that notifies success was successful. -/
theorem Steps.success_of_client
    (steps : network.Steps action network' observations)
    (notified : .client (.notified true) ∈ observations) :
    network.client.isTransferSuccess = true := by
  cases steps with
  | clientMoves moves =>
      exact moves.success_of_notified (by simpa using notified)
  | clientCalls calls => cases calls <;> simp at notified
  | serverMoves | serverCalls | disturb => simp at notified

/-- A server that notifies success was successful. -/
theorem Steps.success_of_server
    (steps : network.Steps action network' observations)
    (notified : .server (.notified true) ∈ observations) :
    network.server.isTransferSuccess = true := by
  cases steps with
  | serverMoves moves =>
      exact moves.success_of_notified (by simpa using notified)
  | serverCalls calls =>
      have called := calls.calm (.notified true) (by simpa using notified)
      simp at called
  | clientMoves | clientCalls | disturb => simp at notified

end Runs

/-- In every run over channels that lose frames, in which every block that is
stored continues the one before it and every acknowledgement that is accepted is
for the transaction that waits for it: when a side notifies success, the
caller's buffer begins with all that storage delivered for the transaction. -/
theorem success_delivers
    {clientParameters serverParameters : Parameters}
    {clientHeap serverHeap : Heap}
    {network : Network}
    {trace : List Observation}
    (reaches : machine.Reaches
      (fun network _ action =>
        action.Loses network ∧ action.ReadsAtMost ∧ action.InSequence network)
      (new clientParameters serverParameters clientHeap serverHeap)
      network trace)
    (action : Action) :
    (.client (.notified true) ∈ (network.step action).2 →
      network.client.heap.bytes network.history.caller
          (network.history.contents network.history.source).length =
        network.history.contents network.history.source) ∧
    (.server (.notified true) ∈ (network.step action).2 →
      network.client.heap.bytes network.history.acknowledged
          network.history.current.length =
        network.history.current) := by
  obtain ⟨sound, delivers⟩ := invariant_of_reaches reaches Delivers
    (delivers_new _ _ _ _)
    fun _ _ _ _ _ sound delivers admitted steps =>
      steps.delivers sound admitted.1 admitted.2.1 admitted.2.2 delivers
  have steps := sound.steps action
  refine ⟨fun notified => ?_, fun notified => ?_⟩
  · obtain ⟨⟨-, all⟩, -⟩ :=
      delivers.concludes.success (steps.success_of_client notified)
    have contents := delivers.gathers.contents
    rwa [all, List.take_length] at contents
  · exact (delivers.success (steps.success_of_server notified)).1.contents

/-- A transfer of two blocks, both on their way to the client. -/
def exampleBlocks : List Action :=
  exampleRequest ++
    exampleResponse [1, 2, 3, 4, 5, 6, 7, 8, 9, 10, 11, 12] ++
    clientSteps 25 ++ serverSteps 25

/-- The transfer up to where both sides notify. -/
def exampleSuccess : List Action :=
  exampleBlocks ++ clientSteps 17 ++ serverSteps 8

/-- The same transfer when its first block is lost. -/
def exampleLoss : List Action :=
  exampleBlocks ++
    [.disturb [] ((exampleRun exampleBlocks).1.toClient.drop 1)] ++
    clientSteps 9 ++ serverSteps 8

/-- The storage of the examples reads at most as many bytes as it is asked
for. -/
theorem readsAtMost_exampleBlocks :
    ∀ action ∈ exampleBlocks, action.ReadsAtMost := by
  simp [exampleBlocks, exampleRequest, exampleResponse, clientSteps,
    serverSteps, or_imp, forall_and, Action.ReadsAtMost,
    DDServer.Action.ReadsAtMost]

theorem readsAtMost_clientSteps (count : Nat) :
    ∀ action ∈ clientSteps count, action.ReadsAtMost := by
  simp [clientSteps, Action.ReadsAtMost]

theorem readsAtMost_serverSteps (count : Nat) :
    ∀ action ∈ serverSteps count, action.ReadsAtMost := by
  simp [serverSteps, Action.ReadsAtMost, DDServer.Action.ReadsAtMost]

theorem readsAtMost_exampleSuccess :
    ∀ action ∈ exampleSuccess, action.ReadsAtMost :=
  List.forall_mem_append.mpr
    ⟨List.forall_mem_append.mpr
      ⟨readsAtMost_exampleBlocks, readsAtMost_clientSteps 17⟩,
      readsAtMost_serverSteps 8⟩

theorem readsAtMost_exampleLoss :
    ∀ action ∈ exampleLoss, action.ReadsAtMost :=
  List.forall_mem_append.mpr
    ⟨List.forall_mem_append.mpr
      ⟨List.forall_mem_append.mpr
        ⟨readsAtMost_exampleBlocks, List.forall_mem_singleton.mpr trivial⟩,
        readsAtMost_clientSteps 9⟩,
      readsAtMost_serverSteps 8⟩

/-- When nothing is lost, both sides notify with all data delivered. -/
theorem success_delivers_example :
    (exampleRun exampleSuccess).1.client.heap.bytes ⟨1, 0⟩ 12 =
      [1, 2, 3, 4, 5, 6, 7, 8, 9, 10, 11, 12] ∧
    (exampleRun exampleSuccess).1.client.heap.bytes
        (exampleRun exampleSuccess).1.history.acknowledged
        (exampleRun exampleSuccess).1.history.current.length =
      (exampleRun exampleSuccess).1.history.current := by
  have reaches := @reaches_exampleRun
    (fun network _ action =>
      action.Loses network ∧ action.ReadsAtMost ∧ action.InSequence network)
    exampleSuccess
    (.and (by decide +kernel)
      (.and (Machine.admitted_of_forall readsAtMost_exampleSuccess)
        (by decide +kernel)))
  have client := (success_delivers reaches (.client (.fsm {}) true)).1
    (by decide +kernel)
  have server := (success_delivers reaches (.server (.fsm {}) true)).2
    (by decide +kernel)
  have contents : (exampleRun exampleSuccess).1.history.contents
      (exampleRun exampleSuccess).1.history.source =
        [1, 2, 3, 4, 5, 6, 7, 8, 9, 10, 11, 12] := by
    decide +kernel
  have caller : (exampleRun exampleSuccess).1.history.caller = ⟨1, 0⟩ := by
    decide +kernel
  rw [contents, caller] at client
  exact ⟨client, server⟩

/-- When the first of two blocks is lost, both sides notify success, and the
caller's buffer begins with the second one. -/
theorem success_without_delivery :
    ∃ network trace, machine.Reaches
      (fun network _ action =>
        action.Acquires ∧ action.Loses network ∧ action.ReadsAtMost)
      (new exampleParameters exampleParameters (fun _ _ => 0) fun _ _ => 0)
      network trace ∧
      .client (.notified true) ∈ (network.step (.client (.fsm {}) true)).2 ∧
      .server (.notified true) ∈ (network.step (.server (.fsm {}) true)).2 ∧
      network.history.contents network.history.source =
        [1, 2, 3, 4, 5, 6, 7, 8, 9, 10, 11, 12] ∧
      network.client.heap.bytes network.history.caller 12 =
        [7, 8, 9, 10, 11, 12, 0, 0, 0, 0, 0, 0] := by
  refine ⟨_, _, @reaches_exampleRun _ exampleLoss (.and (by decide +kernel)
    (.and (by decide +kernel)
      (Machine.admitted_of_forall readsAtMost_exampleLoss))), ?_⟩
  decide +kernel

end Network

end DataDumpProtocol

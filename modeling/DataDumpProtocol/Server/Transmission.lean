import DataDumpProtocol.Handshake.Agreement
import DataDumpProtocol.Machines.Exchanges

/-!
# What a transaction puts on the wire

A transaction begins when the server accepts a request.  From then on its
transmission is recorded: the terms of the response that was sent, and the
block frames that were handed to `sendCB`.  `DDServer.Transmits` reduces the
moves of the server to what matters for that record.
-/

namespace DataDumpProtocol

open FsmState

/-- What a server put on the wire since it last accepted a request. -/
structure Transmission where
  /-- The terms of the response that was sent. -/
  announced : Option Terms := none
  /-- The block frames handed to `sendCB`, each with its result. -/
  handed : List (List Byte × Bool) := []
  /-- A block was begun and has not been sent. -/
  unsent : Bool := false

/-- The frame number that a block frame carries. -/
def frameNumber (frame : List Byte) : Nat :=
  (BlockHeader.decode (View.ofList frame fun _ => 0) 0).getFrameNumber.toNat

namespace Transmission

/-- The frame numbers of the blocks that were sent, in sending order. -/
def numbers (transmission : Transmission) : List Nat :=
  (transmission.handed.filter Prod.snd).map fun entry => frameNumber entry.1

/-- Enter one event.  An accepted send of no bytes is no block frame, and is
passed over: so ends a block that `BLOCK` begins with nothing left. -/
def note (transmission : Transmission) : Event → Transmission
  | .received header =>
      if header.msgType = .request then {} else transmission
  | .body .block _ => { transmission with unsent := true }
  | .sent frame accepted =>
      if frame.head? = some MsgType.response.toByte then
        if accepted then
          { transmission with announced := some (DDServer.frameTerms frame) }
        else
          transmission
      else if frame.head? = some MsgType.blockTransfer.toByte then
        { transmission with
          handed := transmission.handed ++ [(frame, accepted)]
          unsent := transmission.unsent && !accepted }
      else
        transmission
  | _ => transmission

/-- The transmission that a trace ends in. -/
def ofTrace (trace : List Event) : Transmission :=
  trace.foldl note {}

theorem ofTrace_append (before after : List Event) :
    ofTrace (before ++ after) = after.foldl note (ofTrace before) :=
  List.foldl_append

/-! ## Single events -/

@[simp] theorem foldl_pollEvent
    (transmission : Transmission)
    (dump : DataDump) :
    dump.pollEvent.foldl note transmission = transmission :=
  DataDump.foldl_pollEvent_of_ignored (fun _ => rfl) transmission

@[simp] theorem foldl_notification
    (transmission : Transmission)
    (dump : DataDump) :
    dump.notification.foldl note transmission = transmission :=
  DataDump.foldl_notification_of_ignored (fun _ _ => rfl) transmission

@[simp] theorem foldl_copyEvent
    (transmission : Transmission)
    (server : DDServer) :
    server.copyEvent.foldl note transmission = transmission :=
  DDServer.foldl_copyEvent_of_ignored (fun _ _ _ => rfl) transmission

theorem note_received
    {header : TranscationHeader}
    (other : header.msgType ≠ .request)
    (transmission : Transmission) :
    transmission.note (.received header) = transmission :=
  if_neg other

/-- A response that is sent announces its terms. -/
theorem note_response
    {frame : List Byte}
    {terms : Terms}
    (control : IsControl frame .response terms)
    (accepted : Bool)
    (transmission : Transmission) :
    transmission.note (.sent frame accepted) =
      if accepted then { transmission with announced := some terms }
      else transmission := by
  obtain ⟨packet, carries, rfl⟩ := control
  have head : (DataDump.controlFrame packet).head? =
      some MsgType.response.toByte := by
    simp [DataDump.controlFrame, TranscationHeader.typeByte, carries.msgType]
  have terms_eq : DDServer.frameTerms (DataDump.controlFrame packet) =
      terms := by
    rw [DDServer.frameTerms, TranscationHeader.decode_controlFrame
      (View.beginsWith_ofList _ _), ← carries.terms]
    rfl
  simp only [note, if_pos head, terms_eq]

/-- A block frame is handed to `sendCB`. -/
theorem note_block
    (header : BlockHeader)
    (payload : List Byte)
    (accepted : Bool)
    (transmission : Transmission) :
    transmission.note (.sent (blockFrame header payload) accepted) =
      { transmission with
        handed := transmission.handed ++ [(blockFrame header payload, accepted)]
        unsent := transmission.unsent && !accepted } := by
  have head : (blockFrame header payload).head? =
      some MsgType.blockTransfer.toByte := rfl
  have other : (blockFrame header payload).head? ≠
      some MsgType.response.toByte := by
    rw [head]
    decide
  simp only [note, if_neg other, if_pos head]

theorem frameNumber_blockFrame (header : BlockHeader) (payload : List Byte) :
    frameNumber (blockFrame header payload) = header.getFrameNumber.toNat := by
  rw [frameNumber, BlockHeader.decode_blockFrame (View.beginsWith_ofList _ _)]
  rfl

/-- Refused frames of one block are entered one by one. -/
theorem foldl_refused
    {events : List Event}
    {header : BlockHeader}
    {payload : List Byte}
    (refused : ∀ event ∈ events,
      event = .sent (blockFrame header payload) false)
    (transmission : Transmission) :
    ∃ count,
      events.foldl note transmission =
        { transmission with
          handed := transmission.handed ++
            List.replicate count (blockFrame header payload, false) } := by
  induction events generalizing transmission with
  | nil => exact ⟨0, by simp⟩
  | cons event events inductionHypothesis =>
      obtain rfl := refused event (by simp)
      rw [List.foldl_cons, note_block]
      obtain ⟨count, entered⟩ := inductionHypothesis
        (fun other present => refused other (by simp [present]))
        { transmission with
          handed := transmission.handed ++ [(blockFrame header payload, false)]
          unsent := transmission.unsent && !false }
      refine ⟨count + 1, ?_⟩
      rw [entered]
      simp [List.replicate_succ]

end Transmission

namespace DDServer

/-- What a step of the server means for its transmission. -/
inductive Transmits
    (server : DDServer)
    (env : Environment)
    (transmission : Transmission) :
    DDServer → Transmission → Prop
  /-- Nothing is sent, read or agreed on. -/
  | aside {server' : DDServer}
      (limit : server'.maxPacketSize = server.maxPacketSize)
      (length : server'.internalBufferLen = server.internalBufferLen ∨
        server'.internalBufferLen = 0)
      (counter : server'.internalCounter = server.internalCounter)
      (blocks : server'.clientConfig.maxBlocksPerTransaction.toNat ≤
        server.clientConfig.maxBlocksPerTransaction.toNat)
      (held : ∀ state, server'.toParty.Holds state →
        state = .response ∨ state = .initiateBlock ∨ state = .block →
          server.toParty.Holds state)
      (silent : ∀ body, server'.point = .body body → body.frame 0 = none) :
      Transmits server env transmission server' transmission
  | stay : Transmits server env transmission server transmission
  | request {server' : DDServer}
      (limit : server'.maxPacketSize = server.maxPacketSize)
      (held : ∀ state, server'.toParty.Holds state →
        state ≠ .initiateBlock ∧ state ≠ .block)
      (leaving : server'.point = .leave .response) :
      Transmits server env transmission server' {}
  | read {heap : Heap}
      (here : server.point = .enter .response)
      (nonempty : env.stored server.readSize ≠ []) :
      Transmits server env transmission
        { server.negotiated with
          heap := heap
          internalBufferLen := (env.stored server.readSize).length
          point := .body (.responseSend server.responsePacket) }
        transmission
  | respond {response : TransactionPacket}
      (here : server.point = .body (.responseSend response)) :
      Transmits server env transmission (server.goto (.leave .initiateBlock))
        { transmission with announced := some server.clientConfig.terms }
  | initiate {initiate : TransactionPacket}
      (here : server.point = .body (.initiateReceive initiate))
      (accepts : server.Accepts .initiateBlockTransfer env)
      (agrees : server.clientConfig.transactionID =
        (server.polledHeader env).transactionID) :
      Transmits server env transmission
        { server with internalCounter := 1, point := .leave .block }
        transmission
  | fill {source : Pointer}
      (here : server.point = .enter .block) :
      Transmits server env transmission
        { server with
          internalCounter := server.internalCounter + 1
          internalBufferLen :=
            server.internalBufferLen - server.dataSizeCopiedToPacket
          internalBuffer :=
            some (source.advance server.dataSizeCopiedToPacket)
          point := .body (.blockSend server.blockPacket) }
        { transmission with unsent := true }
  | hand {packet : BlockTxRxPacket} {payload : List Byte} {body : ServerBody}
      (here : server.point = .body (.blockSend packet))
      (holds : packet.Holds server.maxPacketSize payload)
      (nonempty : payload ≠ [])
      (silent : body.frame 0 = none) :
      Transmits server env transmission (server.goto (.body body))
        { transmission with
          handed := transmission.handed ++
            [(blockFrame packet.header payload, true)]
          unsent := false }
  | refuse {packet : BlockTxRxPacket} {payload : List Byte}
      {point : Point ServerBody} {count : Nat}
      (here : server.point = .body (.blockSend packet))
      (holds : packet.Holds server.maxPacketSize payload)
      (nonempty : payload ≠ [])
      (next : point = server.point ∨ point = .leave .terminate) :
      Transmits server env transmission (server.goto point)
        { transmission with
          handed := transmission.handed ++
            List.replicate count (blockFrame packet.header payload, false) }

section Transmits

variable {parameters : Parameters} {server server' : DDServer}
variable {env : Environment} {events : List Event}

/-- The agreed number of blocks is one that the client asked for. -/
theorem negotiated_blocks_le (server : DDServer) :
    server.negotiated.clientConfig.maxBlocksPerTransaction.toNat ≤
      server.clientConfig.maxBlocksPerTransaction.toNat := by
  change BitVec.toNat (if _ then _ else _) ≤ _
  split
  next => exact Nat.le_refl _
  next notLess => exact Nat.not_lt.mp notLess

theorem holds_of_body
    (server : DDServer)
    {body : ServerBody}
    {state : FsmState}
    (holds : server'.toParty.Holds state)
    (here : server'.point = .body body)
    (current : server'.currentState = server.currentState)
    (next : server'.nextState = server.nextState) :
    server.toParty.Holds state :=
  Party.holds_of_body current next here holds

theorem holds_of_leave
    (server : DDServer)
    {target state : FsmState}
    (holds : server'.toParty.Holds state)
    (here : server'.point = .leave target)
    (current : server'.currentState = server.currentState)
    (next : server'.nextState = server.nextState) :
    server.toParty.Holds state ∨ state = target :=
  Party.holds_of_leave current next here holds

/-- Frames that are refused, by the loop that hands them over. -/
theorem Sound.transmits_unsent
    (sound : server.Sound parameters)
    {body : ServerBody}
    {point : Point ServerBody}
    (here : server.point = .body body)
    (unsent : Unsent events)
    (hands : Hands (body.frame env.beyond) events)
    (next : point = server.point ∨ point = .leave .terminate)
    (transmission : Transmission) :
    server.Transmits env transmission (server.goto point)
      (events.foldl .note transmission) := by
  have quiet (same : events.foldl .note transmission = transmission) :
      server.Transmits env transmission (server.goto point)
        (events.foldl .note transmission) := by
    rw [same]
    rcases next with rfl | rfl
    · exact .stay
    · refine .aside rfl (.inl rfl) rfl (Nat.le_refl _)
        (fun state holds inside => ?_) (by simp [goto])
      refine (holds_of_leave server holds rfl rfl rfl).resolve_right ?_
      rintro rfl
      simp at inside
  have every {event : Event} (present : event ∈ events) :
      ∃ bytes, body.frame env.beyond = some bytes ∧
        event = .sent bytes false := by
    obtain ⟨bytes, rfl⟩ := unsent event present
    exact ⟨bytes, hands _ _ present, rfl⟩
  have live := sound.live body here
  cases body with
  | responseSend response =>
      have carries : response.Carries _ _ := live
      refine quiet (Trace.foldl_eq_self (fun event present entered => ?_) _)
      obtain ⟨bytes, frame, rfl⟩ := every present
      obtain rfl := Option.some.inj frame
      exact Transmission.note_response carries.isControl false entered
  | blockSend packet =>
      obtain ⟨source, size, buffer, holds⟩ := live
      rcases holds.frame_cases env.beyond with ⟨-, frame⟩ | ⟨nonempty, frame⟩
      · refine quiet (Trace.foldl_eq_self (fun event present entered => ?_) _)
        obtain ⟨bytes, same, rfl⟩ := every present
        obtain rfl := Option.some.inj same
        rw [frame]
        rfl
      · have refused : ∀ event ∈ events, event =
            .sent (blockFrame packet.header (server.heap.bytes source size))
              false := by
          intro event present
          obtain ⟨bytes, same, rfl⟩ := every present
          obtain rfl := Option.some.inj same
          rw [frame]
        obtain ⟨count, entered⟩ :=
          Transmission.foldl_refused refused transmission
        rw [entered]
        exact .refuse here holds nonempty next
  | requestReceive | initiateReceive | blockContinue | ackReceive =>
      refine quiet (Trace.foldl_eq_self (fun event present entered => ?_) _)
      obtain ⟨bytes, frame, rfl⟩ := every present
      simp [ServerBody.frame] at frame

/-- Every move is one of these steps. -/
theorem Moves.transmits
    (moves : server.Moves env server' events)
    (sound : server.Sound parameters)
    (transmission : Transmission) :
    server.Transmits env transmission server'
      (events.foldl .note transmission) := by
  have opens {state : FsmState} := @moves.opens _ _ _ _ _ sound state
  have held {state : FsmState} := @moves.held _ _ _ _ _ sound state
  have kept := Nat.le_refl server.clientConfig.maxBlocksPerTransaction.toNat
  cases moves with
  | shell shell =>
      have outside := shell.point_ne_body
      obtain ⟨_, _, _, _, rfl, -⟩ := shell.unchanged
      refine .aside rfl (.inl rfl) rfl kept (fun state holds inside => ?_)
        fun body here => absurd here (outside body)
      refine (shell.holds holds).resolve_right ?_
      rintro rfl
      simp at inside
  | idle here | terminate here =>
      simp only [List.foldl_cons, List.foldl_nil, Transmission.note,
        Transmission.foldl_notification]
      exact .aside rfl (.inr rfl) rfl (by simp [TranscationHeader.setTerms])
        (fun _ => held (by simp [here])) (by simp)
  | awaitRequest here | awaitInitiate here =>
      exact .aside rfl (.inl rfl) rfl kept
        (fun _ => held (by simp [here])) (by simp [goto, ServerBody.frame])
  | acceptRequest here accepts =>
      rw [List.foldl_append, Transmission.foldl_pollEvent]
      simp only [List.foldl_cons, List.foldl_nil, Transmission.note,
        accepts.msgType, if_true]
      refine .request rfl (fun state holds => ?_) rfl
      by_cases old : server.toParty.Holds state
      · have follows := sound.paced.follows_of_inside here old
        constructor
        all_goals
          rintro rfl
          simp [Follows, ServerBody.state, successor, Free] at follows
      · constructor
        all_goals
          rintro rfl
          simpa [here] using opens holds old
  | readStorage here _ _ nonempty => exact .read here nonempty
  | readNothing here _ empty =>
      exact .aside rfl (.inr (by simp [empty])) rfl
        (negotiated_blocks_le server) (fun _ => held (by simp [here])) (by simp)
  | noStorage here =>
      exact .aside rfl (.inl rfl) rfl (negotiated_blocks_le server)
        (fun _ => held (by simp [here])) (by simp [goto])
  | responseSent here =>
      have live : TransactionPacket.Carries _ _ _ := sound.live _ here
      rw [List.foldl_cons, Transmission.note_response live.isControl]
      exact .respond here
  | acceptInitiate here accepts agrees =>
      rw [List.foldl_append, Transmission.foldl_pollEvent, List.foldl_cons,
        Transmission.note_received (by simp [accepts.msgType])]
      exact .initiate here accepts agrees
  | fillBlock here =>
      rw [List.foldl_cons, Transmission.foldl_copyEvent]
      exact .fill here
  | blockSent here | lastBlockSent here =>
      obtain ⟨source, size, buffer, holds⟩ := sound.live _ here
      rcases holds.frame_cases env.beyond with ⟨-, frame⟩ | ⟨nonempty, frame⟩
      · rw [frame]
        exact .aside rfl (.inl rfl) rfl kept
          (fun _ => held (by simp [goto])) (by simp [goto, ServerBody.frame])
      · rw [List.foldl_cons, frame, Transmission.note_block]
        simpa using .hand here holds nonempty rfl
  | continueBlock here =>
      exact .aside rfl (.inl rfl) rfl kept
        (fun _ => held (by simp [here, ServerBody.state])) (by simp [goto])
  | erase here accepts | eraseElse here accepts =>
      have other : (server.polledHeader env).msgType ≠ .request := by
        simp [accepts.msgType]
      rw [List.foldl_append, Transmission.foldl_pollEvent, List.foldl_cons,
        Transmission.note_received other]
      exact .aside rfl (.inl rfl) rfl kept
        (fun _ => held (by simp [here, ServerBody.state])) (by simp [goto])
  | poll here polls =>
      rw [Transmission.foldl_pollEvent]
      refine .aside rfl (.inl rfl) rfl kept (fun _ => held (by simp [goto])) ?_
      cases polls <;> simp [goto, ServerBody.frame]
  | retry here unsent hands =>
      have stays := sound.transmits_unsent here unsent hands (.inl rfl)
        transmission
      exact stays
  | giveUp here givesUp =>
      cases givesUp with
      | unsent unsent hands =>
          exact sound.transmits_unsent here unsent hands (.inr rfl) _
      | unheard =>
          rw [Transmission.foldl_pollEvent]
          exact .aside rfl (.inl rfl) rfl kept
            (fun _ => held (by simp [goto])) (by simp [goto])
      | declined accepts | disputed accepts =>
          have other : (server.polledHeader env).msgType ≠ .request := by
            simp [accepts.msgType]
          rw [List.foldl_append, Transmission.foldl_pollEvent, List.foldl_cons,
            Transmission.note_received other]
          exact .aside rfl (.inl rfl) rfl kept
            (fun _ => held (by simp [goto])) (by simp [goto])

end Transmits

/-! ## What precedes a block -/

/-- A block is preceded by a response, and by no other transaction's
blocks. -/
structure Begun (server : DDServer) (transmission : Transmission) : Prop where
  announced : server.toParty.Holds .initiateBlock ∨
      server.toParty.Holds .block →
    ∃ terms, transmission.announced = some terms
  fresh : server.toParty.Holds .response ∨
      server.toParty.Holds .initiateBlock →
    transmission.handed = []
  started : transmission.handed ≠ [] →
    ∃ terms, transmission.announced = some terms

section Begun

variable {parameters : Parameters} {server server' : DDServer}
variable {env : Environment} {transmission transmission' : Transmission}

theorem begun_new (parameters : Parameters) (heap : Heap) :
    (new parameters heap).Begun {} := by
  constructor <;> simp [new, Party.Holds]

/-- The thread is about to run, or runs, the body of this state. -/
def Runs (server : DDServer) (state : FsmState) : Prop :=
  server.point = .enter state ∨
    ∃ body, server.point = .body body ∧ body.state = state

theorem Sound.follows
    (sound : server.Sound parameters)
    {state held : FsmState}
    (runs : server.Runs state)
    (holds : server.toParty.Holds held) :
    Follows server.Free state held := by
  rcases runs with here | ⟨body, here, rfl⟩
  · exact sound.paced.follows_of_enter here holds
  · exact sound.paced.follows_of_inside here holds

theorem Sound.not_holds_block
    (sound : server.Sound parameters)
    (runs : server.Runs .response) :
    ¬server.toParty.Holds .block := by
  intro holds
  have follows := sound.follows runs holds
  simp [Follows, successor, Free] at follows

theorem Sound.not_holds_earlier
    (sound : server.Sound parameters)
    (runs : server.Runs .block) :
    ¬(server.toParty.Holds .response ∨
      server.toParty.Holds .initiateBlock) := by
  rintro (holds | holds)
  all_goals
    have follows := sound.follows runs holds
    simp [Follows, successor, Free] at follows

/-- A step that neither announces nor hands over anything, and opens no state
of the transaction. -/
theorem Begun.kept
    (begun : server.Begun transmission)
    (announced : transmission'.announced = transmission.announced)
    (handed : transmission'.handed = transmission.handed)
    (held : ∀ state, server'.toParty.Holds state →
      state = .response ∨ state = .initiateBlock ∨ state = .block →
        server.toParty.Holds state) :
    server'.Begun transmission' where
  announced opened := by
    rw [announced]
    exact begun.announced
      (opened.imp (held _ · (by simp)) (held _ · (by simp)))
  fresh early := by
    rw [handed]
    exact begun.fresh (early.imp (held _ · (by simp)) (held _ · (by simp)))
  started nonempty := by
    rw [announced]
    exact begun.started (handed ▸ nonempty)

theorem Transmits.begun
    (transmits : server.Transmits env transmission server' transmission')
    (sound : server.Sound parameters)
    (begun : server.Begun transmission) :
    server'.Begun transmission' := by
  cases transmits with
  | aside _ _ _ _ held => exact begun.kept rfl rfl held
  | stay => exact begun
  | request _ absent =>
      refine ⟨?_, fun _ => rfl, fun nonempty => absurd rfl nonempty⟩
      rintro (holds | holds)
      · exact absurd rfl (absent _ holds).1
      · exact absurd rfl (absent _ holds).2
  | read =>
      exact begun.kept rfl rfl fun state holds _ =>
        holds_of_body server holds rfl rfl rfl
  | respond here =>
      have current := sound.paced.inside _ here
      have fresh := begun.fresh (.inl (.inl current))
      exact ⟨fun _ => ⟨_, rfl⟩, fun _ => fresh, fun _ => ⟨_, rfl⟩⟩
  | initiate here =>
      have current := sound.paced.inside _ here
      have announced := begun.announced (.inl (.inl current))
      refine ⟨fun _ => announced, fun early => ?_, begun.started⟩
      exact begun.fresh (.inr (.inl current))
  | fill here =>
      exact begun.kept rfl rfl fun state holds _ =>
        holds_of_body server holds rfl rfl rfl
  | hand here =>
      have runs : server.Runs .block := .inr ⟨_, here, rfl⟩
      have announced := begun.announced
        (.inr (.inl (sound.paced.inside _ here)))
      refine ⟨fun _ => announced, fun early => ?_, fun _ => announced⟩
      refine absurd ?_ (sound.not_holds_earlier runs)
      rcases early with holds | holds
      · exact .inl (holds_of_body server holds rfl rfl rfl)
      · exact .inr (holds_of_body server holds rfl rfl rfl)
  | refuse here _ _ next =>
      have runs : server.Runs .block := .inr ⟨_, here, rfl⟩
      have announced := begun.announced
        (.inr (.inl (sound.paced.inside _ here)))
      refine ⟨fun _ => announced, fun early => ?_, fun _ => announced⟩
      refine absurd ?_ (sound.not_holds_earlier runs)
      rcases next with rfl | rfl
      · exact early
      · rcases early with holds | holds
        · have left := holds_of_leave server holds rfl rfl rfl
          exact .inl (left.resolve_right (by simp))
        · have left := holds_of_leave server holds rfl rfl rfl
          exact .inr (left.resolve_right (by simp))

theorem Calls.begun
    {events : List Event}
    (calls : server.Calls server' events)
    (begun : server.Begun transmission) :
    server'.Begun transmission :=
  begun.kept rfl rfl fun _ => calls.held

theorem Calls.transmission_eq
    {events : List Event}
    (calls : server.Calls server' events)
    (transmission : Transmission) :
    events.foldl .note transmission = transmission :=
  calls.foldl_of_ignored (fun _ => rfl) (fun _ => rfl) transmission

end Begun

/-- The invariant rule for transmissions: what every step of a run keeps. -/
theorem transmitting_of_reaches
    {parameters : Parameters}
    {heap : Heap}
    {server : DDServer}
    {trace : List Event}
    {admits : DDServer → List Event → Action → Prop}
    (reaches : machine.Reaches admits (new parameters heap) server trace)
    (invariant : DDServer → List Event → Prop)
    (initial : invariant (new parameters heap) [])
    (moved : ∀ server trace env server' events,
      server.Sound parameters → server.Begun (.ofTrace trace) →
        invariant server trace → admits server trace (.fsm env) →
          server.Moves env server' events →
            server.Transmits env (.ofTrace trace) server'
                (.ofTrace (trace ++ events)) →
              invariant server' (trace ++ events))
    (called : ∀ server trace server' events,
      server.Calls server' events →
        Transmission.ofTrace (trace ++ events) = .ofTrace trace →
          invariant server trace → invariant server' (trace ++ events)) :
    server.Begun (.ofTrace trace) ∧ invariant server trace := by
  refine invariant_of_reaches reaches
    (fun server trace =>
      server.Begun (.ofTrace trace) ∧ invariant server trace)
    ⟨begun_new parameters heap, initial⟩ ?_
  rintro server trace action server' events sound ⟨begun, holds⟩ admitted steps
  have entered := Transmission.ofTrace_append trace events
  cases steps with
  | fsm moves =>
      have transmits := moves.transmits sound (.ofTrace trace)
      rw [← entered] at transmits
      exact ⟨transmits.begun sound begun,
        moved _ _ _ _ _ sound begun holds admitted moves transmits⟩
  | call calls =>
      rw [calls.transmission_eq] at entered
      refine ⟨?_, called _ _ _ _ calls entered holds⟩
      rw [entered]
      exact calls.begun begun

end DDServer

end DataDumpProtocol

import DataDumpProtocol.Library.Segments
import DataDumpProtocol.Machines.Departure
import DataDumpProtocol.Machines.Exchanges
import DataDumpProtocol.Server.Numbering

/-!
# What the block frames cover

The block frames of a transaction carry the segments of the data that storage
delivered, in order and marked at the last one, whatever sends fail and timers
expire.  A block is consumed before it is sent, so a segment is missing where
the server stays in `BLOCK` after it gave one up; it does so only if a lock
attempt times out on the way to `TERMINATE`.
-/

namespace DataDumpProtocol

open Segments

/-- The payload of a block frame. -/
def framePayload (frame : List Byte) : List Byte :=
  frame.drop BlockTxRxPacket.getHeaderSize

/-- The continue bit that a block frame carries. -/
def frameContinueBit (frame : List Byte) : ContinueBit :=
  (BlockHeader.decode (View.ofList frame fun _ => 0) 0).getContinueBit

theorem framePayload_blockFrame (header : BlockHeader) (payload : List Byte) :
    framePayload (blockFrame header payload) = payload := by
  change (header.fieldBytes ++ payload).drop 4 = payload
  exact List.drop_left' (by simp)

theorem frameContinueBit_blockFrame
    (header : BlockHeader)
    (payload : List Byte) :
    frameContinueBit (blockFrame header payload) = header.getContinueBit := by
  rw [frameContinueBit, BlockHeader.decode_blockFrame
    (View.beginsWith_ofList _ _)]
  rfl

/-- What a trace tells about the data that storage delivered last, and about
the block frames that were sent since then. -/
structure Coverage where
  /-- The number of bytes that storage was asked for. -/
  asked : Nat := 0
  data : List Byte := []
  /-- The block frames that `sendCB` accepted. -/
  frames : List (List Byte) := []
  /-- A block was begun and has not been sent. -/
  unsent : Bool := false

namespace Coverage

/-- Enter one event.  An accepted send of no bytes is no block frame, and is
passed over: so ends a block that `BLOCK` begins with nothing left. -/
def note (coverage : Coverage) : Event → Coverage
  | .storageRead _ maxSize contents => { asked := maxSize, data := contents }
  | .body .block _ => { coverage with unsent := true }
  | .sent frame true =>
      if frame.head? = some MsgType.blockTransfer.toByte then
        { coverage with
          frames := coverage.frames ++ [frame], unsent := false }
      else
        coverage
  | _ => coverage

/-- The coverage that a trace ends in. -/
def ofTrace (trace : List Event) : Coverage :=
  trace.foldl note {}

theorem ofTrace_append (before after : List Event) :
    ofTrace (before ++ after) = after.foldl note (ofTrace before) :=
  List.foldl_append

/-- The payloads of the frames, each with whether it is marked as the last. -/
def sent (coverage : Coverage) : List (List Byte × Bool) :=
  coverage.frames.map fun frame =>
    (framePayload frame, decide (frameContinueBit frame = .terminateTransfer))

/-- The bytes that the frames carry. -/
def bytes (coverage : Coverage) : List Byte :=
  (coverage.frames.map framePayload).flatten

/-- A frame is marked as the last one. -/
def Terminated (coverage : Coverage) : Prop :=
  ∃ frame ∈ coverage.frames, frameContinueBit frame = .terminateTransfer

/-- The frames carry consecutive non-empty segments of the data from its first
byte on, of at most `size` bytes each.  Exactly the one that completes the data
is marked, and it is sent exactly when there are as many frames as the data
takes, which is no more than were agreed on. -/
structure Segmented (size : Nat) (coverage : Coverage) : Prop where
  inOrder : coverage.bytes <+: coverage.data
  nonempty : ∀ frame ∈ coverage.frames, framePayload frame ≠ []
  bounded : ∀ frame ∈ coverage.frames, (framePayload frame).length ≤ size
  marked : ∀ before frame after, coverage.frames = before ++ frame :: after →
    (frameContinueBit frame = .terminateTransfer ↔
      ((before ++ [frame]).map framePayload).flatten = coverage.data)
  counted : coverage.frames.length ≤ coverage.data.length ⌈/⌉ size
  agreed : ∃ blocks : BlocksPerTransaction,
    coverage.asked = size * blocks.toNat ∧
      coverage.data.length ⌈/⌉ size ≤ blocks.toNat
  counted_eq_iff :
    coverage.frames.length = coverage.data.length ⌈/⌉ size ↔
      coverage.Terminated
  covered_iff : coverage.bytes = coverage.data ↔ coverage.Terminated

theorem contents_sent (coverage : Coverage) :
    contents coverage.sent = coverage.bytes := by
  simp [contents, sent, bytes, Function.comp_def]

/-- Frames that carry the first segments, with their marks. -/
theorem segmented_of_sent
    {coverage : Coverage}
    {size : Nat}
    {blocks : BlocksPerTransaction}
    (isSent : Sent size coverage.data coverage.sent)
    (positive : 0 < size)
    (delivered : coverage.data ≠ [])
    (asked : coverage.asked = size * blocks.toNat)
    (atMost : coverage.data.length ≤ coverage.asked) :
    coverage.Segmented size := by
  have length : coverage.sent.length = coverage.frames.length := by
    simp [sent]
  have entry {frame : List Byte} (present : frame ∈ coverage.frames) :
      (framePayload frame,
        decide (frameContinueBit frame = .terminateTransfer)) ∈
          coverage.sent :=
    List.mem_map_of_mem present
  have terminated : coverage.Terminated ↔
      ∃ entry ∈ coverage.sent, entry.2 = true := by
    simp [Terminated, sent]
  have complete := isSent.exists_marked_iff positive delivered
  constructor
  case inOrder =>
    rw [← contents_sent, isSent.contents_eq]
    exact List.take_prefix _ _
  case nonempty =>
    exact fun frame present => isSent.nonempty positive _ (entry present)
  case bounded => exact fun frame present => isSent.bounded _ (entry present)
  case marked =>
    intro before frame after split
    rw [sent, split, List.map_append, List.map_cons] at isSent
    have marked := isSent.marked_iff positive
    simpa [contents, Function.comp_def] using marked
  case counted => exact length ▸ isSent.length_le
  case agreed =>
    refine ⟨blocks, asked, ?_⟩
    rw [ceilDiv_le_iff_le_mul positive, ← asked]
    exact atMost
  case counted_eq_iff => rw [terminated, complete, length]
  case covered_iff =>
    rw [← contents_sent, isSent.contents_eq_iff positive, terminated, complete]

/-! ## Single events -/

@[simp] theorem foldl_pollEvent (coverage : Coverage) (dump : DataDump) :
    dump.pollEvent.foldl note coverage = coverage :=
  DataDump.foldl_pollEvent_of_ignored (fun _ => rfl) coverage

@[simp] theorem foldl_copyEvent (coverage : Coverage) (server : DDServer) :
    server.copyEvent.foldl note coverage = coverage :=
  DDServer.foldl_copyEvent_of_ignored (fun _ _ _ => rfl) coverage

@[simp] theorem foldl_notification (coverage : Coverage) (dump : DataDump) :
    dump.notification.foldl note coverage = coverage :=
  DataDump.foldl_notification_of_ignored (fun _ _ => rfl) coverage

theorem foldl_unsent
    {events : List Event}
    (unsent : Unsent events)
    (coverage : Coverage) :
    events.foldl note coverage = coverage :=
  unsent.foldl_of_ignored (fun _ _ => rfl) coverage

/-- A control frame that is sent covers nothing. -/
theorem note_control
    {frame : List Byte}
    {terms : Terms}
    (control : IsControl frame .response terms)
    (coverage : Coverage) :
    coverage.note (.sent frame true) = coverage := by
  apply if_neg
  intro head
  exact absurd (control.of_head head (by simp)) (by simp)

/-- The next block frame covers the next segment. -/
theorem note_block
    (header : BlockHeader)
    (payload : List Byte)
    (coverage : Coverage) :
    coverage.note (.sent (blockFrame header payload) true) =
      { coverage with
        frames := coverage.frames ++ [blockFrame header payload]
        unsent := false } := by
  have head : (blockFrame header payload).head? =
      some MsgType.blockTransfer.toByte := rfl
  simp only [note, if_pos head]

end Coverage

namespace DDServer

/-- The states that end a transaction: `TERMINATE`, and `IDLE` when the server
was stopped. -/
def Ends (state : FsmState) : Prop :=
  state = .terminate ∨ state = .idle

instance : DecidablePred Ends :=
  fun _ => inferInstanceAs (Decidable (_ ∨ _))

/-- No lock times out on the way from a block that was given up, with bytes
left behind it, to a state that ends the transaction. -/
def Action.Departs (server : DDServer) (trace : List Event) : Action → Prop
  | .fsm env =>
      (Coverage.ofTrace trace).unsent = true → 0 < server.internalBufferLen →
        server.toParty.MayReturn Ends → env.lockAcquired = true
  | .startServer _ | .stopServer _ => True

instance (server : DDServer) (trace : List Event) :
    (action : Action) → Decidable (action.Departs server trace)
  | .fsm _ => inferInstanceAs (Decidable (_ → _ → _ → _))
  | .startServer _ | .stopServer _ => inferInstanceAs (Decidable True)

/-- The point of the `BLOCK` body that sends the block. -/
def SendsBlock : ServerBody → Prop
  | .blockSend _ => True
  | .requestReceive _ | .responseSend _ | .initiateReceive _ | .blockContinue
  | .ackReceive _ => False

/-- The packet carries the next segment, and what is left comes behind it. -/
structure Next
    (server : DDServer)
    (coverage : Coverage)
    (packet : BlockTxRxPacket) : Prop where
  inside : coverage.frames.length <
    coverage.data.length ⌈/⌉ (server.maxPacketSize - 5)
  holds : packet.Holds server.maxPacketSize
    (Segments.segment (server.maxPacketSize - 5) coverage.data
      coverage.frames.length)
  marked : packet.header.getContinueBit = .terminateTransfer ↔
    coverage.frames.length + 1 =
      coverage.data.length ⌈/⌉ (server.maxPacketSize - 5)
  rest : 0 < server.internalBufferLen →
    server.rest = coverage.data.drop
      ((server.maxPacketSize - 5) * (coverage.frames.length + 1))

/-- The frames cover the first segments, what is left comes behind them, and a
server that gave a block up is on its way out of `BLOCK`. -/
structure Covering (server : DDServer) (coverage : Coverage) : Prop where
  sent : Sent (server.maxPacketSize - 5) coverage.data coverage.sent
  asked : ∃ blocks : BlocksPerTransaction,
    coverage.asked = (server.maxPacketSize - 5) * blocks.toNat
  atMost : coverage.data.length ≤ coverage.asked
  rest : coverage.unsent = false → 0 < server.internalBufferLen →
    server.rest = coverage.data.drop
      ((server.maxPacketSize - 5) * coverage.frames.length)
  filled : ∀ packet, server.point = .body (.blockSend packet) →
    packet.Holds server.maxPacketSize [] ∧ server.internalBufferLen = 0 ∨
      server.Next coverage packet
  departing : coverage.unsent = true → 0 < server.internalBufferLen →
    server.isBusy = true ∧ server.toParty.Departing Ends SendsBlock

section Covering

variable {parameters : Parameters} {server server' : DDServer}
variable {env : Environment} {events trace : List Event}
variable {coverage : Coverage}

/-- A step that neither reads nor fills nor sends a block. -/
theorem Covering.kept
    (covering : server.Covering coverage)
    (limit : server'.maxPacketSize = server.maxPacketSize)
    (rest : 0 < server'.internalBufferLen →
      0 < server.internalBufferLen ∧ server'.rest = server.rest)
    (outside : ∀ packet, server'.point ≠ .body (.blockSend packet))
    (departing : coverage.unsent = true → 0 < server'.internalBufferLen →
      server'.isBusy = true ∧ server'.toParty.Departing Ends SendsBlock) :
    server'.Covering coverage where
  sent := limit ▸ covering.sent
  asked := limit ▸ covering.asked
  atMost := covering.atMost
  rest sent left := by
    rw [(rest left).2, limit]
    exact covering.rest sent (rest left).1
  filled packet here := absurd here (outside packet)
  departing := departing

/-- No block is begun on the way out of `BLOCK`. -/
theorem Covering.sent_before
    (covering : server.Covering coverage)
    (here : server.point = .enter .block)
    (left : 0 < server.internalBufferLen) :
    coverage.unsent = false := by
  by_contra unsent
  obtain ⟨-, departing⟩ := covering.departing (by simpa using unsent) left
  have ended := (Party.departing_of_enter here).mp departing
  simp [Ends] at ended

/-- The block that is filled carries the next segment. -/
theorem Covering.next
    {source : Pointer}
    (covering : server.Covering coverage)
    (sound : server.Sound parameters)
    (fits : server.Fits)
    (here : server.point = .enter .block)
    (buffer : server.internalBuffer = some source)
    (left : 0 < server.internalBufferLen) :
    (server.filling source).Next coverage server.blockPacket := by
  have control := sound.room_of_enter here
  have positive : 0 < server.maxPacketSize - 5 := by omega
  have room : 5 ≤ server.maxPacketSize := by omega
  have taken := dataSizeCopiedToPacket_eq room
  have holds := blockPacket_holds room sound.byteSized buffer
  have limits := fits.limited (.inr (.inr (.inr (.inl here))))
  have rest := covering.rest (covering.sent_before here left) left
  have length : server.internalBufferLen = coverage.data.length -
      (server.maxPacketSize - 5) * coverage.frames.length := by
    have same := congrArg List.length rest
    simpa [DDServer.rest, buffer] using same
  have split := rest_split room buffer
  rw [rest] at split
  have inside : coverage.frames.length <
      coverage.data.length ⌈/⌉ (server.maxPacketSize - 5) := by
    rw [lt_ceilDiv_iff positive]
    omega
  have behind : (server.maxPacketSize - 5) * (coverage.frames.length + 1) =
      (server.maxPacketSize - 5) * coverage.frames.length +
        (server.maxPacketSize - 5) := Nat.mul_succ _ _
  have payload : server.heap.bytes source server.dataSizeCopiedToPacket =
      Segments.segment (server.maxPacketSize - 5) coverage.data
        coverage.frames.length := by
    have front := congrArg (List.take server.dataSizeCopiedToPacket) split
    rw [List.take_left' (by simp)] at front
    rw [Segments.segment, ← front, List.take_eq_take_iff, List.length_drop]
    omega
  have ends : server.internalBufferLen ≤ server.maxPacketSize - 5 ↔
      coverage.frames.length + 1 =
        coverage.data.length ⌈/⌉ (server.maxPacketSize - 5) := by
    have short : coverage.data.length ⌈/⌉ (server.maxPacketSize - 5) ≤
        coverage.frames.length + 1 ↔ _ := ceilDiv_le_iff_le_mul positive
    omega
  refine ⟨inside, payload ▸ holds, ?_, fun more => ?_⟩
  · rw [blockPacket_getContinueBit]
    change server.lastFrame = _ ↔ _ = _ ⌈/⌉ (server.maxPacketSize - 5)
    rw [← ends]
    constructor
    · intro last
      have none := limits.last (by omega) last
      omega
    · intro short
      exact if_pos (.inr (by omega))
  · have full : server.dataSizeCopiedToPacket = server.maxPacketSize - 5 := by
      rw [internalBufferLen_filling] at more
      omega
    have back := congrArg (List.drop server.dataSizeCopiedToPacket) split
    rw [List.drop_left' (by simp), List.drop_drop] at back
    rw [rest_filling, ← back, full]
    change _ = List.drop ((server.maxPacketSize - 5) * _) _
    rw [behind]

/-- Filling a block uses up its bytes before they are sent. -/
theorem Covering.fill
    {source : Pointer}
    (covering : server.Covering coverage)
    (sound : server.Sound parameters)
    (fits : server.Fits)
    (here : server.point = .enter .block)
    (buffer : server.internalBuffer = some source) :
    (server.filling source).Covering { coverage with unsent := true } where
  sent := covering.sent
  asked := covering.asked
  atMost := covering.atMost
  rest sent := by simp at sent
  filled packet same := by
    obtain rfl : server.blockPacket = packet := by simpa [filling] using same
    have control := sound.room_of_enter here
    have room : 5 ≤ server.maxPacketSize := by omega
    by_cases left : 0 < server.internalBufferLen
    · right
      obtain ⟨inside, holds, marked, rest⟩ :=
        covering.next sound fits here buffer left
      exact ⟨inside, holds, marked, rest⟩
    · left
      have empty : server.internalBufferLen = 0 := by omega
      have holds := blockPacket_holds room sound.byteSized buffer
      rw [dataSizeCopiedToPacket_eq room, empty, Nat.zero_min,
        Heap.bytes_zero] at holds
      exact ⟨holds, by simp [empty]⟩
  departing _ _ := by
    have inside := sound.paced.current_of_enter here (by simp)
    have running := sound.paced.running (by rw [here]; trivial)
    rw [← inside] at running
    exact ⟨running.resolve_left (by simp), trivial⟩

/-- A block that is sent covers the next segment. -/
theorem Covering.hand
    {packet : BlockTxRxPacket}
    {body : ServerBody}
    (covering : server.Covering coverage)
    (here : server.point = .body (.blockSend packet))
    (silent : ∀ packet, body ≠ .blockSend packet)
    (env : Environment) :
    (server.goto (.body body)).Covering
      (coverage.note (.sent (packet.frame env.beyond) true)) := by
  have outside (packet : BlockTxRxPacket) :
      (server.goto (.body body)).point ≠ .body (.blockSend packet) := by
    simpa [goto] using silent packet
  rcases covering.filled packet here with ⟨holds, empty⟩ | next
  · rcases holds.frame_cases env.beyond with ⟨-, frame⟩ | ⟨impossible, -⟩
    · rw [frame]
      refine covering.kept rfl (fun left => ?_) outside fun _ left => ?_
      · exact absurd left (by simp [goto, empty])
      · exact absurd left (by simp [goto, empty])
    · exact absurd rfl impossible
  · have positive : 0 < server.maxPacketSize - 5 := by
      by_contra none
      have inside := next.inside
      simp [Nat.eq_zero_of_not_pos none] at inside
    rcases next.holds.frame_cases env.beyond with
      ⟨impossible, -⟩ | ⟨nonempty, frame⟩
    · exact absurd impossible (segment_ne_nil positive next.inside)
    · rw [frame, Coverage.note_block]
      have length : coverage.sent.length = coverage.frames.length := by
        simp [Coverage.sent]
      have more := covering.sent.next (length ▸ next.inside)
      constructor
      case sent =>
        have marked : decide (packet.header.getContinueBit =
              .terminateTransfer) =
            decide (coverage.frames.length + 1 =
              coverage.data.length ⌈/⌉ (server.maxPacketSize - 5)) :=
          decide_eq_decide.mpr next.marked
        rw [length, ← marked] at more
        simpa [Coverage.sent, framePayload_blockFrame,
          frameContinueBit_blockFrame, goto] using more
      case asked => exact covering.asked
      case atMost => exact covering.atMost
      case rest =>
        intro _ left
        rw [List.length_append]
        exact next.rest left
      case filled => exact fun packet same => absurd same (outside packet)
      case departing => simp

/-- A step that leaves the server with nothing to send. -/
theorem Covering.emptied
    (covering : server.Covering coverage)
    (limit : server'.maxPacketSize = server.maxPacketSize)
    (empty : server'.internalBufferLen = 0)
    (outside : ∀ packet, server'.point ≠ .body (.blockSend packet)) :
    server'.Covering coverage :=
  covering.kept limit (fun left => absurd left (by simp [empty])) outside
    fun _ left => absurd left (by simp [empty])

/-- Storage is read anew. -/
theorem covering_of_read
    {target : Pointer}
    {heap : Heap}
    {contents : List Byte}
    (sound : server.Sound parameters)
    (room : 5 ≤ server.maxPacketSize)
    (atMost : contents.length ≤ server.readSize)
    (limit : server'.maxPacketSize = server.maxPacketSize)
    (buffer : server'.internalBuffer = some target)
    (written : server'.heap = heap.write target contents)
    (length : server'.internalBufferLen = contents.length)
    (outside : ∀ packet, server'.point ≠ .body (.blockSend packet)) :
    server'.Covering { asked := server.readSize, data := contents } where
  sent := Sent.nil _ _
  asked := by
    rw [limit]
    exact ⟨_, sizeMul_sizeSub_eq _ room sound.byteSized⟩
  atMost := atMost
  rest _ _ := by
    rw [DDServer.rest, buffer, written, length]
    simp
  filled packet here := absurd here (outside packet)
  departing := by simp

theorem Moves.covering
    (moves : server.Moves env server' events)
    (sound : server.Sound parameters)
    (fits : server.Fits)
    (room : 5 ≤ server.maxPacketSize)
    (atMost : ∀ maxSize, (env.stored maxSize).length ≤ maxSize)
    (acquires : coverage.unsent = true → 0 < server.internalBufferLen →
      server.toParty.MayReturn Ends → env.lockAcquired = true)
    (covering : server.Covering coverage) :
    server'.Covering (events.foldl .note coverage) := by
  -- Only sending a block and the shell may leave one unsent behind.
  have sending {body : ServerBody} (here : server.point = .body body)
      (unsent : coverage.unsent = true)
      (left : 0 < server.internalBufferLen) : SendsBlock body :=
    (Party.departing_of_body here).mp (covering.departing unsent left).2
  have ending {state : FsmState} (here : server.point = .enter state)
      (unsent : coverage.unsent = true)
      (left : 0 < server.internalBufferLen) : Ends state :=
    (Party.departing_of_enter here).mp (covering.departing unsent left).2
  cases moves with
  | shell shell =>
      have outside := shell.point_ne_body
      have departs (unsent : coverage.unsent = true)
          (left : 0 < server.internalBufferLen) :=
        shell.departing (.inl rfl) (covering.departing unsent left).2
          (by simp [Ends]) (acquires unsent left)
      obtain ⟨_, _, _, _, rfl, busy⟩ := shell.unchanged
      exact covering.kept rfl (fun left => ⟨left, rfl⟩) (fun _ => outside _)
        fun unsent left =>
          ⟨busy (covering.departing unsent left).1, departs unsent left⟩
  | idle | terminate =>
      simp only [List.foldl_cons, List.foldl_nil, Coverage.note,
        Coverage.foldl_notification]
      exact covering.emptied rfl rfl (by simp)
  | readStorage here _ buffer =>
      exact covering_of_read sound room (atMost _) rfl buffer rfl rfl (by simp)
  | readNothing here buffer =>
      exact covering_of_read sound room (atMost _) rfl buffer rfl rfl (by simp)
  | noStorage here =>
      refine covering.kept rfl (fun left => ⟨left, rfl⟩) (by simp [goto])
        fun unsent left => ?_
      exact absurd (ending here unsent left) (by simp [Ends])
  | fillBlock here buffer =>
      rw [List.foldl_cons, Coverage.foldl_copyEvent]
      exact covering.fill sound fits here buffer
  | blockSent here | lastBlockSent here =>
      exact covering.hand here (by simp) env
  | retry here unsent =>
      rw [Coverage.foldl_unsent unsent]
      exact covering
  | @giveUp body _ here givesUp =>
      have same : events.foldl .note coverage = coverage := by
        refine Trace.foldl_eq_self (fun event present coverage => ?_) coverage
        rcases givesUp.mem present with rfl | ⟨frame, rfl⟩ | rfl <;> rfl
      rw [same]
      refine covering.kept rfl (fun left => ⟨left, rfl⟩) (by simp [goto])
        fun unsent left => ?_
      obtain ⟨busy, -⟩ := covering.departing unsent left
      have sends := sending here unsent left
      have inside := sound.paced.inside body here
      refine ⟨busy, rfl, ?_⟩
      cases body <;> first | exact inside.symm | exact sends.elim
  | poll here polls =>
      rw [Coverage.foldl_pollEvent]
      refine covering.kept rfl (fun left => ⟨left, rfl⟩) ?_
        fun unsent left => ?_
      · cases polls <;> simp [goto]
      · have sends := sending here unsent left
        cases polls <;> exact sends.elim
  | awaitRequest here | awaitInitiate here =>
      refine covering.kept rfl (fun left => ⟨left, rfl⟩) (by simp [goto])
        fun unsent left => ?_
      exact absurd (ending here unsent left) (by simp [Ends])
  | responseSent here =>
      have live : TransactionPacket.Carries _ _ _ := sound.live _ here
      rw [List.foldl_cons, Coverage.note_control live.isControl]
      exact covering.kept rfl (fun left => ⟨left, rfl⟩) (by simp [goto])
        fun unsent left => (sending here unsent left).elim
  | acceptRequest here | acceptInitiate here | continueBlock here
  | erase here | eraseElse here =>
      simp only [List.foldl_append, List.foldl_cons, List.foldl_nil,
        Coverage.foldl_pollEvent, Coverage.note]
      exact covering.kept rfl (fun left => ⟨left, rfl⟩) (by simp [goto])
        fun unsent left => (sending here unsent left).elim

theorem Calls.covering
    (calls : server.Calls server' events)
    (covering : server.Covering coverage) :
    server'.Covering coverage := by
  obtain ⟨allowed, -⟩ := calls
  constructor
  case sent => exact covering.sent
  case asked => exact covering.asked
  case atMost => exact covering.atMost
  case rest => exact covering.rest
  case filled =>
    intro packet here
    refine (covering.filled packet here).imp_right fun next => ?_
    exact ⟨next.inside, next.holds, next.marked, next.rest⟩
  case departing =>
    intro unsent left
    obtain ⟨busy, departing⟩ := covering.departing unsent left
    refine ⟨busy, ?_⟩
    rcases allowed with rfl | rfl | ⟨-, resting⟩
    · exact departing
    · exact departing.store (.inr rfl)
    · simp [busy] at resting

theorem covering_new (parameters : Parameters) (heap : Heap) :
    (new parameters heap).Covering {} where
  sent := Sent.nil _ _
  asked := ⟨0, rfl⟩
  atMost := Nat.le_refl _
  rest _ left := by simp [new] at left
  filled := by simp [new]
  departing := by simp

end Covering

/-- In every run in which storage delivers no more than it is asked for and no
lock times out between a block that was given up and the end of its
transaction: the block frames of a transaction carry the segments of its data
in order. -/
theorem segmented_of_reaches
    {parameters : Parameters}
    {heap : Heap}
    {server : DDServer}
    {trace : List Event}
    (large : 11 ≤ parameters.maxPacketlen.toNat)
    (reaches : machine.Reaches
      (fun server trace action =>
        action.Departs server trace ∧ action.ReadsAtMost)
      (new parameters heap) server trace)
    (delivered : (Coverage.ofTrace trace).data ≠ []) :
    (Coverage.ofTrace trace).Segmented (parameters.maxPacketlen.toNat - 5) := by
  obtain ⟨-, limit, covering⟩ := invariant_of_reaches reaches
    (fun server trace =>
      server.Fits ∧ server.maxPacketSize = parameters.maxPacketlen.toNat ∧
        server.Covering (.ofTrace trace))
    ⟨fits_of_empty rfl, rfl, covering_new parameters heap⟩
    (by
      rintro server trace action server' events sound ⟨fits, limit, covering⟩
        ⟨departs, atMost⟩ steps
      have limit' := (steps.sound sound).maxPacketSize
      rw [Coverage.ofTrace_append]
      cases steps with
      | fsm moves =>
          exact ⟨moves.fits sound atMost fits, limit',
            moves.covering sound fits (by omega) atMost departs covering⟩
      | call calls =>
          have same : events.foldl .note (Coverage.ofTrace trace) =
              .ofTrace trace :=
            calls.foldl_of_ignored (fun _ => rfl) (fun _ => rfl) _
          rw [same]
          exact ⟨calls.fits fits, limit', calls.covering covering⟩)
  obtain ⟨blocks, asked⟩ := covering.asked
  rw [← limit]
  exact Coverage.segmented_of_sent covering.sent (by omega) delivered asked
    covering.atMost

/-- Two frames of six and two bytes carry the data of a transaction. -/
theorem segmented_example :
    (Coverage.ofTrace (twoFramesRun 2).2).Segmented 6 :=
  segmented_of_reaches (by decide) (Machine.Reaches.execute (twoFrames 2) .start
    (.and (by decide +kernel) (twoFrames_readsAtMost 2))) (by decide +kernel)

/-- The same transaction, but its first block is given up, and the lock to store
`TERMINATE` times out. -/
def skippedFrame : List Action :=
  (twoFrames 2).take 35 ++
    [.fsm { sendAccepted := false, timerExpired := true },
      .fsm { lockAcquired := false }] ++ plain 6

/-- The only frame that is sent carries the last two bytes. -/
theorem skipped_frame_example :
    ¬∀ (parameters : Parameters) (heap : Heap) (server : DDServer)
      (trace : List Event),
      11 ≤ parameters.maxPacketlen.toNat →
        machine.Reaches (fun _ _ action => action.ReadsAtMost)
            (new parameters heap) server trace →
          (Coverage.ofTrace trace).data ≠ [] →
            (Coverage.ofTrace trace).Segmented
              (parameters.maxPacketlen.toNat - 5) := by
  intro always
  have atMost : machine.Admitted (fun _ _ action => action.ReadsAtMost)
      (new (blocksParameters 2) fun _ _ => 0) [] skippedFrame := by
    apply Machine.admitted_of_forall
    simp [skippedFrame, twoFrames, hears, plain, Action.ReadsAtMost, or_imp,
      forall_and]
  have segmented := always (blocksParameters 2) (fun _ _ => 0) _ _ (by decide)
    (Machine.Reaches.execute skippedFrame .start atMost) (by decide +kernel)
  have inOrder := segmented.inOrder
  revert inOrder
  decide +kernel

end DDServer

end DataDumpProtocol

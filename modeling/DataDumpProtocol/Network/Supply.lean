import DataDumpProtocol.Library.InOrder
import DataDumpProtocol.Machines.Exchanges
import DataDumpProtocol.Network.Model
import DataDumpProtocol.Server.Ledger
import DataDumpProtocol.Server.Segmentation
import Mathlib.Data.Prod.Lex

/-!
# What the server supplies

The data of all transactions, one behind the other, are a tape that the server
sends from.  A place on it is a transaction and a position in its data.  What
is left in the staging buffer is the end of the last transaction's data, and
the blocks that are sent cover the tape in order, whatever the locks do.
-/

namespace DataDumpProtocol

/-- A place on the tape: a transaction, and a position in its data. -/
abbrev Place := Nat ×ₗ Nat

theorem place_le_iff {transaction transaction' position position' : Nat} :
    (toLex (transaction, position) : Place) ≤
        toLex (transaction', position') ↔
      transaction < transaction' ∨
        transaction = transaction' ∧ position ≤ position' :=
  Prod.Lex.toLex_le_toLex

namespace Frame

/-- The frame is that of a block. -/
def isBlock (frame : Frame) : Bool :=
  frame.bytes.head? = some MsgType.blockTransfer.toByte

/-- Where the payload of a block starts. -/
def start (frame : Frame) : Place :=
  toLex (frame.transaction, frame.position)

/-- Where the payload of a block ends. -/
def finish (frame : Frame) : Place :=
  toLex (frame.transaction, frame.position + (frame.bytes.length - 5))

/-- The frame is a block whose payload stands where the frame is said to start
in its transaction's data, and the block is marked as the last one only at
their end. -/
structure Covers
    (contents : Nat → List Byte)
    (frame : Frame)
    (header : BlockHeader)
    (payload : List Byte) : Prop where
  bytes : frame.bytes = blockFrame header payload
  size : header.dataBufferSize.toNat = payload.length
  nonempty : payload ≠ []
  slice : payload =
    ((contents frame.transaction).drop frame.position).take payload.length
  within : frame.position + payload.length ≤
    (contents frame.transaction).length
  last : header.getContinueBit = .terminateTransfer →
    frame.position + payload.length = (contents frame.transaction).length

theorem isBlock_of_blockFrame
    {frame : Frame}
    {header : BlockHeader}
    {payload : List Byte}
    (bytes : frame.bytes = blockFrame header payload) :
    frame.isBlock = true := by
  simp [isBlock, bytes, blockFrame]

theorem finish_of_blockFrame
    {frame : Frame}
    {header : BlockHeader}
    {payload : List Byte}
    (bytes : frame.bytes = blockFrame header payload) :
    frame.finish =
      toLex (frame.transaction, frame.position + payload.length) := by
  simp [finish, bytes]

/-- A control frame is not a block. -/
theorem isBlock_of_control
    {frame : Frame}
    {msgType : MsgType}
    {terms : Terms}
    (control : IsControl frame.bytes msgType terms)
    (other : msgType ≠ .blockTransfer) :
    frame.isBlock = false := by
  by_contra block
  have head : frame.bytes.head? = some MsgType.blockTransfer.toByte := by
    simpa [isBlock] using block
  exact other (control.of_head head (by simp))

end Frame

/-- The blocks among the frames are in order between two places, each with the
data that it is said to carry. -/
structure Relays
    (contents : Nat → List Byte)
    (heard : Place)
    (channel : List Frame)
    (sent : Place) : Prop where
  inOrder : InOrder Frame.start Frame.finish heard
    (channel.filter Frame.isBlock) sent
  covers : ∀ frame ∈ channel, frame.isBlock = true →
    ∃ header payload, frame.Covers contents header payload

namespace Relays

variable {contents : Nat → List Byte} {heard sent : Place}
variable {channel : List Frame}

theorem of_silent
    (silent : ∀ frame ∈ channel, frame.isBlock = false)
    (forwards : heard ≤ sent) :
    Relays contents heard channel sent := by
  have none : channel.filter Frame.isBlock = [] :=
    List.filter_eq_nil_iff.mpr fun frame present => by
      simp [silent frame present]
  refine ⟨?_, fun frame present block => ?_⟩
  · rw [none]
    exact forwards
  · simp [silent frame present] at block

theorem append
    {later : Place}
    {frames : List Frame}
    (relays : Relays contents heard channel sent)
    (more : Relays contents sent frames later) :
    Relays contents heard (channel ++ frames) later := by
  refine ⟨?_, fun frame present => ?_⟩
  · rw [List.filter_append]
    exact relays.inOrder.append more.inOrder
  · rcases List.mem_append.mp present with old | new
    · exact relays.covers frame old
    · exact more.covers frame new

/-- The frames carry the same data as long as their transactions have them. -/
theorem congr
    {contents' : Nat → List Byte}
    (relays : Relays contents heard channel sent)
    (same : ∀ frame ∈ channel, frame.isBlock = true →
      contents' frame.transaction = contents frame.transaction) :
    Relays contents' heard channel sent := by
  refine ⟨relays.inOrder, fun frame present block => ?_⟩
  obtain ⟨header, payload, covers⟩ := relays.covers frame present block
  have same := same frame present block
  obtain ⟨bytes, size, nonempty, slice, within, last⟩ := covers
  rw [← same] at slice within last
  exact ⟨header, payload, bytes, size, nonempty, slice, within, last⟩

/-- The block at the front is heard. -/
theorem next
    {frame : Frame}
    (relays : Relays contents heard (frame :: channel) sent)
    (block : frame.isBlock = true) :
    Relays contents frame.finish channel sent := by
  obtain ⟨inOrder, covers⟩ := relays
  rw [List.filter_cons_of_pos block] at inOrder
  exact ⟨inOrder.2.2, fun other present =>
    covers other (List.mem_cons_of_mem _ present)⟩

/-- A channel that loses frames still relays the others in order. -/
theorem sublist
    {remaining : List Frame}
    (relays : Relays contents heard channel sent)
    (lost : remaining.Sublist channel) :
    Relays contents heard remaining sent :=
  ⟨relays.inOrder.sublist (lost.filter _),
    fun frame present => relays.covers frame (lost.subset present)⟩

end Relays

/-- The event concerns the data that the server sends. -/
def Event.concernsSupply : Event → Bool
  | .storageRead _ _ _ | .payloadCopied _ _ => true
  | _ => false

namespace History

/-- The data of the last transaction. -/
def current (history : History) : List Byte :=
  history.contents history.transaction

/-- What the history tells about the data that the server sends. -/
def supply (history : History) : Nat × (Nat → List Byte) × Nat × Nat :=
  (history.transaction, history.contents, history.origin, history.copied)

theorem supply_noteServer
    {events : List Event}
    (aside : ∀ event ∈ events, event.concernsSupply = false)
    (heard : Frame)
    (history : History) :
    (events.foldl (noteServer heard) history).supply = history.supply := by
  refine Trace.foldl_keeps supply (fun event present history => ?_) history
  cases event with
  | storageRead | payloadCopied =>
      exact absurd (aside _ present) (by simp [Event.concernsSupply])
  | received header =>
      simp only [noteServer]
      split <;> rfl
  | _ => rfl

theorem supply_noteClient
    (events : List Event)
    (heard : Frame)
    (history : History) :
    (events.foldl (noteClient heard) history).supply = history.supply := by
  refine Trace.foldl_keeps supply (fun event _ history => ?_) history
  cases event <;> rfl

/-- The history goes on: past transactions keep their data. -/
structure Extends (before after : History) : Prop where
  transaction : before.transaction ≤ after.transaction
  contents : ∀ transaction ≤ before.transaction,
    after.contents transaction = before.contents transaction

theorem Extends.trans
    {first second third : History}
    (before : first.Extends second)
    (after : second.Extends third) :
    first.Extends third where
  transaction := before.transaction.trans after.transaction
  contents transaction past :=
    (after.contents transaction (past.trans before.transaction)).trans
      (before.contents transaction past)

theorem extends_of_supply
    {before after : History}
    (supply : after.supply = before.supply) :
    before.Extends after := by
  obtain ⟨transaction, contents, -⟩ :
      after.transaction = before.transaction ∧
        after.contents = before.contents ∧ _ := by
    simpa [History.supply] using supply
  exact ⟨transaction.ge, fun _ _ => congrFun contents _⟩

theorem extends_noteServer
    (events : List Event)
    (heard : Frame)
    (history : History) :
    history.Extends (events.foldl (noteServer heard) history) := by
  induction events generalizing history with
  | nil => exact extends_of_supply rfl
  | cons event events inductionHypothesis =>
      refine Extends.trans ?_ (inductionHypothesis _)
      cases event with
      | storageRead target maxSize contents =>
          refine ⟨Nat.le_succ _, fun transaction past => ?_⟩
          exact Function.update_of_ne (by omega) _ _
      | received header =>
          apply extends_of_supply
          simp only [noteServer]
          split <;> rfl
      | _ => exact ⟨Nat.le_refl _, fun _ _ => rfl⟩

end History

namespace DDServer

/-- The number of bytes that storage delivered and that were not sent yet. -/
def remaining (server : DDServer) : Nat :=
  server.pending + server.internalBufferLen

/-- The place up to which the server has sent. -/
def place (server : DDServer) (history : History) : Place :=
  toLex (history.transaction, history.current.length - server.remaining)

/-- What is left to be sent is the end of the last transaction's data. -/
structure Supplies (history : History) (server : DDServer) : Prop where
  within : server.remaining ≤ history.current.length
  staged : server.rest =
    history.current.drop (history.current.length - server.internalBufferLen)
  placed : ∀ source, server.internalBuffer = some source →
    server.internalBufferLen ≠ 0 →
      source.offset = history.origin +
        (history.current.length - server.internalBufferLen)
  filled : ∀ packet, server.point = .body (.blockSend packet) →
    ∃ payload,
      packet.Holds server.maxPacketSize payload ∧
      payload = (history.current.drop
        (history.current.length - server.remaining)).take payload.length ∧
      (payload ≠ [] → history.copied - history.origin =
        history.current.length - server.remaining) ∧
      (packet.header.getContinueBit = .terminateTransfer →
        server.internalBufferLen = 0)

section Supplies

variable {parameters : Parameters} {server server' : DDServer}
variable {env : Environment} {events : List Event}
variable {history history' : History}

theorem remaining_of_outside
    (outside : ∀ packet, server.point ≠ .body (.blockSend packet)) :
    server.remaining = server.internalBufferLen := by
  rw [remaining, pending_eq_zero outside, Nat.zero_add]

/-- A server with nothing left supplies nothing. -/
theorem supplies_of_empty
    (outside : ∀ packet, server.point ≠ .body (.blockSend packet))
    (empty : server.internalBufferLen = 0) :
    server.Supplies history where
  within := by simp [remaining_of_outside outside, empty]
  staged := by simp [rest_eq_nil empty, empty]
  placed _ _ left := absurd empty left
  filled packet here := absurd here (outside packet)

theorem Supplies.congr
    (supplies : server.Supplies history)
    (supply : history'.supply = history.supply) :
    server.Supplies history' := by
  obtain ⟨transaction, contents, origin, copied⟩ :
      history'.transaction = history.transaction ∧
        history'.contents = history.contents ∧
        history'.origin = history.origin ∧
        history'.copied = history.copied := by
    simpa [History.supply] using supply
  have current : history'.current = history.current := by
    rw [History.current, transaction, contents]
    rfl
  obtain ⟨within, staged, placed, filled⟩ := supplies
  rw [← current] at within staged
  simp only [← current, ← origin, ← copied] at placed filled
  exact ⟨within, staged, placed, filled⟩

theorem place_congr
    (supply : history'.supply = history.supply)
    (server : DDServer) :
    server.place history' = server.place history := by
  obtain ⟨transaction, contents, -⟩ :
      history'.transaction = history.transaction ∧
        history'.contents = history.contents ∧ _ := by
    simpa [History.supply] using supply
  simp only [place, History.current, transaction, contents]

/-- A step that leaves the staging buffer alone, and ends a block if one was
being sent. -/
theorem Supplies.kept
    (supplies : server.Supplies history)
    (heap : server'.heap = server.heap)
    (buffer : server'.internalBuffer = server.internalBuffer)
    (length : server'.internalBufferLen = server.internalBufferLen)
    (outside : ∀ packet, server'.point ≠ .body (.blockSend packet)) :
    server'.Supplies history where
  within := by
    have within := supplies.within
    rw [remaining_of_outside outside, length]
    exact (Nat.le_add_left _ _).trans within
  staged := by
    rw [length, ← supplies.staged]
    simp only [rest, heap, buffer, length]
  placed source here left := by
    rw [buffer] at here
    rw [length] at left ⊢
    exact supplies.placed source here left
  filled packet here := absurd here (outside packet)

/-- A step that reads no storage and fills no block leaves the tape alone. -/
theorem Moves.supply_eq
    (moves : server.Moves env server' events)
    (reads : server.point ≠ .enter .response)
    (fills : server.point ≠ .enter .block)
    (heard : Frame) :
    (events.foldl (.noteServer heard) history).supply = history.supply := by
  refine History.supply_noteServer (fun event present => ?_) heard history
  cases moves with
  | readStorage here | readNothing here | noStorage here =>
      exact absurd here reads
  | fillBlock here => exact absurd here fills
  | retry here unsent =>
      obtain ⟨frame, rfl⟩ := unsent event present
      rfl
  | giveUp here givesUp =>
      rcases givesUp.mem present with rfl | ⟨frame, rfl⟩ | rfl <;> rfl
  | _ =>
      revert event
      simp +contextual [or_imp, Event.concernsSupply]

/-- Storage is only read in `RESPONSE`. -/
theorem Moves.transaction_eq
    (moves : server.Moves env server' events)
    (elsewhere : server.point ≠ .enter .response)
    (heard : Frame) :
    (events.foldl (.noteServer heard) history).transaction =
      history.transaction := by
  have unread : ∀ target maxSize contents,
      .storageRead target maxSize contents ∉ events := by
    intro target maxSize contents present
    cases moves with
    | readStorage here | readNothing here => exact elsewhere here
    | retry here unsent =>
        obtain ⟨frame, impossible⟩ := unsent _ present
        simp at impossible
    | giveUp here givesUp =>
        rcases givesUp.mem present with impossible | ⟨frame, impossible⟩ |
          impossible <;> simp at impossible
    | _ => simp at present
  refine Trace.foldl_keeps History.transaction
    (fun event present history => ?_) history
  cases event with
  | storageRead => exact absurd present (unread _ _ _)
  | received header =>
      simp only [History.noteServer]
      split <;> rfl
  | _ => rfl

/-- The data of the last transaction stay the same until storage is read
again. -/
theorem Moves.current_eq
    (moves : server.Moves env server' events)
    (elsewhere : server.point ≠ .enter .response)
    (heard : Frame) :
    (events.foldl (.noteServer heard) history).current = history.current := by
  have later := History.extends_noteServer events heard history
  rw [History.current, moves.transaction_eq elsewhere]
  exact later.contents _ (Nat.le_refl _)

/-- Filling a block enters where its payload was copied from. -/
theorem foldl_copyEvent
    {source : Pointer}
    (sound : server.Sound parameters)
    (room : 5 ≤ server.maxPacketSize)
    (buffer : server.internalBuffer = some source)
    (heard : Frame) :
    server.copyEvent.foldl (.noteServer heard) history =
      if 0 < server.dataSizeCopiedToPacket then
        { history with copied := source.offset }
      else history := by
  rw [copyEvent_eq room sound.byteSized buffer]
  split <;> rfl

/-- Filling a block sends nothing yet. -/
theorem remaining_filling
    {source : Pointer}
    (sound : server.Sound parameters)
    (room : 5 ≤ server.maxPacketSize)
    (buffer : server.internalBuffer = some source) :
    (server.filling source).remaining = server.internalBufferLen := by
  have holds := blockPacket_holds room sound.byteSized buffer
  have taken := dataSizeCopiedToPacket_eq room
  have size := holds.size
  rw [Heap.length_bytes] at size
  rw [remaining, pending_of_blockSend rfl, size, internalBufferLen_filling]
  omega

/-- Filling a block with the next bytes of the staging buffer. -/
theorem Supplies.fill
    {source : Pointer}
    (supplies : server.Supplies history)
    (sound : server.Sound parameters)
    (fits : server.Fits)
    (here : server.point = .enter .block)
    (buffer : server.internalBuffer = some source)
    (heard : Frame) :
    (server.filling source).Supplies
      (server.copyEvent.foldl (.noteServer heard) history) := by
  have room : 5 < server.maxPacketSize := by
    have control := sound.room_of_enter here
    omega
  have holds := blockPacket_holds (by omega) sound.byteSized buffer
  have taken := dataSizeCopiedToPacket_eq (Nat.le_of_lt room)
  have limits := fits.limited (.inr (.inr (.inr (.inl here))))
  have left := remaining_filling sound (Nat.le_of_lt room) buffer
  have within := supplies.within
  rw [remaining_of_outside (by simp [here])] at within
  -- The staging buffer is cut into the payload and what remains.
  have staged := supplies.staged
  rw [rest_split (Nat.le_of_lt room) buffer] at staged
  have copied := @foldl_copyEvent _ _ history _ sound (Nat.le_of_lt room)
    buffer heard
  generalize server.copyEvent.foldl (.noteServer heard) history = entered
    at copied ⊢
  have kept : entered.current = history.current ∧
      entered.origin = history.origin := by
    rw [copied]
    split <;> exact ⟨rfl, rfl⟩
  constructor
  case within => rwa [left, kept.1]
  case staged =>
    have behind := congrArg (List.drop server.dataSizeCopiedToPacket) staged
    rw [List.drop_left' (by simp), List.drop_drop] at behind
    rw [rest_filling, behind, kept.1, internalBufferLen_filling]
    congr 1
    omega
  case placed =>
    rintro _ ⟨⟩ left
    have placed := supplies.placed source buffer
    rw [internalBufferLen_filling] at left ⊢
    rw [Pointer.offset_advance, kept.1, kept.2]
    omega
  case filled =>
    rintro _ ⟨⟩
    refine ⟨_, holds, ?_, fun nonempty => ?_, ?_⟩
    · rw [left, kept.1, ← staged, Heap.length_bytes, List.take_left' (by simp)]
    · have some_ : 0 < server.dataSizeCopiedToPacket := by
        refine Nat.pos_of_ne_zero fun none => nonempty ?_
        rw [none, Heap.bytes_zero]
      rw [if_pos some_] at copied
      have offset := supplies.placed source buffer (by omega)
      rw [left, kept.1, kept.2, copied]
      simp only
      omega
    · rw [blockPacket_getContinueBit]
      exact limits.last (by omega)

theorem Moves.supplies
    (moves : server.Moves env server' events)
    (sound : server.Sound parameters)
    (fits : server.Fits)
    (supplies : server.Supplies history)
    (heard : Frame) :
    server'.Supplies (events.foldl (.noteServer heard) history) := by
  have supply := @moves.supply_eq _ _ _ _ history
  cases moves with
  | shell shell =>
      have outside := shell.point_ne_body
      obtain ⟨_, _, _, _, rfl, -⟩ := shell.unchanged
      exact supplies.kept rfl rfl rfl fun _ => outside _
  | idle | terminate => exact supplies_of_empty (by simp) rfl
  | readStorage here _ buffer =>
      refine ⟨?_, ?_, ?_, by simp⟩
      · rw [remaining_of_outside (by simp)]
        simp [History.current, History.noteServer]
      · simp [rest, negotiated, buffer, History.current, History.noteServer]
      · rintro source given -
        obtain rfl := Option.some.inj (buffer.symm.trans given)
        simp [History.current, History.noteServer]
  | readNothing here _ empty =>
      exact supplies_of_empty (by simp) (by simp [empty])
  | noStorage =>
      exact supplies.kept rfl rfl rfl (by simp [goto])
  | fillBlock here buffer =>
      exact supplies.fill sound fits here buffer heard
  | retry here =>
      exact supplies.congr (supply (by simp [here]) (by simp [here]) heard)
  | poll here polls =>
      refine Supplies.congr (supplies.kept rfl rfl rfl ?_)
        (supply (by simp [here]) (by simp [here]) heard)
      cases polls <;> simp [goto]
  | awaitRequest here | acceptRequest here | responseSent here
  | awaitInitiate here | acceptInitiate here | blockSent here
  | lastBlockSent here | continueBlock here | erase here | eraseElse here
  | giveUp here =>
      exact Supplies.congr (supplies.kept rfl rfl rfl (by simp [goto]))
        (supply (by simp [here]) (by simp [here]) heard)

/-- The server never goes back on the tape. -/
theorem Moves.place_le
    (moves : server.Moves env server' events)
    (sound : server.Sound parameters)
    (heard : Frame) :
    server.place history ≤
      server'.place (events.foldl (.noteServer heard) history) := by
  have supply := @moves.supply_eq _ _ _ _ history
  have sends {server' : DDServer}
      (less : server'.remaining ≤ server.remaining) :
      server.place history ≤ server'.place history :=
    place_le_iff.mpr (.inr ⟨rfl, by omega⟩)
  -- Outside the send loop no packet remains.
  have ends {server' : DDServer}
      (outside : ∀ packet, server'.point ≠ .body (.blockSend packet))
      (length : server'.internalBufferLen ≤ server.internalBufferLen) :
      server.place history ≤ server'.place history := by
    apply sends
    rw [remaining_of_outside outside]
    exact length.trans (Nat.le_add_left _ _)
  cases moves with
  | shell shell =>
      have outside := shell.point_ne_body
      obtain ⟨_, _, _, _, rfl, -⟩ := shell.unchanged
      exact ends (fun _ => outside _) (Nat.le_refl _)
  | idle here | terminate here =>
      rw [place_congr (supply (by simp [here]) (by simp [here]) heard)]
      exact ends (by simp) (Nat.zero_le _)
  | noStorage => exact ends (by simp [goto]) (Nat.le_refl _)
  | readStorage | readNothing =>
      exact place_le_iff.mpr (.inl (Nat.lt_succ_self _))
  | @fillBlock source here buffer =>
      have room := sound.room_of_enter here
      have same : (server.filling source).place
          (server.copyEvent.foldl (.noteServer heard) history) =
            (server.filling source).place history := by
        rw [foldl_copyEvent sound (by omega) buffer]
        split <;> rfl
      refine (sends ?_).trans_eq same.symm
      rw [remaining_filling sound (by omega) buffer]
      exact Nat.le_add_left _ _
  | retry here =>
      rw [place_congr (supply (by simp [here]) (by simp [here]) heard)]
  | poll here polls =>
      rw [place_congr (supply (by simp [here]) (by simp [here]) heard)]
      refine ends ?_ (Nat.le_refl _)
      cases polls <;> simp [goto]
  | awaitRequest here | acceptRequest here | responseSent here
  | awaitInitiate here | acceptInitiate here | blockSent here
  | lastBlockSent here | continueBlock here | erase here | eraseElse here
  | giveUp here =>
      rw [place_congr (supply (by simp [here]) (by simp [here]) heard)]
      exact ends (by simp [goto]) (Nat.le_refl _)

/-- The only block that a step can send is the one that was filled. -/
theorem Moves.blocks
    (moves : server.Moves env server' events)
    (sound : server.Sound parameters) :
    (∀ frame ∈ Channel.posted history.serverFrame events,
        frame.isBlock = false) ∨
      ∃ packet, server.point = .body (.blockSend packet) ∧
        events = [.sent (packet.frame env.beyond) true] ∧
        server'.internalBufferLen = server.internalBufferLen ∧
        ∀ packet', server'.point ≠ .body (.blockSend packet') := by
  have none (unsent : ∀ bytes, .sent bytes true ∉ events) :
      ∀ frame ∈ Channel.posted history.serverFrame events,
        frame.isBlock = false := by
    intro frame present
    obtain ⟨bytes, sent, -⟩ := Channel.mem_posted.mp present
    exact absurd sent (unsent bytes)
  cases moves with
  | blockSent here | lastBlockSent here =>
      exact .inr ⟨_, here, rfl, rfl, by simp [goto]⟩
  | responseSent here =>
      have live : TransactionPacket.Carries _ _ _ := sound.live _ here
      have control := @Frame.isBlock_of_control
        (history.serverFrame (DataDump.controlFrame _)) _ _ live.isControl
        (by simp)
      left
      simp [Channel.posted, control]
  | retry here unsent =>
      refine .inl (none fun bytes sent => ?_)
      obtain ⟨frame, impossible⟩ := unsent _ sent
      simp at impossible
  | giveUp here givesUp =>
      refine .inl (none fun bytes sent => ?_)
      rcases givesUp.mem sent with impossible | ⟨frame, impossible⟩ | impossible
        <;> simp at impossible
  | _ => exact .inl (none (by simp))

/-- A step sends blocks in order, each with the data that it is said to
carry. -/
theorem Moves.posts
    (moves : server.Moves env server' events)
    (sound : server.Sound parameters)
    (supplies : server.Supplies history)
    (heard : Frame) :
    Relays history.contents (server.place history)
      (Channel.posted history.serverFrame events)
      (server'.place (events.foldl (.noteServer heard) history)) := by
  have forwards := @moves.place_le _ _ _ _ _ history sound heard
  rcases @moves.blocks _ _ _ _ _ history sound with
    silent | ⟨packet, here, rfl, length, outside⟩
  · exact .of_silent silent forwards
  obtain ⟨payload, holds, slice, position, last⟩ := supplies.filled packet here
  have within := supplies.within
  have size : server.remaining =
      payload.length + server.internalBufferLen := by
    rw [remaining, pending_of_blockSend here, holds.size]
  rcases holds.frame_cases env.beyond with
    ⟨empty, bytes⟩ | ⟨nonempty, bytes⟩
  · exact .of_silent
      (by simp [Channel.posted, bytes, Frame.isBlock, History.serverFrame])
      forwards
  · let frame := history.serverFrame (packet.frame env.beyond)
    have position : frame.position =
        history.current.length - server.remaining := position nonempty
    have covers : frame.Covers history.contents packet.header payload :=
      { bytes := bytes
        size := holds.size
        nonempty := nonempty
        slice := by rwa [position]
        within := by
          rw [position]
          change _ ≤ history.current.length
          omega
        last := fun marked => by
          have empty := last marked
          rw [position]
          change _ = history.current.length
          omega }
    have posted : Channel.posted history.serverFrame
        [.sent (packet.frame env.beyond) true] = [frame] := rfl
    rw [posted]
    refine ⟨?_, fun other present _ => ?_⟩
    · have block := Frame.isBlock_of_blockFrame covers.bytes
      rw [List.filter_cons_of_pos block, List.filter_nil]
      refine ⟨place_le_iff.mpr (.inr ⟨rfl, ?_⟩),
        place_le_iff.mpr (.inr ⟨rfl, Nat.le_add_right _ _⟩), ?_⟩
      · exact Nat.le_of_eq position.symm
      · rw [Frame.finish_of_blockFrame covers.bytes]
        refine place_le_iff.mpr (.inr ⟨rfl, ?_⟩)
        rw [position, remaining_of_outside outside, length]
        change _ ≤ history.current.length - _
        omega
    · obtain rfl := List.mem_singleton.mp present
      exact ⟨_, _, covers⟩

end Supplies

end DDServer

end DataDumpProtocol

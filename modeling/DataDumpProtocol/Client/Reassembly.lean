import DataDumpProtocol.Machines.ClientMoves

/-!
# Reassembly

The client stores the payloads of the blocks one behind the other in the
caller's buffer.  A moving pointer and a shrinking length say where the next
one goes, and stay in step whatever frames arrive and whatever the locks and
callbacks answer.
-/

namespace DataDumpProtocol

/-- Writing two adjacent pieces is writing their concatenation. -/
theorem Heap.write_write_adjacent
    (heap : Heap)
    (pointer : Pointer)
    (first second : List Byte) :
    (heap.write pointer first).write (pointer.advance first.length) second =
      heap.write pointer (first ++ second) := by
  funext block
  simp only [write, Pointer.block_advance, Pointer.offset_advance]
  split
  next => exact View.write_write_adjacent _ _ _ _
  next => rfl

@[simp] theorem Heap.write_nil (heap : Heap) (pointer : Pointer) :
    heap.write pointer [] = heap := by
  funext block
  simp only [write]
  split
  next =>
    funext i
    exact View.write_of_outside _ (by simp; omega)
  next => rfl

/-- A transfer that `startNewTransfer` accepted. -/
structure Transfer where
  buffer : Pointer
  size : Nat
  /-- The memory when it was accepted. -/
  before : Heap
  /-- The payloads of the blocks that were stored, in order. -/
  contents : List Byte := []

/-- What a trace tells about the memory and about the transfer that was last
accepted, until `TERMINATE` cleans up. -/
structure Reassembly where
  heap : Heap
  transfer : Option Transfer := none

/-- The event concerns the caller's buffer or the end of its transfer. -/
def Event.concernsBuffer : Event → Bool
  | .transferStarted _ _ | .blockStored _ _ | .body .terminate _
  | .notified _ => true
  | _ => false

namespace Reassembly

/-- Enter one event. -/
def note (reassembly : Reassembly) : Event → Reassembly
  | .transferStarted buffer size =>
      { reassembly with transfer := some ⟨buffer, size, reassembly.heap, []⟩ }
  | .blockStored target payload =>
      { heap := reassembly.heap.write target payload
        transfer := reassembly.transfer.map fun transfer =>
          { transfer with contents := transfer.contents ++ payload } }
  | .body .terminate _ => { reassembly with transfer := none }
  | _ => reassembly

/-- The reassembly that a trace ends in, with this memory at its start. -/
def ofTrace (heap : Heap) (trace : List Event) : Reassembly :=
  trace.foldl note { heap := heap }

theorem ofTrace_append (heap : Heap) (before after : List Event) :
    ofTrace heap (before ++ after) = after.foldl note (ofTrace heap before) :=
  List.foldl_append

theorem foldl_eq_self
    {events : List Event}
    (aside : ∀ event ∈ events, event.concernsBuffer = false)
    (reassembly : Reassembly) :
    events.foldl note reassembly = reassembly := by
  refine Trace.foldl_eq_self (fun event present reassembly => ?_) reassembly
  have concerns := aside event present
  unfold Event.concernsBuffer at concerns
  unfold note
  split at concerns <;> simp_all

end Reassembly

namespace DDClient

/-- The transfer's payloads are a prefix of the caller's buffer, nothing else
was written, and pointer and length describe what is left of it. -/
structure InPlace (client : DDClient) (transfer : Transfer) : Prop where
  heap : client.heap = transfer.before.write transfer.buffer transfer.contents
  room : transfer.contents.length ≤ transfer.size
  buffer : client.internalBuffer =
    some (transfer.buffer.advance transfer.contents.length)
  left : client.internalBufferLen = transfer.size - transfer.contents.length

/-- The client's memory and buffer are those of the reassembly. -/
structure Reassembles (client : DDClient) (reassembly : Reassembly) :
    Prop where
  heap : client.heap = reassembly.heap
  dropped : reassembly.transfer = none → client.internalBuffer = none
  inPlace : ∀ transfer ∈ reassembly.transfer, client.InPlace transfer

section Reassembles

variable {parameters : Parameters} {client client' : DDClient}
variable {env : Environment} {events : List Event}
variable {reassembly : Reassembly}

/-- What a move does to the caller's buffer: it stores the waiting block, or
drops the buffer, or leaves it alone. -/
theorem Moves.buffer_cases (moves : client.Moves env client' events) :
    (∃ packet target,
      client.point = .body (.blockReceive packet) ∧
        client.AcceptsBlock .blockTransfer env ∧
        client.internalBuffer = some target ∧
        (client.polledBlockHeader env).dataBufferSize.toNat ≤
          client.internalBufferLen ∧
        (∃ point, client' = (client.storing target env).goto point) ∧
        events = client.pollEvent ++
          [.blockReceived (client.polledBlockHeader env),
            .blockStored target (client.polledPayload env)]) ∨
    (client.point = .enter .terminate ∧ client'.heap = client.heap ∧
      client'.internalBuffer = none ∧
      events = .body .terminate client.internalBuffer ::
        client.notification) ∨
    (client'.heap = client.heap ∧
      client'.internalBuffer = client.internalBuffer ∧
      client'.internalBufferLen = client.internalBufferLen ∧
      ∀ event ∈ events, event.concernsBuffer = false) := by
  cases moves with
  | shell shell =>
      obtain ⟨_, _, _, _, rfl, -⟩ := shell.unchanged
      exact .inr (.inr ⟨rfl, rfl, rfl, by simp⟩)
  | storeMore here accepts buffer fits
  | storeLast here accepts buffer fits =>
      exact .inl ⟨_, _, here, accepts, buffer, fits, ⟨_, rfl⟩, rfl⟩
  | terminate here => exact .inr (.inl ⟨here, rfl, rfl, rfl⟩)
  | retry here unsent =>
      refine .inr (.inr ⟨rfl, rfl, rfl, fun event present => ?_⟩)
      obtain ⟨frame, rfl⟩ := unsent event present
      rfl
  | giveUp here givesUp =>
      refine .inr (.inr ⟨rfl, rfl, rfl, fun event present => ?_⟩)
      cases givesUp with
      | unsent unsent =>
          obtain ⟨frame, rfl⟩ := unsent event present
          rfl
      | unheard => rw [(DataDump.mem_pollEvent.mp present).2]; rfl
  | _ =>
      refine .inr (.inr ⟨rfl, rfl, rfl, ?_⟩)
      simp +contextual [or_imp, Event.concernsBuffer]

/-- The block that is stored is the one that waits, and it fits. -/
theorem Moves.stored
    (moves : client.Moves env client' events)
    {target : Pointer}
    {payload : List Byte}
    (present : .blockStored target payload ∈ events) :
    client.AcceptsBlock .blockTransfer env ∧
      client.internalBuffer = some target ∧
      (client.polledBlockHeader env).dataBufferSize.toNat ≤
        client.internalBufferLen ∧
      payload = client.polledPayload env := by
  rcases moves.buffer_cases with
    ⟨packet, aim, here, accepts, buffer, fits, -, rfl⟩ | ⟨-, -, -, rfl⟩ |
    ⟨-, -, -, aside⟩
  · obtain ⟨rfl, rfl⟩ : target = aim ∧ payload = client.polledPayload env := by
      simpa using present
    exact ⟨accepts, buffer, fits, rfl⟩
  · simp at present
  · simpa [Event.concernsBuffer] using aside _ present

/-- The next block goes behind the blocks before it. -/
theorem InPlace.store
    {transfer : Transfer}
    {target : Pointer}
    (inPlace : client.InPlace transfer)
    (buffer : client.internalBuffer = some target)
    (fits : (client.polledBlockHeader env).dataBufferSize.toNat ≤
      client.internalBufferLen)
    (point : Point ClientBody) :
    InPlace ((client.storing target env).goto point)
      { transfer with
        contents := transfer.contents ++ client.polledPayload env } := by
  obtain rfl : transfer.buffer.advance transfer.contents.length = target :=
    Option.some.inj (inPlace.buffer.symm.trans buffer)
  have left := inPlace.left
  have room := inPlace.room
  constructor
  case heap =>
    simp only [Party.toDataDump_goto, storing]
    rw [inPlace.heap, Heap.write_write_adjacent]
  case room =>
    simp only [List.length_append, length_polledPayload]
    omega
  case buffer => simp [storing]
  case left =>
    simp only [Party.toDataDump_goto, storing, List.length_append,
      length_polledPayload]
    omega

/-- A client with a buffer has a transfer that it belongs to. -/
theorem Reassembles.current
    (reassembles : client.Reassembles reassembly)
    {target : Pointer}
    (buffer : client.internalBuffer = some target) :
    ∃ transfer ∈ reassembly.transfer,
      client.InPlace transfer ∧
        target = transfer.buffer.advance transfer.contents.length := by
  cases current : reassembly.transfer with
  | none => simp [reassembles.dropped current] at buffer
  | some transfer =>
      have inPlace := reassembles.inPlace transfer current
      exact ⟨transfer, rfl, inPlace,
        Option.some.inj (buffer.symm.trans inPlace.buffer)⟩

theorem Moves.reassembles
    (moves : client.Moves env client' events)
    (reassembles : client.Reassembles reassembly) :
    client'.Reassembles (events.foldl .note reassembly) := by
  rcases moves.buffer_cases with
    ⟨packet, target, here, accepts, buffer, fits, ⟨point, rfl⟩, rfl⟩ |
    ⟨here, heap, dropped, rfl⟩ | ⟨heap, buffer, left, aside⟩
  · have polled : client.pollEvent.foldl .note reassembly = reassembly :=
      DataDump.foldl_pollEvent_of_ignored (fun _ => rfl) reassembly
    rw [List.foldl_append, polled]
    constructor
    case heap =>
      simp only [List.foldl_cons, List.foldl_nil, Reassembly.note,
        Party.toDataDump_goto, storing]
      rw [reassembles.heap]
    case dropped =>
      intro absent
      have absent : reassembly.transfer = none := by
        simpa [Reassembly.note] using absent
      simp [reassembles.dropped absent] at buffer
    case inPlace =>
      intro transfer present
      obtain ⟨before, current, rfl⟩ : ∃ before, _ = some before ∧ _ :=
        Option.map_eq_some_iff.mp present
      exact (reassembles.inPlace before current).store buffer fits point
  · have notified : client.notification.foldl .note
        { reassembly with transfer := none } =
        { reassembly with transfer := none } :=
      DataDump.foldl_notification_of_ignored (fun _ _ => rfl) _
    rw [List.foldl_cons, Reassembly.note, notified]
    exact ⟨heap.trans reassembles.heap, fun _ => dropped, by simp⟩
  · rw [Reassembly.foldl_eq_self aside]
    refine ⟨heap.trans reassembles.heap,
      fun absent => buffer.trans (reassembles.dropped absent),
      fun transfer present => ?_⟩
    obtain ⟨inHeap, room, inBuffer, inLeft⟩ :=
      reassembles.inPlace transfer present
    exact ⟨heap.trans inHeap, room, buffer.trans inBuffer, left.trans inLeft⟩

theorem Calls.reassembles
    {buffer : Option Pointer}
    {size : Nat}
    (calls : client.Calls buffer size client' events)
    (reassembles : client.Reassembles reassembly) :
    client'.Reassembles (events.foldl .note reassembly) := by
  cases calls with
  | refused => exact reassembles
  | started =>
      constructor
      case heap => exact reassembles.heap
      case dropped => simp [Reassembly.note]
      case inPlace =>
        intro transfer present
        obtain rfl := Option.some.inj present
        exact ⟨by simp [reassembles.heap], Nat.zero_le _, rfl, rfl⟩

theorem reassembles_of_reaches
    {admits : DDClient → List Event → Action → Prop}
    {heap : Heap}
    {trace : List Event}
    (reaches : machine.Reaches admits (new parameters heap) client trace) :
    client.Reassembles (.ofTrace heap trace) := by
  refine invariant_of_reaches reaches
    (fun client trace => client.Reassembles (.ofTrace heap trace))
    ⟨rfl, fun _ => rfl, by simp [Reassembly.ofTrace]⟩ ?_
  rintro client trace action client' events - reassembles - steps
  rw [Reassembly.ofTrace_append]
  cases steps with
  | fsm moves => exact moves.reassembles reassembles
  | call calls => exact calls.reassembles reassembles

end Reassembles

/-- In every run, until `TERMINATE` cleans up: what was written to memory
since a transfer was accepted are the payloads of its blocks, one behind the
other from the start of the caller's buffer, and pointer and length describe
the rest of it.  The next block that is stored is the one that waits, and a
block that does not fit changes nothing. -/
theorem reassembles_in_place
    {parameters : Parameters}
    {heap : Heap}
    {client : DDClient}
    {trace : List Event}
    (reaches : machine.Reaches (fun _ _ _ => True) (new parameters heap)
      client trace) :
    (∀ transfer ∈ (Reassembly.ofTrace heap trace).transfer,
      client.InPlace transfer) ∧
    (∀ env target payload,
      .blockStored target payload ∈ (client.fsmStep env).2 →
        client.AcceptsBlock .blockTransfer env ∧
          payload = (client.recvByteBuffer env).bytes 5
            (client.polledBlockHeader env).dataBufferSize.toNat ∧
          ∃ transfer ∈ (Reassembly.ofTrace heap trace).transfer,
            target = transfer.buffer.advance transfer.contents.length ∧
              transfer.contents.length + payload.length ≤ transfer.size) ∧
    ∀ env,
      client.internalBufferLen <
          (client.polledBlockHeader env).dataBufferSize.toNat →
        (client.fsmStep env).1.heap = client.heap ∧
          ∀ target payload,
            .blockStored target payload ∉ (client.fsmStep env).2 := by
  have reassembles := reassembles_of_reaches reaches
  have moves (env : Environment) := (sound_of_reaches reaches).moves env
  refine ⟨reassembles.inPlace, fun env target payload present => ?_,
    fun env overflows => ?_⟩
  · obtain ⟨accepts, buffer, fits, rfl⟩ := (moves env).stored present
    obtain ⟨transfer, current, inPlace, aim⟩ := reassembles.current buffer
    refine ⟨accepts, rfl, transfer, current, aim, ?_⟩
    have left := inPlace.left
    have room := inPlace.room
    rw [length_polledPayload]
    omega
  · refine ⟨?_, fun target payload present => ?_⟩
    · rcases (moves env).buffer_cases with
        ⟨_, _, _, _, _, fits, -, -⟩ | ⟨-, heap, -, -⟩ | ⟨heap, -, -, -⟩
      · exact absurd fits (Nat.not_le.mpr overflows)
      · exact heap
      · exact heap
    · obtain ⟨-, -, fits, -⟩ := (moves env).stored present
      exact absurd fits (Nat.not_le.mpr overflows)

/-! ## A transfer under way -/

/-- Parameters of a client that asks for two blocks of six bytes. -/
def reassemblyParameters : Parameters where
  transactionID := 7
  blocksPerTransaction := 2
  maxPacketlen := 11
  ackTimeout := 5

/-- A transfer into this buffer up to its first block. -/
def firstBlock (buffer : Pointer) (size : Nat) : List Action :=
  .startNewTransfer (some buffer) size {} :: List.replicate 16 (.fsm {}) ++
    .fsm { incoming := [2, 7, 0, 0, 0, 2, 11, 5, 0, 0, 0] } ::
      List.replicate 17 (.fsm {}) ++
    [.fsm { incoming := [4, 129, 0, 0, 6, 1, 2, 3, 4, 5, 6] }]

/-- What a list of actions makes of a fresh client. -/
def reassemblyRun (actions : List Action) : DDClient × List Event :=
  machine.execute (new reassemblyParameters fun _ _ => 0) [] actions

/-- Six of eight bytes are in place. -/
theorem reassembles_in_place_example :
    (∀ transfer ∈ (Reassembly.ofTrace (fun _ _ => 0)
        (reassemblyRun (firstBlock ⟨1, 0⟩ 8)).2).transfer,
      InPlace (reassemblyRun (firstBlock ⟨1, 0⟩ 8)).1 transfer) ∧
    (Reassembly.ofTrace (fun _ _ => 0)
        (reassemblyRun (firstBlock ⟨1, 0⟩ 8)).2).transfer.map
      Transfer.contents = some [1, 2, 3, 4, 5, 6] := by
  refine ⟨(reassembles_in_place (Machine.Reaches.execute
    (firstBlock ⟨1, 0⟩ 8) .start ?_)).1, by decide +kernel⟩
  exact Machine.admitted_of_forall fun _ _ => trivial

end DDClient

end DataDumpProtocol

import DataDumpProtocol.Server.Window

/-!
# Where the staging pointer goes

`internalBuffer` is the only pointer to the allocation that the constructor
makes, and `NULL` if the constructor could not make one.  Every payload moves it
forward, nothing moves it back, and the destructor gives it to `delete[]`
wherever it is then.
-/

namespace DataDumpProtocol

/-- An event that uses the staging buffer does so at this pointer, which it
only does when there is one. -/
def Event.UsesPointer (pointer : Option Pointer) : Event → Prop
  | .storageRead target _ _ => some target = pointer
  | .payloadCopied source _ => some source = pointer
  | .body _ buffer => buffer = pointer
  | _ => True

/-- The event reads or writes behind the end of a staging buffer of this
size. -/
def Event.Overruns (size : Nat) : Event → Prop
  | .storageRead target _ contents => size < target.offset + contents.length
  | .payloadCopied source count => size < source.offset + count
  | _ => False

instance Event.decidableOverruns (size : Nat) :
    DecidablePred (Event.Overruns size)
  | .storageRead _ _ _ | .payloadCopied _ _ => Nat.decLt _ _
  | .body _ _ | .polled | .received _ | .blockReceived _ | .sent _ _
  | .blockStored _ _ | .storageErased _ _ | .notified _ | .transferStarted _ _
  | .serverStarted | .serverStopped => .isFalse id

theorem copied_eq_zero
    {events : List Event}
    (silent : ∀ event ∈ events, event.copiesPayload = false) :
    copied events = 0 := by
  apply List.sum_eq_zero
  intro size present
  obtain ⟨event, inEvents, rfl⟩ := List.mem_map.mp present
  have silent := silent event inEvents
  cases event with
  | payloadCopied => simp [Event.copiesPayload] at silent
  | _ => rfl

namespace DDServer

/-- `~DDServer`: what is given to `delete[]`, if it is called. -/
def destructor (server : DDServer) : Option Pointer :=
  match server.internalBuffer with
  | some pointer => some pointer
  | none => none

theorem destructor_eq (server : DDServer) :
    server.destructor = server.internalBuffer := by
  unfold destructor
  split <;> simp [*]

/-- The pointer that so many copied bytes have moved the allocation's to. -/
def moved (parameters : Parameters) (count : Nat) : Option Pointer :=
  (allocate (stagingSize parameters)).map fun pointer => pointer.advance count

theorem moved_eq
    {parameters : Parameters}
    (room : 5 ≤ parameters.maxPacketlen.toNat)
    (count : Nat) :
    moved parameters count = some (staging.advance count) := by
  rw [moved, allocate_stagingSize room]
  rfl

theorem map_advance_moved
    (parameters : Parameters)
    (count size : Nat) :
    (moved parameters count).map (fun pointer => pointer.advance size) =
      moved parameters (count + size) := by
  rw [moved, moved, Option.map_map]
  exact congrArg (Option.map · _)
    (funext fun _ => Pointer.advance_advance _ _ _)

theorem offset_of_moved
    {parameters : Parameters}
    {count : Nat}
    {pointer : Pointer}
    (there : some pointer = moved parameters count) :
    pointer.offset = count := by
  unfold moved allocate at there
  split at there
  next =>
    obtain rfl := Option.some.inj there
    exact Nat.zero_add count
  next => cases there

/-- The pointer is where the payloads that were copied have moved it. -/
structure Points
    (parameters : Parameters)
    (server : DDServer)
    (trace : List Event) : Prop where
  buffer : server.internalBuffer = moved parameters (copied trace)
  uses : Trace.Every
    (fun before event => event.UsesPointer (moved parameters (copied before)))
    trace
  positive : ∀ event ∈ trace, event.copiesPayload = true →
    0 < event.copiedSize

section Kept

variable {parameters : Parameters} {server server' : DDServer}
variable {env : Environment} {trace events : List Event}

/-- A step that copies nothing leaves the pointer where it is. -/
theorem Points.kept
    (points : server.Points parameters trace)
    (buffer : server'.internalBuffer = server.internalBuffer)
    (uses : ∀ event ∈ events, event.UsesPointer server.internalBuffer)
    (silent : ∀ event ∈ events, event.copiesPayload = false) :
    server'.Points parameters (trace ++ events) := by
  refine ⟨?_, points.uses.append ?_, ?_⟩
  · rw [buffer, points.buffer, copied_append, copied_eq_zero silent,
      Nat.add_zero]
  · intro before event after split
    have earlier : copied before = 0 :=
      copied_eq_zero fun other present =>
        silent other (by simp [split, present])
    rw [copied_append, earlier, Nat.add_zero, ← points.buffer]
    exact uses event (by simp [split])
  · intro event present copies
    rcases List.mem_append.mp present with before | now
    · exact points.positive event before copies
    · exact absurd ((silent event now).symm.trans copies) (by simp)

theorem Points.fillBlock
    {source : Pointer}
    (points : server.Points parameters trace)
    (sound : server.Sound parameters)
    (here : server.point = .enter .block)
    (atSource : server.internalBuffer = some source)
    (buffer : server'.internalBuffer =
      some (source.advance server.dataSizeCopiedToPacket)) :
    server'.Points parameters
      (trace ++ .body .block (some source) :: server.copyEvent) := by
  have room : 5 ≤ server.maxPacketSize :=
    Nat.le_trans (by omega) (sound.room_of_enter here)
  have start := points.buffer
  rw [atSource] at start
  rw [copyEvent_eq room sound.byteSized atSource]
  by_cases empty : server.dataSizeCopiedToPacket = 0
  · rw [empty, Pointer.advance_zero] at buffer
    rw [empty]
    refine points.kept (buffer.trans atSource.symm) ?_ ?_
    · simp [Event.UsesPointer, atSource]
    · simp [Event.copiesPayload]
  · have size := Nat.pos_of_ne_zero empty
    rw [if_pos size]
    constructor
    case buffer =>
      have next := map_advance_moved parameters (copied trace)
        server.dataSizeCopiedToPacket
      rw [← start] at next
      rw [buffer, copied_append]
      simpa [copied, Event.copiedSize] using next
    case uses =>
      rw [List.append_cons]
      refine Trace.every_concat.mpr
        ⟨Trace.every_concat.mpr ⟨points.uses, start⟩, ?_⟩
      simpa [Event.UsesPointer, copied, Event.copiedSize] using start
    case positive =>
      simp only [List.mem_append, List.mem_cons, List.not_mem_nil, or_false]
      rintro event (before | rfl | rfl) copies
      · exact points.positive event before copies
      · simp [Event.copiesPayload] at copies
      · exact size

theorem Moves.points
    (moves : server.Moves env server' events)
    (sound : server.Sound parameters)
    (points : server.Points parameters trace) :
    server'.Points parameters (trace ++ events) := by
  cases moves with
  | shell shell =>
      obtain ⟨_, _, _, _, rfl, -⟩ := shell.unchanged
      exact points.kept rfl (by simp) (by simp)
  | fillBlock here buffer => exact points.fillBlock sound here buffer rfl
  | readStorage here _ buffer | readNothing here buffer =>
      refine points.kept rfl ?_ (by simp [Event.copiesPayload])
      simp [Event.UsesPointer, buffer]
  | retry here unsent =>
      refine points.kept rfl ?_ ?_ <;> intro event present
      · obtain ⟨frame, rfl⟩ := unsent event present
        trivial
      · obtain ⟨frame, rfl⟩ := unsent event present
        rfl
  | giveUp here givesUp =>
      refine points.kept rfl ?_ ?_ <;> intro event present
      · rcases givesUp.mem present with rfl | ⟨frame, rfl⟩ | rfl <;> trivial
      · rcases givesUp.mem present with rfl | ⟨frame, rfl⟩ | rfl <;> rfl
  | _ =>
      refine points.kept rfl ?_ ?_
      · simp +contextual [or_imp, Event.UsesPointer]
      · simp +contextual [or_imp, Event.copiesPayload]

theorem Calls.points
    (calls : server.Calls server' events)
    (points : server.Points parameters trace) :
    server'.Points parameters (trace ++ events) := by
  obtain ⟨-, calm⟩ := calls
  refine points.kept rfl ?_ ?_ <;> intro event present
  · rcases calm event present with rfl | rfl <;> trivial
  · rcases calm event present with rfl | rfl <;> rfl

theorem points_of_reaches
    {admits : DDServer → List Event → Action → Prop}
    {heap : Heap}
    (reaches : machine.Reaches admits (new parameters heap) server trace) :
    server.Points parameters trace := by
  have initial : (new parameters heap).internalBuffer = moved parameters 0 :=
    (congrFun Option.map_id _).symm
  refine invariant_of_reaches reaches _ ⟨initial, Trace.every_nil _, by simp⟩ ?_
  intro server trace action server' events sound points _ steps
  cases steps with
  | fsm moves => exact moves.points sound points
  | call calls => exact calls.points points

/-- A copied payload has bytes. -/
theorem Points.copied_eq_zero_iff
    (points : server.Points parameters trace) :
    copied trace = 0 ↔ ∀ event ∈ trace, event.copiesPayload = false := by
  refine ⟨fun unmoved event present => ?_, copied_eq_zero⟩
  by_contra copies
  have copies : event.copiesPayload = true := by simpa using copies
  have positive := points.positive event present copies
  cases event with
  | payloadCopied source size =>
      have some_ := le_copied present
      simp only [Event.copiedSize] at positive
      omega
  | _ => simp [Event.copiesPayload] at copies

/-- Payloads are copied one behind the other. -/
theorem Points.payload_le
    {source : Pointer}
    {size : Nat}
    (points : server.Points parameters trace)
    (present : .payloadCopied source size ∈ trace) :
    source.offset + size ≤ copied trace := by
  obtain ⟨before, after, rfl⟩ := List.append_of_mem present
  have there : some source = moved parameters (copied before) :=
    points.uses before _ after rfl
  rw [offset_of_moved there, copied_append]
  exact Nat.add_le_add_left (le_copied List.mem_cons_self) _

end Kept

/-- In every run, whatever locks, timers, peer and callbacks do: each read of
storage, each payload and each body finds the pointer moved by exactly the bytes
that were copied before, and the destructor gives `delete[]` the allocation
exactly when the constructor made one and no payload was ever copied. -/
theorem deletes_allocation_iff
    {parameters : Parameters}
    {heap : Heap}
    {server : DDServer}
    {trace : List Event}
    (reaches : machine.Reaches (fun _ _ _ => True) (new parameters heap) server
      trace) :
    Trace.Every
      (fun before event => event.UsesPointer (moved parameters (copied before)))
      trace ∧
    (server.destructor = some staging ↔
      allocate (stagingSize parameters) = some staging ∧
        ∀ event ∈ trace, event.copiesPayload = false) := by
  have points := points_of_reaches reaches
  refine ⟨points.uses, ?_⟩
  rw [destructor_eq, points.buffer, ← points.copied_eq_zero_iff, moved]
  unfold allocate
  split
  next => simp [Pointer.advance, staging]
  next => simp

/-- After the example's transaction, the destructor gives `delete[]` a pointer
into the middle of its allocation. -/
theorem deletes_allocation_example :
    (exampleRun exampleTransaction).1.destructor ≠ some staging := by
  have atMost : ∀ action ∈ exampleTransaction, action.ReadsAtMost := by
    simpa [exampleTransaction, Action.ReadsAtMost, or_imp, forall_and] using
      ⟨plain_readsAtMost 6, exampleBlock_readsAtMost _⟩
  have reaches := (reaches_exampleRun atMost).mono fun _ _ _ _ => trivial
  rw [Ne, (deletes_allocation_iff reaches).2]
  decide +kernel

end DDServer

end DataDumpProtocol

import Mathlib.Algebra.Order.BigOperators.Group.List
import Mathlib.Algebra.Order.Group.Nat
import DataDumpProtocol.Machines.ServerMoves

/-!
# The staging buffer's window

The `BLOCK` body moves `internalBuffer` forward with every frame, and nothing
ever moves it back.  The window therefore stays inside the allocation exactly
in the runs that serve no further request once a payload has been copied.
-/

namespace DataDumpProtocol

open FsmState

namespace Event

/-- The number of bytes that an event copies out of the staging buffer. -/
def copiedSize : Event → Nat
  | .payloadCopied _ size => size
  | _ => 0

/-- The event copies a payload out of the staging buffer. -/
def copiesPayload : Event → Bool
  | .payloadCopied _ _ => true
  | _ => false

/-- The event begins the body that awaits a request. -/
def awaitsRequest : Event → Bool
  | .body .request _ => true
  | _ => false

/-- An access to the staging buffer lies inside its `size` bytes, and a
transaction begins at its start. -/
def InWindow (size : Nat) : Event → Prop
  | .storageRead target maxSize _ =>
      target.block = DDServer.staging.block ∧
        target.offset + maxSize ≤ size
  | .payloadCopied source count =>
      source.block = DDServer.staging.block ∧ source.offset + count ≤ size
  | .body .request buffer => buffer = some DDServer.staging
  | _ => True

/-- The event neither accesses the staging buffer nor awaits a request. -/
def Aside : Event → Prop
  | .storageRead _ _ _ | .payloadCopied _ _ | .body .request _ => False
  | _ => True

theorem inWindow_of_aside
    {event : Event}
    (aside : event.Aside)
    (size : Nat) :
    event.InWindow size := by
  unfold Aside at aside
  split at aside <;> simp_all [InWindow]

end Event

/-- The number of bytes copied out of the staging buffer so far. -/
def copied (trace : List Event) : Nat :=
  (trace.map Event.copiedSize).sum

@[simp] theorem copied_append (before after : List Event) :
    copied (before ++ after) = copied before + copied after := by
  simp [copied]

theorem le_copied
    {trace : List Event}
    {source : Pointer}
    {size : Nat}
    (present : .payloadCopied source size ∈ trace) :
    size ≤ copied trace :=
  List.single_le_sum (fun _ _ => Nat.zero_le _) _
    (List.mem_map.mpr ⟨_, present, rfl⟩)

theorem Event.copied_eq_zero_of_aside
    {events : List Event}
    (aside : ∀ event ∈ events, event.Aside) :
    copied events = 0 := by
  apply List.sum_eq_zero
  intro size present
  obtain ⟨event, inEvents, rfl⟩ := List.mem_map.mp present
  cases event with
  | payloadCopied => exact absurd (aside _ inEvents) id
  | _ => rfl

/-- No request is awaited once a payload has been copied. -/
def ServesOnce (trace : List Event) : Prop :=
  trace.Pairwise fun earlier later =>
    earlier.copiesPayload = true → later.awaitsRequest = false

instance (trace : List Event) : Decidable (ServesOnce trace) :=
  inferInstanceAs (Decidable (trace.Pairwise _))

namespace DDServer

/-- The storage callback writes at most as many bytes as it is asked for. -/
def Action.ReadsAtMost : Action → Prop
  | .fsm env => ∀ maxSize, (env.stored maxSize).length ≤ maxSize
  | _ => True

theorem stagingSize_eq
    {parameters : Parameters}
    (room : 5 ≤ parameters.maxPacketlen.toNat) :
    stagingSize parameters =
      (parameters.maxPacketlen.toNat - 5) *
        parameters.blocksPerTransaction.toNat :=
  sizeMul_sizeSub_eq _ room parameters.maxPacketlen.isLt

section ReadSize

variable {parameters : Parameters} {server : DDServer}
variable (sound : server.Sound parameters)

include sound

/-- The agreed number of blocks is at most the server's own. -/
theorem Sound.negotiated_blocks_le :
    server.negotiated.clientConfig.maxBlocksPerTransaction.toNat ≤
      parameters.blocksPerTransaction.toNat := by
  have own : server.serverConfig.maxBlocksPerTransaction =
      parameters.blocksPerTransaction := by
    rw [sound.serverConfig]
    rfl
  change (ite (_ < _) _ _ : BlocksPerTransaction).toNat ≤ _
  rw [own]
  split
  next less => exact Nat.le_of_lt less
  next => exact Nat.le_refl _

theorem Sound.readSize_eq
    (room : 5 ≤ parameters.maxPacketlen.toNat) :
    server.readSize =
      (parameters.maxPacketlen.toNat - 5) *
        server.negotiated.clientConfig.maxBlocksPerTransaction.toNat := by
  rw [readSize, sound.maxPacketSize]
  exact sizeMul_sizeSub_eq _ room parameters.maxPacketlen.isLt

/-- A read from the start of the staging buffer stays inside it. -/
theorem Sound.readSize_le
    (room : 5 ≤ parameters.maxPacketlen.toNat) :
    server.readSize ≤ stagingSize parameters := by
  rw [sound.readSize_eq room, stagingSize_eq room]
  exact Nat.mul_le_mul_left _ sound.negotiated_blocks_le

end ReadSize

/-- What a run that serves once keeps about the window: nothing is copied
before the `BLOCK` body, and the bytes left to copy lie inside it. -/
structure Inside
    (parameters : Parameters)
    (server : DDServer)
    (copiedSize : Nat) : Prop where
  ahead : 0 < copiedSize → ¬server.toParty.Holds .response
  served : 0 < copiedSize →
    ∀ request, server.point ≠ .body (.requestReceive request)
  within : copiedSize + server.internalBufferLen ≤ stagingSize parameters

/-- What every run keeps about the window. -/
structure Windowed
    (parameters : Parameters)
    (server : DDServer)
    (trace : List Event) : Prop where
  buffer : server.internalBuffer = some (staging.advance (copied trace))
  positive : ∀ source size, .payloadCopied source size ∈ trace → 0 < size
  moved : trace.Pairwise fun earlier later =>
    ∀ source size buffer, earlier = .payloadCopied source size →
      later = .body .request buffer → buffer ≠ some staging
  inside : ServesOnce trace → server.Inside parameters (copied trace)
  events : ServesOnce trace →
    ∀ event ∈ trace, event.InWindow (stagingSize parameters)

section Kept

variable {parameters : Parameters} {server server' : DDServer}
variable {env : Environment} {trace events : List Event}

/-- What a step has to show about its own events. -/
theorem Windowed.extend
    (windowed : server.Windowed parameters trace)
    (buffer : server'.internalBuffer =
      some (staging.advance (copied trace + copied events)))
    (positive : ∀ source size, .payloadCopied source size ∈ events → 0 < size)
    (alone : ∀ source size, .payloadCopied source size ∈ events →
      ∀ buffer, .body .request buffer ∉ events)
    (requested : ∀ buffer, .body .request buffer ∈ events →
      buffer = server.internalBuffer)
    (inside : ServesOnce trace → ServesOnce (trace ++ events) →
      server'.Inside parameters (copied trace + copied events) ∧
        ∀ event ∈ events, event.InWindow (stagingSize parameters)) :
    server'.Windowed parameters (trace ++ events) := by
  have earlier (serves : ServesOnce (trace ++ events)) : ServesOnce trace :=
    (List.pairwise_append.mp serves).1
  refine ⟨?_, ?_, ?_, ?_, ?_⟩
  · rw [buffer, copied_append]
  · intro source size present
    rcases List.mem_append.mp present with before | now
    · exact windowed.positive source size before
    · exact positive source size now
  · refine List.pairwise_append.mpr ⟨windowed.moved, ?_, ?_⟩
    · refine List.Pairwise.imp_of_mem (R := fun _ _ => True) ?_
        (List.pairwise_of_forall fun _ _ => trivial)
      rintro _ _ copying requesting - source size buffer rfl rfl
      exact absurd requesting (alone source size copying buffer)
    · rintro _ copying _ requesting source size buffer rfl rfl start
      rw [requested buffer requesting, windowed.buffer] at start
      have offset := congrArg Pointer.offset (Option.some.inj start)
      have moved := le_copied copying
      have nonempty := windowed.positive _ _ copying
      simp [staging] at offset
      omega
  · intro serves
    rw [copied_append]
    exact (inside (earlier serves) serves).1
  · intro serves event present
    rcases List.mem_append.mp present with before | now
    · exact windowed.events (earlier serves) event before
    · exact (inside (earlier serves) serves).2 event now

/-- A step that neither touches the staging buffer nor awaits a request. -/
theorem Windowed.aside
    (windowed : server.Windowed parameters trace)
    (aside : ∀ event ∈ events, event.Aside)
    (buffer : server'.internalBuffer = server.internalBuffer)
    (inside : server.Inside parameters (copied trace) →
      server'.Inside parameters (copied trace)) :
    server'.Windowed parameters (trace ++ events) := by
  have nothing := Event.copied_eq_zero_of_aside aside
  apply windowed.extend
  · rw [buffer, windowed.buffer, nothing, Nat.add_zero]
  · intro source size present
    exact absurd (aside _ present) id
  · intro source size present
    exact absurd (aside _ present) id
  · intro pointer present
    exact absurd (aside _ present) id
  · intro serves _
    rw [nothing]
    exact ⟨inside (windowed.inside serves),
      fun event present => Event.inWindow_of_aside (aside event present) _⟩

/-- Awaiting a request is harmless as long as nothing has been copied. -/
theorem Windowed.awaitRequest
    (windowed : server.Windowed parameters trace) :
    (server.goto (.body (.requestReceive {}))).Windowed parameters
      (trace ++ [.body .request server.internalBuffer]) := by
  apply windowed.extend
  · simpa [goto, copied, Event.copiedSize] using windowed.buffer
  · simp
  · simp
  · simp
  · intro serves serves'
    have apart := (List.pairwise_append.mp serves').2.2
    have unmoved : copied trace = 0 := by
      apply List.sum_eq_zero
      intro size present
      obtain ⟨event, before, rfl⟩ := List.mem_map.mp present
      cases event with
      | payloadCopied source size =>
          have served := apart _ before _ (List.mem_singleton_self _) rfl
          simp [Event.awaitsRequest] at served
      | _ => rfl
    have within := (windowed.inside serves).within
    rw [unmoved] at within ⊢
    refine ⟨⟨by simp [copied, Event.copiedSize],
      by simp [copied, Event.copiedSize], within⟩, ?_⟩
    intro event present
    obtain rfl := List.mem_singleton.mp present
    simp [Event.InWindow, windowed.buffer, unmoved]

/-- A read fills the window from its start. -/
theorem Windowed.read
    {target : Pointer}
    {contents : List Byte}
    (windowed : server.Windowed parameters trace)
    (sound : server.Sound parameters)
    (room : 5 ≤ parameters.maxPacketlen.toNat)
    (here : server.point = .enter .response)
    (atTarget : server.internalBuffer = some target)
    (atMost : contents.length ≤ server.readSize)
    (buffer : server'.internalBuffer = server.internalBuffer)
    (length : server'.internalBufferLen = contents.length) :
    server'.Windowed parameters
      (trace ++ [.body .response server.internalBuffer,
        .storageRead target server.readSize contents]) := by
  have fits := sound.readSize_le room
  apply windowed.extend
  · simpa [copied, Event.copiedSize] using buffer.trans windowed.buffer
  · simp
  · simp
  · simp
  · intro serves _
    have unmoved : copied trace = 0 := by
      by_contra moved
      exact (windowed.inside serves).ahead (Nat.pos_of_ne_zero moved)
        (.inr (.inr (.inr (.inl here))))
    have start := windowed.buffer
    rw [unmoved, atTarget] at start
    obtain rfl := Option.some.inj start
    rw [unmoved]
    refine ⟨⟨by simp [copied, Event.copiedSize],
      by simp [copied, Event.copiedSize], ?_⟩, ?_⟩
    · rw [length]
      simp [copied, Event.copiedSize]
      omega
    · intro event present
      simp only [List.mem_cons, List.not_mem_nil, or_false] at present
      rcases present with rfl | rfl
      · trivial
      · exact ⟨rfl, by simpa [staging] using fits⟩

/-- A block's payload is copied from the window and moves its start. -/
theorem Windowed.fillBlock
    {source : Pointer}
    (windowed : server.Windowed parameters trace)
    (sound : server.Sound parameters)
    (here : server.point = .enter .block)
    (atSource : server.internalBuffer = some source)
    (buffer : server'.internalBuffer =
      some (source.advance server.dataSizeCopiedToPacket))
    (length : server'.internalBufferLen =
      server.internalBufferLen - server.dataSizeCopiedToPacket)
    (paced : server'.currentState = .block ∧ server'.nextState ≠ .response)
    (point : server'.point = .body (.blockSend server.blockPacket)) :
    server'.Windowed parameters
      (trace ++ .body .block (some source) :: server.copyEvent) := by
  have room : 5 ≤ server.maxPacketSize := by
    have := sound.room_of_enter here
    omega
  have size_le : server.dataSizeCopiedToPacket ≤ server.internalBufferLen := by
    rw [dataSizeCopiedToPacket_eq room]
    exact Nat.min_le_left _ _
  have start := windowed.buffer
  rw [atSource] at start
  obtain rfl := Option.some.inj start
  rw [copyEvent_eq room sound.byteSized atSource]
  have size_eq : copied (.body .block (some (staging.advance (copied trace))) ::
      if 0 < server.dataSizeCopiedToPacket then
        [.payloadCopied (staging.advance (copied trace))
          server.dataSizeCopiedToPacket] else []) =
      server.dataSizeCopiedToPacket := by
    split
    next => simp [copied, Event.copiedSize]
    next => simp [copied, Event.copiedSize]; omega
  apply windowed.extend
  · rw [buffer, size_eq, Pointer.advance_advance]
  · intro source size present
    split at present
    next => simp at present; omega
    next => simp at present
  · intro source size _ pointer present
    split at present <;> simp at present
  · intro pointer present
    split at present <;> simp at present
  · intro serves _
    have within := (windowed.inside serves).within
    rw [size_eq]
    refine ⟨⟨?_, ?_, ?_⟩, ?_⟩
    · rintro - (current | next | stored | entered | leaving)
      · simp [paced.1] at current
      · exact paced.2 next.symm
      · simp [point] at stored
      · simp [point] at entered
      · simp [point] at leaving
    · simp [point]
    · rw [length]
      omega
    · intro event present
      split at present
      next =>
        simp only [List.mem_cons, List.not_mem_nil, or_false] at present
        rcases present with rfl | rfl
        · trivial
        · refine ⟨rfl, ?_⟩
          simp [staging]
          omega
      next =>
        obtain rfl := List.mem_singleton.mp present
        trivial

/-- A move that leaves the request loop alone does not bring back
`RESPONSE`. -/
theorem Inside.kept
    {copiedSize : Nat}
    (inside : server.Inside parameters copiedSize)
    (moves : server.Moves env server' events)
    (awaits : ∀ request, server'.point = .body (.requestReceive request) →
      ∃ request', server.point = .body (.requestReceive request'))
    (length : server'.internalBufferLen ≤ server.internalBufferLen) :
    server'.Inside parameters copiedSize := by
  have within := inside.within
  refine ⟨?_, ?_, by omega⟩
  · intro positive holds
    have notYet := inside.ahead positive
    rcases moves.holds holds notYet with
      impossible | ⟨impossible, -⟩ | ⟨body, here, response, -⟩
    · simp at impossible
    · simp at impossible
    · cases body <;> simp [ServerBody.state, successor] at response
      exact inside.served positive _ here
  · intro positive request here
    obtain ⟨request', before⟩ := awaits request here
    exact inside.served positive request' before

theorem Moves.windowed
    (moves : server.Moves env server' events)
    (sound : server.Sound parameters)
    (room : 5 ≤ parameters.maxPacketlen.toNat)
    (atMost : ∀ maxSize, (env.stored maxSize).length ≤ maxSize)
    (windowed : server.Windowed parameters trace) :
    server'.Windowed parameters (trace ++ events) := by
  have paced := moves.paced sound.paced
  have moves' := moves
  cases moves with
  | shell shell =>
      have outside := shell.point_ne_body
      obtain ⟨_, _, _, _, rfl, -⟩ := shell.unchanged
      refine windowed.aside (by simp) rfl fun inside => ?_
      exact inside.kept moves'
        (fun request here => absurd here (outside _)) (Nat.le_refl _)
  | awaitRequest => exact windowed.awaitRequest
  | readStorage here _ buffer =>
      exact windowed.read sound room here buffer (atMost _) rfl rfl
  | readNothing here buffer =>
      exact windowed.read sound room here buffer (atMost _) rfl rfl
  | fillBlock here buffer =>
      have current : server.currentState = .block :=
        (sound.paced.current_of_enter here (by simp)).symm
      refine windowed.fillBlock sound here buffer rfl rfl ⟨current, ?_⟩ rfl
      intro next
      have follows := sound.paced.follows
      rw [current, next] at follows
      simp [Follows, successor, Free] at follows
  | poll here polls =>
      refine windowed.aside (by simp [Event.Aside]) rfl fun inside => ?_
      refine inside.kept moves' ?_ (Nat.le_refl _)
      cases polls <;> simp [goto, here]
  | retry here unsent =>
      refine windowed.aside ?_ rfl id
      intro event present
      obtain ⟨frame, rfl⟩ := unsent event present
      trivial
  | giveUp here givesUp =>
      refine windowed.aside ?_ rfl fun inside =>
        inside.kept moves' (by simp [goto]) (Nat.le_refl _)
      intro event present
      rcases givesUp.mem present with rfl | ⟨frame, rfl⟩ | rfl <;> trivial
  | terminate =>
      refine windowed.aside ?_ rfl fun inside =>
        inside.kept moves' (by simp) (Nat.zero_le _)
      simp +contextual [or_imp, Event.Aside]
  | idle =>
      exact windowed.aside (by simp [Event.Aside]) rfl fun inside =>
        inside.kept moves' (by simp) (Nat.zero_le _)
  | _ =>
      refine windowed.aside ?_ rfl fun inside =>
        inside.kept moves' (by simp [goto]) (Nat.le_refl _)
      simp +contextual [or_imp, Event.Aside]

theorem Calls.windowed
    (calls : server.Calls server' events)
    (windowed : server.Windowed parameters trace) :
    server'.Windowed parameters (trace ++ events) := by
  have held {state : FsmState} := @calls.held _ _ _ state
  obtain ⟨-, calm⟩ := calls
  refine windowed.aside ?_ rfl fun inside => ⟨?_, inside.served, inside.within⟩
  · intro event present
    rcases calm event present with rfl | rfl <;> trivial
  · intro positive holds
    exact inside.ahead positive (held holds (.inl rfl))

theorem windowed_new
    {parameters : Parameters}
    (room : 5 ≤ parameters.maxPacketlen.toNat)
    (heap : Heap) :
    (new parameters heap).Windowed parameters [] where
  buffer := new_internalBuffer room heap
  positive := by simp
  moved := .nil
  inside _ := ⟨by simp [copied], by simp [copied], Nat.zero_le _⟩
  events := by simp

end Kept

/-- Every access to the staging buffer lies inside the allocation, and every
transaction begins at its start, exactly in the runs that await no further
request once a payload has been copied. -/
theorem window_iff_servesOnce
    {parameters : Parameters}
    {heap : Heap}
    {server : DDServer}
    {trace : List Event}
    (room : 11 ≤ parameters.maxPacketlen.toNat)
    (reaches : machine.Reaches (fun _ _ action => action.ReadsAtMost)
      (new parameters heap) server trace) :
    (∀ event ∈ trace, event.InWindow
      ((parameters.maxPacketlen.toNat - 5) *
        parameters.blocksPerTransaction.toNat)) ↔
      ServesOnce trace := by
  have windowed : server.Windowed parameters trace := by
    apply invariant_of_reaches reaches _ (windowed_new (by omega) heap)
    intro server trace action server' events sound windowed admitted steps
    cases steps with
    | fsm moves => exact moves.windowed sound (by omega) admitted windowed
    | call calls => exact calls.windowed windowed
  rw [← stagingSize_eq (by omega)]
  constructor
  · intro inWindow
    apply windowed.moved.imp_of_mem
    intro earlier later _ present moved copies
    cases earlier with
    | payloadCopied source size =>
        by_contra awaits
        unfold Event.awaitsRequest at awaits
        split at awaits
        next buffer =>
          exact moved source size buffer rfl rfl (inWindow _ present)
        next => simp at awaits
    | _ => simp [Event.copiesPayload] at copies
  · exact windowed.events

/-! ## A run of two transactions -/

/-- Parameters of a server with a staging buffer of six bytes. -/
def exampleParameters : Parameters where
  transactionID := 7
  blocksPerTransaction := 1
  maxPacketlen := 11
  ackTimeout := 5

/-- Steps of `FSMLoop` in which every callback answers by default. -/
def plain (count : Nat) : List Action :=
  List.replicate count (.fsm {})

/-- A step of `FSMLoop` in which a frame waits. -/
def hears (frame : List Byte) : Action :=
  .fsm { incoming := frame }

/-- From the `REQUEST` body to the block, which is the only one. -/
def exampleBlock (contents : List Byte) : List Action :=
  plain 1 ++ [hears [1, 7, 0, 0, 0, 1, 11, 5, 0, 0, 0]] ++ plain 7 ++
    [.fsm { stored := contents.take }] ++ plain 9 ++
    [hears [3, 7, 0, 0, 0, 1, 11, 5, 0, 0, 0]] ++ plain 9

/-- From the acknowledgement back to the `REQUEST` body. -/
def exampleAck : List Action :=
  hears [5, 7, 0, 0, 0, 0, 0, 0, 0, 0, 0] :: plain 15

/-- The first transaction up to its block. -/
def exampleTransaction : List Action :=
  .startServer {} :: plain 6 ++ exampleBlock [1, 2, 3, 4, 5, 6]

/-- What a list of actions makes of a fresh server. -/
def exampleRun (actions : List Action) : DDServer × List Event :=
  machine.execute (new exampleParameters fun _ _ => 0) [] actions

theorem reaches_exampleRun
    {actions : List Action}
    (atMost : ∀ action ∈ actions, action.ReadsAtMost) :
    machine.Reaches (fun _ _ action => action.ReadsAtMost)
      (new exampleParameters fun _ _ => 0)
      (exampleRun actions).1 (exampleRun actions).2 :=
  Machine.Reaches.execute actions .start (Machine.admitted_of_forall atMost)

theorem plain_readsAtMost (count : Nat) :
    ∀ action ∈ plain count, action.ReadsAtMost := by
  simp [plain, Action.ReadsAtMost]

theorem exampleBlock_readsAtMost (contents : List Byte) :
    ∀ action ∈ exampleBlock contents, action.ReadsAtMost := by
  simp [exampleBlock, plain, hears, Action.ReadsAtMost, or_imp, forall_and]

/-- One transaction keeps its window. -/
theorem window_exampleTransaction :
    .storageRead ⟨0, 0⟩ 6 [1, 2, 3, 4, 5, 6] ∈
        (exampleRun exampleTransaction).2 ∧
      ∀ event ∈ (exampleRun exampleTransaction).2, event.InWindow 6 := by
  refine ⟨by decide +kernel, ?_⟩
  refine (window_iff_servesOnce (by decide)
    (reaches_exampleRun (by
      simpa [exampleTransaction, Action.ReadsAtMost, or_imp, forall_and] using
        ⟨plain_readsAtMost 6, exampleBlock_readsAtMost _⟩))).mpr ?_
  decide +kernel

/-- A second transaction reads from behind the end of the allocation. -/
theorem window_left_exampleTransactions :
    ∃ server trace,
      machine.Reaches (fun _ _ action => action.ReadsAtMost)
        (new exampleParameters fun _ _ => 0) server trace ∧
      ∃ event ∈ trace, ¬event.InWindow 6 := by
  refine ⟨_, _, @reaches_exampleRun
    (exampleTransaction ++ exampleAck ++ exampleBlock [7, 8]) ?_,
    .storageRead ⟨0, 6⟩ 6 [7, 8], by decide +kernel, ?_⟩
  · have first := exampleBlock_readsAtMost [1, 2, 3, 4, 5, 6]
    have second := exampleBlock_readsAtMost [7, 8]
    have starting := plain_readsAtMost 6
    have ending := plain_readsAtMost 15
    simp only [exampleTransaction, exampleAck, List.cons_append,
      List.append_assoc, List.mem_cons, List.mem_append]
    rintro action (rfl | inStarting | inFirst | rfl | inEnding | inSecond)
    · trivial
    · exact starting _ inStarting
    · exact first _ inFirst
    · simp [hears, Action.ReadsAtMost]
    · exact ending _ inEnding
    · exact second _ inSecond
  · simp [Event.InWindow]

end DDServer

end DataDumpProtocol

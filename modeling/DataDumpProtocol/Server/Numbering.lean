import DataDumpProtocol.Server.Segmentation
import DataDumpProtocol.Server.Transmission
import DataDumpProtocol.Server.Window

/-!
# Frame numbers

The frames of a transaction are numbered by a counter of 32 bits, of which the
metadata byte takes seven.  The numbers identify the frames as long as no more
blocks are agreed on than the limit allows, which only one constructor checks,
and as long as no block is begun after one that was given up.
-/

namespace DataDumpProtocol

open FsmState

namespace Transmission

variable (transmission : Transmission) (frame : List Byte)

@[simp] theorem numbers_hand (unsent : Bool) :
    numbers
        { transmission with
          handed := transmission.handed ++ [(frame, true)]
          unsent := unsent } =
      transmission.numbers ++ [frameNumber frame] := by
  simp [numbers]

@[simp] theorem numbers_refuse (count : Nat) :
    numbers
        { transmission with
          handed := transmission.handed ++ List.replicate count (frame, false) } =
      transmission.numbers := by
  simp [numbers]

/-- The block frames are numbered from one on in sending order, within the
announced number of blocks. -/
structure Numbered (transmission : Transmission) : Prop where
  ordered : transmission.numbers =
    List.range' 1 transmission.numbers.length
  distinct : transmission.numbers.Nodup
  limited : ∀ terms ∈ transmission.announced,
    transmission.numbers.length ≤ terms.maxBlocksPerTransaction.toNat

variable {transmission : Transmission} {frame : List Byte}

/-- The next block frame carries the next number. -/
theorem Numbered.hand
    (numbered : transmission.Numbered)
    (number : frameNumber frame = transmission.numbers.length + 1)
    (limited : ∀ terms ∈ transmission.announced,
      transmission.numbers.length + 1 ≤ terms.maxBlocksPerTransaction.toNat)
    (unsent : Bool) :
    Numbered
      { transmission with
        handed := transmission.handed ++ [(frame, true)]
        unsent := unsent } := by
  have ordered : transmission.numbers ++ [frameNumber frame] =
      List.range' 1 (transmission.numbers.length + 1) := by
    rw [List.range'_1_concat, ← numbered.ordered, number, Nat.add_comm]
  constructor
  case ordered => simpa using ordered
  case distinct =>
    rw [numbers_hand, ordered]
    exact List.nodup_range'
  case limited => simpa using limited

theorem Numbered.refuse
    (numbered : transmission.Numbered)
    (count : Nat) :
    Numbered
      { transmission with
        handed :=
          transmission.handed ++ List.replicate count (frame, false) } := by
  constructor
  case ordered => simpa using numbered.ordered
  case distinct => simpa using numbered.distinct
  case limited => simpa using numbered.limited

end Transmission

namespace DDServer

/-- The announced number of blocks is within the limits. -/
def WithinLimits (terms : Terms) : Prop :=
  minBlockPerTrasactionLimit ≤ terms.maxBlocksPerTransaction ∧
    terms.maxBlocksPerTransaction ≤ maxBlockPerTrasactionLimit

/-- An initiate message is only accepted when the response announced no more
blocks than the limit, and no block is begun with bytes left while the one
before was not sent. -/
def Action.Identifies
    (server : DDServer)
    (trace : List Event) : Action → Prop
  | .fsm env =>
      (server.awaitsInitiate = true → server.Accepts .initiateBlockTransfer env →
        server.clientConfig.transactionID =
            (server.polledHeader env).transactionID →
          ∀ terms ∈ (Transmission.ofTrace trace).announced,
            terms.maxBlocksPerTransaction ≤ maxBlockPerTrasactionLimit) ∧
      (server.point = .enter .block → 0 < server.internalBufferLen →
        (Transmission.ofTrace trace).unsent = false)
  | .startServer _ | .stopServer _ => True

instance (server : DDServer) (trace : List Event) :
    (action : Action) → Decidable (action.Identifies server trace)
  | .fsm _ => inferInstanceAs (Decidable ((_ → _ → _ → _) ∧ (_ → _ → _)))
  | .startServer _ | .stopServer _ => inferInstanceAs (Decidable True)

/-- What keeps the frames of a transmission numbered. -/
structure Counting (server : DDServer) (transmission : Transmission) :
    Prop where
  fits : server.Fits
  responding : ∀ response, server.point = .body (.responseSend response) →
    1 ≤ server.clientConfig.maxBlocksPerTransaction.toNat
  agreed : server.toParty.Holds .initiateBlock ∨
      server.toParty.Holds .block →
    ∀ terms ∈ transmission.announced,
      1 ≤ terms.maxBlocksPerTransaction.toNat ∧
        server.clientConfig.maxBlocksPerTransaction.toNat ≤
          terms.maxBlocksPerTransaction.toNat
  limited : server.toParty.Holds .block →
    ∀ terms ∈ transmission.announced,
      terms.maxBlocksPerTransaction.toNat ≤ 127
  counts : server.toParty.Holds .block → transmission.unsent = false →
    0 < server.internalBufferLen →
      server.internalCounter.toNat = transmission.numbers.length + 1
  filled : ∀ packet, server.point = .body (.blockSend packet) →
    0 < packet.header.dataBufferSize.toNat →
      packet.header.getFrameNumber.toNat = transmission.numbers.length + 1 ∧
        server.internalCounter.toNat = transmission.numbers.length + 2 ∧
        ∀ terms ∈ transmission.announced,
          transmission.numbers.length + 1 ≤
            terms.maxBlocksPerTransaction.toNat
  numbered : transmission.Numbered

section Counting

variable {parameters : Parameters} {server server' : DDServer}
variable {env : Environment} {trace : List Event}
variable {transmission transmission' : Transmission}

/-- The next block carries the next number. -/
theorem Counting.next
    (counting : server.Counting transmission)
    (begun : server.Begun transmission)
    (here : server.point = .enter .block)
    (sent : transmission.unsent = false)
    (left : 0 < server.internalBufferLen) :
    server.blockPacket.header.getFrameNumber.toNat =
        transmission.numbers.length + 1 ∧
      (server.internalCounter + 1).toNat = transmission.numbers.length + 2 ∧
      ∀ terms ∈ transmission.announced,
        transmission.numbers.length + 1 ≤
          terms.maxBlocksPerTransaction.toNat := by
  have holds : server.toParty.Holds .block := .inr (.inr (.inr (.inl here)))
  have counts := counting.counts holds sent left
  obtain ⟨allowed, number⟩ := (counting.fits.limited holds).frameNumber left
  obtain ⟨terms, announced⟩ := begun.announced (.inr holds)
  have agreed := (counting.agreed (.inr holds) terms announced).2
  have limited := counting.limited holds terms announced
  refine ⟨?_, ?_, fun other same => ?_⟩
  · rw [blockPacket_getFrameNumber]
    omega
  · rw [BitVec.toNat_add, counts]
    exact Nat.mod_eq_of_lt (by simp; omega)
  · obtain rfl : terms = other := by
      rw [announced] at same
      exact Option.some.inj same
    omega

/-- A step that leaves the transmission alone. -/
theorem Counting.kept
    (counting : server.Counting transmission)
    (fits : server'.Fits)
    (responding : ∀ response, server'.point = .body (.responseSend response) →
      1 ≤ server'.clientConfig.maxBlocksPerTransaction.toNat)
    (length : server'.internalBufferLen = server.internalBufferLen ∨
      server'.internalBufferLen = 0)
    (counter : server'.internalCounter = server.internalCounter)
    (blocks : server'.clientConfig.maxBlocksPerTransaction.toNat ≤
      server.clientConfig.maxBlocksPerTransaction.toNat)
    (held : ∀ state, server'.toParty.Holds state →
      state = .initiateBlock ∨ state = .block → server.toParty.Holds state)
    (filled : ∀ packet, server'.point ≠ .body (.blockSend packet)) :
    server'.Counting transmission where
  fits := fits
  responding := responding
  agreed opened terms announced := by
    have agreed := counting.agreed
      (opened.imp (held _ · (.inl rfl)) (held _ · (.inr rfl))) terms announced
    omega
  limited holds := counting.limited (held _ holds (.inr rfl))
  counts holds sent left := by
    rw [counter]
    apply counting.counts (held _ holds (.inr rfl)) sent
    omega
  filled packet here := absurd here (filled packet)
  numbered := counting.numbered

theorem Transmits.counting
    (transmits : server.Transmits env (.ofTrace trace) server' transmission')
    (sound : server.Sound parameters)
    (begun : server.Begun (.ofTrace trace))
    (atMost : ∀ maxSize, (env.stored maxSize).length ≤ maxSize)
    (identifies : Action.Identifies server trace (.fsm env))
    (counting : server.Counting (.ofTrace trace))
    (fits : server'.Fits) :
    server'.Counting transmission' := by
  cases transmits with
  | aside _ length counter blocks held silent =>
      refine counting.kept fits (fun response here => ?_) length counter blocks
        (fun state holds inside => held state holds (.inr inside))
        fun packet here => ?_
      · simpa [ServerBody.frame] using silent _ here
      · simpa [ServerBody.frame] using silent _ here
  | stay => exact counting
  | request _ absent leaving =>
      exact
        { fits := fits
          responding := by simp [leaving]
          agreed := by
            rintro (holds | holds)
            · exact absurd rfl (absent _ holds).1
            · exact absurd rfl (absent _ holds).2
          limited := fun holds => absurd rfl (absent _ holds).2
          counts := fun holds => absurd rfl (absent _ holds).2
          filled := by simp [leaving]
          numbered := ⟨rfl, List.nodup_nil, by simp⟩ }
  | read here nonempty =>
      have absent := sound.not_holds_block (.inl here)
      have positive : 1 ≤
          server.negotiated.clientConfig.maxBlocksPerTransaction.toNat := by
        have length := List.length_pos_iff.mpr nonempty
        have most := atMost server.readSize
        by_contra none
        have zero :
            server.negotiated.clientConfig.maxBlocksPerTransaction.toNat = 0 :=
          by simpa using none
        rw [readSize, zero] at most length
        simp only [sizeMul, Nat.mul_zero, Nat.zero_mod] at most length
        omega
      exact
        { fits := fits
          responding := fun _ _ => positive
          agreed := by
            rintro (holds | holds) terms announced
            · have old := holds_of_body server holds rfl rfl rfl
              have agreed := counting.agreed (.inl old) terms announced
              exact ⟨agreed.1,
                Nat.le_trans (negotiated_blocks_le server) agreed.2⟩
            · exact absurd (holds_of_body server holds rfl rfl rfl) absent
          limited := fun holds =>
            absurd (holds_of_body server holds rfl rfl rfl) absent
          counts := fun holds =>
            absurd (holds_of_body server holds rfl rfl rfl) absent
          filled := by simp
          numbered := counting.numbered }
  | respond here =>
      have current := sound.paced.inside _ here
      have fresh := begun.fresh (.inl (.inl current))
      have absent := sound.not_holds_block (.inr ⟨_, here, rfl⟩)
      have back (holds : (server.goto (.leave .initiateBlock)).toParty.Holds
          .block) : server.toParty.Holds .block :=
        (holds_of_leave server holds rfl rfl rfl).resolve_right (by simp)
      have none : (Transmission.ofTrace trace).numbers = [] := by
        simp [Transmission.numbers, fresh]
      exact
        { fits := fits
          responding := by simp [goto]
          agreed := by
            rintro - terms announced
            obtain rfl := Option.some.inj announced
            exact ⟨counting.responding _ here, Nat.le_refl _⟩
          limited := fun holds => absurd (back holds) absent
          counts := fun holds => absurd (back holds) absent
          filled := by simp [goto]
          numbered := ⟨counting.numbered.ordered, counting.numbered.distinct,
            fun terms _ => by
              change (Transmission.ofTrace trace).numbers.length ≤ _
              simp [none]⟩ }
  | initiate here accepts agrees =>
      have current := sound.paced.inside _ here
      have fresh := begun.fresh (.inr (.inl current))
      have agreed := counting.agreed (.inl (.inl current))
      have limited := identifies.1 (by simp [awaitsInitiate, here]) accepts
        agrees
      exact
        { fits := fits
          responding := by simp
          agreed := fun _ => agreed
          limited := fun _ => limited
          counts := fun _ _ _ => by simp [Transmission.numbers, fresh]
          filled := by simp
          numbered := counting.numbered }
  | fill here =>
      have room := sound.room_of_enter here
      have size : server.dataSizeCopiedToPacket = _ :=
        dataSizeCopiedToPacket_eq (by omega)
      obtain ⟨offset, buffer⟩ := sound.buffer (by omega)
      have declared :=
        (blockPacket_holds (by omega) sound.byteSized buffer).size
      rw [Heap.length_bytes] at declared
      exact
        { fits := fits
          responding := by simp
          agreed := by
            rintro (holds | holds)
            · have old := holds_of_body server holds rfl rfl rfl
              exact counting.agreed (.inl old)
            · have old := holds_of_body server holds rfl rfl rfl
              exact counting.agreed (.inr old)
          limited := fun holds => by
            have old := holds_of_body server holds rfl rfl rfl
            exact counting.limited old
          counts := by simp
          filled := fun packet same positive => by
            obtain rfl : server.blockPacket = packet := by simpa using same
            have left : 0 < server.internalBufferLen := by omega
            exact counting.next begun here (identifies.2 here left) left
          numbered := ⟨counting.numbered.ordered, counting.numbered.distinct,
            counting.numbered.limited⟩ }
  | @hand packet payload body here holds nonempty silent =>
      have positive : 0 < packet.header.dataBufferSize.toNat :=
        holds.size ▸ List.length_pos_iff.mpr nonempty
      obtain ⟨number, counter, limited⟩ := counting.filled packet here positive
      have back {state : FsmState}
          (held : (server.goto (.body body)).toParty.Holds state) :
          server.toParty.Holds state := holds_of_body server held rfl rfl rfl
      exact
        { fits := fits
          responding := fun response same => by
            obtain rfl := Point.body.inj same
            simp [ServerBody.frame] at silent
          agreed := fun opened => counting.agreed (opened.imp back back)
          limited := fun held => counting.limited (back held)
          counts := fun _ _ _ => by
            rw [Transmission.numbers_hand, List.length_append]
            exact counter
          filled := fun other same => by
            obtain rfl := Point.body.inj same
            simp [ServerBody.frame] at silent
          numbered := counting.numbered.hand
            ((Transmission.frameNumber_blockFrame _ _).trans number) limited _ }
  | @refuse packet payload point count here holds nonempty next =>
      have back {state : FsmState}
          (held : (server.goto point).toParty.Holds state)
          (inside : state ≠ .terminate) :
          server.toParty.Holds state := by
        rcases next with rfl | rfl
        · exact held
        · exact (holds_of_leave server held rfl rfl rfl).resolve_right inside
      exact
        { fits := fits
          responding := fun response same => by
            rcases next with rfl | rfl
            · exact counting.responding response same
            · simp [goto] at same
          agreed := fun opened => counting.agreed
            (opened.imp (back · (by simp)) (back · (by simp)))
          limited := fun held => counting.limited (back held (by simp))
          counts := fun held sent left => by
            rw [Transmission.numbers_refuse]
            exact counting.counts (back held (by simp)) sent left
          filled := fun other same positive => by
            rw [Transmission.numbers_refuse]
            rcases next with rfl | rfl
            · exact counting.filled other same positive
            · simp [goto] at same
          numbered := counting.numbered.refuse _ }

theorem Calls.counting
    {events : List Event}
    (calls : server.Calls server' events)
    (counting : server.Counting transmission) :
    server'.Counting transmission := by
  have fits := calls.fits counting.fits
  have held {state : FsmState}
      (holds : server'.toParty.Holds state)
      (inside : state = .initiateBlock ∨ state = .block) :
      server.toParty.Holds state := calls.held holds (.inr inside)
  obtain ⟨-, -⟩ := calls
  exact
    { counting with
      fits := fits
      agreed := fun opened => counting.agreed
        (opened.imp (held · (.inl rfl)) (held · (.inr rfl)))
      limited := fun holds => counting.limited (held holds (.inr rfl))
      counts := fun holds => counting.counts (held holds (.inr rfl)) }

/-- `BLOCK` starts after a response that announced a number of blocks within
the limits. -/
def BlocksLimited (before : List Event) (event : Event) : Prop :=
  ∀ buffer, event = .body .block buffer →
    ∃ terms, (Transmission.ofTrace before).announced = some terms ∧
      WithinLimits terms

theorem Moves.blocksLimited
    {events : List Event}
    (moves : server.Moves env server' events)
    (begun : server.Begun (.ofTrace trace))
    (counting : server.Counting (.ofTrace trace))
    (every : Trace.Every BlocksLimited trace) :
    Trace.Every BlocksLimited (trace ++ events) := by
  apply moves.body_cases.every every
  · rintro before _ none buffer rfl
    simp [Event.isBody] at none
  · rintro state here buffer same
    obtain ⟨rfl, -⟩ := Event.body.inj same
    have holds : server.toParty.Holds .block := .inr (.inr (.inr (.inl here)))
    obtain ⟨terms, announced⟩ := begun.announced (.inr holds)
    have agreed := counting.agreed (.inr holds) terms announced
    have limited := counting.limited holds terms announced
    exact ⟨terms, announced, BitVec.le_def.mpr agreed.1,
      BitVec.le_def.mpr limited⟩

end Counting

/-- In every run in which no more blocks are agreed on than the limit, no
block is begun after one that was given up, and storage reads no more than it
is asked for: `BLOCK` only starts on a number of blocks within the limits, and
the frames of each transaction are numbered from one on. -/
theorem frame_numbers_identify
    {parameters : Parameters}
    {heap : Heap}
    {server : DDServer}
    {trace : List Event}
    (reaches : machine.Reaches
      (fun server trace action =>
        action.Identifies server trace ∧ action.ReadsAtMost)
      (new parameters heap) server trace) :
    Trace.Every BlocksLimited trace ∧ (Transmission.ofTrace trace).Numbered := by
  obtain ⟨-, counting, every⟩ := transmitting_of_reaches reaches
    (fun server trace =>
      server.Counting (.ofTrace trace) ∧ Trace.Every BlocksLimited trace)
    ⟨⟨fits_of_empty rfl, by simp [new], by simp [new, Party.Holds],
        by simp [new, Party.Holds], by simp [new, Party.Holds], by simp [new],
        ⟨rfl, List.nodup_nil, by simp [Transmission.ofTrace]⟩⟩,
      Trace.every_nil _⟩
    (by
      rintro server trace env server' events sound begun ⟨counting, every⟩
        ⟨identifies, atMost⟩ moves transmits
      have fits := moves.fits sound atMost counting.fits
      exact ⟨transmits.counting sound begun atMost identifies counting fits,
        moves.blocksLimited begun counting every⟩)
    (by
      rintro server trace server' events calls entered ⟨counting, every⟩
      rw [entered]
      exact ⟨calls.counting counting,
        calls.every (by simp [BlocksLimited]) (by simp [BlocksLimited]) every⟩)
  exact ⟨every, counting.numbered⟩

/-! ## Runs within and beyond the limit -/

/-- Parameters of a server that agrees on this many blocks of six bytes. -/
def blocksParameters (blocks : BlocksPerTransaction) : Parameters where
  transactionID := 7
  blocksPerTransaction := blocks
  maxPacketlen := 11
  ackTimeout := 5

/-- A transaction of eight bytes in two frames, with a client that asks for
this many blocks. -/
def twoFrames (blocks : BlocksPerTransaction) : List Action :=
  .startServer {} :: plain 7 ++
    [hears [1, 7, 0, 0, 0, blocks, 11, 5, 0, 0, 0]] ++ plain 7 ++
    [.fsm { stored := [1, 2, 3, 4, 5, 6, 7, 8].take }] ++ plain 9 ++
    [hears [3, 7, 0, 0, 0, blocks, 11, 5, 0, 0, 0]] ++ plain 17

/-- What those actions make of a fresh server. -/
def twoFramesRun (blocks : BlocksPerTransaction) : DDServer × List Event :=
  machine.execute (new (blocksParameters blocks) fun _ _ => 0) []
    (twoFrames blocks)

theorem twoFrames_readsAtMost
    (blocks : BlocksPerTransaction) :
    machine.Admitted (fun _ _ action => action.ReadsAtMost)
      (new (blocksParameters blocks) fun _ _ => 0) [] (twoFrames blocks) := by
  apply Machine.admitted_of_forall
  simp only [twoFrames, List.mem_append, List.mem_cons, or_imp, forall_and]
  simpa [hears, Action.ReadsAtMost] using
    ⟨⟨plain_readsAtMost 7, plain_readsAtMost 9⟩, plain_readsAtMost 17⟩

/-- Two frames of an agreed transaction are numbered one and two. -/
theorem frame_numbers_identify_example :
    Trace.Every BlocksLimited (twoFramesRun 2).2 ∧
      (Transmission.ofTrace (twoFramesRun 2).2).Numbered :=
  frame_numbers_identify (Machine.Reaches.execute (twoFrames 2) .start
    (.and (by decide +kernel) (twoFrames_readsAtMost 2)))

/-- Both sides allow two hundred blocks, and `BLOCK` starts on that number. -/
theorem blocks_beyond_limit_example :
    ∃ server before after,
      machine.Reaches (fun _ _ action => action.ReadsAtMost)
        (new (blocksParameters 200) fun _ _ => 0) server
        (before ++ .body .block (some staging) :: after) ∧
      ¬BlocksLimited before (.body .block (some staging)) := by
  refine ⟨(twoFramesRun 200).1, (twoFramesRun 200).2.take 10,
    (twoFramesRun 200).2.drop 11, ?_, ?_⟩
  · have split : (twoFramesRun 200).2.take 10 ++
        .body .block (some staging) :: (twoFramesRun 200).2.drop 11 =
          (twoFramesRun 200).2 := by
      decide +kernel
    rw [split]
    exact Machine.Reaches.execute (twoFrames 200) .start
      (twoFrames_readsAtMost 200)
  · intro limited
    have announced : (Transmission.ofTrace
        ((twoFramesRun 200).2.take 10)).announced = some ⟨7, 200, 11, 5⟩ := by
      decide +kernel
    obtain ⟨terms, same, -, most⟩ := limited _ rfl
    obtain rfl := Option.some.inj (announced.symm.trans same)
    exact absurd most (by decide)

end DDServer

end DataDumpProtocol

import DataDumpProtocol.Client.Reassembly
import DataDumpProtocol.Machines.Departure

/-!
# Progress in `BLOCK`

A client stays in `BLOCK` as long as blocks are stored that announce more.  A
block that brings at least one byte shortens the rest of the caller's buffer,
which bounds the number of `BLOCK` bodies.  A block that declares no byte is
refused where no payload came before it in the packet, but a payload that a
rejected frame left there makes `BLOCK` store nothing and go on.
-/

namespace DataDumpProtocol

/-- What a trace tells about the `BLOCK` bodies since a transfer was accepted,
until `TERMINATE` cleans up. -/
structure BlockIterations where
  /-- The size of the caller's buffer. -/
  size : Nat := 0
  /-- The `BLOCK` bodies that began. -/
  count : Nat := 0
  /-- The last of them has stored a byte. -/
  progress : Bool := false
  deriving DecidableEq

namespace BlockIterations

/-- Enter one event. -/
def note (iterations : BlockIterations) : Event → BlockIterations
  | .transferStarted _ size => { size := size }
  | .body .block _ =>
      { iterations with count := iterations.count + 1, progress := false }
  | .body .terminate _ => {}
  | .blockStored _ payload =>
      { iterations with
        progress := iterations.progress || decide (0 < payload.length) }
  | _ => iterations

/-- The iterations that a trace ends in. -/
def ofTrace (trace : List Event) : BlockIterations :=
  trace.foldl note {}

theorem ofTrace_append (before after : List Event) :
    ofTrace (before ++ after) = after.foldl note (ofTrace before) :=
  List.foldl_append

/-- A `BLOCK` body has begun and stored nothing. -/
def Stalled (iterations : BlockIterations) : Prop :=
  0 < iterations.count ∧ iterations.progress = false

instance (iterations : BlockIterations) : Decidable iterations.Stalled :=
  inferInstanceAs (Decidable (_ ∧ _))

end BlockIterations

namespace DDClient

/-- The packet that `BLOCK` receives into. -/
def blockDataPacket? (client : DDClient) : Option BlockTxRxPacket :=
  match client.point with
  | .body (.blockReceive blockDataPacket) => some blockDataPacket
  | _ => none

/-- The waiting block is taken for stored without bringing a byte, and
announces more. -/
def StoresNothing
    (client : DDClient)
    (packet : BlockTxRxPacket)
    (env : Environment) : Prop :=
  client.AcceptsBlock .blockTransfer env ∧
    (client.polledBlockHeader env).dataBufferSize = 0#8 ∧
    (client.polledBlockHeader env).getContinueBit = .continueTransfer ∧
    packet.buffer ≠ none ∧ client.internalBuffer ≠ none

instance
    (client : DDClient)
    (packet : BlockTxRxPacket)
    (env : Environment) :
    Decidable (client.StoresNothing packet env) :=
  inferInstanceAs (Decidable (_ ∧ _))

/-- No block is stored without a byte, and no lock times out on the way from a
`BLOCK` body that stored nothing to `TERMINATE`. -/
def Advances (client : DDClient) (trace : List Event) : Action → Prop
  | .fsm env =>
      (∀ packet ∈ client.blockDataPacket?,
        ¬client.StoresNothing packet env) ∧
      ((BlockIterations.ofTrace trace).Stalled →
        client.MayReturn (· = .terminate) → env.lockAcquired = true)
  | .startNewTransfer _ _ _ => True

instance
    (client : DDClient)
    (trace : List Event) :
    (action : Action) → Decidable (client.Advances trace action)
  | .fsm _ => inferInstanceAs (Decidable (_ ∧ _))
  | .startNewTransfer _ _ _ => inferInstanceAs (Decidable True)

/-- The points of the `BLOCK` body that do not lead to another one. -/
def Stalls : ClientBody → Prop
  | .blockReceive _ | .ackSend _ | .ackNotSend _ => True
  | .requestSend _ | .responseReceive _ | .initiateSend _ | .blockContinue =>
      False

/-- The thread is in a `BLOCK` body that has stored nothing, or on its way from
there to `TERMINATE`. -/
abbrev Finishing (client : DDClient) : Prop :=
  client.Departing (· = .terminate) Stalls

section Finishing

variable {parameters : Parameters} {client client' : DDClient}
variable {env : Environment} {events : List Event}

/-- A `BLOCK` body that has stored nothing leads to `TERMINATE`, unless it
stores a block and goes on. -/
theorem Moves.finishing
    (moves : client.Moves env client' events)
    (sound : client.Sound parameters)
    (finishing : client.Finishing)
    (acquires : client.MayReturn (· = .terminate) →
      env.lockAcquired = true) :
    client'.Finishing ∨
      ((∃ packet, client.point = .body (.blockReceive packet)) ∧
        client'.point = .body .blockContinue) ∨
      client.point = .enter .terminate := by
  have inside {body : ClientBody} (here : client.point = .body body) :
      client.currentState = .block := by
    have stalls := (Party.departing_of_body here).mp finishing
    rw [← sound.paced.inside body here]
    cases body <;> first | rfl | exact stalls.elim
  cases moves with
  | shell shell =>
      exact .inl (shell.departing rfl finishing (by simp) acquires)
  | terminate here => exact .inr (.inr here)
  | storeMore here => exact .inr (.inl ⟨⟨_, here⟩, rfl⟩)
  | storeLast | missBlock | refuseBlock | pollBlock => exact .inl trivial
  | ackSent here | ackNotSent here | giveUp here =>
      exact .inl ⟨rfl, inside here⟩
  | retry => exact .inl finishing
  | idle here | beginRequest here | noTimer here | awaitResponse here
  | beginInitiate here | refuse here | awaitBlock here =>
      exact absurd ((Party.departing_of_enter here).mp finishing) (by simp)
  | requestSent here | acceptResponse here | initiateSent here
  | continueBlock here | poll here =>
      exact ((Party.departing_of_body here).mp finishing).elim

/-- No `BLOCK` body begins while the thread is on its way to `TERMINATE`. -/
theorem Finishing.not_entering
    (finishing : client.Finishing) :
    client.point ≠ .enter .block := by
  intro here
  exact absurd ((Party.departing_of_enter here).mp finishing) (by simp)

end Finishing

/-- A block is stored where there is a buffer, a payload and room. -/
theorem storeBlock_isSome_iff
    (client : DDClient)
    (packet : BlockTxRxPacket)
    (env : Environment) :
    (client.storeBlock packet env).isSome = true ↔
      client.internalBuffer ≠ none ∧ packet.buffer ≠ none ∧
        packet.header.dataBufferSize.toNat ≤ client.internalBufferLen := by
  unfold storeBlock
  split
  next given payload => simp [given, payload]
  next absent =>
      apply iff_of_false (by simp)
      rintro ⟨given, payload, -⟩
      obtain ⟨target, given⟩ := Option.ne_none_iff_exists'.mp given
      obtain ⟨bytes, payload⟩ := Option.ne_none_iff_exists'.mp payload
      exact absent target bytes given payload

/-- `BLOCK` goes on without having shortened the rest of the buffer exactly
where it takes a block for stored that brings no byte. -/
theorem storesNothing_iff
    {client : DDClient}
    {packet : BlockTxRxPacket}
    (here : client.point = .body (.blockReceive packet))
    (env : Environment) :
    (client.fsmStep env).1.point = .body .blockContinue ∧
        (client.fsmStep env).1.internalBufferLen = client.internalBufferLen ↔
      client.StoresNothing packet env := by
  obtain ⟨result, received, events, round, outcome, same⟩ :=
    client.receiveBlockLoop_outcome packet .blockTransfer env
  simp only [fsmStep, here, stepBody, round]
  cases outcome with
  | polled rejects | expired rejects =>
      refine iff_of_false ?_ fun stores => rejects stores.1
      simp [handleBlock]
  | accepted accepts positive =>
      rw [same accepts]
      have header := DataDump.receiveBlock_header packet accepts
      have buffer := DataDump.receiveBlock_buffer packet accepts
      simp only [handleBlock, Nat.pos_of_ne_zero positive, if_true, header]
      rcases storeBlock_cases packet accepts with
        ⟨target, given, fits, stored⟩ | ⟨overflows, refused⟩
      · have room := (client.storeBlock_isSome_iff _ env).mp
          (by rw [stored]; rfl)
        rw [buffer] at room
        have empty_iff : client.internalBufferLen -
              (client.polledBlockHeader env).dataBufferSize.toNat =
            client.internalBufferLen ↔
            (client.polledBlockHeader env).dataBufferSize = 0#8 := by
          rw [BitVec.toNat_eq, BitVec.toNat_ofNat]
          omega
        cases continueBit : (client.polledBlockHeader env).getContinueBit with
        | terminateTransfer => simp [stored, StoresNothing, continueBit]
        | continueTransfer =>
            simp only [stored, StoresNothing, continueBit, storing,
              Party.point_goto, Party.toDataDump_goto, empty_iff, true_and,
              accepts]
            refine ⟨fun empty => ⟨empty, ?_, room.1⟩, fun stores => stores.1⟩
            simpa [empty] using room.2.1
      · have room := (client.storeBlock_isSome_iff _ env).not.mp
          (by rw [refused]; simp)
        rw [buffer, header] at room
        simp only [refused]
        apply iff_of_false (by simp)
        rintro ⟨-, empty, -, payload, given⟩
        simp [empty, payload, given] at room

/-! ## The bound on the iterations -/

/-- The rest of the buffer and the `BLOCK` bodies together are at most one more
than the buffer, and no more than it where the last body has stored a byte. -/
structure Progresses (client : DDClient) (iterations : BlockIterations) :
    Prop where
  bounded : client.internalBufferLen + iterations.count ≤ iterations.size + 1
  shortened : ¬iterations.Stalled →
    client.internalBufferLen + iterations.count ≤ iterations.size
  finishing : iterations.Stalled → client.Finishing

section Progresses

variable {parameters : Parameters} {client client' start : DDClient}
variable {env : Environment} {events trace segment : List Event}
variable {iterations : BlockIterations} {action : Action}

/-- What a move means for the iterations: it stores a block, begins `BLOCK`,
cleans up, or is none of their business. -/
theorem Moves.iterations_cases
    (moves : client.Moves env client' events)
    (iterations : BlockIterations) :
    (∃ packet size,
      client.point = .body (.blockReceive packet) ∧
        size ≤ client.internalBufferLen ∧
        client'.internalBufferLen = client.internalBufferLen - size ∧
        events.foldl .note iterations =
          { iterations with
            progress := iterations.progress || decide (0 < size) }) ∨
    (client.point = .enter .block ∧ client'.Finishing ∧
      client'.internalBufferLen = client.internalBufferLen ∧
      events.foldl .note iterations =
        { iterations with
          count := iterations.count + 1, progress := false }) ∨
    (client.point = .enter .terminate ∧ client'.internalBufferLen = 0 ∧
      events.foldl .note iterations = {}) ∨
    (client.point ≠ .enter .block ∧ client.point ≠ .enter .terminate ∧
      client'.internalBufferLen = client.internalBufferLen ∧
      events.foldl .note iterations = iterations) := by
  have polled : client.pollEvent.foldl .note iterations = iterations :=
    DataDump.foldl_pollEvent_of_ignored (fun _ => rfl) iterations
  cases moves with
  | shell shell =>
      obtain ⟨_, _, _, _, rfl, -⟩ := shell.unchanged
      exact .inr (.inr (.inr
        ⟨shell.not_entering _, shell.not_entering _, rfl, rfl⟩))
  | storeMore here _ _ fits | storeLast here _ _ fits =>
      refine .inl ⟨_, _, here, fits, rfl, ?_⟩
      simp [List.foldl_append, polled, BlockIterations.note]
  | awaitBlock here => exact .inr (.inl ⟨here, trivial, rfl, rfl⟩)
  | terminate here =>
      refine .inr (.inr (.inl ⟨here, rfl, ?_⟩))
      exact DataDump.foldl_notification_of_ignored (fun _ _ => rfl) _
  | retry here unsent =>
      refine .inr (.inr (.inr ⟨by simp [here], by simp [here], rfl, ?_⟩))
      exact unsent.foldl_of_ignored (fun _ _ => rfl) iterations
  | giveUp here givesUp =>
      refine .inr (.inr (.inr ⟨by simp [here], by simp [here], rfl, ?_⟩))
      refine Trace.foldl_eq_self (fun event present iterations => ?_) _
      rcases givesUp.mem present with rfl | ⟨frame, rfl⟩ <;> rfl
  | idle here | beginRequest here | noTimer here | requestSent here
  | awaitResponse here | acceptResponse here | beginInitiate here
  | refuse here | initiateSent here | missBlock here | refuseBlock here
  | continueBlock here | ackSent here | ackNotSent here | poll here
  | pollBlock here =>
      refine .inr (.inr (.inr ⟨by simp [here], by simp [here], rfl, ?_⟩))
      simp [List.foldl_append, polled, BlockIterations.note]

/-- A body that is entered is observed. -/
theorem Moves.begins
    (moves : client.Moves env client' events)
    {state : FsmState}
    (here : client.point = .enter state) :
    ∃ rest, events = .body state client.internalBuffer :: rest := by
  cases moves with
  | shell shell => exact absurd here (shell.not_entering state)
  | idle entered | beginRequest entered | noTimer entered
  | awaitResponse entered | beginInitiate entered | refuse entered
  | awaitBlock entered | terminate entered =>
      obtain rfl := Point.enter.inj (entered.symm.trans here)
      exact ⟨_, rfl⟩
  | _ => simp_all

/-- Every move keeps the bound, as long as `BLOCK` does not go on without a
byte and `TERMINATE` is not missed. -/
theorem Moves.progresses
    (moves : client.Moves env client' events)
    (sound : client.Sound parameters)
    (progresses : client.Progresses iterations)
    (advances : ∀ packet, client.point = .body (.blockReceive packet) →
      ¬(client'.point = .body .blockContinue ∧
        client'.internalBufferLen = client.internalBufferLen))
    (acquires : iterations.Stalled → client.MayReturn (· = .terminate) →
      env.lockAcquired = true) :
    client'.Progresses (events.foldl .note iterations) := by
  obtain ⟨bounded, shortened, finishing⟩ := progresses
  have finish (stalled : iterations.Stalled)
      (other : client.point ≠ .enter .terminate)
      (same : client'.internalBufferLen = client.internalBufferLen) :
      client'.Finishing := by
    rcases moves.finishing sound (finishing stalled) (acquires stalled) with
      finishes | ⟨⟨packet, here⟩, goesOn⟩ | last
    · exact finishes
    · exact absurd ⟨goesOn, same⟩ (advances packet here)
    · exact absurd last other
  rcases moves.iterations_cases iterations with
    ⟨packet, size, here, fits, left, noted⟩ | ⟨here, finishes, left, noted⟩ |
    ⟨here, left, noted⟩ | ⟨-, other, left, noted⟩
  · rw [noted]
    by_cases empty : size = 0
    · subst empty
      simp only [Nat.lt_irrefl, decide_false, Bool.or_false]
      change client'.Progresses iterations
      exact ⟨by omega, fun moving => by have := shortened moving; omega,
        fun stalled => finish stalled (by simp [here]) left⟩
    · have positive := Nat.pos_of_ne_zero empty
      refine ⟨by simp only; omega, fun _ => by simp only; omega, ?_⟩
      simp [BlockIterations.Stalled, positive]
  · rw [noted]
    have moving : ¬iterations.Stalled := fun stalled =>
      (finishing stalled).not_entering here
    have short := shortened moving
    refine ⟨by simp only; omega, fun moving => ?_, fun _ => finishes⟩
    simp [BlockIterations.Stalled] at moving
  · rw [noted]
    constructor <;> simp [left, BlockIterations.Stalled]
  · rw [noted]
    exact ⟨by omega, fun moving => left ▸ shortened moving,
      fun stalled => finish stalled other left⟩

theorem progresses_step
    (sound : client.Sound parameters)
    (progresses : client.Progresses (.ofTrace trace))
    (advances : client.Advances trace action) :
    (client.step action).1.Progresses
      (.ofTrace (trace ++ (client.step action).2)) := by
  rw [BlockIterations.ofTrace_append]
  cases action with
  | fsm env =>
      refine (sound.moves env).progresses sound progresses ?_ advances.2
      intro packet here
      rw [storesNothing_iff here]
      exact advances.1 packet (by simp [blockDataPacket?, here])
  | startNewTransfer buffer size env =>
      have calls := calls_startNewTransfer client buffer size env
      generalize client.step (.startNewTransfer buffer size env) = result
        at calls
      obtain ⟨client', events⟩ := result
      cases calls with
      | refused => exact progresses
      | started =>
          constructor <;>
            simp [BlockIterations.note, BlockIterations.Stalled]

theorem progresses_of_reaches
    {heap : Heap}
    (reaches : machine.Reaches Advances (new parameters heap) client trace) :
    client.Sound parameters ∧ client.Progresses (.ofTrace trace) := by
  refine reaches.invariant
    (fun client trace =>
      client.Sound parameters ∧ client.Progresses (.ofTrace trace))
    ⟨sound_new parameters heap, ?_⟩ ?_
  · constructor <;> simp [new, BlockIterations.ofTrace, BlockIterations.Stalled]
  · rintro client trace action ⟨sound, progresses⟩ advances
    exact ⟨(sound.steps action).sound sound,
      progresses_step sound progresses advances⟩

/-! ## From one iteration to the next -/

/-- What is known since `start` was about to begin `BLOCK`, by the bodies that
began since then. -/
def Since
    (start client : DDClient)
    (iterations : BlockIterations) : List Event → Prop
  | [] => client.isBusy = true ∧ client.point = .enter .block ∧
      client.internalBufferLen = start.internalBufferLen
  | [_] => client.isBusy = true ∧ 0 < iterations.count ∧
      client.internalBufferLen ≤ start.internalBufferLen ∧
      (iterations.progress = true →
        client.internalBufferLen < start.internalBufferLen)
  | _ :: _ :: _ => True

theorem Moves.since
    (moves : client.Moves env client' events)
    {bodies : List Event}
    (since : Since start client iterations bodies) :
    Since start client' (events.foldl .note iterations)
      (bodies ++ events.filter Event.isBody) := by
  match bodies, since with
  | [], ⟨busy, here, left⟩ =>
      have still := (moves.isBusy busy).resolve_right (by simp [here])
      rcases moves.body_cases with ⟨state, rest, -, rfl, none⟩ | none
      · have one : rest.filter Event.isBody = [] := by
          simpa [List.filter_eq_nil_iff] using none
        rcases moves.iterations_cases iterations with
          ⟨packet, -, inside, -⟩ | ⟨-, -, left', noted⟩ | ⟨last, -⟩ |
          ⟨other, -⟩
        · simp [here] at inside
        · rw [noted, List.filter_cons_of_pos rfl, one]
          simp [Since, still, left', left]
        · simp [here] at last
        · exact absurd here other
      · obtain ⟨rest, rfl⟩ := moves.begins here
        simp [Event.isBody] at none
  | [first], ⟨busy, begun, le, lt⟩ =>
      rcases moves.body_cases with ⟨state, rest, -, rfl, -⟩ | none
      · rw [List.filter_cons_of_pos rfl]
        trivial
      · have same : events.filter Event.isBody = [] := by
          simpa [List.filter_eq_nil_iff] using none
        have outside (state : FsmState) : client.point ≠ .enter state := by
          intro here
          obtain ⟨rest, rfl⟩ := moves.begins here
          simp [Event.isBody] at none
        have still := (moves.isBusy busy).resolve_right (outside _)
        rw [same, List.append_nil]
        rcases moves.iterations_cases iterations with
          ⟨packet, size, -, fits, left, noted⟩ | ⟨here, -⟩ | ⟨here, -⟩ |
          ⟨-, -, left, noted⟩
        · rw [noted]
          refine ⟨still, begun, by omega, ?_⟩
          simp only [Bool.or_eq_true, decide_eq_true_eq]
          rintro (progress | positive)
          · have := lt progress
            omega
          · omega
        · exact absurd here (outside _)
        · exact absurd here (outside _)
        · rw [noted]
          exact ⟨still, begun, left ▸ le, left ▸ lt⟩
  | first :: second :: rest, _ => trivial

theorem Calls.since
    {buffer : Option Pointer}
    {size : Nat}
    (calls : client.Calls buffer size client' events)
    {bodies : List Event}
    (since : Since start client iterations bodies) :
    Since start client' (events.foldl .note iterations)
      (bodies ++ events.filter Event.isBody) := by
  cases calls with
  | refused => simpa using since
  | started _ _ resting =>
      match bodies, since with
      | [], ⟨busy, _⟩ | [_], ⟨busy, _⟩ => simp [busy] at resting
      | _ :: _ :: _, _ => trivial

/-- In every run that never stores a block without a byte and never misses
`TERMINATE`: a transfer takes at most one more `BLOCK` body than its buffer has
bytes, and each of them that is followed by another one shortens the rest of
the buffer. -/
theorem block_progress
    {heap : Heap}
    (reaches : machine.Reaches Advances (new parameters heap) client trace) :
    (BlockIterations.ofTrace trace).count ≤
        (BlockIterations.ofTrace trace).size + 1 ∧
      (client.point = .enter .block →
        ∀ client' segment,
          machine.Reaches
              (fun client segment => client.Advances (trace ++ segment))
              client client' segment →
            client'.point = .enter .block →
            segment.filter Event.isBody =
                [.body .block client.internalBuffer] →
              client'.internalBufferLen < client.internalBufferLen) := by
  obtain ⟨sound, progresses⟩ := progresses_of_reaches reaches
  refine ⟨by have := progresses.bounded; omega, ?_⟩
  intro here client' segment onward here' once
  have busy := sound.busy .block (.inr (.inr (.inr (.inl here)))) (by simp)
  obtain ⟨-, progresses', since⟩ := onward.invariant
    (fun client' segment =>
      client'.Sound parameters ∧
        client'.Progresses (.ofTrace (trace ++ segment)) ∧
        Since client client' (.ofTrace (trace ++ segment))
          (segment.filter Event.isBody))
    ⟨sound, by simpa using progresses, busy, here, rfl⟩
    (by
      rintro client' segment action ⟨sound, progresses, since⟩ advances
      have steps := sound.steps action
      refine ⟨steps.sound sound, ?_, ?_⟩
      · rw [← List.append_assoc]
        exact progresses_step sound progresses advances
      · rw [← List.append_assoc, BlockIterations.ofTrace_append,
          List.filter_append]
        cases steps with
        | fsm moves => exact moves.since since
        | call calls => exact calls.since since)
  rw [once] at since
  obtain ⟨-, begun, -, shorter⟩ := since
  apply shorter
  by_contra idle
  have finishing := progresses'.finishing ⟨begun, by simpa using idle⟩
  exact finishing.not_entering here'

end Progresses

/-! ## A client held in `BLOCK` -/

/-- A transfer into this buffer until it is about to begin `BLOCK`. -/
def beforeBlock (buffer : Pointer) (size : Nat) : List Action :=
  .startNewTransfer (some buffer) size {} :: List.replicate 16 (.fsm {}) ++
    .fsm { incoming := [2, 7, 0, 0, 0, 2, 11, 5, 0, 0, 0] } ::
      List.replicate 16 (.fsm {})

/-- One pass through `BLOCK`, with the frames that arrive in it. -/
def blockRound (frames : List (List Byte)) : List Action :=
  .fsm {} :: frames.map (fun frame => .fsm { incoming := frame }) ++
    List.replicate 6 (.fsm {})

/-- A rejected frame with a payload, and a frame without a byte that announces
more. -/
def emptyRound : List Action :=
  blockRound [[4, 129, 1, 0, 1, 9], [4, 129, 0, 0, 0]]

/-- The first block leaves two of eight bytes. -/
theorem block_progress_example :
    (BlockIterations.ofTrace
        (reassemblyRun (beforeBlock ⟨1, 0⟩ 8)).2).count ≤ 8 + 1 ∧
      (machine.execute (reassemblyRun (beforeBlock ⟨1, 0⟩ 8)).1 []
          (blockRound [[4, 129, 0, 0, 6, 1, 2, 3, 4, 5, 6]])).1.internalBufferLen
        < 8 := by
  obtain ⟨bounded, shorter⟩ := block_progress
    (Machine.Reaches.execute (beforeBlock ⟨1, 0⟩ 8)
      (.start : machine.Reaches Advances (new reassemblyParameters fun _ _ => 0)
        _ _)
      (by decide +kernel))
  exact ⟨bounded, shorter (by decide +kernel) _ _
    (Machine.Reaches.execute _ .start (by decide +kernel)) (by decide +kernel)
    (by decide +kernel)⟩

/-- With every lock acquired, a client whose caller gave it a buffer of one byte
begins `BLOCK` for the third time. -/
theorem block_progress_counterexample :
    ¬∀ (parameters : Parameters) (heap : Heap) (client : DDClient)
      (trace : List Event),
      machine.Reaches (fun _ _ action => action.Acquires)
          (new parameters heap) client trace →
        (BlockIterations.ofTrace trace).count ≤
          (BlockIterations.ofTrace trace).size + 1 := by
  intro bounded
  have held := bounded reassemblyParameters (fun _ _ => 0) _ _
    (Machine.Reaches.execute
      (beforeBlock ⟨1, 0⟩ 1 ++ emptyRound ++ emptyRound ++ [.fsm {}]) .start
      (by decide +kernel))
  revert held
  decide +kernel

end DDClient

end DataDumpProtocol

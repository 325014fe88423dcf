import DataDumpProtocol.Client.Reassembly
import DataDumpProtocol.Machines.Exchanges

/-!
# Overlapping transfers

`startNewTransfer` refuses while the client is busy, but a client that has
accepted a transfer only becomes busy when `FSMLoop` takes it up.  Transfers
are kept apart exactly when no call falls into that gap.
-/

namespace DataDumpProtocol

namespace DDClient

/-- Enter one event: whether an accepted transfer has not been notified. -/
def noteNotice (awaiting : Bool) : Event → Bool
  | .transferStarted _ _ => true
  | .notified _ => false
  | _ => awaiting

/-- An accepted transfer has not been notified. -/
def awaitsNotice (trace : List Event) : Bool :=
  trace.foldl noteNotice false

theorem awaitsNotice_append (before after : List Event) :
    awaitsNotice (before ++ after) =
      after.foldl noteNotice (awaitsNotice before) :=
  List.foldl_append

/-- `startNewTransfer` is called between two iterations, and not while
`FSMLoop` has not taken up the transfer that was accepted before.  A call
without a buffer or for no bytes is refused at any time. -/
def Action.Apart (client : DDClient) (trace : List Event) : Action → Prop
  | .fsm _ => True
  | .startNewTransfer buffer size _ =>
      buffer = none ∨ size = 0 ∨
        client.point = .top .readNext ∧
          (awaitsNotice trace = true → client.currentState ≠ .idle)

instance (client : DDClient) (trace : List Event) :
    (action : Action) → Decidable (action.Apart client trace)
  | .fsm _ => inferInstanceAs (Decidable True)
  | .startNewTransfer _ _ _ =>
      inferInstanceAs
        (Decidable (_ ∨ _ ∨ _ ∧ (_ → client.currentState ≠ .idle)))

/-- A client in another state than `IDLE` is busy, or about to become so. -/
def Awake (client : DDClient) : Prop :=
  client.currentState ≠ .idle →
    client.isBusy = true ∨ client.point = .top .updateStatus

section Awake

variable {parameters : Parameters} {client client' : DDClient}
variable {env : Environment} {events : List Event}

/-- Behind the update of the running indicator, the client is busy. -/
theorem Awake.isBusy
    (awake : client.Awake)
    (active : client.currentState ≠ .idle)
    (elsewhere : client.point ≠ .top .updateStatus) :
    client.isBusy = true :=
  (awake active).resolve_right elsewhere

theorem Moves.awake
    (moves : client.Moves env client' events)
    (sound : client.Sound parameters)
    (awake : client.Awake) :
    client'.Awake := by
  intro active
  cases moves with
  | shell shell =>
      cases shell with
      | leave here =>
          rcases client.setNextFSMState_cases _ env with stored | dropped
          · rw [stored] at active ⊢
            exact .inl (awake.isBusy active (by simp [here]))
          · rw [dropped] at active ⊢
            exact .inl (awake.isBusy active (by simp [here]))
      | dispatch here dispatches =>
          cases dispatches with
          | storeCurrent => exact .inr rfl
          | unchanged => exact .inr rfl
          | busy => exact .inl rfl
          | resting idle =>
              rcases client.getCurrentFSMState_cases env with read | failed
              · exact absurd (read.symm.trans idle) active
              · simp [failed] at idle
          | readNext | changed | reloadNext | select =>
              exact .inl (awake.isBusy active (by simp [here]))
  | idle here =>
      exact absurd (sound.paced.current_of_enter here (by simp)).symm active
  | retry here => exact awake active
  | beginRequest here | noTimer here | requestSent here | awaitResponse here
  | acceptResponse here | beginInitiate here | refuse here | initiateSent here
  | awaitBlock here | storeMore here | storeLast here | missBlock here
  | refuseBlock here | continueBlock here | ackSent here | ackNotSent here
  | poll here | pollBlock here | giveUp here | terminate here =>
      exact .inl (awake.isBusy active (by simp [here]))

/-- Between two iterations, a client in another state than `IDLE` refuses
every transfer. -/
theorem Awake.refuses
    (awake : client.Awake)
    (here : client.point = .top .readNext)
    (active : client.currentState ≠ .idle)
    (buffer : Option Pointer)
    (size : Nat)
    (env : Environment) :
    client.startNewTransfer buffer size env = (false, client) := by
  have busy := awake.isBusy active (by simp [here])
  unfold startNewTransfer
  split
  next => rfl
  next => simp [busy]

end Awake

/-- A transfer is accepted only when the one before it was notified. -/
def StartsApart (before : List Event) (event : Event) : Prop :=
  ∀ buffer size, event = .transferStarted buffer size →
    awaitsNotice before = false

/-- A block is stored behind the others of the transfer that was accepted last,
inside its buffer, and before that transfer is notified. -/
def StoresInOwn (heap : Heap) (before : List Event) (event : Event) : Prop :=
  ∀ target payload, event = .blockStored target payload →
    awaitsNotice before = true ∧
      ∃ transfer ∈ (Reassembly.ofTrace heap before).transfer,
        target = transfer.buffer.advance transfer.contents.length ∧
          transfer.contents.length + payload.length ≤ transfer.size

section Apart

variable {parameters : Parameters} {client client' : DDClient}
variable {env : Environment} {events trace : List Event}

theorem foldl_noteNotice_eq_self
    (aside : ∀ event ∈ events, event.concernsBuffer = false)
    (awaiting : Bool) :
    events.foldl noteNotice awaiting = awaiting := by
  refine Trace.foldl_eq_self (fun event present awaiting => ?_) awaiting
  have concerns := aside event present
  cases event <;> simp_all [Event.concernsBuffer, noteNotice]

theorem aside_pollEvent (dump : DataDump) (header : BlockHeader) :
    ∀ event ∈ dump.pollEvent ++ [.blockReceived header],
      event.concernsBuffer = false := by
  simp +contextual [or_imp, Event.concernsBuffer]

/-- What the trace tells about the current transfer. -/
structure Current (client : DDClient) (heap : Heap) (trace : List Event) :
    Prop where
  awake : client.Awake
  reassembles : client.Reassembles (.ofTrace heap trace)
  awaited : (Reassembly.ofTrace heap trace).transfer ≠ none →
    awaitsNotice trace = true
  apart : Trace.Every StartsApart trace
  own : Trace.Every (StoresInOwn heap) trace

theorem Moves.current
    {heap : Heap}
    (moves : client.Moves env client' events)
    (sound : client.Sound parameters)
    (current : client.Current heap trace) :
    client'.Current heap (trace ++ events) := by
  have awake := moves.awake sound current.awake
  have reassembles := moves.reassembles current.reassembles
  rw [← Reassembly.ofTrace_append] at reassembles
  have apart : Trace.Every StartsApart (trace ++ events) := by
    apply current.apart.append_of_forall
    intro before event present
    rintro buffer size rfl
    simpa [Event.isCall] using moves.not_call present
  have own (aside : ∀ event ∈ events, ∀ target payload,
      event ≠ .blockStored target payload) :
      Trace.Every (StoresInOwn heap) (trace ++ events) :=
    current.own.append_of_forall fun before event present target payload same =>
      absurd same (aside event present target payload)
  rcases moves.buffer_cases with
    ⟨packet, target, here, accepts, buffer, fits, -, rfl⟩ |
    ⟨here, -, -, rfl⟩ | ⟨-, -, -, aside⟩
  · have polled := aside_pollEvent client.toDataDump
      (client.polledBlockHeader env)
    obtain ⟨transfer, present, inPlace, aim⟩ :=
      current.reassembles.current buffer
    have awaited := current.awaited (by simp [Option.mem_def.mp present])
    have split : client.pollEvent ++
        [.blockReceived (client.polledBlockHeader env),
          .blockStored target (client.polledPayload env)] =
        (client.pollEvent ++
          [.blockReceived (client.polledBlockHeader env)]) ++
          [.blockStored target (client.polledPayload env)] := by simp
    refine ⟨awake, reassembles, fun _ => ?_, apart, ?_⟩
    · rw [split, awaitsNotice_append, List.foldl_append,
        foldl_noteNotice_eq_self polled]
      exact awaited
    · rw [split, ← List.append_assoc, Trace.every_concat]
      constructor
      · apply current.own.append_of_forall
        intro before event present
        rintro target payload rfl
        simpa [Event.concernsBuffer] using polled _ present
      · rintro aim' payload same
        obtain ⟨rfl, rfl⟩ := Event.blockStored.inj same
        rw [awaitsNotice_append, foldl_noteNotice_eq_self polled,
          Reassembly.ofTrace_append, Reassembly.foldl_eq_self polled]
        refine ⟨awaited, transfer, present, aim, ?_⟩
        have left := inPlace.left
        have room := inPlace.room
        rw [length_polledPayload]
        omega
  · refine ⟨awake, reassembles, fun open_ => absurd ?_ open_, apart,
      own (by simp +contextual [or_imp])⟩
    rw [Reassembly.ofTrace_append, List.foldl_cons]
    refine Trace.foldl_keeps Reassembly.transfer
      (fun event present reassembly => ?_) _
    rw [(DataDump.mem_notification.mp present).2]
    rfl
  · refine ⟨awake, reassembles, fun open_ => ?_, apart, own ?_⟩
    · rw [Reassembly.ofTrace_append, Reassembly.foldl_eq_self aside] at open_
      rw [awaitsNotice_append, foldl_noteNotice_eq_self aside]
      exact current.awaited open_
    · rintro event present target payload rfl
      simpa [Event.concernsBuffer] using aside _ present

theorem Calls.current
    {heap : Heap}
    {buffer : Option Pointer}
    {size : Nat}
    (calls : client.Calls buffer size client' events)
    (apart : Action.Apart client trace (.startNewTransfer buffer size env))
    (current : client.Current heap trace) :
    client'.Current heap (trace ++ events) := by
  have reassembles := calls.reassembles current.reassembles
  rw [← Reassembly.ofTrace_append] at reassembles
  cases calls with
  | refused => simpa using current
  | @started pointer next given positive resting allowed =>
      obtain ⟨here, takenUp⟩ : client.point = .top .readNext ∧
          (awaitsNotice trace = true → client.currentState ≠ .idle) := by
        simpa [Action.Apart, given, Nat.ne_of_gt positive] using apart
      have apart : awaitsNotice trace = false := by
        by_contra awaiting
        have active := takenUp (by simpa using awaiting)
        have busy := current.awake.isBusy active (by simp [here])
        simp [resting] at busy
      refine ⟨current.awake, reassembles, fun _ => ?_, ?_, ?_⟩
      · rw [awaitsNotice_append]
        rfl
      · rw [Trace.every_concat]
        exact ⟨current.apart, fun _ _ _ => apart⟩
      · rw [Trace.every_concat]
        exact ⟨current.own, by simp [StoresInOwn]⟩

end Apart

/-- In every run in which `startNewTransfer` is called between two iterations
and never before the transfer accepted last was taken up, unless it is refused
for its arguments: transfers are accepted only when the one before was notified, every block goes to the buffer
of its own transfer, and until a transfer is notified every call is refused
and changes nothing. -/
theorem transfers_kept_apart
    {parameters : Parameters}
    {heap : Heap}
    {client : DDClient}
    {trace : List Event}
    (reaches : machine.Reaches
      (fun client trace action => action.Apart client trace)
      (new parameters heap) client trace) :
    Trace.Every StartsApart trace ∧ Trace.Every (StoresInOwn heap) trace ∧
      ∀ buffer size env,
        Action.Apart client trace (.startNewTransfer buffer size env) →
          awaitsNotice trace = true →
            client.startNewTransfer buffer size env = (false, client) := by
  have current : client.Current heap trace := by
    refine invariant_of_reaches reaches
      (fun client trace => client.Current heap trace)
      ⟨by simp [Awake, new], ⟨rfl, fun _ => rfl, by simp [Reassembly.ofTrace]⟩,
        by simp [Reassembly.ofTrace], Trace.every_nil _, Trace.every_nil _⟩ ?_
    rintro client trace action client' events sound current apart steps
    cases steps with
    | fsm moves => exact moves.current sound current
    | call calls => exact calls.current apart current
  refine ⟨current.apart, current.own, fun buffer size env apart awaiting => ?_⟩
  rcases apart with rfl | rfl | ⟨here, takenUp⟩
  · rfl
  · cases buffer <;> rfl
  · exact current.awake.refuses here (takenUp awaiting) buffer size env

/-- One transfer, up to the iteration after its request was sent. -/
def takenUp : List Action :=
  .startNewTransfer (some ⟨1, 0⟩) 8 {} :: List.replicate 9 (.fsm {})

/-- The example's transfer is under way, and a second one is refused. -/
theorem transfers_kept_apart_example :
    awaitsNotice (reassemblyRun takenUp).2 = true ∧
      (reassemblyRun takenUp).1.startNewTransfer (some ⟨2, 0⟩) 8 {} =
        (false, (reassemblyRun takenUp).1) := by
  have awaits : awaitsNotice (reassemblyRun takenUp).2 = true := by
    decide +kernel
  refine ⟨awaits, ?_⟩
  exact (transfers_kept_apart (Machine.Reaches.execute takenUp .start
    (by decide +kernel))).2.2 _ _ _ (by decide +kernel) awaits

/-- A call falls between two iterations. -/
def Action.BetweenIterations (client : DDClient) : Action → Prop
  | .fsm _ => True
  | .startNewTransfer _ _ _ => client.point = .top .readNext

instance (client : DDClient) :
    (action : Action) → Decidable (action.BetweenIterations client)
  | .fsm _ => inferInstanceAs (Decidable True)
  | .startNewTransfer _ _ _ =>
      inferInstanceAs (Decidable (client.point = .top .readNext))

/-- Two transfers, one accepted right behind the other. -/
def startedTwice : List Action :=
  [.startNewTransfer (some ⟨1, 0⟩) 8 {}, .startNewTransfer (some ⟨2, 0⟩) 8 {}]

/-- Both calls return true, and the first buffer is lost before `FSMLoop` has
seen it. -/
theorem transfers_overlap :
    machine.Reaches (fun client _ action => action.BetweenIterations client)
      (new reassemblyParameters fun _ _ => 0)
      (reassemblyRun startedTwice).1 (reassemblyRun startedTwice).2 ∧
    ¬Trace.Every StartsApart (reassemblyRun startedTwice).2 ∧
    (reassemblyRun startedTwice).1.internalBuffer = some ⟨2, 0⟩ := by
  refine ⟨.execute startedTwice .start (by decide +kernel), fun every => ?_, rfl⟩
  have split : (reassemblyRun startedTwice).2 =
      [.transferStarted ⟨1, 0⟩ 8] ++ .transferStarted ⟨2, 0⟩ 8 :: [] := rfl
  simpa [awaitsNotice, noteNotice] using every _ _ _ split _ _ rfl

end DDClient

end DataDumpProtocol

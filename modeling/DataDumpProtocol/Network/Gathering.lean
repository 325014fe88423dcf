import DataDumpProtocol.Client.Reassembly
import DataDumpProtocol.Network.Supply

/-!
# What the client gathers

As long as every block that the client stores continues the data of one
transaction, the caller's buffer begins with what was stored of them, and with
all of them when the client acknowledges.
-/

namespace DataDumpProtocol

/-- A frame that passes the filter of `receive` for blocks is a block. -/
theorem DataDump.AcceptsBlock.isBlock
    {dump : DataDump}
    {env : Environment}
    {frame : Frame}
    (accepts : dump.AcceptsBlock .blockTransfer env)
    (incoming : env.incoming = frame.bytes) :
    frame.isBlock = true := by
  have head := head_of_delivered accepts.1 accepts.2.1
  rw [incoming] at head
  simp [Frame.isBlock, head]

namespace History

/-- All data of a transaction were stored. -/
def Whole (history : History) : Prop :=
  history.stored ≠ 0 ∧
    history.stored = (history.contents history.source).length

/-- The history after a block of this size was stored. -/
def storing (history : History) (heard : Frame) (size : Nat) : History :=
  { history with
    stored := history.stored + size
    source := heard.transaction
    reached := heard.position + size }

/-- Only a stored block and a call of `startNewTransfer` are entered. -/
theorem noteClient_eq_self
    {events : List Event}
    (unstored : ∀ target payload, .blockStored target payload ∉ events)
    (uncalled : ∀ event ∈ events, event.isCall = false)
    (heard : Frame)
    (history : History) :
    events.foldl (noteClient heard) history = history := by
  refine Trace.foldl_eq_self (fun event present history => ?_) history
  cases event with
  | blockStored => exact absurd present (unstored _ _)
  | transferStarted =>
      exact absurd (uncalled _ present) (by simp [Event.isCall])
  | _ => rfl

end History

namespace DDClient

/-- In the loop that waits for a block. -/
def awaitsBlock (client : DDClient) : Bool :=
  match client.point with
  | .body (.blockReceive _) => true
  | _ => false

/-- If a block is stored, it is the next one of the transaction's data. -/
def Continues
    (history : History)
    (heard : Frame)
    (env : Environment)
    (client : DDClient) : Prop :=
  client.awaitsBlock = true →
    client.AcceptsBlock .blockTransfer env →
      (client.polledBlockHeader env).dataBufferSize.toNat ≤
          client.internalBufferLen →
        heard.position = history.stored ∧
          (history.stored ≠ 0 → heard.transaction = history.source)

instance (history : History) (heard : Frame) (env : Environment)
    (client : DDClient) : Decidable (client.Continues history heard env) :=
  inferInstanceAs (Decidable (_ → _ → _ → _))

/-- The place up to which a client has heard. -/
def place (history : History) : Place :=
  toLex (history.source, history.reached)

/-- What was stored of a transaction's data stands in the caller's buffer. -/
structure Gathers (history : History) (client : DDClient) : Prop where
  aim : ∀ target, client.internalBuffer = some target →
    target = history.caller.advance history.stored
  reached : history.stored ≠ 0 → history.stored = history.reached
  contents : client.heap.bytes history.caller history.stored =
    (history.contents history.source).take history.stored

/-- Acknowledgements and success are for all data of a transaction. -/
structure Concludes (history : History) (client : DDClient) : Prop where
  acking : ∀ packet, client.point = .body (.ackSend packet) → history.Whole
  success : client.isTransferSuccess = true →
    history.Whole ∧ client.isBusy = true ∧ ¬client.Holds .idle

section Gathers

variable {parameters : Parameters} {client client' : DDClient}
variable {env : Environment} {events : List Event}
variable {history : History} {heard : Frame}

/-- What is known about a block that is stored. -/
structure Stores
    (history : History)
    (heard : Frame)
    (env : Environment)
    (client : DDClient)
    (target : Pointer)
    (header : BlockHeader) : Prop where
  covers : heard.Covers history.contents header (client.polledPayload env)
  continueBit : (client.polledBlockHeader env).getContinueBit =
    header.getContinueBit
  aim : target = history.caller.advance history.stored
  position : heard.position = history.stored
  transaction : history.stored ≠ 0 → heard.transaction = history.source

theorem Gathers.stores
    {packet : BlockTxRxPacket}
    {target : Pointer}
    (gathers : client.Gathers history)
    (continues : client.Continues history heard env)
    (covers : heard.isBlock = true →
      ∃ header payload, heard.Covers history.contents header payload)
    (incoming : env.incoming = heard.bytes)
    (here : client.point = .body (.blockReceive packet))
    (accepts : client.AcceptsBlock .blockTransfer env)
    (buffer : client.internalBuffer = some target)
    (fits : (client.polledBlockHeader env).dataBufferSize.toNat ≤
      client.internalBufferLen) :
    ∃ header, client.Stores history heard env target header := by
  obtain ⟨header, payload, covers⟩ := covers (accepts.isBlock incoming)
  obtain ⟨polled, read⟩ :=
    accepts.of_blockFrame (incoming.trans covers.bytes) covers.size
  obtain rfl : client.polledPayload env = payload := read
  obtain ⟨position, transaction⟩ :=
    continues (by rw [awaitsBlock, here]) accepts fits
  exact ⟨header, covers, by rw [polled]; rfl, gathers.aim target buffer,
    position, transaction⟩

theorem Stores.length_eq
    {target : Pointer}
    {header : BlockHeader}
    (stores : client.Stores history heard env target header) :
    (client.polledPayload env).length ≠ 0 :=
  List.length_eq_zero_iff.not.mpr stores.covers.nonempty

/-- When all data were stored, no block continues them. -/
theorem Stores.not_whole
    {target : Pointer}
    {header : BlockHeader}
    (stores : client.Stores history heard env target header) :
    ¬history.Whole := by
  rintro ⟨some_, all⟩
  have within := stores.covers.within
  have nonempty := stores.length_eq
  rw [stores.transaction some_, stores.position] at within
  omega

/-- The next block goes behind the blocks before it. -/
theorem Gathers.store
    {target : Pointer}
    {header : BlockHeader}
    (gathers : client.Gathers history)
    (stores : client.Stores history heard env target header)
    (point : Point ClientBody) :
    Gathers (history.storing heard (client.polledPayload env).length)
      ((client.storing target env).goto point) := by
  have slice := stores.covers.slice
  constructor
  case aim =>
    rintro _ ⟨⟩
    rw [stores.aim, Pointer.advance_advance, ← length_polledPayload]
    rfl
  case reached =>
    intro _
    simp [History.storing, stores.position]
  case contents =>
    simp only [History.storing, Party.toDataDump_goto, storing]
    rw [stores.aim, Heap.bytes_add, Heap.bytes_write_before, Heap.bytes_write,
      gathers.contents, List.take_add, ← stores.position, ← slice]
    congr 1
    by_cases first : history.stored = 0
    · rw [stores.position, first]
      rfl
    · rw [stores.transaction first]

theorem storing_whole
    {target : Pointer}
    {header : BlockHeader}
    (stores : client.Stores history heard env target header)
    (last : (client.polledBlockHeader env).getContinueBit =
      .terminateTransfer) :
    (history.storing heard (client.polledPayload env).length).Whole := by
  have nonempty := stores.length_eq
  have reached := stores.covers.last (stores.continueBit.symm.trans last)
  rw [stores.position] at reached
  exact ⟨fun none => nonempty (Nat.add_eq_zero_iff.mp none).2, reached⟩

/-- A block that was stored is entered. -/
theorem noteClient_stored
    (client : DDClient)
    (env : Environment)
    (target : Pointer)
    (heard : Frame)
    (history : History) :
    (client.pollEvent ++
      [Event.blockReceived (client.polledBlockHeader env),
        .blockStored target (client.polledPayload env)]).foldl
      (.noteClient heard) history =
      history.storing heard (client.polledPayload env).length := by
  rw [List.foldl_append, DataDump.foldl_pollEvent_of_ignored fun _ => rfl]
  rfl

/-- What is known about the block, if one is stored. -/
def Storing
    (history : History)
    (heard : Frame)
    (env : Environment)
    (client : DDClient) : Prop :=
  ∀ packet target, client.point = .body (.blockReceive packet) →
    client.AcceptsBlock .blockTransfer env →
      client.internalBuffer = some target →
        (client.polledBlockHeader env).dataBufferSize.toNat ≤
            client.internalBufferLen →
          ∃ header, client.Stores history heard env target header

theorem Moves.gathers
    (moves : client.Moves env client' events)
    (known : client.Storing history heard env)
    (gathers : client.Gathers history) :
    client'.Gathers (events.foldl (.noteClient heard) history) := by
  have uncalled : ∀ event ∈ events, event.isCall = false :=
    fun event present => moves.not_call present
  rcases moves.buffer_cases with
    ⟨packet, target, here, accepts, buffer, fits, ⟨point, rfl⟩, rfl⟩ |
    ⟨here, heap, dropped, rfl⟩ | ⟨heap, buffer, -, aside⟩
  · obtain ⟨header, stores⟩ := known packet target here accepts buffer fits
    rw [noteClient_stored]
    exact gathers.store stores point
  · rw [History.noteClient_eq_self (by simp) uncalled]
    exact ⟨by simp [dropped], gathers.reached, heap ▸ gathers.contents⟩
  · rw [History.noteClient_eq_self (fun _ _ stored => ?_) uncalled]
    · exact ⟨buffer ▸ gathers.aim, gathers.reached, heap ▸ gathers.contents⟩
    · simpa [Event.concernsBuffer] using aside _ stored

/-- Only the acknowledgement makes a transfer successful, and only `TERMINATE`
forgets it. -/
theorem Moves.success_cases
    (moves : client.Moves env client' events)
    (success : client'.isTransferSuccess = true) :
    (client.isTransferSuccess = true ∧ client.point ≠ .enter .terminate) ∨
      ∃ packet, client.point = .body (.ackSend packet) ∧
        client'.point = .leave .terminate ∧
        client'.currentState = client.currentState ∧
        client'.nextState = client.nextState ∧
        client'.isBusy = client.isBusy := by
  cases moves with
  | shell shell =>
      have outside := shell.not_entering .terminate
      obtain ⟨_, _, _, _, rfl, -⟩ := shell.unchanged
      exact .inl ⟨success, outside⟩
  | ackSent here => exact .inr ⟨_, here, rfl, rfl, rfl, rfl⟩
  | terminate => simp at success
  | idle here | beginRequest here | noTimer here | requestSent here
  | awaitResponse here | acceptResponse here | beginInitiate here
  | refuse here | initiateSent here | awaitBlock here | storeMore here
  | storeLast here | missBlock here | refuseBlock here | continueBlock here
  | ackNotSent here | poll here | pollBlock here | retry here
  | giveUp here =>
      exact .inl ⟨success, by simp [here]⟩

/-- A client that notifies success was successful. -/
theorem Moves.success_of_notified
    (moves : client.Moves env client' events)
    (notified : .notified true ∈ events) :
    client.isTransferSuccess = true := by
  cases moves with
  | terminate here => exact (by simpa using notified : _ ∧ _).2
  | retry here unsent =>
      obtain ⟨frame, impossible⟩ := unsent _ notified
      simp at impossible
  | giveUp here givesUp =>
      rcases givesUp.mem notified with impossible | ⟨frame, impossible⟩ <;>
        simp at impossible
  | _ => simp at notified

/-- Of the states that a client may still act on, only the cleanup brings up
`IDLE`. -/
theorem Moves.not_holds_idle
    (moves : client.Moves env client' events)
    (outside : client.point ≠ .enter .terminate)
    (absent : ¬client.Holds .idle) :
    ¬client'.Holds .idle := by
  intro holds
  rcases moves.holds holds absent with
    impossible | ⟨-, here⟩ | ⟨body, here, impossible, -⟩
  · simp at impossible
  · exact outside here
  · cases body <;> simp [ClientBody.state, FsmState.successor] at impossible

/-- Once all data were stored, nothing more is. -/
theorem Moves.whole
    (moves : client.Moves env client' events)
    (known : client.Storing history heard env)
    (whole : history.Whole) :
    (∀ target payload, .blockStored target payload ∉ events) ∧
      (events.foldl (.noteClient heard) history).Whole := by
  have unstored : ∀ target payload, .blockStored target payload ∉ events := by
    rcases moves.buffer_cases with
      ⟨packet, target, here, accepts, buffer, fits, -, -⟩ |
      ⟨-, -, -, rfl⟩ | ⟨-, -, -, aside⟩
    · obtain ⟨header, stores⟩ := known packet target here accepts buffer fits
      exact absurd whole stores.not_whole
    · simp
    · intro target payload stored
      simpa [Event.concernsBuffer] using aside _ stored
  refine ⟨unstored, ?_⟩
  rw [History.noteClient_eq_self unstored fun _ => moves.not_call]
  exact whole

/-- A client that sends an acknowledgement has everything, and may not act on
`IDLE`. -/
theorem Sound.not_holds_idle
    (sound : client.Sound parameters)
    {packet : TransactionPacket}
    (here : client.point = .body (.ackSend packet)) :
    ¬client.Holds .idle := by
  have live : _ ∧ _ ∧ client.internalBuffer ≠ none := sound.live _ here
  intro holds
  have follows := sound.paced.follows_of_inside here holds
  simp [FsmState.Follows, ClientBody.state, FsmState.successor, Free, live]
    at follows

theorem Moves.concludes
    (moves : client.Moves env client' events)
    (sound : client.Sound parameters)
    (known : client.Storing history heard env)
    (concludes : client.Concludes history) :
    client'.Concludes (events.foldl (.noteClient heard) history) := by
  constructor
  case acking =>
    intro packet here'
    have kept := fun whole => (moves.whole known whole).2
    cases moves with
    | shell shell => exact absurd here' (shell.point_ne_body _)
    | storeLast here accepts buffer fits last =>
        obtain ⟨header, stores⟩ := known _ _ here accepts buffer fits
        rw [noteClient_stored]
        exact storing_whole stores last
    | retry => exact kept (concludes.acking packet here')
    | _ => cases here'
  case success =>
    intro success
    rcases moves.success_cases success with
      ⟨old, outside⟩ | ⟨packet, here, leaving, current, next, busy⟩
    · obtain ⟨whole, busy, idle⟩ := concludes.success old
      refine ⟨(moves.whole known whole).2, ?_,
        moves.not_holds_idle outside idle⟩
      refine (moves.isBusy busy).resolve_right fun resting => idle ?_
      exact .inr (.inr (.inr (.inl resting)))
    · refine ⟨(moves.whole known (concludes.acking packet here)).2, ?_,
        moves.not_holds_idle (by simp [here]) (sound.not_holds_idle here)⟩
      exact busy.trans (sound.busy_of_inside here)

/-- A call of the application begins with nothing stored. -/
theorem Calls.gathers
    {buffer : Option Pointer}
    {size : Nat}
    (calls : client.Calls buffer size client' events)
    (gathers : client.Gathers history) :
    client'.Gathers (events.foldl (.noteClient heard) history) := by
  cases calls with
  | refused => exact gathers
  | started =>
      constructor
      case aim =>
        rintro _ ⟨⟩
        rfl
      case reached => exact fun stored => absurd rfl stored
      case contents => rfl

theorem Calls.concludes
    {buffer : Option Pointer}
    {size : Nat}
    (calls : client.Calls buffer size client' events)
    (sound : client.Sound parameters)
    (concludes : client.Concludes history) :
    client'.Concludes (events.foldl (.noteClient heard) history) := by
  cases calls with
  | refused => exact concludes
  | started given positive resting =>
      constructor
      case acking =>
        exact fun packet here => absurd here (sound.resting_point resting _)
      case success =>
        intro success
        obtain ⟨-, busy, -⟩ := concludes.success success
        simp [resting] at busy

end Gathers

end DDClient

end DataDumpProtocol

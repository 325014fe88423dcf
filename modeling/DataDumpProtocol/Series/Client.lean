import DataDumpProtocol.Network.Availability
import DataDumpProtocol.Series.Rounds

/-!
# The client in a series

Between its transfers a client rests in `IDLE`, where the application hands
over the next buffer.  Within a transfer it does what a client does in its
first one.
-/

namespace DataDumpProtocol

/-- The tally of a client that rests behind so many rounds. -/
def Series.clientRest (series : Series) (count : Nat) : Tally where
  sent := 3 * count
  heard := series.start count
  notified := count

theorem ClientPhase.open_of_unfinished
    (phase : ClientPhase)
    (unfinished : phase ≠ .finished)
    (length : Nat) :
    (phase.standing length).finished = false := by
  cases phase with
  | finished => exact absurd rfl unfinished
  | _ => rfl

namespace DDClient

/-- The client is in `IDLE` and stays there. -/
def Rests (client : DDClient) : Prop :=
  client.site = .inl .idle ∧
    (client.point = .leave .idle ∨ client.nextState = .idle)

/-- The client is in `IDLE`, and a transfer was handed over that it will take
up behind the `IDLE` body. -/
structure Called (transfer : FirstTransfer) (client : DDClient) : Prop where
  site : client.site = .inl .idle
  front : ∀ state, client.point ≠ .leave state
  next : client.nextState = .request
  buffer : client.internalBuffer = some transfer.buffer
  size : client.internalBufferLen = transfer.size

/-- Where a client is in a series, given the buffer that was handed over
last. -/
inductive Takes
    (series : Series)
    (caller : Pointer) : Tally → DDClient → Prop
  | rests {count : Nat} {client : DDClient}
      (rests : client.Rests)
      (delivered : ∀ last, count = last + 1 →
        client.heap.bytes caller (series.data last).length =
          series.data last) :
      Takes series caller (series.clientRest count) client
  | called {count : Nat} {transfer : FirstTransfer} {client : DDClient}
      (round : series.Round count transfer)
      (given : transfer.buffer = caller)
      (called : client.Called transfer) :
      Takes series caller (series.clientRest count) client
  | transfers {count : Nat} {transfer : FirstTransfer} {before : Heap}
      {phase : ClientPhase} {client : DDClient}
      (round : series.Round count transfer)
      (given : transfer.buffer = caller)
      (at_ : client.At transfer before phase)
      (unfinished : phase ≠ .finished) :
      Takes series caller
        ((phase.standing transfer.data.length).tally (3 * count)
          (series.start count) count)
        client

section Takes

variable {series : Series} {caller : Pointer} {tally : Tally}
variable {parameters : Parameters} {client client' : DDClient}
variable {env : Environment} {events : List Event} {reached : Nat}

/-! ## Between transfers -/

/-- A client that rests goes on to rest. -/
theorem Moves.rests
    (moves : client.Moves env client' events)
    (acquired : env.lockAcquired = true)
    (rests : client.Rests) :
    client'.Rests ∧ client'.heap = client.heap ∧
      ∀ event ∈ events, event.isBody = true := by
  obtain ⟨site, next⟩ := rests
  cases moves with
  | shell shell =>
      have same := shell.site_eq acquired
      have next := shell.nextState_eq acquired site next
      obtain ⟨_, _, _, _, rfl, -⟩ := shell.unchanged
      exact ⟨⟨same.trans site, .inr next⟩, rfl, by simp⟩
  | idle here =>
      have next := next.resolve_left (by simp [here])
      refine ⟨⟨?_, .inr next⟩, rfl, by simp [Event.isBody]⟩
      rw [Party.site_of_outside (by simp)]
      exact congrArg _ next
  | beginRequest here | noTimer here | awaitResponse here | beginInitiate here
  | refuse here | awaitBlock here | terminate here =>
      simp [Party.site_of_enter here] at site
  | requestSent here | acceptResponse here | initiateSent here
  | storeMore here | storeLast here | missBlock here | refuseBlock here
  | continueBlock here | ackSent here | ackNotSent here | poll here
  | pollBlock here | retry here | giveUp here =>
      simp [Party.site_of_body here] at site

/-- The client sets out on the transfer that was handed over. -/
theorem at_preparing
    {transfer : FirstTransfer}
    (site : client.site = .inl .request)
    (buffer : client.internalBuffer = some transfer.buffer)
    (size : client.internalBufferLen = transfer.size) :
    client.At transfer client.heap .preparing where
  site := site ▸ .request
  rests := by simp
  heap := (Heap.write_nil _ _).symm
  window _ := ⟨buffer, size⟩
  success := by simp
  config agreed := agreed.elim

/-- Behind the `IDLE` body, the client sets out on the transfer that was handed
over. -/
theorem Moves.called
    {transfer : FirstTransfer}
    (moves : client.Moves env client' events)
    (acquired : env.lockAcquired = true)
    (called : client.Called transfer) :
    (client'.Called transfer ∨
        client'.At transfer client'.heap .preparing) ∧
      ∀ event ∈ events, event.isBody = true := by
  obtain ⟨site, front, next, buffer, size⟩ := called
  cases moves with
  | shell shell =>
      have same := shell.site_eq acquired
      refine ⟨.inl ?_, by simp⟩
      cases shell with
      | leave here => exact absurd here (front _)
      | dispatch here dispatches =>
          constructor
          case site => exact same.trans site
          all_goals
            cases dispatches with
            | storeCurrent =>
                simp_all [Point.ofDispatch, DataDump.setCurrentFSMState]
            | _ => simp_all [Point.ofDispatch]
  | idle here =>
      refine ⟨.inr (at_preparing ?_ buffer size), by simp [Event.isBody]⟩
      rw [Party.site_of_outside (by simp)]
      exact congrArg _ next
  | beginRequest here | noTimer here | awaitResponse here | beginInitiate here
  | refuse here | awaitBlock here | terminate here =>
      simp [Party.site_of_enter here] at site
  | requestSent here | acceptResponse here | initiateSent here
  | storeMore here | storeLast here | missBlock here | refuseBlock here
  | continueBlock here | ackSent here | ackNotSent here | poll here
  | pollBlock here | retry here | giveUp here =>
      simp [Party.site_of_body here] at site

theorem Called.not_rests
    {transfer : FirstTransfer}
    (called : client.Called transfer) :
    ¬client.Rests := by
  rintro ⟨-, here | idle⟩
  · exact called.front _ here
  · exact absurd (called.next.symm.trans idle) (by simp)

/-! ## Within a transfer -/

/-- A client that has not finished a round does not rest. -/
theorem At.not_rests
    {transfer : FirstTransfer}
    {before : Heap}
    {phase : ClientPhase}
    (at_ : client.At transfer before phase)
    (unfinished : phase ≠ .finished) :
    ¬client.Rests := by
  rintro ⟨here, -⟩
  have site := at_.site
  rw [here] at site
  cases site
  exact unfinished rfl

/-- A client that has finished a round rests, and the data are delivered. -/
theorem At.takes
    {count : Nat}
    {transfer : FirstTransfer}
    {before : Heap}
    {phase : ClientPhase}
    (at_ : client.At transfer before phase)
    (round : series.Round count transfer)
    (given : transfer.buffer = caller) :
    client.Takes series caller
      ((phase.standing transfer.data.length).tally (3 * count)
        (series.start count) count) := by
  by_cases finished : phase = .finished
  · subst finished
    have site := at_.site
    have rests : client.Rests := by
      refine ⟨?_, at_.rests rfl⟩
      generalize client.site = here at site
      cases site
      rfl
    have heap := at_.heap_of_sent rfl
    have delivered : ∀ last, count + 1 = last + 1 →
        client.heap.bytes caller (series.data last).length =
          series.data last := by
      intro last same
      obtain rfl : count = last := by omega
      rw [heap, ← round.data, ← given]
      exact Heap.bytes_write _ _ _
    have tally : (ClientPhase.finished.standing transfer.data.length).tally
        (3 * count) (series.start count) count =
          series.clientRest (count + 1) := by
      rw [round.data]
      rfl
    rw [tally]
    exact .rests rests delivered
  · exact .transfers round given at_ finished

/-- In a loop that polls, the round's data are not complete. -/
theorem At.heard_le
    {transfer : FirstTransfer}
    {before : Heap}
    {phase : ClientPhase}
    {body : ClientBody}
    (at_ : client.At transfer before phase)
    (here : client.point = .body body)
    (listens : body.listens = true) :
    (phase.standing transfer.data.length).heard ≤ transfer.data.length := by
  have site := at_.site
  rw [Party.site_of_body here] at site
  cases site with
  | responseReceive => exact Nat.zero_le _
  | blockReceive more =>
      simp only [ClientPhase.standing]
      omega
  | _ => simp [ClientBody.listens] at listens

/-- A step within a transfer follows the script of the series. -/
theorem At.step
    {count : Nat}
    {transfer : FirstTransfer}
    {before : Heap}
    {phase : ClientPhase}
    (at_ : client.At transfer before phase)
    (unfinished : phase ≠ .finished)
    (round : series.Round count transfer)
    (sound : client.Sound series.client)
    (acquired : env.lockAcquired = true)
    (running : env.timerExpired = false)
    (started : env.timerStarted = true)
    (waits : env.incoming ≠ [] →
      series.Answers
        (series.start count + (phase.standing transfer.data.length).heard)
        env.incoming reached) :
    ∃ phase',
      DDClient.At transfer before phase' (client.fsmStep env).1 ∧
      Accrues series.Asks env.incoming reached
        ((phase.standing transfer.data.length).tally (3 * count)
          (series.start count) count)
        ((phase'.standing transfer.data.length).tally (3 * count)
          (series.start count) count)
        (client.fsmStep env).2 := by
  have sound : client.Sound transfer.client := round.client ▸ sound
  have open_ : (phase.standing transfer.data.length).finished = false :=
    phase.open_of_unfinished unfinished _
  by_cases listens : ∃ body, client.point = .body body ∧ body.listens = true
  · obtain ⟨body, here, listens⟩ := listens
    have within := at_.heard_le here listens
    have moves := sound.moves env
    obtain ⟨next, answers, place⟩ : ∃ next,
        (env.incoming ≠ [] →
          transfer.Answers (phase.standing transfer.data.length).heard
            env.incoming next) ∧
        (env.incoming ≠ [] → reached = series.start count + next) := by
      by_cases nothing : env.incoming = []
      · exact ⟨0, fun waits => absurd nothing waits,
          fun waits => absurd nothing waits⟩
      · obtain ⟨next, answers, place⟩ := (waits nothing).inRound round within
        exact ⟨next, fun _ => answers, fun _ => place⟩
    obtain ⟨phase', at_', follows⟩ :=
      moves.follows sound acquired running started answers at_
    exact ⟨phase', at_', follows.accrues (fun _ _ _ => .ofRound round) open_
      (moves.notified_once true) fun _ => ⟨rfl, place⟩⟩
  · -- Elsewhere the client does not look at what waits.
    have deaf : ∀ body, client.point = .body body → body.listens = false := by
      intro body here
      cases loud : body.listens with
      | false => rfl
      | true => exact absurd ⟨body, here, loud⟩ listens
    have moves := sound.moves (env.hearing [])
    rw [fsmStep_hearing [] deaf] at moves
    have nothing : (env.hearing []).incoming ≠ [] →
        transfer.Answers (phase.standing transfer.data.length).heard
          (env.hearing []).incoming 0 :=
      fun waits => absurd rfl waits
    obtain ⟨phase', at_', follows⟩ :=
      moves.follows sound acquired running started nothing at_
    exact ⟨phase', at_', follows.accrues (fun _ _ _ => .ofRound round) open_
      (moves.notified_once true) fun polled =>
        absurd (moves.listens_of_polled polled) listens⟩

/-- In a series, a step of the client follows the script. -/
theorem Takes.step
    (takes : client.Takes series caller tally)
    (sound : client.Sound series.client)
    (acquired : env.lockAcquired = true)
    (running : env.timerExpired = false)
    (started : env.timerStarted = true)
    (waits : env.incoming ≠ [] →
      series.Answers tally.heard env.incoming reached) :
    ∃ tally',
      DDClient.Takes series caller tally' (client.fsmStep env).1 ∧
      Accrues series.Asks env.incoming reached tally tally'
        (client.fsmStep env).2 := by
  have moves := sound.moves env
  cases takes with
  | rests rests delivered =>
      obtain ⟨rests, heap, bodies⟩ := moves.rests acquired rests
      exact ⟨_, .rests rests (heap ▸ delivered), accrues_of_body bodies⟩
  | called round given called =>
      obtain ⟨called | at_, bodies⟩ := moves.called acquired called
      · exact ⟨_, .called round given called, accrues_of_body bodies⟩
      · exact ⟨_, at_.takes round given, accrues_of_body bodies⟩
  | transfers round given at_ unfinished =>
      obtain ⟨phase', at_', accrues⟩ :=
        at_.step unfinished round sound acquired running started waits
      exact ⟨_, at_'.takes round given, accrues⟩

/-- In a series, a client that comes to rest has notified success. -/
theorem Takes.notified_of_rests
    (takes : client.Takes series caller tally)
    (sound : client.Sound series.client)
    (acquired : env.lockAcquired = true)
    (running : env.timerExpired = false)
    (started : env.timerStarted = true)
    (waits : env.incoming ≠ [] →
      series.Answers tally.heard env.incoming reached)
    (active : ¬client.Rests)
    (rests : Rests (client.fsmStep env).1) :
    .notified true ∈ (client.fsmStep env).2 := by
  have moves := sound.moves env
  cases takes with
  | rests resting => exact absurd resting active
  | called _ _ called =>
      rcases (moves.called acquired called).1 with still | at_
      · exact absurd rests still.not_rests
      · exact absurd rests (at_.not_rests (by simp))
  | @transfers count transfer _ phase _ round given at_ unfinished =>
      obtain ⟨phase', at_', accrues⟩ :=
        at_.step unfinished round sound acquired running started waits
      by_cases finished : phase' = .finished
      · subst finished
        have open_ :=
          phase.open_of_unfinished unfinished transfer.data.length
        have notifies : count + 1 =
            count + (phase.standing transfer.data.length).finished.toNat +
              (client.fsmStep env).2.count (.notified true) :=
          accrues.notifies
        rw [open_] at notifies
        apply List.count_pos_iff.mp
        exact Nat.pos_of_ne_zero fun none => by simp [none] at notifies
      · exact absurd rests (at_'.not_rests finished)

/-! ## Calls by the application -/

/-- A client that is not busy is at rest. -/
theorem Takes.tally_of_resting
    (takes : client.Takes series caller tally)
    (available : client.Available)
    (resting : client.isBusy = false) :
    tally = series.clientRest tally.notified := by
  cases takes with
  | rests | called => rfl
  | transfers round given at_ unfinished =>
      have site := at_.site
      rcases (available resting).2 with here | here
      · rw [here] at site
        cases site
        exact absurd rfl unfinished
      · rw [here] at site
        cases site
        rfl

/-- A client that accepts a transfer takes it up next. -/
theorem Takes.call
    {pointer : Pointer}
    {size : Nat}
    (takes : client.Takes series caller tally)
    (available : client.Available)
    (resting : client.isBusy = false)
    (fits : (series.data tally.notified).length ≤ size) :
    DDClient.Takes series pointer tally
      { client with
        internalBuffer := some pointer
        internalBufferLen := size
        nextState := .request } := by
  have round := series.round_roundInto tally.notified pointer size fits
  have rest := takes.tally_of_resting available resting
  obtain ⟨front, site⟩ := available resting
  have turned : Party.site
      { client with
        internalBuffer := some pointer
        internalBufferLen := size
        nextState := .request } = client.site ∨ _ :=
    Party.site_store _ .request
  rw [rest]
  by_cases waits : Party.site
      { client with
        internalBuffer := some pointer
        internalBufferLen := size
        nextState := .request } = .inl .idle
  · exact .called round rfl ⟨waits, front, rfl, rfl, rfl⟩
  · have setsOut : Party.site
        { client with
          internalBuffer := some pointer
          internalBufferLen := size
          nextState := .request } = .inl .request := by
      rcases turned with same | turned
      · rw [same] at waits ⊢
        exact site.resolve_left waits
      · exact turned
    exact (at_preparing setsOut rfl rfl).takes round rfl

end Takes

end DDClient

end DataDumpProtocol

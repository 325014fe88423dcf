import DataDumpProtocol.Transfer.EndToEnd

/-!
# The rounds of a series

The same two parties carry out one transfer after the other.  Each round is a
transfer in its own right, with the data that storage holds at its time, and
the scripts of the rounds make up one script: three messages of the client, and
a response and the data of the server, for each round.
-/

namespace DataDumpProtocol

/-- Two parties that fit each other, and what storage holds in each round. -/
structure Series where
  client : Parameters
  server : Parameters
  data : Nat → List Byte
  clientCallbacks : client.sendCB = true ∧ client.recvCB = true ∧
    client.appStatusCB = true
  serverCallbacks : server.sendCB = true ∧ server.recvCB = true ∧
    server.storageRead = true ∧ server.appStatusCB = true
  transactionID : client.transactionID ≠ 0#32
  clientBlocks : 1 ≤ client.blocksPerTransaction.toNat ∧
    client.blocksPerTransaction.toNat ≤ 127
  serverBlocks : 1 ≤ server.blocksPerTransaction.toNat ∧
    server.blocksPerTransaction.toNat ≤ 127
  packetlen : 11 ≤ server.maxPacketlen.toNat ∧
    server.maxPacketlen.toNat ≤ client.maxPacketlen.toNat
  nonempty : ∀ round, 1 ≤ (data round).length
  bounded : ∀ round, (data round).length ≤ (server.maxPacketlen.toNat - 5) *
    min client.blocksPerTransaction.toNat server.blocksPerTransaction.toNat

/-! ## Rounds -/

namespace FirstTransfer

variable {transfer transfer' : FirstTransfer} {here there : Nat}
variable {bytes : List Byte}

/-- The client's script depends on the parties alone. -/
theorem Asks.congr
    (asks : transfer.Asks here bytes there)
    (client : transfer'.client = transfer.client)
    (server : transfer'.server = transfer.server) :
    transfer'.Asks here bytes there := by
  have same : transfer'.agreed = transfer.agreed := by
    rw [agreed, client, server]
    rfl
  cases asks with
  | request control => exact .request (client ▸ control)
  | initiate control => exact .initiate (same ▸ control)
  | ack control => exact .ack (client ▸ control)

/-- The server's script depends on the parties and the data alone. -/
theorem Answers.congr
    (answers : transfer.Answers here bytes there)
    (client : transfer'.client = transfer.client)
    (server : transfer'.server = transfer.server)
    (data : transfer'.data = transfer.data) :
    transfer'.Answers here bytes there := by
  have same : transfer'.agreed = transfer.agreed := by
    rw [agreed, client, server]
    rfl
  cases answers with
  | response control => exact .response (same ▸ control)
  | block slice =>
      refine .block ?_
      exact
        { crc := slice.crc
          size := slice.size
          nonempty := slice.nonempty
          room := server ▸ slice.room
          slice := data ▸ slice.slice
          within := data ▸ slice.within
          last := data ▸ slice.last }

/-- The client's script has three messages. -/
theorem Asks.lt_three (asks : transfer.Asks here bytes there) : here < 3 := by
  cases asks <;> omega

/-- The server's script ends with the data. -/
theorem Answers.le_length (answers : transfer.Answers here bytes there) :
    here ≤ transfer.data.length := by
  cases answers with
  | response => omega
  | block slice =>
      have some_ := List.length_pos_iff.mpr slice.nonempty
      have within := slice.within
      omega

end FirstTransfer

namespace Series

variable {series : Series} {count count' : Nat}
variable {transfer transfer' : FirstTransfer}

/-- The transfer is one of this round, into whatever buffer. -/
structure Round
    (series : Series)
    (count : Nat)
    (transfer : FirstTransfer) : Prop where
  client : transfer.client = series.client
  server : transfer.server = series.server
  data : transfer.data = series.data count

/-- The transfer of a round into this buffer. -/
def roundInto
    (series : Series)
    (count : Nat)
    (buffer : Pointer)
    (size : Nat)
    (fits : (series.data count).length ≤ size) : FirstTransfer where
  client := series.client
  server := series.server
  buffer := buffer
  size := size
  data := series.data count
  clientCallbacks := series.clientCallbacks
  serverCallbacks := series.serverCallbacks
  transactionID := series.transactionID
  clientBlocks := series.clientBlocks
  serverBlocks := series.serverBlocks
  packetlen := series.packetlen
  nonempty := series.nonempty count
  bounded := series.bounded count
  fits := fits

theorem round_roundInto
    (series : Series)
    (count : Nat)
    (buffer : Pointer)
    (size : Nat)
    (fits : (series.data count).length ≤ size) :
    series.Round count (series.roundInto count buffer size fits) :=
  ⟨rfl, rfl, rfl⟩

/-! ## Scripts -/

/-- The place in the server's script at which a round starts. -/
def start (series : Series) : Nat → Nat
  | 0 => 0
  | count + 1 => series.start count + (1 + (series.data count).length)

theorem start_lt
    (series : Series)
    (before : count < count') :
    series.start count + (1 + (series.data count).length) ≤
      series.start count' := by
  induction count' with
  | zero => omega
  | succ count' inductionHypothesis =>
      rw [start]
      rcases Nat.lt_succ_iff_lt_or_eq.mp before with earlier | rfl
      · exact (inductionHypothesis earlier).trans (Nat.le_add_right _ _)
      · exact Nat.le_refl _

/-- A place in the server's script belongs to one round. -/
theorem start_inj
    {here here' : Nat}
    (within : here ≤ (series.data count).length)
    (within' : here' ≤ (series.data count').length)
    (same : series.start count + here = series.start count' + here') :
    count = count' ∧ here = here' := by
  rcases Nat.lt_trichotomy count count' with before | rfl | after
  · have apart := series.start_lt before
    omega
  · exact ⟨rfl, by omega⟩
  · have apart := series.start_lt after
    omega

/-- The client's script for all rounds. -/
inductive Asks (series : Series) : Nat → List Byte → Nat → Prop
  | ofRound {count : Nat} {transfer : FirstTransfer} {here : Nat}
      {bytes : List Byte} {there : Nat}
      (round : series.Round count transfer)
      (asks : transfer.Asks here bytes there) :
      Asks series (3 * count + here) bytes (3 * count + there)

/-- The server's script for all rounds. -/
inductive Answers (series : Series) : Nat → List Byte → Nat → Prop
  | ofRound {count : Nat} {transfer : FirstTransfer} {here : Nat}
      {bytes : List Byte} {there : Nat}
      (round : series.Round count transfer)
      (answers : transfer.Answers here bytes there) :
      Answers series (series.start count + here) bytes
        (series.start count + there)

section Scripts

variable {here there : Nat} {bytes : List Byte}

theorem Asks.ne_nil (asks : series.Asks here bytes there) : bytes ≠ [] := by
  obtain ⟨-, asks⟩ := asks
  exact asks.ne_nil

theorem Answers.ne_nil (answers : series.Answers here bytes there) :
    bytes ≠ [] := by
  obtain ⟨-, answers⟩ := answers
  exact answers.ne_nil

theorem Asks.lt (asks : series.Asks here bytes there) : here < there := by
  obtain ⟨-, asks⟩ := asks
  exact Nat.add_lt_add_left asks.lt _

theorem Answers.lt (answers : series.Answers here bytes there) :
    here < there := by
  obtain ⟨-, answers⟩ := answers
  exact Nat.add_lt_add_left answers.lt _

/-- Within a round, the client's script is that of the round. -/
theorem Asks.inRound
    (round : series.Round count transfer)
    (within : here < 3)
    (asks : series.Asks (3 * count + here) bytes there) :
    ∃ next, transfer.Asks here bytes next ∧ there = 3 * count + next := by
  generalize place : 3 * count + here = start at asks
  obtain @⟨count', transfer', here', _, next, round', asks⟩ := asks
  have within' := asks.lt_three
  obtain ⟨rfl, rfl⟩ : count = count' ∧ here = here' := by omega
  exact ⟨next,
    asks.congr (round.client.trans round'.client.symm)
      (round.server.trans round'.server.symm),
    rfl⟩

/-- Within a round, the server's script is that of the round. -/
theorem Answers.inRound
    (round : series.Round count transfer)
    (within : here ≤ transfer.data.length)
    (answers : series.Answers (series.start count + here) bytes there) :
    ∃ next, transfer.Answers here bytes next ∧
      there = series.start count + next := by
  generalize place : series.start count + here = start at answers
  obtain @⟨count', transfer', here', _, next, round', answers⟩ := answers
  have within' := answers.le_length
  rw [round.data] at within
  rw [round'.data] at within'
  obtain ⟨rfl, rfl⟩ := start_inj within within' place
  exact ⟨next,
    answers.congr (round.client.trans round'.client.symm)
      (round.server.trans round'.server.symm)
      (round.data.trans round'.data.symm),
    rfl⟩

end Scripts

end Series

/-! ## Following the scripts -/

/-- Where a side stands in a series: the place in its own script up to which it
has sent, the place in the other side's script up to which it has heard, and
how often the application was notified. -/
structure Tally where
  sent : Nat
  heard : Nat
  notified : Nat

/-- The tally of a side that stands here in its round, given the places at
which the round starts in both scripts. -/
def Standing.tally (standing : Standing) (sent heard count : Nat) : Tally where
  sent := sent + standing.sent
  heard := heard + standing.heard
  notified := count + standing.finished.toNat

/-- What a step shows to the outside when it leads from one tally to another,
given the frame that waits and the place behind it. -/
structure Accrues
    (leads : Nat → List Byte → Nat → Prop)
    (incoming : List Byte)
    (reached : Nat)
    (tally tally' : Tally)
    (events : List Event) : Prop where
  sends : (tally'.sent = tally.sent ∧ ∀ bytes, .sent bytes true ∉ events) ∨
    ∃ bytes, events = [.sent bytes true] ∧ leads tally.sent bytes tally'.sent
  hears : tally'.heard =
    if .polled ∈ events ∧ incoming ≠ [] then reached else tally.heard
  truthful : ∀ status, .notified status ∈ events → status = true
  notifies : tally'.notified =
    tally.notified + events.count (.notified true)

section Accrues

variable {leads leads' : Nat → List Byte → Nat → Prop}
variable {incoming : List Byte} {reached reached' : Nat}
variable {tally : Tally} {standing standing' : Standing}
variable {env : Environment} {events : List Event}

/-- A step that shows nothing. -/
theorem accrues_of_quiet
    (unsent : ∀ bytes, .sent bytes true ∉ events)
    (unpolled : .polled ∉ events)
    (unnotified : ∀ status, .notified status ∉ events) :
    Accrues leads incoming reached tally tally events where
  sends := .inl ⟨rfl, unsent⟩
  hears := by simp [unpolled]
  truthful status notified := absurd notified (unnotified status)
  notifies := by simp [List.count_eq_zero.mpr (unnotified true)]

/-- A body that begins shows nothing. -/
theorem accrues_of_body
    (bodies : ∀ event ∈ events, event.isBody = true) :
    Accrues leads incoming reached tally tally events := by
  apply accrues_of_quiet
  · exact fun bytes sent => by simpa [Event.isBody] using bodies _ sent
  · exact fun polled => by simpa [Event.isBody] using bodies _ polled
  · exact fun status notified => by
      simpa [Event.isBody] using bodies _ notified

/-- A step that follows the script of a round accrues in that of the
series. -/
theorem Follows.accrues
    {sent heard count : Nat}
    (follows : Follows leads env reached standing standing' events)
    (lift : ∀ here bytes there, leads here bytes there →
      leads' (sent + here) bytes (sent + there))
    (unfinished : standing.finished = false)
    (once : events.count (.notified true) ≤ 1)
    (hears : .polled ∈ events → env.incoming = incoming ∧
      (incoming ≠ [] → reached' = heard + reached)) :
    Accrues leads' incoming reached' (standing.tally sent heard count)
      (standing'.tally sent heard count) events where
  sends := by
    rcases follows.sends with ⟨same, unsent⟩ | ⟨bytes, only, next⟩
    · exact .inl ⟨congrArg (sent + ·) same, unsent⟩
    · exact .inr ⟨bytes, only, lift _ _ _ next⟩
  hears := by
    have heard := follows.hears
    by_cases polled : .polled ∈ events
    · obtain ⟨same, reaches⟩ := hears polled
      rw [same] at heard
      simp only [Standing.tally, heard, polled, true_and]
      split
      next waits => exact (reaches waits).symm
      next => rfl
    · simp [Standing.tally, heard, polled]
  truthful status notified := (follows.notifies status notified).1
  notifies := by
    have finishes := follows.finishes
    rw [unfinished] at finishes
    simp only [Standing.tally, unfinished, Bool.toNat_false, Nat.add_zero]
    by_cases notified : .notified true ∈ events
    · rw [finishes.mpr (.inr notified), Bool.toNat_true,
        Nat.le_antisymm once (List.one_le_count_iff.mpr notified)]
    · have still : standing'.finished = false := by
        simpa [notified] using finishes
      rw [still, List.count_eq_zero.mpr notified, Bool.toNat_false]

end Accrues

end DataDumpProtocol

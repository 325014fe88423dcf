import DataDumpProtocol.Library.Undefined
import DataDumpProtocol.Network.Delivery
import DataDumpProtocol.Series.Client
import DataDumpProtocol.Series.Server
import DataDumpProtocol.Server.Pointer

/-!
# A series of transfers is correct from end to end

As long as nothing fails and the server stays inside its staging buffer, the
channels bridge the scripts of client and server through all rounds.  The
application may call `startServer` and `startNewTransfer` whenever it likes.
-/

namespace DataDumpProtocol

/-! ## The channels and the notifications -/

/-- What a side sends goes on with the script of the series. -/
theorem Accrues.posted
    {leads : Nat → List Byte → Nat → Prop}
    {incoming : List Byte}
    {heard reached : Nat}
    {tally tally' : Tally}
    {channel : List Frame}
    {stamp : List Byte → Frame}
    {events : List Event}
    (accrues : Accrues leads incoming reached tally tally' events)
    (bridges : Bridges (fun here frame => leads here frame.bytes) heard
      channel tally.sent)
    (same : ∀ bytes, (stamp bytes).bytes = bytes) :
    Bridges (fun here frame => leads here frame.bytes) heard
      (channel ++ Channel.posted stamp events) tally'.sent := by
  rcases accrues.sends with ⟨sent, unsent⟩ | ⟨bytes, rfl, next⟩
  · rw [Channel.posted_of_unsent unsent, List.append_nil, sent]
    exact bridges
  · refine bridges.append (Bridges.singleton ?_)
    rw [same]
    exact next

/-- A side has notified success so often, and nothing else. -/
structure Reported
    (side : Event → Observation)
    (count : Nat)
    (trace : List Observation) : Prop where
  truthful : ∀ status, side (.notified status) ∈ trace → status = true
  count : count = trace.count (side (.notified true))

section Reported

variable {side : Event → Observation} {count : Nat}
variable {trace observations : List Observation}

/-- Observations of the other side change nothing. -/
theorem Reported.aside
    (reported : Reported side count trace)
    (others : ∀ event, side event ∉ observations) :
    Reported side count (trace ++ observations) where
  truthful status notified := by
    rcases List.mem_append.mp notified with old | new
    · exact reported.truthful status old
    · exact absurd new (others _)
  count := by
    rw [List.count_append, List.count_eq_zero.mpr (others _), Nat.add_zero]
    exact reported.count

/-- A step of the script reports truthfully. -/
theorem Reported.advance
    {leads : Nat → List Byte → Nat → Prop}
    {incoming : List Byte}
    {reached : Nat}
    {tally tally' : Tally}
    {events : List Event}
    (reported : Reported side tally.notified trace)
    (accrues : Accrues leads incoming reached tally tally' events)
    (injective : Function.Injective side) :
    Reported side tally'.notified (trace ++ events.map side) where
  truthful status notified := by
    rcases List.mem_append.mp notified with old | new
    · exact reported.truthful status old
    · exact accrues.truthful status
        ((List.mem_map_of_injective injective).mp new)
  count := by
    rw [accrues.notifies, reported.count, List.count_append,
      List.count_map_of_injective _ _ injective]

end Reported

/-! ## The parties -/

namespace DDClient

variable {client client' : DDClient} {env : Environment}
variable {events : List Event}

/-- Only the application hands over a buffer. -/
theorem Moves.caller_eq
    (moves : client.Moves env client' events)
    (heard : Frame)
    (history : History) :
    (events.foldl (.noteClient heard) history).caller = history.caller := by
  refine Trace.foldl_keeps History.caller
    (fun event present history => ?_) history
  cases event with
  | transferStarted => simpa [Event.isCall] using moves.not_call present
  | _ => rfl

/-- A client that has just notified rests. -/
theorem Moves.rests_of_notified
    {status : Bool}
    (moves : client.Moves env client' events)
    (notified : .notified status ∈ events) :
    client'.Rests := by
  cases moves with
  | terminate => exact ⟨Party.site_of_leave rfl, .inl rfl⟩
  | retry here unsent =>
      obtain ⟨frame, impossible⟩ := unsent _ notified
      simp at impossible
  | giveUp here givesUp =>
      rcases givesUp.mem notified with impossible | ⟨frame, impossible⟩ <;>
        simp at impossible
  | _ => simp at notified

/-- A call that is not refused takes the buffer. -/
theorem step_startNewTransfer
    (client : DDClient)
    (buffer : Option Pointer)
    (size : Nat)
    (acquired : env.lockAcquired = true) :
    client.step (.startNewTransfer buffer size env) = (client, []) ∨
      ∃ pointer, 0 < size ∧ client.isBusy = false ∧
        client.step (.startNewTransfer buffer size env) =
          ({ client with
              internalBuffer := some pointer
              internalBufferLen := size
              nextState := .request },
            [.transferStarted pointer size]) := by
  rcases client.startNewTransfer_cases buffer size env with
    refused | ⟨pointer, rfl, positive, resting, accepted⟩
  · left
    cases buffer <;> simp [step, refused]
  · refine .inr ⟨pointer, positive, resting, ?_⟩
    simp only [step, accepted]
    rw [DataDump.setNextFSMState_of_acquired _ _ acquired]
    rfl

end DDClient

namespace DDServer

variable {server : DDServer} {env : Environment}

/-- What is known about the data stays in the history. -/
theorem Serves.congr
    {series : Series}
    {history history' : History}
    {tally : Tally}
    (serves : server.Serves series history tally)
    (supply : history'.supply = history.supply) :
    server.Serves series history' tally := by
  cases serves with
  | asleep asleep =>
      exact .asleep ⟨asleep.site, asleep.front, asleep.next, asleep.fits,
        asleep.supplies.congr supply⟩
  | serves round at_ unfinished =>
      exact .serves round (at_.congr supply) unfinished

/-- A call that is not refused stores `REQUEST`. -/
theorem step_startServer
    (server : DDServer)
    (acquired : env.lockAcquired = true) :
    server.step (.startServer env) = (server, []) ∨
      server.isBusy = false ∧
        server.step (.startServer env) =
          ({ server with nextState := .request }, [.serverStarted]) := by
  by_cases resting : server.isBusy = false
  · refine .inr ⟨resting, ?_⟩
    simp only [step, startServer, if_pos resting]
    rw [DataDump.setNextFSMState_of_acquired _ _ acquired]
  · left
    simp [step, startServer, resting]

end DDServer

/-! ## Runs -/

/-- Locks are acquired, and the timer starts and does not expire. -/
def Environment.Steady (env : Environment) : Prop :=
  env.lockAcquired = true ∧ env.timerStarted = true ∧
    env.timerExpired = false

instance (env : Environment) : Decidable env.Steady :=
  inferInstanceAs (Decidable (_ ∧ _ ∧ _))

namespace Series

/-- Nothing fails: storage holds the data of the round that the server has come
to, and reports zero for an erasing call of size zero.  A buffer that the
client accepts has room for the data of the round that it has come to. -/
def Admits
    (series : Series)
    (network : Network)
    (trace : List Observation) : Network.Action → Prop
  | .client (.fsm env) _ => env.Steady
  | .client (.startNewTransfer _ size env) _ =>
      env.lockAcquired = true ∧
        (network.client.isBusy = false → 0 < size →
          (series.data (trace.count (.client (.notified true)))).length ≤ size)
  | .server (.fsm env) _ =>
      env.Steady ∧
        (∀ maxSize, env.stored maxSize =
          (series.data (trace.count (.server (.notified true)))).take
            maxSize) ∧
        env.erased 0 = 0
  | .server (.startServer env) _ => env.lockAcquired = true
  | .server (.stopServer _) _ | .disturb _ _ => False

/-- Both sides follow their scripts, and the channels bridge them. -/
structure Proceeds
    (series : Series)
    (network : Network)
    (trace : List Observation)
    (clientTally serverTally : Tally) : Prop where
  client : network.client.Takes series network.history.caller clientTally
  server : network.server.Serves series network.history serverTally
  toServer : Bridges (fun here frame => series.Asks here frame.bytes)
    serverTally.heard network.toServer clientTally.sent
  toClient : Bridges (fun here frame => series.Answers here frame.bytes)
    clientTally.heard network.toClient serverTally.sent
  clientReported : Reported .client clientTally.notified trace
  serverReported : Reported .server serverTally.notified trace
  clientPatient : network.client.Patient
  serverPatient : network.server.toParty.Patient
  clientAvailable : network.client.Available
  serverAvailable : network.server.toParty.Available
  rests : ∀ before status,
    trace = before ++ [.client (.notified status)] → network.client.Rests

section Proceeds

variable {series : Series} {network : Network} {trace : List Observation}
variable {clientTally serverTally : Tally} {env : Environment}

/-- Nothing was observed, or what was observed last is new. -/
theorem last_of_append
    {before observations : List Observation}
    {last : Observation}
    (split : trace ++ observations = before ++ [last]) :
    observations = [] ∧ trace = before ++ [last] ∨ last ∈ observations := by
  rcases List.eq_nil_or_concat observations with rfl | ⟨init, final, rfl⟩
  · exact .inl ⟨rfl, by simpa using split⟩
  · right
    rw [List.concat_eq_append, ← List.append_assoc] at split
    have same := List.append_inj_right' split rfl
    simp [List.concat_eq_append, same]

theorem Proceeds.afterClient
    {client : DDClient}
    {clientTally' : Tally}
    {events : List Event}
    {reached : Nat}
    {arrives : Bool}
    (proceeds : series.Proceeds network trace clientTally serverTally)
    (moves : network.client.Moves env client events)
    (sound : network.client.Sound series.client)
    (acquired : env.lockAcquired = true)
    (takes : client.Takes series network.history.caller clientTally')
    (accrues : Accrues series.Asks
      (Channel.heard network.toClient arrives).bytes reached clientTally
      clientTally' events)
    (behind : Bridges (fun here frame => series.Answers here frame.bytes)
      clientTally'.heard
      (Channel.taken network.toClient arrives events) serverTally.sent) :
    series.Proceeds (network.afterClient arrives client events)
      (trace ++ events.map .client) clientTally' serverTally where
  client := by
    simp only [Network.afterClient]
    rw [moves.caller_eq]
    exact takes
  server := proceeds.server.congr (History.supply_noteClient events _ _)
  toServer := accrues.posted proceeds.toServer fun _ => rfl
  toClient := behind
  clientReported :=
    proceeds.clientReported.advance accrues fun _ _ => Observation.client.inj
  serverReported := proceeds.serverReported.aside (by simp)
  clientPatient := moves.patient acquired proceeds.clientPatient
  serverPatient := proceeds.serverPatient
  clientAvailable :=
    moves.available sound acquired proceeds.clientPatient
      proceeds.clientAvailable
  serverAvailable := proceeds.serverAvailable
  rests before status split := by
    rcases last_of_append split with ⟨nothing, old⟩ | notified
    · have rests := proceeds.rests before status old
      exact (moves.rests acquired rests).1
    · exact moves.rests_of_notified (by simpa using notified)

theorem Proceeds.clientStep
    (proceeds : series.Proceeds network trace clientTally serverTally)
    (sound : network.client.Sound series.client)
    (steady : env.Steady)
    (arrives : Bool) :
    ∃ clientTally', series.Proceeds
      (network.step (.client (.fsm env) arrives)).1
      (trace ++ (network.step (.client (.fsm env) arrives)).2)
      clientTally' serverTally := by
  obtain ⟨reached, waits, behind⟩ :=
    Channel.bridges_taken proceeds.toClient (fun _ _ _ => Answers.ne_nil)
      arrives
  have acquired : (env.hearing
      (Channel.heard network.toClient arrives).bytes).lockAcquired = true :=
    steady.1
  obtain ⟨clientTally', takes, accrues⟩ :=
    proceeds.client.step sound acquired steady.2.2 steady.2.1 waits
  refine ⟨clientTally', proceeds.afterClient (sound.moves _) sound acquired
    takes accrues ?_⟩
  rw [accrues.hears]
  exact behind _

theorem Proceeds.clientCall
    (proceeds : series.Proceeds network trace clientTally serverTally)
    (buffer : Option Pointer)
    (size : Nat)
    (acquired : env.lockAcquired = true)
    (fits : network.client.isBusy = false → 0 < size →
      (series.data (trace.count (.client (.notified true)))).length ≤ size)
    (arrives : Bool) :
    series.Proceeds
      (network.step (.client (.startNewTransfer buffer size env) arrives)).1
      (trace ++
        (network.step (.client (.startNewTransfer buffer size env) arrives)).2)
      clientTally serverTally := by
  simp only [Network.step, DDClient.Action.hearing]
  rcases network.client.step_startNewTransfer buffer size acquired with
    refused | ⟨pointer, positive, resting, accepted⟩
  · rw [refused]
    simpa [Network.afterClient, Channel.posted, Channel.taken] using proceeds
  · rw [accepted]
    have fits := fits resting positive
    rw [← proceeds.clientReported.count] at fits
    exact
      { client :=
          proceeds.client.call proceeds.clientAvailable resting fits
        server := proceeds.server.congr rfl
        toServer := by
          simpa [Network.afterClient, Channel.posted] using proceeds.toServer
        toClient := by
          simpa [Network.afterClient, Channel.taken] using proceeds.toClient
        clientReported :=
          { truthful := by simpa using proceeds.clientReported.truthful
            count := by simpa using proceeds.clientReported.count }
        serverReported := proceeds.serverReported.aside (by simp)
        clientPatient := proceeds.clientPatient.store (.inr rfl) trivial
        serverPatient := proceeds.serverPatient
        clientAvailable := proceeds.clientAvailable.store (.inr rfl)
        serverAvailable := proceeds.serverAvailable
        rests := fun before status split => by
          rcases last_of_append split with ⟨nothing, -⟩ | notified
          · simp at nothing
          · simp at notified }

theorem Proceeds.serverStep
    (proceeds : series.Proceeds network trace clientTally serverTally)
    (sound : network.server.Sound series.server)
    (steady : env.Steady)
    (stored : ∀ maxSize, env.stored maxSize =
      (series.data (trace.count (.server (.notified true)))).take maxSize)
    (erased : env.erased 0 = 0)
    (arrives : Bool) :
    ∃ serverTally', series.Proceeds
      (network.step (.server (.fsm env) arrives)).1
      (trace ++ (network.step (.server (.fsm env) arrives)).2)
      clientTally serverTally' := by
  obtain ⟨reached, waits, behind⟩ :=
    Channel.bridges_taken proceeds.toServer (fun _ _ _ => Asks.ne_nil) arrives
  have acquired : (env.hearing
      (Channel.heard network.toServer arrives).bytes).lockAcquired = true :=
    steady.1
  rw [← proceeds.serverReported.count] at stored
  obtain ⟨serverTally', serves, accrues⟩ :=
    proceeds.server.step sound acquired steady.2.2 stored erased waits
      (Channel.heard network.toServer arrives)
  have moves := sound.moves
    (env.hearing (Channel.heard network.toServer arrives).bytes)
  have caller := congrArg Prod.fst
    (History.gathered_noteServer
      (network.server.fsmStep
        (env.hearing (Channel.heard network.toServer arrives).bytes)).2
      (Channel.heard network.toServer arrives) network.history)
  refine ⟨serverTally', ?_⟩
  constructor
  case client =>
    have takes := proceeds.client
    rw [← show _ = network.history.caller from caller] at takes
    exact takes
  case server => exact serves
  case toServer =>
    rw [accrues.hears]
    exact behind _
  case toClient => exact accrues.posted proceeds.toClient fun _ => rfl
  case clientReported =>
    exact proceeds.clientReported.aside (by simp [Network.step])
  case serverReported =>
    exact proceeds.serverReported.advance accrues
      fun _ _ => Observation.server.inj
  case clientPatient => exact proceeds.clientPatient
  case serverPatient => exact moves.patient acquired proceeds.serverPatient
  case clientAvailable => exact proceeds.clientAvailable
  case serverAvailable =>
    exact moves.available sound acquired proceeds.serverPatient
      proceeds.serverAvailable
  case rests =>
    intro before status split
    rcases last_of_append split with ⟨-, old⟩ | notified
    · exact proceeds.rests before status old
    · simp [Network.step] at notified

theorem Proceeds.serverCall
    (proceeds : series.Proceeds network trace clientTally serverTally)
    (acquired : env.lockAcquired = true)
    (arrives : Bool) :
    series.Proceeds
      (network.step (.server (.startServer env) arrives)).1
      (trace ++ (network.step (.server (.startServer env) arrives)).2)
      clientTally serverTally := by
  simp only [Network.step, DDServer.Action.hearing]
  rcases network.server.step_startServer acquired with
    refused | ⟨resting, accepted⟩
  · rw [refused]
    simpa [Network.afterServer, Channel.posted, Channel.taken] using proceeds
  · rw [accepted]
    exact
      { client := proceeds.client
        server := proceeds.server.call proceeds.serverAvailable resting
        toServer := by
          simpa [Network.afterServer, Channel.taken] using proceeds.toServer
        toClient := by
          simpa [Network.afterServer, Channel.posted] using proceeds.toClient
        clientReported := proceeds.clientReported.aside (by simp)
        serverReported :=
          { truthful := by simpa using proceeds.serverReported.truthful
            count := by simpa using proceeds.serverReported.count }
        clientPatient := proceeds.clientPatient
        serverPatient := proceeds.serverPatient.store (.inr rfl) trivial
        clientAvailable := proceeds.clientAvailable
        serverAvailable := proceeds.serverAvailable.store (.inr rfl)
        rests := fun before status split => by
          rcases last_of_append split with ⟨nothing, -⟩ | notified
          · simp at nothing
          · simp at notified }

end Proceeds

/-- Both sides are at the beginning of their scripts. -/
theorem proceeds_new
    (series : Series)
    (clientHeap serverHeap : Heap) :
    series.Proceeds
      (Network.new series.client series.server clientHeap serverHeap) []
      (series.clientRest 0) ⟨0, 0, 0⟩ where
  client := .rests ⟨rfl, .inr rfl⟩ (by simp)
  server := .asleep
    { site := rfl
      front := by simp [Network.new, DDServer.new]
      next := .inl rfl
      fits := DDServer.fits_of_empty rfl
      supplies :=
        DDServer.supplies_of_empty (by simp [Network.new, DDServer.new]) rfl }
  toServer := rfl
  toClient := rfl
  clientReported := ⟨by simp, rfl⟩
  serverReported := ⟨by simp, rfl⟩
  clientPatient := trivial
  serverPatient := trivial
  clientAvailable _ := ⟨by simp [Network.new, DDClient.new], .inl rfl⟩
  serverAvailable _ := ⟨by simp [Network.new, DDServer.new], .inl rfl⟩
  rests := by simp

section Runs

variable {series : Series} {clientHeap serverHeap : Heap}
variable {network : Network} {trace : List Observation}

/-- In every run of a series, both sides follow their scripts. -/
theorem proceeds_of_reaches
    (reaches : Network.machine.Reaches series.Admits
      (Network.new series.client series.server clientHeap serverHeap)
      network trace) :
    ∃ clientTally serverTally,
      series.Proceeds network trace clientTally serverTally := by
  refine (reaches.invariant
    (fun network trace =>
      network.Sound series.client series.server ∧
        ∃ clientTally serverTally,
          series.Proceeds network trace clientTally serverTally)
    ⟨Network.sound_new _ _ _ _, _, _,
      series.proceeds_new clientHeap serverHeap⟩ ?_).2
  rintro network trace action ⟨sound, clientTally, serverTally, proceeds⟩
    admitted
  refine ⟨(sound.steps action).sound sound, ?_⟩
  cases action with
  | client action arrives =>
      cases action with
      | fsm env =>
          obtain ⟨clientTally', proceeds'⟩ :=
            proceeds.clientStep sound.client admitted arrives
          exact ⟨clientTally', serverTally, proceeds'⟩
      | startNewTransfer buffer size env =>
          exact ⟨clientTally, serverTally,
            proceeds.clientCall buffer size admitted.1 admitted.2 arrives⟩
  | server action arrives =>
      cases action with
      | fsm env =>
          obtain ⟨steady, stored, erased⟩ := admitted
          obtain ⟨serverTally', proceeds'⟩ :=
            proceeds.serverStep sound.server steady stored erased arrives
          exact ⟨clientTally, serverTally', proceeds'⟩
      | startServer env =>
          exact ⟨clientTally, serverTally,
            proceeds.serverCall admitted arrives⟩
      | stopServer => exact admitted.elim
  | disturb => exact admitted.elim

end Runs

end Series

/-! ## What the tallies tell -/

namespace DDClient

variable {series : Series} {caller : Pointer} {tally : Tally}
variable {client : DDClient}

/-- A client that rests has the data of its last round. -/
theorem Takes.delivered
    (takes : client.Takes series caller tally)
    (rests : client.Rests)
    {last : Nat}
    (notified : tally.notified = last + 1) :
    client.heap.bytes caller (series.data last).length = series.data last := by
  cases takes with
  | rests _ delivered => exact delivered last notified
  | called _ _ called => exact absurd rests called.not_rests
  | transfers _ _ at_ unfinished =>
      exact absurd rests (at_.not_rests unfinished)

/-- A client is in the round behind those that it has notified. -/
theorem Takes.bounds (takes : client.Takes series caller tally) :
    tally.sent ≤ 3 * tally.notified + 3 ∧
      series.start tally.notified ≤ tally.heard := by
  cases takes with
  | rests | called => exact ⟨Nat.le_add_right _ 3, Nat.le_refl _⟩
  | @transfers _ transfer _ phase _ _ _ _ unfinished =>
      have open_ := phase.open_of_unfinished unfinished transfer.data.length
      have sent := phase.sent_le transfer.data.length
      simp only [Standing.tally, open_, Bool.toNat_false]
      exact ⟨by omega, Nat.le_add_right _ _⟩

/-- Where a client stands that waits. -/
theorem Takes.of_waits
    {channel : List Frame}
    (takes : client.Takes series caller tally)
    (waits : client.Waits channel) :
    client.site = .inl .idle ∧ tally = series.clientRest tally.notified ∨
      channel = [] ∧
        (tally.sent = 3 * tally.notified + 1 ∧
            tally.heard = series.start tally.notified ∨
          tally.sent = 3 * tally.notified + 2 ∧
            tally.heard < series.start (tally.notified + 1)) := by
  cases takes with
  | rests rests => exact .inl ⟨rests.1, rfl⟩
  | called _ _ called => exact .inl ⟨called.site, rfl⟩
  | transfers round _ at_ unfinished =>
      obtain ⟨empty, rfl | ⟨stored, more, rfl⟩⟩ :=
        (at_.of_waits waits).resolve_left unfinished
      · exact .inr ⟨empty, .inl ⟨rfl, rfl⟩⟩
      · refine .inr ⟨empty, .inr ⟨rfl, ?_⟩⟩
        rw [round.data] at more
        simp only [Standing.tally, ClientPhase.standing, Series.start,
          Bool.toNat_false, Nat.add_zero]
        omega

end DDClient

namespace DDServer

variable {series : Series} {history : History} {tally : Tally}
variable {server : DDServer}

theorem At.sent_le
    {transfer : FirstTransfer}
    {phase : ServerPhase}
    (at_ : server.At transfer history phase) :
    (phase.standing transfer.data.length).sent ≤
      1 + transfer.data.length := by
  have site := at_.site
  generalize server.toParty.site = here at site
  cases site <;> simp only [ServerPhase.standing] <;> omega

/-- A server is in the round behind those that it has notified. -/
theorem Serves.bounds (serves : server.Serves series history tally) :
    3 * tally.notified ≤ tally.heard ∧
      tally.sent ≤ series.start (tally.notified + 1) := by
  cases serves with
  | asleep => exact ⟨Nat.zero_le _, Nat.zero_le _⟩
  | @serves _ transfer phase _ round at_ unfinished =>
      have open_ := phase.open_of_unfinished unfinished transfer.data.length
      have sent := at_.sent_le
      simp only [Standing.tally, open_, Bool.toNat_false, Nat.add_zero,
        Series.start, ← round.data]
      exact ⟨Nat.le_add_right _ _, Nat.add_le_add_left sent _⟩

/-- Where a server stands that was started and waits. -/
theorem Serves.of_waits
    {channel : List Frame}
    (serves : server.Serves series history tally)
    (waits : server.Waits channel)
    (awake : server.toParty.site ≠ .inl .idle) :
    channel = [] ∧
      (tally.heard = 3 * tally.notified ∧
          tally.sent = series.start tally.notified ∨
        tally.heard = 3 * tally.notified + 1 ∧
          tally.sent = series.start tally.notified + 1 ∨
        tally.heard = 3 * tally.notified + 2 ∧
          tally.sent = series.start (tally.notified + 1)) := by
  cases serves with
  | asleep asleep => exact absurd asleep.site awake
  | serves round at_ unfinished =>
      obtain ⟨empty, rfl | rfl | rfl | rfl⟩ := at_.of_waits waits
      · exact ⟨empty, .inl ⟨rfl, rfl⟩⟩
      · exact ⟨empty, .inr (.inl ⟨rfl, rfl⟩)⟩
      · refine ⟨empty, .inr (.inr ⟨rfl, ?_⟩)⟩
        rw [round.data]
        rfl
      · exact absurd rfl unfinished

end DDServer

namespace Series

variable {series : Series} {network : Network} {trace : List Observation}
variable {clientTally serverTally : Tally}

/-- Neither side is more than one notification ahead of the other. -/
theorem Proceeds.in_step
    (proceeds : series.Proceeds network trace clientTally serverTally) :
    serverTally.notified ≤ clientTally.notified + 1 ∧
      clientTally.notified ≤ serverTally.notified + 1 := by
  have client := proceeds.client.bounds
  have server := proceeds.server.bounds
  have asked := proceeds.toServer.le fun _ _ _ asks => asks.lt.le
  have answered := proceeds.toClient.le fun _ _ _ answers => answers.lt.le
  refine ⟨by omega, ?_⟩
  by_contra ahead
  have apart := series.start_lt (Nat.lt_of_not_le ahead)
  omega

/-- When both sides wait, both have finished the same rounds. -/
theorem Proceeds.of_waits
    (proceeds : series.Proceeds network trace clientTally serverTally)
    (client : network.client.Waits network.toClient)
    (server : network.server.Waits network.toServer)
    (awake : network.server.toParty.site ≠ .inl .idle) :
    network.client.site = .inl .idle ∧
      clientTally.notified = serverTally.notified ∧
      network.toServer = [] ∧ network.toClient = [] := by
  obtain ⟨empty, serves⟩ := proceeds.server.of_waits server awake
  have asked := proceeds.toServer
  rw [empty, Bridges.nil_iff] at asked
  rcases proceeds.client.of_waits client with
    ⟨site, rest⟩ | ⟨silent, sent⟩
  · have sent : clientTally.sent = 3 * clientTally.notified := by rw [rest]; rfl
    have heard : clientTally.heard = series.start clientTally.notified := by
      rw [rest]
      rfl
    obtain ⟨same, answered⟩ :
        clientTally.notified = serverTally.notified ∧
          serverTally.sent = clientTally.heard := by
      rcases serves with ⟨hears, answers⟩ | ⟨hears, -⟩ | ⟨hears, -⟩
      · have same : clientTally.notified = serverTally.notified := by omega
        exact ⟨same, by rw [answers, heard, same]⟩
      · omega
      · omega
    have bridges := proceeds.toClient
    rw [answered] at bridges
    exact ⟨site, same, empty, bridges.eq_nil fun _ _ _ answers => answers.lt⟩
  · have answered := proceeds.toClient
    rw [silent, Bridges.nil_iff] at answered
    have same : clientTally.notified = serverTally.notified := by omega
    rw [same] at sent
    omega

end Series

/-! ## The staging buffer -/

/-- The server accesses bytes behind the end of the staging buffer that it has
made from these parameters. -/
def Observation.Overruns (parameters : Parameters) : Observation → Prop
  | .client _ => False
  | .server event => event.Overruns (DDServer.stagingSize parameters)

instance Observation.decidableOverruns (parameters : Parameters) :
    DecidablePred (Observation.Overruns parameters)
  | .client _ => .isFalse id
  | .server event => event.decidableOverruns _

/-! ## Example runs -/

/-- Twelve bytes in two blocks of six, in every round. -/
def exampleSeries : Series where
  client := Network.exampleParameters
  server := Network.exampleParameters
  data _ := FirstTransfer.exampleTransfer.data
  clientCallbacks := FirstTransfer.exampleTransfer.clientCallbacks
  serverCallbacks := FirstTransfer.exampleTransfer.serverCallbacks
  transactionID := FirstTransfer.exampleTransfer.transactionID
  clientBlocks := FirstTransfer.exampleTransfer.clientBlocks
  serverBlocks := FirstTransfer.exampleTransfer.serverBlocks
  packetlen := FirstTransfer.exampleTransfer.packetlen
  nonempty _ := FirstTransfer.exampleTransfer.nonempty
  bounded _ := FirstTransfer.exampleTransfer.bounded

/-- The application hands over a buffer. -/
def exampleCall : Network.Action :=
  .client (.startNewTransfer (some ⟨1, 0⟩) 12 {}) true

/-- Steps of the server, whose storage holds the twelve bytes. -/
def exampleServings (count : Nat) : List Network.Action :=
  List.replicate count
    (.server (.fsm { stored := (exampleSeries.data 0).take }) true)

/-- One transfer, until both sides wait for the next one. -/
def exampleRound : List Network.Action :=
  [.server (.startServer {}) true, exampleCall] ++ Network.clientSteps 9 ++
    exampleServings 18 ++ Network.clientSteps 25 ++ exampleServings 25 ++
    Network.clientSteps 26 ++ exampleServings 20

/-- Two transfers, until the client has notified the second one. -/
def exampleRounds : List Network.Action :=
  exampleRound ++ [exampleCall] ++ Network.clientSteps 9 ++
    exampleServings 15 ++ Network.clientSteps 25 ++ exampleServings 25 ++
    Network.clientSteps 18

/-- What the examples are made of. -/
def exampleActions : List Network.Action :=
  [.server (.startServer {}) true, exampleCall, .client (.fsm {}) true,
    .server (.fsm { stored := (exampleSeries.data 0).take }) true]

theorem known_steps (count : Nat) :
    Network.clientSteps count ⊆ exampleActions ∧
      exampleServings count ⊆ exampleActions := by
  constructor <;>
    exact List.replicate_subset.mpr (.inr (by simp [exampleActions]))

theorem known_exampleRound : exampleRound ⊆ exampleActions := by
  simp only [exampleRound, List.append_subset, known_steps, and_true]
  simp [exampleActions]

theorem known_exampleRounds : exampleRounds ⊆ exampleActions := by
  simp only [exampleRounds, List.append_subset, known_steps,
    known_exampleRound, and_true, true_and]
  simp [exampleActions]

/-- Nothing fails in the examples. -/
theorem admits_example
    {series : Series}
    {network : Network}
    {trace : List Observation}
    {action : Network.Action}
    (data : series.data = exampleSeries.data)
    (known : action ∈ exampleActions) :
    series.Admits network trace action := by
  simp only [exampleActions, List.mem_cons, List.not_mem_nil, or_false]
    at known
  rcases known with rfl | rfl | rfl | rfl
  · exact rfl
  · exact ⟨rfl, fun _ _ => data ▸ Nat.le_refl 12⟩
  · exact ⟨rfl, rfl, rfl⟩
  · exact ⟨⟨rfl, rfl, rfl⟩, fun _ => by rw [data]; rfl, rfl⟩

theorem reaches_example
    {actions : List Network.Action}
    (known : actions ⊆ exampleActions) :
    Network.machine.Reaches exampleSeries.Admits
      (Network.new exampleSeries.client exampleSeries.server (fun _ _ => 0)
        fun _ _ => 0)
      (Network.exampleRun actions).1 (Network.exampleRun actions).2 :=
  Network.reaches_exampleRun
    (Machine.admitted_of_forall fun _ present => known present)
    |>.mono fun _ _ _ => admits_example rfl

/-- The server asks for four blocks, and gets the two of the client. -/
def roomySeries : Series where
  client := Network.exampleParameters
  server := { Network.exampleParameters with blocksPerTransaction := 4 }
  data := exampleSeries.data
  clientCallbacks := exampleSeries.clientCallbacks
  serverCallbacks := exampleSeries.serverCallbacks
  transactionID := exampleSeries.transactionID
  clientBlocks := exampleSeries.clientBlocks
  serverBlocks := by decide
  packetlen := exampleSeries.packetlen
  nonempty := exampleSeries.nonempty
  bounded := exampleSeries.bounded

/-- Both transfers with such a server. -/
def roomyRun : Network × List Observation :=
  Network.machine.execute
    (Network.new roomySeries.client roomySeries.server (fun _ _ => 0)
      fun _ _ => 0) [] exampleRounds

theorem reaches_roomyRun :
    Network.machine.Reaches roomySeries.Admits
      (Network.new roomySeries.client roomySeries.server (fun _ _ => 0)
        fun _ _ => 0)
      roomyRun.1 roomyRun.2 := by
  have reaches : Network.machine.Reaches
      (fun _ _ action => action ∈ exampleActions) _ roomyRun.1 roomyRun.2 :=
    Machine.Reaches.execute exampleRounds .start
      (Machine.admitted_of_forall fun _ present => known_exampleRounds present)
  exact reaches.mono fun _ _ _ => admits_example rfl

/-! ## Results -/

section Results

variable (series : Series) {clientHeap serverHeap : Heap}
variable {network : Network} {trace : List Observation}

/-- In a series of any number of transfers, behind an access outside the
staging buffer's allocation anything may happen.  As long as there was none, no
side notifies failure, and neither is more than one notification ahead.
Whenever the client has just notified, the buffer that was handed over last
holds the data of the round. -/
theorem series_correct
    (reaches : Network.machine.orAnything.Reaches
      (Machine.AdmitsBehind (Observation.Overruns series.server) series.Admits)
      (Network.new series.client series.server clientHeap serverHeap) network
      trace)
    (contained : ∀ observation ∈ trace,
      ¬observation.Overruns series.server) :
    (∀ status, .client (.notified status) ∈ trace ∨
      .server (.notified status) ∈ trace → status = true) ∧
    trace.count (.server (.notified true)) ≤
      trace.count (.client (.notified true)) + 1 ∧
    trace.count (.client (.notified true)) ≤
      trace.count (.server (.notified true)) + 1 ∧
    ∀ before, trace = before ++ [.client (.notified true)] →
      network.client.heap.bytes network.history.caller
          (series.data (before.count (.client (.notified true)))).length =
        series.data (before.count (.client (.notified true))) := by
  obtain ⟨clientTally, serverTally, proceeds⟩ :=
    Series.proceeds_of_reaches (reaches.defined contained)
  have inStep := proceeds.in_step
  rw [proceeds.clientReported.count, proceeds.serverReported.count] at inStep
  refine ⟨?_, inStep.1, inStep.2, fun before last => ?_⟩
  · rintro status (notified | notified)
    · exact proceeds.clientReported.truthful status notified
    · exact proceeds.serverReported.truthful status notified
  · refine proceeds.client.delivered (proceeds.rests before true last) ?_
    rw [proceeds.clientReported.count, last, List.count_append,
      List.count_singleton_self]

/-- In a series, the two sides never wait for each other: when the client rests
or polls an empty channel, and a server that was started polls an empty channel,
then the client rests, both sides have notified all rounds, and nothing is in
flight. -/
theorem series_never_stuck
    (reaches : Network.machine.Reaches series.Admits
      (Network.new series.client series.server clientHeap serverHeap) network
      trace)
    (client : network.client.Waits network.toClient)
    (server : network.server.Waits network.toServer)
    (awake : network.server.toParty.site ≠ .inl .idle) :
    network.client.site = .inl .idle ∧
      trace.count (.client (.notified true)) =
        trace.count (.server (.notified true)) ∧
      network.toServer = [] ∧ network.toClient = [] := by
  obtain ⟨clientTally, serverTally, proceeds⟩ :=
    Series.proceeds_of_reaches reaches
  have finished := proceeds.of_waits client server awake
  rwa [proceeds.clientReported.count, proceeds.serverReported.count]
    at finished

end Results

/-- Both transfers deliver their twelve bytes, which the staging buffer of a
server with four blocks has room for. -/
theorem series_correct_example :
    roomyRun.2.count (.client (.notified true)) = 2 ∧
      roomyRun.1.client.heap.bytes roomyRun.1.history.caller 12 =
        roomySeries.data 1 := by
  have correct := series_correct roomySeries reaches_roomyRun.orAnything
    (by decide +kernel)
  exact ⟨by decide +kernel,
    correct.2.2.2 roomyRun.2.dropLast (by decide +kernel)⟩

/-- Behind the first transfer both sides wait for the next one. -/
theorem series_never_stuck_example :
    (Network.exampleRun exampleRound).2.count (.client (.notified true)) =
      (Network.exampleRun exampleRound).2.count (.server (.notified true)) := by
  have client : (Network.exampleRun exampleRound).1.client.site =
      .inl .idle := by
    decide +kernel
  have server : (Network.exampleRun exampleRound).1.server.toParty.site =
      .inr (.requestReceive {}) := by
    decide +kernel
  have empty : (Network.exampleRun exampleRound).1.toServer = [] := by
    decide +kernel
  have stuck := series_never_stuck exampleSeries
    (reaches_example known_exampleRound)
    (by rw [DDClient.Waits, client]; trivial)
    (by rw [DDServer.Waits, server]; exact empty)
    (by simp [server])
  exact stuck.2.1

end DataDumpProtocol

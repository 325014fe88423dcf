import DataDumpProtocol.Network.Availability
import DataDumpProtocol.Series.Rounds

/-!
# The server in a series

A server sleeps until `startServer` is called, and from then on serves one
request after the other.  Each time it does what a server does for its first
request.
-/

namespace DataDumpProtocol

theorem ServerPhase.open_of_unfinished
    (phase : ServerPhase)
    (unfinished : phase ≠ .finished)
    (length : Nat) :
    (phase.standing length).finished = false := by
  cases phase with
  | finished => exact absurd rfl unfinished
  | _ => rfl

namespace DDServer

/-- The server was not started, or will take that up behind the `IDLE` body. -/
structure Asleep (history : History) (server : DDServer) : Prop where
  site : server.toParty.site = .inl .idle
  front : ∀ state, server.point ≠ .leave state
  next : server.nextState = .idle ∨ server.nextState = .request
  fits : server.Fits
  supplies : server.Supplies history

/-- Where a server is in a series. -/
inductive Serves
    (series : Series)
    (history : History) : Tally → DDServer → Prop
  | asleep {server : DDServer} (asleep : server.Asleep history) :
      Serves series history ⟨0, 0, 0⟩ server
  | serves {count : Nat} {transfer : FirstTransfer} {phase : ServerPhase}
      {server : DDServer}
      (round : series.Round count transfer)
      (at_ : server.At transfer history phase)
      (unfinished : phase ≠ .finished) :
      Serves series history
        ((phase.standing transfer.data.length).tally (series.start count)
          (3 * count) count)
        server

section Serves

variable {series : Series} {history : History} {tally : Tally}
variable {server server' : DDServer} {env : Environment}
variable {events : List Event} {reached : Nat}

/-! ## Between requests -/

/-- A server on its way to `REQUEST` listens. -/
theorem at_listening
    {transfer : FirstTransfer}
    (site : server.toParty.site = .inl .request)
    (fits : server.Fits)
    (supplies : server.Supplies history) :
    server.At transfer history .listening where
  site := site ▸ .request
  fits := fits
  supplies := supplies
  current reads := reads.elim
  left reads := reads.elim
  filled packet here := by simp [Party.site_of_body here] at site
  requested := by simp
  config reads := reads.elim
  success := by simp

theorem serves_listening
    (count : Nat)
    (site : server.toParty.site = .inl .request)
    (fits : server.Fits)
    (supplies : server.Supplies history) :
    server.Serves series history
      ⟨series.start count, 3 * count, count⟩ :=
  .serves (series.round_roundInto count ⟨0, 0⟩ _ (Nat.le_refl _))
    (at_listening site fits supplies) (by simp)

/-- A server that has finished a round listens for the next request. -/
theorem At.serves
    {count : Nat}
    {transfer : FirstTransfer}
    {phase : ServerPhase}
    (at_ : server.At transfer history phase)
    (round : series.Round count transfer) :
    server.Serves series history
      ((phase.standing transfer.data.length).tally (series.start count)
        (3 * count) count) := by
  by_cases finished : phase = .finished
  · subst finished
    have next := series.round_roundInto (count + 1) ⟨0, 0⟩ _ (Nat.le_refl _)
    have tally : (ServerPhase.finished.standing transfer.data.length).tally
        (series.start count) (3 * count) count =
          ⟨series.start (count + 1), 3 * (count + 1), count + 1⟩ := by
      rw [round.data]
      rfl
    rw [tally]
    refine .serves next ?_ (by simp : ServerPhase.listening ≠ .finished)
    exact
      { site := by
          have site := at_.site
          generalize server.toParty.site = here at site ⊢
          cases site with
          | again => exact .request
          | receiveAgain => exact .requestReceive
        fits := at_.fits
        supplies := at_.supplies
        current := fun reads => reads.elim
        left := fun reads => reads.elim
        filled := at_.filled
        requested := by simp
        config := fun reads => reads.elim
        success := by simp }
  · exact .serves round at_ finished

/-- A server that sleeps goes on to sleep, or listens behind the `IDLE`
body. -/
theorem Moves.asleep
    (moves : server.Moves env server' events)
    (sound : server.Sound series.server)
    (acquired : env.lockAcquired = true)
    (atMost : ∀ maxSize, (env.stored maxSize).length ≤ maxSize)
    (heard : Frame)
    (asleep : server.Asleep history) :
    server'.Serves series (events.foldl (.noteServer heard) history)
        ⟨0, 0, 0⟩ ∧
      ∀ event ∈ events, event.isBody = true := by
  obtain ⟨site, front, next, fits, supplies⟩ := asleep
  have supplies := moves.supplies sound fits supplies heard
  have fits := moves.fits sound atMost fits
  cases moves with
  | shell shell =>
      have same := shell.site_eq acquired
      have sleeps {party : Party ServerBody}
          (same : party.site = server.toParty.site)
          (front : ∀ state, party.point ≠ .leave state)
          (kept : party.nextState = server.nextState)
          (fits : DDServer.Fits { server with toParty := party })
          (supplies :
            DDServer.Supplies history { server with toParty := party }) :
          DDServer.Serves series history ⟨0, 0, 0⟩
            { server with toParty := party } :=
        .asleep ⟨same.trans site, front, kept ▸ next, fits, supplies⟩
      refine ⟨?_, by simp⟩
      cases shell with
      | leave here => exact absurd here (front _)
      | dispatch here dispatches =>
          refine sleeps same ?_ ?_ fits supplies
          · cases dispatches <;> simp [Point.ofDispatch]
          · cases dispatches with
            | storeCurrent =>
                simp [DataDump.setCurrentFSMState, acquired]
            | _ => rfl
  | idle here =>
      refine ⟨?_, by simp [Event.isBody]⟩
      rcases next with idle | request
      · refine .asleep ⟨?_, by simp, .inl idle, fits, supplies⟩
        rw [Party.site_of_outside (by simp)]
        exact congrArg _ idle
      · apply serves_listening 0 ?_ fits supplies
        rw [Party.site_of_outside (by simp)]
        exact congrArg _ request
  | awaitRequest here | readStorage here | readNothing here | noStorage here
  | awaitInitiate here | fillBlock here | terminate here =>
      simp [Party.site_of_enter here] at site
  | acceptRequest here | responseSent here | acceptInitiate here
  | blockSent here | lastBlockSent here | continueBlock here | erase here
  | eraseElse here | poll here | retry here | giveUp here =>
      simp [Party.site_of_body here] at site

/-! ## Within a transaction -/

/-- In a loop that polls, the client's script is not complete. -/
theorem At.heard_lt
    {transfer : FirstTransfer}
    {phase : ServerPhase}
    {body : ServerBody}
    (at_ : server.At transfer history phase)
    (unfinished : phase ≠ .finished)
    (here : server.point = .body body)
    (listens : body.listens = true) :
    (phase.standing transfer.data.length).heard < 3 := by
  have site := at_.site
  rw [Party.site_of_body here] at site
  cases site with
  | requestReceive | initiateReceive | ackReceive =>
      simp [ServerPhase.standing]
  | receiveAgain => exact absurd rfl unfinished
  | _ => simp [ServerBody.listens] at listens

/-- A step within a transaction follows the script of the series. -/
theorem At.step
    {count : Nat}
    {transfer : FirstTransfer}
    {phase : ServerPhase}
    (at_ : server.At transfer history phase)
    (unfinished : phase ≠ .finished)
    (round : series.Round count transfer)
    (sound : server.Sound series.server)
    (acquired : env.lockAcquired = true)
    (running : env.timerExpired = false)
    (stored : ∀ maxSize,
      env.stored maxSize = (series.data count).take maxSize)
    (erased : env.erased 0 = 0)
    (waits : env.incoming ≠ [] →
      series.Asks (3 * count + (phase.standing transfer.data.length).heard)
        env.incoming reached)
    (heard : Frame) :
    ∃ phase',
      DDServer.At transfer
        ((server.fsmStep env).2.foldl (.noteServer heard) history) phase'
        (server.fsmStep env).1 ∧
      Accrues series.Answers env.incoming reached
        ((phase.standing transfer.data.length).tally (series.start count)
          (3 * count) count)
        ((phase'.standing transfer.data.length).tally (series.start count)
          (3 * count) count)
        (server.fsmStep env).2 := by
  have sound : server.Sound transfer.server := round.server ▸ sound
  have stored : ∀ maxSize, env.stored maxSize = transfer.data.take maxSize :=
    round.data ▸ stored
  have open_ : (phase.standing transfer.data.length).finished = false :=
    phase.open_of_unfinished unfinished _
  by_cases listens : ∃ body, server.point = .body body ∧ body.listens = true
  · obtain ⟨body, here, listens⟩ := listens
    have within := at_.heard_lt unfinished here listens
    have moves := sound.moves env
    obtain ⟨next, asks, place⟩ : ∃ next,
        (env.incoming ≠ [] →
          transfer.Asks (phase.standing transfer.data.length).heard
            env.incoming next) ∧
        (env.incoming ≠ [] → reached = 3 * count + next) := by
      by_cases nothing : env.incoming = []
      · exact ⟨0, fun waits => absurd nothing waits,
          fun waits => absurd nothing waits⟩
      · obtain ⟨next, asks, place⟩ := (waits nothing).inRound round within
        exact ⟨next, fun _ => asks, fun _ => place⟩
    obtain ⟨phase', at_', follows⟩ :=
      moves.follows sound acquired running stored erased asks at_ heard
    exact ⟨phase', at_', follows.accrues (fun _ _ _ => .ofRound round) open_
      (moves.notified_once true) fun _ => ⟨rfl, place⟩⟩
  · -- Elsewhere the server does not look at what waits.
    have deaf : ∀ body, server.point = .body body → body.listens = false := by
      intro body here
      cases loud : body.listens with
      | false => rfl
      | true => exact absurd ⟨body, here, loud⟩ listens
    have moves := sound.moves (env.hearing [])
    rw [fsmStep_hearing [] deaf] at moves
    have nothing : (env.hearing []).incoming ≠ [] →
        transfer.Asks (phase.standing transfer.data.length).heard
          (env.hearing []).incoming 0 :=
      fun waits => absurd rfl waits
    obtain ⟨phase', at_', follows⟩ :=
      moves.follows sound acquired running stored erased nothing at_ heard
    exact ⟨phase', at_', follows.accrues (fun _ _ _ => .ofRound round) open_
      (moves.notified_once true) fun polled =>
        absurd (moves.listens_of_polled polled) listens⟩

/-- In a series, a step of the server follows the script. -/
theorem Serves.step
    (serves : server.Serves series history tally)
    (sound : server.Sound series.server)
    (acquired : env.lockAcquired = true)
    (running : env.timerExpired = false)
    (stored : ∀ maxSize,
      env.stored maxSize = (series.data tally.notified).take maxSize)
    (erased : env.erased 0 = 0)
    (waits : env.incoming ≠ [] →
      series.Asks tally.heard env.incoming reached)
    (heard : Frame) :
    ∃ tally',
      DDServer.Serves series
        ((server.fsmStep env).2.foldl (.noteServer heard) history) tally'
        (server.fsmStep env).1 ∧
      Accrues series.Answers env.incoming reached tally tally'
        (server.fsmStep env).2 := by
  have moves := sound.moves env
  cases serves with
  | asleep asleep =>
      have atMost : ∀ maxSize, (env.stored maxSize).length ≤ maxSize := by
        intro maxSize
        rw [stored, List.length_take]
        exact Nat.min_le_left _ _
      obtain ⟨serves, bodies⟩ := moves.asleep sound acquired atMost heard asleep
      exact ⟨_, serves, accrues_of_body bodies⟩
  | @serves count transfer phase _ round at_ unfinished =>
      have open_ : (phase.standing transfer.data.length).finished = false :=
        phase.open_of_unfinished unfinished _
      have stored : ∀ maxSize,
          env.stored maxSize = (series.data count).take maxSize := by
        simpa [Standing.tally, open_] using stored
      obtain ⟨phase', at_', accrues⟩ :=
        at_.step unfinished round sound acquired running stored erased waits
          heard
      exact ⟨_, at_'.serves round, accrues⟩

/-! ## Calls by the application -/

/-- A server that is started listens next, or does so already. -/
theorem Serves.call
    (serves : server.Serves series history tally)
    (available : server.toParty.Available)
    (resting : server.isBusy = false) :
    DDServer.Serves series history tally
      { server with nextState := .request } := by
  have calls : server.Calls { server with nextState := .request } [] :=
    .store (.inr (.inr ⟨rfl, resting⟩)) (by simp)
  obtain ⟨front, site⟩ := available resting
  have outside : ∀ packet,
      server.point ≠ .body (.blockSend packet) := by
    intro packet here
    simp [Party.site_of_body here] at site
  have turned := Party.site_store server.toParty .request
  cases serves with
  | asleep asleep =>
      have fits := calls.fits asleep.fits
      have supplies :
          DDServer.Supplies history { server with nextState := .request } :=
        asleep.supplies.kept rfl rfl rfl outside
      rcases turned with same | turned
      · exact .asleep
          ⟨same.trans asleep.site, front, .inr rfl, fits, supplies⟩
      · exact serves_listening 0 turned fits supplies
  | serves round at_ unfinished =>
      have fits := calls.fits at_.fits
      have supplies :
          DDServer.Supplies history { server with nextState := .request } :=
        at_.supplies.kept rfl rfl rfl outside
      have here := at_.site
      rcases site with site | site
      · rw [site] at here
        cases here
      · rw [site] at here
        cases here with
        | request =>
            have site : Party.site
                { server.toParty with nextState := .request } =
                  .inl .request :=
              turned.elim (fun same => same.trans site) id
            exact .serves round (at_listening site fits supplies) unfinished
        | again => exact absurd rfl unfinished

end Serves

end DDServer

end DataDumpProtocol

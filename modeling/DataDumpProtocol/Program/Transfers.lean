import DataDumpProtocol.Program.DDTest
import DataDumpProtocol.Series.Storage

/-!
# The transfers of the test program

As long as locks are acquired and timers do not expire, the program carries out
a series of transfers of its storage: what its threads do to the two parties and
the queues is what a run of the series may do.
-/

namespace DataDumpProtocol

/-- A party that heads for `IDLE` does not become busy before the body. -/
theorem Party.Shell.resting
    {Body : Type}
    {party party' : Party Body}
    {env : Environment}
    (shell : party.Shell env party')
    (acquired : env.lockAcquired = true)
    (site : party.site = .inl .idle)
    (resting : party.isBusy = false) :
    party'.isBusy = false := by
  cases shell with
  | leave => simpa [DataDump.setNextFSMState, acquired] using resting
  | dispatch here dispatches =>
      cases dispatches with
      | busy running =>
          have idle : party.currentState = .idle := by
            simpa [Party.site, heading, here] using site
          simp [DataDump.getCurrentFSMState, acquired, idle] at running
      | storeCurrent =>
          simpa [DataDump.setCurrentFSMState, acquired] using resting
      | _ => exact resting

namespace DDServer

variable {server server' : DDServer} {env : Environment}
variable {events : List Event}

/-- The server is in `IDLE`, and nothing else was stored. -/
structure Unstarted (server : DDServer) : Prop where
  site : server.toParty.site = .inl .idle
  next : server.nextState = .idle
  resting : server.isBusy = false

theorem Moves.unstarted
    (moves : server.Moves env server' events)
    (acquired : env.lockAcquired = true)
    (unstarted : server.Unstarted) :
    server'.Unstarted := by
  obtain ⟨site, next, resting⟩ := unstarted
  cases moves with
  | shell shell =>
      exact ⟨(shell.site_eq acquired).trans site,
        shell.nextState_eq acquired site (.inr next),
        shell.resting acquired site resting⟩
  | idle here =>
      refine ⟨?_, next, rfl⟩
      rw [Party.site_of_outside (by simp)]
      exact congrArg _ next
  | awaitRequest here | readStorage here | readNothing here | noStorage here
  | awaitInitiate here | fillBlock here | terminate here =>
      simp [Party.site_of_enter here] at site
  | acceptRequest here | responseSent here | acceptInitiate here
  | blockSent here | lastBlockSent here | continueBlock here | erase here
  | eraseElse here | poll here | retry here | giveUp here =>
      simp [Party.site_of_body here] at site

/-- Only the `RESPONSE` body reads storage. -/
theorem fsmStep_stored
    (stored : Nat → List Byte)
    (elsewhere : server.point ≠ .enter .response) :
    server.fsmStep { env with stored := stored } = server.fsmStep env := by
  unfold fsmStep
  split
  next at_ _ => cases at_ <;> rfl
  next state here =>
      cases state with
      | response => exact absurd here elsewhere
      | _ => rfl
  next body _ => cases body <;> rfl
  next => rfl

end DDServer

namespace DDTest

/-- What the program fills its storage with. -/
def contents : List Byte :=
  List.ofFn fun i : Fin transferSize => .ofNat 8 i

@[simp] theorem length_contents : contents.length = transferSize :=
  List.length_ofFn

/-- The program's transfers as a series. -/
def storageSeries : Series where
  client := testClient
  server := testServer
  data _ := contents
  clientCallbacks := by decide
  serverCallbacks := by decide
  transactionID := by decide
  clientBlocks := by decide
  serverBlocks := by decide
  packetlen := by decide
  nonempty _ := by simp [transferSize]
  bounded _ := by
    rw [length_contents]
    decide

@[simp] theorem data_storageSeries (round : Nat) :
    storageSeries.data round = contents := by
  simp only [storageSeries]

theorem drift_storageSeries (count : Nat) :
    storageSeries.drift count = transferSize * count := by
  induction count with
  | zero => rfl
  | succ count inductionHypothesis =>
      rw [Series.drift, inductionHypothesis, data_storageSeries,
        length_contents, Nat.mul_succ]

/-- The staging buffer has room for two transfers. -/
theorem drift_le_stagingSize
    {count : Nat}
    (once : count ≤ 1) :
    storageSeries.drift (count + 1) ≤
      DDServer.stagingSize storageSeries.server := by
  have size : DDServer.stagingSize storageSeries.server = 525 := rfl
  rw [drift_storageSeries, size, transferSize]
  omega

/-- The storage is filled before the server is started. -/
structure Filled (test : DDTest) : Prop where
  unstarted : test.main = .filling ∨ test.main = .starting →
    test.network.server.Unstarted
  filled : test.main ≠ .filling → List.ofFn test.serverStorage = contents

section Steps

variable {test test' : DDTest} {trace observations : List Observation}
variable {action : Action} {env : Environment}

theorem Steps.sound
    (steps : test.Steps action test' observations)
    (sound : test.network.Sound testClient testServer) :
    test'.network.Sound testClient testServer := by
  cases steps with
  | starts | calls | serves | fetches => exact (sound.steps _).sound sound
  | _ => exact sound

theorem Steps.filled
    (steps : test.Steps action test' observations)
    (sound : test.network.Sound testClient testServer)
    (steady : action.Steady)
    (filled : test.Filled) :
    test'.Filled := by
  cases steps with
  | ends => exact filled
  | fetches => exact ⟨filled.unstarted, filled.filled⟩
  | fills here => exact ⟨fun _ => filled.unstarted (.inl here), fun _ => rfl⟩
  | starts here goesOn =>
      refine ⟨fun back => ?_, fun _ => filled.filled (by simp [here])⟩
      rcases goesOn with rfl | ⟨rfl, -⟩ <;> simp at back
  | reads here | wakes here =>
      refine ⟨fun back => ?_, fun _ => filled.filled (by simp [here])⟩
      dsimp only at back
      split at back <;> simp at back
  | calls here | refused here | counts here | clears here =>
      exact ⟨by simp, fun _ => filled.filled (by simp [here])⟩
  | serves =>
      refine ⟨fun early => ?_, filled.filled⟩
      exact (sound.server.moves _).unstarted steady.1 (filled.unstarted early)

/-- The storage callback reads what the program has filled in. -/
theorem serverStorageReadcb_eq
    (filled : List.ofFn test.serverStorage = contents)
    (maxSize : Nat)
    (eraseDataRead : Bool) :
    test.serverStorageReadcb maxSize eraseDataRead = contents.take maxSize := by
  rw [serverStorageReadcb, filled]
  split
  next exceeds =>
    rw [List.take_of_length_le (Nat.le_of_eq length_contents),
      List.take_of_length_le]
    exact length_contents.le.trans exceeds.le
  next => rfl

/-- Before the storage is filled, the server's thread does not read it. -/
theorem fsmStep_contents
    (filled : test.Filled)
    (stored : env.stored =
      fun maxSize => test.serverStorageReadcb maxSize false) :
    test.network.server.fsmStep { env with stored := contents.take } =
      test.network.server.fsmStep env := by
  by_cases early : test.main = .filling
  · apply DDServer.fsmStep_stored
    intro here
    have site := (filled.unstarted (.inl early)).site
    simp [Party.site_of_enter here] at site
  · have same : contents.take = env.stored := by
      rw [stored]
      funext maxSize
      exact (serverStorageReadcb_eq (filled.filled early) maxSize false).symm
    rw [same]

theorem served_eq (filled : test.Filled) :
    test.served env =
      test.network.step (.server (.fsm
        { test.serverEnv env with stored := contents.take }) true) := by
  have same : test.network.server.fsmStep
      { (test.serverEnv env).hearing
          (Channel.heard test.network.toServer true).bytes with
        stored := contents.take } = _ :=
    fsmStep_contents filled rfl
  simp only [served, Network.step, DDServer.Action.hearing, DDServer.step]
  rw [← same]
  rfl

/-- A step of the program is a step of the series, or does nothing there. -/
theorem projects
    (filled : test.Filled)
    (steady : action.Steady) :
    machine.Projects Network.machine storageSeries.Admits DDTest.network some
      test trace action := by
  have steps := test.steps action
  simp only [Machine.Projects, machine, Network.machine, List.filterMap_some]
  generalize (test.step action).1 = test', (test.step action).2 = observations
    at steps ⊢
  cases steps with
  | @starts env =>
      exact .inr ⟨.server (.startServer env) true, steady, rfl⟩
  | @calls env =>
      refine .inr ⟨.client (.startNewTransfer (some clientStorage)
        transferSize env) true, ⟨steady, fun _ _ => ?_⟩, rfl⟩
      rw [data_storageSeries, length_contents]
  | @serves env =>
      refine .inr ⟨.server (.fsm
        { test.serverEnv env with stored := contents.take }) true,
        ⟨steady, fun _ => by rw [data_storageSeries], ?_⟩,
        (served_eq filled).symm⟩
      simp [serverEnv, serverStorageReadcb]
  | @fetches env =>
      exact .inr ⟨.client (.fsm (test.clientEnv env)) true, steady, rfl⟩
  | _ => exact .inl ⟨rfl, rfl⟩

end Steps

section Runs

variable {test : DDTest} {trace : List Observation}
variable {clientHeap serverHeap : Heap}
variable (reaches : machine.Reaches (fun _ _ action => action.Steady)
  (new clientHeap serverHeap) test trace)

include reaches

theorem sound_of_reaches :
    test.network.Sound testClient testServer ∧ test.Filled := by
  refine reaches.invariant
    (fun test _ => test.network.Sound testClient testServer ∧ test.Filled)
    ⟨Network.sound_new _ _ _ _, ?_⟩ ?_
  · exact ⟨fun _ => ⟨rfl, rfl, rfl⟩, fun further => absurd rfl further⟩
  · rintro test trace action ⟨sound, filled⟩ steady
    have steps := test.steps action
    exact ⟨steps.sound sound, steps.filled sound steady filled⟩

/-- A run of the program is a run of its series. -/
theorem series_of_reaches :
    Network.machine.Reaches storageSeries.Admits
      (Network.new testClient testServer clientHeap serverHeap) test.network
      trace := by
  have projected := reaches.project DDTest.network some
    fun _ _ _ reached _ steady =>
      projects (sound_of_reaches reached).2 steady
  rwa [List.filterMap_some] at projected

/-- In every run of the program, both sides follow their scripts. -/
theorem proceeds_of_reaches :
    ∃ clientTally serverTally,
      storageSeries.Proceeds test.network trace clientTally serverTally :=
  Series.proceeds_of_reaches (series_of_reaches reaches)

end Runs

end DDTest

end DataDumpProtocol

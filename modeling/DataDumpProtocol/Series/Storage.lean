import DataDumpProtocol.Network.Parties
import DataDumpProtocol.Series.EndToEnd
import DataDumpProtocol.Server.Pointer

/-!
# Where a series reads storage

In a series, the server sends all data of a round before it reads those of the
next one.  Its staging pointer is then behind the data of all rounds before.  So
the server stays inside its staging buffer for as many rounds as fit into it.
-/

namespace DataDumpProtocol

/-- The number of bytes that an event reads from storage. -/
def Event.deliveredSize : Event → Nat
  | .storageRead _ _ contents => contents.length
  | _ => 0

/-- The number of bytes that were read from storage. -/
def delivered (trace : List Event) : Nat :=
  (trace.map Event.deliveredSize).sum

@[simp] theorem delivered_append (before after : List Event) :
    delivered (before ++ after) = delivered before + delivered after := by
  simp [delivered]

theorem delivered_eq_zero
    {events : List Event}
    (silent : ∀ target maxSize contents,
      .storageRead target maxSize contents ∉ events) :
    delivered events = 0 := by
  apply List.sum_eq_zero
  intro size present
  obtain ⟨event, inEvents, rfl⟩ := List.mem_map.mp present
  cases event with
  | storageRead target maxSize contents =>
      exact absurd inEvents (silent target maxSize contents)
  | _ => rfl

/-- The event neither reads storage nor copies a payload, and does not
notify. -/
def Event.Uncounted : Event → Prop
  | .storageRead _ _ _ | .payloadCopied _ _ | .notified _ => False
  | _ => True

/-- The number of bytes of all rounds before this one. -/
def Series.drift (series : Series) : Nat → Nat
  | 0 => 0
  | count + 1 => series.drift count + (series.data count).length

theorem Series.drift_mono (series : Series) : Monotone series.drift :=
  monotone_nat_of_le_succ fun _ => Nat.le_add_right _ _

/-- A read of storage fetches the data of its round, behind those of all rounds
before it. -/
def Series.Drifts
    (series : Series)
    (before : List Observation) : Observation → Prop
  | .server (.storageRead target _ contents) =>
      target = DDServer.staging.advance
          (series.drift (before.count (.server (.notified true)))) ∧
        contents = series.data (before.count (.server (.notified true)))
  | _ => True

namespace DDServer

/-- Storage was not read since the last notification. -/
def Unsupplied (server : DDServer) : Prop :=
  match server.toParty.site with
  | .inl .idle | .inl .request | .inl .response
  | .inr (.requestReceive _) => True
  | _ => False

/-- The bytes that were read were copied, or are left to be; all of them are
copied when a transaction ends. -/
structure Drains
    (series : Series)
    (count : Nat)
    (server : DDServer)
    (trace : List Event) : Prop where
  total : copied trace + server.internalBufferLen = delivered trace
  before : server.Unsupplied →
    server.internalBufferLen = 0 ∧ delivered trace = series.drift count
  behind : ¬server.Unsupplied → delivered trace = series.drift (count + 1)
  ending : server.toParty.site = .inl .terminate →
    server.internalBufferLen = 0
  undecided : server.isTransferSuccess = true →
    server.toParty.site = .inl .terminate

section Kept

variable {series : Series} {count : Nat} {server server' : DDServer}
variable {parameters : Parameters} {env : Environment}
variable {trace events : List Event}

theorem unsupplied_congr
    (site : server'.toParty.site = server.toParty.site) :
    server'.Unsupplied ↔ server.Unsupplied := by
  simp only [Unsupplied, site]

/-- A step that only moves on within one of the two parts of a transaction. -/
theorem Drains.kept
    (drains : server.Drains series count trace)
    (uncounted : ∀ event ∈ events, event.Uncounted)
    (length : server'.internalBufferLen = server.internalBufferLen)
    (same : server'.Unsupplied ↔ server.Unsupplied)
    (ending : server'.toParty.site = .inl .terminate →
      server'.internalBufferLen = 0)
    (undecided : server'.isTransferSuccess = true →
      server'.toParty.site = .inl .terminate) :
    server'.Drains series (count + events.count (.notified true))
      (trace ++ events) := by
  have copies : copied events = 0 :=
    copied_eq_zero fun event present => by
      have uncounted := uncounted event present
      cases event <;> first | rfl | exact uncounted.elim
  have reads : delivered events = 0 :=
    delivered_eq_zero fun _ _ _ present => uncounted _ present
  have silent : events.count (.notified true) = 0 :=
    List.count_eq_zero.mpr fun present => uncounted _ present
  rw [silent, Nat.add_zero]
  refine ⟨?_, fun before => ?_, fun behind => ?_, ending, undecided⟩
  · rw [copied_append, delivered_append, copies, reads, length]
    exact drains.total
  · rw [delivered_append, reads, length]
    exact drains.before (same.mp before)
  · rw [delivered_append, reads]
    exact drains.behind (mt same.mpr behind)

/-- What was read are the data of the finished rounds, and of the one that is
being served if it has got so far. -/
theorem Drains.bounds (drains : server.Drains series count trace) :
    series.drift count ≤ delivered trace ∧
      delivered trace ≤ series.drift (count + 1) := by
  by_cases early : server.Unsupplied
  · rw [(drains.before early).2]
    exact ⟨Nat.le_refl _, Nat.le_add_right _ _⟩
  · rw [drains.behind early]
    exact ⟨Nat.le_add_right _ _, Nat.le_refl _⟩

/-- Outside `TERMINATE`, nothing has succeeded. -/
theorem Drains.open_of_body
    {body : ServerBody}
    (drains : server.Drains series count trace)
    (here : server.point = .body body) :
    server.isTransferSuccess = false := by
  by_contra success
  have site := drains.undecided (by simpa using success)
  simp [Party.site_of_body here] at site

theorem Drains.open_of_enter
    {state : FsmState}
    (drains : server.Drains series count trace)
    (here : server.point = .enter state)
    (further : state ≠ .terminate) :
    server.isTransferSuccess = false := by
  by_contra success
  have site := drains.undecided (by simpa using success)
  simp [Party.site_of_enter here, further] at site

/-- A block's payload moves from what is left to what was copied. -/
theorem Drains.fillBlock
    {source : Pointer}
    (drains : server.Drains series count trace)
    (sound : server.Sound parameters)
    (here : server.point = .enter .block)
    (buffer : server.internalBuffer = some source) :
    DDServer.Drains series
      (count + (Event.body .block (some source) ::
        server.copyEvent).count (.notified true))
      { server with
        internalCounter := server.internalCounter + 1
        internalBufferLen :=
          server.internalBufferLen - server.dataSizeCopiedToPacket
        internalBuffer :=
          some (source.advance server.dataSizeCopiedToPacket)
        point := .body (.blockSend server.blockPacket) }
      (trace ++ .body .block (some source) :: server.copyEvent) := by
  have room : 5 ≤ server.maxPacketSize :=
    Nat.le_trans (by omega) (sound.room_of_enter here)
  have atMost : server.dataSizeCopiedToPacket ≤ server.internalBufferLen := by
    rw [dataSizeCopiedToPacket_eq room]
    exact Nat.min_le_left _ _
  have open_ := drains.open_of_enter here (by simp)
  have total := drains.total
  have sent := drains.behind (by simp [Unsupplied, Party.site_of_enter here])
  rw [copyEvent_eq room sound.byteSized buffer]
  have silent : (Event.body .block (some source) ::
      if 0 < server.dataSizeCopiedToPacket then
        [.payloadCopied source server.dataSizeCopiedToPacket] else []).count
        (.notified true) = 0 := by
    split <;> simp
  have reads : delivered (Event.body .block (some source) ::
      if 0 < server.dataSizeCopiedToPacket then
        [.payloadCopied source server.dataSizeCopiedToPacket] else []) =
        0 := by
    split <;> rfl
  have copies : copied (Event.body .block (some source) ::
      if 0 < server.dataSizeCopiedToPacket then
        [.payloadCopied source server.dataSizeCopiedToPacket] else []) =
        server.dataSizeCopiedToPacket := by
    split
    next => simp [copied, Event.copiedSize]
    next => simp [copied, Event.copiedSize]; omega
  rw [silent, Nat.add_zero]
  refine ⟨?_, fun impossible => ?_, fun _ => ?_, fun impossible => ?_, ?_⟩
  · rw [copied_append, delivered_append, copies, reads]
    dsimp only
    omega
  · exact impossible.elim
  · rw [delivered_append, reads]
    exact sent
  · cases impossible
  · simp [open_]

/-- In a series, a step of the server keeps count of the data. -/
theorem Moves.drains
    (moves : server.Moves env server' events)
    (sound : server.Sound parameters)
    (acquired : env.lockAcquired = true)
    (patient : server.toParty.Patient)
    (notifies : server.notifyCB = true)
    (stored : server.point = .enter .response →
      env.stored server.readSize = series.data count)
    (acked : ∀ packet, server.point = .body (.ackReceive packet) →
      server.internalBufferLen = 0)
    (success : server.point = .enter .terminate →
      server.isTransferSuccess = true)
    (success' : server'.toParty.site = .inl .terminate →
      server'.isTransferSuccess = true)
    (drains : server.Drains series count trace) :
    server'.Drains series (count + events.count (.notified true))
      (trace ++ events) := by
  cases moves with
  | shell shell =>
      have site := shell.site_eq acquired
      obtain ⟨_, _, _, _, rfl, -⟩ := shell.unchanged
      refine drains.kept (by simp) rfl (unsupplied_congr site) ?_ ?_
      · exact fun here => drains.ending (site.symm.trans here)
      · exact fun success => site.trans (drains.undecided success)
  | idle here =>
      have before : server.Unsupplied := by
        simp [Unsupplied, Party.site_of_enter here]
      have empty := (drains.before before).1
      have next := patient.next_of_idle here
      refine drains.kept (by simp [Event.Uncounted]) empty.symm ?_
        (fun _ => rfl) (by simp)
      refine iff_of_true ?_ before
      rcases next with next | next <;>
        simp [Unsupplied, Party.site, Party.heading, next]
  | awaitRequest here | awaitInitiate here =>
      refine drains.kept (by simp [Event.Uncounted]) rfl ?_ ?_ ?_
      · simp [Unsupplied, goto, Party.site, Party.heading, here]
      · simp [goto, Party.site]
      · simp [goto, drains.open_of_enter here]
  | acceptRequest here | responseSent here | acceptInitiate here
  | blockSent here | lastBlockSent here =>
      refine drains.kept (by simp +contextual [or_imp, Event.Uncounted]) rfl
        ?_ ?_ ?_
      · simp [Unsupplied, goto, Party.site, Party.heading, here]
      · simp [goto, Party.site, Party.heading]
      · simp [goto, drains.open_of_body here]
  | readStorage here _ buffer nonempty =>
      have open_ := drains.open_of_enter here (by simp)
      obtain ⟨empty, before⟩ := drains.before (by
        simp [Unsupplied, Party.site_of_enter here])
      have total := drains.total
      rw [stored here]
      refine ⟨?_, fun impossible => impossible.elim, fun _ => ?_,
        fun impossible => ?_, ?_⟩
      · simp [copied, delivered, Event.copiedSize, Event.deliveredSize]
          at total ⊢
        omega
      · simpa [delivered, Event.deliveredSize, Series.drift] using before
      · cases impossible
      · simp [negotiated, open_]
  | readNothing here | noStorage here =>
      have open_ := drains.open_of_enter here (by simp)
      have ended := success' (by simp [goto, Party.site, Party.heading])
      simp [goto, negotiated, open_] at ended
  | fillBlock here buffer => exact drains.fillBlock sound here buffer
  | continueBlock here =>
      have current : server.getCurrentFSMState env = .block := by
        have inside := sound.paced.inside _ here
        simpa [DataDump.getCurrentFSMState, acquired, ServerBody.state]
          using inside.symm
      rw [current]
      refine drains.kept (by simp) rfl ?_ ?_ ?_
      · simp [Unsupplied, goto, Party.site, Party.heading, here]
      · simp [goto, Party.site, Party.heading]
      · simp [goto, drains.open_of_body here]
  | erase here =>
      refine drains.kept (by simp +contextual [or_imp, Event.Uncounted]) rfl
        ?_ (fun _ => acked _ here) ?_
      · simp [Unsupplied, Party.site, Party.heading, here]
      · simp [Party.site, Party.heading]
  | eraseElse here | giveUp here =>
      have ended := success' (by simp [goto, Party.site, Party.heading])
      simp [goto, drains.open_of_body here] at ended
  | poll here polls =>
      refine drains.kept (by simp [Event.Uncounted]) rfl ?_ ?_ ?_
      · cases polls <;>
          simp [Unsupplied, goto, Party.site, here]
      · simp [goto, Party.site]
      · simp [goto, drains.open_of_body here]
  | retry here unsent =>
      refine drains.kept ?_ rfl Iff.rfl drains.ending drains.undecided
      intro event present
      obtain ⟨frame, rfl⟩ := unsent event present
      trivial
  | terminate here =>
      have site := Party.site_of_enter here
      have empty := drains.ending site
      have total := drains.total
      have sent := drains.behind (by simp [Unsupplied, site])
      have notified : (Event.body .terminate server.internalBuffer ::
          server.notification).count (.notified true) = 1 := by
        simp [DataDump.notification, notifies, success here]
      have copies : copied (.body .terminate server.internalBuffer ::
          server.notification) = 0 :=
        copied_eq_zero (by simp +contextual [or_imp, Event.copiesPayload])
      have reads : delivered (.body .terminate server.internalBuffer ::
          server.notification) = 0 := by
        unfold DataDump.notification
        split <;> rfl
      rw [notified]
      refine ⟨?_, fun _ => ⟨rfl, ?_⟩, fun behind => ?_, fun _ => rfl, by simp⟩
      · rw [copied_append, delivered_append, copies, reads]
        dsimp only
        omega
      · rw [delivered_append, reads]
        exact sent
      · simp [Unsupplied, Party.site, Party.heading] at behind

/-- A server that is started was in front of its next transaction. -/
theorem Drains.call
    (drains : server.Drains series count trace)
    (available : server.toParty.Available)
    (resting : server.isBusy = false) :
    DDServer.Drains series
      (count + [Event.serverStarted].count (.notified true))
      { server with nextState := .request } (trace ++ [.serverStarted]) := by
  have early : server.Unsupplied := by
    rcases (available resting).2 with site | site <;> simp [Unsupplied, site]
  have site := Party.site_store server.toParty .request
  have early' : Unsupplied { server with nextState := .request } := by
    rcases site with same | turned
    · exact (unsupplied_congr same).mpr early
    · simp [Unsupplied, turned]
  refine drains.kept (by simp [Event.Uncounted]) rfl
    (iff_of_true early' early) (fun _ => (drains.before early).1) ?_
  intro success
  have ending := drains.undecided success
  simp [Unsupplied, ending] at early

/-- Storage is read at the start of the `RESPONSE` body. -/
theorem Moves.read_cases
    {target : Pointer}
    {maxSize : Nat}
    {contents : List Byte}
    (moves : server.Moves env server' events)
    (present : .storageRead target maxSize contents ∈ events) :
    server.point = .enter .response ∧ server.internalBuffer = some target ∧
      contents = env.stored server.readSize ∧
      ∀ event ∈ events, event ≠ .notified true := by
  cases moves with
  | readStorage here _ buffer | readNothing here buffer =>
      simp at present
      obtain ⟨rfl, -, rfl⟩ := present
      exact ⟨here, buffer, rfl, by simp⟩
  | retry here unsent =>
      obtain ⟨frame, impossible⟩ := unsent _ present
      simp at impossible
  | giveUp here givesUp =>
      rcases givesUp.mem present with impossible | ⟨frame, impossible⟩ |
        impossible <;> simp at impossible
  | _ => simp at present

end Kept

/-! ## What the script tells -/

section Serves

variable {series : Series} {history : History} {tally : Tally}
variable {server : DDServer} {env : Environment}

theorem Serves.success_of_terminate
    (serves : server.Serves series history tally)
    (site : server.toParty.site = .inl .terminate) :
    server.isTransferSuccess = true := by
  cases serves with
  | asleep asleep => simp [asleep.site] at site
  | serves _ at_ _ =>
      have here := at_.site
      rw [site] at here
      cases here
      exact at_.success rfl

/-- A server that waits for the acknowledgement has sent all data. -/
theorem Serves.empty_of_ackReceive
    {packet : TransactionPacket}
    (serves : server.Serves series history tally)
    (here : server.point = .body (.ackReceive packet)) :
    server.internalBufferLen = 0 := by
  have site := Party.site_of_body here
  cases serves with
  | asleep asleep => simp [asleep.site] at site
  | serves _ at_ _ =>
      have inside := at_.site
      rw [site] at inside
      cases inside
      have left := at_.left trivial
      simp only [ServerPhase.supplied, Nat.sub_self, remaining] at left
      omega

/-- A server that reads storage gets all data of the round. -/
theorem Serves.stored_of_response
    (serves : server.Serves series history tally)
    (sound : server.Sound series.server)
    (here : server.point = .enter .response)
    (stored : ∀ maxSize,
      env.stored maxSize = (series.data tally.notified).take maxSize) :
    env.stored server.readSize = series.data tally.notified := by
  have site := Party.site_of_enter here
  cases serves with
  | asleep asleep => simp [asleep.site] at site
  | serves round at_ _ =>
      have inside := at_.site
      rw [site] at inside
      cases inside
      have room := at_.readSize_ge (round.server ▸ sound)
      rw [stored]
      apply List.take_of_length_le
      rw [round.data] at room
      exact room

/-- A server that has not read the data of its round has sent all those of the
rounds before, and nothing else. -/
theorem Serves.sent_of_unsupplied
    (serves : server.Serves series history tally)
    (early : server.Unsupplied) :
    tally.sent = series.start tally.notified := by
  cases serves with
  | asleep => rfl
  | serves _ at_ unfinished =>
      have site := at_.site
      unfold Unsupplied at early
      generalize server.toParty.site = here at site early
      cases site with
      | request | requestReceive | response => rfl
      | again | receiveAgain => exact absurd rfl unfinished
      | _ => exact early.elim

end Serves

end DDServer

/-! ## Runs -/

section Runs

variable {series : Series} {clientHeap serverHeap : Heap}
variable {network : Network} {trace : List Observation}
variable (reaches : Network.machine.Reaches series.Admits
  (Network.new series.client series.server clientHeap serverHeap) network
  trace)

include reaches

/-- The staging pointer in a series. -/
theorem points_of_series :
    network.server.Points series.server
      (trace.filterMap Observation.ofServer) := by
  have run : DDServer.machine.Reaches (fun _ _ _ => True)
      (.new series.server serverHeap) network.server _ :=
    Network.server_of_reaches reaches fun _ _ _ _ _ => trivial
  exact DDServer.points_of_reaches run

/-- In a series, the server sends all data of a round before the next one. -/
theorem drains_of_series :
    network.server.Drains series (trace.count (.server (.notified true)))
      (trace.filterMap Observation.ofServer) := by
  refine (reaches.invariant
    (fun network trace =>
      Network.machine.Reaches series.Admits
          (Network.new series.client series.server clientHeap serverHeap)
          network trace ∧
        network.server.Drains series
          (trace.count (.server (.notified true)))
          (trace.filterMap Observation.ofServer))
    ⟨.start, ?_⟩ ?_).2
  · refine ⟨rfl, fun _ => ⟨rfl, rfl⟩, fun late => absurd trivial late,
      fun _ => rfl, fun success => ?_⟩
    cases success
  rintro network trace action ⟨reached, drains⟩ admitted
  refine ⟨reached.step admitted, ?_⟩
  have sound := Network.sound_of_reaches reached
  obtain ⟨_, serverTally, proceeds⟩ := Series.proceeds_of_reaches reached
  obtain ⟨_, serverTally', proceeds'⟩ :=
    Series.proceeds_of_reaches (reached.step admitted)
  cases action with
  | client action arrives =>
      rw [List.count_append, List.filterMap_append]
      simp only [Network.machine, Network.step,
        Observation.count_server_client,
        Observation.filterMap_ofServer_client, Nat.add_zero, List.append_nil]
      exact drains
  | server action arrives =>
      rw [List.count_append, List.filterMap_append]
      simp only [Network.machine, Network.step,
        Observation.count_server_server,
        Observation.filterMap_ofServer_server]
      cases action with
      | fsm env =>
          obtain ⟨steady, stored, -⟩ := admitted
          rw [← proceeds.serverReported.count] at stored
          have moves := sound.server.moves
            (env.hearing (Channel.heard network.toServer arrives).bytes)
          have notifies : network.server.notifyCB = true :=
            sound.server.notifyCB.trans series.serverCallbacks.2.2.2
          refine moves.drains sound.server steady.1 proceeds.serverPatient
            notifies ?_ ?_ ?_ proceeds'.server.success_of_terminate drains
          · intro here
            rw [← proceeds.serverReported.count]
            exact proceeds.server.stored_of_response sound.server here stored
          · exact fun _ here => proceeds.server.empty_of_ackReceive here
          · exact fun here => proceeds.server.success_of_terminate
              (Party.site_of_enter here)
      | startServer env =>
          rcases network.server.step_startServer admitted with
            refused | ⟨resting, accepted⟩
          · simp only [DDServer.Action.hearing, refused, Network.afterServer,
              List.count_nil, Nat.add_zero, List.append_nil]
            exact drains
          · simp only [DDServer.Action.hearing, accepted, Network.afterServer]
            exact drains.call proceeds.serverAvailable resting
      | stopServer => exact admitted.elim
  | disturb => exact admitted.elim

/-- A read of storage fetches the data of its round behind those of all rounds
before it, and nothing is notified in that step. -/
theorem read_of_series
    {action : Network.Action}
    {target : Pointer}
    {maxSize : Nat}
    {contents : List Byte}
    (admitted : series.Admits network trace action)
    (present : .server (.storageRead target maxSize contents) ∈
      (network.step action).2) :
    target = DDServer.staging.advance
        (series.drift (trace.count (.server (.notified true)))) ∧
      contents = series.data (trace.count (.server (.notified true))) ∧
      .server (.notified true) ∉ (network.step action).2 := by
  have sound := Network.sound_of_reaches reaches
  obtain ⟨_, serverTally, proceeds⟩ := Series.proceeds_of_reaches reaches
  cases action with
  | client => simp [Network.step] at present
  | server action arrives =>
      cases action with
      | fsm env =>
          obtain ⟨-, stored, -⟩ := admitted
          rw [← proceeds.serverReported.count] at stored
          have moves := sound.server.moves
            (env.hearing (Channel.heard network.toServer arrives).bytes)
          obtain ⟨here, buffer, rfl, silent⟩ :=
            moves.read_cases (List.mem_map_of_injective
              (fun _ _ => Observation.server.inj) |>.mp present)
          have drains := drains_of_series reaches
          obtain ⟨empty, read⟩ := drains.before (by
            simp [DDServer.Unsupplied, Party.site_of_enter here])
          have total := drains.total
          rw [empty, Nat.add_zero, read] at total
          have points := (points_of_series reaches).buffer
          have room := series.packetlen.1
          rw [total, buffer, DDServer.moved_eq (by omega)] at points
          refine ⟨Option.some.inj points, ?_, fun notified => ?_⟩
          · rw [← proceeds.serverReported.count]
            exact proceeds.server.stored_of_response sound.server here stored
          · obtain ⟨event, inEvents, same⟩ := List.mem_map.mp notified
            exact silent event inEvents (Observation.server.inj same)
      | startServer env =>
          obtain ⟨event, called, same⟩ := List.mem_map.mp present
          obtain rfl := Observation.server.inj same
          have calls := DDServer.calls_startServer network.server env
          rcases calls.calm _ called with impossible | impossible <;>
            cases impossible
      | stopServer => exact admitted.elim
  | disturb => exact admitted.elim

/-- Every read of storage fetches the data of its round, behind those of all
rounds before it. -/
theorem drifts_of_series : Trace.Every series.Drifts trace := by
  refine (reaches.invariant
    (fun network trace =>
      Network.machine.Reaches series.Admits
          (Network.new series.client series.server clientHeap serverHeap)
          network trace ∧
        Trace.Every series.Drifts trace)
    ⟨.start, Trace.every_nil _⟩ ?_).2
  rintro network trace action ⟨reached, every⟩ admitted
  refine ⟨reached.step admitted, every.append ?_⟩
  intro before observation after split
  unfold Series.Drifts
  split
  next target maxSize contents =>
      have present : .server (.storageRead target maxSize contents) ∈
          (network.step action).2 := by
        rw [show (network.step action).2 = _ from split]
        simp
      obtain ⟨place, fetched, silent⟩ := read_of_series reached admitted present
      have none : before.count (.server (.notified true)) = 0 := by
        apply List.count_eq_zero.mpr
        intro notified
        apply silent
        rw [show (network.step action).2 = _ from split]
        simp [notified]
      rw [List.count_append, none, Nat.add_zero]
      exact ⟨place, fetched⟩
  next => trivial

/-! ## Inside the staging buffer -/

/-- As long as the data of the rounds so far fit into the staging buffer, it is
not left. -/
theorem contained_of_fits
    (fits : series.drift (trace.count (.server (.notified true)) + 1) ≤
      DDServer.stagingSize series.server) :
    ∀ observation ∈ trace, ¬observation.Overruns series.server := by
  intro observation present
  obtain ⟨before, after, split⟩ := List.append_of_mem present
  have drains := drains_of_series reaches
  have points := points_of_series reaches
  cases observation with
  | client => exact id
  | server event =>
      cases event with
      | storageRead target maxSize contents =>
          obtain ⟨rfl, rfl⟩ := drifts_of_series reaches before _ after split
          have earlier : before.count (.server (.notified true)) ≤
              trace.count (.server (.notified true)) := by
            rw [split, List.count_append]
            exact Nat.le_add_right _ _
          have within := series.drift_mono (Nat.succ_le_succ earlier)
          simp only [Series.drift] at within fits
          simp only [Observation.Overruns, Event.Overruns,
            Pointer.offset_advance, DDServer.staging]
          omega
      | payloadCopied source size =>
          have within := points.payload_le
            (List.mem_filterMap.mpr ⟨_, present, rfl⟩)
          have total := drains.total
          have bound := drains.bounds.2
          simp only [Observation.Overruns, Event.Overruns]
          omega
      | _ => exact id

/-- What the client has notified was read from storage before. -/
theorem drift_le_delivered :
    series.drift (trace.count (.client (.notified true))) ≤
      delivered (trace.filterMap Observation.ofServer) := by
  obtain ⟨clientTally, serverTally, proceeds⟩ :=
    Series.proceeds_of_reaches reaches
  have drains := drains_of_series reaches
  rw [← proceeds.clientReported.count]
  rw [← proceeds.serverReported.count] at drains
  by_cases early : network.server.Unsupplied
  · rw [(drains.before early).2]
    apply series.drift_mono
    by_contra ahead
    have sent := proceeds.server.sent_of_unsupplied early
    have heard := proceeds.client.bounds.2
    have answered := proceeds.toClient.le fun _ _ _ answers => answers.lt.le
    have apart := series.start_lt (Nat.lt_of_not_le ahead)
    omega
  · rw [drains.behind early]
    exact series.drift_mono proceeds.in_step.2

/-- What was read from storage without leaving the staging buffer fits into
it. -/
theorem delivered_le_of_contained
    (contained : ∀ observation ∈ trace,
      ¬observation.Overruns series.server) :
    delivered (trace.filterMap Observation.ofServer) ≤
      DDServer.stagingSize series.server := by
  revert contained
  refine (reaches.invariant
    (fun network trace =>
      Network.machine.Reaches series.Admits
          (Network.new series.client series.server clientHeap serverHeap)
          network trace ∧
        ((∀ observation ∈ trace, ¬observation.Overruns series.server) →
          delivered (trace.filterMap Observation.ofServer) ≤
            DDServer.stagingSize series.server))
    ⟨.start, fun _ => Nat.zero_le _⟩ ?_).2
  rintro network trace action ⟨reached, before⟩ admitted
  refine ⟨reached.step admitted, fun contained => ?_⟩
  have old := before fun observation present =>
    contained observation (List.mem_append_left _ present)
  by_cases reads : ∃ target maxSize contents,
      .server (.storageRead target maxSize contents) ∈ (network.step action).2
  · obtain ⟨target, maxSize, contents, present⟩ := reads
    obtain ⟨rfl, rfl, silent⟩ := read_of_series reached admitted present
    have inside := contained _ (List.mem_append_right _ present)
    have bound := (drains_of_series (reached.step admitted)).bounds.2
    have same : (trace ++ (network.step action).2).count
        (.server (.notified true)) =
          trace.count (.server (.notified true)) := by
      rw [List.count_append, List.count_eq_zero.mpr silent, Nat.add_zero]
    simp only [Network.machine, same, Series.drift] at bound
    simp only [Observation.Overruns, Event.Overruns, Pointer.offset_advance,
      DDServer.staging] at inside
    exact bound.trans (by omega)
  · have none : delivered
        ((network.step action).2.filterMap Observation.ofServer) = 0 := by
      apply delivered_eq_zero
      intro target maxSize contents present
      obtain ⟨observation, inStep, same⟩ := List.mem_filterMap.mp present
      cases observation with
      | client => cases same
      | server event =>
          obtain rfl := Option.some.inj same
          exact reads ⟨target, maxSize, contents, inStep⟩
    simp only [Network.machine, List.filterMap_append, delivered_append, none,
      Nat.add_zero]
    exact old

/-! ## Results -/

/-- In a series of any number of transfers, every read of storage fetches the
data of its round to the place behind the data of all rounds before it. -/
theorem series_reads_drift :
    Trace.Every
      (fun before observation => ∀ target maxSize contents,
        observation = .server (.storageRead target maxSize contents) →
          target = DDServer.staging.advance
              (series.drift (before.count (.server (.notified true)))) ∧
            contents =
              series.data (before.count (.server (.notified true))))
      trace := by
  rintro before _ after split target maxSize contents rfl
  exact drifts_of_series reaches before _ after split

end Runs

/-- The second transfer reads behind the twelve bytes of the first one. -/
theorem series_reads_drift_example :
    (Network.exampleRun exampleRounds).2[51]? =
        some (.server (.storageRead (DDServer.staging.advance 12) 12
          (exampleSeries.data 1))) ∧
      DDServer.staging.advance 12 =
        DDServer.staging.advance
          (exampleSeries.drift
            (((Network.exampleRun exampleRounds).2.take 51).count
              (.server (.notified true)))) := by
  have every := series_reads_drift (reaches_example known_exampleRounds)
  have second := every ((Network.exampleRun exampleRounds).2.take 51) _
    ((Network.exampleRun exampleRounds).2.drop 52) (by decide +kernel)
    (DDServer.staging.advance 12) 12 (exampleSeries.data 1) rfl
  exact ⟨by decide +kernel, second.1⟩

end DataDumpProtocol

import DataDumpProtocol.Program.Wakeup
import DataDumpProtocol.Series.InFlight

/-!
# What the test program needs of its queues and buffers

The queues take twenty frames, and a transfer never needs more than eighteen at
a time.  The server's staging buffer has room for two transfers.
-/

namespace DataDumpProtocol

/-! ## What `sendCB` answered -/

namespace DataDump

variable {dump : DataDump} {env : Environment}
variable {bytes : List Byte} {accepted : Bool}

theorem sendLoop_answered
    {packet : TransactionPacket}
    (sent : .sent bytes accepted ∈ (dump.sendLoop packet env).2.2) :
    accepted = env.sendAccepted := by
  have attempt : .sent bytes accepted ∈
      (dump.send packet (.ofNat 8 packet.getPacketSize) env).2.2 := by
    unfold sendLoop at sent
    dsimp only at sent
    split at sent <;> exact sent
  unfold send at attempt
  split at attempt
  next => simp at attempt
  next =>
    dsimp only at attempt
    split at attempt
    next => exact (Event.sent.inj (List.mem_singleton.mp attempt)).2
    next => simp at attempt

theorem sendBlockLoop_answered
    {packet : BlockTxRxPacket}
    (sent : .sent bytes accepted ∈ (dump.sendBlockLoop packet env).2) :
    accepted = env.sendAccepted := by
  have attempt : .sent bytes accepted ∈
      (dump.sendBlock packet (.ofNat 8 packet.getPacketSize) env).2 := by
    unfold sendBlockLoop at sent
    dsimp only at sent
    split at sent <;> exact sent
  unfold sendBlock at attempt
  split at attempt
  next => simp at attempt
  next =>
    dsimp only at attempt
    split at attempt
    next => exact (Event.sent.inj (List.mem_singleton.mp attempt)).2
    next => simp at attempt

end DataDump

/-- A frame is observed with what `sendCB` answered to it. -/
theorem DDClient.fsmStep_answered
    {parameters : Parameters}
    {client : DDClient}
    {env : Environment}
    {bytes : List Byte}
    {accepted : Bool}
    (sound : client.Sound parameters)
    (sent : .sent bytes accepted ∈ (client.fsmStep env).2) :
    accepted = env.sendAccepted := by
  obtain ⟨body, here⟩ : ∃ body, client.point = .body body := by
    have moves := sound.moves env
    generalize (client.fsmStep env).1 = client', (client.fsmStep env).2 = events
      at moves sent
    cases moves with
    | requestSent here | initiateSent here | ackSent here | ackNotSent here
    | retry here | giveUp here => exact ⟨_, here⟩
    | _ => simp at sent
  simp only [fsmStep, here] at sent
  cases body with
  | requestSend | initiateSend | ackSend | ackNotSend =>
      apply DataDump.sendLoop_answered
      simp only [stepBody] at sent
      split at sent
      all_goals
        next same =>
          rw [same]
          exact sent
  | responseReceive response =>
      obtain ⟨result, _, events, loop, outcome, -⟩ :=
        client.receiveLoop_outcome response .response env
      have quiet : .sent bytes accepted ∉ events := by
        cases outcome <;> simp
      simp only [stepBody, loop] at sent
      cases result with
      | none => exact absurd sent quiet
      | some recvLen =>
          dsimp only at sent
          split at sent <;> exact absurd sent quiet
  | blockReceive blockDataPacket =>
      obtain ⟨result, _, events, loop, outcome, -⟩ :=
        client.receiveBlockLoop_outcome blockDataPacket .blockTransfer env
      have quiet : .sent bytes accepted ∉ events := by
        cases outcome <;> simp
      simp only [stepBody, loop] at sent
      cases result with
      | none => exact absurd sent quiet
      | some recvLen =>
          rcases List.mem_append.mp sent with polled | handled
          · exact absurd polled quiet
          · unfold handleBlock storeBlock at handled
            grind
  | blockContinue => simp [stepBody] at sent

/-- A call by the application sends nothing. -/
theorem DDClient.Calls.not_sent
    {client client' : DDClient}
    {buffer : Option Pointer}
    {size : Nat}
    {events : List Event}
    (calls : client.Calls buffer size client' events)
    {bytes : List Byte}
    {accepted : Bool} :
    .sent bytes accepted ∉ events := by
  cases calls <;> simp

theorem DDServer.fsmStep_answered
    {parameters : Parameters}
    {server : DDServer}
    {env : Environment}
    {bytes : List Byte}
    {accepted : Bool}
    (sound : server.Sound parameters)
    (sent : .sent bytes accepted ∈ (server.fsmStep env).2) :
    accepted = env.sendAccepted := by
  obtain ⟨body, here, sends⟩ := (sound.moves env).sent sound sent
  simp only [fsmStep, here] at sent
  cases sends with
  | response =>
      apply DataDump.sendLoop_answered
      simp only [stepBody] at sent
      split at sent
      all_goals
        next same =>
          rw [same]
          exact sent
  | block =>
      apply DataDump.sendBlockLoop_answered
      simp only [stepBody] at sent
      split at sent
      next same =>
        rw [same]
        exact sent
      next same =>
        rw [same]
        split at sent <;> exact sent
      next same =>
        rw [same]
        exact sent

namespace DDTest

variable {test : DDTest} {env : Environment} {trace : List Observation}
variable {clientHeap serverHeap : Heap}

/-! ## Queues -/

/-- The queue takes what is sent, as long as it has room. -/
theorem sendAnswer_eq_true
    {queue : List Frame}
    {events : List Event}
    (room : queue.length < 20)
    (nonempty : ∀ bytes accepted, .sent bytes accepted ∈ events → bytes ≠ []) :
    sendAnswer queue events = true := by
  apply List.all_eq_true.mpr
  intro event present
  cases event with
  | sent bytes accepted =>
      have some_ := nonempty bytes accepted present
      simp [queueSend, room, some_]
  | _ => rfl

/-- In a series, neither channel holds more than eighteen frames of the
program. -/
theorem length_le_of_series
    {network : Network}
    (reaches : Network.machine.Reaches storageSeries.Admits
      (Network.new testClient testServer clientHeap serverHeap) network
      trace) :
    network.toServer.length ≤ 2 ∧ network.toClient.length ≤ 18 ∧
      ∀ frame ∈ network.toServer ++ network.toClient,
        frame.bytes.length ≤ 20 := by
  obtain ⟨clientTally, serverTally, proceeds⟩ :=
    Series.proceeds_of_reaches reaches
  have full := Network.full_of_reaches reaches
    fun _ _ _ => Series.Admits.shuffles
  have toClient := proceeds.length_toClient_le (by decide) full
  rw [data_storageSeries, length_contents] at toClient
  exact ⟨proceeds.length_toServer_le, toClient, proceeds.length_frame_le⟩

/-- The frame that a step sends in a series is not empty. -/
theorem nonempty_of_posted
    {network : Network}
    (reaches : Network.machine.Reaches storageSeries.Admits
      (Network.new testClient testServer clientHeap serverHeap) network
      trace) :
    ∀ frame ∈ network.toServer ++ network.toClient, frame.bytes ≠ [] := by
  obtain ⟨_, _, proceeds⟩ := Series.proceeds_of_reaches reaches
  intro frame present
  rcases List.mem_append.mp present with asked | answered
  · obtain ⟨_, _, asks⟩ := proceeds.toServer.exists_leads asked
    exact asks.ne_nil
  · obtain ⟨_, _, answers⟩ := proceeds.toClient.exists_leads answered
    exact answers.ne_nil

section Runs

variable (reaches : machine.Reaches (fun _ _ action => action.Steady)
  (new clientHeap serverHeap) test trace)

include reaches

/-- `clientSend` takes what the client sends. -/
theorem clientEnv_sendAccepted (steady : env.Steady) :
    (test.clientEnv env).sendAccepted = true := by
  have series := series_of_reaches reaches
  have sound := (sound_of_reaches reaches).1.client
  apply sendAnswer_eq_true
  · have room := (length_le_of_series series).1
    omega
  intro bytes accepted sent
  obtain rfl := DDClient.fsmStep_answered sound sent
  -- The step of the series in which the frame is taken.
  have admitted : storageSeries.Admits test.network trace (.client
      (.fsm { test.clientEnv env with sendAccepted := true }) true) := steady
  refine nonempty_of_posted (series.step admitted)
    (test.network.history.clientFrame bytes) ?_
  apply List.mem_append_left
  apply List.mem_append_right
  exact Channel.mem_posted.mpr ⟨bytes, sent, rfl⟩

/-- `serverSend` takes what the server sends. -/
theorem serverEnv_sendAccepted (steady : env.Steady) :
    (test.serverEnv env).sendAccepted = true := by
  have series := series_of_reaches reaches
  obtain ⟨sound, filled⟩ := sound_of_reaches reaches
  apply sendAnswer_eq_true
  · have room := (length_le_of_series series).2.1
    omega
  intro bytes accepted sent
  obtain rfl := DDServer.fsmStep_answered sound.server sent
  have admitted : storageSeries.Admits test.network trace (.server
      (.fsm { test.serverEnv env with
        stored := contents.take
        sendAccepted := true }) true) := by
    refine ⟨steady, fun _ => by rw [data_storageSeries], ?_⟩
    simp [serverEnv, serverStorageReadcb]
  have same := congrArg Prod.snd (@fsmStep_contents test
    { test.serverEnv env with sendAccepted := true } filled rfl)
  refine nonempty_of_posted (series.step admitted)
    (test.network.history.serverFrame bytes) ?_
  apply List.mem_append_right
  apply List.mem_append_right
  exact Channel.mem_posted.mpr ⟨bytes, same ▸ sent, rfl⟩

/-- As long as locks are acquired and timers do not expire, the queues of the
program never hold more than two and eighteen of the twenty frames that they
may hold, no frame is longer than the receiver's buffer, and no send is ever
refused. -/
theorem program_queues :
    test.network.toServer.length ≤ 2 ∧
    test.network.toClient.length ≤ 18 ∧
    (∀ frame ∈ test.network.toServer ++ test.network.toClient,
      frame.bytes.length ≤ 20) ∧
    ∀ bytes, .client (.sent bytes false) ∉ trace ∧
      .server (.sent bytes false) ∉ trace := by
  obtain ⟨toServer, toClient, sizes⟩ :=
    length_le_of_series (series_of_reaches reaches)
  refine ⟨toServer, toClient, sizes, ?_⟩
  refine (reaches.invariant
    (fun test trace =>
      machine.Reaches (fun _ _ action => action.Steady)
          (new clientHeap serverHeap) test trace ∧
        ∀ bytes, .client (.sent bytes false) ∉ trace ∧
          .server (.sent bytes false) ∉ trace)
    ⟨.start, by simp⟩ ?_).2
  rintro test trace action ⟨reached, none⟩ steady
  refine ⟨reached.step steady, fun bytes => ?_⟩
  simp only [List.mem_append, not_or]
  have sound := (sound_of_reaches reached).1
  have steps := test.steps action
  simp only [machine]
  generalize (test.step action).1 = test', (test.step action).2 = observations
    at steps ⊢
  have unsent : .client (.sent bytes false) ∉ observations ∧
      .server (.sent bytes false) ∉ observations := by
    cases steps with
    | @starts env =>
        refine ⟨by simp [started, Network.step], fun sent => ?_⟩
        have calls := DDServer.calls_startServer test.network.server env
        have impossible := calls.calm _
          ((List.mem_map_of_injective fun _ _ =>
            Observation.server.inj).mp sent)
        simp at impossible
    | @calls env =>
        refine ⟨fun sent => ?_, by simp [called, Network.step]⟩
        have calls := DDClient.calls_startNewTransfer test.network.client
          (some clientStorage) transferSize env
        exact calls.not_sent ((List.mem_map_of_injective fun _ _ =>
          Observation.client.inj).mp sent)
    | @serves env =>
        refine ⟨by simp [served, Network.step], fun sent => ?_⟩
        have refused := DDServer.fsmStep_answered sound.server
          ((List.mem_map_of_injective fun _ _ =>
            Observation.server.inj).mp sent)
        have taken := serverEnv_sendAccepted reached steady
        exact absurd (refused.trans taken) (by simp)
    | @fetches env =>
        refine ⟨fun sent => ?_, by simp [fetched, Network.step]⟩
        have refused := DDClient.fsmStep_answered sound.client
          ((List.mem_map_of_injective fun _ _ =>
            Observation.client.inj).mp sent)
        have taken := clientEnv_sendAccepted reached steady
        exact absurd (refused.trans taken) (by simp)
    | _ => simp
  exact ⟨⟨(none bytes).1, unsent.1⟩, (none bytes).2, unsent.2⟩

/-! ## The staging buffer -/

/-- As long as locks are acquired and timers do not expire, every read of the
storage fetches it whole, to the place behind what all transfers before it have
fetched.  This lies inside the server's staging buffer for the first two
transfers, and for no other. -/
theorem program_overruns :
    Trace.Every
      (fun before observation => ∀ target maxSize fetched,
        observation = .server (.storageRead target maxSize fetched) →
          target = DDServer.staging.advance
              (transferSize * before.count (.server (.notified true))) ∧
            fetched = contents ∧
            (target.offset + fetched.length ≤
                DDServer.stagingSize testServer ↔
              before.count (.server (.notified true)) ≤ 1))
      trace := by
  have drifts := drifts_of_series (series_of_reaches reaches)
  rintro before _ after split target maxSize fetched rfl
  obtain ⟨target_eq, fetched_eq⟩ := drifts before _ after split
  rw [data_storageSeries] at fetched_eq
  rw [drift_storageSeries] at target_eq
  refine ⟨target_eq, fetched_eq, ?_⟩
  have size : DDServer.stagingSize testServer = 525 := rfl
  rw [target_eq, fetched_eq, length_contents, size]
  simp only [Pointer.offset_advance, DDServer.staging, transferSize]
  omega

end Runs

/-- The first transfer keeps to the queues, and all its sends are taken. -/
theorem program_queues_example :
    exampleRun.1.network.toServer.length ≤ 2 ∧
      exampleRun.1.network.toClient.length ≤ 18 ∧
      (∀ frame ∈
          exampleRun.1.network.toServer ++ exampleRun.1.network.toClient,
        frame.bytes.length ≤ 20) ∧
      ∀ bytes, .client (.sent bytes false) ∉ exampleRun.2 ∧
        .server (.sent bytes false) ∉ exampleRun.2 :=
  program_queues reaches_exampleRun

/-- The first transfer reads into the staging buffer. -/
theorem program_overruns_example :
    exampleRun.2[10]? =
        some (.server (.storageRead DDServer.staging 525 contents)) ∧
      DDServer.staging.offset + contents.length ≤
        DDServer.stagingSize testServer := by
  have first := program_overruns reaches_exampleRun (exampleRun.2.take 10) _
    (exampleRun.2.drop 11) (by decide +kernel) DDServer.staging 525 contents rfl
  exact ⟨by decide +kernel, first.2.2.mpr (by decide +kernel)⟩

end DDTest

end DataDumpProtocol

import DataDumpProtocol.Series.EndToEnd
import DataDumpProtocol.Server.Coverage

/-!
# What is in flight in a series

Each side waits for the other one before it goes on.  So the channel to the
server holds an acknowledgement and the next request at most, and the channel
to the client the blocks of one round, all of which but the last are full.
-/

namespace DataDumpProtocol

open Segments

/-! ## Full blocks -/

/-- A block in flight is full, unless it is marked as the last one. -/
def Frame.Full (size : Nat) (frame : Frame) : Prop :=
  frame.isBlock = true →
    frameContinueBit frame.bytes = .continueTransfer →
      (framePayload frame.bytes).length = size

namespace DDServer

/-- The block that is being sent is full, unless it is marked as the last
one. -/
def SendsFull (server : DDServer) : Prop :=
  ∀ packet, server.point = .body (.blockSend packet) →
    packet.header.getContinueBit = .continueTransfer →
      packet.header.dataBufferSize.toNat = server.maxPacketSize - 5

section SendsFull

variable {parameters : Parameters} {server server' : DDServer}
variable {env : Environment} {events : List Event}

/-- A server that sends no block sends none that is not full. -/
theorem sendsFull_of_outside
    (outside : ∀ packet, server.point ≠ .body (.blockSend packet)) :
    server.SendsFull :=
  fun packet here => absurd here (outside packet)

/-- A block that leaves bytes behind is full. -/
theorem Moves.sendsFull
    (moves : server.Moves env server' events)
    (sound : server.Sound parameters)
    (full : server.SendsFull) :
    server'.SendsFull := by
  cases moves with
  | shell shell =>
      apply sendsFull_of_outside
      exact fun packet => shell.point_ne_body _
  | fillBlock here buffer =>
      intro packet there more
      obtain rfl : server.blockPacket = packet := by simpa using there
      have room : 5 ≤ server.maxPacketSize :=
        Nat.le_trans (by omega) (sound.room_of_enter here)
      have holds := blockPacket_holds room sound.byteSized buffer
      have size := dataSizeCopiedToPacket_eq room
      have left : 0 <
          server.internalBufferLen - server.dataSizeCopiedToPacket := by
        rw [blockPacket_getContinueBit, lastFrame] at more
        split at more
        next => simp at more
        next within => exact Nat.lt_of_not_le (not_or.mp within).2
      rw [holds.size, Heap.length_bytes]
      dsimp only
      omega
  | retry => exact full
  | poll here polls =>
      apply sendsFull_of_outside
      cases polls <;> simp [goto]
  | _ =>
      apply sendsFull_of_outside
      simp [goto]

/-- The blocks that a server sends are full, unless they are marked as the last
one. -/
theorem Moves.sent_full
    (moves : server.Moves env server' events)
    (sound : server.Sound parameters)
    (full : server.SendsFull)
    {frame : Frame}
    {accepted : Bool}
    (sent : .sent frame.bytes accepted ∈ events) :
    frame.Full (parameters.maxPacketlen.toNat - 5) := by
  obtain ⟨body, here, sends⟩ := moves.sent sound sent
  intro block more
  cases sends with
  | response control =>
      rw [Frame.isBlock_of_control control (by simp)] at block
      cases block
  | @block packet source size beyond _ holds bytes =>
      rcases holds.frame_cases beyond with ⟨-, empty⟩ | ⟨-, frame_eq⟩
      · simp [Frame.isBlock, bytes, empty] at block
      · rw [bytes, frame_eq, frameContinueBit_blockFrame] at more
        rw [bytes, frame_eq, framePayload_blockFrame, ← holds.size,
          full packet here more, sound.maxPacketSize]

end SendsFull

end DDServer

/-- In every run over channels that make up no frames, the blocks in flight are
full, unless they are marked as the last one. -/
theorem Network.full_of_reaches
    {admits : Network → List Observation → Action → Prop}
    {client server : Parameters}
    {clientHeap serverHeap : Heap}
    {network : Network}
    {trace : List Observation}
    (reaches : machine.Reaches admits
      (new client server clientHeap serverHeap) network trace)
    (shuffles : ∀ network trace action, admits network trace action →
      action.Shuffles network) :
    ∀ frame ∈ network.toClient, frame.Full (server.maxPacketlen.toNat - 5) := by
  refine (invariant_of_reaches reaches
    (fun network => network.server.SendsFull ∧
      ∀ frame ∈ network.toClient, frame.Full (server.maxPacketlen.toNat - 5))
    ⟨?_, by simp [new]⟩ ?_).2.2
  · apply DDServer.sendsFull_of_outside
    simp [new, DDServer.new]
  rintro network trace action network' observations sound ⟨sends, full⟩
    admitted steps
  cases steps with
  | clientMoves | clientCalls =>
      exact ⟨sends, fun frame taken =>
        full frame (Channel.mem_of_mem_taken taken)⟩
  | serverMoves moves =>
      refine ⟨moves.sendsFull sound.server sends, fun frame present => ?_⟩
      rcases List.mem_append.mp present with old | new
      · exact full frame old
      · obtain ⟨bytes, sent, rfl⟩ := Channel.mem_posted.mp new
        exact moves.sent_full sound.server sends sent
  | serverCalls calls =>
      simp only [afterServer, Channel.posted_serverCalls calls,
        List.append_nil]
      obtain ⟨-, -⟩ := calls
      exact ⟨sends, full⟩
  | disturb =>
      obtain ⟨-, subset⟩ := shuffles _ _ _ admitted
      exact ⟨sends, fun frame present => full frame (subset present)⟩

/-! ## How far the sides are apart -/

namespace Series

variable {series : Series}

/-- The least that a client has heard that has sent so many messages: it
initiates behind the response, and goes on to the next round behind the
data. -/
def leastHeard (series : Series) (sent : Nat) : Nat :=
  if sent % 3 = 2 then series.start (sent / 3) + 1 else series.start (sent / 3)

/-- The most that a server has sent that has heard so many messages: it responds
to the request, and sends the data behind the initiate message. -/
def mostSent (series : Series) (heard : Nat) : Nat :=
  if heard % 3 = 0 then series.start (heard / 3)
  else if heard % 3 = 1 then series.start (heard / 3) + 1
  else series.start (heard / 3 + 1)

/-- A round has a response and data. -/
theorem start_add_two_le (series : Series) (count : Nat) :
    series.start count + 2 ≤ series.start (count + 1) := by
  have nonempty := series.nonempty count
  rw [start]
  omega

theorem mostSent_mono (series : Series) : Monotone series.mostSent := by
  apply monotone_nat_of_le_succ
  intro heard
  have next := series.start_add_two_le (heard / 3)
  have cases_ : heard % 3 = 0 ∧ (heard + 1) % 3 = 1 ∧
        (heard + 1) / 3 = heard / 3 ∨
      heard % 3 = 1 ∧ (heard + 1) % 3 = 2 ∧ (heard + 1) / 3 = heard / 3 ∨
      heard % 3 = 2 ∧ (heard + 1) % 3 = 0 ∧
        (heard + 1) / 3 = heard / 3 + 1 := by
    omega
  rcases cases_ with ⟨now, then_, same⟩ | ⟨now, then_, same⟩ |
    ⟨now, then_, same⟩ <;>
    simp only [mostSent, now, then_, same]
  · simp
  · simpa [Nat.add_assoc] using Nat.le_of_lt next
  · simp

/-- A client that is three messages ahead has heard more than the server has
sent. -/
theorem mostSent_lt_leastHeard (series : Series) (heard : Nat) :
    series.mostSent heard < series.leastHeard (heard + 3) := by
  have next := series.start_add_two_le (heard / 3)
  have round : (heard + 3) % 3 = heard % 3 ∧ (heard + 3) / 3 = heard / 3 + 1 := by
    omega
  simp only [mostSent, leastHeard, round]
  split
  · rw [if_neg (by omega)]
    omega
  · split
    · rw [if_neg (by omega)]
      omega
    · rw [if_pos (by omega)]
      omega

end Series

theorem DDClient.Takes.least
    {series : Series}
    {caller : Pointer}
    {tally : Tally}
    {client : DDClient}
    (takes : client.Takes series caller tally) :
    series.leastHeard tally.sent ≤ tally.heard ∧
      3 * tally.notified ≤ tally.sent := by
  cases takes with
  | rests | called => simp [Series.clientRest, Series.leastHeard]
  | @transfers count transfer _ phase _ round _ _ unfinished =>
      have whole : series.start (count + 1) =
          series.start count + (1 + transfer.data.length) := by
        rw [round.data]
        rfl
      cases phase with
      | preparing | asking | initiating | receiving =>
          simp [Standing.tally, ClientPhase.standing, Series.leastHeard,
            Nat.add_mod, Nat.mul_add_div]
      | concluding =>
          simp [Standing.tally, ClientPhase.standing, Series.leastHeard, whole]
      | finished => exact absurd rfl unfinished

theorem DDServer.Serves.most
    {series : Series}
    {history : History}
    {tally : Tally}
    {server : DDServer}
    (serves : server.Serves series history tally) :
    tally.sent ≤ series.mostSent tally.heard := by
  cases serves with
  | asleep => exact Nat.zero_le _
  | @serves count transfer phase _ round at_ =>
      have whole : series.start (count + 1) =
          series.start count + (1 + transfer.data.length) := by
        rw [round.data]
        rfl
      have sent := at_.sent_le
      cases phase with
      | listening | accepting | responding | expecting =>
          simp [Standing.tally, ServerPhase.standing, Series.mostSent,
            Nat.add_mod, Nat.mul_add_div]
      | transferring =>
          simp only [ServerPhase.standing] at sent
          simp [Standing.tally, ServerPhase.standing, Series.mostSent,
            Nat.add_mod, Nat.mul_add_div, whole]
          omega
      | concluding | finished =>
          simp [Standing.tally, ServerPhase.standing, Series.mostSent, whole]

namespace Series

variable {series : Series} {network : Network} {trace : List Observation}
variable {clientTally serverTally : Tally}

/-- The client is at most two messages ahead. -/
theorem Proceeds.sent_le
    (proceeds : series.Proceeds network trace clientTally serverTally) :
    clientTally.sent ≤ serverTally.heard + 2 := by
  have least := proceeds.client.least.1
  have most := proceeds.server.most
  have answered := proceeds.toClient.le fun _ _ _ answers => answers.lt.le
  by_contra ahead
  have mono := series.mostSent_mono
    (show serverTally.heard ≤ clientTally.sent - 3 by omega)
  have apart := series.mostSent_lt_leastHeard (clientTally.sent - 3)
  rw [Nat.sub_add_cancel (by omega)] at apart
  omega

/-- In the data of a round, every block but the last leads on by its size. -/
theorem Answers.stride
    {count size here there : Nat}
    {frame : Frame}
    (full : frame.Full size)
    (inside : series.start count + 1 ≤ here)
    (before : here < series.start (count + 1))
    (answers : series.Answers here frame.bytes there) :
    there = series.start (count + 1) ∨ here + size ≤ there := by
  obtain ⟨position, rfl⟩ := Nat.exists_eq_add_of_le inside
  have round := series.round_roundInto count ⟨0, 0⟩ _ (Nat.le_refl _)
  rw [Nat.add_assoc] at answers
  obtain ⟨next, within, rfl⟩ := answers.inRound round (by
    rw [round.data]
    simp only [start] at before
    omega)
  obtain ⟨header, payload, bytes, slice, rfl⟩ := within.next
  have block := Frame.isBlock_of_blockFrame bytes
  have whole := round.data
  cases bit : header.getContinueBit with
  | terminateTransfer =>
      have ends := slice.last.mp bit
      rw [round.data] at ends
      simp only [start]
      omega
  | continueTransfer =>
      have size_eq := full block (by
        rw [bytes, frameContinueBit_blockFrame, bit])
      rw [bytes, framePayload_blockFrame] at size_eq
      omega

/-- The channel to the client holds the blocks of one round at most. -/
theorem Proceeds.length_toClient_le
    {size : Nat}
    (proceeds : series.Proceeds network trace clientTally serverTally)
    (positive : 0 < size)
    (full : ∀ frame ∈ network.toClient, frame.Full size) :
    network.toClient.length ≤
      (series.data clientTally.notified).length ⌈/⌉ size := by
  obtain ⟨least, rounds⟩ := proceeds.client.least
  have bound := proceeds.client.bounds.1
  have some_ : 0 < (series.data clientTally.notified).length ⌈/⌉ size := by
    rw [lt_ceilDiv_iff positive]
    rw [Nat.mul_zero]
    exact series.nonempty clientTally.notified
  have asked := proceeds.toServer.le fun _ _ _ asks => asks.lt.le
  have most := proceeds.server.most.trans (series.mostSent_mono asked)
  have apart := proceeds.toClient.length_add_le fun _ _ _ answers => answers.lt
  have residues : clientTally.sent % 3 = 0 ∨
      clientTally.sent / 3 = clientTally.notified ∧
        (clientTally.sent % 3 = 1 ∨ clientTally.sent % 3 = 2) := by
    omega
  rcases residues with rests | ⟨round, asking | receiving⟩
  · simp only [leastHeard, mostSent, rests] at least most
    simp at least most
    omega
  · simp only [leastHeard, mostSent, asking] at least most
    simp at least most
    omega
  · simp only [leastHeard, mostSent, receiving, round] at least most
    simp at least most
    have fewer := proceeds.toClient.length_mul_lt positive most
      (fun _ _ _ answers => answers.lt)
      fun frame present here there after before answers =>
        answers.stride (full frame present) (by omega) before
    by_contra more
    have behind := (ceilDiv_le_iff_le_mul positive).mp
      (Nat.le_sub_one_of_lt (Nat.lt_of_not_le more))
    have whole : series.start (clientTally.notified + 1) =
        series.start clientTally.notified +
          (1 + (series.data clientTally.notified).length) := rfl
    have split : network.toClient.length * size =
        size * (network.toClient.length - 1) + size := by
      rw [Nat.mul_comm, ← Nat.mul_succ, Nat.succ_eq_add_one,
        Nat.sub_add_cancel (by omega)]
    omega

/-- What the client sends fits the server's packets. -/
theorem Asks.length_le
    {here there : Nat}
    {bytes : List Byte}
    (asks : series.Asks here bytes there) :
    bytes.length ≤ series.server.maxPacketlen.toNat := by
  obtain ⟨-, asks⟩ := asks
  cases asks with
  | request control | initiate control | ack control =>
      obtain ⟨packet, -, rfl⟩ := control
      rw [DataDump.length_controlFrame]
      exact series.packetlen.1

/-- What the server sends fits its packets. -/
theorem Answers.length_le
    {here there : Nat}
    {bytes : List Byte}
    (answers : series.Answers here bytes there) :
    bytes.length ≤ series.server.maxPacketlen.toNat := by
  obtain ⟨round, answers⟩ := answers
  cases answers with
  | response control =>
      obtain ⟨packet, -, rfl⟩ := control
      rw [DataDump.length_controlFrame]
      exact series.packetlen.1
  | block slice =>
      rw [length_blockFrame, ← round.server]
      exact slice.room

theorem Proceeds.length_toServer_le
    (proceeds : series.Proceeds network trace clientTally serverTally) :
    network.toServer.length ≤ 2 := by
  have apart := proceeds.toServer.length_add_le fun _ _ _ asks => asks.lt
  have ahead := proceeds.sent_le
  omega

theorem Proceeds.length_frame_le
    (proceeds : series.Proceeds network trace clientTally serverTally) :
    ∀ frame ∈ network.toServer ++ network.toClient,
      frame.bytes.length ≤ series.server.maxPacketlen.toNat := by
  intro frame present
  rcases List.mem_append.mp present with asked | answered
  · obtain ⟨_, _, asks⟩ := proceeds.toServer.exists_leads asked
    exact asks.length_le
  · obtain ⟨_, _, answers⟩ := proceeds.toClient.exists_leads answered
    exact answers.length_le

/-- What a series admits makes up no frames. -/
theorem Admits.shuffles
    {action : Network.Action}
    (admitted : series.Admits network trace action) :
    action.Shuffles network := by
  cases action with
  | client | server => trivial
  | disturb => exact admitted.elim

end Series

/-- In a series of any number of transfers, the channel to the server never
holds more than two frames, the channel to the client no more than the blocks
of the round that the client is in, and no frame is longer than the server's
packets. -/
theorem series_in_flight
    {series : Series}
    {clientHeap serverHeap : Heap}
    {network : Network}
    {trace : List Observation}
    (reaches : Network.machine.Reaches series.Admits
      (Network.new series.client series.server clientHeap serverHeap) network
      trace) :
    network.toServer.length ≤ 2 ∧
    network.toClient.length ≤
      (series.data (trace.count (.client (.notified true)))).length ⌈/⌉
        (series.server.maxPacketlen.toNat - 5) ∧
    ∀ frame ∈ network.toServer ++ network.toClient,
      frame.bytes.length ≤ series.server.maxPacketlen.toNat := by
  obtain ⟨clientTally, serverTally, proceeds⟩ :=
    Series.proceeds_of_reaches reaches
  have room := series.packetlen.1
  have full := Network.full_of_reaches reaches fun _ _ _ => Series.Admits.shuffles
  refine ⟨proceeds.length_toServer_le, ?_, proceeds.length_frame_le⟩
  rw [← proceeds.clientReported.count]
  exact proceeds.length_toClient_le (by omega) full

/-- A transfer until the server has sent its blocks. -/
def exampleUnpolled : List Network.Action :=
  [.server (.startServer {}) true, exampleCall] ++ Network.clientSteps 9 ++
    exampleServings 18 ++ Network.clientSteps 25 ++ exampleServings 25

/-- The server has sent both blocks of six bytes, and the client has polled
neither. -/
theorem series_in_flight_example :
    (Network.exampleRun exampleUnpolled).1.toClient.length = 2 ∧
      (Network.exampleRun exampleUnpolled).1.toClient.length ≤ 12 ⌈/⌉ 6 := by
  have known : exampleUnpolled ⊆ exampleActions := by
    simp only [exampleUnpolled, List.append_subset, known_steps, and_true]
    simp [exampleActions]
  have inFlight := (series_in_flight (reaches_example known)).2.1
  have first : (Network.exampleRun exampleUnpolled).2.count
      (.client (.notified true)) = 0 := by
    decide +kernel
  rw [first] at inFlight
  exact ⟨by decide +kernel, inFlight⟩

end DataDumpProtocol

import DataDumpProtocol.Network.Turns

/-!
# A rejected transfer does not end

A client that rejects a block sends a `BLOCK_ACKNOT` and is done.  The server
that waits for the acknowledgement drops this frame like any other that is not
a `BLOCK_ACK`, and with it every request that follows: without a timeout the
wait is for ever.
-/

namespace DataDumpProtocol

namespace DDServer

variable {server server' : DDServer} {env : Environment}
variable {events : List Event}

/-- In the loop that waits for the acknowledgement. -/
def AwaitsAck (server : DDServer) : Prop :=
  ∃ ackPacket, server.point = .body (.ackReceive ackPacket)

/-- While no timer expires, only a `BLOCK_ACK` ends the wait. -/
theorem Moves.awaitsAck
    (moves : server.Moves env server' events)
    (awaits : server.AwaitsAck)
    (running : env.timerExpired = false) :
    (server'.AwaitsAck ∧ ∀ event ∈ events, event = .polled) ∨
      (server.Accepts .blockAck env ∧
        .received (server.polledHeader env) ∈ events) := by
  obtain ⟨ackPacket, awaits⟩ := awaits
  cases moves with
  | shell shell => exact absurd awaits (shell.outside _)
  | erase _ accepts | eraseElse _ accepts => exact .inr ⟨accepts, by simp⟩
  | poll here polls =>
      obtain rfl := Point.body.inj (awaits.symm.trans here)
      cases polls
      exact .inl ⟨⟨_, rfl⟩, by simp⟩
  | retry here unsent hands =>
      obtain rfl := Point.body.inj (awaits.symm.trans here)
      refine .inl ⟨⟨_, awaits⟩, fun event present => ?_⟩
      obtain ⟨frame, rfl⟩ := unsent event present
      simpa [ServerBody.frame] using hands _ _ present
  | giveUp here givesUp =>
      cases givesUp with
      | unsent _ _ expired | unheard _ _ expired =>
          exact absurd (running.symm.trans expired) (by simp)
      | declined => cases awaits.symm.trans here
      | disputed accepts => exact .inr ⟨accepts, by simp⟩
  | idle here | awaitRequest here | acceptRequest here | readStorage here
  | readNothing here | noStorage here | responseSent here
  | awaitInitiate here | acceptInitiate here | fillBlock here
  | blockSent here | lastBlockSent here | continueBlock here
  | terminate here =>
      cases awaits.symm.trans here

end DDServer

namespace Network

/-- The server waits for the acknowledgement, and has only polled. -/
def OnlyPolls (network : Network) (observed : List Observation) : Prop :=
  network.server.AwaitsAck ∧
    ∀ event, .server event ∈ observed → event = .polled ∨ event.isCall = true

/-- The server has accepted a `BLOCK_ACK`. -/
def HearsAck (observed : List Observation) : Prop :=
  ∃ header, .server (.received header) ∈ observed ∧
    header.msgType = .blockAck

section Waiting

variable {clientParameters serverParameters : Parameters}
variable {network network' : Network} {action : Action}
variable {observed observations : List Observation}

theorem OnlyPolls.append
    (before : network.OnlyPolls observed)
    (after : network'.OnlyPolls observations) :
    network'.OnlyPolls (observed ++ observations) := by
  refine ⟨after.1, fun event present => ?_⟩
  rcases List.mem_append.mp present with old | new
  · exact before.2 event old
  · exact after.2 event new

/-- Whatever the locks do, only a `BLOCK_ACK` ends the wait. -/
theorem Steps.onlyPolls
    (steps : network.Steps action network' observations)
    (calm : action.Calm)
    (awaits : network.server.AwaitsAck) :
    network'.OnlyPolls observations ∨ HearsAck observations := by
  cases steps with
  | clientMoves | clientCalls => exact .inl ⟨awaits, by simp⟩
  | serverMoves moves =>
      rcases moves.awaitsAck awaits calm with ⟨waits, polls⟩ | ⟨accepts, heard⟩
      · refine .inl ⟨waits, fun event present => .inl (polls event ?_)⟩
        simpa using present
      · exact .inr ⟨_, by simpa using heard, accepts.msgType⟩
  | serverCalls calls =>
      obtain ⟨-, called⟩ := calls
      refine .inl ⟨awaits, fun event present => .inr ?_⟩
      rcases called event (by simpa using present) with rfl | rfl <;> rfl
  | disturb => exact absurd calm id

/-- A server that sends nothing leaves the quiet alone. -/
theorem quiet_afterServer
    {arrives : Bool}
    {server : DDServer}
    {events : List Event}
    (quiet : network.session.Quiet)
    (unsent : ∀ bytes, .sent bytes true ∉ events) :
    (network.afterServer arrives server events).session.Quiet := by
  refine ⟨quiet.client, ?_, fun ack => quiet.ack ?_⟩
  · simpa [session, afterServer, Channel.posted_of_unsent unsent]
      using quiet.response
  · exact (Channel.taken_sublist.map Frame.message).subset ack

/-- With acquired locks the quiet lasts, and no `BLOCK_ACK` ends the wait. -/
theorem Steps.quiet
    (steps : network.Steps action network' observations)
    (sound : network.Sound clientParameters serverParameters)
    (acquires : action.Acquires)
    (calm : action.Calm)
    (client : network.client.Patient)
    (awaits : network.server.AwaitsAck)
    (quiet : network.session.Quiet) :
    network'.OnlyPolls observations ∧ network'.session.Quiet ∧
      network'.client.Patient := by
  cases steps with
  | clientMoves moves =>
      refine ⟨⟨awaits, by simp⟩, ?_, moves.patient acquires client⟩
      rcases session_of_clientMoves moves sound.client acquires calm client with
        same | step
      · rw [same]
        exact quiet
      · exact step.quiet quiet
  | clientCalls calls =>
      refine ⟨⟨awaits, by simp⟩, ?_, calls.patient client⟩
      rw [session_of_clientCalls calls sound.client]
      exact quiet
  | serverMoves moves =>
      rcases moves.awaitsAck awaits calm with ⟨waits, polls⟩ | ⟨accepts, -⟩
      · refine ⟨⟨waits, fun event present => .inl (polls event ?_)⟩,
          quiet_afterServer quiet fun bytes sent => ?_, client⟩
        · simpa using present
        · simpa using polls _ sent
      · obtain ⟨frame, rest, split, message, -⟩ :=
          Channel.front_of_delivered rfl accepts.1 accepts.2.1
        have ack : .blockAck ∈ network.session.toServer := by
          simp [Network.session, split, message]
        exact absurd ack quiet.ack
  | serverCalls calls =>
      obtain ⟨-, called⟩ := calls
      refine ⟨⟨awaits, fun event present => .inr ?_⟩,
        quiet_afterServer quiet fun bytes sent => ?_, client⟩
      · rcases called event (by simpa using present) with rfl | rfl <;> rfl
      · simpa using called _ sent
  | disturb => exact absurd calm id

/-- The poll of a `BLOCK_ACKNOT` changes nothing. -/
theorem onlyPolls_of_rejected
    {frame : Frame}
    {rest : List Frame}
    {terms : Terms}
    {env : Environment}
    (sound : network.Sound clientParameters serverParameters)
    (awaits : network.server.AwaitsAck)
    (front : network.toServer = frame :: rest)
    (rejected : IsControl frame.bytes .blockAckNot terms)
    (running : env.timerExpired = false) :
    (network.step (.server (.fsm env) true)).1.OnlyPolls
      (network.step (.server (.fsm env) true)).2 := by
  have moves := sound.server.moves
    (env.hearing (Channel.heard network.toServer true).bytes)
  rcases moves.awaitsAck awaits running with ⟨waits, polls⟩ | ⟨accepts, -⟩
  · refine ⟨waits, fun event present => .inl ?_⟩
    obtain ⟨other, polled, same⟩ := List.mem_map.mp present
    obtain rfl := Observation.server.inj same
    exact polls _ polled
  · obtain ⟨heard, _, split, message, -⟩ :=
      Channel.front_of_delivered rfl accepts.1 accepts.2.1
    rw [front] at split
    obtain ⟨rfl, -⟩ := List.cons.inj split
    simp [rejected.message] at message

end Waiting

/-- In every run without timeouts over channels that lose nothing: a server
that polls a `BLOCK_ACKNOT` while it waits for the acknowledgement goes on
waiting.  Whatever the locks do, it does nothing but poll until it accepts a
`BLOCK_ACK`; with every lock acquired it never accepts one, so it neither ends
the transaction nor notifies, and drops every request that it polls. -/
theorem rejection_never_ends
    {clientParameters serverParameters : Parameters}
    {clientHeap serverHeap : Heap}
    {network : Network}
    {trace : List Observation}
    {frame : Frame}
    {rest : List Frame}
    {terms : Terms}
    {env : Environment}
    (reaches : machine.Reaches (fun _ _ action => action.Calm)
      (new clientParameters serverParameters clientHeap serverHeap)
      network trace)
    (awaits : network.server.AwaitsAck)
    (front : network.toServer = frame :: rest)
    (rejected : IsControl frame.bytes .blockAckNot terms)
    (running : env.timerExpired = false) :
    (∀ network' later,
      machine.Reaches (fun _ _ action => action.Calm)
          (network.step (.server (.fsm env) true)).1 network' later →
        network'.OnlyPolls
            ((network.step (.server (.fsm env) true)).2 ++ later) ∨
          HearsAck later) ∧
    (machine.Reaches (fun _ _ action => action.Acquires ∧ action.Calm)
        (new clientParameters serverParameters clientHeap serverHeap)
        network trace →
      env.lockAcquired = true →
        ∀ network' later,
          machine.Reaches (fun _ _ action => action.Acquires ∧ action.Calm)
              (network.step (.server (.fsm env) true)).1 network' later →
            network'.OnlyPolls
              ((network.step (.server (.fsm env) true)).2 ++ later)) := by
  have sound := sound_of_reaches reaches
  have consumes := onlyPolls_of_rejected sound awaits front rejected running
  have soundly (action : Action) {network : Network}
      (sound : network.Sound clientParameters serverParameters) :=
    (sound.steps action).sound sound
  constructor
  · intro network' later continues
    have both : network'.Sound clientParameters serverParameters ∧
        (network'.OnlyPolls
            ((network.step (.server (.fsm env) true)).2 ++ later) ∨
          HearsAck later) := by
      refine continues.invariant
        (fun network' later =>
          network'.Sound clientParameters serverParameters ∧
            (network'.OnlyPolls
                ((network.step (.server (.fsm env) true)).2 ++ later) ∨
              HearsAck later))
        ⟨soundly _ sound, .inl (by simpa using consumes)⟩ ?_
      rintro state later action ⟨sound, polls | ⟨header, heard, ack⟩⟩ calm
      · refine ⟨soundly action sound, ?_⟩
        rcases (sound.steps action).onlyPolls calm polls.1 with
          still | ⟨header, heard, ack⟩
        · left
          rw [← List.append_assoc]
          exact polls.append still
        · exact .inr ⟨header, List.mem_append_right _ heard, ack⟩
      · exact ⟨soundly action sound,
          .inr ⟨header, List.mem_append_left _ heard, ack⟩⟩
    exact both.2
  · intro orderly acquired network' later continues
    obtain ⟨-, client, -, alternates⟩ := takesTurns_of_reaches orderly
    have quiet : network.session.Quiet := by
      obtain ⟨ackPacket, here⟩ := awaits
      have ahead : network.session.toServer =
          frame.message :: rest.map Frame.message := by
        simp [session, front]
      exact alternates.quiet (DDServer.stage_of_body here) ahead
        (by simp [rejected.message])
    have first := (sound.steps (.server (.fsm env) true)).quiet sound acquired
      running client awaits quiet
    have all : network'.Sound clientParameters serverParameters ∧
        network'.OnlyPolls
          ((network.step (.server (.fsm env) true)).2 ++ later) ∧
        network'.session.Quiet ∧ network'.client.Patient := by
      refine continues.invariant
        (fun network' later =>
          network'.Sound clientParameters serverParameters ∧
            network'.OnlyPolls
              ((network.step (.server (.fsm env) true)).2 ++ later) ∧
            network'.session.Quiet ∧ network'.client.Patient)
        ⟨soundly _ sound, by simpa using consumes, first.2⟩ ?_
      rintro state later action ⟨sound, polls, quiet, client⟩ ⟨acquires, calm⟩
      have next := (sound.steps action).quiet sound acquires calm client
        polls.1 quiet
      refine ⟨soundly action sound, ?_, next.2⟩
      rw [← List.append_assoc]
      exact polls.append next.1
    exact all.2.1

/-- A transfer of six bytes into four, up to the client's return to `IDLE`. -/
def rejectedTransfer : List Action :=
  [.server (.startServer {}) true,
    .client (.startNewTransfer (some ⟨1, 0⟩) 4 {}) true] ++ clientSteps 9 ++
    exampleResponse [1, 2, 3, 4, 5, 6] ++ clientSteps 25 ++ serverSteps 19 ++
    clientSteps 18

/-- The client's next transfer up to its request, and a poll of the server. -/
def nextTransfer : List Action :=
  .client (.startNewTransfer (some ⟨2, 0⟩) 6 {}) true ::
    clientSteps 9 ++ serverSteps 1

/-- The server's poll of the `BLOCK_ACKNOT`. -/
def rejectionHeard : Network × List Observation :=
  (exampleRun rejectedTransfer).1.step (.server (.fsm {}) true)

/-- The server of the example drops the `BLOCK_ACKNOT` and the next request. -/
theorem rejection_never_ends_example :
    (machine.execute rejectionHeard.1 [] nextTransfer).1.OnlyPolls
      (rejectionHeard.2 ++
        (machine.execute rejectionHeard.1 [] nextTransfer).2) := by
  have orderly := @reaches_exampleRun
    (fun _ _ action => action.Acquires ∧ action.Calm) rejectedTransfer
    (by decide +kernel)
  have calm := orderly.mono fun _ _ _ admitted => admitted.2
  have front : (exampleRun rejectedTransfer).1.toServer =
      (exampleRun rejectedTransfer).1.toServer.headD {} :: [] := by
    decide +kernel
  have rejected : IsControl
      ((exampleRun rejectedTransfer).1.toServer.headD {}).bytes .blockAckNot
      (DDClient.ackTerms 7) :=
    ⟨DDClient.ackPacket .blockAckNot 7, DDClient.ackPacket_carries _ _,
      by decide +kernel⟩
  exact (rejection_never_ends calm ⟨{}, by decide +kernel⟩ front rejected
    rfl).2 orderly rfl _ _
    (Machine.Reaches.execute nextTransfer .start (by decide +kernel))

/-- Both frames were polled, and the server has neither left its transaction
nor notified. -/
theorem rejection_ignored :
    machine.Reaches (fun _ _ action => action.Acquires ∧ action.Calm)
      (new exampleParameters exampleParameters (fun _ _ => 0) fun _ _ => 0)
      (exampleRun (rejectedTransfer ++ serverSteps 1 ++ nextTransfer)).1
      (exampleRun (rejectedTransfer ++ serverSteps 1 ++ nextTransfer)).2 ∧
    (exampleRun (rejectedTransfer ++ serverSteps 1 ++ nextTransfer)).1.toServer =
      [] ∧
    (exampleRun (rejectedTransfer ++ serverSteps 1 ++
      nextTransfer)).1.server.stage = .transferring ∧
    .client (.notified false) ∈
      (exampleRun (rejectedTransfer ++ serverSteps 1 ++ nextTransfer)).2 ∧
    .server (.notified false) ∉
      (exampleRun (rejectedTransfer ++ serverSteps 1 ++ nextTransfer)).2 :=
  ⟨reaches_exampleRun (by decide +kernel), by decide +kernel,
    by decide +kernel, by decide +kernel, by decide +kernel⟩

end Network

end DataDumpProtocol

import DataDumpProtocol.Packet.Types
import Mathlib.Data.List.Count

/-!
# The session

What is left of client and server without packets, buffers, locks and timers:
where each side is in its transfer, and the types of the messages between them.
Over channels that lose nothing and as long as no wait is cut short, the two
sides take turns.
-/

namespace DataDumpProtocol

/-- Where a client is in its transfer. -/
inductive ClientStage
  /-- It has no request out. -/
  | resting
  /-- It waits for the response. -/
  | asking
  /-- It has accepted the response. -/
  | initiating
  /-- It waits for a block. -/
  | receiving
  /-- It has accepted a block. -/
  | answering
  deriving DecidableEq

/-- Where a server is in its transaction. -/
inductive ServerStage
  /-- It serves no request. -/
  | listening
  /-- It has accepted a request. -/
  | responding
  /-- It waits for the initiate message. -/
  | expecting
  /-- It sends blocks or waits for their acknowledgement. -/
  | transferring
  deriving DecidableEq

/-- Between the response and the answer to the blocks. -/
def ClientStage.engaged : ClientStage → Bool
  | .resting | .asking => false
  | .initiating | .receiving | .answering => true

/-- The turn that a client holds. -/
def ClientStage.turns (stage : ClientStage) : Nat :=
  if stage.engaged then 1 else 0

/-- The turns that can be out at a client's stage. -/
def ClientStage.limit : ClientStage → Nat
  | .resting => 0
  | _ => 1

/-- The turn that a server holds. -/
def ServerStage.turns : ServerStage → Nat
  | .responding => 1
  | _ => 0

/-- Both sides and the messages between them. -/
structure Session where
  client : ClientStage := .resting
  server : ServerStage := .listening
  toServer : List MsgType := []
  toClient : List MsgType := []

namespace Session

/-- What a client can do.  A message without a type, as a `BLOCK_ACKNOT`
arrives, is `unassigned`. -/
inductive ClientStep (session : Session) : Session → Prop
  | ask (here : session.client = .resting) :
      ClientStep session
        { session with
          client := .asking, toServer := session.toServer ++ [.request] }
  | heed {rest : List MsgType}
      (here : session.client = .asking)
      (front : session.toClient = .response :: rest) :
      ClientStep session
        { session with client := .initiating, toClient := rest }
  | refuse (here : session.client = .initiating) :
      ClientStep session { session with client := .resting }
  | initiate (here : session.client = .initiating) :
      ClientStep session
        { session with
          client := .receiving
          toServer := session.toServer ++ [.initiateBlockTransfer] }
  | take {rest : List MsgType}
      (here : session.client = .receiving)
      (front : session.toClient = .blockTransfer :: rest) :
      ClientStep session
        { session with client := .answering, toClient := rest }
  | more (here : session.client = .answering) :
      ClientStep session { session with client := .receiving }
  | answer {message : MsgType}
      (here : session.client = .answering)
      (possible : message = .blockAck ∨ message = .unassigned) :
      ClientStep session
        { session with
          client := .resting, toServer := session.toServer ++ [message] }
  | discard {message : MsgType} {rest : List MsgType}
      (front : session.toClient = message :: rest) :
      ClientStep session { session with toClient := rest }

/-- What a server can do. -/
inductive ServerStep (session : Session) : Session → Prop
  | accept {rest : List MsgType}
      (here : session.server = .listening)
      (front : session.toServer = .request :: rest) :
      ServerStep session
        { session with server := .responding, toServer := rest }
  | respond (here : session.server = .responding) :
      ServerStep session
        { session with
          server := .expecting, toClient := session.toClient ++ [.response] }
  | begin {rest : List MsgType}
      (here : session.server = .expecting)
      (front : session.toServer = .initiateBlockTransfer :: rest) :
      ServerStep session
        { session with server := .transferring, toServer := rest }
  | send {message : MsgType}
      (here : session.server = .transferring)
      (possible : message = .blockTransfer ∨ message = .unassigned) :
      ServerStep session
        { session with toClient := session.toClient ++ [message] }
  | finish {message : MsgType} {rest : List MsgType}
      (front : session.toServer = message :: rest) :
      ServerStep session
        { session with server := .listening, toServer := rest }
  | discard {message : MsgType} {rest : List MsgType}
      (front : session.toServer = message :: rest) :
      ServerStep session { session with toServer := rest }
  | leave : ServerStep session { session with server := .listening }

/-- The turns that are out: messages that the other side will answer, and the
sides that are about to. -/
def turns (session : Session) : Nat :=
  session.toClient.count .response + session.toServer.count .request +
    session.server.turns + session.client.turns

/-- A `BLOCK_ACK` is on its way in front of at most the next request. -/
def Acknowledged (session : Session) : Prop :=
  ∃ rest, session.toServer = .blockAck :: rest ∧
    ∀ message ∈ rest, message = .request

/-- Nothing stands behind this message. -/
def Last (message : MsgType) (channel : List MsgType) : Prop :=
  ∀ before after, channel = before ++ message :: after → after = []

section Last

variable {message other : MsgType} {channel rest : List MsgType}

theorem Last.eq_nil (last : Last message (message :: rest)) : rest = [] :=
  last [] rest rfl

theorem Last.tail (last : Last message (other :: rest)) : Last message rest :=
  fun before after split => last (other :: before) after (by simp [split])

theorem last_of_not_mem (absent : message ∉ channel) : Last message channel :=
  fun before after split => absurd (by simp [split]) absent

/-- A message behind which nothing was sent is still the last one when it is
sent. -/
theorem last_concat (absent : message ∉ channel) :
    Last message (channel ++ [other]) := by
  intro before after split
  rcases List.eq_nil_or_concat after with rfl | ⟨init, final, rfl⟩
  · rfl
  · refine absurd ?_ absent
    rw [List.concat_eq_append, ← List.cons_append, ← List.append_assoc] at split
    rw [(List.append_inj' split rfl).1]
    simp

end Last

/-- The two sides take turns. -/
structure Alternates (session : Session) : Prop where
  turns : session.turns ≤ session.client.limit
  response : Last .response session.toClient
  initiate : Last .initiateBlockTransfer session.toServer
  /-- The client hears nothing between the response and the first block. -/
  silent : session.client = .initiating ∨
    .initiateBlockTransfer ∈ session.toServer → session.toClient = []
  /-- The client waits for a block since it sent its initiate message. -/
  waits : .initiateBlockTransfer ∈ session.toServer →
    session.client = .receiving
  opening : .response ∈ session.toClient ∨ session.client = .initiating ∨
    .initiateBlockTransfer ∈ session.toServer →
      session.server ≠ .transferring
  transferring : session.server = .transferring →
    (session.client.engaged = true ∧ session.toServer = []) ∨
    (session.client.engaged = false ∧
      (session.Acknowledged ∨ .blockAck ∉ session.toServer))

/-- Nothing is out when both sides begin. -/
theorem alternates_start : ({} : Session).Alternates := by
  constructor <;> simp [Session.turns, ClientStage.turns, ClientStage.limit,
    ClientStage.engaged, ServerStage.turns, last_of_not_mem]

theorem Acknowledged.concat_request
    {session : Session}
    (acknowledged : session.Acknowledged)
    (client : ClientStage) :
    Acknowledged
      { session with
        client := client, toServer := session.toServer ++ [.request] } := by
  obtain ⟨rest, front, requests⟩ := acknowledged
  refine ⟨rest ++ [.request], by simp [front], fun message present => ?_⟩
  rcases List.mem_append.mp present with old | new
  · exact requests message old
  · exact List.mem_singleton.mp new

theorem ClientStep.alternates
    {session session' : Session}
    (step : session.ClientStep session')
    (alternates : session.Alternates) :
    session'.Alternates := by
  obtain ⟨turns, response, initiate, silent, waits, opening, transferring⟩ :=
    alternates
  obtain ⟨client, server, toServer, toClient⟩ := session
  simp only [Session.turns] at turns
  -- Elsewhere than in `receiving`, no initiate message is on its way.
  have unsent (elsewhere : client ≠ .receiving) :
      .initiateBlockTransfer ∉ toServer :=
    fun sent => elsewhere (waits sent)
  cases step with
  | ask here =>
      obtain rfl : client = .resting := here
      have unsent := unsent (by simp)
      refine ⟨?_, response, last_concat unsent, by simp [unsent],
        by simp [unsent], by simpa [unsent] using opening, fun here => ?_⟩
      · simp [Session.turns, ClientStage.turns, ClientStage.limit,
          ClientStage.engaged] at turns ⊢
        omega
      · obtain ⟨-, acknowledged | absent⟩ := (transferring here).resolve_left
          (by simp [ClientStage.engaged])
        · exact .inr ⟨rfl, .inl (acknowledged.concat_request _)⟩
        · exact .inr ⟨rfl, .inr (by simpa using absent)⟩
  | heed here front =>
      obtain rfl : client = .asking := here
      obtain rfl : toClient = _ := front
      obtain rfl := response.eq_nil
      have unsent := unsent (by simp)
      have elsewhere := opening (.inl (by simp))
      refine ⟨?_, response.tail, initiate, fun _ => rfl, by simp [unsent],
        fun _ => elsewhere, fun here => absurd here elsewhere⟩
      simp [Session.turns, ClientStage.turns, ClientStage.limit,
        ClientStage.engaged] at turns ⊢
      omega
  | refuse here =>
      obtain rfl : client = .initiating := here
      have unsent := unsent (by simp)
      have elsewhere := opening (.inr (.inl rfl))
      refine ⟨?_, response, initiate, by simp [unsent], by simp [unsent],
        fun _ => elsewhere, fun here => absurd here elsewhere⟩
      simp [Session.turns, ClientStage.turns, ClientStage.limit,
        ClientStage.engaged] at turns ⊢
      omega
  | initiate here =>
      obtain rfl : client = .initiating := here
      have elsewhere := opening (.inr (.inl rfl))
      refine ⟨?_, response, last_concat (unsent (by simp)),
        fun _ => silent (.inl rfl), fun _ => rfl, fun _ => elsewhere,
        fun here => absurd here elsewhere⟩
      simp [Session.turns, ClientStage.turns, ClientStage.limit,
        ClientStage.engaged] at turns ⊢
      omega
  | take here front =>
      obtain rfl : client = .receiving := here
      obtain rfl : toClient = _ := front
      have unsent : .initiateBlockTransfer ∉ toServer := fun sent => by
        simpa using silent (.inr sent)
      refine ⟨?_, response.tail, initiate, by simp [unsent], by simp [unsent],
        by simpa [unsent] using opening, transferring⟩
      simpa [Session.turns, ClientStage.turns, ClientStage.limit,
        ClientStage.engaged] using turns
  | more here =>
      obtain rfl : client = .answering := here
      have unsent := unsent (by simp)
      exact ⟨turns, response, initiate, by simp [unsent], by simp [unsent],
        by simpa [unsent] using opening, transferring⟩
  | answer here possible =>
      obtain rfl : client = .answering := here
      have unsent := unsent (by simp)
      have other : ∀ message : MsgType, message = .blockAck ∨
          message = .unassigned → message ≠ .request ∧
            message ≠ .initiateBlockTransfer := by
        rintro message (rfl | rfl) <;> simp
      obtain ⟨request, initiates⟩ := other _ possible
      refine ⟨?_, response, last_concat unsent, ?_, ?_, ?_, fun here => ?_⟩
      · simp [Session.turns, ClientStage.turns, ClientStage.limit,
          ClientStage.engaged, request] at turns ⊢
        omega
      · simp [unsent, initiates.symm]
      · simp [unsent, initiates.symm]
      · simpa [unsent, initiates.symm] using opening
      · obtain ⟨-, rfl⟩ : _ ∧ toServer = [] := (transferring here).resolve_right
          (by simp [ClientStage.engaged])
        rcases possible with rfl | rfl
        · exact .inr ⟨rfl, .inl ⟨[], rfl, by simp⟩⟩
        · exact .inr ⟨rfl, .inr (by simp)⟩
  | @discard message rest front =>
      obtain rfl : toClient = _ := front
      have sounding : client ≠ .initiating ∧
          .initiateBlockTransfer ∉ toServer := by
        constructor
        · rintro rfl
          simpa using silent (.inl rfl)
        · intro sent
          simpa using silent (.inr sent)
      refine ⟨?_, response.tail, initiate, by simp [sounding],
        by simp [sounding], ?_, transferring⟩
      · have shrinks : rest.count .response ≤
            (message :: rest).count .response :=
          List.count_le_count_cons
        simp only [Session.turns] at turns ⊢
        omega
      · rintro (later | here | sent)
        · exact opening (.inl (List.mem_cons_of_mem _ later))
        · exact absurd here sounding.1
        · exact absurd sent sounding.2

theorem ServerStep.alternates
    {session session' : Session}
    (step : session.ServerStep session')
    (alternates : session.Alternates) :
    session'.Alternates := by
  obtain ⟨turns, response, initiate, silent, waits, opening, transferring⟩ :=
    alternates
  obtain ⟨client, server, toServer, toClient⟩ := session
  have limited : client.limit ≤ 1 := by cases client <;> simp [ClientStage.limit]
  simp only [Session.turns] at turns
  cases step with
  | accept here front =>
      obtain rfl : server = .listening := here
      obtain rfl : toServer = _ := front
      refine ⟨?_, response, initiate.tail, ?_, ?_, by simp, by simp⟩
      · simp [Session.turns, ServerStage.turns] at turns ⊢
        omega
      · simpa using silent
      · simpa using waits
  | respond here =>
      obtain rfl : server = .responding := here
      have idle : client.turns = 0 ∧ toClient.count .response = 0 := by
        simp only [ServerStage.turns] at turns
        omega
      have unsent : .initiateBlockTransfer ∉ toServer := fun sent => by
        obtain rfl : client = .receiving := waits sent
        simp [ClientStage.turns, ClientStage.engaged] at idle
      refine ⟨?_, last_concat (List.count_eq_zero.mp idle.2), initiate, ?_,
        waits, by simp, by simp⟩
      · simp [Session.turns, ServerStage.turns] at turns ⊢
        omega
      · rintro (rfl | sent)
        · simp [ClientStage.turns, ClientStage.engaged] at idle
        · exact absurd sent unsent
  | begin here front =>
      obtain rfl : server = .expecting := here
      obtain rfl : toServer = _ := front
      obtain rfl := initiate.eq_nil
      obtain rfl : client = .receiving := waits (by simp)
      obtain rfl : toClient = [] := silent (.inr (by simp))
      refine ⟨?_, response, last_of_not_mem (by simp), by simp, by simp,
        by simp, fun _ => .inl ⟨rfl, rfl⟩⟩
      simpa [Session.turns, ServerStage.turns] using turns
  | @send message here possible =>
      obtain rfl : server = .transferring := here
      have closed : ¬(.response ∈ toClient ∨ client = .initiating ∨
          .initiateBlockTransfer ∈ toServer) :=
        fun opened => opening opened rfl
      simp only [not_or] at closed
      have other : message ≠ .response := by
        rcases possible with rfl | rfl <;> simp
      refine ⟨?_, last_concat closed.1, initiate, by simp [closed], waits, ?_,
        transferring⟩
      · simpa [Session.turns, other] using turns
      · simp [closed, other.symm]
  | @finish message rest front =>
      obtain rfl : toServer = _ := front
      have shrinks : rest.count .request ≤ (message :: rest).count .request :=
        List.count_le_count_cons
      refine ⟨?_, response, initiate.tail,
        fun quiet => silent (quiet.imp_right (List.mem_cons_of_mem _)),
        fun sent => waits (List.mem_cons_of_mem _ sent), by simp, by simp⟩
      simp only [Session.turns, ServerStage.turns]
      omega
  | @discard message rest front =>
      obtain rfl : toServer = _ := front
      have shrinks : rest.count .request ≤ (message :: rest).count .request :=
        List.count_le_count_cons
      refine ⟨?_, response, initiate.tail,
        fun quiet => silent (quiet.imp_right (List.mem_cons_of_mem _)),
        fun sent => waits (List.mem_cons_of_mem _ sent),
        fun opened => opening (opened.imp_right (Or.imp_right
          (List.mem_cons_of_mem _))), fun here => ?_⟩
      · simp only [Session.turns]
        omega
      · obtain ⟨resting, answered⟩ := (transferring here).resolve_left
          (by simp)
        refine .inr ⟨resting, .inr fun later => ?_⟩
        rcases answered with ⟨rest', front, requests⟩ | absent
        · obtain ⟨-, rfl⟩ := List.cons.inj front
          simpa using requests _ later
        · exact absent (List.mem_cons_of_mem _ later)
  | leave =>
      refine ⟨?_, response, initiate, silent, waits, by simp, by simp⟩
      simp only [Session.turns, ServerStage.turns]
      omega

/-- No answer is on its way, and nothing that could bring one about. -/
structure Quiet (session : Session) : Prop where
  client : session.client.engaged = false
  response : .response ∉ session.toClient
  ack : .blockAck ∉ session.toServer

/-- A server that hears another answer than `BLOCK_ACK` to its blocks gets no
`BLOCK_ACK` any more. -/
theorem Alternates.quiet
    {session : Session}
    (alternates : session.Alternates)
    (transferring : session.server = .transferring)
    {message : MsgType}
    {rest : List MsgType}
    (front : session.toServer = message :: rest)
    (other : message ≠ .blockAck) :
    session.Quiet := by
  rcases alternates.transferring transferring with
    ⟨-, empty⟩ | ⟨resting, ⟨_, acknowledged, -⟩ | absent⟩
  · simp [front] at empty
  · rw [front] at acknowledged
    exact absurd (List.cons.inj acknowledged).1 other
  · exact ⟨resting,
      fun response => alternates.opening (.inl response) transferring, absent⟩

/-- A client cannot break the quiet. -/
theorem ClientStep.quiet
    {session session' : Session}
    (step : session.ClientStep session')
    (quiet : session.Quiet) :
    session'.Quiet := by
  obtain ⟨resting, response, ack⟩ := quiet
  cases step with
  | ask => exact ⟨rfl, response, by simpa using ack⟩
  | heed here front => simp [front] at response
  | discard front =>
      exact ⟨resting, fun later => response (by simp [front, later]), ack⟩
  | refuse here | initiate here | take here | more here | answer here =>
      simp [here, ClientStage.engaged] at resting

end Session

end DataDumpProtocol

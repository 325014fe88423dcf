import DataDumpProtocol.Server.Ledger
import DataDumpProtocol.Server.Segmentation

/-!
# When the server erases

With every lock acquired, the server walks through a transaction in order.
The invariant follows the bytes from storage to the wire: what was handed over
and what is still in the staging buffer make up what was read.  The
terminating bit is set with the last byte, so an erasing call finds its
transaction completed.
-/

namespace DataDumpProtocol

open FsmState

namespace DDServer

/-- The ledger is about the server's transaction, not yet erased. -/
def Open (server : DDServer) (ledger : Ledger) : Prop :=
  ledger.transactionID = server.clientConfig.transactionID ∧
    ledger.erasures = 0

/-- What is known before the state's body. -/
def Ready (ledger : Ledger) (server : DDServer) : FsmState → Prop
  | .response => server.Open ledger
  | .initiateBlock =>
      server.Open ledger ∧ ledger.handed = [] ∧ server.rest = ledger.read ∧
        server.internalBufferLen ≤
          sizeMul (sizeSub server.maxPacketSize 5)
            server.clientConfig.maxBlocksPerTransaction.toNat
  | .block =>
      server.Open ledger ∧ ledger.handed ++ server.rest = ledger.read ∧
        server.InLimits
  | _ => True

/-- What is known inside a state's body. -/
def During (ledger : Ledger) (server : DDServer) : ServerBody → Prop
  | .requestReceive _ => True
  | .responseSend _ | .initiateReceive _ => server.Ready ledger .initiateBlock
  | .blockSend blockDataPacket =>
      server.Open ledger ∧
        ∃ payload,
          blockDataPacket.Holds server.maxPacketSize payload ∧
          ledger.handed ++ payload ++ server.rest = ledger.read ∧
          (blockDataPacket.header.getContinueBit = .terminateTransfer →
            server.internalBufferLen = 0) ∧
          (blockDataPacket.header.getContinueBit = .continueTransfer →
            server.InLimits)
  | .blockContinue => server.Ready ledger .block
  | .ackReceive _ =>
      server.Open ledger ∧ ledger.handed = ledger.read

/-- What every run with acquired locks keeps. -/
structure Settles (server : DDServer) (ledger : Ledger) : Prop where
  heads : server.toParty.Heads (server.Ready ledger)
  during : ∀ body, server.point = .body body → server.During ledger body

/-- An erasing call finds a completed transaction, and is its first. -/
def ErasesSettled (before : List Event) (event : Event) : Prop :=
  ∀ size reported, event = .storageErased size reported →
    (ledger before).Completed ∧ (ledger before).erasures = 0

section Settles

variable {parameters : Parameters} {server server' : DDServer}
variable {env : Environment} {trace events : List Event}
variable {entries : Ledger}

theorem settles_of_body
    {body : ServerBody}
    (here : server.point = .body body)
    (during : server.During entries body) :
    server.Settles entries := by
  refine ⟨Party.heads_of_body here, ?_⟩
  intro other there
  obtain rfl := Point.body.inj (here.symm.trans there)
  exact during

theorem settles_of_leave
    {target : FsmState}
    (here : server.point = .leave target)
    (ready : server.Ready entries target) :
    server.Settles entries := by
  refine ⟨(Party.heads_of_leave here).mpr ready, ?_⟩
  intro body there
  simp [here] at there

/-- What is ready when a body is entered. -/
theorem Settles.ready_of_enter
    {state : FsmState}
    (settles : server.Settles entries)
    (here : server.point = .enter state) :
    server.Ready entries state :=
  ((Party.heads_of_enter here).mp settles.heads).1

theorem Moves.settles
    (moves : server.Moves env server' events)
    (sound : server.Sound parameters)
    (acquired : env.lockAcquired = true)
    (atMost : ∀ maxSize, (env.stored maxSize).length ≤ maxSize)
    (settles : server.Settles (ledger trace)) :
    server'.Settles (ledger (trace ++ events)) := by
  rw [ledger_append]
  generalize ledger trace = before at settles ⊢
  cases moves with
  | shell shell =>
      have outside := shell.point_ne_body
      have heads := shell.heads acquired settles.heads
      obtain ⟨_, _, _, _, rfl, -⟩ := shell.unchanged
      exact ⟨heads, fun body here => absurd here (outside body)⟩
  | idle here =>
      refine ⟨(Party.heads_of_readNext rfl).mpr ?_, by simp⟩
      rcases settles.heads.next_of_idle here with next | next <;>
        simp [next, Ready]
  | awaitRequest => exact settles_of_body rfl trivial
  | acceptRequest here accepts =>
      have request := accepts.msgType
      apply settles_of_leave rfl
      simp only [List.foldl_append, Ledger.foldl_pollEvent, List.foldl_cons,
        List.foldl_nil, Ledger.observe, request]
      exact ⟨rfl, rfl⟩
  | readStorage here _ buffer =>
      have opened : server.Open before := settles.ready_of_enter here
      refine settles_of_body rfl ⟨⟨opened.1, opened.2⟩, rfl, ?_, atMost _⟩
      simp [rest, negotiated, buffer, Ledger.observe]
  | readNothing | noStorage | giveUp => exact settles_of_leave rfl trivial
  | responseSent here =>
      have carries : TransactionPacket.Carries _ _ _ := sound.live _ here
      have control := Ledger.observe_controlFrame before
        (by rw [carries.msgType]; simp)
      simp only [List.foldl_cons, List.foldl_nil, control]
      exact settles_of_leave rfl (settles.during _ here)
  | awaitInitiate here =>
      exact settles_of_body rfl (settles.ready_of_enter here)
  | acceptInitiate here accepts =>
      obtain ⟨opened, handed, rest, fits⟩ := settles.during _ here
      have room := sound.room_of_inside here (.inl rfl)
      simp only [List.foldl_append, Ledger.foldl_pollEvent, List.foldl_cons,
        List.foldl_nil, before.observe_initiate accepts.msgType]
      refine settles_of_leave rfl ⟨opened, ?_, ?_⟩
      · rw [handed]
        exact rest
      · rw [sizeMul_sizeSub_eq _ (by omega) sound.byteSized] at fits
        simpa [InLimits] using fits
  | fillBlock here buffer =>
      obtain ⟨opened, whole, limits⟩ := settles.ready_of_enter here
      have room := sound.room_of_enter here
      have holds := blockPacket_holds (by omega) sound.byteSized buffer
      have split := rest_split (by omega) buffer
      simp only [List.foldl_cons, Ledger.observe_body, Ledger.foldl_copyEvent]
      refine settles_of_body rfl ⟨opened, _, holds, ?_, ?_, ?_⟩
      · rw [List.append_assoc]
        rwa [split] at whole
      · rw [blockPacket_getContinueBit]
        exact limits.last (by omega)
      · rw [blockPacket_getContinueBit]
        exact limits.next (by omega)
  | blockSent here more =>
      obtain ⟨opened, payload, holds, whole, -, next⟩ := settles.during _ here
      simp only [List.foldl_cons, List.foldl_nil,
        before.observe_block holds env.beyond]
      exact settles_of_body rfl ⟨opened, whole, next more⟩
  | lastBlockSent here last =>
      obtain ⟨opened, payload, holds, whole, none, -⟩ := settles.during _ here
      simp only [List.foldl_cons, List.foldl_nil,
        before.observe_block holds env.beyond]
      refine settles_of_body rfl ⟨opened, ?_⟩
      rw [rest_eq_nil (none last), List.append_nil] at whole
      exact whole
  | continueBlock here =>
      have current : server.currentState = .block :=
        (sound.paced.inside _ here).symm
      apply settles_of_leave rfl
      rw [DataDump.getCurrentFSMState, if_pos acquired, current]
      exact settles.during _ here
  | erase | eraseElse => exact settles_of_leave rfl trivial
  | poll here polls =>
      rw [Ledger.foldl_pollEvent]
      have during := settles.during _ here
      cases polls <;> exact settles_of_body rfl during
  | retry here unsent =>
      rw [Ledger.foldl_unsent before unsent]
      exact settles
  | terminate => exact settles_of_leave rfl trivial

theorem Calls.settles
    (calls : server.Calls server' events)
    (settles : server.Settles (ledger trace)) :
    server'.Settles (ledger (trace ++ events)) := by
  rw [ledger_append, Ledger.foldl_calls _ calls]
  obtain ⟨allowed, -⟩ := calls
  refine ⟨?_, settles.during⟩
  rcases allowed with rfl | rfl | ⟨rfl, -⟩
  · exact settles.heads
  · exact settles.heads.store (.inl rfl) trivial
  · exact settles.heads.store (.inr rfl) trivial

theorem erasesSettled_of_unaccounted
    {before : List Event}
    {event : Event}
    (unaccounted : Unaccounted event) :
    ErasesSettled before event := by
  rintro size reported rfl
  exact absurd unaccounted id

/-- A matching acknowledgement completes the transaction. -/
theorem erasesSettled_of_ack
    {ackPacket : TransactionPacket}
    (settles : server.Settles (ledger trace))
    (here : server.point = .body (.ackReceive ackPacket))
    (accepts : server.Accepts .blockAck env)
    (agrees : (server.polledHeader env).transactionID =
      server.clientConfig.transactionID)
    (reported : Nat) :
    ErasesSettled
      (trace ++ (server.pollEvent ++ [.received (server.polledHeader env)]))
      (.storageErased server.internalBufferLen reported) := by
  obtain ⟨⟨transactionID, erasures⟩, handed⟩ := settles.during _ here
  rintro _ _ -
  rw [ledger_append, List.foldl_append, Ledger.foldl_pollEvent,
    List.foldl_cons, List.foldl_nil, Ledger.observe_ack _ accepts.msgType]
  refine ⟨⟨handed, ?_⟩, erasures⟩
  simp [agrees, transactionID]

theorem Moves.erasesSettled
    (moves : server.Moves env server' events)
    (settles : server.Settles (ledger trace))
    (every : Trace.Every ErasesSettled trace) :
    Trace.Every ErasesSettled (trace ++ events) := by
  apply moves.every every
  · intro before event unaccounted
    exact erasesSettled_of_unaccounted unaccounted
  · intro ackPacket reported here accepts agrees
    exact erasesSettled_of_ack settles here accepts agrees reported
  · rintro size reported ⟨⟩

end Settles

/-- With every lock acquired and a storage callback that reads at most what it
is asked for, an erasing call is made only when every byte that was read was
handed to `sendCB` and taken, a `BLOCK_ACK` with the transaction's ID was
received after the last block, and nothing was erased in this transaction. -/
theorem erase_only_settled
    {parameters : Parameters}
    {heap : Heap}
    {server : DDServer}
    {trace : List Event}
    (reaches : machine.Reaches
      (fun _ _ action => action.Acquires ∧ action.ReadsAtMost)
      (new parameters heap) server trace) :
    Trace.Every
      (fun before event => ∀ size reported,
        event = .storageErased size reported →
          (ledger before).handed = (ledger before).read ∧
          (ledger before).acknowledged = true ∧
          (ledger before).erasures = 0)
      trace := by
  have settled : server.Settles (ledger trace) ∧
      Trace.Every ErasesSettled trace := by
    refine invariant_of_reaches reaches
      (fun server trace =>
        server.Settles (ledger trace) ∧ Trace.Every ErasesSettled trace)
      ⟨⟨trivial, by simp [new]⟩, Trace.every_nil _⟩ ?_
    rintro server trace action server' events sound ⟨settles, every⟩
      ⟨acquires, atMost⟩ steps
    cases steps with
    | fsm moves =>
        exact ⟨moves.settles sound acquires atMost settles,
          moves.erasesSettled settles every⟩
    | call calls =>
        exact ⟨calls.settles settles,
          calls.every (fun _ => erasesSettled_of_unaccounted trivial)
            (fun _ => erasesSettled_of_unaccounted trivial) every⟩
  intro before event after split size reported same
  obtain ⟨⟨handed, acknowledged⟩, erasures⟩ :=
    settled.2 before event after split size reported same
  exact ⟨handed, acknowledged, erasures⟩

/-- The erasing call of the example's transaction. -/
theorem erase_only_settled_example :
    (ledger ((exampleRun exampleAcknowledged).2.take 15)).handed =
      (ledger ((exampleRun exampleAcknowledged).2.take 15)).read :=
  (erase_only_settled
    (Machine.Reaches.execute exampleAcknowledged
      (@Machine.Reaches.start _ _ _ _ _ (new exampleParameters fun _ _ => 0))
      (Machine.admitted_of_forall (by
        simp [exampleAcknowledged, exampleTransaction, exampleAck,
          exampleBlock, plain, hears, Action.Acquires, Action.ReadsAtMost,
          or_imp, forall_and])))
    ((exampleRun exampleAcknowledged).2.take 15) (.storageErased 0 0)
    ((exampleRun exampleAcknowledged).2.drop 16) (by decide +kernel) 0 0
    rfl).1

end DDServer

end DataDumpProtocol

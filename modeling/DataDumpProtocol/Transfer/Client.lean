import DataDumpProtocol.Client.Reassembly
import DataDumpProtocol.Machines.Heading
import DataDumpProtocol.Transfer.Script

/-!
# The client in its first transfer

As long as nothing fails, and the client hears the server's script, it goes
through its transfer from the request to the acknowledgement, stores every
block behind the ones before it, and notifies success.
-/

namespace DataDumpProtocol

/-- Where a client is in its transfer. -/
inductive ClientPhase
  /-- The request was not sent. -/
  | preparing
  /-- It waits for the response. -/
  | asking
  /-- The initiate message was not sent. -/
  | initiating
  /-- So many bytes were stored, and the acknowledgement was not sent. -/
  | receiving (stored : Nat)
  /-- The acknowledgement was sent. -/
  | concluding
  /-- The application was notified. -/
  | finished

namespace ClientPhase

/-- The number of bytes stored, of data of this length. -/
def stored (length : Nat) : ClientPhase → Nat
  | .preparing | .asking | .initiating => 0
  | .receiving stored => stored
  | .concluding | .finished => length

/-- Where a client stands in each phase. -/
def standing (length : Nat) : ClientPhase → Standing
  | .preparing => ⟨0, 0, false⟩
  | .asking => ⟨1, 0, false⟩
  | .initiating => ⟨1, 1, false⟩
  | .receiving stored => ⟨2, 1 + stored, false⟩
  | .concluding => ⟨3, 1 + length, false⟩
  | .finished => ⟨3, 1 + length, true⟩

theorem sent_le (length : Nat) (phase : ClientPhase) :
    (phase.standing length).sent ≤ 3 := by
  cases phase <;> simp [standing]

theorem sent_of_finished
    {length : Nat}
    {phase : ClientPhase}
    (finished : (phase.standing length).finished = true) :
    (phase.standing length).sent = 3 := by
  cases phase <;> simp [standing] at finished ⊢

/-- The caller's buffer is in use. -/
def Open : ClientPhase → Prop
  | .concluding | .finished => False
  | _ => True

/-- The response was accepted. -/
def Agreed : ClientPhase → Prop
  | .initiating | .receiving _ => True
  | _ => False

/-- Where `FSMLoop` can be in each phase. -/
inductive Site (length : Nat) : ClientPhase → FsmState ⊕ ClientBody → Prop
  | request : Site length .preparing (.inl .request)
  | requestSend {request : TransactionPacket} :
      Site length .preparing (.inr (.requestSend request))
  | response : Site length .asking (.inl .response)
  | responseReceive {response : TransactionPacket} :
      Site length .asking (.inr (.responseReceive response))
  | initiateBlock : Site length .initiating (.inl .initiateBlock)
  | initiateSend {initiate : TransactionPacket} :
      Site length .initiating (.inr (.initiateSend initiate))
  | block {stored : Nat} (more : stored < length) :
      Site length (.receiving stored) (.inl .block)
  | blockReceive {stored : Nat} {packet : BlockTxRxPacket}
      (more : stored < length) :
      Site length (.receiving stored) (.inr (.blockReceive packet))
  | blockContinue {stored : Nat} (more : stored < length) :
      Site length (.receiving stored) (.inr .blockContinue)
  | ackSend {ackPacket : TransactionPacket} :
      Site length (.receiving length) (.inr (.ackSend ackPacket))
  | terminate : Site length .concluding (.inl .terminate)
  | idle : Site length .finished (.inl .idle)

end ClientPhase

namespace DDClient

/-- The client is in this phase of its first transfer. -/
structure At
    (transfer : FirstTransfer)
    (before : Heap)
    (phase : ClientPhase)
    (client : DDClient) : Prop where
  site : phase.Site transfer.data.length client.site
  rests : phase = .finished →
    client.point = .leave .idle ∨ client.nextState = .idle
  heap : client.heap = before.write transfer.buffer
    (transfer.data.take (phase.stored transfer.data.length))
  window : phase.Open →
    client.internalBuffer =
        some (transfer.buffer.advance (phase.stored transfer.data.length)) ∧
      client.internalBufferLen =
        transfer.size - phase.stored transfer.data.length
  success : phase = .concluding → client.isTransferSuccess = true
  config : phase.Agreed → client.serverConfig.terms = transfer.agreed

/-- The client rests, or polls an empty channel. -/
def Waits (channel : List Frame) (client : DDClient) : Prop :=
  match client.site with
  | .inl .idle => True
  | .inr (.responseReceive _) | .inr (.blockReceive _) => channel = []
  | _ => False

section At

variable {transfer : FirstTransfer} {before : Heap}
variable {phase : ClientPhase} {client client' : DDClient}
variable {env : Environment} {reached : Nat} {events : List Event}

/-- A step of `FSMLoop` in the phase of its site. -/
theorem At.goto
    (at_ : client.At transfer before phase)
    (point : Point ClientBody)
    (site : phase.Site transfer.data.length (client.goto point).site)
    (unfinished : phase ≠ .finished) :
    DDClient.At transfer before phase (client.goto point) where
  site := site
  rests finished := absurd finished unfinished
  heap := at_.heap
  window := at_.window
  success := at_.success
  config := at_.config

/-- The block that waits goes behind the ones before it. -/
theorem At.store
    {stored : Nat}
    {header : BlockHeader}
    {payload : List Byte}
    (at_ : client.At transfer before (.receiving stored))
    (slice : transfer.Slice stored header payload)
    (polled : client.polledPayload env = payload)
    (point : Point ClientBody)
    (site : ClientPhase.Site transfer.data.length
      (.receiving (stored + payload.length))
      (Party.site (client.goto point))) :
    DDClient.At transfer before (.receiving (stored + payload.length))
      ((client.storing (transfer.buffer.advance stored) env).goto point) where
  site := site
  rests := by simp
  heap := by
    have within := slice.within
    have front : (transfer.data.take stored).length = stored := by
      rw [List.length_take]
      omega
    have adjacent := before.write_write_adjacent transfer.buffer
      (transfer.data.take stored) payload
    rw [front] at adjacent
    simp only [Party.toDataDump_goto, storing, polled, ClientPhase.stored]
    rw [at_.heap, List.take_add, ← slice.slice]
    exact adjacent
  window _ := by
    have window := at_.window trivial
    have size : (client.polledBlockHeader env).dataBufferSize.toNat =
        payload.length := by
      rw [← length_polledPayload, polled]
    simp only [Party.toDataDump_goto, storing, size, ClientPhase.stored]
    refine ⟨by simp, ?_⟩
    rw [window.2]
    simp only [ClientPhase.stored]
    omega
  success := by simp
  config _ := at_.config trivial

/-- In a run without failures, a step leads to the next phase of the script, or
stays in the phase. -/
theorem Moves.follows
    (moves : client.Moves env client' events)
    (sound : client.Sound transfer.client)
    (acquired : env.lockAcquired = true)
    (running : env.timerExpired = false)
    (started : env.timerStarted = true)
    (waits : env.incoming ≠ [] →
      transfer.Answers (phase.standing transfer.data.length).heard
        env.incoming reached)
    (at_ : client.At transfer before phase) :
    ∃ phase', client'.At transfer before phase' ∧
      Follows transfer.Asks env reached
        (phase.standing transfer.data.length)
        (phase'.standing transfer.data.length) events := by
  have site := at_.site
  have recvCB : client.recvCB = true :=
    sound.recvCB.trans transfer.clientCallbacks.2.1
  have room : 11 ≤ client.maxPacketSize := by
    rw [sound.maxPacketSize]
    exact transfer.packetlen.1.trans transfer.packetlen.2
  have config : client.clientConfig = transfer.client.config :=
    sound.clientConfig
  cases moves with
  | shell shell =>
      have same := shell.site_eq acquired
      have rests : phase = .finished → client'.nextState = .idle := by
        rintro rfl
        refine shell.nextState_eq acquired ?_ (at_.rests rfl)
        generalize client.site = here at site
        cases site
        rfl
      obtain ⟨current, stored, busy, point, rfl, -⟩ := shell.unchanged
      refine ⟨phase, ?_, follows_of_quiet rfl (by simp) (by simp) (by simp)⟩
      exact
        { at_ with
          site := same ▸ site
          rests := fun finished => .inr (rests finished) }
  | idle here =>
      rw [Party.site_of_enter here] at site
      cases site
      have next : client.nextState = .idle :=
        (at_.rests rfl).resolve_left (by simp [here])
      refine ⟨.finished, ?_, follows_of_quiet rfl (by simp) (by simp) (by simp)⟩
      exact
        { at_ with
          site := by
            rw [Party.site_of_outside (by simp)]
            simpa [Party.heading, next] using ClientPhase.Site.idle
          rests := fun _ => .inr next }
  | beginRequest here =>
      rw [Party.site_of_enter here] at site
      cases site
      exact ⟨_, at_.goto _ .requestSend (by simp),
        follows_of_quiet rfl (by simp) (by simp) (by simp)⟩
  | noTimer here stopped =>
      exact absurd (started.symm.trans stopped) (by simp)
  | requestSent here =>
      have live : TransactionPacket.Carries _ _ _ := sound.live _ here
      rw [Party.site_of_body here] at site
      cases site
      rw [config] at live
      refine ⟨.asking, ?_, follows_of_sent (.request live.isControl) rfl rfl⟩
      exact
        { site := .response
          rests := by simp
          heap := at_.heap
          window := at_.window
          success := by simp
          config := by simp [ClientPhase.Agreed] }
  | awaitResponse here =>
      rw [Party.site_of_enter here] at site
      cases site
      exact ⟨_, at_.goto _ .responseReceive (by simp),
        follows_of_quiet rfl (by simp) (by simp) (by simp)⟩
  | acceptResponse here accepts =>
      rw [Party.site_of_body here] at site
      cases site
      have incoming := DataDump.incoming_ne_nil accepts.1
      obtain ⟨control, rfl⟩ := (waits incoming).first
      obtain ⟨-, terms⟩ := accepts.of_control control (by simp)
      refine ⟨.initiating, ?_, follows_of_heard recvCB incoming rfl rfl rfl
        (by simp) (by simp)⟩
      exact
        { site := .initiateBlock
          rests := by simp
          heap := at_.heap
          window := at_.window
          success := by simp
          config := fun _ => terms }
  | beginInitiate here =>
      rw [Party.site_of_enter here] at site
      cases site
      exact ⟨_, at_.goto _ .initiateSend (by simp),
        follows_of_quiet rfl (by simp) (by simp) (by simp)⟩
  | refuse here unknown =>
      rw [Party.site_of_enter here] at site
      cases site
      have agreed := congrArg Terms.transactionID (at_.config trivial)
      exact absurd (agreed.symm.trans unknown) transfer.transactionID
  | initiateSent here =>
      have live : TransactionPacket.Carries _ _ _ ∧ _ := sound.live _ here
      rw [Party.site_of_body here] at site
      cases site
      have agreed := at_.config trivial
      rw [agreed] at live
      refine ⟨.receiving 0, ?_, follows_of_sent (.initiate live.1.isControl) rfl rfl⟩
      exact
        { site := .block transfer.nonempty
          rests := by simp
          heap := at_.heap
          window := at_.window
          success := by simp
          config := fun _ => agreed }
  | awaitBlock here =>
      rw [Party.site_of_enter here] at site
      cases site with
      | block more =>
          exact ⟨_, at_.goto _ (.blockReceive more) (by simp),
            follows_of_quiet rfl (by simp) (by simp) (by simp)⟩
  | storeMore here accepts buffer fits more =>
      rw [Party.site_of_body here] at site
      cases site with
      | @blockReceive stored _ inside =>
          have incoming := DataDump.incoming_ne_nil accepts.1
          have answers : transfer.Answers (1 + stored) _ _ := waits incoming
          obtain ⟨header, payload, bytes, slice, rfl⟩ := answers.next
          obtain ⟨polled, read⟩ := accepts.of_blockFrame bytes slice.size
          obtain rfl := Option.some.inj
            ((at_.window trivial).1.symm.trans buffer)
          rw [polled] at more
          have left : stored + payload.length ≠ transfer.data.length := by
            intro all
            have last := slice.last.mpr all
            exact absurd (last.symm.trans more) (by simp)
          have within := slice.within
          exact ⟨_, at_.store slice read _ (.blockContinue (by omega)),
            follows_of_heard recvCB incoming rfl rfl rfl (by simp)
              (by simp)⟩
  | storeLast here accepts buffer fits last =>
      rw [Party.site_of_body here] at site
      cases site with
      | @blockReceive stored _ inside =>
          have incoming := DataDump.incoming_ne_nil accepts.1
          have answers : transfer.Answers (1 + stored) _ _ := waits incoming
          obtain ⟨header, payload, bytes, slice, rfl⟩ := answers.next
          obtain ⟨polled, read⟩ := accepts.of_blockFrame bytes slice.size
          obtain rfl := Option.some.inj
            ((at_.window trivial).1.symm.trans buffer)
          rw [polled] at last
          have all := slice.last.mp last
          exact ⟨_, at_.store slice read _ (all ▸ .ackSend),
            follows_of_heard recvCB incoming rfl rfl rfl (by simp)
              (by simp)⟩
  | missBlock _ _ expired =>
      exact absurd (running.symm.trans expired) (by simp)
  | refuseBlock here accepts overflows =>
      rw [Party.site_of_body here] at site
      cases site with
      | @blockReceive stored _ inside =>
          have incoming := DataDump.incoming_ne_nil accepts.1
          have answers : transfer.Answers (1 + stored) _ _ := waits incoming
          obtain ⟨header, payload, bytes, slice, rfl⟩ := answers.next
          obtain ⟨polled, -⟩ := accepts.of_blockFrame bytes slice.size
          obtain ⟨buffer, length⟩ := at_.window trivial
          have size : (client.polledBlockHeader env).dataBufferSize.toNat =
              payload.length := by
            rw [polled]
            exact slice.size
          have some_ := List.length_pos_iff.mpr slice.nonempty
          have less := overflows _ buffer (by
            rw [BitVec.lt_def, size]
            exact some_)
          have within := slice.within
          have fits := transfer.fits
          rw [size, length] at less
          simp only [ClientPhase.stored] at less
          omega
  | continueBlock here =>
      have current : client.currentState = .block :=
        (sound.paced.inside _ here).symm
      rw [Party.site_of_body here] at site
      cases site with
      | blockContinue more =>
          refine ⟨_, at_.goto _ ?_ (by simp),
            follows_of_quiet rfl (by simp) (by simp) (by simp)⟩
          rw [Party.site_of_leave rfl, DataDump.getCurrentFSMState,
            if_pos acquired, current]
          exact .block more
  | ackSent here =>
      have live : TransactionPacket.Carries _ _ _ ∧ _ := sound.live _ here
      rw [Party.site_of_body here] at site
      cases site
      have agreed := congrArg Terms.transactionID (at_.config trivial)
      have same : client.serverConfig.transactionID =
          transfer.client.transactionID := agreed
      rw [same] at live
      refine ⟨.concluding, ?_, follows_of_sent (.ack live.1.isControl) rfl rfl⟩
      exact
        { site := .terminate
          rests := by simp
          heap := at_.heap
          window := fun opened => opened.elim
          success := fun _ => rfl
          config := fun agreed => agreed.elim }
  | ackNotSent here =>
      rw [Party.site_of_body here] at site
      cases site
  | poll here rejects =>
      rw [Party.site_of_body here] at site
      cases site
      refine ⟨_, at_.goto _ .responseReceive (by simp),
        follows_of_quiet rfl (by simp) (fun _ => ?_) (by simp)⟩
      by_contra incoming
      exact rejects (DataDump.accepts_of_control (waits incoming).first.1
        (by simp) recvCB room)
  | pollBlock here rejects =>
      rw [Party.site_of_body here] at site
      cases site with
      | @blockReceive stored _ inside =>
          refine ⟨_, at_.goto _ (.blockReceive inside) (by simp),
            follows_of_quiet rfl (by simp) (fun _ => ?_) (by simp)⟩
          by_contra incoming
          have answers : transfer.Answers (1 + stored) _ _ := waits incoming
          obtain ⟨header, payload, bytes, slice, -⟩ := answers.next
          refine rejects (DataDump.acceptsBlock_of_blockFrame bytes slice.crc
            recvCB ?_)
          rw [sound.maxPacketSize]
          exact slice.room.trans transfer.packetlen.2
  | retry here unsent => exact ⟨phase, at_, unsent.follows⟩
  | giveUp here givesUp =>
      cases givesUp with
      | unsent _ expired | unheard _ expired =>
          exact absurd (running.symm.trans expired) (by simp)
  | terminate here =>
      rw [Party.site_of_enter here] at site
      cases site
      have success := at_.success rfl
      have notifies : client.notifyCB = true :=
        sound.notifyCB.trans transfer.clientCallbacks.2.2
      refine ⟨.finished, ?_, ?_⟩
      · exact
          { site := .idle
            rests := fun _ => .inl rfl
            heap := at_.heap
            window := fun opened => opened.elim
            success := by simp
            config := fun agreed => agreed.elim }
      · exact
          { sends := .inl ⟨rfl, by simp⟩
            hears := by simp [ClientPhase.standing]
            notifies := by simp +contextual [success, ClientPhase.standing]
            finishes := by simp [notifies, success, ClientPhase.standing] }

/-- A client waits when it is finished or has heard all that was sent. -/
theorem At.of_waits
    {channel : List Frame}
    (at_ : client.At transfer before phase)
    (waits : client.Waits channel) :
    phase = .finished ∨
      channel = [] ∧
        (phase = .asking ∨
          ∃ stored, stored < transfer.data.length ∧
            phase = .receiving stored) := by
  have site := at_.site
  unfold Waits at waits
  generalize client.site = here at site waits
  cases site with
  | responseReceive => exact .inr ⟨waits, .inl rfl⟩
  | blockReceive more => exact .inr ⟨waits, .inr ⟨_, more, rfl⟩⟩
  | idle => exact .inl rfl
  | _ => exact waits.elim

/-- All data stand in the caller's buffer once the acknowledgement was sent. -/
theorem At.heap_of_sent
    (at_ : client.At transfer before phase)
    (all : (phase.standing transfer.data.length).sent = 3) :
    client.heap = before.write transfer.buffer transfer.data := by
  have heap := at_.heap
  cases phase with
  | concluding | finished =>
      rw [heap]
      simp [ClientPhase.stored]
  | _ => simp [ClientPhase.standing] at all

end At

end DDClient

end DataDumpProtocol

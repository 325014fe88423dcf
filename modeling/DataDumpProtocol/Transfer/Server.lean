import DataDumpProtocol.Machines.Heading
import DataDumpProtocol.Network.Supply
import DataDumpProtocol.Transfer.Script

/-!
# The server in its first transfer

As long as nothing fails, and the server hears the client's script, it goes
through its transaction from the request to the acknowledgement, sends the data
that storage delivered from the first byte to the last, and notifies success.
-/

namespace DataDumpProtocol

/-- Where a server is in its transaction. -/
inductive ServerPhase
  /-- It waits for the request. -/
  | listening
  /-- The request was accepted, and storage was not read. -/
  | accepting
  /-- Storage was read, and the response was not sent. -/
  | responding
  /-- It waits for the initiate message. -/
  | expecting
  /-- So many bytes were sent, and the acknowledgement was not accepted. -/
  | transferring (supplied : Nat)
  /-- The acknowledgement was accepted. -/
  | concluding
  /-- The application was notified. -/
  | finished

namespace ServerPhase

/-- Where a server stands in each phase, with data of this length. -/
def standing (length : Nat) : ServerPhase → Standing
  | .listening => ⟨0, 0, false⟩
  | .accepting | .responding => ⟨0, 1, false⟩
  | .expecting => ⟨1, 1, false⟩
  | .transferring supplied => ⟨1 + supplied, 2, false⟩
  | .concluding => ⟨1 + length, 3, false⟩
  | .finished => ⟨1 + length, 3, true⟩

theorem heard_of_finished
    {length : Nat}
    {phase : ServerPhase}
    (finished : (phase.standing length).finished = true) :
    (phase.standing length).heard = 3 := by
  cases phase <;> simp [standing] at finished ⊢

/-- The number of bytes sent while they are being sent. -/
def supplied : ServerPhase → Nat
  | .transferring supplied => supplied
  | _ => 0

/-- The data were read and are being sent. -/
def Supplying : ServerPhase → Prop
  | .responding | .expecting | .transferring _ => True
  | _ => False

/-- Where `FSMLoop` can be in each phase. -/
inductive Site (length : Nat) : ServerPhase → FsmState ⊕ ServerBody → Prop
  | request : Site length .listening (.inl .request)
  | requestReceive {request : TransactionPacket} :
      Site length .listening (.inr (.requestReceive request))
  | response : Site length .accepting (.inl .response)
  | responseSend {response : TransactionPacket} :
      Site length .responding (.inr (.responseSend response))
  | initiateBlock : Site length .expecting (.inl .initiateBlock)
  | initiateReceive {initiate : TransactionPacket} :
      Site length .expecting (.inr (.initiateReceive initiate))
  | block {supplied : Nat} (more : supplied < length) :
      Site length (.transferring supplied) (.inl .block)
  | blockSend {supplied : Nat} {packet : BlockTxRxPacket}
      (more : supplied < length) :
      Site length (.transferring supplied) (.inr (.blockSend packet))
  | blockContinue {supplied : Nat} (more : supplied < length) :
      Site length (.transferring supplied) (.inr .blockContinue)
  | ackReceive {ackPacket : TransactionPacket} :
      Site length (.transferring length) (.inr (.ackReceive ackPacket))
  | terminate : Site length .concluding (.inl .terminate)
  | again : Site length .finished (.inl .request)
  | receiveAgain {request : TransactionPacket} :
      Site length .finished (.inr (.requestReceive request))

end ServerPhase

namespace DDServer

/-- The server is in this phase of its first transaction. -/
structure At
    (transfer : FirstTransfer)
    (history : History)
    (phase : ServerPhase)
    (server : DDServer) : Prop where
  site : phase.Site transfer.data.length server.toParty.site
  fits : server.Fits
  supplies : server.Supplies history
  current : phase.Supplying → history.current = transfer.data
  left : phase.Supplying →
    server.remaining = transfer.data.length - phase.supplied
  filled : ∀ packet, server.point = .body (.blockSend packet) →
    server.internalBufferLen < server.remaining ∧
      (packet.header.getContinueBit = .continueTransfer →
        server.internalBufferLen ≠ 0)
  requested : phase = .accepting →
    server.clientConfig.terms = transfer.client.config.terms
  config : phase.Supplying → server.clientConfig.terms = transfer.agreed
  success : phase = .concluding → server.isTransferSuccess = true

/-- The server rests, or polls an empty channel. -/
def Waits (channel : List Frame) (server : DDServer) : Prop :=
  match server.toParty.site with
  | .inl .idle => True
  | .inr (.requestReceive _) | .inr (.initiateReceive _)
  | .inr (.ackReceive _) => channel = []
  | _ => False

section At

variable {transfer : FirstTransfer} {history history' : History}
variable {phase phase' : ServerPhase} {server server' : DDServer}
variable {env : Environment} {reached : Nat} {events : List Event}

/-- What is known about the data stays in the history. -/
theorem At.congr
    (at_ : server.At transfer history phase)
    (supply : history'.supply = history.supply) :
    server.At transfer history' phase where
  site := at_.site
  fits := at_.fits
  supplies := at_.supplies.congr supply
  current reads := by
    obtain ⟨transaction, contents, -⟩ :
        history'.transaction = history.transaction ∧
          history'.contents = history.contents ∧ _ := by
      simpa [History.supply] using supply
    rw [History.current, transaction, contents]
    exact at_.current reads
  left := at_.left
  filled := at_.filled
  requested := at_.requested
  config := at_.config
  success := at_.success

/-- A step that leaves the data alone. -/
theorem At.kept
    (at_ : server.At transfer history phase)
    (site : phase'.Site transfer.data.length server'.toParty.site)
    (fits : server'.Fits)
    (supplies : server'.Supplies history')
    (current : history'.current = history.current)
    (before : ∀ packet, server.point ≠ .body (.blockSend packet))
    (after : ∀ packet, server'.point ≠ .body (.blockSend packet))
    (length : server'.internalBufferLen = server.internalBufferLen)
    (config : server'.clientConfig = server.clientConfig)
    (success : server'.isTransferSuccess = server.isTransferSuccess)
    (supplying : phase'.Supplying → phase.Supplying)
    (supplied : phase'.supplied = phase.supplied)
    (requested : phase' = .accepting → phase = .accepting)
    (concludes : phase' = .concluding → phase = .concluding) :
    server'.At transfer history' phase' where
  site := site
  fits := fits
  supplies := supplies
  current reads := current.trans (at_.current (supplying reads))
  left reads := by
    have left := at_.left (supplying reads)
    rw [remaining_of_outside before] at left
    rw [remaining_of_outside after, length, supplied, left]
  filled packet here := absurd here (after packet)
  requested accepting := by
    rw [config]
    exact at_.requested (requested accepting)
  config reads := by
    rw [config]
    exact at_.config (supplying reads)
  success concluding := by
    rw [success]
    exact at_.success (concludes concluding)

/-- The packet in the send loop carries the next data. -/
theorem At.slice
    {supplied : Nat}
    {packet : BlockTxRxPacket}
    (at_ : server.At transfer history (.transferring supplied))
    (sound : server.Sound transfer.server)
    (here : server.point = .body (.blockSend packet))
    (more : supplied < transfer.data.length)
    (beyond : View) :
    ∃ payload,
      transfer.Slice supplied packet.header payload ∧
      packet.frame beyond = blockFrame packet.header payload ∧
      server.internalBufferLen =
        transfer.data.length - (supplied + payload.length) := by
  obtain ⟨payload, holds, slice, -, last⟩ := at_.supplies.filled packet here
  obtain ⟨some_, others⟩ := at_.filled packet here
  have left : server.remaining = transfer.data.length - supplied :=
    at_.left trivial
  have current := at_.current trivial
  have size : server.remaining =
      payload.length + server.internalBufferLen := by
    rw [remaining, pending_of_blockSend here, holds.size]
  have nonempty : payload ≠ [] := by
    rintro rfl
    rw [List.length_nil] at size
    omega
  have frame := (holds.frame_cases beyond).resolve_left
    fun none => nonempty none.1
  refine ⟨payload, ?_, frame.2, by omega⟩
  constructor
  case crc => exact holds.crc
  case size => exact holds.size
  case nonempty => exact nonempty
  case room =>
    rw [← sound.maxPacketSize]
    exact holds.fits
  case slice =>
    have position : transfer.data.length - server.remaining = supplied := by
      omega
    rw [current, position] at slice
    exact slice
  case within => omega
  case last =>
    constructor
    · intro marked
      have none := last marked
      omega
    · intro all
      cases bit : packet.header.getContinueBit with
      | terminateTransfer => rfl
      | continueTransfer =>
          have left := others bit
          omega

/-- The server after it has sent the next block. -/
theorem At.afterBlock
    {supplied size : Nat}
    {point : Point ServerBody}
    (at_ : server.At transfer history (.transferring supplied))
    (length : server.internalBufferLen =
      transfer.data.length - (supplied + size))
    (site : ServerPhase.Site transfer.data.length
      (.transferring (supplied + size)) (server.goto point).toParty.site)
    (fits : (server.goto point).Fits)
    (supplies : (server.goto point).Supplies history')
    (current : history'.current = history.current)
    (after : ∀ packet, point ≠ .body (.blockSend packet)) :
    (server.goto point).At transfer history'
      (.transferring (supplied + size)) where
  site := site
  fits := fits
  supplies := supplies
  current _ := current.trans (at_.current trivial)
  left _ := by
    rw [remaining_of_outside after]
    exact length
  filled packet here := absurd here (after packet)
  requested := by simp
  config _ := at_.config trivial
  success := by simp

/-- The terms of the response are the agreed ones. -/
theorem At.negotiated_terms
    (at_ : server.At transfer history .accepting)
    (sound : server.Sound transfer.server) :
    server.negotiated.clientConfig.terms = transfer.agreed := by
  rw [DDServer.negotiated_terms, at_.requested rfl, sound.serverConfig]
  rfl

/-- All data are asked for. -/
theorem At.readSize_ge
    (at_ : server.At transfer history .accepting)
    (sound : server.Sound transfer.server) :
    transfer.data.length ≤ server.readSize := by
  have room := transfer.packetlen.1
  have blocks := congrArg Terms.maxBlocksPerTransaction
    (at_.negotiated_terms sound)
  change server.negotiated.clientConfig.maxBlocksPerTransaction = _ at blocks
  rw [sound.readSize_eq (by omega), blocks,
    transfer.maxBlocksPerTransaction_agreed]
  exact transfer.bounded

/-- In a run without failures, a step leads to the next phase of the script, or
stays in the phase. -/
theorem Moves.follows
    (moves : server.Moves env server' events)
    (sound : server.Sound transfer.server)
    (acquired : env.lockAcquired = true)
    (running : env.timerExpired = false)
    (stored : ∀ maxSize, env.stored maxSize = transfer.data.take maxSize)
    (erased : env.erased 0 = 0)
    (waits : env.incoming ≠ [] →
      transfer.Asks (phase.standing transfer.data.length).heard
        env.incoming reached)
    (at_ : server.At transfer history phase)
    (heard : Frame) :
    ∃ phase',
      server'.At transfer (events.foldl (.noteServer heard) history) phase' ∧
      Follows transfer.Answers env reached
        (phase.standing transfer.data.length)
        (phase'.standing transfer.data.length) events := by
  have site := at_.site
  have recvCB : server.recvCB = true :=
    sound.recvCB.trans transfer.serverCallbacks.2.1
  have room : 11 ≤ server.maxPacketSize := by
    rw [sound.maxPacketSize]
    exact transfer.packetlen.1
  have atMost : ∀ maxSize, (env.stored maxSize).length ≤ maxSize := by
    intro maxSize
    rw [stored, List.length_take]
    exact Nat.min_le_left _ _
  have fits := moves.fits sound atMost at_.fits
  have supplies := moves.supplies sound at_.fits at_.supplies heard
  have current := @Moves.current_eq _ _ _ _ history moves
  cases moves with
  | shell shell =>
      have same := shell.site_eq acquired
      have before := shell.outside
      have after := shell.point_ne_body
      have current := current (shell.not_entering _) heard
      obtain ⟨_, _, _, _, rfl, -⟩ := shell.unchanged
      exact ⟨phase,
        at_.kept (same ▸ site) fits supplies current (fun _ => before _)
          (fun _ => after _) rfl rfl rfl id rfl id id,
        follows_of_quiet rfl (by simp) (by simp) (by simp)⟩
  | idle here =>
      rw [Party.site_of_enter here] at site
      cases site
  | awaitRequest here =>
      rw [Party.site_of_enter here] at site
      cases site with
      | request =>
          exact ⟨.listening,
            at_.kept .requestReceive fits supplies
              (current (by simp [here]) heard) (by simp [here]) (by simp [goto])
              rfl rfl rfl id rfl id id,
            follows_of_quiet rfl (by simp) (by simp) (by simp)⟩
      | again =>
          exact ⟨.finished,
            at_.kept .receiveAgain fits supplies
              (current (by simp [here]) heard) (by simp [here]) (by simp [goto])
              rfl rfl rfl id rfl id id,
            follows_of_quiet rfl (by simp) (by simp) (by simp)⟩
  | acceptRequest here accepts =>
      have incoming := DataDump.incoming_ne_nil accepts.1
      rw [Party.site_of_body here] at site
      cases site with
      | requestReceive =>
          have asks : transfer.Asks 0 _ _ := waits incoming
          cases asks with
          | request control =>
              obtain ⟨-, terms⟩ := accepts.of_control control (by simp)
              refine ⟨.accepting, ?_, follows_of_heard recvCB incoming rfl rfl
                rfl (by simp) (by simp)⟩
              exact
                { site := .response
                  fits := fits
                  supplies := supplies
                  current := fun reads => reads.elim
                  left := fun reads => reads.elim
                  filled := by simp
                  requested := fun _ => terms
                  config := fun reads => reads.elim
                  success := by simp }
      | receiveAgain =>
          have asks : transfer.Asks 3 _ _ := waits incoming
          cases asks
  | readStorage here consumer buffer nonempty =>
      rw [Party.site_of_enter here] at site
      cases site
      have whole : env.stored server.readSize = transfer.data := by
        rw [stored]
        exact List.take_of_length_le (at_.readSize_ge sound)
      refine ⟨.responding, ?_, follows_of_quiet rfl (by simp) (by simp)
        (by simp)⟩
      exact
        { site := .responseSend
          fits := fits
          supplies := supplies
          current := fun _ => by
            simp [History.current, History.noteServer, whole]
          left := fun _ => by
            rw [remaining_of_outside (by simp)]
            exact congrArg List.length whole
          filled := by simp
          requested := by simp
          config := fun _ => at_.negotiated_terms sound
          success := by simp }
  | readNothing here _ empty =>
      rw [Party.site_of_enter here] at site
      cases site
      have enough := at_.readSize_ge sound
      have some_ := transfer.nonempty
      have none := congrArg List.length empty
      rw [stored, List.length_take] at none
      simp only [List.length_nil] at none
      omega
  | noStorage here absent =>
      have given : server.consumerCB = true :=
        sound.consumerCB.trans transfer.serverCallbacks.2.2.1
      have room := sound.maxPacketSize.symm ▸ transfer.packetlen.1
      obtain ⟨offset, buffer⟩ := sound.buffer (by omega)
      simp [given, buffer] at absent
  | responseSent here =>
      have live : TransactionPacket.Carries _ _ _ := sound.live _ here
      rw [Party.site_of_body here] at site
      cases site
      rw [at_.config trivial] at live
      exact ⟨.expecting,
        at_.kept .initiateBlock fits supplies (current (by simp [here]) heard)
          (by simp [here]) (by simp [goto]) rfl rfl rfl id rfl (by simp)
          (by simp),
        follows_of_sent (.response live.isControl) rfl rfl⟩
  | awaitInitiate here =>
      rw [Party.site_of_enter here] at site
      cases site
      exact ⟨.expecting,
        at_.kept .initiateReceive fits supplies (current (by simp [here]) heard)
          (by simp [here]) (by simp [goto]) rfl rfl rfl id rfl id id,
        follows_of_quiet rfl (by simp) (by simp) (by simp)⟩
  | acceptInitiate here accepts =>
      have incoming := DataDump.incoming_ne_nil accepts.1
      rw [Party.site_of_body here] at site
      cases site
      have asks : transfer.Asks 1 _ _ := waits incoming
      cases asks with
      | initiate control =>
          exact ⟨.transferring 0,
            at_.kept (.block transfer.nonempty) fits supplies
              (current (by simp [here]) heard) (by simp [here]) (by simp) rfl rfl
              rfl (fun _ => trivial) rfl (by simp) (by simp),
            follows_of_heard recvCB incoming rfl rfl rfl (by simp) (by simp)⟩
  | @fillBlock source here buffer =>
      rw [Party.site_of_enter here] at site
      cases site with
      | @block supplied more =>
          have filling : (server.filling source).remaining =
              server.internalBufferLen :=
            remaining_filling sound (by omega) buffer
          have left : server.remaining = transfer.data.length - supplied :=
            at_.left trivial
          rw [remaining_of_outside (by simp [here])] at left
          have size : server.dataSizeCopiedToPacket = _ :=
            dataSizeCopiedToPacket_eq (by omega)
          refine ⟨.transferring supplied, ?_, ?_⟩
          · exact
              { site := .blockSend more
                fits := fits
                supplies := supplies
                current := fun _ =>
                  (current (by simp [here]) heard).trans (at_.current trivial)
                left := fun _ => filling.trans left
                filled := by
                  rintro _ ⟨⟩
                  have less : server.internalBufferLen -
                      server.dataSizeCopiedToPacket <
                        server.internalBufferLen := by omega
                  refine ⟨less.trans_eq filling.symm, fun continues => ?_⟩
                  rw [blockPacket_getContinueBit, lastFrame] at continues
                  split at continues
                  next => simp at continues
                  next unmarked =>
                    have left := (not_or.mp unmarked).2
                    exact fun none => left (Nat.le_of_eq none)
                requested := by simp
                config := fun _ => at_.config trivial
                success := by simp }
          · exact follows_of_quiet rfl (fun bytes => by simp) (by simp)
              fun status => by simp
  | blockSent here continues =>
      rw [Party.site_of_body here] at site
      cases site with
      | @blockSend supplied _ more =>
          obtain ⟨payload, slice, bytes, length⟩ :=
            at_.slice sound here more env.beyond
          have within := slice.within
          have unfinished :
              supplied + payload.length ≠ transfer.data.length := fun all => by
            simpa [continues] using slice.last.mpr all
          rw [bytes]
          exact ⟨.transferring (supplied + payload.length),
            at_.afterBlock length (.blockContinue (by omega)) fits supplies
              (current (by simp [here]) heard) (by simp),
            follows_of_sent (.block slice) rfl rfl⟩
  | lastBlockSent here last =>
      rw [Party.site_of_body here] at site
      cases site with
      | @blockSend supplied _ more =>
          obtain ⟨payload, slice, bytes, length⟩ :=
            at_.slice sound here more env.beyond
          have all := slice.last.mp last
          rw [bytes]
          exact ⟨.transferring (supplied + payload.length),
            at_.afterBlock length (all ▸ .ackReceive) fits supplies
              (current (by simp [here]) heard) (by simp),
            follows_of_sent (.block slice) rfl rfl⟩
  | continueBlock here =>
      have now : server.currentState = .block :=
        (sound.paced.inside _ here).symm
      rw [Party.site_of_body here] at site
      cases site with
      | blockContinue more =>
          refine ⟨.transferring _,
            at_.kept ?_ fits supplies (current (by simp [here]) heard)
              (by simp [here]) (by simp [goto]) rfl rfl rfl id rfl id id,
            follows_of_quiet rfl (by simp) (by simp) (by simp)⟩
          rw [Party.site_of_leave rfl, DataDump.getCurrentFSMState,
            if_pos acquired, now]
          exact .block more
  | erase here accepts =>
      have incoming := DataDump.incoming_ne_nil accepts.1
      rw [Party.site_of_body here] at site
      cases site
      have asks : transfer.Asks 2 _ _ := waits incoming
      cases asks with
      | ack =>
          refine ⟨.concluding, ?_, follows_of_heard recvCB incoming rfl rfl rfl
            (by simp) (by simp)⟩
          exact
            { site := .terminate
              fits := fits
              supplies := supplies
              current := fun reads => reads.elim
              left := fun reads => reads.elim
              filled := by simp
              requested := by simp
              config := fun reads => reads.elim
              success := fun _ => rfl }
  | eraseElse here accepts _ _ differs =>
      rw [Party.site_of_body here] at site
      cases site
      have none := at_.left trivial
      rw [remaining_of_outside (by simp [here]), ServerPhase.supplied,
        Nat.sub_self] at none
      rw [none] at differs
      exact absurd erased differs
  | @poll body body' msgType here polls rejects =>
      -- The frame that is waited for would be accepted.
      have stays
          (site : phase.Site transfer.data.length (.inr body'))
          (nothing : env.incoming = []) :
          ∃ phase', (server.goto (.body body')).At transfer _ phase' ∧
            Follows transfer.Answers env reached
              (phase.standing transfer.data.length)
              (phase'.standing transfer.data.length) server.pollEvent :=
        ⟨phase,
          at_.kept site fits supplies (current (by simp [here]) heard)
            (by cases polls <;> simp [here]) (by cases polls <;> simp [goto])
            rfl rfl rfl id rfl id id,
          follows_of_quiet rfl (by simp) (fun _ => nothing) (by simp)⟩
      rw [Party.site_of_body here] at site
      cases polls with
      | request =>
          cases site with
          | requestReceive =>
              apply stays .requestReceive
              by_contra incoming
              have asks : transfer.Asks 0 _ _ := waits incoming
              cases asks with
              | request control =>
                  exact rejects (DataDump.accepts_of_control control (by simp)
                    recvCB room)
          | receiveAgain =>
              apply stays .receiveAgain
              by_contra incoming
              have asks : transfer.Asks 3 _ _ := waits incoming
              cases asks
      | initiate =>
          cases site
          apply stays .initiateReceive
          by_contra incoming
          have asks : transfer.Asks 1 _ _ := waits incoming
          cases asks with
          | initiate control =>
              exact rejects (DataDump.accepts_of_control control (by simp)
                recvCB room)
      | ack =>
          cases site
          apply stays .ackReceive
          by_contra incoming
          have asks : transfer.Asks 2 _ _ := waits incoming
          cases asks with
          | ack control =>
              exact rejects (DataDump.accepts_of_control control (by simp)
                recvCB room)
  | retry here unsent =>
      rw [unsent.foldl_of_ignored fun _ _ => rfl]
      exact ⟨phase, at_, unsent.follows⟩
  | giveUp here givesUp =>
      cases givesUp with
      | unsent _ _ expired | unheard _ _ expired =>
          exact absurd (running.symm.trans expired) (by simp)
      | declined accepts differs =>
          have incoming := DataDump.incoming_ne_nil accepts.1
          rw [Party.site_of_body here] at site
          cases site
          have asks : transfer.Asks 1 _ _ := waits incoming
          cases asks with
          | initiate control =>
              obtain ⟨-, terms⟩ := accepts.of_control control (by simp)
              have config := at_.config trivial
              exact absurd (congrArg Terms.transactionID
                (config.trans terms.symm)) differs
      | disputed accepts differs =>
          have incoming := DataDump.incoming_ne_nil accepts.1
          rw [Party.site_of_body here] at site
          cases site
          have asks : transfer.Asks 2 _ _ := waits incoming
          cases asks with
          | ack control =>
              obtain ⟨-, terms⟩ := accepts.of_control control (by simp)
              have given : server.consumerCB = true :=
                sound.consumerCB.trans transfer.serverCallbacks.2.2.1
              have polled := congrArg Terms.transactionID terms
              have config := congrArg Terms.transactionID (at_.config trivial)
              exact absurd (polled.trans config.symm)
                (differs.resolve_left (by simp [given]))
  | terminate here =>
      rw [Party.site_of_enter here] at site
      cases site
      have success := at_.success rfl
      have notifies : server.notifyCB = true :=
        sound.notifyCB.trans transfer.serverCallbacks.2.2.2
      refine ⟨.finished, ?_, ?_⟩
      · exact
          { site := .again
            fits := fits
            supplies := supplies
            current := fun reads => reads.elim
            left := fun reads => reads.elim
            filled := by simp
            requested := by simp
            config := fun reads => reads.elim
            success := by simp }
      · exact
          { sends := .inl ⟨rfl, by simp⟩
            hears := by simp [ServerPhase.standing]
            notifies := by simp +contextual [success, ServerPhase.standing]
            finishes := by simp [notifies, success, ServerPhase.standing] }

/-- A server waits when it has heard all that was sent. -/
theorem At.of_waits
    {channel : List Frame}
    (at_ : server.At transfer history phase)
    (waits : server.Waits channel) :
    channel = [] ∧
      (phase = .listening ∨ phase = .expecting ∨
        phase = .transferring transfer.data.length ∨ phase = .finished) := by
  have site := at_.site
  unfold Waits at waits
  generalize server.toParty.site = here at site waits
  cases site with
  | requestReceive => exact ⟨waits, .inl rfl⟩
  | initiateReceive => exact ⟨waits, .inr (.inl rfl)⟩
  | ackReceive => exact ⟨waits, .inr (.inr (.inl rfl))⟩
  | receiveAgain => exact ⟨waits, .inr (.inr (.inr rfl))⟩
  | _ => exact waits.elim

end At

end DDServer

end DataDumpProtocol

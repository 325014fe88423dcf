import DataDumpProtocol.Server.Transmission

/-!
# The announced packet length

The response announces the smaller of the two packet lengths, but the `BLOCK`
body fills its packets up to the server's own.  The blocks keep to the
announced length when the server's own is no longer, or when the bytes that
were read fit a single announced packet.
-/

namespace DataDumpProtocol

namespace DDServer

/-- An initiate message is only accepted when the server's packets, or the
bytes that it has read, fit the announced packet length. -/
def Action.FitsAnnounced
    (server : DDServer)
    (trace : List Event) : Action → Prop
  | .fsm env =>
      server.awaitsInitiate = true → server.Accepts .initiateBlockTransfer env →
        server.clientConfig.transactionID =
            (server.polledHeader env).transactionID →
          0 < server.internalBufferLen →
            ∀ terms ∈ (Transmission.ofTrace trace).announced,
              server.maxPacketSize ≤ terms.maxPacketlen.toNat ∨
                5 + server.internalBufferLen ≤ terms.maxPacketlen.toNat
  | .startServer _ | .stopServer _ => True

instance (server : DDServer) (trace : List Event) :
    (action : Action) → Decidable (action.FitsAnnounced server trace)
  | .fsm _ => inferInstanceAs (Decidable (_ → _ → _ → _ → _))
  | .startServer _ | .stopServer _ => inferInstanceAs (Decidable True)

/-- What keeps the blocks of a transmission within the announced length. -/
structure Bounded (server : DDServer) (transmission : Transmission) :
    Prop where
  limited : server.toParty.Holds .block → 0 < server.internalBufferLen →
    ∀ terms ∈ transmission.announced,
      server.maxPacketSize ≤ terms.maxPacketlen.toNat ∨
        5 + server.internalBufferLen ≤ terms.maxPacketlen.toNat
  filled : ∀ packet, server.point = .body (.blockSend packet) →
    0 < packet.header.dataBufferSize.toNat →
      ∀ terms ∈ transmission.announced,
        5 + packet.header.dataBufferSize.toNat ≤ terms.maxPacketlen.toNat
  handed : ∀ entry ∈ transmission.handed,
    ∀ terms ∈ transmission.announced,
      entry.1.length ≤ terms.maxPacketlen.toNat

section Bounded

variable {parameters : Parameters} {server server' : DDServer}
variable {env : Environment} {trace : List Event}
variable {transmission transmission' : Transmission}

/-- The blocks that are handed over are those that were filled. -/
theorem Bounded.length_le
    (bounded : server.Bounded transmission)
    {packet : BlockTxRxPacket}
    {payload : List Byte}
    (here : server.point = .body (.blockSend packet))
    (holds : packet.Holds server.maxPacketSize payload)
    (nonempty : payload ≠ [])
    {terms : Terms}
    (announced : terms ∈ transmission.announced) :
    (blockFrame packet.header payload).length ≤ terms.maxPacketlen.toNat := by
  have positive := List.length_pos_iff.mpr nonempty
  rw [length_blockFrame, ← holds.size]
  exact bounded.filled packet here (holds.size ▸ positive) terms announced

theorem Transmits.bounded
    (transmits : server.Transmits env (.ofTrace trace) server' transmission')
    (sound : server.Sound parameters)
    (begun : server.Begun (.ofTrace trace))
    (fits : Action.FitsAnnounced server trace (.fsm env))
    (bounded : server.Bounded (.ofTrace trace)) :
    server'.Bounded transmission' := by
  cases transmits with
  | aside limit length _ _ held silent =>
      refine ⟨fun holds left => ?_, fun packet here => ?_, bounded.handed⟩
      · rcases length with same | empty
        · rw [same] at left ⊢
          rw [limit]
          exact bounded.limited (held _ holds (by simp)) left
        · omega
      · simpa [ServerBody.frame] using silent _ here
  | stay => exact bounded
  | request _ absent leaving =>
      refine ⟨fun holds => absurd rfl (absent _ holds).2, ?_, ?_⟩
      · simp [leaving]
      · simp
  | read here =>
      refine ⟨fun holds => ?_, by simp, bounded.handed⟩
      have old := holds_of_body server holds rfl rfl rfl
      exact absurd old (sound.not_holds_block (.inl here))
  | respond here =>
      have fresh := begun.fresh (.inl (.inl (sound.paced.inside _ here)))
      refine ⟨fun holds => ?_, by simp [goto], by simp [fresh]⟩
      have left := holds_of_leave server holds rfl rfl rfl
      have old := left.resolve_right (by simp)
      exact absurd old (sound.not_holds_block (.inr ⟨_, here, rfl⟩))
  | initiate here accepts agrees =>
      refine ⟨fun _ left => ?_, by simp, bounded.handed⟩
      exact fits (by simp [awaitsInitiate, here]) accepts agrees left
  | fill here =>
      have room := sound.room_of_enter here
      have limited := bounded.limited (.inr (.inr (.inr (.inl here))))
      have size : server.dataSizeCopiedToPacket = _ :=
        dataSizeCopiedToPacket_eq (by omega)
      refine ⟨fun _ left terms announced => ?_, ?_, bounded.handed⟩
      · simp only at left ⊢
        have within := limited (by omega) terms announced
        omega
      · intro packet same positive terms announced
        obtain rfl : server.blockPacket = packet := by simpa using same
        obtain ⟨offset, buffer⟩ := sound.buffer (by omega)
        have filled : _ = _ :=
          (blockPacket_holds (by omega) sound.byteSized buffer).size
        rw [Heap.length_bytes] at filled
        have within := limited (by omega) terms announced
        omega
  | hand here holds nonempty silent =>
      refine ⟨fun held => ?_, fun packet same => ?_, ?_⟩
      · exact bounded.limited (holds_of_body server held rfl rfl rfl)
      · obtain rfl := Point.body.inj same
        simp [ServerBody.frame] at silent
      · intro entry present terms announced
        rcases List.mem_append.mp present with old | new
        · exact bounded.handed entry old terms announced
        · rw [List.mem_singleton.mp new]
          exact bounded.length_le here holds nonempty announced
  | refuse here holds nonempty next =>
      refine ⟨fun held => ?_, fun packet same => ?_, ?_⟩
      · rcases next with rfl | rfl
        · exact bounded.limited held
        · have left := holds_of_leave server held rfl rfl rfl
          exact bounded.limited (left.resolve_right (by simp))
      · rcases next with rfl | rfl
        · exact bounded.filled packet same
        · simp [goto] at same
      · intro entry present terms announced
        rcases List.mem_append.mp present with old | new
        · exact bounded.handed entry old terms announced
        · rw [(List.mem_replicate.mp new).2]
          exact bounded.length_le here holds nonempty announced

theorem Calls.bounded
    {events : List Event}
    (calls : server.Calls server' events)
    (bounded : server.Bounded transmission) :
    server'.Bounded transmission := by
  have held (holds : server'.toParty.Holds .block) :
      server.toParty.Holds .block := calls.held holds (by simp)
  obtain ⟨-, -⟩ := calls
  exact ⟨fun holds => bounded.limited (held holds), bounded.filled,
    bounded.handed⟩

end Bounded

/-- Every block frame that was handed to `sendCB` in the current transaction
keeps to the packet length that the transaction's response announced. -/
theorem blocks_within_announced
    {parameters : Parameters}
    {heap : Heap}
    {server : DDServer}
    {trace : List Event}
    (reaches : machine.Reaches
      (fun server trace action => action.FitsAnnounced server trace)
      (new parameters heap) server trace) :
    ∀ entry ∈ (Transmission.ofTrace trace).handed,
      ∃ terms, (Transmission.ofTrace trace).announced = some terms ∧
        entry.1.length ≤ terms.maxPacketlen.toNat := by
  obtain ⟨begun, bounded⟩ := transmitting_of_reaches reaches
    (fun server trace => server.Bounded (.ofTrace trace))
    (by constructor <;> simp [new, Party.Holds, Transmission.ofTrace])
    (fun _ _ _ _ _ sound begun bounded fits _ transmits =>
      transmits.bounded sound begun fits bounded)
    (fun _ _ _ _ calls entered bounded =>
      entered ▸ calls.bounded bounded)
  intro entry present
  obtain ⟨terms, announced⟩ := begun.started (List.ne_nil_of_mem present)
  exact ⟨terms, announced, bounded.handed entry present terms announced⟩

/-! ## A client with shorter packets -/

/-- Parameters of a server whose packets hold eleven bytes of payload. -/
def wideParameters : Parameters where
  transactionID := 7
  blocksPerTransaction := 1
  maxPacketlen := 16
  ackTimeout := 5

/-- A transaction up to its block with a client whose packets hold six bytes,
when this is stored. -/
def narrowTransaction (contents : List Byte) : List Action :=
  .startServer {} :: List.replicate 7 (.fsm {}) ++
    .fsm { incoming := [1, 7, 0, 0, 0, 1, 11, 5, 0, 0, 0] } ::
      List.replicate 7 (.fsm {}) ++
    .fsm { stored := contents.take } :: List.replicate 9 (.fsm {}) ++
    .fsm { incoming := [3, 7, 0, 0, 0, 1, 11, 5, 0, 0, 0] } ::
      List.replicate 9 (.fsm {})

/-- What a list of actions makes of a fresh server. -/
def wideRun (actions : List Action) : DDServer × List Event :=
  machine.execute (new wideParameters fun _ _ => 0) [] actions

theorem reaches_wideRun
    {admits : DDServer → List Event → Action → Prop}
    {actions : List Action}
    (admitted : machine.Admitted admits (new wideParameters fun _ _ => 0) []
      actions) :
    machine.Reaches admits (new wideParameters fun _ _ => 0)
      (wideRun actions).1 (wideRun actions).2 :=
  Machine.Reaches.execute actions .start admitted

/-- Six bytes fit a packet of the client. -/
theorem blocks_within_announced_example :
    ∃ terms,
      (Transmission.ofTrace
        (wideRun (narrowTransaction [1, 2, 3, 4, 5, 6])).2).announced =
          some terms ∧
        11 ≤ terms.maxPacketlen.toNat :=
  blocks_within_announced (reaches_wideRun (by decide +kernel))
    ([4, 1, 0, 0, 6, 1, 2, 3, 4, 5, 6], true) (by decide +kernel)

/-- Eight bytes do not, and are sent all the same. -/
theorem block_beyond_announced_example :
    ∃ server trace terms,
      machine.Reaches (fun _ _ _ => True) (new wideParameters fun _ _ => 0)
        server trace ∧
      (Transmission.ofTrace trace).announced = some terms ∧
      terms.maxPacketlen = 11 ∧
      ([4, 1, 0, 0, 8, 1, 2, 3, 4, 5, 6, 7, 8], true) ∈
        (Transmission.ofTrace trace).handed :=
  ⟨_, _, ⟨7, 1, 11, 5⟩,
    @reaches_wideRun _ (narrowTransaction [1, 2, 3, 4, 5, 6, 7, 8])
      (Machine.admitted_of_forall fun _ _ => trivial),
    by decide +kernel, rfl, by decide +kernel⟩

end DDServer

end DataDumpProtocol

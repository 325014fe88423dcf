import DataDumpProtocol.Machines.ServerMoves

/-!
# Segmentation

The `BLOCK` body cuts the bytes that were read into frames.  The frame limit
was agreed before, and as long as the bytes that are left fit the frames that
are left, limit and bytes run out together.
-/

namespace DataDumpProtocol

namespace DDServer

/-- The bytes of the staging buffer that are still to be sent. -/
def rest (server : DDServer) : List Byte :=
  match server.internalBuffer with
  | some source => server.heap.bytes source server.internalBufferLen
  | none => []

/-- The bytes that are left fit the frames that are left. -/
def InLimits (server : DDServer) : Prop :=
  server.internalBufferLen ≤
    (server.maxPacketSize - 5) *
      (server.clientConfig.maxBlocksPerTransaction.toNat + 1 -
        server.internalCounter.toNat)

section Segmentation

variable {server : DDServer}

/-- As long as bytes are left, the frame number is the counter and within the
limit. -/
theorem InLimits.frameNumber
    (limits : server.InLimits)
    (left : 0 < server.internalBufferLen) :
    server.internalCounter.toNat ≤
        server.clientConfig.maxBlocksPerTransaction.toNat ∧
      (server.internalCounter.setWidth 8).toNat =
        server.internalCounter.toNat := by
  have allowed : server.internalCounter.toNat ≤
      server.clientConfig.maxBlocksPerTransaction.toNat := by
    by_contra beyond
    have none : server.clientConfig.maxBlocksPerTransaction.toNat + 1 -
        server.internalCounter.toNat = 0 := by omega
    rw [InLimits, none, Nat.mul_zero] at limits
    omega
  have bound := server.clientConfig.maxBlocksPerTransaction.isLt
  refine ⟨allowed, ?_⟩
  rw [BitVec.toNat_setWidth]
  exact Nat.mod_eq_of_lt (by omega)

variable (room : 5 < server.maxPacketSize)
variable (limits : server.InLimits)

include room limits

/-- The last frame takes the last bytes: the frame limit and the bytes left
run out together. -/
theorem InLimits.last
    (last : server.lastFrame = .terminateTransfer) :
    server.internalBufferLen - server.dataSizeCopiedToPacket = 0 := by
  have size : server.dataSizeCopiedToPacket = _ :=
    dataSizeCopiedToPacket_eq (by omega)
  by_cases left : 0 < server.internalBufferLen
  · obtain ⟨allowed, number⟩ := limits.frameNumber left
    simp only [lastFrame] at last
    split at last
    next reached =>
      rcases reached with limit | none
      · have atLimit : server.internalCounter.toNat =
            server.clientConfig.maxBlocksPerTransaction.toNat := by
          have := BitVec.le_def.mp limit
          omega
        rw [InLimits, atLimit, Nat.add_sub_cancel_left, Nat.mul_one] at limits
        omega
      · omega
    next => simp at last
  · omega

/-- Every other frame leaves bytes that fit the frames behind it. -/
theorem InLimits.next
    (more : server.lastFrame = .continueTransfer) :
    server.internalBufferLen - server.dataSizeCopiedToPacket ≤
      (server.maxPacketSize - 5) *
        (server.clientConfig.maxBlocksPerTransaction.toNat + 1 -
          (server.internalCounter + 1).toNat) := by
  have size : server.dataSizeCopiedToPacket = _ :=
    dataSizeCopiedToPacket_eq (by omega)
  have bound := server.clientConfig.maxBlocksPerTransaction.isLt
  simp only [lastFrame] at more
  split at more
  next => simp at more
  next within =>
    obtain ⟨notLimit, notNone⟩ := not_or.mp within
    obtain ⟨allowed, number⟩ := limits.frameNumber (by omega)
    have below : server.internalCounter.toNat <
        server.clientConfig.maxBlocksPerTransaction.toNat := by
      have := BitVec.le_def.not.mp notLimit
      omega
    have counted : (server.internalCounter + 1).toNat =
        server.internalCounter.toNat + 1 := by
      rw [BitVec.toNat_add]
      exact Nat.mod_eq_of_lt (by simp; omega)
    have step : server.clientConfig.maxBlocksPerTransaction.toNat + 1 -
        server.internalCounter.toNat =
        (server.clientConfig.maxBlocksPerTransaction.toNat + 1 -
          (server.internalCounter.toNat + 1)) + 1 := by omega
    rw [InLimits, step, Nat.mul_succ] at limits
    rw [counted]
    omega

end Segmentation

theorem rest_eq_nil
    {server : DDServer}
    (none : server.internalBufferLen = 0) :
    server.rest = [] := by
  unfold rest
  split <;> simp [none]

/-- Filling a block moves its bytes from the rest to the packet. -/
theorem rest_split
    {server : DDServer}
    {source : Pointer}
    (room : 5 ≤ server.maxPacketSize)
    (buffer : server.internalBuffer = some source) :
    server.rest =
      server.heap.bytes source server.dataSizeCopiedToPacket ++
        server.heap.bytes (source.advance server.dataSizeCopiedToPacket)
          (server.internalBufferLen - server.dataSizeCopiedToPacket) := by
  have size := dataSizeCopiedToPacket_eq room
  have total : server.internalBufferLen =
      server.dataSizeCopiedToPacket +
        (server.internalBufferLen - server.dataSizeCopiedToPacket) := by omega
  rw [rest, buffer, ← Heap.bytes_add, ← total]

/-- The server after it has filled a block. -/
def filling (server : DDServer) (source : Pointer) : DDServer :=
  { server with
    internalCounter := server.internalCounter + 1
    internalBufferLen :=
      server.internalBufferLen - server.dataSizeCopiedToPacket
    internalBuffer := some (source.advance server.dataSizeCopiedToPacket)
    point := .body (.blockSend server.blockPacket) }

@[simp] theorem internalBufferLen_filling
    (server : DDServer)
    (source : Pointer) :
    (server.filling source).internalBufferLen =
      server.internalBufferLen - server.dataSizeCopiedToPacket := rfl

@[simp] theorem rest_filling (server : DDServer) (source : Pointer) :
    (server.filling source).rest =
      server.heap.bytes (source.advance server.dataSizeCopiedToPacket)
        (server.internalBufferLen - server.dataSizeCopiedToPacket) := rfl

/-! ## In every run -/

/-- What every run keeps about the agreed limit, whatever the locks do, as long
as storage reads no more than it is asked for. -/
structure Fits (server : DDServer) : Prop where
  unread : server.consumerCB = false ∨ server.internalBuffer = none →
    server.internalBufferLen = 0
  offered : server.toParty.Holds .initiateBlock ∨
      (∃ response, server.point = .body (.responseSend response)) →
    server.internalBufferLen ≤
      sizeMul (sizeSub server.maxPacketSize 5)
        server.clientConfig.maxBlocksPerTransaction.toNat
  limited : server.toParty.Holds .block → server.InLimits

section Fits

variable {parameters : Parameters} {server server' : DDServer}
variable {env : Environment} {events : List Event}

/-- Nothing that is left fits any limit. -/
theorem fits_of_empty (empty : server.internalBufferLen = 0) :
    server.Fits where
  unread _ := empty
  offered _ := by omega
  limited _ := by simp [InLimits, empty]

/-- A step that leaves the bytes and their limits alone. -/
theorem Fits.kept
    (fits : server.Fits)
    (limit : server'.maxPacketSize = server.maxPacketSize)
    (consumer : server'.consumerCB = server.consumerCB)
    (buffer : server'.internalBuffer = server.internalBuffer)
    (length : server'.internalBufferLen = server.internalBufferLen)
    (config : server'.clientConfig = server.clientConfig)
    (counter : server'.internalCounter = server.internalCounter)
    (held : ∀ state, server'.toParty.Holds state →
      state = .initiateBlock ∨ state = .block → server.toParty.Holds state)
    (silent : ∀ response, server'.point ≠ .body (.responseSend response)) :
    server'.Fits where
  unread none := by
    rw [consumer, buffer] at none
    rw [length]
    exact fits.unread none
  offered open_ := by
    rw [length, limit, config]
    rcases open_ with holds | ⟨response, here⟩
    · exact fits.offered (.inl (held _ holds (.inl rfl)))
    · exact absurd here (silent response)
  limited holds := by
    rw [InLimits, length, limit, config, counter]
    exact fits.limited (held _ holds (.inr rfl))

theorem Moves.fits
    (moves : server.Moves env server' events)
    (sound : server.Sound parameters)
    (atMost : ∀ maxSize, (env.stored maxSize).length ≤ maxSize)
    (fits : server.Fits) :
    server'.Fits := by
  have opens {state : FsmState} := @moves.opens _ _ _ _ _ sound state
  have held {state : FsmState} := @moves.held _ _ _ _ _ sound state
  cases moves with
  | shell shell =>
      have outside := shell.point_ne_body
      obtain ⟨_, _, _, _, rfl, -⟩ := shell.unchanged
      refine fits.kept rfl rfl rfl rfl rfl rfl (fun state holds inside => ?_)
        fun _ => outside _
      refine (shell.holds holds).resolve_right ?_
      rintro rfl
      simp at inside
  | idle | terminate => exact fits_of_empty rfl
  | acceptRequest here =>
      have absent {state : FsmState} (inside : state = .initiateBlock ∨
          state = .block) : ¬server.toParty.Holds state := by
        intro holds
        have follows := sound.paced.follows_of_inside here holds
        rcases inside with rfl | rfl <;>
          simp [FsmState.Follows, ServerBody.state, FsmState.successor, Free]
            at follows
      refine ⟨fits.unread, ?_, fun holds => ?_⟩
      · rintro (holds | ⟨response, impossible⟩)
        · simpa [here] using opens holds (absent (.inl rfl))
        · simp at impossible
      · simpa [here] using opens holds (absent (.inr rfl))
  | readStorage here consumer buffer =>
      refine ⟨fun none => by simp [negotiated, consumer, buffer] at none,
        fun _ => atMost _, fun holds => ?_⟩
      have old : server.toParty.Holds .block := by
        by_contra new
        simpa [here] using opens holds new
      have follows := sound.paced.follows_of_enter here old
      simp [FsmState.Follows, FsmState.successor, Free] at follows
  | readNothing here _ empty => exact fits_of_empty (by simp [empty])
  | noStorage here absent => exact fits_of_empty (fits.unread absent)
  | responseSent here =>
      refine ⟨fits.unread, fun _ => fits.offered (.inr ⟨_, here⟩),
        fun holds => fits.limited ?_⟩
      by_contra new
      simpa [here] using opens holds new
  | acceptInitiate here =>
      have current : server.toParty.Holds .initiateBlock :=
        .inl (sound.paced.inside _ here)
      have room := sound.room_of_inside here (.inl rfl)
      have offered := fits.offered (.inl current)
      refine ⟨fits.unread, fun _ => offered, fun _ => ?_⟩
      rw [sizeMul_sizeSub_eq _ (by omega) sound.byteSized] at offered
      simpa [InLimits] using offered
  | fillBlock here buffer =>
      have current : server.toParty.Holds .block :=
        .inr (.inr (.inr (.inl here)))
      have room := sound.room_of_enter here
      have limits := fits.limited current
      refine ⟨fun none => ?_, ?_, fun _ => ?_⟩
      · have consumer := none.resolve_right (by simp)
        simp [fits.unread (.inl consumer)]
      · rintro (holds | ⟨response, impossible⟩)
        · have old : server.toParty.Holds .initiateBlock := by
            by_contra new
            simpa [here] using opens holds new
          have follows := sound.paced.follows_of_enter here old
          simp [FsmState.Follows, FsmState.successor, Free] at follows
        · simp at impossible
      · cases frame : server.lastFrame with
        | terminateTransfer =>
            have empty := limits.last (by omega) frame
            simp [InLimits, empty]
        | continueTransfer => exact limits.next (by omega) frame
  | retry => exact fits
  | poll here polls =>
      refine fits.kept rfl rfl rfl rfl rfl rfl
        (fun _ holds inside => held (by simp [goto]) holds (.inr inside)) ?_
      cases polls <;> simp [goto]
  | giveUp here =>
      exact fits.kept rfl rfl rfl rfl rfl rfl
        (fun _ holds inside => held (by simp [goto]) holds (.inr inside))
        (by simp [goto])
  | awaitRequest here | awaitInitiate here | blockSent here
  | lastBlockSent here | continueBlock here | erase here | eraseElse here =>
      exact fits.kept rfl rfl rfl rfl rfl rfl
        (fun _ holds inside =>
          held (by simp [here, ServerBody.state]) holds (.inr inside))
        (by simp [goto])

theorem Calls.fits
    (calls : server.Calls server' events)
    (fits : server.Fits) :
    server'.Fits := by
  have held {state : FsmState} := @calls.held _ _ _ state
  obtain ⟨-, -⟩ := calls
  exact ⟨fits.unread,
    fun open_ => fits.offered
      (open_.imp_left fun holds => held holds (.inr (.inl rfl))),
    fun holds => fits.limited (held holds (.inr (.inr rfl)))⟩

end Fits

end DDServer

end DataDumpProtocol

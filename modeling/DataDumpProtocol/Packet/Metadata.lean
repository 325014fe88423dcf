import DataDumpProtocol.Packet.BlockPacket

/-!
# The metadata byte

Frame number and continue bit share a byte, and are meant as two independent
fields.  `setContinueBit` clears its bit before it sets it.  `setFrameNumber`
only joins the new number to what is there, and the constructor lets the top bit
of a frame number through.  So the fields are independent exactly when the
numbers add up to the last one, and the continue bit is not left to the
constructor.
-/

namespace DataDumpProtocol

/-- A call that sets one of the two fields. -/
inductive MetadataCall
  | setFrameNumber (frameNumber : FrameNumber)
  | setContinueBit (continueBit : ContinueBit)
  deriving DecidableEq

namespace MetadataCall

/-- The frame number that a call gives. -/
def frameNumber? : MetadataCall → Option FrameNumber
  | setFrameNumber frameNumber => some frameNumber
  | setContinueBit _ => none

/-- The continue bit that a call gives. -/
def continueBit? : MetadataCall → Option ContinueBit
  | setFrameNumber _ => none
  | setContinueBit continueBit => some continueBit

end MetadataCall

/-- Two fields that have nothing to do with each other. -/
structure MetadataFields where
  frameNumber : FrameNumber := 0
  continueBit : ContinueBit := .terminateTransfer
  deriving DecidableEq

namespace MetadataFields

/-- What a call is meant to do. -/
def set (fields : MetadataFields) (call : MetadataCall) : MetadataFields where
  frameNumber := call.frameNumber?.getD fields.frameNumber
  continueBit := call.continueBit?.getD fields.continueBit

/-- The fields after a sequence of calls. -/
def setAll (fields : MetadataFields) (calls : List MetadataCall) :
    MetadataFields :=
  calls.foldl set fields

/-- All frame numbers that were given, the first one included. -/
def numbers (fields : MetadataFields) (calls : List MetadataCall) :
    List FrameNumber :=
  fields.frameNumber :: calls.filterMap MetadataCall.frameNumber?

/-- The last number has every bit of an earlier one, of the seven there are. -/
def Covers (last earlier : FrameNumber) : Prop :=
  ∀ i < 7, earlier.getLsbD i = true → last.getLsbD i = true

instance (last earlier : FrameNumber) : Decidable (Covers last earlier) :=
  inferInstanceAs (Decidable (∀ i < 7, _))

/-- The last frame number has all the bits of the earlier ones, and the
constructor's continue bit is set again or not mixed with the frame number. -/
def Undisturbed (fields : MetadataFields) (calls : List MetadataCall) : Prop :=
  (∀ earlier ∈ fields.numbers calls,
    Covers (fields.setAll calls).frameNumber earlier) ∧
  (fields.frameNumber < 128#8 ∨ fields.continueBit = .continueTransfer ∨
    ∃ continueBit, .setContinueBit continueBit ∈ calls)

end MetadataFields

namespace BlockHeader

/-- A header from one of the constructors, with what it was given. -/
inductive Constructed : BlockHeader → MetadataFields → Prop
  | plain : Constructed {} {}
  | fields
      (msgType : MsgType)
      (fields : MetadataFields)
      (crc : Crc)
      (dataBufferSize : DataBufferSize) :
      Constructed
        (construct msgType fields.frameNumber fields.continueBit crc
          dataBufferSize)
        fields

/-- The header after a call. -/
def set (header : BlockHeader) : MetadataCall → BlockHeader
  | .setFrameNumber frameNumber => header.setFrameNumber frameNumber
  | .setContinueBit continueBit => header.setContinueBit continueBit

/-- The header after a sequence of calls. -/
def setAll (header : BlockHeader) (calls : List MetadataCall) : BlockHeader :=
  calls.foldl set header

/-- What the accessors read: seven bits of the frame number, and the bit. -/
def Carries (header : BlockHeader) (fields : MetadataFields) : Prop :=
  header.getFrameNumber.toNat = fields.frameNumber.toNat % 128 ∧
    header.getContinueBit = fields.continueBit

/-- A header carries the fields, and so does the encoding of every packet that
has the header. -/
def CarriesEncoded (header : BlockHeader) (fields : MetadataFields) : Prop :=
  header.Carries fields ∧
    ∀ (packet : BlockTxRxPacket) (beyond memory : View) (address len : Nat),
      packet.header = header → packet.getPacketSize ≤ len →
        (decode (packet.serialize beyond memory (some address) len).2
          address).Carries fields

/-! ## The bits of the byte -/

section Bits

variable (header : BlockHeader) {i : Nat}

/-- The frame number is the low seven bits. -/
theorem getLsbD_getFrameNumber (inside : i < 7) :
    header.getFrameNumber.getLsbD i = header.blockMetadata.getLsbD i := by
  have mask : ∀ i < 7, (~~~(1#8 <<< msbPos)).getLsbD i = true := by decide
  rw [getFrameNumber, BitVec.getLsbD_and, mask i inside, Bool.and_true]

theorem getLsbD_getFrameNumber_beyond (beyond : 7 ≤ i) :
    header.getFrameNumber.getLsbD i = false := by
  have mask : ∀ i < 8, 7 ≤ i → (~~~(1#8 <<< msbPos)).getLsbD i = false := by
    decide
  by_cases inside : i < 8
  · rw [getFrameNumber, BitVec.getLsbD_and, mask i inside beyond,
      Bool.and_false]
  · exact BitVec.getLsbD_of_ge _ _ (by omega)

/-- A frame number is joined to the low seven bits. -/
theorem getLsbD_setFrameNumber
    (inside : i < 7)
    (frameNumber : FrameNumber) :
    (header.setFrameNumber frameNumber).blockMetadata.getLsbD i =
      (header.blockMetadata.getLsbD i || frameNumber.getLsbD i) := by
  have mask : ∀ i < 7, (~~~(1#8 <<< msbPos)).getLsbD i = true := by decide
  rw [setFrameNumber, BitVec.getLsbD_or, BitVec.getLsbD_and, mask i inside,
    Bool.and_true]

/-- A frame number leaves the top bit alone. -/
@[simp] theorem getContinueBit_setFrameNumber (frameNumber : FrameNumber) :
    (header.setFrameNumber frameNumber).getContinueBit =
      header.getContinueBit := by
  have kept : (header.blockMetadata |||
      frameNumber &&& ~~~(1#8 <<< msbPos)) >>> msbPos =
        header.blockMetadata >>> msbPos := by
    have masked : ∀ number : BitVec 8,
        (number &&& ~~~(1#8 <<< msbPos)) >>> msbPos = 0#8 := by
      decide +kernel
    rw [BitVec.ushiftRight_or_distrib, masked, BitVec.or_zero]
  simp only [getContinueBit, setFrameNumber, kept]

theorem getLsbD_setContinueBit (inside : i < 7) (continueBit : ContinueBit) :
    (header.setContinueBit continueBit).blockMetadata.getLsbD i =
      header.blockMetadata.getLsbD i := by
  rw [← getLsbD_getFrameNumber _ inside, getFrameNumber_setContinueBit,
    getLsbD_getFrameNumber _ inside]

/-- What is read is a frame number exactly when the low seven bits agree. -/
theorem getFrameNumber_toNat_iff (frameNumber : FrameNumber) :
    header.getFrameNumber.toNat = frameNumber.toNat % 128 ↔
      ∀ i < 7, header.blockMetadata.getLsbD i = frameNumber.getLsbD i := by
  have power : 128 = 2 ^ 7 := rfl
  constructor
  · intro same i inside
    have bit := congrArg (fun value => value.testBit i) same
    simp only [power, Nat.testBit_mod_two_pow, inside, decide_true,
      Bool.true_and, BitVec.testBit_toNat] at bit
    rwa [getLsbD_getFrameNumber _ inside] at bit
  · intro same
    apply Nat.eq_of_testBit_eq
    intro i
    rw [power, Nat.testBit_mod_two_pow, BitVec.testBit_toNat,
      BitVec.testBit_toNat]
    by_cases inside : i < 7
    · rw [getLsbD_getFrameNumber _ inside, same i inside]
      simp [inside]
    · rw [getLsbD_getFrameNumber_beyond _ (by omega)]
      simp [inside]

end Bits

/-- The constructor shifts the continue bit above the seven bits. -/
theorem getLsbD_construct
    {i : Nat}
    (inside : i < 7)
    (msgType : MsgType)
    (frameNumber : FrameNumber)
    (continueBit : ContinueBit)
    (crc : Crc)
    (size : DataBufferSize) :
    (construct msgType frameNumber continueBit crc size).blockMetadata.getLsbD
        i = frameNumber.getLsbD i := by
  have shifted : ∀ i < 7,
      (continueBit.toByte <<< msbPos).getLsbD i = false := by
    cases continueBit with
    | terminateTransfer => decide
    | continueTransfer => decide
  rw [construct, BitVec.getLsbD_or, shifted i inside, Bool.false_or]

/-- The constructor joins the bit to a number of eight bits. -/
theorem getContinueBit_construct_iff
    (msgType : MsgType)
    (frameNumber : FrameNumber)
    (continueBit : ContinueBit)
    (crc : Crc)
    (size : DataBufferSize) :
    (construct msgType frameNumber continueBit crc size).getContinueBit =
        continueBit ↔
      frameNumber < 128#8 ∨ continueBit = .continueTransfer := by
  have bits : ∀ number : BitVec 8,
      ((ContinueBit.terminateTransfer.toByte <<< msbPos ||| number) >>> msbPos =
          0#8 ↔ number < 128#8) ∧
      (ContinueBit.continueTransfer.toByte <<< msbPos ||| number) >>> msbPos ≠
        0#8 := by
    decide +kernel
  obtain ⟨terminated, continued⟩ := bits frameNumber
  cases continueBit with
  | terminateTransfer =>
      by_cases small : frameNumber < 128#8
      · have cleared := terminated.2 small
        simp only [getContinueBit, construct, cleared, ne_eq,
          not_true_eq_false, if_false, small, true_or]
      · have set := mt terminated.1 small
        simp only [getContinueBit, construct, set, ne_eq, not_false_eq_true,
          if_true, small, false_or, reduceCtorEq]
  | continueTransfer =>
      simp only [getContinueBit, construct, ne_eq, continued,
        not_false_eq_true, if_true, or_true]

/-- What a constructor makes of its arguments. -/
theorem Constructed.metadata
    {header : BlockHeader}
    {fields : MetadataFields}
    (constructed : Constructed header fields) :
    (∀ i < 7,
      header.blockMetadata.getLsbD i = fields.frameNumber.getLsbD i) ∧
    (header.getContinueBit = fields.continueBit ↔
      fields.frameNumber < 128#8 ∨ fields.continueBit = .continueTransfer) := by
  cases constructed with
  | plain =>
      refine ⟨fun _ _ => rfl, ?_⟩
      decide
  | fields msgType fields crc size =>
      exact ⟨fun i inside => getLsbD_construct inside ..,
        getContinueBit_construct_iff ..⟩

/-! ## Sequences of calls -/

section Calls

variable (header : BlockHeader) (fields : MetadataFields)

@[simp] theorem setAll_cons (call : MetadataCall) (calls : List MetadataCall) :
    header.setAll (call :: calls) = (header.set call).setAll calls := rfl

/-- The frame numbers are joined. -/
theorem getLsbD_setAll
    {i : Nat}
    (inside : i < 7)
    (calls : List MetadataCall) :
    (header.setAll calls).blockMetadata.getLsbD i =
      (header.blockMetadata.getLsbD i ||
        (calls.filterMap MetadataCall.frameNumber?).any
          fun frameNumber => frameNumber.getLsbD i) := by
  induction calls generalizing header with
  | nil => simp [setAll]
  | cons call calls inductionHypothesis =>
      rw [setAll_cons, inductionHypothesis]
      cases call with
      | setFrameNumber frameNumber =>
          simp [set, getLsbD_setFrameNumber _ inside,
            MetadataCall.frameNumber?, Bool.or_assoc]
      | setContinueBit continueBit =>
          simp [set, getLsbD_setContinueBit _ inside,
            MetadataCall.frameNumber?]

/-- The continue bit is right as soon as it is set once. -/
theorem getContinueBit_setAll_iff (calls : List MetadataCall) :
    (header.setAll calls).getContinueBit =
        (fields.setAll calls).continueBit ↔
      header.getContinueBit = fields.continueBit ∨
        ∃ continueBit, .setContinueBit continueBit ∈ calls := by
  induction calls generalizing header fields with
  | nil => simp [setAll, MetadataFields.setAll]
  | cons call calls inductionHypothesis =>
      have rest := inductionHypothesis (header.set call) (fields.set call)
      rw [setAll_cons]
      apply rest.trans
      cases call with
      | setFrameNumber frameNumber =>
          simp [set, MetadataFields.set, MetadataCall.continueBit?]
      | setContinueBit continueBit =>
          simp [set, MetadataFields.set, MetadataCall.continueBit?]

end Calls

end BlockHeader

/-- The last frame number is one of those that were given. -/
theorem MetadataFields.frameNumber_setAll_mem
    (fields : MetadataFields)
    (calls : List MetadataCall) :
    (fields.setAll calls).frameNumber ∈ fields.numbers calls := by
  induction calls generalizing fields with
  | nil => exact List.mem_cons_self
  | cons call calls inductionHypothesis =>
      have given := inductionHypothesis (fields.set call)
      cases call with
      | setFrameNumber frameNumber => exact List.mem_cons_of_mem _ given
      | setContinueBit continueBit => exact given

/-- The serialized packet starts with its header. -/
theorem BlockTxRxPacket.bytes_serialize
    (packet : BlockTxRxPacket)
    (beyond memory : View)
    (address : Nat)
    {len : Nat}
    (fits : packet.getPacketSize ≤ len) :
    (packet.serialize beyond memory (some address) len).2.bytes address 5 =
      packet.header.typeByte (memory address) :: packet.header.fieldBytes := by
  by_cases payload : 0#8 < packet.header.dataBufferSize
  · rw [packet.serialize_of_payload beyond memory address len payload fits]
    have whole := View.bytes_write memory address
      (packet.image beyond (memory address))
    rw [packet.length_image, getPacketSize, View.bytes_add] at whole
    have image_eq : packet.image beyond (memory address) =
        (packet.header.typeByte (memory address) ::
            packet.header.fieldBytes) ++
          packet.copiedFromBuffer beyond packet.header.dataBufferSize.toNat :=
      rfl
    exact (List.append_inj (whole.trans image_eq) (by simp)).1
  · have empty : packet.header.dataBufferSize = 0#8 := by
      simpa [BitVec.pos_iff_ne_zero] using payload
    simp only [serialize, if_neg (Nat.not_lt.mpr fits),
      BlockHeader.writeAll_writers, empty, BitVec.toNat_zero, Nat.lt_irrefl,
      if_false]
    simpa using View.bytes_write memory address
      (packet.header.typeByte (memory address) :: packet.header.fieldBytes)

namespace BlockHeader

/-- The encoding of a packet carries what its header carries. -/
theorem carriesEncoded_iff (header : BlockHeader) (fields : MetadataFields) :
    header.CarriesEncoded fields ↔ header.Carries fields := by
  constructor
  · exact And.left
  · intro carries
    refine ⟨carries, ?_⟩
    rintro packet beyond memory address len rfl fits
    rw [decode_of_bytes (packet.bytes_serialize beyond memory address fits)]
    exact carries

/-- The header and every encoding carry the fields that were set last exactly
when no earlier number and no constructor argument disturbs them. -/
theorem carries_last_iff
    {header : BlockHeader}
    {fields : MetadataFields}
    (constructed : Constructed header fields)
    (calls : List MetadataCall) :
    (header.setAll calls).CarriesEncoded (fields.setAll calls) ↔
      fields.Undisturbed calls := by
  obtain ⟨low, top⟩ := constructed.metadata
  rw [carriesEncoded_iff]
  apply and_congr
  · rw [getFrameNumber_toNat_iff]
    have joined : ∀ i < 7,
        (header.setAll calls).blockMetadata.getLsbD i =
          (fields.numbers calls).any fun number => number.getLsbD i := by
      intro i inside
      rw [getLsbD_setAll _ inside, low i inside]
      rfl
    constructor
    · intro same earlier given i inside bit
      rw [← same i inside, joined i inside, List.any_eq_true]
      exact ⟨earlier, given, bit⟩
    · intro covers i inside
      rw [joined i inside, Bool.eq_iff_iff, List.any_eq_true]
      constructor
      · rintro ⟨earlier, given, bit⟩
        exact covers earlier given i inside bit
      · intro bit
        exact ⟨_, fields.frameNumber_setAll_mem calls, bit⟩
  · rw [getContinueBit_setAll_iff, top, or_assoc]

/-- Frame number 1 set again to 2 reads as 3. -/
theorem number_set_again_example :
    ¬(BlockHeader.setAll {}
        [.setFrameNumber 1, .setFrameNumber 2]).CarriesEncoded
      (MetadataFields.setAll {} [.setFrameNumber 1, .setFrameNumber 2]) := by
  rintro ⟨⟨number, -⟩, -⟩
  exact absurd number (by decide)

/-- Numbers that only gain bits are read back. -/
theorem numbers_gaining_bits_example :
    (BlockHeader.setAll {}
        [.setFrameNumber 1, .setFrameNumber 3]).CarriesEncoded
      (MetadataFields.setAll {} [.setFrameNumber 1, .setFrameNumber 3]) := by
  refine (carries_last_iff .plain _).2 ⟨by decide, .inl (by decide)⟩

end BlockHeader

/-- `setHeader` sets a block packet's number and bit by the same two calls. -/
theorem BlockTxRxPacket.blockMetadata_setHeader
    (packet : BlockTxRxPacket)
    (msgType : MsgType)
    (frameNumber : FrameNumber)
    (continueBit : ContinueBit)
    (crc : Crc)
    (bufferSize : DataBufferSize) :
    (packet.setHeader msgType frameNumber continueBit crc
        bufferSize).header.blockMetadata =
      (packet.header.setAll [.setFrameNumber frameNumber,
        .setContinueBit continueBit]).blockMetadata := rfl

end DataDumpProtocol

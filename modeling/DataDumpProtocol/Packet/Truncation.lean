import DataDumpProtocol.Packet.BlockPacket
import DataDumpProtocol.Packet.TransactionPacket

/-!
# Deserializing truncated frames

Both `deserialize` functions ignore their length argument.  They read the whole
header, and as many bytes behind it as its size field declares.  So they stay
within the length exactly when that much of the frame is there.
-/

namespace DataDumpProtocol

open LittleEndian

attribute [ext] TransactionPacket BlockTxRxPacket

/-! ## The length argument -/

/-- The bytes at index `len` and beyond make no difference to `deserialize`,
and success means that the header and the declared payload lie before them. -/
def StaysWithin
    {Packet : Type}
    (deserialize : Packet → View → Option Nat → Nat → Bool × Packet)
    (headerSize sizeOffset : Nat)
    (packet : Packet)
    (memory : View)
    (ptr : Option Nat)
    (len : Nat) : Prop :=
  (∀ memory' : View,
    (∀ address ∈ ptr, ∀ i < len,
      memory' (address + i) = memory (address + i)) →
    deserialize packet memory' ptr len = deserialize packet memory ptr len) ∧
  ((deserialize packet memory ptr len).1 = true →
    ∀ address ∈ ptr,
      headerSize + (memory (address + sizeOffset)).toNat ≤ len)

section StaysWithin

variable {Packet : Type}
variable {deserialize : Packet → View → Option Nat → Nat → Bool × Packet}
variable {headerSize sizeOffset : Nat}
variable {packet : Packet} {len : Nat}

/-- A `deserialize` that reads as much as the frame declares, and reports
whether it declares a payload, stays within the length exactly when that much
is there. -/
theorem staysWithin_iff
    (sizeLast : headerSize = sizeOffset + 1)
    (null : ∀ memory, deserialize packet memory none len = (false, packet))
    (positive : ∀ memory address,
      (deserialize packet memory (some address) len).1 =
        decide (0 < (memory (address + sizeOffset)).toNat))
    (reads : ∀ (memory memory' : View) (address : Nat),
      (∀ i < headerSize + (memory (address + sizeOffset)).toNat,
        memory' (address + i) = memory (address + i)) →
      deserialize packet memory' (some address) len =
        deserialize packet memory (some address) len)
    (memory : View)
    (ptr : Option Nat) :
    StaysWithin deserialize headerSize sizeOffset packet memory ptr len ↔
      ∀ address ∈ ptr,
        headerSize + (memory (address + sizeOffset)).toNat ≤ len := by
  cases ptr with
  | none => simp [StaysWithin, null]
  | some address =>
      simp only [StaysWithin, Option.mem_def, Option.some.injEq, forall_eq']
      constructor
      · rintro ⟨same, bounded⟩
        by_cases declared : 0 < (memory (address + sizeOffset)).toNat
        · exact bounded (by simp [positive, declared])
        · by_contra short
          -- The size field lies behind `len`, and another value would count.
          have other := same (memory.write (address + sizeOffset) [1#8])
            fun i inside => View.write_of_outside memory (by simp; omega)
          have first := congrArg Prod.fst other
          have written : memory.write (address + sizeOffset) [1#8]
              (address + sizeOffset + 0) = [1#8][0] :=
            View.write_of_inside memory (by simp)
          rw [Nat.add_zero] at written
          simp [positive, written, declared] at first
      · intro bounded
        exact ⟨fun memory' agree => reads memory memory' address fun i inside =>
          agree i (by omega), fun _ => bounded⟩

end StaysWithin

/-! ## Both packet classes -/

theorem TranscationHeader.decode_congr
    {memory memory' : View}
    {address : Nat}
    (agree : ∀ i < 11, memory' (address + i) = memory (address + i)) :
    decode memory' address = decode memory address := by
  have field := fromBytes_congr_of_agree agree
  have type := agree 0 (by omega)
  rw [Nat.add_zero] at type
  simp only [decode, type, field 32 1 4, field 8 5 1, field 8 6 1, field 8 7 1,
    field 16 8 2, field 8 10 1, Nat.reduceAdd, Nat.reduceLeDiff]

theorem TranscationHeader.dataBufferSize_decode
    (memory : View)
    (address : Nat) :
    (decode memory address).dataBufferSize = memory (address + 10) := by
  simp [decode, fromBytes]

theorem BlockHeader.decode_congr
    {memory memory' : View}
    {address : Nat}
    (agree : ∀ i < 5, memory' (address + i) = memory (address + i)) :
    decode memory' address = decode memory address := by
  have field := fromBytes_congr_of_agree agree
  have type := agree 0 (by omega)
  rw [Nat.add_zero] at type
  simp only [decode, type, field 8 1 1, field 16 2 2, field 8 4 1,
    Nat.reduceAdd, Nat.reduceLeDiff]

theorem BlockHeader.dataBufferSize_decode
    (memory : View)
    (address : Nat) :
    (decode memory address).dataBufferSize = memory (address + 4) := by
  simp [decode, fromBytes]

/-- `deserialize` reads the header and the declared payload. -/
theorem TransactionPacket.deserialize_congr
    (packet : TransactionPacket)
    {memory memory' : View}
    {address : Nat}
    (len : Nat)
    (agree : ∀ i < 11 + (memory (address + 10)).toNat,
      memory' (address + i) = memory (address + i)) :
    packet.deserialize memory' (some address) len =
      packet.deserialize memory (some address) len := by
  have header : TranscationHeader.decode memory' address =
      .decode memory address :=
    TranscationHeader.decode_congr fun i inside => agree i (by omega)
  have payload : memory'.bytes (address + 11) (memory (address + 10)).toNat =
      memory.bytes (address + 11) (memory (address + 10)).toNat := by
    apply View.bytes_congr
    intro i inside
    rw [Nat.add_assoc]
    exact agree (11 + i) (by omega)
  apply Prod.ext
  · rw [deserialize_fst, deserialize_fst, header]
  · apply TransactionPacket.ext
    · rw [deserialize_header, deserialize_header, header]
    · rw [deserialize_buffer, deserialize_buffer, header,
        TranscationHeader.dataBufferSize_decode, payload]

theorem BlockTxRxPacket.deserialize_congr
    (packet : BlockTxRxPacket)
    {memory memory' : View}
    {address : Nat}
    (len : Nat)
    (agree : ∀ i < 5 + (memory (address + 4)).toNat,
      memory' (address + i) = memory (address + i)) :
    packet.deserialize memory' (some address) len =
      packet.deserialize memory (some address) len := by
  have header : BlockHeader.decode memory' address = .decode memory address :=
    BlockHeader.decode_congr fun i inside => agree i (by omega)
  have payload : memory'.bytes (address + 5) (memory (address + 4)).toNat =
      memory.bytes (address + 5) (memory (address + 4)).toNat := by
    apply View.bytes_congr
    intro i inside
    rw [Nat.add_assoc]
    exact agree (5 + i) (by omega)
  apply Prod.ext
  · rw [deserialize_fst, deserialize_fst, header]
  · apply BlockTxRxPacket.ext
    · rw [deserialize_header, deserialize_header, header]
    · rw [deserialize_buffer, deserialize_buffer, header,
        BlockHeader.dataBufferSize_decode, payload]

/-- Both `deserialize` functions stay within the length they are given exactly
when the header and the declared payload do. -/
theorem deserialize_staysWithin_iff
    (memory : View)
    (ptr : Option Nat)
    (len : Nat) :
    (∀ packet : TransactionPacket,
      StaysWithin TransactionPacket.deserialize 11 10 packet memory ptr len ↔
        ∀ address ∈ ptr, 11 + (memory (address + 10)).toNat ≤ len) ∧
    (∀ packet : BlockTxRxPacket,
      StaysWithin BlockTxRxPacket.deserialize 5 4 packet memory ptr len ↔
        ∀ address ∈ ptr, 5 + (memory (address + 4)).toNat ≤ len) := by
  constructor
  · intro packet
    refine staysWithin_iff rfl (fun _ => rfl) (fun memory address => ?_)
      (fun _ _ _ agree => packet.deserialize_congr len agree) memory ptr
    rw [packet.deserialize_fst, TranscationHeader.dataBufferSize_decode]
    rfl
  · intro packet
    refine staysWithin_iff rfl (fun _ => rfl) (fun memory address => ?_)
      (fun _ _ _ agree => packet.deserialize_congr len agree) memory ptr
    rw [packet.deserialize_fst, BlockHeader.dataBufferSize_decode]
    rfl

/-- A frame of four bytes is read beyond its end: the size field behind it
decides what is returned. -/
theorem deserialize_beyond_example :
    ¬StaysWithin BlockTxRxPacket.deserialize 5 4 {}
      (View.ofList [4, 1, 0, 0] fun _ => 7) (some 0) 4 := by
  rintro ⟨-, bounded⟩
  exact absurd (bounded (by decide) 0 rfl) (by decide)

end DataDumpProtocol

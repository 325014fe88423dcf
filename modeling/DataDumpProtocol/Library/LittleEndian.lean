import Mathlib.Data.BitVec

/-!
# Little-endian words

A word of any width is written as bytes by masking and shifting, and read back
by shifting each byte to its place and joining the results.  The two loops are
inverse to each other on the bytes they cover, and the reading loop depends on
no other byte.
-/

namespace LittleEndian

/-- Join `size` bytes into a word, the first byte lowest. -/
def fromBytes (width size : Nat) (bytes : Nat → BitVec 8) : BitVec width :=
  (List.range size).foldl
    (fun value i => value ||| (bytes i).setWidth width <<< (i * 8)) 0

/-- Byte `i` of a word. -/
def toByte (value : BitVec width) (i : Nat) : BitVec 8 :=
  ((value &&& BitVec.ofNat width 255 <<< (i * 8)) >>> (i * 8)).setWidth 8

/-- The first `size` bytes of a word, lowest first. -/
def toBytes (size : Nat) (value : BitVec width) : List (BitVec 8) :=
  (List.range size).map (toByte value)

@[simp] theorem length_toBytes (size : Nat) (value : BitVec width) :
    (toBytes size value).length = size := by
  simp [toBytes]

@[simp] theorem getElem_toBytes
    (size : Nat)
    (value : BitVec width)
    (i : Nat)
    (inside : i < (toBytes size value).length) :
    (toBytes size value)[i] = toByte value i := by
  simp [toBytes]

/-- A bit of a joined word is a bit of the byte that covers its position. -/
theorem getLsbD_fromBytes
    (width size : Nat)
    (bytes : Nat → BitVec 8)
    (j : Nat) :
    (fromBytes width size bytes).getLsbD j =
      (decide (j < width) && decide (j < size * 8) &&
        (bytes (j / 8)).getLsbD (j % 8)) := by
  unfold fromBytes
  induction size with
  | zero => simp
  | succ size inductionHypothesis =>
      rw [List.range_succ, List.foldl_append]
      simp only [List.foldl_cons, List.foldl_nil, BitVec.getLsbD_or,
        inductionHypothesis, BitVec.getLsbD_shiftLeft, BitVec.getLsbD_setWidth]
      by_cases inWord : j < width
      · by_cases covered : j < size * 8
        · simp [inWord, covered, show j < (size + 1) * 8 by omega]
        · by_cases last : j < (size + 1) * 8
          · have quotient : j / 8 = size := by omega
            have remainder : j - size * 8 = j % 8 := by omega
            simp [inWord, covered, last, quotient, remainder,
              show j % 8 < width by omega]
          · have beyond : (bytes size).getLsbD (j - size * 8) = false :=
              BitVec.getLsbD_of_ge _ _ (by omega)
            simp [covered, last, beyond]
      · simp [inWord]

/-- A bit of byte `i` is the bit of the word `i` bytes further up. -/
theorem getLsbD_toByte (value : BitVec width) (i k : Nat) :
    (toByte value i).getLsbD k =
      (decide (k < 8) && value.getLsbD (i * 8 + k)) := by
  unfold toByte
  simp only [BitVec.getLsbD_setWidth, BitVec.getLsbD_ushiftRight,
    BitVec.getLsbD_and, BitVec.getLsbD_shiftLeft]
  by_cases inByte : k < 8
  · by_cases inWord : i * 8 + k < width
    · have maskBit : (BitVec.ofNat width 255).getLsbD k = true := by
        rw [BitVec.getLsbD_ofNat, show 255 = 2 ^ 8 - 1 by rfl,
          Nat.testBit_two_pow_sub_one]
        simp [inByte, show k < width by omega]
      simp [inByte, inWord, maskBit]
    · simp [BitVec.getLsbD_of_ge value _ (Nat.le_of_not_lt inWord)]
  · simp [inByte]

/-- Reading the bytes of a word gives the word back. -/
theorem fromBytes_toByte
    (value : BitVec width)
    (covered : width ≤ size * 8) :
    fromBytes width size (toByte value) = value := by
  apply BitVec.eq_of_getLsbD_eq
  intro j inWord
  rw [getLsbD_fromBytes, getLsbD_toByte]
  have position : j / 8 * 8 + j % 8 = j := by omega
  simp [inWord, position, show j < size * 8 by omega,
    show j % 8 < 8 by omega]

/-- Writing a word read from bytes gives those bytes back. -/
theorem toByte_fromBytes
    (bytes : Nat → BitVec 8)
    (i : Nat)
    (read : i < size)
    (fits : size * 8 ≤ width) :
    toByte (fromBytes width size bytes) i = bytes i := by
  apply BitVec.eq_of_getLsbD_eq
  intro k inByte
  rw [getLsbD_toByte, getLsbD_fromBytes]
  have quotient : (i * 8 + k) / 8 = i := by omega
  have remainder : (i * 8 + k) % 8 = k := by omega
  simp [inByte, quotient, remainder, show i * 8 + k < width by omega,
    show i * 8 + k < size * 8 by omega]

/-- Writing a word read from bytes gives those bytes back, in order. -/
theorem toBytes_fromBytes
    (bytes : Nat → BitVec 8)
    (fits : size * 8 ≤ width) :
    toBytes size (fromBytes width size bytes) =
      (List.range size).map bytes := by
  apply List.map_congr_left
  intro i inside
  exact toByte_fromBytes bytes i (List.mem_range.mp inside) fits

/-- Only the bytes read matter. -/
theorem fromBytes_congr
    {bytes bytes' : Nat → BitVec 8}
    (agree : ∀ i, i < size → bytes i = bytes' i) :
    fromBytes width size bytes = fromBytes width size bytes' := by
  apply BitVec.eq_of_getLsbD_eq
  intro j _
  rw [getLsbD_fromBytes, getLsbD_fromBytes]
  by_cases covered : j < size * 8
  · rw [agree (j / 8) (by omega)]
  · simp [covered]

/-- Only the bytes read matter, wherever they stand in a memory. -/
theorem fromBytes_congr_of_agree
    {memory memory' : Nat → BitVec 8}
    {address length : Nat}
    (agree : ∀ i < length, memory' (address + i) = memory (address + i))
    (width offset size : Nat)
    (inside : offset + size ≤ length) :
    fromBytes width size (fun i => memory' (address + offset + i)) =
      fromBytes width size fun i => memory (address + offset + i) := by
  apply fromBytes_congr
  intro i read
  rw [Nat.add_assoc]
  exact agree (offset + i) (by omega)

/-- A word is known by the bytes that cover it. -/
theorem toBytes_injective (covered : width ≤ size * 8) :
    Function.Injective (@toBytes width size) := by
  intro left right same
  have agree : ∀ i, i < size → toByte left i = toByte right i := by
    intro i inside
    have entry := congrArg (fun bytes => bytes[i]?) same
    simpa [toBytes, inside] using entry
  rw [← fromBytes_toByte left covered, ← fromBytes_toByte right covered]
  exact fromBytes_congr agree

/-- A word is zero exactly when every byte it is read from is zero. -/
theorem fromBytes_eq_zero_iff
    (bytes : Nat → BitVec 8)
    (fits : size * 8 ≤ width) :
    fromBytes width size bytes = 0 ↔ ∀ i, i < size → bytes i = 0 := by
  constructor
  · intro zero i read
    rw [← toByte_fromBytes bytes i read fits, zero]
    apply BitVec.eq_of_getLsbD_eq
    intro k _
    simp [getLsbD_toByte]
  · intro zeros
    apply BitVec.eq_of_getLsbD_eq
    intro j _
    rw [getLsbD_fromBytes]
    by_cases covered : j < size * 8
    · rw [zeros (j / 8) (by omega)]
      simp
    · simp [covered]

end LittleEndian

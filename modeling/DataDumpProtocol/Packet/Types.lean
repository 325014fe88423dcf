import Mathlib.Data.List.GetD
import Mathlib.Data.BitVec
import DataDumpProtocol.Library.LittleEndian

/-!
# Wire vocabulary

The message types, the widths of the header fields and the byte memory that
packets are written to and read from.  A pointer is an address in such a
memory, and `none` stands for `NULL`.
-/

namespace DataDumpProtocol

/-- The `uint8_t` of the source. -/
abbrev Byte := BitVec 8

/-- `msgType_e`. -/
inductive MsgType
  | unassigned
  | request
  | response
  | initiateBlockTransfer
  | blockTransfer
  | blockAck
  | blockAckNot
  deriving DecidableEq

/-- The enumerator's value, as the casts to `uint8_t` read it. -/
def MsgType.toByte : MsgType → Byte
  | .unassigned => 0
  | .request => 1
  | .response => 2
  | .initiateBlockTransfer => 3
  | .blockTransfer => 4
  | .blockAck => 5
  | .blockAckNot => 6

/-- The `switch` shared by both `bytes_to_MsgType` functions. -/
def MsgType.ofByte (value : Byte) : MsgType :=
  if value = 1 then .request
  else if value = 2 then .response
  else if value = 3 then .initiateBlockTransfer
  else if value = 4 then .blockTransfer
  else if value = 5 then .blockAck
  else if value = 6 then .blockAckNot
  else .unassigned

@[simp] theorem MsgType.ofByte_toByte (msgType : MsgType) :
    MsgType.ofByte msgType.toByte = msgType := by
  cases msgType <;> rfl

theorem MsgType.toByte_injective : Function.Injective MsgType.toByte :=
  Function.LeftInverse.injective MsgType.ofByte_toByte

@[simp] theorem MsgType.toByte_inj {left right : MsgType} :
    left.toByte = right.toByte ↔ left = right :=
  MsgType.toByte_injective.eq_iff

/-- `continueBit_e`. -/
inductive ContinueBit
  | terminateTransfer
  | continueTransfer
  deriving DecidableEq

/-- The enumerator's value. -/
def ContinueBit.toByte : ContinueBit → Byte
  | .terminateTransfer => 0
  | .continueTransfer => 1

/-- `transactionID_t`. -/
abbrev TransactionId := BitVec 32

/-- `blocksPerTransaction_t`. -/
abbrev BlocksPerTransaction := BitVec 8

/-- `maxBlockPerTrasactionLimit`. -/
def maxBlockPerTrasactionLimit : BlocksPerTransaction := 127

/-- `minBlockPerTrasactionLimit`. -/
def minBlockPerTrasactionLimit : BlocksPerTransaction := 1

/-- `maxPacketLen_t`, in bytes. -/
abbrev MaxPacketLen := BitVec 8

/-- `ACKTimeout_t`. -/
abbrev AckTimeout := BitVec 8

/-- `crc_t`. -/
abbrev Crc := BitVec 16

/-- `blockMetaData_t`. -/
abbrev BlockMetaData := BitVec 8

/-- `dataBufferSize_t`. -/
abbrev DataBufferSize := BitVec 8

/-- `frameNumber_t`. -/
abbrev FrameNumber := BitVec 8

/-- A byte memory. -/
abbrev View := Nat → Byte

namespace View

/-- The `length` bytes at `address`. -/
def bytes (memory : View) (address length : Nat) : List Byte :=
  (List.range length).map fun i => memory (address + i)

/-- Overwrite the memory at `address`. -/
def write (memory : View) (address : Nat) (contents : List Byte) : View :=
  fun i =>
    if address ≤ i then contents.getD (i - address) (memory i) else memory i

/-- A list laid out from address zero, with `beyond` behind it. -/
def ofList (contents : List Byte) (beyond : View) : View :=
  fun i => contents.getD i (beyond i)

@[simp] theorem length_bytes (memory : View) (address length : Nat) :
    (memory.bytes address length).length = length := by
  simp [bytes]

@[simp] theorem getElem_bytes
    (memory : View)
    (address length i : Nat)
    (inside : i < (memory.bytes address length).length) :
    (memory.bytes address length)[i] = memory (address + i) := by
  simp [bytes]

@[simp] theorem bytes_zero (memory : View) (address : Nat) :
    memory.bytes address 0 = [] := rfl

theorem bytes_congr
    {memory memory' : View}
    {address address' length : Nat}
    (agree : ∀ i, i < length → memory (address + i) = memory' (address' + i)) :
    memory.bytes address length = memory'.bytes address' length := by
  apply List.ext_getElem
  · simp
  · intro i inside _
    simpa using agree i (by simpa using inside)

theorem bytes_add (memory : View) (address left right : Nat) :
    memory.bytes address (left + right) =
      memory.bytes address left ++ memory.bytes (address + left) right := by
  simp [bytes, List.range_add, Nat.add_assoc, Function.comp_def]

/-- A list read back from where it was laid out. -/
theorem bytes_ofList
    (contents : List Byte)
    (beyond : View)
    (start length : Nat)
    (inside : start + length ≤ contents.length) :
    (ofList contents beyond).bytes start length =
      (contents.drop start).take length := by
  apply List.ext_getElem
  · simp
    omega
  · intro i present _
    have bound : start + i < contents.length := by
      simp at present
      omega
    simp [ofList, bound]

theorem ofList_of_lt
    {contents : List Byte}
    (beyond : View)
    {i : Nat}
    (inside : i < contents.length) :
    ofList contents beyond i = contents[i] :=
  List.getD_eq_getElem _ _ inside

/-- Bytes outside a write are unchanged. -/
theorem write_of_outside
    (memory : View)
    {address i : Nat}
    {contents : List Byte}
    (outside : i < address ∨ address + contents.length ≤ i) :
    memory.write address contents i = memory i := by
  unfold write
  split
  · rw [List.getD_eq_default]
    omega
  · rfl

/-- Bytes inside a write are the ones written. -/
theorem write_of_inside
    (memory : View)
    {address i : Nat}
    {contents : List Byte}
    (inside : i < contents.length) :
    memory.write address contents (address + i) = contents[i] := by
  simp [write, inside]

/-- Writing the byte that is already there changes nothing. -/
theorem write_self (memory : View) (address : Nat) :
    memory.write address [memory address] = memory := by
  funext i
  by_cases same : i = address
  · subst same
    exact write_of_inside memory (i := 0) (by simp)
  · exact write_of_outside memory (by simp; omega)

/-- What was written can be read back. -/
@[simp] theorem bytes_write
    (memory : View)
    (address : Nat)
    (contents : List Byte) :
    (memory.write address contents).bytes address contents.length =
      contents := by
  apply List.ext_getElem
  · simp
  · intro i _ inside
    simp [write_of_inside memory inside]

/-- What stands behind a write is still there. -/
theorem bytes_write_append
    (memory : View)
    (address : Nat)
    (contents : List Byte)
    (length : Nat) :
    (memory.write address contents).bytes address
        (contents.length + length) =
      contents ++ memory.bytes (address + contents.length) length := by
  rw [bytes_add, bytes_write]
  congr 1
  apply bytes_congr
  intro i _
  exact write_of_outside memory (by omega)

/-- Writing two adjacent pieces is writing their concatenation. -/
theorem write_write_adjacent
    (memory : View)
    (address : Nat)
    (first second : List Byte) :
    (memory.write address first).write (address + first.length) second =
      memory.write address (first ++ second) := by
  funext i
  by_cases below : i < address
  · rw [write_of_outside _ (by omega), write_of_outside _ (by omega),
      write_of_outside _ (by omega)]
  · obtain ⟨k, rfl⟩ := Nat.exists_eq_add_of_le (Nat.le_of_not_lt below)
    by_cases inFirst : k < first.length
    · rw [write_of_outside _ (by omega), write_of_inside _ inFirst,
        write_of_inside _ (by simp; omega), List.getElem_append_left]
    · obtain ⟨j, rfl⟩ := Nat.exists_eq_add_of_le (Nat.le_of_not_lt inFirst)
      by_cases inSecond : j < second.length
      · rw [← Nat.add_assoc, write_of_inside _ inSecond, Nat.add_assoc,
          write_of_inside _ (by simp; omega),
          List.getElem_append_right (by omega)]
        simp
      · rw [write_of_outside _ (by omega), write_of_outside _ (by omega),
          write_of_outside _ (by simp; omega)]

end View

end DataDumpProtocol

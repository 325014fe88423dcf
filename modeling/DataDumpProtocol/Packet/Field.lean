import DataDumpProtocol.Packet.Types

/-!
# Header field conversions

Both header classes convert their fields with one pair of loops.  A conversion
checks the length it is given and the pointer, and reports whether it did
anything.  `writeAll` is the chain of conversions in the two `serialize`
functions: it stops at the first one that reports failure.
-/

namespace DataDumpProtocol

open LittleEndian

/-- The shape of every `bytes_to_…` and `byte_to_…` function. -/
def readField
    {Header : Type}
    (size : Nat)
    (header : Header)
    (store : BitVec width → Header)
    (memory : View)
    (ptr : Option Nat)
    (len : Nat) : Bool × Header :=
  match ptr with
  | some address =>
      if size ≤ len then
        (true, store (fromBytes width size fun i => memory (address + i)))
      else
        (false, header)
  | none => (false, header)

/-- A `…_to_Bytes` function, once its header is fixed. -/
abbrev FieldWriter := View → Option Nat → Nat → Bool × View

/-- The shape of every `…_to_Bytes` function but the message type's. -/
def writeField (size : Nat) (value : BitVec width) : FieldWriter :=
  fun memory ptr len =>
    match ptr with
    | some address =>
        if size ≤ len then
          (true, memory.write address (toBytes size value))
        else
          (false, memory)
    | none => (false, memory)

/-- Run field writers one behind the other, each with its `sizeof`. -/
def writeAll : List (Nat × FieldWriter) → View → Nat → Bool × View
  | [], memory, _ => (true, memory)
  | (size, write) :: rest, memory, address =>
      match write memory (some address) size with
      | (false, memory) => (false, memory)
      | (true, memory) => writeAll rest memory (address + size)

@[simp] theorem readField_some
    {Header : Type}
    (size : Nat)
    (header : Header)
    (store : BitVec width → Header)
    (memory : View)
    (address : Nat) :
    readField size header store memory (some address) size =
      (true, store (fromBytes width size fun i => memory (address + i))) := by
  simp [readField]

@[simp] theorem writeField_some
    (size : Nat)
    (value : BitVec width)
    (memory : View)
    (address : Nat) :
    writeField size value memory (some address) size =
      (true, memory.write address (toBytes size value)) := by
  simp [writeField]

/-- A field written with its own size goes behind what is already there. -/
theorem writeAll_writeField
    (size : Nat)
    (value : BitVec width)
    (rest : List (Nat × FieldWriter))
    (memory : View)
    (address : Nat)
    (before : List Byte) :
    writeAll ((size, writeField size value) :: rest)
        (memory.write address before) (address + before.length) =
      writeAll rest (memory.write address (before ++ toBytes size value))
        (address + (before ++ toBytes size value).length) := by
  simp [writeAll, View.write_write_adjacent, Nat.add_assoc]

end DataDumpProtocol

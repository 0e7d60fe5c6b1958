/-
Binary forms. A form writes values as octets and reads them back from the front of an
octet string, leaving what follows. Lengths are written in one, two, four or five
octets, whichever is the least that holds them, and only that spelling is read.
-/

import SuperblockGovernance.Octets

namespace SuperblockGovernance.Wire

/-- How values of a type are written and read. -/
structure Form (α : Type) where
  write : α → Octets
  read : Octets → Option (α × Octets)

/-- The first `count` octets, and the rest. -/
def takeOctets (count : Nat) (octets : Octets) : Option (Octets × Octets) :=
  if count ≤ octets.length then some (octets.splitAt count) else none

namespace Form

variable {α β : Type}

/-! ### Combining forms -/

/-- Two values, one after the other. -/
def pair (first : Form α) (second : Form β) : Form (α × β) where
  write := fun (left, right) => first.write left ++ second.write right
  read := fun octets => do
    let (left, rest) ← first.read octets
    let (right, rest) ← second.read rest
    return ((left, right), rest)

/-- The form of values that correspond to others. -/
def map (form : Form α) (build : α → β) (parts : β → α) : Form β where
  write := fun value => form.write (parts value)
  read := fun octets => do
    let (value, rest) ← form.read octets
    return (build value, rest)

/-! ### Fixed sizes -/

/-- A number in `width` octets, least significant first. -/
def number (width : Nat) : Form Nat where
  write := Octets.littleEndian width
  read := fun octets => do
    let (digits, rest) ← takeOctets width octets
    return (Octets.ofLittleEndian digits, rest)

/-- A number of 32 bits, the lowest octet first. -/
def word32 : Form UInt32 :=
  (number 4).map UInt32.ofNat UInt32.toNat

/-- A number of 64 bits, the lowest octet first. -/
def word64 : Form UInt64 :=
  (number 8).map UInt64.ofNat UInt64.toNat

/-- One octet that selects among alternatives. -/
def choice (write : α → UInt8) (read : UInt8 → Option α) : Form α where
  write := fun value => [write value]
  read := fun
    | [] => none
    | octet :: rest => (read octet).map fun value => (value, rest)

/-! ### Lengths -/

/-- A number below `2 ^ 32` in the least number of octets. The two low bits of the first octet
say how many there are. -/
def writeLength (length : Nat) : Octets :=
  if length < 2 ^ 6 then Octets.littleEndian 1 (4 * length)
  else if length < 2 ^ 14 then Octets.littleEndian 2 (4 * length + 1)
  else if length < 2 ^ 30 then Octets.littleEndian 4 (4 * length + 2)
  else 3 :: Octets.littleEndian 4 length

/-- Reads a number of `width` octets whose two low bits are the mark, and refuses one that fewer
octets would hold. -/
def readMarked (width least : Nat) (octets : Octets) : Option (Nat × Octets) := do
  let (digits, rest) ← takeOctets width octets
  let length := Octets.ofLittleEndian digits / 4
  if least ≤ length then some (length, rest) else none

/-- Reads a length by the two lowest bits, which say how many octets it takes. -/
def readLength : Octets → Option (Nat × Octets)
  | [] => none
  | first :: rest =>
    match first.toNat % 4 with
    | 0 => readMarked 1 0 (first :: rest)
    | 1 => readMarked 2 (2 ^ 6) (first :: rest)
    | 2 => readMarked 4 (2 ^ 14) (first :: rest)
    | _ =>
      if first = 3 then do
        let (digits, rest) ← takeOctets 4 rest
        let length := Octets.ofLittleEndian digits
        if 2 ^ 30 ≤ length then some (length, rest) else none
      else none

/-- A length, in as few octets as hold it. -/
def length : Form Nat where
  write := writeLength
  read := readLength

/-! ### Strings and lists -/

/-- An octet string after its length. -/
def octets : Form Octets where
  write := fun value => writeLength value.length ++ value
  read := fun input => do
    let (count, rest) ← readLength input
    takeOctets count rest

/-- A text as its UTF-8 octets. -/
def text : Form String where
  write := fun value => octets.write (Octets.ofText value)
  read := fun input => do
    let (value, rest) ← octets.read input
    let value ← Octets.toText? value
    return (value, rest)

/-- That many values, one after the other. -/
def readMany (form : Form α) : Nat → Octets → Option (List α × Octets)
  | 0, input => some ([], input)
  | count + 1, input => do
    let (value, rest) ← form.read input
    let (values, rest) ← readMany form count rest
    return (value :: values, rest)

/-- A list after its length. -/
def list (form : Form α) : Form (List α) where
  write := fun values => writeLength values.length ++ values.flatMap form.write
  read := fun input => do
    let (count, rest) ← readLength input
    readMany form count rest

end Form

end SuperblockGovernance.Wire

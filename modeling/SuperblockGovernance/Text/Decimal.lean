/-
Decimal numerals. A natural number is written without leading zeros and read
from any non-empty run of digits; a sign may stand before the digits where a
field allows one. A numeral with a point counts units of a power of ten.
-/

import SuperblockGovernance.Naturals

namespace SuperblockGovernance.Decimal

/-! ### Whole numbers -/

/-- The digits of a number, most significant first. -/
def digits (number : Nat) : List Char :=
  Nat.toDigits 10 number

/-- The number that a list of digits denotes; the empty list denotes zero. -/
def value (numeral : List Char) : Nat :=
  Nat.ofDigitChars 10 numeral 0

/-- There are digits and nothing else. -/
def IsNumeral (numeral : List Char) : Prop :=
  numeral ≠ [] ∧ numeral.all Char.isDigit = true

instance (numeral : List Char) : Decidable (IsNumeral numeral) :=
  inferInstanceAs (Decidable (_ ∧ _))

/-- Reads one or more digits and nothing else. -/
def natural? (numeral : List Char) : Option Nat :=
  if IsNumeral numeral then some (value numeral) else none

/-- Reads digits that a plus sign may precede. -/
def unsigned? : List Char → Option Nat
  | '+' :: numeral => natural? numeral
  | numeral => natural? numeral

/-- Reads digits that a plus or a minus sign may precede. -/
def signed? : List Char → Option Int
  | '-' :: numeral => (natural? numeral).map fun magnitude => -(magnitude : Int)
  | numeral => (unsigned? numeral).map Int.ofNat

/-- A 32-bit number as fields carry it. -/
def word32? (numeral : List Char) : Option UInt32 := do
  let number ← unsigned? numeral
  if number < 2 ^ 32 then some (UInt32.ofNat number) else none

/-- A signed 8-bit number as fields carry it. -/
def small? (numeral : List Char) : Option Int8 := do
  let number ← signed? numeral
  if -128 ≤ number ∧ number ≤ 127 then some (Int8.ofInt number) else none

/-- The text of a signed number: a minus sign when it is negative, then digits. -/
def signedText (number : Int) : String :=
  match number with
  | .ofNat magnitude => String.ofList (digits magnitude)
  | .negSucc predecessor => String.ofList ('-' :: digits (predecessor + 1))

theorem value_digits (number : Nat) : value (digits number) = number :=
  Nat.ofDigitChars_toDigits (by decide) (by decide)

/-! ### Numbers with a point -/

/-- Digits filled up with zeros on the left to at least `width` of them. -/
def padLeft (width : Nat) (numeral : List Char) : List Char :=
  List.replicate (width - numeral.length) '0' ++ numeral

/-- The text of `number` units of `10 ^ -places`, with all its places written. -/
def pointed (places number : Nat) : List Char :=
  digits (number / 10 ^ places) ++ '.' :: padLeft places (digits (number % 10 ^ places))

/-- A numeral cut at its first point: the digits before it, and those after it if there is
one. -/
def cutAtPoint (text : List Char) : List Char × Option (List Char) :=
  match text.dropWhile (· ≠ '.') with
  | [] => (text, none)
  | _ :: fraction => (text.takeWhile (· ≠ '.'), some fraction)

/-- The number of units of `10 ^ -places` in a numeral with these digits before and after
the point, when there are no more than `places` after it. -/
def units (places : Nat) (whole fraction : List Char) : Nat :=
  value whole * 10 ^ places + value fraction * 10 ^ (places - fraction.length)

end SuperblockGovernance.Decimal

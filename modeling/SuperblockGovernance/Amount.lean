/-
Amounts of coin. An amount counts base units, of which a coin has ten to the eighth.
Contracts carry amounts with two decimals: writing rounds to the nearest cent with
halves going up, and reading takes up to eight decimals. Main definitions: `text`,
`ofText?`, and the texts `IsCanonical` that writing produces from whole cents.
-/

import SuperblockGovernance.Text.Decimal

namespace SuperblockGovernance

/-- A number of base units. -/
abbrev Amount := UInt64

/-- The number of a block. -/
abbrev Height := UInt32

/-- Seconds since the epoch. -/
abbrev Timestamp := UInt64

namespace Amount

/-- The base units in one coin. -/
def coin : Nat := 100000000

/-- The least amount that contract text can express. -/
def cent : Nat := 1000000

/-- The most decimals that reading accepts. -/
def decimals : Nat := 8

/-- An amount of whole coins. -/
def coins (count : Nat) : Amount :=
  UInt64.ofNat (count * coin)

/-- The number of cents nearest to an amount, halves up. -/
def nearestCents (amount : Amount) : Nat :=
  (amount.toNat + cent / 2) / cent

/-- The whole coins, a point and two digits of cents. -/
def text (amount : Amount) : String :=
  String.ofList (Decimal.pointed 2 (nearestCents amount))

/-- The base units in a text of digits, with one to eight more digits after a point if there
is one. -/
def unitsOfText? (text : List Char) : Option Nat :=
  match Decimal.cutAtPoint text with
  | (whole, none) =>
    if Decimal.IsNumeral whole then some (Decimal.units decimals whole []) else none
  | (whole, some fraction) =>
    if Decimal.IsNumeral whole ∧ Decimal.IsNumeral fraction ∧ fraction.length ≤ decimals then
      some (Decimal.units decimals whole fraction)
    else none

/-- Reads an amount that 64 bits can hold. -/
def ofText? (text : String) : Option Amount := do
  let units ← unitsOfText? text.toList
  if units < 2 ^ 64 then some (UInt64.ofNat units) else none

/-- The text is the one written for the amount that is read from it, a number of whole
cents. -/
def IsCanonical (text : String) : Prop :=
  ∃ amount, ofText? text = some amount ∧ amount.toNat % cent = 0 ∧ amount.text = text

/-- Decides `IsCanonical`. -/
def isCanonical (text : String) : Bool :=
  match ofText? text with
  | some amount => amount.toNat % cent == 0 && amount.text == text
  | none => false

theorem isCanonical_iff (text : String) : isCanonical text = true ↔ IsCanonical text := by
  unfold isCanonical IsCanonical
  cases ofText? text <;> simp

end Amount

end SuperblockGovernance

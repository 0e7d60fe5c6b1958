/-
Hexadecimal text: two digits for an octet, the high half first. Writing uses the
small letters; reading takes either case and names the first octet of the text
that is no digit.
-/

import SuperblockGovernance.Octets

namespace SuperblockGovernance.Hexadecimal

/-! ### Writing -/

/-- The digit for a number below sixteen. -/
def digit (value : Nat) : Char :=
  Nat.digitChar value

/-- Two digits for each octet, the higher one first. -/
def digits : Octets → List Char
  | [] => []
  | octet :: rest => digit (octet.toNat / 16) :: digit (octet.toNat % 16) :: digits rest

/-- The hexadecimal text of an octet string. -/
def encode (octets : Octets) : String :=
  String.ofList (digits octets)

/-! ### Reading -/

/-- Why a text is not hexadecimal. The length is judged before any digit. -/
inductive Fault
  | oddLength
  | invalidCharacter (octet : UInt8) (position : Nat)
  deriving DecidableEq, Repr

/-- The value of one digit, given as an octet of the text. -/
def digitValue? (octet : UInt8) : Option Nat :=
  let code := octet.toNat
  if 48 ≤ code ∧ code ≤ 57 then some (code - 48)
  else if 65 ≤ code ∧ code ≤ 70 then some (code - 55)
  else if 97 ≤ code ∧ code ≤ 102 then some (code - 87)
  else none

/-- The value of the digit at a position of the text. -/
def digitAt (octet : UInt8) (position : Nat) : Except Fault Nat :=
  match digitValue? octet with
  | some value => .ok value
  | none => .error (.invalidCharacter octet position)

/-- Reads the digit pairs of a text that starts at `position`. -/
def decodeFrom (position : Nat) : Octets → Except Fault Octets
  | [] => .ok []
  | [_] => .error .oddLength
  | high :: low :: rest => do
    let highValue ← digitAt high position
    let lowValue ← digitAt low (position + 1)
    let octets ← decodeFrom (position + 2) rest
    return UInt8.ofNat (16 * highValue + lowValue) :: octets

/-- The octet string that a hexadecimal text stands for. -/
def decode (text : Octets) : Except Fault Octets :=
  if text.length % 2 = 1 then .error .oddLength else decodeFrom 0 text

end SuperblockGovernance.Hexadecimal

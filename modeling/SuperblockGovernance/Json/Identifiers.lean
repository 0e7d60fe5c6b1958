/-
Hashes, payout addresses and identities as JSON documents of one string. Reading checks
what the string says, and writing gives the address or the marked digits of the identity.
-/

import SuperblockGovernance.Hash256
import SuperblockGovernance.Json.Value
import SuperblockGovernance.Json.Writer
import SuperblockGovernance.PayoutAddress

namespace SuperblockGovernance

/-! ### The digits of a hash -/

namespace Hash256

/-- What a character is among hexadecimal digits. -/
inductive HexStep
  | digit (value : Nat)
  | blank

/-- What one octet of the text means: a digit, or a blank that is passed over. -/
def hexStep? (octet : UInt8) : Option HexStep :=
  if octet = 32 ∨ octet = 13 ∨ octet = 10 ∨ octet = 9 then some .blank
  else (Hexadecimal.digitValue? octet).map .digit

/-- Pairs the digits up; a last digit without a partner is dropped. -/
def pairDigits : List Nat → Octets
  | high :: low :: rest => UInt8.ofNat (16 * high + low) :: pairDigits rest
  | _ => []

/-- Reads sixty-four octets of digits and blanks, after `0x` or without it. Octets that the
digits do not reach are zero. -/
def ofMarkedHex? (text : String) : Option Hash256 := do
  let octets := Octets.ofText text
  let body := ((Octets.ofText "0x").isPrefixOf? octets).getD octets
  if body.length ≠ 64 then none
  let steps ← body.mapM hexStep?
  let given := pairDigits (steps.filterMap fun
    | .digit value => some value
    | .blank => none)
  return ofOctets (given ++ List.replicate (32 - given.length) 0)

end Hash256

/-! ### Documents of one string -/

/-- The string that a document consists of. -/
def Json.stringOf? (document : String) : Option String :=
  (Json.Value.ofOctets? (Octets.ofText document)).bind Json.Value.text?

namespace PayoutAddress

/-- Reads an address from a document. -/
def ofJson? (document : String) : Option PayoutAddress :=
  (Json.stringOf? document).bind ofText?

/-- The document of an address. -/
def toJson (address : PayoutAddress) : String :=
  Json.literal address.text

end PayoutAddress

namespace Identity

/-- Reads an identity from a document. -/
def ofJson? (document : String) : Option Identity :=
  ((Json.stringOf? document).bind Hash256.ofMarkedHex?).map mk

/-- The document of an identity. -/
def toJson (identity : Identity) : String :=
  Json.literal identity.text

end Identity

end SuperblockGovernance

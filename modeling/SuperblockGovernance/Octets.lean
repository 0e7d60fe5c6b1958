/-
Octet strings, and the numbers and texts they carry. A number is laid out in a
fixed width with its least or its most significant octet first. A text is laid
out as UTF-8, and `toText?` reads exactly the octet strings that `ofText` writes.
-/

import SuperblockGovernance.Naturals

namespace SuperblockGovernance

/-- A finite string of octets. -/
abbrev Octets := List UInt8

namespace Octets

/-! ### Numbers -/

/-- The `width` low octets of a number, least significant first. -/
def littleEndian : Nat → Nat → Octets
  | 0, _ => []
  | width + 1, number => UInt8.ofNat number :: littleEndian width (number / 256)

/-- The number whose octets are given, least significant first. -/
def ofLittleEndian : Octets → Nat
  | [] => 0
  | octet :: rest => octet.toNat + 256 * ofLittleEndian rest

/-- The `width` low octets of a number, most significant first. -/
def bigEndian (width number : Nat) : Octets :=
  (littleEndian width number).reverse

/-- The number whose octets are given, most significant first. -/
def ofBigEndian (octets : Octets) : Nat :=
  ofLittleEndian octets.reverse

@[simp] theorem length_littleEndian (width number : Nat) :
    (littleEndian width number).length = width := by
  induction width generalizing number with
  | zero => rfl
  | succ width inductionHypothesis => simp [littleEndian, inductionHypothesis]

@[simp] theorem length_bigEndian (width number : Nat) :
    (bigEndian width number).length = width := by
  simp [bigEndian]

theorem ofLittleEndian_littleEndian (width number : Nat) :
    ofLittleEndian (littleEndian width number) = number % 256 ^ width := by
  induction width generalizing number with
  | zero => simp [littleEndian, ofLittleEndian, Nat.mod_one]
  | succ width inductionHypothesis =>
    have power : 256 ^ (width + 1) = 256 * 256 ^ width := by
      rw [Nat.pow_succ, Nat.mul_comm]
    rw [littleEndian, ofLittleEndian, inductionHypothesis, UInt8.toNat_ofNat', power, Nat.mod_mul]

theorem ofBigEndian_bigEndian (width number : Nat) :
    ofBigEndian (bigEndian width number) = number % 256 ^ width := by
  simp [ofBigEndian, bigEndian, ofLittleEndian_littleEndian]

theorem littleEndian_ofLittleEndian (octets : Octets) :
    littleEndian octets.length (ofLittleEndian octets) = octets := by
  induction octets with
  | nil => rfl
  | cons octet rest inductionHypothesis =>
    have bound := octet.toNat_lt
    have quotient : (octet.toNat + 256 * ofLittleEndian rest) / 256 = ofLittleEndian rest := by
      omega
    rw [List.length_cons, littleEndian, ofLittleEndian, quotient, inductionHypothesis]
    congr 1
    apply UInt8.toNat_inj.mp
    rw [UInt8.toNat_ofNat']
    omega

theorem ofLittleEndian_lt (octets : Octets) :
    ofLittleEndian octets < 256 ^ octets.length := by
  induction octets with
  | nil => simp [ofLittleEndian]
  | cons octet rest inductionHypothesis =>
    have bound := octet.toNat_lt
    rw [List.length_cons, ofLittleEndian, Nat.pow_succ]
    omega

/-! ### Pieces of one size -/

/-- The octets in pieces of `size`; the last piece may be shorter, and there is always one. -/
def chunks (size : Nat) (octets : Octets) : List Octets :=
  if octets.length ≤ size ∨ size = 0 then [octets]
  else octets.take size :: chunks size (octets.drop size)
termination_by octets.length
decreasing_by
  rw [List.length_drop]
  omega

/-! ### Texts -/

/-- The UTF-8 form of a text. -/
def ofText (text : String) : Octets :=
  text.toByteArray.data.toList

/-- The text whose UTF-8 form is given, if it is the form of one. -/
def toText? (octets : Octets) : Option String :=
  String.fromUTF8? ⟨octets.toArray⟩

theorem toText?_ofText (text : String) : toText? (ofText text) = some text := by
  have valid : (ByteArray.mk (ofText text).toArray).IsValidUTF8 := text.isValidUTF8
  rw [toText?, String.fromUTF8?, dif_pos valid]
  rfl

theorem ofText_of_toText? {octets : Octets} {text : String} (read : toText? octets = some text) :
    ofText text = octets := by
  rw [toText?, String.fromUTF8?] at read
  split at read
  · cases read
    rfl
  · cases read

theorem ofText_injective {first second : String} (same : ofText first = ofText second) :
    first = second :=
  Option.some.inj (by rw [← toText?_ofText first, ← toText?_ofText second, same])

theorem ofText_append (first second : String) :
    ofText (first ++ second) = ofText first ++ ofText second := by
  simp [ofText]

end Octets

end SuperblockGovernance

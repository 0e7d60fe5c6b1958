/-
Hexadecimal texts. Every digit that is written is one octet, reads as its value and is no
blank, so reading undoes writing, also where blanks around the text are cut off first. A
payload is thus read from the very document that it was written as.
-/

import SuperblockGovernance.Trigger.Payload

namespace SuperblockGovernance

/-- The octets of a text are those of its characters. -/
theorem Octets.ofText_ofList (characters : List Char) :
    ofText (String.ofList characters) = characters.flatMap String.utf8EncodeChar := by
  rw [ofText, String.toByteArray_ofList, List.utf8Encode]
  simp

/-- A text without blanks is left as it is. -/
theorem Text.trimmed_ofList {characters : List Char}
    (solid : ∀ character ∈ characters, isBlank character = false) :
    trimmed (String.ofList characters) = String.ofList characters := by
  have kept : ∀ {others : List Char}, (∀ character ∈ others, isBlank character = false) →
      others.dropWhile isBlank = others := by
    intro others solid
    cases others with
    | nil => rfl
    | cons first rest =>
      exact List.dropWhile_cons_of_neg (Bool.eq_false_iff.mp (solid first List.mem_cons_self))
  have reversed : ∀ character ∈ characters.reverse, isBlank character = false :=
    fun character member => solid character (List.mem_reverse.mp member)
  rw [trimmed, String.toList_ofList, kept solid, kept reversed, List.reverse_reverse]

namespace Hexadecimal

/-- The octet of a digit. -/
def digitOctet (value : Nat) : UInt8 :=
  (digit value).val.toUInt8

theorem digit_spec : ∀ value < 16,
    String.utf8EncodeChar (digit value) = [digitOctet value] ∧
      digitValue? (digitOctet value) = some value ∧ Text.isBlank (digit value) = false := by
  decide

theorem exists_of_mem_digits {octets : Octets} {character : Char}
    (member : character ∈ digits octets) : ∃ value < 16, character = digit value := by
  induction octets with
  | nil => cases member
  | cons octet rest inductionHypothesis =>
    have bound := octet.toNat_lt
    rcases List.mem_cons.mp member with high | later
    · exact ⟨octet.toNat / 16, by omega, high⟩
    rcases List.mem_cons.mp later with low | inside
    · exact ⟨octet.toNat % 16, by omega, low⟩
    · exact inductionHypothesis inside

theorem ofText_encode_cons (octet : UInt8) (rest : Octets) :
    Octets.ofText (encode (octet :: rest)) =
      digitOctet (octet.toNat / 16) :: digitOctet (octet.toNat % 16) ::
        Octets.ofText (encode rest) := by
  have bound := octet.toNat_lt
  rw [encode, encode, Octets.ofText_ofList, Octets.ofText_ofList, digits, List.flatMap_cons,
    List.flatMap_cons, (digit_spec (octet.toNat / 16) (by omega)).1,
    (digit_spec (octet.toNat % 16) (by omega)).1]
  rfl

theorem length_encode (octets : Octets) :
    (Octets.ofText (encode octets)).length = 2 * octets.length := by
  induction octets with
  | nil => rfl
  | cons octet rest inductionHypothesis =>
    rw [ofText_encode_cons, List.length_cons, List.length_cons, inductionHypothesis,
      List.length_cons]
    omega

theorem decodeFrom_encode (position : Nat) (octets : Octets) :
    decodeFrom position (Octets.ofText (encode octets)) = .ok octets := by
  induction octets generalizing position with
  | nil => rfl
  | cons octet rest inductionHypothesis =>
    have bound := octet.toNat_lt
    have high : digitAt (digitOctet (octet.toNat / 16)) position = .ok (octet.toNat / 16) := by
      rw [digitAt, (digit_spec (octet.toNat / 16) (by omega)).2.1]
    have low : digitAt (digitOctet (octet.toNat % 16)) (position + 1) =
        .ok (octet.toNat % 16) := by
      rw [digitAt, (digit_spec (octet.toNat % 16) (by omega)).2.1]
    rw [ofText_encode_cons, decodeFrom, high, low, inductionHypothesis]
    show Except.ok (UInt8.ofNat (16 * (octet.toNat / 16) + octet.toNat % 16) :: rest) = _
    rw [Nat.div_add_mod, UInt8.ofNat_toNat]

/-- Reading undoes writing. -/
theorem decode_encode (octets : Octets) : decode (Octets.ofText (encode octets)) = .ok octets := by
  rw [decode, length_encode, if_neg (by omega)]
  exact decodeFrom_encode 0 octets

end Hexadecimal

namespace TriggerPayload

/-- A document in hexadecimal is read as the document. -/
theorem ofHex_encode (octets : Octets) : ofHex (Hexadecimal.encode octets) = ofDocument octets := by
  have solid : ∀ character ∈ Hexadecimal.digits octets, Text.isBlank character = false := by
    intro character member
    obtain ⟨value, bound, rfl⟩ := Hexadecimal.exists_of_mem_digits member
    exact (Hexadecimal.digit_spec value bound).2.2
  have trimmed : Text.trimmed (Hexadecimal.encode octets) = Hexadecimal.encode octets :=
    Text.trimmed_ofList solid
  rw [ofHex, trimmed, Hexadecimal.decode_encode]

end TriggerPayload

end SuperblockGovernance

/-
The messages between nodes as octets. Every message whose strings have lengths that can be
written has one spelling, and whatever is read off some octets is spelt by them. So octets
that nodes exchange name one message, and a submission is told by its octets; it is told by
its object's name as far as BLAKE3 tells octets apart.
-/

import SuperblockGovernance.Gossip
import SuperblockGovernance.Proofs.FingerprintTexts
import SuperblockGovernance.Proofs.WireForms

namespace SuperblockGovernance

/-! ### Lengths that can be written -/

/-- The text and the signature are short enough for their lengths to be written. -/
def Submission.Fits (submission : Submission) : Prop :=
  (Octets.ofText submission.payloadHex).length < 2 ^ 32 ∧ submission.signature.length < 2 ^ 32

instance (submission : Submission) : Decidable submission.Fits :=
  inferInstanceAs (Decidable (_ ∧ _))

/-- The strings of the message have lengths that can be written. -/
def GossipMessage.Fits : GossipMessage → Prop
  | .object _ submission => submission.Fits
  | .vote cast => cast.signature.length < 2 ^ 32

/-! ### The parts of a message -/

namespace Wire

theorem exact_hash : hash.Exact fun _ => True := by
  intro input value rest
  simp only [hash, Option.bind_eq_bind, Option.bind_eq_some_iff, Option.pure_def,
    Option.some.injEq, Prod.mk.injEq, Prod.exists, takeOctets_eq_some_iff, true_and]
  constructor
  · rintro ⟨digits, _, ⟨size, rfl⟩, rfl, rfl⟩
    rw [Hash256.toOctets_ofOctets size]
  · rintro rfl
    exact ⟨value.toOctets, rest, ⟨Octets.length_bigEndian 32 _, rfl⟩,
      Hash256.ofOctets_toOctets value, rfl⟩

theorem exact_identity : identity.Exact fun _ => True :=
  Form.exact_map exact_hash (fun _ => rfl) fun _ _ => rfl

theorem exact_signal : signal.Exact fun _ => True := by
  refine Form.exact_choice fun octet value => ?_
  split
  · rename_i zero
    cases value <;> simp [zero]
  split
  · rename_i one
    cases value <;> simp [one]
  · rename_i zero one
    cases value <;> simp [zero, one]

theorem exact_outcome : outcome.Exact fun _ => True := by
  refine Form.exact_choice fun octet value => ?_
  split
  · rename_i zero
    cases value <;> simp [zero]
  split
  · rename_i one
    cases value <;> simp [one]
  split
  · rename_i two
    cases value <;> simp [two]
  · rename_i zero one two
    cases value <;> simp [zero, one, two]

theorem exact_votePayload : votePayload.Exact fun _ => True :=
  (Form.exact_pair exact_identity (Form.exact_pair exact_hash (Form.exact_pair exact_signal
    (Form.exact_pair exact_outcome Form.exact_word64)))).congr fun _ => by simp

theorem exact_vote : vote.Exact fun vote => vote.signature.length < 2 ^ 32 :=
  (Form.exact_map (Form.exact_pair exact_votePayload Form.exact_octets) (fun _ => rfl)
    fun _ _ => rfl).congr fun _ => true_and _ ▸ Iff.rfl

theorem exact_submission : submission.Exact Submission.Fits :=
  (Form.exact_map (Form.exact_pair (Form.exact_pair Form.exact_text
    (Form.exact_pair exact_identity Form.exact_word64)) Form.exact_octets) (fun _ => rfl)
    fun _ _ => rfl).congr fun _ => by simp [Submission.Fits]

theorem exact_message : message.Exact GossipMessage.Fits := by
  have exact_object := Form.exact_pair exact_hash exact_submission
  intro input value rest
  constructor
  · intro read
    unfold message at read
    dsimp only at read
    split at read
    · obtain ⟨⟨⟨id, content⟩, after⟩, found, same⟩ := Option.bind_eq_some_iff.mp read
      cases same
      obtain ⟨⟨_, fits⟩, rfl⟩ := (exact_object _ _ _).mp found
      exact ⟨fits, rfl⟩
    · obtain ⟨⟨content, after⟩, found, same⟩ := Option.bind_eq_some_iff.mp read
      cases same
      obtain ⟨fits, rfl⟩ := (exact_vote _ _ _).mp found
      exact ⟨fits, rfl⟩
    · cases read
  · rintro ⟨fits, rfl⟩
    cases value with
    | object id content =>
      have found := (exact_object _ (id, content) rest).mpr ⟨⟨trivial, fits⟩, rfl⟩
      exact Option.bind_eq_some_iff.mpr ⟨_, found, rfl⟩
    | vote content =>
      have found := (exact_vote _ content rest).mpr ⟨fits, rfl⟩
      exact Option.bind_eq_some_iff.mpr ⟨_, found, rfl⟩

end Wire

/-! ### Names -/

theorem Blake3.length_digest (message : Octets) : (Blake3.digest message).length = 32 := by
  simp [digest, List.length_flatMap, List.map_const']

/-- Different octets with one digest. -/
def Blake3.Collide (first second : Octets) : Prop :=
  first ≠ second ∧ Blake3.digest first = Blake3.digest second

namespace Submission

/-- Submissions of one name are the same, or BLAKE3 does not tell their octets apart. -/
theorem eq_or_collide {first second : Submission} (firstFits : first.Fits)
    (secondFits : second.Fits) (same : first.objectId = second.objectId) :
    first = second ∨
      Blake3.Collide (Wire.submission.write first) (Wire.submission.write second) := by
  by_cases octets : Wire.submission.write first = Wire.submission.write second
  · exact Or.inl (Wire.exact_submission.write_injective firstFits secondFits octets)
  · refine Or.inr ⟨octets, Hash256.ofOctets_inj ?_ ?_ same⟩
    · rw [Blake3.length_digest, Blake3.length_digest]
    · exact Nat.le_of_eq (Blake3.length_digest _)

end Submission

/-- Octets read as a message and a rest exactly when they are the message as it is written,
followed by the rest. Different submissions are written differently, and named differently
unless BLAKE3 collides on their octets. -/
theorem messages_are_read_as_written :
    (∀ message rest, message.Fits →
      Wire.message.read (Wire.message.write message ++ rest) = some (message, rest)) ∧
    (∀ octets message rest, Wire.message.read octets = some (message, rest) →
      message.Fits ∧ octets = Wire.message.write message ++ rest) ∧
    ∀ first second : Submission, first.Fits → second.Fits → first ≠ second →
      Wire.submission.write first ≠ Wire.submission.write second ∧
        (first.objectId ≠ second.objectId ∨
          Blake3.Collide (Wire.submission.write first) (Wire.submission.write second)) := by
  refine ⟨fun message rest fits => (Wire.exact_message _ _ _).mpr ⟨fits, rfl⟩,
    fun octets message rest read => (Wire.exact_message _ _ _).mp read, ?_⟩
  intro first second firstFits secondFits different
  constructor
  · exact fun same => different (Wire.exact_submission.write_injective firstFits secondFits same)
  · by_cases same : first.objectId = second.objectId
    · exact Or.inr ((Submission.eq_or_collide firstFits secondFits same).resolve_left different)
    · exact Or.inl same

namespace SampleMessage

/-- An abstention from a deletion. -/
def vote : Vote :=
  { voter := ⟨5⟩, object := 7, signal := .delete, outcome := .abstain, timestamp := 1000060,
    signature := [1, 2] }

/-- The vote as it is written, with one octet after it. -/
def octets : Octets :=
  1 :: (List.replicate 31 0 ++ 5 :: (List.replicate 31 0 ++
    [7, 1, 2, 124, 66, 15, 0, 0, 0, 0, 0, 8, 1, 2, 255]))

/-- A submission with next to no payload, at some time. -/
def submission (time : Timestamp) : Submission :=
  { payloadHex := "5b5d", submitter := ⟨5⟩, creationTime := time, signature := [1, 2] }

end SampleMessage

/-- A vote is read off its octets and left with what follows, and two submissions that differ in
their times are written differently. -/
theorem sample_messages_are_read :
    (GossipMessage.vote SampleMessage.vote).Fits ∧
      Wire.message.read (Wire.message.write (.vote SampleMessage.vote) ++ [255]) =
        some (.vote SampleMessage.vote, [255]) ∧
      Wire.message.read SampleMessage.octets = some (.vote SampleMessage.vote, [255]) ∧
      SampleMessage.octets = Wire.message.write (.vote SampleMessage.vote) ++ [255] ∧
      (SampleMessage.submission 4).Fits ∧ (SampleMessage.submission 9).Fits ∧
      Wire.submission.write (SampleMessage.submission 4) ≠
        Wire.submission.write (SampleMessage.submission 9) := by
  obtain ⟨readBack, readOff, apart⟩ := messages_are_read_as_written
  have fits : (GossipMessage.vote SampleMessage.vote).Fits := by
    show SampleMessage.vote.signature.length < 2 ^ 32
    decide
  have read : Wire.message.read SampleMessage.octets =
      some (.vote SampleMessage.vote, [255]) := by decide +kernel
  have oneFits : (SampleMessage.submission 4).Fits := by decide +kernel
  have otherFits : (SampleMessage.submission 9).Fits := by decide +kernel
  exact ⟨fits, readBack _ [255] fits, read, (readOff _ _ _ read).2, oneFits, otherFits,
    (apart _ _ oneFits otherFits (by decide)).1⟩

end SuperblockGovernance

/-
What a signature covers. The octets that are signed for a vote are the vote without its
signature, and those for a submission are the submission without its own, so octets that were
signed say what was signed. No octet says which of the two kinds it was. But a vote takes
seventy-four octets, which leaves thirty-three for the text of a submission, and a text that
short holds at most sixteen octets, while the shortest document of a trigger has nineteen
tokens. So a signature of a vote never covers a submission that can be read.
-/

import Mathlib.Data.List.Forall2
import Mathlib.Data.List.Perm.Subperm
import SuperblockGovernance.Proofs.GossipMessages
import SuperblockGovernance.Proofs.JsonSizes
import SuperblockGovernance.Proofs.TriggerTexts

namespace SuperblockGovernance

/-! ### Forms of one size -/

namespace Wire

namespace Form

variable {α β : Type}

/-- Every value is written in that many octets. -/
def IsSized (form : Form α) (size : Nat) : Prop :=
  ∀ value, (form.write value).length = size

theorem isSized_pair {first : Form α} {second : Form β} {firstSize secondSize : Nat}
    (one : first.IsSized firstSize) (other : second.IsSized secondSize) :
    (first.pair second).IsSized (firstSize + secondSize) := by
  intro value
  rw [pair, List.length_append, one, other]

theorem isSized_choice {write : α → UInt8} {read : UInt8 → Option α} :
    (choice write read).IsSized 1 :=
  fun _ => rfl

theorem isSized_word64 : word64.IsSized 8 :=
  fun _ => Octets.length_littleEndian 8 _

/-! ### Strings -/

/-- How many octets a length takes, by the mark in the first of them. -/
def lengthSize (first : UInt8) : Nat :=
  match first.toNat % 4 with
  | 0 => 1
  | 1 => 2
  | 2 => 4
  | _ => 5

theorem exists_writeLength (length : Nat) :
    ∃ first rest, writeLength length = first :: rest ∧ rest.length + 1 = lengthSize first := by
  have marked : ∀ mark < 4, lengthSize (UInt8.ofNat (4 * length + mark)) =
      lengthSize (UInt8.ofNat mark) := by
    intro mark small
    rw [lengthSize, mark_ofNat length small, lengthSize, UInt8.toNat_ofNat']
    congr 1
    omega
  rw [writeLength]
  split
  · exact ⟨_, _, rfl, (marked 0 (by decide)).symm⟩
  split
  · exact ⟨_, _, rfl, (marked 1 (by decide)).symm⟩
  split
  · exact ⟨_, _, rfl, (marked 2 (by decide)).symm⟩
  · exact ⟨_, _, rfl, rfl⟩

/-- Octet strings of any lengths that are written alike are the same. -/
theorem octets_write_injective : Function.Injective octets.write := by
  intro first second same
  obtain ⟨mark, rest, written, size⟩ := exists_writeLength first.length
  obtain ⟨otherMark, otherRest, otherWritten, otherSize⟩ := exists_writeLength second.length
  unfold octets at same
  dsimp only at same
  rw [written, otherWritten, List.cons_append, List.cons_append] at same
  obtain ⟨rfl, tails⟩ := List.cons.inj same
  have sameSize : rest.length = otherRest.length := Nat.succ.inj (size.trans otherSize.symm)
  exact (List.append_inj tails sameSize).2

theorem text_write_injective : Function.Injective text.write :=
  fun _ _ same => Octets.ofText_injective (octets_write_injective same)

end Form

theorem isSized_hash : hash.IsSized 32 :=
  fun _ => Octets.length_bigEndian 32 _

theorem isSized_identity : identity.IsSized 32 :=
  fun value => isSized_hash value.hash

theorem isSized_votePayload : votePayload.IsSized 74 :=
  Form.isSized_pair isSized_identity (Form.isSized_pair isSized_hash
    (Form.isSized_pair Form.isSized_choice (Form.isSized_pair Form.isSized_choice
      Form.isSized_word64)))

/-- The text of a submission is followed by forty octets, so it is told from what follows. -/
theorem submissionPayload_write_injective : Function.Injective submissionPayload.write := by
  rintro ⟨first, firstRest⟩ ⟨second, secondRest⟩ same
  have sized := Form.isSized_pair isSized_identity Form.isSized_word64
  obtain ⟨sameText, sameRest⟩ := List.append_inj' same ((sized _).trans (sized _).symm)
  have exact := Form.exact_pair exact_identity Form.exact_word64
  rw [Form.text_write_injective sameText,
    exact.write_injective ⟨trivial, trivial⟩ ⟨trivial, trivial⟩ sameRest]

/-- Octets as many as a vote takes leave thirty-three for the text of a submission. -/
theorem length_of_submissionPayload {text : String} {rest : Identity × Timestamp}
    (size : (submissionPayload.write (text, rest)).length = 74) :
    (Octets.ofText text).length = 33 := by
  have sized := Form.isSized_pair isSized_identity Form.isSized_word64
  have parts : (Form.writeLength (Octets.ofText text).length).length +
      (Octets.ofText text).length + 40 = 74 := by
    rw [← List.length_append, ← show _ = 40 from sized rest, ← List.length_append]
    exact size
  have single : (Form.writeLength (Octets.ofText text).length).length = 1 := by
    rw [Form.writeLength, if_pos (by omega)]
    rfl
  omega

end Wire

/-! ### Texts of accepted triggers -/

namespace Hexadecimal

theorem length_of_decodeFrom {position : Nat} {text octets : Octets}
    (read : decodeFrom position text = .ok octets) : text.length = 2 * octets.length := by
  fun_induction decodeFrom position text generalizing octets with
  | case1 =>
    cases read
    rfl
  | case2 => cases read
  | case3 position high low rest inductionHypothesis =>
    obtain ⟨_, _, afterHigh⟩ := bind_eq_ok_iff.mp read
    obtain ⟨_, _, afterLow⟩ := bind_eq_ok_iff.mp afterHigh
    obtain ⟨others, restRead, made⟩ := bind_eq_ok_iff.mp afterLow
    cases made
    have later := inductionHypothesis restRead
    simp only [List.length_cons]
    omega

theorem length_of_decode {text octets : Octets} (read : decode text = .ok octets) :
    text.length = 2 * octets.length := by
  rw [decode] at read
  split at read
  · cases read
  · exact length_of_decodeFrom read

end Hexadecimal

theorem Octets.length_ofCharacters_le {part whole : List Char} (inside : part <:+: whole) :
    (ofCharacters part).length ≤ (ofCharacters whole).length := by
  obtain ⟨before, after, rfl⟩ := inside
  rw [ofCharacters_append, ofCharacters_append, List.length_append, List.length_append]
  omega

theorem Text.length_trimmed_le (text : String) :
    (Octets.ofText (trimmed text)).length ≤ (Octets.ofText text).length := by
  have front : text.toList.dropWhile isBlank <:+ text.toList := List.dropWhile_suffix isBlank
  have back : ((text.toList.dropWhile isBlank).reverse.dropWhile isBlank).reverse <+:
      text.toList.dropWhile isBlank := by
    have suffix := List.dropWhile_suffix (l := (text.toList.dropWhile isBlank).reverse) isBlank
    rw [← List.reverse_prefix, List.reverse_reverse] at suffix
    exact suffix
  rw [trimmed, ← Octets.ofCharacters_toList, String.toList_ofList,
    ← Octets.ofCharacters_toList text]
  exact Octets.length_ofCharacters_le (back.isInfix.trans front.isInfix)

/-! ### Documents of accepted triggers -/

/-- A list that is changed entry by entry, each of which succeeds. -/
theorem forall₂_of_mapM {α β : Type} {change : α → Option β} {list : List α} {changed : List β}
    (success : list.mapM change = some changed) :
    List.Forall₂ (fun before after => change before = some after) list changed := by
  induction list generalizing changed with
  | nil =>
    cases success
    exact .nil
  | cons first rest inductionHypothesis =>
    rw [List.mapM_cons] at success
    obtain ⟨firstChanged, one, afterFirst⟩ := Option.bind_eq_some_iff.mp success
    obtain ⟨restChanged, others, made⟩ := Option.bind_eq_some_iff.mp afterFirst
    cases made
    exact .cons one (inductionHypothesis others)

namespace TriggerPayload

open Json

/-- A payload has twelve fields, the first four of which have to be there. -/
theorem exists_of_ofFields? {fields : List (Option Value)} {payload : TriggerPayload}
    (built : ofFields? fields = some payload) :
    ∃ height epoch addresses amounts others, others.length = 8 ∧
      fields = some height :: some epoch :: some addresses :: some amounts :: others := by
  unfold ofFields? at built
  split at built
  · obtain ⟨height, rfl, afterHeight⟩ := Option.bind_eq_some_iff.mp built
    obtain ⟨_, _, toEpoch⟩ := Option.bind_eq_some_iff.mp afterHeight
    obtain ⟨epoch, rfl, afterEpoch⟩ := Option.bind_eq_some_iff.mp toEpoch
    obtain ⟨_, _, toAddresses⟩ := Option.bind_eq_some_iff.mp afterEpoch
    obtain ⟨addresses, rfl, afterAddresses⟩ := Option.bind_eq_some_iff.mp toAddresses
    obtain ⟨_, _, toAmounts⟩ := Option.bind_eq_some_iff.mp afterAddresses
    obtain ⟨amounts, rfl, _⟩ := Option.bind_eq_some_iff.mp toAmounts
    exact ⟨height, epoch, addresses, amounts, _, rfl, rfl⟩
  · cases built

theorem mem_of_member? {members : List (String × Value)} {name : String} {value : Value}
    (found : member? members name = some (some value)) : name ∈ members.map Prod.fst := by
  rw [member?] at found
  split at found
  · cases found
  · rename_i held _ same
    have member : (held, value) ∈ members.filter fun member => member.1 == name := by
      cases found
      rw [same]
      exact List.mem_singleton_self _
    obtain ⟨inside, named⟩ := List.mem_filter.mp member
    exact List.mem_map.mpr ⟨_, inside, eq_of_beq named⟩
  · cases found

/-- An object or array that is read as a payload takes fourteen tokens at least. -/
theorem size_of_ofValue? {value : Value} {payload : TriggerPayload}
    (built : ofValue? value = some payload) : 14 ≤ value.size := by
  cases value with
  | array elements =>
    obtain ⟨_, _, _, _, others, eight, same⟩ := exists_of_ofFields? built
    have twelve : elements.length = 12 := by
      rw [← List.length_map (f := some), same]
      simp only [List.length_cons, eight]
    have least := length_le_elementsSize elements
    rw [Value.size]
    omega
  | object members =>
    obtain ⟨named, renamed, built⟩ := Option.bind_eq_some_iff.mp built
    obtain ⟨fields, found, built⟩ := Option.bind_eq_some_iff.mp built
    obtain ⟨_, _, _, _, _, _, rfl⟩ := exists_of_ofFields? built
    have held : ["event_block_height", "start_epoch", "payment_addresses", "payment_amounts"] ⊆
        named.map Prod.fst := by
      obtain _ | ⟨height, _ | ⟨epoch, _ | ⟨addresses, _ | ⟨amounts, _⟩⟩⟩⟩ := forall₂_of_mapM found
      simp only [List.cons_subset, List.nil_subset, and_true]
      exact ⟨mem_of_member? height, mem_of_member? epoch, mem_of_member? addresses,
        mem_of_member? amounts⟩
    have four : 4 ≤ (named.map Prod.fst).length :=
      (List.subperm_of_subset (by decide) held).length_le
    rw [List.length_map, ← (forall₂_of_mapM renamed).length_eq] at four
    have least := length_le_membersSize members
    rw [Value.size]
    omega
  | null | boolean | number | string => cases built

theorem size_of_entry? {value : Value} {entry : String × TriggerPayload}
    (read : entry? value = some entry) : 17 ≤ value.size := by
  unfold entry? at read
  split at read
  · rename_i kind content
    obtain ⟨_, _, afterKind⟩ := Option.bind_eq_some_iff.mp read
    obtain ⟨_, built, _⟩ := Option.bind_eq_some_iff.mp afterKind
    have kindSize := kind.size_pos
    have contentSize := size_of_ofValue? built
    simp only [Value.size, elementsSize]
    omega
  · cases read

/-- The document of a trigger takes nineteen octets at least. -/
theorem length_of_ofDocument {octets : Octets} {payload : TriggerPayload}
    (accepted : ofDocument octets = .ok payload) : 19 ≤ octets.length := by
  obtain ⟨value, read, listed⟩ :=
    Option.bind_eq_some_iff.mp (ofDocument_eq_ok_iff.mp accepted).1
  cases value with
  | array elements =>
    obtain _ | ⟨entry, _ | _⟩ := forall₂_of_mapM listed
    have entrySize := size_of_entry? entry
    have short := Value.size_of_ofOctets? read
    simp only [Value.size, elementsSize] at short
    omega
  | null | boolean | number | string | object => cases listed

theorem length_of_ofHex {text : String} {payload : TriggerPayload}
    (read : ofHex text = .ok payload) : 38 ≤ (Octets.ofText text).length := by
  obtain ⟨octets, decoded, accepted⟩ := ofHex_eq_ok_iff.mp read
  have digits := Hexadecimal.length_of_decode decoded
  have document := length_of_ofDocument accepted
  have cut := Text.length_trimmed_le text
  omega

end TriggerPayload

/-! ### What is signed -/

namespace Vote

theorem signingPayload_eq_iff {first second : Vote} :
    first.signingPayload = second.signingPayload ↔
      first.voter = second.voter ∧ first.object = second.object ∧ first.signal = second.signal ∧
        first.outcome = second.outcome ∧ first.timestamp = second.timestamp := by
  constructor
  · intro same
    simpa using Wire.exact_votePayload.write_injective trivial trivial same
  · rintro ⟨voter, object, signal, outcome, timestamp⟩
    rw [signingPayload, signingPayload, voter, object, signal, outcome, timestamp]

theorem length_signingPayload (vote : Vote) : vote.signingPayload.length = 74 :=
  Wire.isSized_votePayload _

end Vote

theorem Submission.signingPayload_eq_iff {first second : Submission} :
    first.signingPayload = second.signingPayload ↔
      first.payloadHex = second.payloadHex ∧ first.submitter = second.submitter ∧
        first.creationTime = second.creationTime := by
  constructor
  · intro same
    simpa using Wire.submissionPayload_write_injective same
  · rintro ⟨payloadHex, submitter, creationTime⟩
    rw [signingPayload, signingPayload, payloadHex, submitter, creationTime]

/-- The octets that are signed for a submission that can be read are not those of any vote. -/
theorem Vote.signingPayload_ne {submission : Submission} {payload : TriggerPayload} (vote : Vote)
    (read : TriggerPayload.ofHex submission.payloadHex = .ok payload) :
    vote.signingPayload ≠ submission.signingPayload := by
  intro same
  have size : submission.signingPayload.length = 74 := same ▸ vote.length_signingPayload
  have short := Wire.length_of_submissionPayload size
  have long := TriggerPayload.length_of_ofHex read
  omega

/-- Signed octets say what was signed: which vote, or which submission, up to its signature. No
octets are those of a vote and of a submission that can be read. -/
theorem signed_octets_tell_apart :
    (∀ first second : Vote, first.signingPayload = second.signingPayload ↔
      first.voter = second.voter ∧ first.object = second.object ∧ first.signal = second.signal ∧
        first.outcome = second.outcome ∧ first.timestamp = second.timestamp) ∧
    (∀ first second : Submission, first.signingPayload = second.signingPayload ↔
      first.payloadHex = second.payloadHex ∧ first.submitter = second.submitter ∧
        first.creationTime = second.creationTime) ∧
    ∀ (vote : Vote) (submission : Submission) (payload : TriggerPayload),
      TriggerPayload.ofHex submission.payloadHex = .ok payload →
        vote.signingPayload ≠ submission.signingPayload :=
  ⟨fun _ _ => Vote.signingPayload_eq_iff, fun _ _ => Submission.signingPayload_eq_iff,
    fun vote _ _ => vote.signingPayload_ne⟩

namespace SampleOctets

/-- A vote by an identity that begins with the length of a text. -/
def vote : Vote :=
  { voter := ⟨Hash256.ofOctets (132 :: List.replicate 31 97)⟩
    object := Hash256.ofOctets (List.replicate 2 97 ++ List.replicate 30 0)
    signal := .funding
    outcome := .yes
    timestamp := 5
    signature := [] }

/-- A payload with one payout. -/
def payload : TriggerPayload :=
  { eventHeight := 1300
    startEpoch := 7
    addresses := "X"
    amounts := "9.00"
    proposalHashes := ""
    objectType := 2 }

/-- A submission with such a payload text. -/
def submission (payloadHex : String) : Submission :=
  { payloadHex, submitter := ⟨0⟩, creationTime := 5, signature := [] }

/-- A text that is no trigger may share the octets of a vote. -/
example : vote.signingPayload =
    (submission "aaaaaaaaaaaaaaaaaaaaaaaaaaaaaaaaa").signingPayload := by
  decide +kernel

end SampleOctets

open SampleOctets in
theorem sample_octets_tell_apart :
    TriggerPayload.ofHex (submission payload.toHex).payloadHex = .ok payload ∧
      vote.signingPayload ≠ (submission payload.toHex).signingPayload := by
  have read : TriggerPayload.ofHex (submission payload.toHex).payloadHex = .ok payload :=
    TriggerPayload.ofHex_toHex rfl
  exact ⟨read, signed_octets_tell_apart.2.2 vote (submission payload.toHex) payload read⟩

end SuperblockGovernance

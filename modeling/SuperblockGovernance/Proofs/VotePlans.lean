/-
What a plan votes on. Its one approval goes to the least candidate that carries the local
fingerprint, its rejections to candidates that carry another, and its deletions to stale
candidates. No vote is planned that has been cast, and all of them name a candidate.
-/

import SuperblockGovernance.Proofs.Elections
import SuperblockGovernance.VotePlan

namespace SuperblockGovernance.PlanTerms

variable {terms : PlanTerms} {cast : Cast} {candidate : Candidate} {intent : VoteIntent}

/-! ### The local match -/

/-- The local match is the least candidate that carries the local fingerprint. -/
theorem localMatch?_spec (matched : terms.localMatch? = some candidate) :
    candidate ∈ terms.candidates ∧ candidate.fingerprint = terms.localFingerprint ∧
      ∀ other ∈ terms.candidates, other.fingerprint = terms.localFingerprint →
        candidate.id ≤ other.id := by
  rw [localMatch?, Election.get?_groups] at matched
  split at matched
  · cases matched
  obtain ⟨rest, sorted⟩ := List.head?_eq_some_iff.mp matched
  have ordered := Election.pairwise_mergeSort
    (Election.carrying terms.candidates terms.localFingerprint)
  rw [sorted, List.pairwise_cons] at ordered
  have grouped : ∀ other, other ∈ candidate :: rest ↔
      other ∈ terms.candidates ∧ other.fingerprint = terms.localFingerprint := fun other => by
    rw [← sorted, List.mem_mergeSort, Election.mem_carrying]
  obtain ⟨member, carries⟩ := (grouped candidate).mp List.mem_cons_self
  refine ⟨member, carries, fun other within same => ?_⟩
  rcases List.mem_cons.mp ((grouped other).mpr ⟨within, same⟩) with head | inside
  · exact head ▸ BitVec.le_refl _
  · exact ordered.1 other inside

theorem funded?_spec (funded : terms.funded? = some candidate) :
    terms.localMatch? = some candidate ∧ candidate.WithinBudget terms.budgetLimit := by
  rw [funded?, Option.filter_eq_some_iff] at funded
  exact ⟨funded.1, of_decide_eq_true funded.2⟩

/-- A group is what carries its fingerprint, in the order of names. -/
theorem group_of_mem {fingerprint : Fingerprint} {group : List Candidate}
    (member : (fingerprint, group) ∈ (Election.groups terms.candidates).entries) :
    group = (Election.carrying terms.candidates fingerprint).mergeSort
      fun first second => first.id ≤ second.id := by
  have found := SortedMap.get?_eq_some_iff.mpr member
  rw [Election.get?_groups] at found
  split at found
  · cases found
  · exact (Option.some.inj found).symm

/-- The opposed candidates are those with another fingerprint. -/
theorem mem_opposed_iff :
    candidate ∈ terms.opposed ↔
      candidate ∈ terms.candidates ∧ candidate.fingerprint ≠ terms.localFingerprint := by
  have grouped : ∀ fingerprint group, (fingerprint, group) ∈
      (Election.groups terms.candidates).entries → (candidate ∈ group ↔
        candidate ∈ terms.candidates ∧ candidate.fingerprint = fingerprint) := by
    intro fingerprint group member
    rw [group_of_mem member, List.mem_mergeSort, Election.mem_carrying]
  rw [opposed, List.mem_flatMap]
  constructor
  · rintro ⟨⟨fingerprint, group⟩, member, inside⟩
    change candidate ∈ if fingerprint = terms.localFingerprint then [] else group at inside
    split at inside
    · cases inside
    · rename_i differs
      obtain ⟨within, carries⟩ := (grouped fingerprint group member).mp inside
      exact ⟨within, carries ▸ differs⟩
  · rintro ⟨within, differs⟩
    obtain ⟨group, found⟩ := SortedMap.contains_iff.mp
      (Election.contains_groups_iff.mpr ⟨candidate, within, rfl⟩)
    have member := SortedMap.get?_eq_some_iff.mp found
    refine ⟨(candidate.fingerprint, group), member, ?_⟩
    show candidate ∈ if candidate.fingerprint = terms.localFingerprint then [] else group
    rw [if_neg differs]
    exact (grouped _ _ member).mpr ⟨within, rfl⟩

/-! ### The intents -/

theorem intent?_eq_some_iff {signal : VoteSignal} {outcome : VoteOutcome} {object : ObjectId} :
    intent? cast signal outcome object = some intent ↔
      intent = ⟨object, signal, outcome⟩ ∧ cast object signal ≠ some outcome := by
  rw [intent?]
  split
  · rename_i done
    exact iff_of_false (Option.some_ne_none _).symm fun both => both.2 done
  · rename_i open_
    rw [Option.some.injEq, eq_comm, and_iff_left open_]

/-- Votes planned for a list of candidates, as many as are allowed. -/
theorem mem_take_intents {signal : VoteSignal} {outcome : VoteOutcome}
    {candidates : List Candidate} {most : Nat}
    (member : intent ∈ ((candidates.map Candidate.id).filterMap
      (intent? cast signal outcome)).take most) :
    ∃ candidate ∈ candidates, intent = ⟨candidate.id, signal, outcome⟩ ∧
      cast candidate.id signal ≠ some outcome := by
  obtain ⟨_, inside, planned⟩ := List.mem_filterMap.mp (List.mem_of_mem_take member)
  obtain ⟨candidate, within, rfl⟩ := List.mem_map.mp inside
  exact ⟨candidate, within, intent?_eq_some_iff.mp planned⟩

theorem mem_fundingIntents_iff {object : ObjectId} :
    intent ∈ fundingIntents cast object ↔
      (intent = ⟨object, .funding, .yes⟩ ∧ cast object .funding ≠ some .yes) ∨
        (intent = ⟨object, .delete, .no⟩ ∧ cast object .delete = some .yes) := by
  rw [fundingIntents, List.mem_append, Option.mem_toList, intent?_eq_some_iff]
  refine or_congr_right ?_
  split
  · rename_i asked
    rw [Option.mem_toList, intent?_eq_some_iff, asked]
    simp
  · rename_i unasked
    exact iff_of_false List.not_mem_nil fun both => unasked both.2

/-- An intent approves what is funded, rejects what is opposed, or asks to delete what is stale. -/
theorem mem_intents (member : intent ∈ (terms.plan cast).intents) :
    (∃ candidate, terms.funded? = some candidate ∧ intent ∈ fundingIntents cast candidate.id) ∨
      (∃ candidate ∈ terms.opposed, intent = ⟨candidate.id, .funding, .no⟩) ∨
        ∃ candidate ∈ terms.deletable, intent = ⟨candidate.id, .delete, .yes⟩ := by
  rw [plan, List.mem_append, List.mem_append] at member
  rcases member with (approved | rejected) | deleted
  · cases funded : terms.funded? with
    | none =>
      rw [funded] at approved
      cases approved
    | some candidate =>
      rw [funded] at approved
      exact Or.inl ⟨candidate, rfl, approved⟩
  · obtain ⟨candidate, within, same, _⟩ := mem_take_intents rejected
    exact Or.inr (Or.inl ⟨candidate, within, same⟩)
  · obtain ⟨candidate, within, same, _⟩ := mem_take_intents deleted
    exact Or.inr (Or.inr ⟨candidate, within, same⟩)

theorem expired_of_mem_deletable (member : candidate ∈ terms.deletable) :
    candidate ∈ terms.expired := by
  rw [deletable, List.mem_mergeSort] at member
  exact (List.mem_filter.mp member).1

/-- Every intent names one of the candidates or a stale object. -/
theorem object_of_mem_intents (member : intent ∈ (terms.plan cast).intents) :
    ∃ candidate, (candidate ∈ terms.candidates ∨ candidate ∈ terms.expired) ∧
      candidate.id = intent.object := by
  rcases mem_intents member with ⟨candidate, funded, inside⟩ | ⟨candidate, within, rfl⟩ |
    ⟨candidate, within, rfl⟩
  · refine ⟨candidate, Or.inl (localMatch?_spec (funded?_spec funded).1).1, ?_⟩
    rcases mem_fundingIntents_iff.mp inside with ⟨rfl, _⟩ | ⟨rfl, _⟩ <;> rfl
  · exact ⟨candidate, Or.inl (mem_opposed_iff.mp within).1, rfl⟩
  · exact ⟨candidate, Or.inr (expired_of_mem_deletable within), rfl⟩

/-- An approval goes to the local match alone, when that is within the budget. -/
theorem funded_of_approval {object : ObjectId}
    (approved : ⟨object, .funding, .yes⟩ ∈ (terms.plan cast).intents) :
    ∃ candidate, terms.funded? = some candidate ∧ candidate.id = object := by
  rcases mem_intents approved with ⟨candidate, funded, inside⟩ | ⟨_, _, same⟩ | ⟨_, _, same⟩
  · rcases mem_fundingIntents_iff.mp inside with ⟨same, _⟩ | ⟨same, _⟩
    · cases same
      exact ⟨candidate, funded, rfl⟩
    · cases same
  · cases same
  · cases same

/-- A request to delete goes to a stale object. -/
theorem expired_of_deletion {object : ObjectId}
    (deleted : ⟨object, .delete, .yes⟩ ∈ (terms.plan cast).intents) :
    ∃ candidate ∈ terms.expired, candidate.id = object := by
  rcases mem_intents deleted with ⟨candidate, _, inside⟩ | ⟨_, _, same⟩ |
    ⟨candidate, within, same⟩
  · rcases mem_fundingIntents_iff.mp inside with ⟨same, _⟩ | ⟨same, _⟩ <;> cases same
  · cases same
  · cases same
    exact ⟨candidate, expired_of_mem_deletable within, rfl⟩

end SuperblockGovernance.PlanTerms

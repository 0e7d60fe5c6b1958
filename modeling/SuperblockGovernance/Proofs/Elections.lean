/-
Who wins an election. To be no worse than another candidate is a total order on the
candidates up to their names, so going through those that qualify and keeping the better
one ends at one that no other beats. When no two candidates share a name there is only one
such candidate. The groups of an election are the candidates by fingerprint, and the state
of a fingerprint is read off the groups and the winner.
-/

import SuperblockGovernance.Election
import SuperblockGovernance.Proofs.SortedMaps

namespace SuperblockGovernance

namespace Candidate

variable {first second third : Candidate}

/-! ### Better candidates -/

theorem Beats.trans (one : first.Beats second) (other : second.Beats third) :
    first.Beats third := by
  simp only [Beats, BitVec.lt_def] at *
  omega

theorem Beats.asymm (one : first.Beats second) : ¬second.Beats first := by
  simp only [Beats, BitVec.lt_def] at *
  omega

/-- Whoever stands between two candidates loses to the better or beats the other. -/
theorem Beats.or_beats (second : Candidate) (one : first.Beats third) :
    first.Beats second ∨ second.Beats third := by
  simp only [Beats, BitVec.lt_def] at *
  omega

/-- Of two candidates with different names one beats the other. -/
theorem beats_or_beats (differ : first.id ≠ second.id) :
    first.Beats second ∨ second.Beats first := by
  simp only [Beats, BitVec.lt_def, ne_eq, BitVec.toNat_eq] at *
  omega

end Candidate

namespace Election

variable {candidates : List Candidate} {fingerprint : Fingerprint}

/-! ### The winner -/

/-- Keeping the better candidate ends at one of them that none beats. -/
theorem foldl_better (best : Candidate) (rest : List Candidate) :
    ∃ winner ∈ best :: rest, rest.foldl better (some best) = some winner ∧
      ∀ other ∈ best :: rest, ¬other.Beats winner := by
  induction rest generalizing best with
  | nil =>
    refine ⟨best, List.mem_cons_self, rfl, fun other member => ?_⟩
    rw [List.mem_singleton.mp member]
    exact fun beats => beats.asymm beats
  | cons candidate rest inductionHypothesis =>
    rw [List.foldl_cons, better]
    by_cases beats : candidate.Beats best
    · rw [if_pos beats]
      obtain ⟨winner, member, found, unbeaten⟩ := inductionHypothesis candidate
      refine ⟨winner, List.mem_cons_of_mem _ member, found, fun other within => ?_⟩
      rcases List.mem_cons.mp within with same | inside
      · rw [same]
        exact fun above => unbeaten candidate List.mem_cons_self (beats.trans above)
      · exact unbeaten other inside
    · rw [if_neg beats]
      obtain ⟨winner, member, found, unbeaten⟩ := inductionHypothesis best
      have bestUnbeaten := unbeaten best List.mem_cons_self
      refine ⟨winner, ?_, found, fun other within => ?_⟩
      · rcases List.mem_cons.mp member with same | inside
        · exact same ▸ List.mem_cons_self
        · exact List.mem_cons_of_mem _ (List.mem_cons_of_mem _ inside)
      · rcases List.mem_cons.mp within with same | inside
        · exact same ▸ bestUnbeaten
        rcases List.mem_cons.mp inside with same | deeper
        · rw [same]
          exact fun above => (above.or_beats best).elim beats bestUnbeaten
        · exact unbeaten other (List.mem_cons_of_mem _ deeper)

variable {required : Nat} {limit : Amount} {winner : Candidate}

/-- There is no winner exactly when nobody qualifies. -/
theorem winner?_eq_none_iff :
    winner? candidates required limit = none ↔
      ∀ candidate ∈ candidates, ¬candidate.Qualifies required limit := by
  have nobody : (candidates.filter fun candidate => candidate.Qualifies required limit) = [] ↔
      ∀ candidate ∈ candidates, ¬candidate.Qualifies required limit := by
    rw [List.filter_eq_nil_iff]
    exact forall₂_congr fun candidate _ => not_congr decide_eq_true_iff
  rw [← nobody, winner?]
  cases candidates.filter fun candidate => candidate.Qualifies required limit with
  | nil => exact iff_of_true rfl rfl
  | cons best rest =>
    obtain ⟨_, _, found, _⟩ := foldl_better best rest
    refine iff_of_false ?_ (List.cons_ne_nil _ _)
    rw [List.foldl_cons, better, found]
    exact Option.some_ne_none _

/-- The winner is a candidate that qualifies, and nobody who qualifies beats it. -/
theorem winner?_spec (won : winner? candidates required limit = some winner) :
    winner ∈ candidates ∧ winner.Qualifies required limit ∧
      ∀ other ∈ candidates, other.Qualifies required limit → ¬other.Beats winner := by
  rw [winner?] at won
  cases qualified : candidates.filter fun candidate => candidate.Qualifies required limit with
  | nil =>
    rw [qualified] at won
    cases won
  | cons best rest =>
    obtain ⟨found, member, reached, unbeaten⟩ := foldl_better best rest
    rw [qualified, List.foldl_cons, better, reached] at won
    cases won
    rw [← qualified] at member unbeaten
    obtain ⟨inside, qualifies⟩ := List.mem_filter.mp member
    refine ⟨inside, of_decide_eq_true qualifies, fun other within able => ?_⟩
    exact unbeaten other (List.mem_filter.mpr ⟨within, decide_eq_true able⟩)

/-- Among candidates with different names, to win is to qualify and to beat everyone else who
does. -/
theorem winner?_eq_some_iff
    (named : ∀ first ∈ candidates, ∀ second ∈ candidates, first.id = second.id → first = second) :
    winner? candidates required limit = some winner ↔
      winner ∈ candidates ∧ winner.Qualifies required limit ∧
        ∀ other ∈ candidates, other.Qualifies required limit → other ≠ winner →
          winner.Beats other := by
  constructor
  · intro won
    obtain ⟨member, qualifies, unbeaten⟩ := winner?_spec won
    refine ⟨member, qualifies, fun other within able differs => ?_⟩
    have apart : winner.id ≠ other.id := fun same =>
      differs (named other within winner member same.symm)
    exact (Candidate.beats_or_beats apart).resolve_right (unbeaten other within able)
  · rintro ⟨member, qualifies, best⟩
    cases won : winner? candidates required limit with
    | none => exact absurd qualifies (winner?_eq_none_iff.mp won winner member)
    | some found =>
      obtain ⟨within, able, unbeaten⟩ := winner?_spec won
      by_cases same : found = winner
      · rw [same]
      · exact absurd (best found within able same) (unbeaten winner member qualifies)

/-! ### The groups -/

/-- The candidates that carry a fingerprint. -/
def carrying (candidates : List Candidate) (fingerprint : Fingerprint) : List Candidate :=
  candidates.filter fun candidate => candidate.fingerprint = fingerprint

theorem mem_carrying {candidate : Candidate} :
    candidate ∈ carrying candidates fingerprint ↔
      candidate ∈ candidates ∧ candidate.fingerprint = fingerprint := by
  rw [carrying, List.mem_filter, decide_eq_true_iff]

/-- Each candidate in turn joins the group of its fingerprint. -/
theorem get?_foldl_groups (groups : SortedMap Fingerprint (List Candidate)) :
    (candidates.foldl (fun groups candidate =>
      groups.alter candidate.fingerprint fun group => group.getD [] ++ [candidate])
      groups).get? fingerprint =
      if carrying candidates fingerprint = [] then groups.get? fingerprint
      else some ((groups.get? fingerprint).getD [] ++ carrying candidates fingerprint) := by
  induction candidates generalizing groups with
  | nil => rfl
  | cons candidate rest inductionHypothesis =>
    rw [List.foldl_cons, inductionHypothesis, SortedMap.get?_alter, carrying, carrying]
    by_cases same : candidate.fingerprint = fingerprint
    · subst same
      rw [List.filter_cons_of_pos (by simp), if_neg (List.cons_ne_nil _ _), if_pos rfl]
      split
      · rename_i alone
        rw [alone]
      · rw [Option.getD_some, List.append_assoc, List.singleton_append]
    · rw [List.filter_cons_of_neg (by simp [same]), if_neg (Ne.symm same)]

/-- The group of a fingerprint holds the candidates that carry it, in the order of names. -/
theorem get?_groups :
    (groups candidates).get? fingerprint =
      if carrying candidates fingerprint = [] then none
      else some ((carrying candidates fingerprint).mergeSort
        fun first second => first.id ≤ second.id) := by
  rw [groups, SortedMap.get?_mapValues, get?_foldl_groups, SortedMap.get?_empty]
  split
  · rfl
  · rfl

/-- A group stands in the order of names. -/
theorem pairwise_mergeSort (group : List Candidate) :
    (group.mergeSort fun first second => first.id ≤ second.id).Pairwise
      fun first second => first.id ≤ second.id := by
  have ordered := @List.pairwise_mergeSort _
    (fun first second : Candidate => decide (first.id ≤ second.id))
    (fun first second third one other => by
      simp only [decide_eq_true_eq, BitVec.le_def] at *
      omega)
    (fun first second => by
      simp only [Bool.or_eq_true, decide_eq_true_eq, BitVec.le_def]
      omega) group
  exact ordered.imp of_decide_eq_true

theorem contains_groups_iff :
    (groups candidates).contains fingerprint = true ↔
      ∃ candidate ∈ candidates, candidate.fingerprint = fingerprint := by
  rw [SortedMap.contains, get?_groups]
  split
  · rename_i alone
    refine iff_of_false Bool.false_ne_true ?_
    rintro ⟨candidate, member, carries⟩
    exact List.not_mem_nil (alone ▸ mem_carrying.mpr ⟨member, carries⟩)
  · rename_i someone
    refine iff_of_true rfl ?_
    obtain ⟨candidate, member⟩ := List.exists_mem_of_ne_nil _ someone
    exact ⟨candidate, mem_carrying.mp member⟩

end Election

namespace ContractState

variable {candidates : List Candidate} {fingerprint : Fingerprint} {winner : Candidate}
variable {isConfirmed : Bool} {tip target : Height}

/-! ### The state of a fingerprint -/

/-- The fingerprint is the one that the winner carries. -/
def IsElected (state : ContractState) : Prop :=
  state = winning ∨ state = confirmed

instance (state : ContractState) : Decidable state.IsElected :=
  inferInstanceAs (Decidable (_ ∨ _))

/-- A fingerprint is elected exactly when the winner carries it and is a candidate. -/
theorem isElected_classify_iff :
    (classify fingerprint candidates (some winner) isConfirmed tip target).IsElected ↔
      (∃ candidate ∈ candidates, candidate.fingerprint = fingerprint) ∧
        winner.fingerprint = fingerprint := by
  rw [← Election.contains_groups_iff, classify]
  cases (Election.groups candidates).contains fingerprint with
  | false => simp [IsElected]
  | true =>
    by_cases carries : winner.fingerprint = fingerprint
    · cases isConfirmed <;> simp [IsElected, carries]
    · simp [IsElected, carries]

/-- A fingerprint is superseded exactly when a candidate carries it and the winner another. -/
theorem classify_eq_superseded_iff :
    classify fingerprint candidates (some winner) isConfirmed tip target = superseded ↔
      (∃ candidate ∈ candidates, candidate.fingerprint = fingerprint) ∧
        winner.fingerprint ≠ fingerprint := by
  rw [← Election.contains_groups_iff, classify]
  cases (Election.groups candidates).contains fingerprint with
  | false => simp
  | true =>
    by_cases carries : winner.fingerprint = fingerprint
    · cases isConfirmed <;> simp [carries]
    · simp [carries]

/-- A fingerprint is confirmed exactly when it is elected and the winner is confirmed. -/
theorem classify_eq_confirmed_iff :
    classify fingerprint candidates (some winner) isConfirmed tip target = confirmed ↔
      ((∃ candidate ∈ candidates, candidate.fingerprint = fingerprint) ∧
        winner.fingerprint = fingerprint) ∧ isConfirmed = true := by
  rw [← Election.contains_groups_iff, classify]
  cases (Election.groups candidates).contains fingerprint with
  | false => simp
  | true =>
    by_cases carries : winner.fingerprint = fingerprint
    · cases isConfirmed <;> simp [carries]
    · simp [carries]

/-- Without a winner no fingerprint is elected or superseded. -/
theorem classify_of_no_winner :
    let state := classify fingerprint candidates none isConfirmed tip target
    ¬state.IsElected ∧ state ≠ superseded := by
  rw [classify]
  split
  · simp [IsElected]
  · by_cases past : target ≤ tip
    · simp [IsElected, past]
    · by_cases contended : 1 < (Election.groups candidates).size <;>
        simp [IsElected, past, contended]

end ContractState

end SuperblockGovernance

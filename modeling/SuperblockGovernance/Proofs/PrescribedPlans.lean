/-
What a plan prescribes, vote for vote. When no two candidates share a name, the candidate to
fund is determined by the candidates as a set, and so are the two orders in which the others
are taken: each is a strict order, so a set of candidates stands in it in one way only. A
plan is then its approval, the first rejections and the first deletions, and the order in
which the candidates are given plays no part.
-/

import Mathlib.Data.List.Nodup
import SuperblockGovernance.Proofs.VotePlans

namespace SuperblockGovernance

/-! ### The orders -/

namespace Candidate

variable {κ : Type} [Ord κ] {key : Candidate → κ} {first second : Candidate}

/-- The first candidate comes before the second, by a key and then by name. -/
def Precedes (key : Candidate → κ) (first second : Candidate) : Prop :=
  compare (key first) (key second) = .lt ∨ (key first = key second ∧ first.id < second.id)

theorem Precedes.asymm [Std.TransOrd κ] (one : first.Precedes key second) :
    ¬second.Precedes key first := by
  rintro (above | ⟨same, more⟩)
  · rcases one with below | ⟨same, _⟩
    · exact SortedMap.key_ne_of_lt (Std.TransCmp.lt_trans below above) rfl
    · exact SortedMap.key_ne_of_lt above same.symm
  · rcases one with below | ⟨_, less⟩
    · exact SortedMap.key_ne_of_lt below same.symm
    · rw [BitVec.lt_def] at less more
      omega

/-- Candidates stand in the order in one way only. -/
theorem eq_of_perm_of_precedes [Std.TransOrd κ] {listed others : List Candidate}
    (alike : listed.Perm others) (ordered : listed.Pairwise (Precedes key))
    (othersOrdered : others.Pairwise (Precedes key)) : listed = others :=
  alike.eq_of_pairwise (fun _ _ _ _ below above => absurd above below.asymm) ordered othersOrdered

theorem nodup_of_precedes [Std.TransOrd κ] {listed : List Candidate}
    (ordered : listed.Pairwise (Precedes key)) : listed.Nodup :=
  ordered.imp fun below same => (same ▸ below).asymm (same ▸ below)

/-- In one place of the order stand candidates with ascending names. -/
theorem precedes_of_le (same : key first = key second) (below : first.id ≤ second.id)
    (differ : first.id ≠ second.id) : first.Precedes key second := by
  refine Or.inr ⟨same, ?_⟩
  rw [BitVec.le_def] at below
  rw [BitVec.lt_def]
  have apart : first.id.toNat ≠ second.id.toNat := fun equal => differ (BitVec.eq_of_toNat_eq equal)
  omega

end Candidate

/-- The planned votes of one kind. -/
def VotePlan.votes (plan : VotePlan) (signal : VoteSignal) (outcome : VoteOutcome) :
    List VoteIntent :=
  plan.intents.filter fun intent => intent.signal = signal ∧ intent.outcome = outcome

/-- Votes of one kind on the first of some candidates, by a key and then by name, as many as are
allowed. -/
def AreFirst {κ : Type} [Ord κ] (votes : List VoteIntent) (signal : VoteSignal)
    (outcome : VoteOutcome) (most : Nat) (key : Candidate → κ) (Chosen : Candidate → Prop) : Prop :=
  ∃ ordered : List Candidate, (∀ candidate, candidate ∈ ordered ↔ Chosen candidate) ∧
    ordered.Pairwise (Candidate.Precedes key) ∧
    votes = (ordered.take most).map fun candidate => ⟨candidate.id, signal, outcome⟩

theorem AreFirst.congr {κ : Type} [Ord κ] {votes : List VoteIntent} {signal : VoteSignal}
    {outcome : VoteOutcome} {most : Nat} {key : Candidate → κ} {Chosen Preferred : Candidate → Prop}
    (first : AreFirst votes signal outcome most key Chosen)
    (same : ∀ candidate, Chosen candidate ↔ Preferred candidate) :
    AreFirst votes signal outcome most key Preferred := by
  obtain ⟨ordered, chosen, rest⟩ := first
  exact ⟨ordered, fun candidate => (chosen candidate).trans (same candidate), rest⟩

namespace PlanTerms

variable {terms : PlanTerms} {cast : Cast} {candidate : Candidate} {intent : VoteIntent}

/-- The candidate to fund: the least that carries the local fingerprint, when its total is known
and within the budget. -/
def IsFunded (terms : PlanTerms) (candidate : Candidate) : Prop :=
  candidate ∈ terms.candidates ∧ candidate.fingerprint = terms.localFingerprint ∧
    (∀ other ∈ terms.candidates, other.fingerprint = terms.localFingerprint →
      candidate.id ≤ other.id) ∧
    candidate.WithinBudget terms.budgetLimit

/-- No two candidates share a name, and no two stale objects do. -/
structure Named (terms : PlanTerms) : Prop where
  candidates : (terms.candidates.map Candidate.id).Nodup
  expired : (terms.expired.map Candidate.id).Nodup

/-- The plan is what the terms prescribe, given the votes that have been cast. -/
structure Prescribes (terms : PlanTerms) (cast : Cast) (plan : VotePlan) : Prop where
  approves : ∀ object, ⟨object, .funding, .yes⟩ ∈ plan.intents ↔
    (∃ candidate, terms.IsFunded candidate ∧ candidate.id = object) ∧
      cast object .funding ≠ some .yes
  approvesOnce : (plan.votes .funding .yes).length ≤ 1
  rejects : AreFirst (plan.votes .funding .no) .funding .no terms.maxNoVotes
    Candidate.fingerprint fun candidate => candidate ∈ terms.candidates ∧
      candidate.fingerprint ≠ terms.localFingerprint ∧ cast candidate.id .funding ≠ some .no
  deletes : AreFirst (plan.votes .delete .yes) .delete .yes terms.maxDeleteVotes
    Candidate.targetHeight fun candidate => candidate ∈ terms.expired ∧
      (∀ funded, terms.IsFunded funded → candidate.id ≠ funded.id) ∧
      cast candidate.id .delete ≠ some .yes
  keeps : ∀ object, ⟨object, .delete, .no⟩ ∈ plan.intents ↔
    (∃ candidate, terms.IsFunded candidate ∧ candidate.id = object) ∧
      cast object .delete = some .yes
  /-- There are no votes of other kinds. -/
  decisive : ∀ intent ∈ plan.intents, intent.outcome ≠ .abstain
  /-- There is one vote on an object and signal. -/
  once : (plan.intents.map fun intent => (intent.object, intent.signal)).Nodup
  fresh : ∀ intent ∈ plan.intents, cast intent.object intent.signal ≠ some intent.outcome

/-! ### The candidate to fund -/

theorem Named.eq_of_id (named : terms.Named) {first second : Candidate}
    (one : first ∈ terms.candidates) (another : second ∈ terms.candidates)
    (same : first.id = second.id) : first = second :=
  List.inj_on_of_nodup_map named.candidates one another same

theorem localMatch?_eq_none_iff :
    terms.localMatch? = none ↔
      ∀ candidate ∈ terms.candidates, candidate.fingerprint ≠ terms.localFingerprint := by
  rw [localMatch?, Election.get?_groups]
  split
  · rename_i alone
    refine iff_of_true rfl fun candidate member carries => ?_
    exact List.not_mem_nil (alone ▸ Election.mem_carrying.mpr ⟨member, carries⟩)
  · rename_i someone
    obtain ⟨candidate, inside⟩ := List.exists_mem_of_ne_nil _ someone
    obtain ⟨member, carries⟩ := Election.mem_carrying.mp inside
    refine iff_of_false (fun none => ?_) fun nobody => nobody candidate member carries
    have sorted : (Election.carrying terms.candidates terms.localFingerprint).mergeSort
        (fun first second => first.id ≤ second.id) = [] := List.head?_eq_none_iff.mp none
    exact List.not_mem_nil (sorted ▸ List.mem_mergeSort.mpr inside)

theorem localMatch?_eq_some_iff (named : terms.Named) :
    terms.localMatch? = some candidate ↔
      candidate ∈ terms.candidates ∧ candidate.fingerprint = terms.localFingerprint ∧
        ∀ other ∈ terms.candidates, other.fingerprint = terms.localFingerprint →
          candidate.id ≤ other.id := by
  refine ⟨localMatch?_spec, ?_⟩
  rintro ⟨member, carries, least⟩
  cases found : terms.localMatch? with
  | none => exact absurd carries (localMatch?_eq_none_iff.mp found candidate member)
  | some matched =>
    obtain ⟨within, alike, lesser⟩ := localMatch?_spec found
    have same : matched.id = candidate.id :=
      BitVec.le_antisymm (lesser candidate member carries) (least matched within alike)
    rw [named.eq_of_id within member same]

theorem funded?_eq_some_iff (named : terms.Named) :
    terms.funded? = some candidate ↔ terms.IsFunded candidate := by
  rw [funded?, Option.filter_eq_some_iff, localMatch?_eq_some_iff named, decide_eq_true_iff,
    IsFunded, and_assoc, and_assoc]

/-! ### The candidates in order -/

/-- Inside a group the names ascend, and no two are the same. -/
theorem precedes_group (named : terms.Named) (fingerprint : Fingerprint) :
    ((Election.carrying terms.candidates fingerprint).mergeSort
      fun first second => first.id ≤ second.id).Pairwise
        (Candidate.Precedes Candidate.fingerprint) := by
  have alike : ∀ candidate ∈ (Election.carrying terms.candidates fingerprint).mergeSort
      (fun first second => first.id ≤ second.id), candidate.fingerprint = fingerprint :=
    fun candidate inside => (Election.mem_carrying.mp (List.mem_mergeSort.mp inside)).2
  have distinct : (((Election.carrying terms.candidates fingerprint).mergeSort
      fun first second => first.id ≤ second.id).map Candidate.id).Nodup :=
    ((List.mergeSort_perm _ _).map Candidate.id).nodup_iff.mpr
      (named.candidates.sublist (List.filter_sublist.map _))
  have ascending := Election.pairwise_mergeSort (Election.carrying terms.candidates fingerprint)
  refine (ascending.and (List.pairwise_map.mp distinct)).imp_of_mem ?_
  rintro first second one another ⟨below, differ⟩
  exact Candidate.precedes_of_le ((alike first one).trans (alike second another).symm) below differ

theorem precedes_opposed (named : terms.Named) :
    terms.opposed.Pairwise (Candidate.Precedes Candidate.fingerprint) := by
  rw [opposed, List.pairwise_flatMap]
  have carries : ∀ entry ∈ (Election.groups terms.candidates).entries, ∀ candidate,
      candidate ∈ (if entry.1 = terms.localFingerprint then [] else entry.2) →
        candidate.fingerprint = entry.1 := by
    intro entry member candidate inside
    split at inside
    · cases inside
    · rw [group_of_mem member, List.mem_mergeSort] at inside
      exact (Election.mem_carrying.mp inside).2
  refine ⟨fun entry member => ?_, ?_⟩
  · show List.Pairwise _ (if entry.1 = terms.localFingerprint then [] else entry.2)
    split
    · exact List.Pairwise.nil
    · rw [group_of_mem member]
      exact precedes_group named entry.1
  · -- The fingerprints of the groups ascend.
    refine (Election.groups terms.candidates).ascending.imp_of_mem ?_
    intro entry another member anotherMember below first one second other
    refine Or.inl ?_
    rw [carries entry member first one, carries another anotherMember second other]
    exact below

theorem staleOrder_iff {first second : Candidate} :
    staleOrder first second = true ↔ first.targetHeight < second.targetHeight ∨
      (first.targetHeight = second.targetHeight ∧ first.id ≤ second.id) := by
  rw [staleOrder, Bool.or_eq_true, Bool.and_eq_true, beq_iff_eq, decide_eq_true_iff,
    decide_eq_true_iff]

theorem staleOrder_ranked (first second : Candidate) :
    staleOrder first second = true ↔ first.targetHeight.toNat < second.targetHeight.toNat ∨
      (first.targetHeight.toNat = second.targetHeight.toNat ∧
        first.id.toNat ≤ second.id.toNat) := by
  rw [staleOrder_iff, UInt32.lt_iff_toNat_lt, ← UInt32.toNat_inj, BitVec.le_def]

theorem mem_deletable_iff :
    candidate ∈ terms.deletable ↔
      candidate ∈ terms.expired ∧ some candidate.id ≠ terms.funded?.map Candidate.id := by
  rw [deletable, List.mem_mergeSort, List.mem_filter, decide_eq_true_iff]

theorem nodup_deletable (named : terms.Named) : (terms.deletable.map Candidate.id).Nodup := by
  rw [deletable]
  exact ((List.mergeSort_perm _ _).map Candidate.id).nodup_iff.mpr
    (named.expired.sublist (List.filter_sublist.map _))

theorem precedes_deletable (named : terms.Named) :
    terms.deletable.Pairwise (Candidate.Precedes Candidate.targetHeight) := by
  have sorted : terms.deletable.Pairwise fun first second => staleOrder first second = true := by
    exact pairwise_mergeSort_of_ranks staleOrder_ranked _
  refine (sorted.and (List.pairwise_map.mp (nodup_deletable named))).imp ?_
  rintro first second ⟨below, differ⟩
  rcases staleOrder_iff.mp below with less | ⟨same, name⟩
  · exact Or.inl (Std.compare_eq_lt.mpr less)
  · exact Candidate.precedes_of_le same name differ

/-! ### The votes of a plan -/

/-- The approval of what is funded, unless it was cast before. -/
def approvals (terms : PlanTerms) (cast : Cast) : List VoteIntent :=
  (terms.funded?.map fun candidate => fundingIntents cast candidate.id).getD []

/-- Votes on the first of the candidates on whom there is none of the kind yet. -/
def firstVotes (cast : Cast) (signal : VoteSignal) (outcome : VoteOutcome) (most : Nat)
    (candidates : List Candidate) : List VoteIntent :=
  ((candidates.map Candidate.id).filterMap (intent? cast signal outcome)).take most

theorem intents_eq :
    (terms.plan cast).intents = terms.approvals cast ++
      firstVotes cast .funding .no terms.maxNoVotes terms.opposed ++
      firstVotes cast .delete .yes terms.maxDeleteVotes terms.deletable := rfl

variable {signal : VoteSignal} {outcome : VoteOutcome} {most : Nat} {candidates : List Candidate}

theorem firstVotes_eq :
    firstVotes cast signal outcome most candidates =
      ((candidates.filter fun candidate => cast candidate.id signal ≠ some outcome).take most).map
        fun candidate => ⟨candidate.id, signal, outcome⟩ := by
  rw [firstVotes, List.map_take]
  refine congrArg (List.take most) ?_
  induction candidates with
  | nil => rfl
  | cons candidate rest inductionHypothesis =>
    rw [List.map_cons, List.filterMap_cons, inductionHypothesis, List.filter_cons, intent?]
    by_cases done : cast candidate.id signal = some outcome
    · rw [if_pos done, if_neg (by simpa using done)]
    · rw [if_neg done, if_pos (by simpa using done), List.map_cons]

theorem areFirst_firstVotes {κ : Type} [Ord κ] {key : Candidate → κ}
    (ordered : candidates.Pairwise (Candidate.Precedes key)) :
    AreFirst (firstVotes cast signal outcome most candidates) signal outcome most key
      fun candidate => candidate ∈ candidates ∧ cast candidate.id signal ≠ some outcome :=
  ⟨_, fun candidate => by rw [List.mem_filter, decide_eq_true_iff], ordered.filter _, firstVotes_eq⟩

theorem mem_firstVotes (member : intent ∈ firstVotes cast signal outcome most candidates) :
    ∃ candidate ∈ candidates, intent = ⟨candidate.id, signal, outcome⟩ ∧
      cast candidate.id signal ≠ some outcome :=
  mem_take_intents member

/-- Approving votes go to the candidate that is funded. -/
theorem mem_approvals_iff :
    intent ∈ terms.approvals cast ↔ ∃ candidate, terms.funded? = some candidate ∧
      ((intent = ⟨candidate.id, .funding, .yes⟩ ∧ cast candidate.id .funding ≠ some .yes) ∨
        (intent = ⟨candidate.id, .delete, .no⟩ ∧ cast candidate.id .delete = some .yes)) := by
  rw [approvals]
  cases terms.funded? with
  | none => exact iff_of_false List.not_mem_nil (by rintro ⟨_, ⟨⟩, _⟩)
  | some candidate =>
    rw [Option.map_some, Option.getD_some, mem_fundingIntents_iff]
    constructor
    · exact fun planned => ⟨candidate, rfl, planned⟩
    · rintro ⟨_, ⟨⟩, planned⟩
      exact planned

theorem mem_intents_iff :
    intent ∈ (terms.plan cast).intents ↔ intent ∈ terms.approvals cast ∨
      intent ∈ firstVotes cast .funding .no terms.maxNoVotes terms.opposed ∨
      intent ∈ firstVotes cast .delete .yes terms.maxDeleteVotes terms.deletable := by
  rw [intents_eq, List.mem_append, List.mem_append, or_assoc]

/-- A vote for funding is an approval, and so is a vote against deletion. -/
theorem mem_approvals_of_outcome (member : intent ∈ (terms.plan cast).intents)
    (favours : intent.signal = .funding ∧ intent.outcome = .yes ∨
      intent.signal = .delete ∧ intent.outcome = .no) : intent ∈ terms.approvals cast := by
  rcases mem_intents_iff.mp member with approved | rejected | deleted
  · exact approved
  · obtain ⟨_, _, rfl, _⟩ := mem_firstVotes rejected
    rcases favours with ⟨_, ⟨⟩⟩ | ⟨⟨⟩, _⟩
  · obtain ⟨_, _, rfl, _⟩ := mem_firstVotes deleted
    rcases favours with ⟨⟨⟩, _⟩ | ⟨_, ⟨⟩⟩

theorem mem_approval_iff {object : ObjectId} :
    ⟨object, .funding, .yes⟩ ∈ (terms.plan cast).intents ↔
      (∃ candidate, terms.funded? = some candidate ∧ candidate.id = object) ∧
        cast object .funding ≠ some .yes := by
  constructor
  · intro member
    obtain ⟨candidate, funded, ⟨same, uncast⟩ | ⟨same, _⟩⟩ :=
      mem_approvals_iff.mp (mem_approvals_of_outcome member (Or.inl ⟨rfl, rfl⟩))
    · cases same
      exact ⟨⟨candidate, funded, rfl⟩, uncast⟩
    · cases same
  · rintro ⟨⟨candidate, funded, rfl⟩, uncast⟩
    exact mem_intents_iff.mpr
      (Or.inl (mem_approvals_iff.mpr ⟨candidate, funded, Or.inl ⟨rfl, uncast⟩⟩))

theorem mem_retention_iff {object : ObjectId} :
    ⟨object, .delete, .no⟩ ∈ (terms.plan cast).intents ↔
      (∃ candidate, terms.funded? = some candidate ∧ candidate.id = object) ∧
        cast object .delete = some .yes := by
  constructor
  · intro member
    obtain ⟨candidate, funded, ⟨same, _⟩ | ⟨same, asked⟩⟩ :=
      mem_approvals_iff.mp (mem_approvals_of_outcome member (Or.inr ⟨rfl, rfl⟩))
    · cases same
    · cases same
      exact ⟨⟨candidate, funded, rfl⟩, asked⟩
  · rintro ⟨⟨candidate, funded, rfl⟩, asked⟩
    exact mem_intents_iff.mpr
      (Or.inl (mem_approvals_iff.mpr ⟨candidate, funded, Or.inr ⟨rfl, asked⟩⟩))

/-- No vote is planned that has been cast. -/
theorem cast_ne_of_mem_intents (member : intent ∈ (terms.plan cast).intents) :
    cast intent.object intent.signal ≠ some intent.outcome := by
  rcases mem_intents_iff.mp member with approved | rejected | deleted
  · obtain ⟨candidate, _, ⟨rfl, uncast⟩ | ⟨rfl, asked⟩⟩ := mem_approvals_iff.mp approved
    · exact uncast
    · show cast candidate.id .delete ≠ some .no
      rw [asked]
      exact fun same => absurd same (by decide)
  · obtain ⟨_, _, rfl, uncast⟩ := mem_firstVotes rejected
    exact uncast
  · obtain ⟨_, _, rfl, uncast⟩ := mem_firstVotes deleted
    exact uncast

theorem outcome_ne_abstain (member : intent ∈ (terms.plan cast).intents) :
    intent.outcome ≠ .abstain := by
  rcases mem_intents_iff.mp member with approved | rejected | deleted
  · obtain ⟨_, _, ⟨rfl, _⟩ | ⟨rfl, _⟩⟩ := mem_approvals_iff.mp approved <;> simp
  · obtain ⟨_, _, rfl, _⟩ := mem_firstVotes rejected
    simp
  · obtain ⟨_, _, rfl, _⟩ := mem_firstVotes deleted
    simp

/-! ### One vote on an object and signal -/

theorem nodup_opposed (named : terms.Named) : (terms.opposed.map Candidate.id).Nodup := by
  refine List.Nodup.map_on (fun first one second another same => ?_)
    (Candidate.nodup_of_precedes (precedes_opposed named))
  exact named.eq_of_id (mem_opposed_iff.mp one).1 (mem_opposed_iff.mp another).1 same

/-- Votes with different places: they are on different objects or signals. -/
def Apart (first second : VoteIntent) : Prop :=
  (first.object, first.signal) ≠ (second.object, second.signal)

theorem apart_of_signal {first second : VoteIntent} (differ : first.signal ≠ second.signal) :
    Apart first second :=
  fun same => differ (Prod.mk.inj same).2

theorem apart_of_object {first second : VoteIntent} (differ : first.object ≠ second.object) :
    Apart first second :=
  fun same => differ (Prod.mk.inj same).1

theorem apart_firstVotes (distinct : (candidates.map Candidate.id).Nodup) :
    (firstVotes cast signal outcome most candidates).Pairwise Apart := by
  rw [firstVotes_eq, List.pairwise_map]
  refine List.Pairwise.sublist ((List.take_sublist _ _).trans List.filter_sublist) ?_
  exact (List.pairwise_map.mp distinct).imp apart_of_object

theorem apart_approvals : (terms.approvals cast).Pairwise Apart := by
  have single : ∀ vote : Option VoteIntent, vote.toList.Pairwise Apart := by
    intro vote
    cases vote with
    | none => exact List.Pairwise.nil
    | some vote => exact List.pairwise_singleton _ _
  rw [approvals]
  cases terms.funded? with
  | none => exact List.Pairwise.nil
  | some candidate =>
    rw [Option.map_some, Option.getD_some, fundingIntents]
    split
    · refine List.pairwise_append.mpr ⟨single _, single _, fun first one second another => ?_⟩
      obtain ⟨rfl, _⟩ := intent?_eq_some_iff.mp (Option.mem_toList.mp one)
      obtain ⟨rfl, _⟩ := intent?_eq_some_iff.mp (Option.mem_toList.mp another)
      exact apart_of_signal (by simp)
    · rw [List.append_nil]
      exact single _

/-- The funded candidate is neither rejected nor deleted, so no two votes share a place. -/
theorem apart_intents (named : terms.Named) : (terms.plan cast).intents.Pairwise Apart := by
  rw [intents_eq, List.pairwise_append, List.pairwise_append]
  refine ⟨⟨apart_approvals, apart_firstVotes (nodup_opposed named), ?_⟩,
    apart_firstVotes (nodup_deletable named), ?_⟩
  · intro approved one rejected another
    obtain ⟨opposed, inside, rfl, _⟩ := mem_firstVotes another
    obtain ⟨funded, found, ⟨rfl, _⟩ | ⟨rfl, _⟩⟩ := mem_approvals_iff.mp one
    · refine apart_of_object fun same => ?_
      obtain ⟨member, carries, _⟩ := localMatch?_spec (funded?_spec found).1
      obtain ⟨within, differs⟩ := mem_opposed_iff.mp inside
      exact differs (named.eq_of_id member within same ▸ carries)
    · exact apart_of_signal (by simp)
  · intro vote one deleted another
    obtain ⟨stale, inside, rfl, _⟩ := mem_firstVotes another
    rcases List.mem_append.mp one with approved | rejected
    · obtain ⟨funded, found, ⟨rfl, _⟩ | ⟨rfl, _⟩⟩ := mem_approvals_iff.mp approved
      · exact apart_of_signal (by simp)
      · refine apart_of_object fun same => (mem_deletable_iff.mp inside).2 ?_
        rw [found]
        exact congrArg some same.symm
    · obtain ⟨_, _, rfl, _⟩ := mem_firstVotes rejected
      exact apart_of_signal (by simp)

/-! ### The votes by their kind -/

theorem votes_funding_no :
    (terms.plan cast).votes .funding .no =
      firstVotes cast .funding .no terms.maxNoVotes terms.opposed := by
  rw [VotePlan.votes, intents_eq, List.filter_append, List.filter_append,
    List.filter_eq_nil_iff.mpr, List.filter_eq_self.mpr, List.filter_eq_nil_iff.mpr,
    List.nil_append, List.append_nil]
  · intro deleted member
    obtain ⟨_, _, rfl, _⟩ := mem_firstVotes member
    simp
  · intro rejected member
    obtain ⟨_, _, rfl, _⟩ := mem_firstVotes member
    rfl
  · intro approved member
    obtain ⟨_, _, ⟨rfl, _⟩ | ⟨rfl, _⟩⟩ := mem_approvals_iff.mp member <;> simp

theorem votes_delete_yes :
    (terms.plan cast).votes .delete .yes =
      firstVotes cast .delete .yes terms.maxDeleteVotes terms.deletable := by
  rw [VotePlan.votes, intents_eq, List.filter_append, List.filter_append,
    List.filter_eq_nil_iff.mpr, List.filter_eq_nil_iff.mpr, List.filter_eq_self.mpr,
    List.append_nil, List.nil_append]
  · intro deleted member
    obtain ⟨_, _, rfl, _⟩ := mem_firstVotes member
    rfl
  · intro rejected member
    obtain ⟨_, _, rfl, _⟩ := mem_firstVotes member
    simp
  · intro approved member
    obtain ⟨_, _, ⟨rfl, _⟩ | ⟨rfl, _⟩⟩ := mem_approvals_iff.mp member <;> simp

/-- All approvals name the funded candidate, so there is one at most. -/
theorem length_votes_funding_yes (named : terms.Named) :
    ((terms.plan cast).votes .funding .yes).length ≤ 1 := by
  have distinct : ((terms.plan cast).votes .funding .yes).Nodup :=
    ((apart_intents named).imp fun apart same => apart (by rw [same])).filter _
  have kind : ∀ intent ∈ (terms.plan cast).votes .funding .yes, ∃ candidate,
      terms.funded? = some candidate ∧ intent = ⟨candidate.id, .funding, .yes⟩ := by
    intro intent member
    obtain ⟨inside, favours⟩ := List.mem_filter.mp member
    obtain ⟨candidate, funded, ⟨same, _⟩ | ⟨same, _⟩⟩ := mem_approvals_iff.mp
      (mem_approvals_of_outcome inside (Or.inl (of_decide_eq_true favours)))
    · exact ⟨candidate, funded, same⟩
    · rw [same] at favours
      simp at favours
  cases votes : (terms.plan cast).votes .funding .yes with
  | nil => exact Nat.zero_le 1
  | cons first rest =>
    rw [votes] at distinct kind
    have alike : ∀ intent ∈ first :: rest, intent = first := by
      intro intent member
      obtain ⟨candidate, funded, rfl⟩ := kind intent member
      obtain ⟨_, same, equal⟩ := kind first List.mem_cons_self
      cases funded.symm.trans same
      exact equal.symm
    rw [List.eq_replicate_of_mem alike] at distinct
    exact List.nodup_replicate.mp distinct

/-! ### The order of the candidates -/

variable {expired : List Candidate}

/-- The terms with other lists of candidates and stale objects. -/
abbrev listing (terms : PlanTerms) (candidates expired : List Candidate) : PlanTerms :=
  { terms with candidates := candidates, expired := expired }

theorem Named.listing (named : terms.Named) (alike : terms.candidates.Perm candidates)
    (expiredAlike : terms.expired.Perm expired) : (terms.listing candidates expired).Named where
  candidates := (alike.map Candidate.id).nodup_iff.mp named.candidates
  expired := (expiredAlike.map Candidate.id).nodup_iff.mp named.expired

section Reordered

variable (named : terms.Named) (alike : terms.candidates.Perm candidates)
  (expiredAlike : terms.expired.Perm expired)

include named alike expiredAlike

theorem localMatch?_listing :
    (terms.listing candidates expired).localMatch? = terms.localMatch? := by
  refine Option.ext fun candidate => ?_
  rw [localMatch?_eq_some_iff named, localMatch?_eq_some_iff (named.listing alike expiredAlike)]
  simp only [alike.mem_iff]

theorem funded?_listing : (terms.listing candidates expired).funded? = terms.funded? := by
  rw [funded?, funded?, localMatch?_listing named alike expiredAlike]

theorem winner?_listing : (terms.listing candidates expired).winner? = terms.winner? := by
  refine Option.ext fun candidate => ?_
  have reordered := named.listing alike expiredAlike
  rw [winner?, winner?,
    Election.winner?_eq_some_iff fun _ one _ another same => named.eq_of_id one another same,
    Election.winner?_eq_some_iff fun _ one _ another same => reordered.eq_of_id one another same]
  simp only [alike.mem_iff]

theorem opposed_listing : (terms.listing candidates expired).opposed = terms.opposed := by
  have ordered := precedes_opposed named
  have reordered := precedes_opposed (named.listing alike expiredAlike)
  refine Candidate.eq_of_perm_of_precedes ?_ reordered ordered
  rw [List.perm_ext_iff_of_nodup (Candidate.nodup_of_precedes reordered)
    (Candidate.nodup_of_precedes ordered)]
  intro candidate
  rw [mem_opposed_iff, mem_opposed_iff, alike.mem_iff]

theorem deletable_listing : (terms.listing candidates expired).deletable = terms.deletable := by
  have ordered := precedes_deletable named
  have reordered := precedes_deletable (named.listing alike expiredAlike)
  refine Candidate.eq_of_perm_of_precedes ?_ reordered ordered
  rw [List.perm_ext_iff_of_nodup (Candidate.nodup_of_precedes reordered)
    (Candidate.nodup_of_precedes ordered)]
  intro candidate
  rw [mem_deletable_iff, mem_deletable_iff, expiredAlike.mem_iff,
    funded?_listing named alike expiredAlike]

theorem plan_listing : (terms.listing candidates expired).plan cast = terms.plan cast := by
  rw [plan, plan, warning?, warning?, localMatch?_listing named alike expiredAlike,
    funded?_listing named alike expiredAlike, winner?_listing named alike expiredAlike,
    opposed_listing named alike expiredAlike, deletable_listing named alike expiredAlike]

end Reordered

/-! ### The prescribed plan -/

theorem rejects_plan (named : terms.Named) :
    AreFirst ((terms.plan cast).votes .funding .no) .funding .no terms.maxNoVotes
      Candidate.fingerprint fun candidate => candidate ∈ terms.candidates ∧
        candidate.fingerprint ≠ terms.localFingerprint ∧ cast candidate.id .funding ≠ some .no := by
  rw [votes_funding_no]
  refine (areFirst_firstVotes (precedes_opposed named)).congr fun candidate => ?_
  rw [mem_opposed_iff, and_assoc]

theorem deletes_plan (named : terms.Named) :
    AreFirst ((terms.plan cast).votes .delete .yes) .delete .yes terms.maxDeleteVotes
      Candidate.targetHeight fun candidate => candidate ∈ terms.expired ∧
        (∀ funded, terms.IsFunded funded → candidate.id ≠ funded.id) ∧
        cast candidate.id .delete ≠ some .yes := by
  rw [votes_delete_yes]
  refine (areFirst_firstVotes (precedes_deletable named)).congr fun candidate => ?_
  have spared : some candidate.id ≠ terms.funded?.map Candidate.id ↔
      ∀ funded, terms.IsFunded funded → candidate.id ≠ funded.id := by
    simp only [← funded?_eq_some_iff named]
    cases terms.funded? <;> simp
  rw [mem_deletable_iff, spared, and_assoc]

/-- The plan holds the votes that the terms prescribe and no others, whatever the order in which
the candidates and the stale objects are given. -/
theorem plan_is_prescribed (named : terms.Named) (cast : Cast) :
    terms.Prescribes cast (terms.plan cast) ∧
      ∀ candidates expired, terms.candidates.Perm candidates → terms.expired.Perm expired →
        (terms.listing candidates expired).plan cast = terms.plan cast := by
  refine ⟨?_, fun _ _ alike expiredAlike => plan_listing named alike expiredAlike⟩
  exact
    { approves := fun object => by
        simp only [mem_approval_iff, funded?_eq_some_iff named]
      approvesOnce := length_votes_funding_yes named
      rejects := rejects_plan named
      deletes := deletes_plan named
      keeps := fun object => by
        simp only [mem_retention_iff, funded?_eq_some_iff named]
      decisive := fun _ => outcome_ne_abstain
      once := List.pairwise_map.mpr (apart_intents named)
      fresh := fun _ => cast_ne_of_mem_intents }

end PlanTerms

namespace SamplePlan

/-- A candidate for a height with a fingerprint and nothing else of its own. -/
def candidate (id : ObjectId) (target : Height) (fingerprint : Hash256) : Candidate :=
  { id := id, targetHeight := target, fingerprint := ⟨fingerprint⟩, netYes := 0,
    total := some 900, creationTime := 0 }

/-- Two objects with the local fingerprint, two with others, and three stale ones. -/
def terms : PlanTerms :=
  { height := 20, localFingerprint := ⟨7⟩
    candidates := [candidate 5 20 7, candidate 2 20 9, candidate 3 20 7, candidate 4 20 8]
    expired := [candidate 1 12 7, candidate 3 20 7, candidate 6 11 7]
    budgetLimit := 1000, required := 1, maxNoVotes := 1, maxDeleteVotes := 1 }

/-- A request to delete the third object, and a rejection of the fourth. -/
def cast : PlanTerms.Cast := fun object signal =>
  if object = 3 ∧ signal = .delete then some .yes
  else if object = 4 ∧ signal = .funding then some .no
  else none

end SamplePlan

theorem sample_plan_is_prescribed :
    SamplePlan.terms.Named ∧
      SamplePlan.terms.Prescribes SamplePlan.cast (SamplePlan.terms.plan SamplePlan.cast) ∧
      (SamplePlan.terms.listing SamplePlan.terms.candidates.reverse
        SamplePlan.terms.expired.reverse).plan SamplePlan.cast =
          SamplePlan.terms.plan SamplePlan.cast ∧
      ⟨3, .funding, .yes⟩ ∈ (SamplePlan.terms.plan SamplePlan.cast).intents ∧
      ⟨3, .delete, .no⟩ ∈ (SamplePlan.terms.plan SamplePlan.cast).intents := by
  have named : SamplePlan.terms.Named := ⟨by decide, by decide⟩
  obtain ⟨prescribed, reordered⟩ := PlanTerms.plan_is_prescribed named SamplePlan.cast
  have funded : ∃ candidate, SamplePlan.terms.IsFunded candidate ∧ candidate.id = 3 :=
    ⟨SamplePlan.candidate 3 20 7, ⟨by decide, rfl, by decide, by decide⟩, rfl⟩
  exact ⟨named, prescribed, reordered _ _ (List.reverse_perm _).symm (List.reverse_perm _).symm,
    (prescribed.approves 3).mpr ⟨funded, by decide⟩, (prescribed.keeps 3).mpr ⟨funded, rfl⟩⟩

end SuperblockGovernance

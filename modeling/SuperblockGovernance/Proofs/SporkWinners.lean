/-
The selection of sporks. What a proposal wins with is said by its fields alone, and the winners
are the settings of all proposals that win, in the order in which these were created. So neither
the order in which a host lists its proposals matters, nor whether it leaves out those that were
created before the window: no such proposal is young enough to win. The section that is made of
the winners reads back as itself where no text in it holds a bracket.
-/

import Mathlib.Data.List.Forall2
import Mathlib.Data.List.Nodup
import SuperblockGovernance.Engine.LocalContract
import SuperblockGovernance.Host.Fixture
import SuperblockGovernance.Proofs.SortedMaps
import SuperblockGovernance.Proofs.SporkTexts

namespace SuperblockGovernance

/-! ### Cuts at a separator -/

theorem Text.cutOnce?_eq_some_iff {separator : Char} {text before after : List Char} :
    Text.cutOnce? separator text = some (before, after) ↔
      text = before ++ separator :: after ∧ separator ∉ before := by
  constructor
  · intro cut
    refine ⟨by simpa using Text.append_of_cutAt? cut, ?_⟩
    induction text generalizing before with
    | nil => cases cut
    | cons character rest inductionHypothesis =>
      rw [cutOnce?, cutAt?] at cut
      split at cut
      · cases cut
        exact List.not_mem_nil
      · rename_i differs
        obtain ⟨⟨skipped, _⟩, inner, same⟩ := Option.map_eq_some_iff.mp cut
        cases same
        refine List.not_mem_cons_of_ne_of_not_mem (fun same => ?_) (inductionHypothesis inner)
        subst same
        cases (List.isPrefixOf?_eq_some_iff_append_eq.mpr rfl).symm.trans differs
  · rintro ⟨rfl, absent⟩
    rw [cutOnce?, Text.cutAt?_append_of_notMem absent]
    have behind : Text.cutAt? [separator] ([separator] ++ after) = some ([], after) :=
      Text.cutAt?_append_self _ _ (List.cons_ne_nil _ _)
    rw [show separator :: after = [separator] ++ after from rfl, behind]
    exact congrArg some (Prod.ext (List.append_nil before) rfl)

namespace Proposal

variable {proposal first second : Proposal} {winner other : WinningSpork}
variable {now since : Timestamp} {identities : UInt32} {rules : SporkRules}
variable {proposals others : List Proposal} {winners : List WinningSpork}

/-! ### What a proposal wins with -/

/-- A proposal wins with a setting, which its name writes as key, bar and value. -/
structure Wins (rules : SporkRules) (now : Timestamp) (identities : UInt32) (proposal : Proposal)
    (winner : WinningSpork) : Prop where
  spork : proposal.expenseType ∈ ["SPORK", "XSPORK-ORPHAN", "XSPORK-CHARITY", "XSPORK-EXPENSE"]
  young : now.toNat ≤ min (proposal.createdAt.toNat + rules.windowSecs.toNat) (2 ^ 64 - 1)
  ripe : rules.minAgeSecs.toNat < now.toNat - proposal.createdAt.toNat
  approved : requiredVotes identities rules.votePercent ≤
    (proposal.yes.toNat : Int) - proposal.no.toNat
  name : proposal.name.toList = winner.key.toList ++ '|' :: winner.value.toList
  firstBar : '|' ∉ winner.key.toList
  key : winner.key ≠ ""
  value : winner.value ≠ ""
  carrier : winner.proposal = proposal.hash
  sporkType : winner.sporkType = proposal.expenseType

theorem setting?_eq_some_iff :
    proposal.setting? = some winner ↔
      (proposal.name.toList = winner.key.toList ++ '|' :: winner.value.toList ∧
        '|' ∉ winner.key.toList) ∧ (winner.key ≠ "" ∧ winner.value ≠ "") ∧
        winner.proposal = proposal.hash ∧ winner.sporkType = proposal.expenseType := by
  obtain ⟨carrier, sporkType, key, value⟩ := winner
  rw [← Text.cutOnce?_eq_some_iff]
  constructor
  · intro found
    obtain ⟨⟨front, back⟩, cut, same⟩ := Option.bind_eq_some_iff.mp found
    dsimp only at same
    split at same
    · cases same
    · rename_i filled
      cases same
      rw [String.toList_ofList, String.toList_ofList]
      refine ⟨cut, ?_, rfl, rfl⟩
      rw [ne_eq, String.ofList_eq_empty_iff, ne_eq, String.ofList_eq_empty_iff]
      exact not_or.mp filled
  · rintro ⟨cut, ⟨filledKey, filledValue⟩, rfl, rfl⟩
    refine Option.bind_eq_some_iff.mpr ⟨_, cut, ?_⟩
    have filled : ¬(key.toList = [] ∨ value.toList = []) := by
      rw [String.toList_eq_nil_iff, String.toList_eq_nil_iff]
      exact not_or.mpr ⟨filledKey, filledValue⟩
    simp only [if_neg filled, String.ofList_toList]

theorem wins_iff :
    proposal.Wins rules now identities winner ↔
      proposal.Passes now identities rules ∧ proposal.setting? = some winner := by
  rw [setting?_eq_some_iff]
  constructor
  · rintro ⟨spork, young, ripe, approved, name, firstBar, key, value, carrier, sporkType⟩
    exact ⟨⟨spork, young, ripe, approved⟩, ⟨name, firstBar⟩, ⟨key, value⟩, carrier, sporkType⟩
  · rintro ⟨⟨spork, young, ripe, approved⟩, ⟨name, firstBar⟩, ⟨key, value⟩, carrier, sporkType⟩
    exact ⟨spork, young, ripe, approved, name, firstBar, key, value, carrier, sporkType⟩

theorem exists_wins_iff :
    (∃ winner, proposal.Wins rules now identities winner) ↔
      proposal.Passes now identities rules ∧ proposal.setting?.isSome = true := by
  rw [Option.isSome_iff_exists, ← exists_and_left]
  exact exists_congr fun winner => wins_iff

theorem Wins.unique (one : proposal.Wins rules now identities winner)
    (same : proposal.Wins rules now identities other) : winner = other :=
  Option.some.inj ((wins_iff.mp one).2.symm.trans (wins_iff.mp same).2)

/-- A proposal that wins was created in the window before now. -/
theorem Wins.since_le (wins : proposal.Wins rules now identities winner) :
    UInt64.ofNat (now.toNat - rules.windowSecs.toNat) ≤ proposal.createdAt := by
  have young := wins.young
  have small : now.toNat - rules.windowSecs.toNat < UInt64.size :=
    Nat.lt_of_le_of_lt (Nat.sub_le _ _) now.toNat_lt
  rw [UInt64.le_iff_toNat_le, UInt64.toNat_ofNat_of_lt' small]
  omega

/-! ### The order of proposals -/

/-- By creation, then by hash. -/
def Before (first second : Proposal) : Prop :=
  first.createdAt < second.createdAt ∨
    (first.createdAt = second.createdAt ∧ first.hash < second.hash)

instance (first second : Proposal) : Decidable (first.Before second) :=
  inferInstanceAs (Decidable (_ ∨ _))

theorem before_iff :
    first.Before second ↔ first.createdAt.toNat < second.createdAt.toNat ∨
      (first.createdAt.toNat = second.createdAt.toNat ∧
        first.hash.toNat < second.hash.toNat) := by
  rw [Before, UInt64.lt_iff_toNat_lt, ← UInt64.toNat_inj, BitVec.lt_def]

theorem Before.asymm (one : first.Before second) : ¬second.Before first := by
  rw [before_iff] at *
  omega

theorem precedes_ranked (first second : Proposal) :
    precedes first second = true ↔ first.createdAt.toNat < second.createdAt.toNat ∨
      (first.createdAt.toNat = second.createdAt.toNat ∧
        first.hash.toNat ≤ second.hash.toNat) := by
  rw [precedes, Bool.or_eq_true, Bool.and_eq_true, beq_iff_eq, decide_eq_true_iff,
    decide_eq_true_iff, UInt64.lt_iff_toNat_lt, ← UInt64.toNat_inj, BitVec.le_def]

theorem before_mergeSort (distinct : (proposals.map hash).Nodup) :
    (proposals.mergeSort precedes).Pairwise Before := by
  have apart : (proposals.map fun proposal =>
      (proposal.createdAt.toNat, proposal.hash.toNat)).Nodup := by
    refine List.pairwise_map.mpr ((List.pairwise_map.mp distinct).imp fun differ same => differ ?_)
    exact BitVec.eq_of_toNat_eq (Prod.mk.inj same).2
  exact (pairwise_lt_mergeSort_of_ranks precedes_ranked apart).imp before_iff.mpr

theorem eq_of_before (ordered : proposals.Pairwise Before) (othersOrdered : others.Pairwise Before)
    (alike : ∀ proposal, proposal ∈ proposals ↔ proposal ∈ others) : proposals = others := by
  have irreflexive : ∀ {list : List Proposal}, list.Pairwise Before → list.Nodup := fun ordered =>
    ordered.imp fun below same => (same ▸ below).asymm (same ▸ below)
  refine ((List.perm_ext_iff_of_nodup (irreflexive ordered)
    (irreflexive othersOrdered)).mpr alike).eq_of_pairwise ?_ ordered othersOrdered
  exact fun _ _ _ _ below above => absurd above below.asymm

end Proposal

/-! ### The winners -/

/-- The winners among some proposals: what the proposals that win do so with, by their creation. -/
def AreWinners (rules : SporkRules) (now : Timestamp) (identities : UInt32)
    (proposals : List Proposal) (winners : List WinningSpork) : Prop :=
  ∃ carriers : List Proposal, carriers.Pairwise Proposal.Before ∧
    (∀ proposal, proposal ∈ carriers ↔
      proposal ∈ proposals ∧ ∃ winner, proposal.Wins rules now identities winner) ∧
    List.Forall₂ (fun carrier winner => carrier.Wins rules now identities winner) carriers winners

section

variable {now since : Timestamp} {identities : UInt32} {rules : SporkRules}
variable {proposals others : List Proposal} {winners otherWinners : List WinningSpork}

theorem AreWinners.unique (one : AreWinners rules now identities proposals winners)
    (other : AreWinners rules now identities proposals otherWinners) : winners = otherWinners := by
  obtain ⟨carriers, ordered, members, carried⟩ := one
  obtain ⟨otherCarriers, otherOrdered, otherMembers, otherCarried⟩ := other
  obtain rfl : carriers = otherCarriers := Proposal.eq_of_before ordered otherOrdered
    fun proposal => (members proposal).trans (otherMembers proposal).symm
  exact List.right_unique_forall₂' (fun _ _ _ one same => one.unique same) carried otherCarried

/-- The winners do not change with proposals that do not win. -/
theorem AreWinners.congr (won : AreWinners rules now identities proposals winners)
    (alike : ∀ proposal winner, proposal.Wins rules now identities winner →
      (proposal ∈ proposals ↔ proposal ∈ others)) :
    AreWinners rules now identities others winners := by
  obtain ⟨carriers, ordered, members, carried⟩ := won
  refine ⟨carriers, ordered, fun proposal => (members proposal).trans ?_, carried⟩
  exact and_congr_left fun ⟨winner, wins⟩ => alike proposal winner wins

/-- The settings of proposals that pass are what those of them win with that carry one. -/
theorem forall₂_filterMap_setting? {passing : List Proposal}
    (pass : ∀ proposal ∈ passing, proposal.Passes now identities rules) :
    List.Forall₂ (fun carrier winner => carrier.Wins rules now identities winner)
      (passing.filter fun proposal => proposal.setting?.isSome)
      (passing.filterMap Proposal.setting?) := by
  induction passing with
  | nil => exact .nil
  | cons proposal rest inductionHypothesis =>
    obtain ⟨passes, restPass⟩ := List.forall_mem_cons.mp pass
    cases found : proposal.setting? with
    | none =>
      rw [List.filterMap_cons_none found, List.filter_cons_of_neg (by simp [found])]
      exact inductionHypothesis restPass
    | some winner =>
      rw [List.filterMap_cons_some found, List.filter_cons_of_pos (by simp [found])]
      exact .cons (Proposal.wins_iff.mpr ⟨passes, found⟩) (inductionHypothesis restPass)

/-- Proposals with different hashes have the winners that are selected. -/
theorem areWinners_winningSporks (distinct : (proposals.map Proposal.hash).Nodup) :
    AreWinners rules now identities proposals
      (winningSporks proposals now identities rules) := by
  have members : ∀ proposal, proposal ∈ ((proposals.filter fun proposal =>
      proposal.Passes now identities rules).mergeSort Proposal.precedes) ↔
        proposal ∈ proposals ∧ proposal.Passes now identities rules := by
    intro proposal
    rw [List.mem_mergeSort, List.mem_filter, decide_eq_true_iff]
  have ordered := Proposal.before_mergeSort (distinct.sublist
    ((List.filter_sublist (p := fun proposal : Proposal =>
      proposal.Passes now identities rules)).map Proposal.hash))
  refine ⟨_, ordered.filter fun proposal => proposal.setting?.isSome, fun proposal => ?_, ?_⟩
  · rw [List.mem_filter, members, and_assoc, Proposal.exists_wins_iff]
  · exact forall₂_filterMap_setting? fun proposal member => ((members proposal).mp member).2

theorem winningSporks_eq_iff (distinct : (proposals.map Proposal.hash).Nodup) :
    winningSporks proposals now identities rules = winners ↔
      AreWinners rules now identities proposals winners := by
  constructor
  · rintro rfl
    exact areWinners_winningSporks distinct
  · exact (areWinners_winningSporks distinct).unique

/-- The same proposals win, whatever proposals that do not win stand beside them. -/
theorem winningSporks_congr (distinct : (proposals.map Proposal.hash).Nodup)
    (othersDistinct : (others.map Proposal.hash).Nodup)
    (alike : ∀ proposal winner, proposal.Wins rules now identities winner →
      (proposal ∈ proposals ↔ proposal ∈ others)) :
    winningSporks proposals now identities rules = winningSporks others now identities rules :=
  (winningSporks_eq_iff distinct).mpr ((areWinners_winningSporks othersDistinct).congr
    fun proposal winner wins => (alike proposal winner wins).symm)

end

/-! ### What a host is asked for -/

/-- The host lists, in some order, those of the proposals that were created at a time or later. -/
def Host.Proposes (host : Host) (proposals : List Proposal) : Prop :=
  ∀ since, (host.proposalsSince since).Perm
    (proposals.filter fun proposal => since ≤ proposal.createdAt)

/-- Among the proposals of the window the same ones win as among all proposals. -/
theorem Engine.currentSporks_eq {σ : Type} {engine : Engine σ} {host : Host}
    {proposals : List Proposal} (distinct : (proposals.map Proposal.hash).Nodup)
    (proposed : host.Proposes proposals) :
    engine.currentSporks host = winningSporks proposals host.now
      (host.validIdentityCount host.tipHeight) engine.config.sporkRules := by
  have listed := proposed
    (UInt64.ofNat (host.now.toNat - engine.config.sporkRules.windowSecs.toNat))
  have listedDistinct := (listed.map Proposal.hash).nodup_iff.mpr
    (distinct.sublist (List.filter_sublist.map Proposal.hash))
  refine winningSporks_congr listedDistinct distinct fun proposal winner wins => ?_
  rw [listed.mem_iff, List.mem_filter, decide_eq_true_iff]
  exact and_iff_left wins.since_le

/-! ### The section of the winners -/

/-- The texts of a winner. -/
def WinningSpork.texts (winner : WinningSpork) : List String :=
  [winner.sporkType, winner.key, winner.value]

namespace SporkSection

variable {signer text : String} {winners : List WinningSpork}

theorem entries_ofWinners (signer : String) (winners : List WinningSpork) :
    (ofWinners signer winners).entries =
      winners.mapIdx fun place winner => winner.entry place := by
  rw [ofWinners, signed]
  split
  · rename_i empty
    exact (List.isEmpty_iff.mp empty).symm
  · rfl

theorem signer_ofWinners (filled : winners ≠ []) : (ofWinners signer winners).signer = signer := by
  rw [ofWinners, signed, if_neg (by simpa using filled)]

/-- All texts in the section of some winners are theirs or the signer's. -/
theorem mem_texts_ofWinners (member : text ∈ (ofWinners signer winners).texts) :
    text = "" ∨ text = signer ∨ ∃ winner ∈ winners, text ∈ winner.texts := by
  rcases List.mem_cons.mp member with rfl | inside
  · rw [ofWinners, signed]
    split
    · exact Or.inl rfl
    · exact Or.inr (Or.inl rfl)
  · obtain ⟨entry, inEntries, inEntry⟩ := List.mem_flatMap.mp inside
    rw [entries_ofWinners] at inEntries
    obtain ⟨place, within, rfl⟩ := List.mem_mapIdx.mp inEntries
    exact Or.inr (Or.inr ⟨winners[place], List.getElem_mem within, inEntry⟩)

/-- The section lists winners under the name of a signer, with numbers from zero. -/
structure Lists (sporks : SporkSection) (signer : String) (winners : List WinningSpork) : Prop where
  signer : winners ≠ [] → sporks.signer = signer
  length : sporks.entries.length = winners.length
  entry : ∀ place winner, winners[place]? = some winner → ∃ nonce : UInt32,
    nonce.toNat = place % 2 ^ 32 ∧
      sporks.entries[place]? = some ⟨winner.sporkType, winner.key, winner.value, nonce⟩

theorem lists_ofWinners (signer : String) (winners : List WinningSpork) :
    (ofWinners signer winners).Lists signer winners where
  signer := signer_ofWinners
  length := by rw [entries_ofWinners, List.length_mapIdx]
  entry := by
    intro place winner stands
    refine ⟨UInt32.ofNat place, UInt32.toNat_ofNat', ?_⟩
    rw [entries_ofWinners, List.getElem?_mapIdx, stands]
    rfl

theorem ofBody_ofWinners (plain : '<' ∉ signer.toList)
    (settings : ∀ winner ∈ winners, ∀ text ∈ winner.texts, '<' ∉ text.toList) :
    ofBody (ofWinners signer winners).body = .ok (ofWinners signer winners) := by
  refine ofBody_signed fun text member => ?_
  rcases mem_texts_ofWinners member with rfl | rfl | ⟨winner, won, inside⟩
  · exact List.not_mem_nil
  · exact plain
  · exact settings winner won text inside

end SporkSection

/-! ### The selection as a whole -/

/-- Of proposals with different hashes the winners are those that win by their fields, in order of
creation. They are the same in any order of the proposals, and an engine that asks its host only for
the proposals of the window keeps the same winners. A signer lists winners with numbers from zero in
a section that reads back as itself, if no text in it holds a bracket. -/
theorem winners_are_selected {proposals : List Proposal}
    (distinct : (proposals.map Proposal.hash).Nodup) (rules : SporkRules) :
    (∀ now identities winners, winningSporks proposals now identities rules = winners ↔
      AreWinners rules now identities proposals winners) ∧
    (∀ now identities others, others.Perm proposals →
      winningSporks others now identities rules = winningSporks proposals now identities rules) ∧
    (∀ (σ : Type) (engine : Engine σ) (host : Host), engine.config.sporkRules = rules →
      host.Proposes proposals → (engine.refreshSporks host).sporks =
        winningSporks proposals host.now (host.validIdentityCount host.tipHeight) rules) ∧
    ∀ signer winners, (SporkSection.ofWinners signer winners).Lists signer winners ∧
      ('<' ∉ signer.toList → (∀ winner ∈ winners, ∀ text ∈ winner.texts, '<' ∉ text.toList) →
        SporkSection.ofBody (SporkSection.ofWinners signer winners).body =
          .ok (SporkSection.ofWinners signer winners)) := by
  refine ⟨fun now identities winners => winningSporks_eq_iff distinct, ?_, ?_, ?_⟩
  · intro now identities others reordered
    exact winningSporks_congr ((reordered.map Proposal.hash).nodup_iff.mpr distinct) distinct
      fun proposal winner _ => reordered.mem_iff
  · rintro σ engine host rfl proposed
    exact Engine.currentSporks_eq distinct proposed
  · exact fun signer winners =>
      ⟨SporkSection.lists_ofWinners signer winners, SporkSection.ofBody_ofWinners⟩

/-! ### Six proposals -/

namespace SampleProposals

/-- The third proposal is just young enough, and the fourth is not. The first and the second were
created together, the fifth is just not old enough, and the sixth has no key. -/
def all : List Proposal :=
  [⟨2, "ORPHANS|5|5", "XSPORK-ORPHAN", 900000, 6, 1⟩, ⟨1, "PRICE|2", "SPORK", 900000, 6, 0⟩,
    ⟨3, "APM|1", "SPORK", 395260, 10, 2⟩, ⟨4, "OLD|1", "SPORK", 395259, 10, 0⟩,
    ⟨5, "YOUNG|1", "SPORK", 913660, 10, 0⟩, ⟨6, "|1", "SPORK", 900000, 10, 0⟩]

/-- A chain with all these proposals. -/
def host : Host :=
  ({ proposals := all } : HostFixture).host

/-- The settings that win, in their order. -/
def winners : List WinningSpork :=
  [⟨3, "SPORK", "APM", "1"⟩, ⟨1, "SPORK", "PRICE", "2"⟩, ⟨2, "XSPORK-ORPHAN", "ORPHANS", "5|5"⟩]

/-- The proposals that win. -/
def carriers : List Proposal :=
  [⟨3, "APM|1", "SPORK", 395260, 10, 2⟩, ⟨1, "PRICE|2", "SPORK", 900000, 6, 0⟩,
    ⟨2, "ORPHANS|5|5", "XSPORK-ORPHAN", 900000, 6, 1⟩]

theorem distinct : (all.map Proposal.hash).Nodup := by
  decide

theorem areWinners : AreWinners {} 1000060 50 all winners := by
  have ordered : carriers.Pairwise Proposal.Before := by
    decide
  have members : carriers.Perm (all.filter fun proposal =>
      proposal.Passes 1000060 50 {} ∧ proposal.setting?.isSome = true) := by
    decide +kernel
  refine ⟨carriers, ordered, fun proposal => ?_, ?_⟩
  · rw [members.mem_iff, List.mem_filter, decide_eq_true_iff, Proposal.exists_wins_iff]
  · exact .cons (Proposal.wins_iff.mpr (by decide +kernel))
      (.cons (Proposal.wins_iff.mpr (by decide +kernel))
        (.cons (Proposal.wins_iff.mpr (by decide +kernel)) .nil))

end SampleProposals

open SampleProposals in
theorem sample_winners_are_selected :
    (all.map Proposal.hash).Nodup ∧ host.Proposes all ∧ AreWinners {} 1000060 50 all winners ∧
      (Engine.refreshSporks { config := {}, relay := () } host).sporks = winners ∧
      SporkSection.ofBody (SporkSection.ofWinners "BSigner" winners).body =
        .ok ⟨"BSigner", [⟨"SPORK", "APM", "1", 0⟩, ⟨"SPORK", "PRICE", "2", 1⟩,
          ⟨"XSPORK-ORPHAN", "ORPHANS", "5|5", 2⟩]⟩ := by
  obtain ⟨selected, _, refreshed, listed⟩ := winners_are_selected distinct {}
  have proposed : host.Proposes all := fun _ => .refl _
  have won : winningSporks all 1000060 50 {} = winners :=
    (selected 1000060 50 winners).mpr areWinners
  exact ⟨distinct, proposed, areWinners,
    (refreshed Unit { config := {}, relay := () } host rfl proposed).trans won,
    (listed "BSigner" winners).2 (by decide) (by decide)⟩

end SuperblockGovernance

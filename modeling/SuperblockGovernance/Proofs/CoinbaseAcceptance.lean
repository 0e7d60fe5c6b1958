/-
Which coinbases are accepted. The payee check takes the required outputs out of the
coinbase one after the other; it succeeds exactly when the required payments, repeated
ones counted, are all among the payments of the coinbase. The value check asks for a total
that the reward, the budget and the triggered contract allow. Neither looks at the order
of the outputs.
-/

import Mathlib.Data.Multiset.AddSub
import Mathlib.Data.Multiset.Filter
import SuperblockGovernance.Coinbase
import SuperblockGovernance.Proofs.Sums

namespace SuperblockGovernance

namespace Coinbase

/-! ### Taking one output out -/

/-- Erasing by exchange with the last element removes the element at the position and nothing
else. -/
theorem perm_swapErase {α : Type} {list : List α} {position : Nat}
    (inside : position < list.length) :
    list.Perm (list[position] :: swapErase list position) := by
  obtain ⟨front, last, rfl⟩ : ∃ front last, list = front ++ [last] :=
    (List.eq_nil_or_concat' list).resolve_left (List.ne_nil_of_length_pos (by omega))
  simp only [swapErase, List.getLast?_concat]
  by_cases earlier : position < front.length
  · rw [List.set_append_left _ _ earlier, List.dropLast_concat, List.getElem_append_left earlier,
      List.set_eq_take_append_cons_drop, if_pos earlier]
    have whole : front = front.take position ++ front[position] :: front.drop (position + 1) := by
      rw [List.getElem_cons_drop, List.take_append_drop]
    calc front ++ [last]
      _ = front.take position ++ front[position] :: (front.drop (position + 1) ++ [last]) := by
        conv_lhs => rw [whole]
        simp only [List.append_assoc, List.cons_append]
      List.Perm _ (front[position] ::
          (front.take position ++ (front.drop (position + 1) ++ [last]))) := List.perm_middle
      List.Perm _ (front[position] ::
          (front.take position ++ last :: front.drop (position + 1))) :=
        ((List.perm_append_singleton last _).append_left _).cons _
  · have final : position = front.length := by
      simp only [List.length_append, List.length_cons, List.length_nil] at inside
      omega
    subst final
    rw [List.set_append_right _ _ (Nat.le_refl _), List.getElem_append_right (Nat.le_refl _)]
    simp only [Nat.sub_self, List.set_cons_zero, List.dropLast_concat, List.getElem_cons_zero]
    exact List.perm_append_singleton last front

theorem perm_of_take? {outputs left : List CoinbaseOutput} {output : CoinbaseOutput}
    (taken : take? outputs output = some left) : outputs.Perm (output :: left) := by
  obtain ⟨position, found, rfl⟩ := Option.map_eq_some_iff.mp taken
  obtain ⟨inside, same, _⟩ := List.findIdx?_eq_some_iff_getElem.mp found
  have equal : outputs[position] = output := of_decide_eq_true same
  exact equal ▸ perm_swapErase inside

theorem take?_eq_none_iff {outputs : List CoinbaseOutput} {output : CoinbaseOutput} :
    take? outputs output = none ↔ output ∉ outputs := by
  rw [take?, Option.map_eq_none_iff, List.findIdx?_eq_none_iff]
  constructor
  · intro others member
    exact absurd rfl (of_decide_eq_false (others output member))
  · intro missing candidate member
    exact decide_eq_false fun same => missing (same ▸ member)

/-! ### Taking all required outputs out -/

variable {failure : CoinbaseOutput → PaymentError}

theorem takeAll_cons_of_some {outputs left required : List CoinbaseOutput}
    {output : CoinbaseOutput} (taken : take? outputs output = some left) :
    takeAll failure outputs (output :: required) = takeAll failure left required := by
  rw [takeAll, List.foldlM_cons, taken]
  rfl

theorem takeAll_cons_of_none {outputs required : List CoinbaseOutput} {output : CoinbaseOutput}
    (missing : take? outputs output = none) :
    takeAll failure outputs (output :: required) = .error (failure output) := by
  rw [takeAll, List.foldlM_cons, missing]
  rfl

/-- What is taken and what is left are together the outputs there were. -/
theorem perm_of_takeAll {outputs required left : List CoinbaseOutput}
    (taken : takeAll failure outputs required = .ok left) : outputs.Perm (required ++ left) := by
  induction required generalizing outputs with
  | nil =>
    cases taken
    exact List.Perm.refl _
  | cons output required inductionHypothesis =>
    cases first : take? outputs output with
    | none =>
      rw [takeAll_cons_of_none first] at taken
      cases taken
    | some rest =>
      rw [takeAll_cons_of_some first] at taken
      exact (perm_of_take? first).trans ((inductionHypothesis taken).cons output)

/-- All required outputs can be taken exactly when the coinbase has each as often as it is
required. -/
theorem takeAll_isOk_iff {outputs required : List CoinbaseOutput} :
    (∃ left, takeAll failure outputs required = .ok left) ↔
      (required : Multiset CoinbaseOutput) ≤ outputs := by
  constructor
  · rintro ⟨left, taken⟩
    rw [Multiset.coe_eq_coe.mpr (perm_of_takeAll taken), ← Multiset.coe_add]
    exact Multiset.le_add_right _ _
  · intro contained
    induction required generalizing outputs with
    | nil => exact ⟨outputs, rfl⟩
    | cons output required inductionHypothesis =>
      have member : output ∈ outputs :=
        Multiset.mem_coe.mp (Multiset.mem_of_le contained List.mem_cons_self)
      cases first : take? outputs output with
      | none => exact absurd member (take?_eq_none_iff.mp first)
      | some rest =>
        rw [takeAll_cons_of_some first]
        rw [Multiset.coe_eq_coe.mpr (perm_of_take? first), ← Multiset.cons_coe,
          ← Multiset.cons_coe] at contained
        exact inductionHypothesis ((Multiset.cons_le_cons_iff output).mp contained)

/-- Taking from the same outputs in another order takes as much, or fails alike. -/
theorem takeAll_of_perm {outputs shuffled : List CoinbaseOutput} (required : List CoinbaseOutput)
    (reordered : outputs.Perm shuffled) :
    (∃ left other, takeAll failure outputs required = .ok left ∧
      takeAll failure shuffled required = .ok other ∧ left.Perm other) ∨
    ∃ cause, takeAll failure outputs required = .error cause ∧
      takeAll failure shuffled required = .error cause := by
  induction required generalizing outputs shuffled with
  | nil => exact Or.inl ⟨outputs, shuffled, rfl, rfl, reordered⟩
  | cons output required inductionHypothesis =>
    cases first : take? outputs output with
    | none =>
      have missing : take? shuffled output = none :=
        take?_eq_none_iff.mpr fun member =>
          take?_eq_none_iff.mp first (reordered.mem_iff.mpr member)
      exact Or.inr ⟨failure output, takeAll_cons_of_none first, takeAll_cons_of_none missing⟩
    | some left =>
      cases second : take? shuffled output with
      | none =>
        have member : output ∈ outputs :=
          (perm_of_take? first).mem_iff.mpr List.mem_cons_self
        exact absurd (reordered.mem_iff.mp member) (take?_eq_none_iff.mp second)
      | some other =>
        rw [takeAll_cons_of_some first, takeAll_cons_of_some second]
        refine inductionHypothesis (List.Perm.cons_inv (a := output) ?_)
        exact (perm_of_take? first).symm.trans (reordered.trans (perm_of_take? second))

/-- Two groups of required outputs are taken from one coinbase, no output serving both. -/
theorem takeAll_bind_eq_ok_iff {other : CoinbaseOutput → PaymentError}
    {outputs first second : List CoinbaseOutput} :
    ((takeAll failure outputs first).bind fun left =>
        (takeAll other left second).map fun _ => ()) = .ok () ↔
      (first : Multiset CoinbaseOutput) + second ≤ outputs := by
  cases taken : takeAll failure outputs first with
  | error cause =>
    have short : ¬(first : Multiset CoinbaseOutput) ≤ outputs := fun contained => by
      obtain ⟨left, success⟩ := (@takeAll_isOk_iff failure _ _).mpr contained
      rw [taken] at success
      cases success
    simp only [Except.bind, reduceCtorEq, false_iff]
    exact fun contained => short ((Multiset.le_add_right _ _).trans contained)
  | ok left =>
    rw [Multiset.coe_eq_coe.mpr (perm_of_takeAll taken), ← Multiset.coe_add,
      Multiset.add_le_add_iff_left, ← @takeAll_isOk_iff other]
    simp only [Except.bind]
    cases takeAll other left second with
    | error cause => simp [Except.map]
    | ok rest => simp [Except.map]

theorem total_of_perm {outputs shuffled : List CoinbaseOutput} (reordered : outputs.Perm shuffled) :
    total outputs = total shuffled :=
  sumOf_of_perm _ reordered

/-- The payments of a coinbase, repeated ones counted. -/
def payments (outputs : List CoinbaseOutput) : Multiset (PayoutAddress × Amount) :=
  outputs.map fun output => (output.payee, output.amount)

theorem payments_le_iff {first second : List CoinbaseOutput} :
    payments first ≤ payments second ↔ (first : Multiset CoinbaseOutput) ≤ second := by
  have injective : Function.Injective fun output : CoinbaseOutput =>
      (output.payee, output.amount) := by
    intro one other same
    cases one
    cases other
    cases same
    rfl
  rw [payments, payments, ← Multiset.map_coe, ← Multiset.map_coe]
  exact Multiset.map_le_map_iff injective

theorem payments_append (first second : List CoinbaseOutput) :
    payments (first ++ second) = payments first + payments second := by
  rw [payments, payments, payments, List.map_append, Multiset.coe_add]

theorem payments_ofAllocation (allocation : Allocation) :
    payments (ofAllocation allocation) = allocation.pairs := by
  rw [payments, ofAllocation, List.map_map]
  exact congrArg _ (List.map_id allocation.pairs)

end Coinbase

namespace PaymentTerms

variable {terms : PaymentTerms} {outputs : List CoinbaseOutput}

/-! ### The value -/

/-- The total that a coinbase may have: at most the reward, with the budget on top at a superblock
height, of which with governance data only the payouts of the triggered contract may be used. -/
def AllowsTotal (terms : PaymentTerms) (total : Nat) : Prop :=
  let reward := terms.blockReward.toNat
  let limit := terms.budgetLimit.toNat
  if terms.isSuperblock then
    total ≤ reward + limit ∧
      (terms.governanceSynced = true →
        (terms.triggered = none → total ≤ reward) ∧
        ∀ contract ∈ terms.triggered, contract.total ≤ limit ∧ total ≤ reward + contract.total)
  else total ≤ reward

theorem bounded_eq_ok_iff {actual limit : Nat} {bound : ValueBound} :
    terms.bounded actual limit bound = .ok () ↔ actual ≤ limit := by
  unfold bounded
  split
  · rename_i above
    simp only [reduceCtorEq, false_iff]
    omega
  · rename_i within
    simp only [true_iff]
    omega

theorem checkTotal_eq_ok_iff {total : Nat} {height : Height} {limit : Amount} :
    (Allocation.checkTotal total height limit).mapError PaymentError.budget = .ok () ↔
      total ≤ limit.toNat := by
  unfold Allocation.checkTotal
  split
  · rename_i above
    refine iff_of_false nofun ?_
    omega
  · rename_i within
    refine iff_of_true rfl ?_
    omega

theorem checkValue_eq_ok_iff :
    terms.checkValue outputs = .ok () ↔ terms.AllowsTotal (Coinbase.total outputs) := by
  unfold checkValue AllowsTotal
  cases superblock : terms.isSuperblock with
  | false => exact bounded_eq_ok_iff
  | true =>
    cases synced : terms.governanceSynced with
    | false =>
      simp only [Bool.not_true, Bool.not_false, if_true, Bool.false_eq_true, if_false,
        false_implies, and_true]
      refine seq_eq_ok_iff.trans ?_
      rw [bounded_eq_ok_iff]
      exact and_iff_left rfl
    | true =>
      simp only [Bool.not_true, if_true, Bool.false_eq_true, if_false, true_implies]
      cases triggered : terms.triggered with
      | none =>
        refine seq_eq_ok_iff.trans ?_
        rw [bounded_eq_ok_iff]
        refine and_congr_right fun _ => ?_
        simpa using bounded_eq_ok_iff
      | some contract =>
        refine seq_eq_ok_iff.trans ?_
        rw [bounded_eq_ok_iff]
        refine and_congr_right fun _ => (seq_eq_ok_iff.trans ?_)
        rw [bounded_eq_ok_iff, checkTotal_eq_ok_iff]
        simp

/-! ### The payees -/

/-- The payments that a coinbase has to contain: the payouts of the triggered contract at a
superblock height, and those of all masternode payees. -/
def requiredPayments (terms : PaymentTerms) : Multiset (PayoutAddress × Amount) :=
  (if terms.isSuperblock then ((terms.triggered.map Allocation.pairs).getD [] : List _) else []) +
    Coinbase.payments terms.masternodePayees

theorem requiredPayments_eq :
    terms.requiredPayments =
      Coinbase.payments (terms.contractPayees ++ terms.masternodePayees) := by
  rw [Coinbase.payments_append, requiredPayments, contractPayees]
  congr 1
  cases terms.isSuperblock with
  | false => rfl
  | true =>
    cases terms.triggered with
    | none => rfl
    | some contract => exact (Coinbase.payments_ofAllocation contract).symm

theorem checkPayees_of_unsynced (unsynced : terms.governanceSynced = false) :
    terms.checkPayees outputs = .ok () := by
  unfold checkPayees
  rw [unsynced]
  rfl

/-- With governance data the payees are taken out in two groups. -/
theorem checkPayees_of_synced (synced : terms.governanceSynced = true) :
    terms.checkPayees outputs =
      (Coinbase.takeAll (fun output =>
        .missingSuperblockPayee terms.height output.payee.text output.amount) outputs
          terms.contractPayees).bind fun left =>
        (Coinbase.takeAll (fun output =>
          .missingMasternodePayee terms.height output.payee.text output.amount) left
            terms.masternodePayees).map fun _ => () := by
  unfold checkPayees
  rw [synced]
  rfl

theorem checkPayees_eq_ok_iff :
    terms.checkPayees outputs = .ok () ↔
      terms.governanceSynced = false ∨ terms.requiredPayments ≤ Coinbase.payments outputs := by
  cases synced : terms.governanceSynced with
  | false => simp [checkPayees_of_unsynced synced]
  | true =>
    rw [checkPayees_of_synced synced, Coinbase.takeAll_bind_eq_ok_iff, requiredPayments_eq,
      Coinbase.payments_le_iff, Multiset.coe_add]
    simp

/-! ### The whole check -/

theorem checkValue_of_perm {shuffled : List CoinbaseOutput} (reordered : outputs.Perm shuffled) :
    terms.checkValue outputs = terms.checkValue shuffled := by
  unfold checkValue
  rw [Coinbase.total_of_perm reordered]

theorem checkPayees_of_perm {shuffled : List CoinbaseOutput} (reordered : outputs.Perm shuffled) :
    terms.checkPayees outputs = terms.checkPayees shuffled := by
  cases synced : terms.governanceSynced with
  | false => rw [checkPayees_of_unsynced synced, checkPayees_of_unsynced synced]
  | true =>
    rw [checkPayees_of_synced synced, checkPayees_of_synced synced]
    rcases Coinbase.takeAll_of_perm terms.contractPayees reordered with
      ⟨left, other, first, second, alike⟩ | ⟨cause, first, second⟩
    · rw [first, second]
      simp only [Except.bind]
      rcases Coinbase.takeAll_of_perm terms.masternodePayees alike with
        ⟨_, _, first, second, _⟩ | ⟨cause, first, second⟩
      · rw [first, second]
        rfl
      · rw [first, second]
    · rw [first, second]

theorem check_of_perm {shuffled : List CoinbaseOutput} (reordered : outputs.Perm shuffled) :
    terms.check outputs = terms.check shuffled := by
  unfold check
  rw [checkValue_of_perm reordered, checkPayees_of_perm reordered]

theorem check_eq_ok_iff :
    terms.check outputs = .ok () ↔
      terms.AllowsTotal (Coinbase.total outputs) ∧
        (terms.governanceSynced = false ∨
          terms.requiredPayments ≤ Coinbase.payments outputs) := by
  rw [← checkValue_eq_ok_iff, ← checkPayees_eq_ok_iff]
  exact seq_eq_ok_iff

/-- A coinbase is accepted exactly when the terms allow its total and, with governance data, all
required payments are among its payments, each as often as it is required. The order of the outputs
plays no part, in the reason of a refusal either. -/
theorem check_accepts_exactly (terms : PaymentTerms) (outputs : List CoinbaseOutput) :
    (terms.check outputs = .ok () ↔
      terms.AllowsTotal (Coinbase.total outputs) ∧
        (terms.governanceSynced = false ∨
          terms.requiredPayments ≤ Coinbase.payments outputs)) ∧
    ∀ shuffled, outputs.Perm shuffled → terms.check shuffled = terms.check outputs :=
  ⟨check_eq_ok_iff, fun _ reordered => (check_of_perm reordered).symm⟩

end PaymentTerms

end SuperblockGovernance

/-
Block templates and the check of block payments. When the triggered contract is one for a
superblock height and within its budget, as in every engine that a run reaches, a template
is filled with exactly the payments that the check requires. What is then left for the
miner is the reward without the masternode payees, and with governance data not one unit
more.
-/

import SuperblockGovernance.Proofs.CoinbaseAcceptance
import SuperblockGovernance.Proofs.TriggeredContracts

namespace SuperblockGovernance

namespace Coinbase

theorem total_append (first second : List CoinbaseOutput) :
    total (first ++ second) = total first + total second :=
  sumOf_append _ first second

theorem total_ofAllocation (allocation : Allocation) :
    total (ofAllocation allocation) = allocation.total := by
  rw [total, ofAllocation, sumOf_map, Allocation.total, Allocation.amounts, SortedMap.values,
    sumOf_map]
  rfl

/-- A failure to take out an output is one that was given for it. -/
theorem failure_of_takeAll {failure : CoinbaseOutput → PaymentError}
    {outputs required : List CoinbaseOutput} {cause : PaymentError}
    (failed : takeAll failure outputs required = .error cause) :
    ∃ output, cause = failure output := by
  induction required generalizing outputs with
  | nil => cases failed
  | cons output rest inductionHypothesis =>
    cases found : take? outputs output with
    | none =>
      rw [takeAll_cons_of_none found] at failed
      cases failed
      exact ⟨output, rfl⟩
    | some left =>
      rw [takeAll_cons_of_some found] at failed
      exact inductionHypothesis failed

end Coinbase

namespace PaymentTerms

variable {terms : PaymentTerms} {outputs : List CoinbaseOutput}

/-- A contract is triggered at superblock heights only, and its payouts are within the budget. -/
def Consistent (terms : PaymentTerms) : Prop :=
  ∀ contract ∈ terms.triggered, terms.isSuperblock = true ∧
    contract.total ≤ terms.budgetLimit.toNat

/-- What the triggered contract pays. -/
def contractTotal (terms : PaymentTerms) : Nat :=
  (terms.triggered.map Allocation.total).getD 0

/-! ### Filling -/

theorem fill_eq (consistent : terms.Consistent) :
    terms.fill = terms.masternodePayees ++ terms.contractPayees := by
  have within : (terms.triggered.all fun contract =>
      contract.total ≤ terms.budgetLimit.toNat) = true := by
    rw [Option.all_eq_true]
    exact fun contract member => decide_eq_true (consistent contract member).2
  rw [fill, within]
  rfl

theorem total_contractPayees (consistent : terms.Consistent) :
    Coinbase.total terms.contractPayees = terms.contractTotal := by
  rw [contractPayees, contractTotal]
  cases triggered : terms.triggered with
  | none =>
    cases terms.isSuperblock with
    | false => rfl
    | true => rfl
  | some contract =>
    rw [(consistent contract triggered).1]
    exact Coinbase.total_ofAllocation contract

/-- A coinbase of the outputs that are filled in and one for the miner. -/
def template (terms : PaymentTerms) (miner : PayoutAddress) (amount : Amount) :
    List CoinbaseOutput :=
  terms.fill ++ [⟨miner, amount⟩]

theorem total_template (consistent : terms.Consistent) (miner : PayoutAddress) (amount : Amount) :
    Coinbase.total (terms.template miner amount) =
      Coinbase.total terms.masternodePayees + amount.toNat + terms.contractTotal := by
  have mined : Coinbase.total [⟨miner, amount⟩] = amount.toNat := Nat.add_zero _
  rw [template, fill_eq consistent, Coinbase.total_append, Coinbase.total_append,
    total_contractPayees consistent, mined]
  omega

theorem requiredPayments_le_template (consistent : terms.Consistent) (miner : PayoutAddress)
    (amount : Amount) :
    terms.requiredPayments ≤ Coinbase.payments (terms.template miner amount) := by
  rw [requiredPayments_eq, template, fill_eq consistent, Coinbase.payments_append,
    Coinbase.payments_append, Coinbase.payments_append,
    Multiset.add_comm (Coinbase.payments terms.contractPayees)]
  exact Multiset.le_add_right _ _

/-! ### Checking what was filled -/

/-- On top of the contract the reward may be spent. -/
theorem allowsTotal_of_le (consistent : terms.Consistent) {spent : Nat}
    (affordable : spent ≤ terms.blockReward.toNat) :
    terms.AllowsTotal (spent + terms.contractTotal) := by
  rw [AllowsTotal, contractTotal]
  cases triggered : terms.triggered with
  | none =>
    cases terms.isSuperblock with
    | false => simpa using affordable
    | true => simpa using ⟨by omega, fun _ => affordable⟩
  | some contract =>
    obtain ⟨superblock, within⟩ := consistent contract triggered
    rw [superblock]
    simp only [if_true, Option.map_some, Option.getD_some, Option.mem_some_iff]
    refine ⟨by omega, fun _ => ⟨fun absent => (Option.some_ne_none _ absent).elim, ?_⟩⟩
    rintro _ rfl
    exact ⟨within, by omega⟩

/-- With governance data no more than the reward may be spent on top of the contract. -/
theorem le_of_allowsTotal (consistent : terms.Consistent) (synced : terms.governanceSynced = true)
    {spent : Nat} (allowed : terms.AllowsTotal (spent + terms.contractTotal)) :
    spent ≤ terms.blockReward.toNat := by
  rw [AllowsTotal, contractTotal] at allowed
  cases triggered : terms.triggered with
  | none =>
    rw [triggered] at allowed
    cases superblock : terms.isSuperblock with
    | false => simpa [superblock] using allowed
    | true =>
      rw [superblock] at allowed
      simpa using (allowed.2 synced).1 rfl
  | some contract =>
    rw [triggered, (consistent contract triggered).1] at allowed
    simp only [if_true, Option.map_some, Option.getD_some] at allowed
    have bounded := ((allowed.2 synced).2 contract rfl).2
    omega

/-- A template in any order is accepted when masternodes and miner share the reward. -/
theorem check_template (consistent : terms.Consistent) {miner : PayoutAddress} {amount : Amount}
    (affordable : Coinbase.total terms.masternodePayees + amount.toNat ≤ terms.blockReward.toNat)
    (reordered : outputs.Perm (terms.template miner amount)) : terms.check outputs = .ok () := by
  rw [check_of_perm reordered, check_eq_ok_iff, total_template consistent]
  exact ⟨allowsTotal_of_le consistent affordable,
    Or.inr (requiredPayments_le_template consistent miner amount)⟩

/-- With governance data a template in any order is refused when they take more. -/
theorem check_template_ne_ok (consistent : terms.Consistent)
    (synced : terms.governanceSynced = true) {miner : PayoutAddress} {amount : Amount}
    (above : terms.blockReward.toNat < Coinbase.total terms.masternodePayees + amount.toNat)
    (reordered : outputs.Perm (terms.template miner amount)) : terms.check outputs ≠ .ok () := by
  rw [check_of_perm reordered, Ne, check_eq_ok_iff, total_template consistent]
  exact fun accepted => Nat.not_le_of_lt above (le_of_allowsTotal consistent synced accepted.1)

/-! ### The budget -/

theorem bounded_ne_budget {actual limit : Nat} {bound : ValueBound} {cause : BudgetError} :
    terms.bounded actual limit bound ≠ .error (.budget cause) := by
  rw [bounded]
  split
  · exact fun same => by cases same
  · exact fun same => by cases same

theorem seq_ne_error {first second : Except PaymentError Unit} {cause : PaymentError}
    (one : first ≠ .error cause) (other : second ≠ .error cause) :
    (first >>= fun _ => second) ≠ .error cause := by
  cases first with
  | error found => exact one
  | ok value => exact other

theorem checkValue_ne_budget (consistent : terms.Consistent) {cause : BudgetError} :
    terms.checkValue outputs ≠ .error (.budget cause) := by
  unfold checkValue
  cases terms.isSuperblock with
  | false => exact bounded_ne_budget
  | true =>
    refine seq_ne_error bounded_ne_budget ?_
    cases terms.governanceSynced with
    | false => exact fun same => by cases same
    | true =>
      cases triggered : terms.triggered with
      | none => exact bounded_ne_budget
      | some contract =>
        have paid := (@checkTotal_eq_ok_iff _ terms.height _).mpr (consistent contract triggered).2
        refine seq_ne_error (fun same => ?_) bounded_ne_budget
        rw [paid] at same
        cases same

theorem checkPayees_ne_budget {cause : BudgetError} :
    terms.checkPayees outputs ≠ .error (.budget cause) := by
  cases synced : terms.governanceSynced with
  | false =>
    rw [checkPayees_of_unsynced synced]
    exact fun same => by cases same
  | true =>
    rw [checkPayees_of_synced synced]
    intro failed
    rcases contract : Coinbase.takeAll (fun output =>
      .missingSuperblockPayee terms.height output.payee.text output.amount) outputs
        terms.contractPayees with found | left
    · obtain ⟨output, missing⟩ := Coinbase.failure_of_takeAll contract
      rw [contract, missing] at failed
      cases failed
    · rcases masternodes : Coinbase.takeAll (fun output =>
        .missingMasternodePayee terms.height output.payee.text output.amount) left
          terms.masternodePayees with found | rest
      · obtain ⟨output, missing⟩ := Coinbase.failure_of_takeAll masternodes
        rw [contract, Except.bind, masternodes, missing] at failed
        cases failed
      · rw [contract, Except.bind, masternodes] at failed
        cases failed

theorem check_ne_budget (consistent : terms.Consistent) {cause : BudgetError} :
    terms.check outputs ≠ .error (.budget cause) :=
  seq_ne_error (checkValue_ne_budget consistent) checkPayees_ne_budget

end PaymentTerms

namespace Engine

variable {σ : Type} {engine : Engine σ} {host : Host} {height : Height}

/-! ### The terms of an engine -/

/-- The contract that an engine triggers is one for a superblock height and within its budget. -/
theorem consistent_paymentTerms (coherent : engine.store.Coherent engine.config.cadence) :
    (engine.paymentTerms host height).Consistent := by
  intro contract member
  obtain ⟨⟨winner, payouts⟩, triggered, rfl⟩ := Option.map_eq_some_iff.mp member
  obtain ⟨object, elected, _, read⟩ := (triggered?_eq_some_iff coherent).mp triggered
  obtain ⟨found, readToo, within⟩ := elected.payable
  rw [read] at readToo
  cases readToo
  refine ⟨decide_eq_true ?_, within⟩
  exact elected.target ▸ coherent.scheduled object.id object elected.stored

/-- The reward that the masternode payees leave. -/
def minerReward (host : Host) (height : Height) : Amount :=
  UInt64.ofNat ((host.blockReward height).toNat - Coinbase.total (host.masternodePayees height))

theorem toNat_minerReward :
    (minerReward host height).toNat =
      (host.blockReward height).toNat - Coinbase.total (host.masternodePayees height) :=
  UInt64.toNat_ofNat_of_lt' (Nat.lt_of_le_of_lt (Nat.sub_le _ _) (host.blockReward height).toNat_lt)

/-- In every engine that a run reaches the templates are the blocks that the check accepts: filled
in, with the rest of the reward for the miner and in any order, a coinbase is accepted, and with
governance data one that gives the miner more is refused. A budget failure never comes. -/
theorem templates_agree_with_checks [Relay σ] {hosts : Set Host} (reached : Reachable hosts engine)
    (host : Host) (height : Height) (miner : PayoutAddress) :
    (Coinbase.total (host.masternodePayees height) ≤ (host.blockReward height).toNat →
      (∀ coinbase : List CoinbaseOutput,
        coinbase.Perm (engine.fillBlock host height ++ [⟨miner, minerReward host height⟩]) →
          engine.checkBlock host height coinbase = .ok ()) ∧
      (host.governanceSynced = true → ∀ raised, minerReward host height < raised →
        ∀ coinbase : List CoinbaseOutput,
          coinbase.Perm (engine.fillBlock host height ++ [⟨miner, raised⟩]) →
            ∃ cause, engine.checkBlock host height coinbase = .error cause)) ∧
    ∀ coinbase cause, engine.checkBlock host height coinbase ≠ .error (.budget cause) := by
  have consistent : (engine.paymentTerms host height).Consistent :=
    consistent_paymentTerms reached.coherent
  refine ⟨fun affordable => ⟨fun coinbase reordered => ?_, ?_⟩, fun coinbase cause => ?_⟩
  · refine PaymentTerms.check_template consistent ?_ reordered
    rw [toNat_minerReward]
    exact (Nat.add_sub_of_le affordable).le
  · intro synced raised above coinbase reordered
    have refused := PaymentTerms.check_template_ne_ok consistent synced ?_ reordered
    · cases checked : engine.checkBlock host height coinbase with
      | error cause => exact ⟨cause, rfl⟩
      | ok value => exact absurd checked refused
    · have more := UInt64.lt_iff_toNat_lt.mp above
      rw [toNat_minerReward] at more
      show (host.blockReward height).toNat <
        Coinbase.total (host.masternodePayees height) + raised.toNat
      omega
  · exact PaymentTerms.check_ne_budget consistent

theorem sample_template_agrees :
    let miner : PayoutAddress := ⟨"Miner", by decide⟩
    let filled := SampleRun.engine.fillBlock SampleRun.host 1300
    (SampleRun.engine.triggered? SampleRun.host 1300).isSome = true ∧
      SampleRun.engine.checkBlock SampleRun.host 1300
        (filled ++ [⟨miner, minerReward SampleRun.host 1300⟩]) = .ok () ∧
      ∃ cause, SampleRun.engine.checkBlock SampleRun.host 1300
        (filled ++ [⟨miner, minerReward SampleRun.host 1300 + 1⟩]) = .error cause := by
  intro miner filled
  obtain ⟨accepted, refused⟩ :=
    (templates_agree_with_checks SampleRun.reachable SampleRun.host 1300 miner).1
      (by decide +kernel)
  refine ⟨by decide +kernel, accepted _ (.refl _), ?_⟩
  exact refused rfl (minerReward SampleRun.host 1300 + 1) (by decide +kernel) _ (.refl _)

end Engine

end SuperblockGovernance

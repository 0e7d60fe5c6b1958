/-
The total of a submitted contract. A submission is checked by the base units of the
contract, while the object that is relayed and stored carries the amounts as texts of two
decimals. So an object pays the amounts to the nearest cent, and its total is the rounded
total of the contract, half a cent for each payee away from the total that was checked. A
contract of whole cents is within the budget also as an object; other contracts may not be.
-/

import SuperblockGovernance.Proofs.EngineRuns
import SuperblockGovernance.Proofs.PayoutTexts

namespace SuperblockGovernance

/-- The payouts of the object can be read, and come to at least one coin and at most the limit. -/
def TriggerObject.WithinBudget (object : TriggerObject) (limit : Amount) : Prop :=
  ∃ total, object.total? = some total ∧ Amount.coin ≤ total ∧ total ≤ limit.toNat

/-- The object carries the payout texts of a plan. -/
def TriggerObject.Carries (object : TriggerObject) (plan : Allocation) : Prop :=
  object.addresses = plan.addressesText ∧ object.amounts = plan.amountsText

namespace TriggerObject.Carries

variable {object : TriggerObject} {plan : Allocation}

theorem payouts_eq (carries : object.Carries plan) :
    object.payouts = Allocation.ofTexts plan.addressesText plan.amountsText := by
  rw [payouts, carries.1, carries.2]

theorem total?_eq (carries : object.Carries plan)
    (fits : ∀ amount ∈ plan.amounts, amount.rounded < 2 ^ 64) :
    object.total? = some plan.roundedTotal := by
  rw [total?, carries.payouts_eq, Allocation.ofTexts_written fits]
  exact congrArg some (Allocation.total_rounded fits)

/-- Whatever total such an object has, it is the rounded one. -/
theorem eq_of_total? (carries : object.Carries plan) {total : Nat}
    (known : object.total? = some total) : total = plan.roundedTotal := by
  obtain ⟨read, success, _⟩ := TriggerObject.total?_eq_some_iff.mp known
  rw [carries.payouts_eq] at success
  rw [carries.total?_eq (Allocation.rounded_lt_of_ofTexts success)] at known
  exact (Option.some.inj known).symm

theorem withinBudget_iff (carries : object.Carries plan) (limit : Amount) :
    object.WithinBudget limit ↔
      Amount.coin ≤ plan.roundedTotal ∧ plan.roundedTotal ≤ limit.toNat := by
  constructor
  · rintro ⟨total, known, least, most⟩
    rw [carries.eq_of_total? known] at least most
    exact ⟨least, most⟩
  · rintro ⟨least, most⟩
    have fits : ∀ amount ∈ plan.amounts, amount.rounded < 2 ^ 64 := by
      intro amount member
      have part : amount.rounded ≤ plan.roundedTotal := le_sumOf_of_mem Amount.rounded member
      exact Nat.lt_of_le_of_lt (Nat.le_trans part most) limit.toNat_lt
    exact ⟨plan.roundedTotal, carries.total?_eq fits, least, most⟩

end TriggerObject.Carries

namespace TriggerStore

variable {store : TriggerStore} {id : ObjectId} {submission : Submission}
  {payload : TriggerPayload}

/-- What the relay took under a name that was free is stored under it. -/
theorem get?_recordSubmission (fresh : store.get? id = none) :
    (store.recordSubmission id submission payload).get? id =
      some (.ofSubmission id submission payload) :=
  get?_insert_self fun _ held => absurd (fresh.symm.trans held) (Option.some_ne_none _).symm

theorem get?_recordSubmission_of_knows {known : ObjectId} (knows : store.Knows known) :
    (store.recordSubmission id submission payload).get? known = store.get? known := by
  have remembered : TriggerStore.Knows
      { store with lastSubmission := some (submission.creationTime, id) } known := knows
  exact get?_insert_of_knows remembered _

theorem size_recordSubmission (fresh : store.get? id = none) :
    (store.recordSubmission id submission payload).size = store.size + 1 := by
  have absent : store.objects.contains id = false := SortedMap.contains_eq_false_iff.mpr fresh
  rw [recordSubmission, insert]
  split
  · rename_i present
    exact absurd present (Bool.eq_false_iff.mp absent)
  · exact (SortedMap.perm_insert absent _).length_eq

theorem votes_recordSubmission :
    (store.recordSubmission id submission payload).votes = store.votes :=
  votes_insert _ _

end TriggerStore

namespace Engine

variable {σ : Type} {engine : Engine σ} {host : Host} {height : Height} {contract : Contract}

/-- A submission that fails leaves the store as it was; one that succeeds was taken by the relay,
and is recorded as it was taken. -/
theorem submitPayload_cases [Relay σ] (engine : Engine σ) (host : Host) (identity : Identity)
    (payload : TriggerPayload) :
    let submission := host.signedSubmission identity payload
    let submitted := engine.submitPayload host identity payload
    (∃ cause, submitted.1 = .error cause ∧ submitted.2.store = engine.store) ∨
      ∃ id, submitted.1 = .ok id ∧
        Relay.submitObject engine.relay submission = (.ok id, submitted.2.relay) ∧
        submitted.2.store = engine.store.recordSubmission id submission payload := by
  unfold submitPayload
  rcases engine.store.submit_cases engine.relay engine.config.submitRateLimitSecs payload
    (host.signedSubmission identity payload) with
      ⟨_, _, same⟩ | ⟨_, _, _, _, same⟩ | ⟨id, _, _, taken, same⟩
  · rw [same]
    exact Or.inl ⟨_, rfl, rfl⟩
  · rw [same]
    exact Or.inl ⟨_, rfl, rfl⟩
  · rw [same]
    exact Or.inr ⟨id, rfl, taken, rfl⟩

theorem submitPayload_eq_ok [Relay σ] {identity : Identity} {payload : TriggerPayload}
    {id : ObjectId} (submitted : (engine.submitPayload host identity payload).1 = .ok id) :
    (Relay.submitObject engine.relay (host.signedSubmission identity payload)).1 = .ok id ∧
      (engine.submitPayload host identity payload).2.store =
        engine.store.recordSubmission id (host.signedSubmission identity payload) payload := by
  rcases engine.submitPayload_cases host identity payload with
    ⟨cause, failed, _⟩ | ⟨name, succeeded, taken, stored⟩
  · rw [failed] at submitted
    cases submitted
  · rw [succeeded] at submitted
    cases submitted
    exact ⟨congrArg Prod.fst taken, stored⟩

/-- A contract that is submitted was prepared as a payload, which was submitted. -/
theorem submit_eq_ok [Relay σ] {id : ObjectId}
    (submitted : (engine.submit host height contract).1 = .ok id) :
    ∃ identity payload, engine.prepareTrigger host height contract = .ok payload ∧
      engine.submit host height contract = engine.submitPayload host identity payload := by
  rcases engine.submit_cases host height contract with
    ⟨cause, refused⟩ | ⟨identity, payload, _, prepared, same⟩
  · rw [refused] at submitted
    cases submitted
  · exact ⟨identity, payload, prepared, same⟩

/-! ### The total of what was submitted -/

/-- A submitted contract is within the budget. Its object is stored, unless the relay gave it a
name that was taken, and has the rounded total of the contract as its only total: at most half a
cent for each payee away, and the same for whole cents. -/
theorem submitted_total_is_rounded [Relay σ] {id : ObjectId}
    (submitted : (engine.submit host height contract).1 = .ok id) :
    let limit := host.budgetLimit height
    let plan := contract.allocation
    (Amount.coin ≤ contract.total ∧ contract.total ≤ limit.toNat) ∧
      ∃ submission payload object,
        TriggerPayload.ofContract contract height host.now limit = .ok payload ∧
        (Relay.submitObject engine.relay submission).1 = .ok id ∧
        submission.payloadHex = payload.toHex ∧
        object = TriggerObject.ofSubmission id submission payload ∧
        object.targetHeight = height ∧
        (engine.store.get? id = none →
          (engine.submit host height contract).2.store.get? id = some object) ∧
        (∀ total, object.total? = some total → total = plan.roundedTotal) ∧
        (object.WithinBudget limit ↔
          Amount.coin ≤ plan.roundedTotal ∧ plan.roundedTotal ≤ limit.toNat) ∧
        2 * plan.roundedTotal ≤ 2 * contract.total + plan.pairs.length * Amount.cent ∧
        2 * contract.total ≤ 2 * plan.roundedTotal + plan.pairs.length * Amount.cent ∧
        ((∀ amount ∈ plan.amounts, amount.toNat % Amount.cent = 0) →
          object.WithinBudget limit) := by
  intro limit plan
  obtain ⟨identity, payload, prepared, same⟩ := submit_eq_ok submitted
  rw [same] at submitted ⊢
  obtain ⟨taken, stored⟩ := submitPayload_eq_ok submitted
  obtain ⟨_, made⟩ := prepareTrigger_eq_ok prepared
  have presents := TriggerPayload.presents_of_ofContract made
  let submission := host.signedSubmission identity payload
  let object := TriggerObject.ofSubmission id submission payload
  have carries : object.Carries plan := ⟨presents.addresses, presents.amounts⟩
  have near := plan.roundedTotal_near
  refine ⟨⟨presents.least, presents.most⟩, submission, payload, object, made, taken, rfl, rfl,
    presents.target, ?_, ?_, carries.withinBudget_iff limit, near.1, near.2, ?_⟩
  · intro fresh
    rw [stored]
    exact TriggerStore.get?_recordSubmission fresh
  · intro total known
    exact carries.eq_of_total? known
  · intro whole
    have exact : plan.roundedTotal = contract.total :=
      sumOf_congr fun amount member => Amount.rounded_of_whole (whole amount member)
    rw [carries.withinBudget_iff, exact]
    exact ⟨presents.least, presents.most⟩

end Engine

/-! ### A submission above the budget -/

namespace RoundedSubmission

/-- An engine that knows nothing yet. -/
def engine : Engine CountingRelay :=
  { config := SampleRun.config, relay := {} }

/-- Payouts of 4999.995 and 0.005 coins, which come to the whole budget. -/
def contract : Contract :=
  { allocation :=
      { payouts := .ofList [(SampleRun.payee, 499999500000), (SampleRun.otherPayee, 500000)] } }

end RoundedSubmission

/-- Both payouts of the contract are half a cent above whole cents, so the object that is stored
for it is a cent above the budget. -/
theorem rounded_submission_passes_limit :
    let submitted := RoundedSubmission.engine.submit SampleRun.host 1300 RoundedSubmission.contract
    submitted.1 = .ok 1 ∧
      (submitted.2.store.get? 1).bind TriggerObject.total? = some 500001000000 ∧
      (SampleRun.host.budgetLimit 1300).toNat = 500000000000 := by
  decide +kernel

/-- A contract of whole cents is within the budget as an object. -/
theorem whole_submission_within_budget :
    (RoundedSubmission.engine.submit SampleRun.host 1300 SampleRun.contract).1 = .ok 1 ∧
      ∃ object,
        (RoundedSubmission.engine.submit SampleRun.host 1300
          SampleRun.contract).2.store.get? 1 = some object ∧
        object.WithinBudget (SampleRun.host.budgetLimit 1300) := by
  have submitted : (RoundedSubmission.engine.submit SampleRun.host 1300
      SampleRun.contract).1 = .ok 1 := by decide +kernel
  obtain ⟨_, _, _, object, _, _, _, _, _, stored, _, _, _, _, within⟩ :=
    Engine.submitted_total_is_rounded submitted
  have whole : (SampleRun.contract.allocation.amounts.all fun amount =>
      amount.toNat % Amount.cent = 0) = true := by decide +kernel
  refine ⟨submitted, object, stored rfl, within fun amount member => ?_⟩
  exact of_decide_eq_true (List.all_eq_true.mp whole amount member)

end SuperblockGovernance

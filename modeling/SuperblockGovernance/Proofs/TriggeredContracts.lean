/-
The contract that is triggered at a height. An object is eligible when it is stored for the
height, its funding votes reach the quorum, and its payout texts come to a total within the
budget; it is elected when it has more support than every other eligible object, or as much
and a lesser name. In a coherent store the three readers of an election agree with this:
the winner is the elected object, the triggered contract pays what that object lists, and
the states of all fingerprints at the height follow from the one it carries.
-/

import SuperblockGovernance.Proofs.EngineRuns

namespace SuperblockGovernance

/-- The approvals of an object that remain after the rejections, among the votes held. -/
def TriggerStore.support (store : TriggerStore) (object : ObjectId) : Int :=
  (store.heldVotes object .funding).countP (fun vote => vote.outcome = .yes) -
    (store.heldVotes object .funding).countP (fun vote => vote.outcome = .no)

theorem TriggerStore.netYes_candidate {store : TriggerStore} (filed : store.VotesFiled)
    (object : TriggerObject) : (store.candidate object).netYes = store.support object.id := by
  rw [candidate, Candidate.ofObject, tally_eq_ofVotes filed]
  rfl

namespace Engine

variable {σ : Type} {engine : Engine σ} {host : Host} {height : Height}

/-! ### Eligible and elected objects -/

/-- The object may be paid at the height. -/
structure Eligible (engine : Engine σ) (host : Host) (height : Height) (object : TriggerObject) :
    Prop where
  stored : engine.store.get? object.id = some object
  target : object.targetHeight = height
  supported : (engine.requiredQuorum host height : Int) ≤ engine.store.support object.id
  payable : ∃ payouts, object.payouts = .ok payouts ∧
    payouts.total ≤ (host.budgetLimit height).toNat

/-- The object is eligible and better than every other eligible one. -/
structure Elected (engine : Engine σ) (host : Host) (height : Height) (object : TriggerObject) :
    Prop extends Eligible engine host height object where
  best : ∀ other, engine.Eligible host height other → other ≠ object →
    engine.store.support other.id < engine.store.support object.id ∨
      (engine.store.support other.id = engine.store.support object.id ∧ object.id < other.id)

/-- There is at most one elected object. -/
theorem Elected.unique {first second : TriggerObject} (one : engine.Elected host height first)
    (other : engine.Elected host height second) : first = second := by
  by_contra differs
  have firstBest := one.best second other.toEligible (Ne.symm differs)
  have secondBest := other.best first one.toEligible differs
  simp only [BitVec.lt_def] at firstBest secondBest
  omega

/-! ### The winner -/

/-- The candidate of an object is within a budget when the payouts that it lists are. -/
theorem withinBudget_candidate_iff {object : TriggerObject} {limit : Amount} :
    (engine.store.candidate object).WithinBudget limit ↔
      ∃ payouts, object.payouts = .ok payouts ∧ payouts.total ≤ limit.toNat := by
  show (∃ total, object.total? = some total ∧ _) ↔ _
  simp only [TriggerObject.total?_eq_some_iff]
  exact ⟨fun ⟨_, ⟨payouts, read, same⟩, within⟩ => ⟨payouts, read, same ▸ within⟩,
    fun ⟨payouts, read, within⟩ => ⟨_, ⟨payouts, read, rfl⟩, within⟩⟩

/-- An object stored for the height is eligible exactly when its candidate qualifies. -/
theorem eligible_iff (coherent : engine.store.Coherent engine.config.cadence)
    {object : TriggerObject} :
    engine.Eligible host height object ↔
      (engine.store.get? object.id = some object ∧ object.targetHeight = height) ∧
        (engine.store.candidate object).Qualifies (engine.requiredQuorum host height)
          (host.budgetLimit height) := by
  rw [Candidate.Qualifies, withinBudget_candidate_iff,
    TriggerStore.netYes_candidate coherent.filed]
  exact ⟨fun ⟨stored, target, supported, payable⟩ => ⟨⟨stored, target⟩, supported, payable⟩,
    fun ⟨⟨stored, target⟩, supported, payable⟩ => ⟨stored, target, supported, payable⟩⟩

/-- Stored objects of one name are the same. -/
theorem eq_of_id_eq {first second : TriggerObject}
    (one : engine.store.get? first.id = some first)
    (other : engine.store.get? second.id = some second) (same : first.id = second.id) :
    first = second := by
  rw [same, other] at one
  exact (Option.some.inj one).symm

theorem beats_candidate_iff (coherent : engine.store.Coherent engine.config.cadence)
    {first second : TriggerObject} :
    (engine.store.candidate first).Beats (engine.store.candidate second) ↔
      engine.store.support second.id < engine.store.support first.id ∨
        (engine.store.support second.id = engine.store.support first.id ∧
          first.id < second.id) := by
  rw [Candidate.Beats, TriggerStore.netYes_candidate coherent.filed,
    TriggerStore.netYes_candidate coherent.filed, @eq_comm _ (engine.store.support first.id)]
  rfl

/-- There is a winner exactly when an object is eligible. -/
theorem winner?_eq_none_iff (coherent : engine.store.Coherent engine.config.cadence) :
    engine.winner? host height = none ↔ ¬∃ object, engine.Eligible host height object := by
  rw [winner?, Election.winner?_eq_none_iff]
  constructor
  · rintro nobody ⟨object, eligible⟩
    obtain ⟨⟨stored, target⟩, qualifies⟩ := (eligible_iff coherent).mp eligible
    exact nobody _ ((mem_candidatesAt_iff coherent).mpr ⟨object, stored, target, rfl⟩) qualifies
  · intro nobody candidate member qualifies
    obtain ⟨object, stored, target, rfl⟩ := (mem_candidatesAt_iff coherent).mp member
    exact nobody ⟨object, (eligible_iff coherent).mpr ⟨⟨stored, target⟩, qualifies⟩⟩

/-- The winner is the elected object. -/
theorem winner?_eq_some_iff (coherent : engine.store.Coherent engine.config.cadence)
    {candidate : Candidate} :
    engine.winner? host height = some candidate ↔
      ∃ object, engine.Elected host height object ∧ engine.store.candidate object = candidate := by
  have named : ∀ first ∈ engine.candidatesAt height, ∀ second ∈ engine.candidatesAt height,
      first.id = second.id → first = second := by
    intro first one second other same
    obtain ⟨_, stored, _, rfl⟩ := (mem_candidatesAt_iff coherent).mp one
    obtain ⟨_, storedToo, _, rfl⟩ := (mem_candidatesAt_iff coherent).mp other
    rw [eq_of_id_eq stored storedToo same]
  rw [winner?, Election.winner?_eq_some_iff named]
  constructor
  · rintro ⟨member, qualifies, best⟩
    obtain ⟨object, stored, target, rfl⟩ := (mem_candidatesAt_iff coherent).mp member
    have eligible := (eligible_iff coherent).mpr ⟨⟨stored, target⟩, qualifies⟩
    refine ⟨object, ⟨eligible, fun other able differs => ?_⟩, rfl⟩
    obtain ⟨⟨otherStored, otherTarget⟩, otherQualifies⟩ := (eligible_iff coherent).mp able
    refine (beats_candidate_iff coherent).mp (best _ ?_ otherQualifies fun same => ?_)
    · exact (mem_candidatesAt_iff coherent).mpr ⟨other, otherStored, otherTarget, rfl⟩
    · exact differs (eq_of_id_eq otherStored stored (congrArg Candidate.id same))
  · rintro ⟨object, elected, rfl⟩
    obtain ⟨⟨stored, target⟩, qualifies⟩ := (eligible_iff coherent).mp elected.toEligible
    refine ⟨(mem_candidatesAt_iff coherent).mpr ⟨object, stored, target, rfl⟩, qualifies, ?_⟩
    intro candidate member able differs
    obtain ⟨other, otherStored, otherTarget, rfl⟩ := (mem_candidatesAt_iff coherent).mp member
    refine (beats_candidate_iff coherent).mpr (elected.best other ?_ fun same => ?_)
    · exact (eligible_iff coherent).mpr ⟨⟨otherStored, otherTarget⟩, able⟩
    · exact differs (congrArg engine.store.candidate same)

/-! ### The triggered contract -/

/-- The triggered contract is the elected object with the payouts that it lists. -/
theorem triggered?_eq_some_iff (coherent : engine.store.Coherent engine.config.cadence)
    {winner : Candidate} {payouts : Allocation} :
    engine.triggered? host height = some (winner, payouts) ↔
      ∃ object, engine.Elected host height object ∧ engine.store.candidate object = winner ∧
        object.payouts = .ok payouts := by
  have scheduled : ∀ object, engine.Elected host height object →
      engine.config.cadence.IsSuperblock height := fun object elected =>
    elected.target ▸ coherent.scheduled object.id object elected.stored
  rw [triggered?]
  by_cases superblock : engine.config.cadence.IsSuperblock height
  · rw [if_neg (not_not_intro superblock)]
    refine Option.bind_eq_some_iff.trans ?_
    constructor
    · rintro ⟨candidate, won, afterWinner⟩
      obtain ⟨object, elected, rfl⟩ := (winner?_eq_some_iff coherent).mp won
      obtain ⟨found, held, afterObject⟩ := Option.bind_eq_some_iff.mp afterWinner
      obtain ⟨read, paid, result⟩ := Option.bind_eq_some_iff.mp afterObject
      have same : object = found := Option.some.inj (elected.stored.symm.trans held)
      cases result
      exact ⟨object, elected, rfl, same ▸ toOption_eq_some_iff.mp paid⟩
    · rintro ⟨object, elected, rfl, read⟩
      refine ⟨_, (winner?_eq_some_iff coherent).mpr ⟨object, elected, rfl⟩, ?_⟩
      refine Option.bind_eq_some_iff.mpr ⟨object, elected.stored, ?_⟩
      exact Option.bind_eq_some_iff.mpr ⟨payouts, toOption_eq_some_iff.mpr read, rfl⟩
  · rw [if_pos superblock]
    refine iff_of_false (Option.some_ne_none _).symm ?_
    rintro ⟨object, elected, _⟩
    exact superblock (scheduled object elected)

/-- Where an object is eligible there is a triggered contract. -/
theorem triggered?_isSome_iff (coherent : engine.store.Coherent engine.config.cadence) :
    (engine.triggered? host height).isSome = true ↔
      ∃ object, engine.Eligible host height object := by
  rw [Option.isSome_iff_exists]
  constructor
  · rintro ⟨⟨winner, payouts⟩, triggered⟩
    obtain ⟨object, elected, _⟩ := (triggered?_eq_some_iff coherent).mp triggered
    exact ⟨object, elected.toEligible⟩
  · intro someone
    cases won : engine.winner? host height with
    | none => exact absurd someone ((winner?_eq_none_iff coherent).mp won)
    | some candidate =>
      obtain ⟨object, elected, rfl⟩ := (winner?_eq_some_iff coherent).mp won
      obtain ⟨payouts, read, _⟩ := elected.payable
      exact ⟨_, (triggered?_eq_some_iff coherent).mpr ⟨object, elected, rfl, read⟩⟩

/-- A fingerprint that a stored object for the height carries. -/
def Carried (engine : Engine σ) (height : Height) (fingerprint : Fingerprint) : Prop :=
  ∃ object, engine.store.get? object.id = some object ∧ object.targetHeight = height ∧
    object.fingerprint = fingerprint

theorem carried_iff (coherent : engine.store.Coherent engine.config.cadence)
    {fingerprint : Fingerprint} :
    engine.Carried height fingerprint ↔
      ∃ candidate ∈ engine.candidatesAt height, candidate.fingerprint = fingerprint := by
  simp only [mem_candidatesAt_iff coherent]
  exact ⟨fun ⟨object, stored, target, carries⟩ => ⟨_, ⟨object, stored, target, rfl⟩, carries⟩,
    fun ⟨_, ⟨object, stored, target, same⟩, carries⟩ =>
      ⟨object, stored, target, by rw [← carries, ← same]; rfl⟩⟩

/-- In every engine that a run reaches, a contract is triggered at exactly the superblock heights
with an eligible object. It is the one elected object, with the payouts that this lists. Its
fingerprint is the only one that wins or is confirmed there, and all others that are carried at
the height are superseded. Without an eligible object no fingerprint wins, is confirmed or
superseded. -/
theorem triggered_is_elected [Relay σ] {hosts : Set Host} (reached : Reachable hosts engine)
    (host : Host) (height : Height) :
    ((engine.triggered? host height).isSome = true ↔
      engine.config.cadence.IsSuperblock height ∧
        ∃ object, engine.Eligible host height object) ∧
    (∀ winner payouts, engine.triggered? host height = some (winner, payouts) →
      ∃ object, engine.Elected host height object ∧
        (∀ other, engine.Elected host height other → other = object) ∧
        winner = engine.store.candidate object ∧
        winner.netYes = engine.store.support object.id ∧
        object.payouts = .ok payouts ∧
        (engine.contractState host height winner.fingerprint).IsElected ∧
        ∀ fingerprint, fingerprint ≠ winner.fingerprint →
          ¬(engine.contractState host height fingerprint).IsElected ∧
            (engine.Carried height fingerprint →
              engine.contractState host height fingerprint = .superseded)) ∧
    ((¬∃ object, engine.Eligible host height object) → ∀ fingerprint,
      ¬(engine.contractState host height fingerprint).IsElected ∧
        engine.contractState host height fingerprint ≠ .superseded) := by
  have coherent := reached.coherent
  refine ⟨?_, fun winner payouts triggered => ?_, fun nobody fingerprint => ?_⟩
  · rw [triggered?_isSome_iff coherent]
    refine (and_iff_right_of_imp ?_).symm
    rintro ⟨object, eligible⟩
    exact eligible.target ▸ coherent.scheduled object.id object eligible.stored
  · obtain ⟨object, elected, rfl, read⟩ := (triggered?_eq_some_iff coherent).mp triggered
    have won : engine.winner? host height = some (engine.store.candidate object) :=
      (winner?_eq_some_iff coherent).mpr ⟨object, elected, rfl⟩
    have carried : engine.Carried height (engine.store.candidate object).fingerprint :=
      ⟨object, elected.stored, elected.target, rfl⟩
    refine ⟨object, elected, fun other also => also.unique elected, rfl,
      TriggerStore.netYes_candidate coherent.filed object, read, ?_, fun fingerprint differs => ?_⟩
    · rw [contractState, won]
      exact ContractState.isElected_classify_iff.mpr ⟨(carried_iff coherent).mp carried, rfl⟩
    · rw [contractState, won]
      refine ⟨fun elsewhere => ?_, fun alsoCarried => ?_⟩
      · exact differs (ContractState.isElected_classify_iff.mp elsewhere).2.symm
      · exact ContractState.classify_eq_superseded_iff.mpr
          ⟨(carried_iff coherent).mp alsoCarried, differs.symm⟩
  · rw [contractState, (winner?_eq_none_iff coherent).mpr nobody]
    exact ContractState.classify_of_no_winner

theorem sample_triggered :
    ∃ object winner payouts, SampleRun.engine.Elected SampleRun.host 1300 object ∧
      SampleRun.engine.triggered? SampleRun.host 1300 = some (winner, payouts) ∧
      object.payouts = .ok payouts ∧
      (SampleRun.engine.contractState SampleRun.host 1300 winner.fingerprint).IsElected := by
  have someone : (SampleRun.engine.triggered? SampleRun.host 1300).isSome = true := by
    decide +kernel
  obtain ⟨⟨winner, payouts⟩, triggered⟩ := Option.isSome_iff_exists.mp someone
  obtain ⟨object, elected, _, _, _, read, state, _⟩ :=
    (triggered_is_elected SampleRun.reachable SampleRun.host 1300).2.1 winner payouts triggered
  exact ⟨object, winner, payouts, elected, triggered, read, state⟩

end Engine

end SuperblockGovernance

/-
The fingerprint that a node computes by itself. The plan of its contract goes by the records
as of the snapshot, the budget of the target, and the coin price now and as recorded at the
snapshot; the sporks, the signer and the other prices are written into the contract, but they
are not hashed. So two nodes that agree on these, at any two tips of one cycle, build contracts
with one fingerprint, and their ticks report it, whatever else differs between them.
-/

import SuperblockGovernance.Proofs.KeptAssessments

namespace SuperblockGovernance

/-- The hosts answer alike what the plan of the contract for a target goes by. -/
structure SameChain (config : Config) (target : Height) (first second : Host) : Prop where
  records : config.allocationRules.SameRecords (config.cadence.previous target) first.records
    second.records
  budget : first.budgetLimit target = second.budgetLimit target
  recorded : first.recordedQuote (config.cadence.previous target) =
    second.recordedQuote (config.cadence.previous target)
  recordedBefore :
    first.recordedQuote (config.cadence.previous (config.cadence.previous target)) =
      second.recordedQuote (config.cadence.previous (config.cadence.previous target))
  spot : first.spotQuote.map SpotQuote.bbpPrice = second.spotQuote.map SpotQuote.bbpPrice

namespace Engine

variable {σ τ : Type} {first : Engine σ} {second : Engine τ} {here there : Host}
variable {engine : Engine σ} {host : Host} {target : Height}

/-! ### The local plan -/

/-- The plan that a node with nothing kept puts into its contract for a target. -/
def localPlan (engine : Engine σ) (host : Host) (target : Height) : Allocation :=
  (engine.freshAssessment host target).allocation.withPhase
    (some (engine.quoteFor host target (engine.snapshotFor target)).phase)

/-- Of the market data only the phase is hashed, which compares the coin price now with the one
that was recorded. -/
theorem phase_quoteFor_congr (config : first.config = second.config)
    (chain : SameChain first.config target here there) :
    (first.quoteFor here target (first.snapshotFor target)).phase =
      (second.quoteFor there target (second.snapshotFor target)).phase := by
  have recorded : first.recordedQuote here (first.snapshotFor target) =
      second.recordedQuote there (second.snapshotFor target) := by
    unfold recordedQuote snapshotFor
    rw [← config, chain.recorded, chain.recordedBefore]
  simp only [quoteFor, Quote.forHeight, recorded, chain.spot, config]

theorem localPlan_congr (config : first.config = second.config)
    (chain : SameChain first.config target here there) :
    first.localPlan here target = second.localPlan there target := by
  rw [localPlan, localPlan, freshAssessment_congr config chain.records chain.budget,
    phase_quoteFor_congr config chain]

/-! ### The contract -/

theorem assess_of_cold (cold : engine.cache = none) (host : Host) (target : Height) :
    (engine.assess host target).1 = engine.freshAssessment host target := by
  rw [assess, cached?, cold]
  rfl

/-- With nothing kept, a contract for submission carries the local plan. -/
theorem allocation_of_buildContract (cold : engine.cache = none) {height : Height}
    (resolved : engine.resolveHeight host height = .ok target) :
    ∃ contract, (engine.buildContract host height true).1 = .ok contract ∧
      contract.allocation = engine.localPlan host target := by
  obtain ⟨cache, same⟩ := exists_cache_assess engine host target
  refine ⟨(engine.assess host target).2.contractOf host target (engine.assess host target).1 true,
    ?_, ?_⟩
  · rw [buildContract, resolved]
  · rw [same, assess_of_cold cold]
    rfl

/-- Both fail alike, or make contracts with one plan. -/
inductive SamePlan : Except ValidationError Contract → Except ValidationError Contract → Prop
  | failed (cause : ValidationError) : SamePlan (.error cause) (.error cause)
  | built {contract other : Contract} (plan : contract.allocation = other.allocation) :
      SamePlan (.ok contract) (.ok other)

/-- Two nodes that agree on the chain put one plan into their contracts for the next superblock,
whatever their tips. -/
theorem samePlan_buildContract {tip other : ChainTip} (config : first.config = second.config)
    (cold : first.cache = none) (coldThere : second.cache = none) (found : here.tip = some tip)
    (foundThere : there.tip = some other)
    (next : (first.config.cadence.around tip.height).2 = target)
    (nextThere : (second.config.cadence.around other.height).2 = target)
    (chain : SameChain first.config target here there) :
    (∃ contract contractThere, (first.buildContract here 0 true).1 = .ok contract ∧
      (second.buildContract there 0 true).1 = .ok contractThere ∧
      contract.allocation = contractThere.allocation) ∧
    SamePlan (first.buildContract here target true).1
      (second.buildContract there target true).1 := by
  have made : ∀ {height}, first.resolveHeight here height = .ok target →
      second.resolveHeight there height = .ok target →
      ∃ contract contractThere, (first.buildContract here height true).1 = .ok contract ∧
        (second.buildContract there height true).1 = .ok contractThere ∧
        contract.allocation = contractThere.allocation := by
    intro height resolved resolvedThere
    obtain ⟨contract, built, plan⟩ := allocation_of_buildContract cold resolved
    obtain ⟨contractThere, builtThere, planThere⟩ :=
      allocation_of_buildContract coldThere resolvedThere
    refine ⟨contract, contractThere, built, builtThere, ?_⟩
    rw [plan, planThere, localPlan_congr config chain]
  obtain ⟨zero, itself⟩ := resolveHeight_next found next
  obtain ⟨zeroThere, itselfThere⟩ := resolveHeight_next foundThere nextThere
  refine ⟨made zero zeroThere, ?_⟩
  rw [← config] at itselfThere
  by_cases stands : target = 0 ∨ first.config.cadence.IsSuperblock target
  · rw [if_pos stands] at itself itselfThere
    obtain ⟨contract, contractThere, built, builtThere, plan⟩ := made itself itselfThere
    rw [built, builtThere]
    exact .built plan
  · rw [if_neg stands] at itself itselfThere
    rw [buildContract, buildContract, itself, itselfThere]
    exact .failed _

/-! ### The tick -/

/-- What a tick does leaves the fingerprint in its report. -/
theorem fingerprint_act [Relay σ] (engine : Engine σ) (host : Host) (identity : Identity)
    (report : TickReport) (action : TickAction) :
    (engine.act host identity report action).1.fingerprint = report.fingerprint := by
  cases action with
  | submit payload => rfl
  | vote intents =>
    rw [act]
    split <;> rfl
  | rest => rfl

/-- What a tick reports of the contract it built: the fingerprint, if that pays anyone. -/
def reportedFingerprint : Except ValidationError Contract → Option Fingerprint
  | .error _ => none
  | .ok contract => if contract.allocation.isEmpty then none else some contract.fingerprint

theorem fingerprint_tick [Relay σ] {force : Bool} {tip : ChainTip} {identity : Identity}
    (passed : engine.passGates host force = .ok (tip, identity)) :
    (engine.tick host force).1.fingerprint =
      reportedFingerprint
        (engine.buildContract host (engine.config.cadence.around tip.height).2 true).1 := by
  rw [tick_of_passGates passed, fingerprint_act]
  rcases engine.decide_cases host tip.height identity with
    ⟨_, _, unpaid, rests⟩ | ⟨contract, built, pays, decided⟩
  · rw [rests]
    let target := (engine.config.cadence.around tip.height).2
    cases built : (engine.buildContract host target true).1 with
    | error cause => rfl
    | ok contract => exact (if_pos (unpaid contract built)).symm
  · rw [decided, built]
    exact (if_neg (Bool.eq_false_iff.mp pays)).symm

/-- A fingerprint goes by the plan of a contract alone. -/
theorem SamePlan.fingerprints {one two : Except ValidationError Contract}
    (same : SamePlan one two) :
    one.map Contract.fingerprint = two.map Contract.fingerprint ∧
      reportedFingerprint one = reportedFingerprint two := by
  cases same with
  | failed cause => exact ⟨rfl, rfl⟩
  | @built contract other plan =>
    have fingerprint : contract.fingerprint = other.fingerprint := by
      rw [Contract.fingerprint_eq, Contract.fingerprint_eq, plan]
    refine ⟨congrArg Except.ok fingerprint, ?_⟩
    rw [reportedFingerprint, reportedFingerprint, plan, fingerprint]

/-! ### Two nodes -/

/-- Two nodes with one configuration and nothing kept of assessments, that agree on the chain as of
the snapshot and on the coin price, have one local fingerprint at any two tips with the same next
superblock. Their contracts for it carry this fingerprint, and so do the reports of their ticks, if
the contracts pay anyone. -/
theorem local_fingerprint_agrees [Relay σ] [Relay τ] {tip other : ChainTip}
    (config : first.config = second.config) (cold : first.cache = none)
    (coldThere : second.cache = none) (found : here.tip = some tip)
    (foundThere : there.tip = some other)
    (next : (first.config.cadence.around tip.height).2 = target)
    (nextThere : (second.config.cadence.around other.height).2 = target)
    (chain : SameChain first.config target here there) :
    (∃ contract contractThere, (first.buildContract here 0 true).1 = .ok contract ∧
      (second.buildContract there 0 true).1 = .ok contractThere ∧
      contract.fingerprint = contractThere.fingerprint) ∧
    (first.buildContract here target true).1.map Contract.fingerprint =
      (second.buildContract there target true).1.map Contract.fingerprint ∧
    ∀ force forceThere identity identityThere,
      first.passGates here force = .ok (tip, identity) →
      second.passGates there forceThere = .ok (other, identityThere) →
        (first.tick here force).1.fingerprint = (second.tick there forceThere).1.fingerprint ∧
        ∀ contract, (first.buildContract here target true).1 = .ok contract →
          contract.allocation.isEmpty = false →
            (first.tick here force).1.fingerprint = some contract.fingerprint := by
  obtain ⟨⟨contract, contractThere, built, builtThere, plan⟩, agreed⟩ :=
    samePlan_buildContract config cold coldThere found foundThere next nextThere chain
  refine ⟨⟨contract, contractThere, built, builtThere, congrArg Allocation.fingerprint plan⟩,
    agreed.fingerprints.1, ?_⟩
  intro force forceThere identity identityThere passed passedThere
  rw [fingerprint_tick passed, fingerprint_tick passedThere, next, nextThere]
  refine ⟨agreed.fingerprints.2, fun contract built pays => ?_⟩
  rw [built]
  exact if_neg (Bool.eq_false_iff.mp pays)

end Engine

/-! ### Two sample nodes -/

namespace NodePair

/-- The network of the sample run, which computes phases. -/
def config : Config :=
  { SampleRun.config with phaseActivationHeight := some 1100 }

/-- The contribution of the growing chain in an earlier block. -/
def earlier : Contribution :=
  { GrowingChain.contribution with height := 1150 }

/-- The coin price was lower at the snapshot. -/
def recordedQuotes : SortedMap Height Quote :=
  .ofList [(1200, ⟨1, 40, 8, 100⟩)]

/-- The chain as the first node sees it. -/
def here : Host :=
  ({ tip := some (HostFixture.tipAt 1250), weights := GrowingChain.weights, recordedQuotes
     contributions := [earlier]
     spotQuote := some ⟨50, 9, 100⟩ } : HostFixture).host

/-- A host at a later tip of the cycle, with a later contribution, other prices in USD and BTC, and
another sanctuary, signer and clock. -/
def there : Host :=
  ({ tip := some (HostFixture.tipAt 1260), weights := GrowingChain.weights, recordedQuotes
     contributions := [earlier, GrowingChain.contribution]
     spotQuote := some ⟨50, 7, 200⟩
     now := 1003000
     synced := false
     identity := some ⟨7⟩
     identityCount := 9
     signerKey := "BOther" } : HostFixture).host

/-- The first node, which has seen nothing. -/
def first : Engine CountingRelay :=
  { config, relay := {} }

/-- A node with another relay, and a setting that won. -/
def second : Engine QueuedRelay :=
  { config, relay := { closed := true }, sporks := [⟨1, "SPORK", "PRICE", "1.50"⟩] }

theorem sameChain : SameChain config 1300 here there where
  records := by
    constructor <;> decide +kernel
  budget := rfl
  recorded := rfl
  recordedBefore := rfl
  spot := rfl

end NodePair

open NodePair in
/-- The ticks of both nodes report the fingerprint of one contract that pays someone. -/
theorem sample_fingerprint_agrees :
    (∃ fingerprint, (first.tick here true).1.fingerprint = some fingerprint) ∧
      (first.tick here true).1.fingerprint = (second.tick there true).1.fingerprint := by
  have next : (first.config.cadence.around 1250).2 = 1300 := by decide +kernel
  have nextThere : (second.config.cadence.around 1260).2 = 1300 := by decide +kernel
  have config : first.config = second.config := rfl
  obtain ⟨_, _, ticks⟩ := Engine.local_fingerprint_agrees config rfl rfl
    (show here.tip = some (HostFixture.tipAt 1250) from rfl)
    (show there.tip = some (HostFixture.tipAt 1260) from rfl) next nextThere sameChain
  obtain ⟨same, reported⟩ := ticks true true ⟨1⟩ ⟨7⟩ (by decide +kernel) (by decide +kernel)
  have pays : (first.buildContract here 1300 true).1.toOption.map
      (fun contract => contract.allocation.isEmpty) = some false := by
    decide +kernel
  obtain ⟨contract, built, someone⟩ := Option.map_eq_some_iff.mp pays
  exact ⟨⟨_, reported contract (toOption_eq_some_iff.mp built) someone⟩, same⟩

end SuperblockGovernance

/-
The assessment that an engine keeps. It is kept under its target and the hash of the block at
the snapshot, so as long as the records at a height go with the block there, a kept assessment
is the one that would be made now. A block that does not exist yet counts as one with the zero
hash, though, and until it exists its records may still come in: an assessment made ahead of
the chain is then given again although it is out of date.
-/

import SuperblockGovernance.Proofs.EngineRuns

namespace SuperblockGovernance

/-! ### What an assessment asks -/

namespace AllocationRules

variable {rules : AllocationRules} {snapshot : Height} {first second : ChainRecords}

/-- The records answer alike whatever an assessment as of the snapshot asks. -/
structure SameRecords (rules : AllocationRules) (snapshot : Height) (first second : ChainRecords) :
    Prop where
  stakes : first.stakes snapshot = second.stakes snapshot
  contributions : first.contributions (rules.windowStart snapshot) snapshot =
    second.contributions (rules.windowStart snapshot) snapshot
  coinAgeVotes : first.coinAgeVotes (rules.windowStart snapshot) snapshot =
    second.coinAgeVotes (rules.windowStart snapshot) snapshot
  charities : first.charities snapshot = second.charities snapshot
  orphans : first.orphans snapshot = second.orphans snapshot
  weights : first.weights snapshot = second.weights snapshot

theorem SameRecords.refl (records : ChainRecords) : rules.SameRecords snapshot records records :=
  ⟨rfl, rfl, rfl, rfl, rfl, rfl⟩

theorem SameRecords.symm (same : rules.SameRecords snapshot first second) :
    rules.SameRecords snapshot second first :=
  ⟨same.stakes.symm, same.contributions.symm, same.coinAgeVotes.symm, same.charities.symm,
    same.orphans.symm, same.weights.symm⟩

/-- An assessment goes by the records as of its snapshot alone. -/
theorem assess_congr (same : rules.SameRecords snapshot first second) (target : Height)
    (limit : Amount) :
    rules.assess first target snapshot limit = rules.assess second target snapshot limit := by
  have awards : rules.awards first snapshot = rules.awards second snapshot := by
    unfold AllocationRules.awards
    dsimp only
    rw [same.stakes, same.contributions, same.coinAgeVotes, same.charities, same.orphans]
  unfold assess collectPoints
  rw [awards, same.weights]

end AllocationRules

namespace Engine

variable {σ : Type} {hosts : Set Host} {host : Host} {engine : Engine σ}

/-! ### Settled blocks -/

/-- Hosts with the same block at a height answer alike what an assessment as of it asks, and all
hosts have the same budgets. -/
structure Settled (rules : AllocationRules) (hosts : Set Host) : Prop where
  records : ∀ first ∈ hosts, ∀ second ∈ hosts, ∀ height hash,
    first.blockHash height = some hash → second.blockHash height = some hash →
      rules.SameRecords height first.records second.records
  budgets : ∀ first ∈ hosts, ∀ second ∈ hosts, first.budgetLimit = second.budgetLimit

theorem freshAssessment_congr {τ : Type} {other : Engine τ} {there : Host} {target : Height}
    (config : engine.config = other.config)
    (records : engine.config.allocationRules.SameRecords (engine.snapshotFor target) host.records
      there.records)
    (budget : host.budgetLimit target = there.budgetLimit target) :
    engine.freshAssessment host target = other.freshAssessment there target := by
  rw [freshAssessment, freshAssessment, AllocationRules.assess_congr records, budget, snapshotFor,
    snapshotFor, config]

theorem blockHash_of_seedAt {maker : Host} {height : Height} {hash : Hash256}
    (mined : host.blockHash height = some hash) (nonzero : hash ≠ 0)
    (same : maker.seedAt height = host.seedAt height) : maker.blockHash height = some hash := by
  rw [Host.seedAt, Host.seedAt, mined, Option.getD_some] at same
  cases found : maker.blockHash height with
  | none =>
    rw [found] at same
    exact absurd same.symm nonzero
  | some other =>
    rw [found] at same
    exact congrArg some same

/-- In every run at hosts whose blocks are settled, an assessment for a target whose snapshot block
exists is the one that is made now, whatever was assessed before. Any other was made at a host of
the run at which the block has the same hash, or is missing as well. -/
theorem assessment_is_current [Relay σ] (reached : Reachable hosts engine)
    (settled : Settled engine.config.allocationRules hosts) (member : host ∈ hosts)
    (target : Height) :
    let snapshot := engine.snapshotFor target
    (∀ hash, host.blockHash snapshot = some hash → hash ≠ 0 →
      (engine.assess host target).1 = engine.freshAssessment host target) ∧
    ∃ maker ∈ hosts, maker.seedAt snapshot = host.seedAt snapshot ∧
      (engine.assess host target).1 = engine.freshAssessment maker target := by
  obtain ⟨maker, within, seed, made⟩ := reached.assess_eq host target
  have inside : maker ∈ hosts := by
    rcases within with inside | rfl
    · exact inside
    · exact member
  refine ⟨fun hash mined nonzero => ?_, maker, inside, seed, made⟩
  rw [made]
  have minedThere := blockHash_of_seedAt mined nonzero seed
  refine freshAssessment_congr rfl ?_ (congrFun (settled.budgets maker inside host member) target)
  exact settled.records maker inside host member _ hash minedThere mined

end Engine

/-! ### A chain that grows -/

namespace GrowingChain

/-- A contribution in the block 1255. -/
def contribution : Contribution :=
  { height := 1255
    txid := 1
    campaign := "CAMEROON"
    payee := SampleRun.payee
    coinAge := 2
    donation := 0 }

/-- All weight is with one campaign. -/
def weights : SortedMap Campaign UInt32 :=
  .ofList [("CAMEROON", 10000)]

/-- The host before the block of the contribution. -/
def before : Host :=
  ({ tip := some (HostFixture.tipAt 1250), weights } : HostFixture).host

/-- The host after it, at which the superblock 1300 is still to come. -/
def after : Host :=
  ({ tip := some (HostFixture.tipAt 1260), weights
     contributions := [contribution] } : HostFixture).host

/-- The engine after an assessment for a target at the host before. -/
def engineFor (target : Height) : Engine CountingRelay :=
  [Call.assess target].foldl (fun engine call => engine.perform before call)
    { config := SampleRun.config, relay := {} }

theorem reachable_engineFor (target : Height) :
    Engine.Reachable {before, after} (engineFor target) :=
  ⟨SampleRun.config, {}, Engine.run_of_calls (Set.mem_insert _ _) _ _⟩

theorem le_of_blockHash {height : Height} {hash : Hash256}
    (mined : before.blockHash height = some hash) : height ≤ 1250 := by
  by_contra beyond
  simp [before, HostFixture.host, HostFixture.blockHash, HostFixture.tipAt, beyond] at mined
  cases mined

/-- The contribution is in no block that the host before has. -/
theorem sameRecords {rules : AllocationRules} {height : Height} (mined : height ≤ 1250) :
    rules.SameRecords height before.records after.records where
  stakes := rfl
  contributions := by
    refine (List.filter_cons_of_neg ?_).symm
    have outside : ¬(1255 : Height) ≤ height := by
      rw [UInt32.le_iff_toNat_le] at mined ⊢
      exact fun inside => absurd (Nat.le_trans inside mined) (by decide)
    simp [contribution, outside]
  coinAgeVotes := rfl
  charities := rfl
  orphans := rfl
  weights := rfl

theorem settled (rules : AllocationRules) : Engine.Settled rules {before, after} where
  records := by
    rintro first (rfl | rfl) second (rfl | rfl) height hash mined minedToo
    · exact .refl _
    · exact sameRecords (le_of_blockHash mined)
    · exact (sameRecords (le_of_blockHash minedToo)).symm
    · exact .refl _
  budgets := by
    rintro first (rfl | rfl) second (rfl | rfl) <;> rfl

end GrowingChain

/-- What was assessed for the height 1300 at the first host is what is assessed at the second, which
has the same block 1200. -/
theorem sample_assessment_is_current :
    Engine.Reachable {GrowingChain.before, GrowingChain.after} (GrowingChain.engineFor 1300) ∧
      ((GrowingChain.engineFor 1300).assess GrowingChain.after 1300).1 =
        (GrowingChain.engineFor 1300).freshAssessment GrowingChain.after 1300 := by
  have reached := GrowingChain.reachable_engineFor 1300
  refine ⟨reached, ?_⟩
  refine (Engine.assessment_is_current reached (GrowingChain.settled _) (Or.inr rfl) 1300).1
    1200 ?_ (by decide)
  decide +kernel

/-- What was assessed for the height 1400 at the first host is given again at the second, where the
contribution counts. Neither has the block 1300 yet. -/
theorem assessment_ahead_is_stale :
    Engine.Reachable {GrowingChain.before, GrowingChain.after} (GrowingChain.engineFor 1400) ∧
      Engine.Settled (GrowingChain.engineFor 1400).config.allocationRules
        {GrowingChain.before, GrowingChain.after} ∧
      GrowingChain.after.blockHash ((GrowingChain.engineFor 1400).snapshotFor 1400) = none ∧
      ((GrowingChain.engineFor 1400).assess GrowingChain.after 1400).1 ≠
        (GrowingChain.engineFor 1400).freshAssessment GrowingChain.after 1400 := by
  refine ⟨GrowingChain.reachable_engineFor 1400, GrowingChain.settled _, ?_, ?_⟩
  · decide +kernel
  · decide +kernel

end SuperblockGovernance

/-
The contract that the engine computes by itself. The assessment for a target is made on
the chain as of the superblock before it and kept until that block changes. A contract
built for submission also carries market data and the sporks that won.
-/

import SuperblockGovernance.Engine

namespace SuperblockGovernance.Engine

variable {σ : Type}

/-- The superblock at which the allocation for a target is assessed. -/
def snapshotFor (engine : Engine σ) (target : Height) : Height :=
  engine.config.cadence.previous target

/-! ### Assessments -/

/-- The kept assessment, if it is for this target and of this snapshot block. -/
def cached? (engine : Engine σ) (target : Height) (seed : Hash256) : Option Assessment :=
  (engine.cache.filter fun kept => kept.target = target ∧ kept.seed = seed).map
    CachedAssessment.assessment

/-- An assessment made now. -/
def freshAssessment (engine : Engine σ) (host : Host) (target : Height) : Assessment :=
  engine.config.allocationRules.assess host.records target (engine.snapshotFor target)
    (host.budgetLimit target)

/-- The assessment for a target: the kept one, or a fresh one, which is then kept. -/
def assess (engine : Engine σ) (host : Host) (target : Height) : Assessment × Engine σ :=
  let seed := host.seedAt (engine.snapshotFor target)
  match engine.cached? target seed with
  | some assessment => (assessment, engine)
  | none =>
    let assessment := engine.freshAssessment host target
    (assessment, { engine with cache := some ⟨target, seed, assessment⟩ })

/-- The assessment behind the contract for a height. -/
def prominence (engine : Engine σ) (host : Host) (height : Height) :
    Except ValidationError Assessment × Engine σ :=
  match engine.resolveHeight host height with
  | .error cause => (.error cause, engine)
  | .ok target =>
    let (assessment, engine) := engine.assess host target
    (.ok assessment, engine)

/-! ### Contracts -/

/-- The market data recorded at the snapshot, or else at the superblock before it. -/
def recordedQuote (engine : Engine σ) (host : Host) (snapshot : Height) : Option Quote :=
  (host.recordedQuote snapshot).or (host.recordedQuote (engine.snapshotFor snapshot))

/-- The market data for a contract. -/
def quoteFor (engine : Engine σ) (host : Host) (target snapshot : Height) : Quote :=
  .forHeight target engine.config.phaseActivationHeight host.spotQuote
    (engine.recordedQuote host snapshot)

/-- The contract that pays an assessment. -/
def contractOf (engine : Engine σ) (host : Host) (target : Height) (assessment : Assessment)
    (forCreation : Bool) : Contract :=
  let contract : Contract := { allocation := assessment.allocation }
  if forCreation then
    (contract.withQuote (engine.quoteFor host target assessment.snapshot)).withSporks
      (.ofWinners host.signerKey engine.sporks)
  else contract

/-- The contract for a height. -/
def buildContract (engine : Engine σ) (host : Host) (height : Height) (forCreation : Bool) :
    Except ValidationError Contract × Engine σ :=
  match engine.resolveHeight host height with
  | .error cause => (.error cause, engine)
  | .ok target =>
    let (assessment, engine) := engine.assess host target
    (.ok (engine.contractOf host target assessment forCreation), engine)

/-- The wire text of the contract for a height. -/
def contractText (engine : Engine σ) (host : Host) (height : Height) (forCreation : Bool) :
    Except ValidationError String × Engine σ :=
  let (contract, engine) := engine.buildContract host height forCreation
  (contract.map Contract.toText, engine)

/-! ### Sporks -/

/-- The settings that win now, among the proposals of the spork window. -/
def currentSporks (engine : Engine σ) (host : Host) : List WinningSpork :=
  let rules := engine.config.sporkRules
  let since := UInt64.ofNat (host.now.toNat - rules.windowSecs.toNat)
  winningSporks (host.proposalsSince since) host.now (host.validIdentityCount host.tipHeight)
    rules

/-- Selects the sporks for the next contract. -/
def refreshSporks (engine : Engine σ) (host : Host) : Engine σ :=
  { engine with sporks := engine.currentSporks host }

end SuperblockGovernance.Engine

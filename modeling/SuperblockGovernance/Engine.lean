/-
The governance engine of one node: its configuration, the relay it speaks through, the
objects and votes it knows, the last assessment and the sporks that won. Calls take the
host as it is at that moment and answer with a result and the engine after the call. This
module holds the state and what can be read from it without changing it.
-/

import SuperblockGovernance.Allocation.Assessment
import SuperblockGovernance.Cadence
import SuperblockGovernance.Host
import SuperblockGovernance.TriggerStore
import SuperblockGovernance.VotePlan

namespace SuperblockGovernance

/-- The last assessment, with the block at which it was made. -/
structure CachedAssessment where
  target : Height
  /-- The hash of the block at the snapshot. -/
  seed : Hash256
  assessment : Assessment
  deriving DecidableEq

/-- A node that keeps the objects and votes of governance, and hands its own to a relay. -/
structure Engine (σ : Type) where
  config : Config
  relay : σ
  store : TriggerStore := {}
  cache : Option CachedAssessment := none
  /-- The settings for the next contract that is built for submission. -/
  sporks : List WinningSpork := []

namespace Engine

variable {σ : Type}

/-! ### Heights -/

/-- The last and the next superblock height around the tip. -/
def superblockHeights (engine : Engine σ) (host : Host) : Option (Height × Height) :=
  host.tip.map fun tip => engine.config.cadence.around tip.height

/-- The superblock height that a caller means; zero means the next one. -/
def resolveHeight (engine : Engine σ) (host : Host) (height : Height) :
    Except ValidationError Height :=
  if height = 0 then
    match engine.superblockHeights host with
    | some (_, next) => .ok next
    | none => .error (.notSuperblockHeight 0)
  else if engine.config.cadence.IsSuperblock height then .ok height
  else .error (.notSuperblockHeight height)

/-- The net approval that wins at a height. -/
def requiredQuorum (engine : Engine σ) (host : Host) (height : Height) : Nat :=
  SuperblockGovernance.requiredQuorum (host.validIdentityCount height)
    engine.config.quorumPercent engine.config.quorumMinimum

/-! ### Candidates -/

/-- The objects for a height as candidates, in the order of their names. -/
def candidatesAt (engine : Engine σ) (height : Height) : List Candidate :=
  (engine.store.objectsAt height).map engine.store.candidate

/-- The target has passed without a quorum. -/
def Missed (engine : Engine σ) (host : Host) (candidate : Candidate) : Prop :=
  candidate.targetHeight < host.tipHeight ∧
    candidate.netYes < engine.requiredQuorum host candidate.targetHeight

instance (engine : Engine σ) (host : Host) (candidate : Candidate) :
    Decidable (engine.Missed host candidate) :=
  inferInstanceAs (Decidable (_ ∧ _))

/-- The last moment at which an object may lack support. -/
def supportDeadline (engine : Engine σ) (candidate : Candidate) : Nat :=
  min (candidate.creationTime.toNat + engine.config.cycleSecs.toNat) (2 ^ 64 - 1)

/-- The candidate is more than a cycle old and has no support. -/
def Unsupported (engine : Engine σ) (host : Host) (candidate : Candidate) : Prop :=
  engine.supportDeadline candidate < host.now.toNat ∧ candidate.netYes ≤ 0

instance (engine : Engine σ) (host : Host) (candidate : Candidate) :
    Decidable (engine.Unsupported host candidate) :=
  inferInstanceAs (Decidable (_ ∧ _))

/-- The stale objects: not mined, and without a quorum in time or without support. -/
def expiredCandidates (engine : Engine σ) (host : Host) : List Candidate :=
  let unconfirmed :=
    engine.store.allObjects.filter fun object => !engine.store.isConfirmed object.id
  (unconfirmed.map engine.store.candidate).filter fun candidate =>
    engine.Missed host candidate ∨ engine.Unsupported host candidate

/-- What the votes for a target are planned from. -/
def planTerms (engine : Engine σ) (host : Host) (target : Height)
    (localFingerprint : Fingerprint) : PlanTerms where
  height := target
  localFingerprint := localFingerprint
  candidates := engine.candidatesAt target
  expired := engine.expiredCandidates host
  budgetLimit := host.budgetLimit target
  required := engine.requiredQuorum host target
  maxNoVotes := engine.config.maxNoVotesPerTick
  maxDeleteVotes := engine.config.maxDeleteVotesPerTick

/-- The votes of a sanctuary for a target. -/
def plan (engine : Engine σ) (host : Host) (target : Height) (localFingerprint : Fingerprint)
    (identity : Identity) : VotePlan :=
  (engine.planTerms host target localFingerprint).plan (engine.store.voteOf identity)

end Engine

end SuperblockGovernance

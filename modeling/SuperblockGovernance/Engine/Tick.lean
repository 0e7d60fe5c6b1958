/-
The tick: one pass of the quorum protocol. A sanctuary on a synced chain builds its own
contract for the next superblock and then either waits for the winner, creates the trigger
if nobody has and it is privileged, or votes.
-/

import SuperblockGovernance.CreationPrivilege
import SuperblockGovernance.Engine.LocalContract
import SuperblockGovernance.Engine.Submitting
import SuperblockGovernance.Engine.Voting

namespace SuperblockGovernance

/-- What a tick came to. -/
inductive TickOutcome
  | invalidChain
  | chainNotSynced
  | notASanctuary
  | notTimeForQuorum
  | emptyContract
  | overBudget (cause : BudgetError)
  | creatingContract (id : ObjectId)
  | submitFailed (cause : SubmitError)
  | voted (count : Nat)
  | pendingSuperblock (winner : ObjectId)
  | nothingToDo
  deriving DecidableEq

/-- The outcome as it is reported. -/
def TickOutcome.text : TickOutcome → String
  | invalidChain => "INVALID_CHAIN"
  | chainNotSynced => "CHAIN_NOT_SYNCED"
  | notASanctuary => "NOT_A_SANCTUARY"
  | notTimeForQuorum => "NOT_TIME_FOR_QUORUM"
  | emptyContract => "EMPTY_CONTRACT"
  | overBudget cause => "OVER_BUDGET (" ++ cause.message ++ ")"
  | creatingContract id => "CREATING_CONTRACT " ++ id.toMarkedHex
  | submitFailed cause => "SUBMIT_FAILED (" ++ cause.message ++ ")"
  | voted count => "VOTED (" ++ toString count ++ ")"
  | pendingSuperblock winner => "PENDING_SUPERBLOCK " ++ winner.toMarkedHex
  | nothingToDo => "NOTHING_TO_DO"

/-- What a tick reports. -/
structure TickReport where
  outcome : TickOutcome
  target : Option Height := none
  /-- The fingerprint of the contract that was built here. -/
  fingerprint : Option Fingerprint := none
  warning : Option DeterminismWarning := none
  deriving DecidableEq

/-- What a tick has decided to do. -/
inductive TickAction
  | submit (payload : TriggerPayload)
  | vote (intents : List VoteIntent)
  | rest
  deriving DecidableEq

namespace Engine

variable {σ : Type}

/-! ### Gates -/

/-- The tip is older than the configuration allows. -/
def StaleTip (engine : Engine σ) (host : Host) (tip : ChainTip) : Prop :=
  engine.config.maxTipAgeSecs.toNat < host.now.toNat - tip.time.toNat

instance (engine : Engine σ) (host : Host) (tip : ChainTip) :
    Decidable (engine.StaleTip host tip) :=
  inferInstanceAs (Decidable (_ < _))

/-- Unforced ticks run at this height. -/
def TickHeight (engine : Engine σ) (height : Height) : Prop :=
  engine.config.tickModulus = 0 ∨ height % engine.config.tickModulus = 0

instance (engine : Engine σ) (height : Height) : Decidable (engine.TickHeight height) :=
  inferInstanceAs (Decidable (_ ∨ _))

/-- The tip and the sanctuary that a tick goes on with, or why it stops. -/
def passGates (engine : Engine σ) (host : Host) (force : Bool) :
    Except TickOutcome (ChainTip × Identity) :=
  match host.tip with
  | none => .error .invalidChain
  | some tip =>
    if engine.StaleTip host tip then .error .chainNotSynced
    else
      match host.localIdentity with
      | none => .error .notASanctuary
      | some identity =>
        if force ∨ engine.TickHeight tip.height then .ok (tip, identity)
        else .error .notTimeForQuorum

/-! ### The decision -/

/-- What decides over the privilege to create the trigger for a target. -/
def privilegeTerms (engine : Engine σ) (host : Host) (tip target : Height) : PrivilegeTerms where
  target := target
  seed := host.seedAt (engine.snapshotFor target)
  blocksUntilTarget := UInt32.ofNat (target.toNat - tip.toNat)
  cycleLength := engine.config.cycleLength
  objectsExist := !(engine.store.objectsAt target).isEmpty
  sharePercent := engine.config.privilegeSharePercent
  alwaysPrivileged := engine.config.alwaysPrivileged

/-- The creation of a trigger, as the outcome so far and the action. -/
def decideCreation (engine : Engine σ) (host : Host) (target : Height) (contract : Contract) :
    TickOutcome × TickAction :=
  match engine.prepareTrigger host target contract with
  | .ok payload => (.nothingToDo, .submit payload)
  | .error (.budget cause) => (.overBudget cause, .rest)
  | .error cause => (.submitFailed cause, .rest)

/-- The decision over a contract that pays someone, given the vote plan. -/
def decideAction (engine : Engine σ) (host : Host) (identity : Identity) (tip target : Height)
    (contract : Contract) (plan : VotePlan) : TickOutcome × TickAction :=
  match plan.winner with
  | some winner => (.pendingSuperblock winner.id, .vote plan.intents)
  | none =>
    if plan.localMatch.isNone ∧ (engine.privilegeTerms host tip target).grants identity then
      engine.decideCreation host target contract
    else (.nothingToDo, .vote plan.intents)

/-- The report so far and the action of a tick, and the engine with its assessment. -/
def decide (engine : Engine σ) (host : Host) (tip : Height) (identity : Identity) :
    TickReport × TickAction × Engine σ :=
  let target := (engine.config.cadence.around tip).2
  let (built, engine) := engine.buildContract host target true
  match built with
  | .error _ => ({ outcome := .nothingToDo, target := some target }, .rest, engine)
  | .ok contract =>
    if contract.allocation.isEmpty then
      ({ outcome := .emptyContract, target := some target }, .rest, engine)
    else
      let fingerprint := contract.fingerprint
      let plan := engine.plan host target fingerprint identity
      let (outcome, action) := engine.decideAction host identity tip target contract plan
      ({ outcome, target := some target, fingerprint := some fingerprint, warning := plan.warning },
        action, engine)

/-! ### The tick -/

/-- Carries out the decision of a tick. -/
def act [Relay σ] (engine : Engine σ) (host : Host) (identity : Identity) (report : TickReport) :
    TickAction → TickReport × Engine σ
  | .submit payload =>
    let (result, engine) := engine.submitPayload host identity payload
    let outcome : TickOutcome := match result with
      | .ok id => .creatingContract id
      | .error cause => .submitFailed cause
    ({ report with outcome }, engine)
  | .vote intents =>
    let casting := engine.castVotes host identity intents
    if report.outcome = .nothingToDo ∧ 0 < casting.cast then
      ({ report with outcome := .voted casting.cast }, casting.engine)
    else (report, casting.engine)
  | .rest => (report, engine)

/-- One pass of the quorum protocol. A forced tick runs at every height. -/
def tick [Relay σ] (engine : Engine σ) (host : Host) (force : Bool) : TickReport × Engine σ :=
  match engine.passGates host force with
  | .error outcome => ({ outcome }, engine)
  | .ok (tip, identity) =>
    let (report, action, engine) := engine.decide host tip.height identity
    engine.act host identity report action

end Engine

end SuperblockGovernance

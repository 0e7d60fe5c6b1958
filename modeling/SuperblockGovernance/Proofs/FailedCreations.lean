/-
Ticks that cannot create their trigger. A tick decides on one thing to do: where nobody has an
object with the fingerprint of its contract and it is privileged, that is the creation, and the
votes that it has planned are left. If the creation fails, nothing makes up for them: the tick hands
over no vote and changes nothing. The same engine without the privilege hands over all votes of the
plan, which are all against other objects, as there is no object to be in favour of.
-/

import SuperblockGovernance.Proofs.TickReports

namespace SuperblockGovernance

namespace Engine

variable {σ : Type} {engine : Engine σ} {host : Host} {force : Bool} {tip : ChainTip}
variable {identity : Identity} {contract : Contract} {target : Height}

/-! ### The privilege -/

/-- The engine with other settings for the privilege to create. -/
def withPrivilege (engine : Engine σ) (always : Bool) (share : UInt64) : Engine σ :=
  { engine with
    config := { engine.config with alwaysPrivileged := always, privilegeSharePercent := share } }

/-- A contract does not depend on who may create its trigger. -/
theorem buildContract_withPrivilege (engine : Engine σ) (always : Bool) (share : UInt64)
    (host : Host) (height : Height) (forCreation : Bool) :
    (engine.withPrivilege always share).buildContract host height forCreation =
      (engine.buildContract host height forCreation).map id (withPrivilege · always share) := by
  have assessed : ∀ target, (engine.withPrivilege always share).assess host target =
      (engine.assess host target).map id (withPrivilege · always share) := by
    intro target
    have seed : (engine.withPrivilege always share).cached? target
        (host.seedAt ((engine.withPrivilege always share).snapshotFor target)) =
          engine.cached? target (host.seedAt (engine.snapshotFor target)) := rfl
    rw [assess, assess, seed]
    cases engine.cached? target (host.seedAt (engine.snapshotFor target)) <;> rfl
  have resolved : (engine.withPrivilege always share).resolveHeight host height =
      engine.resolveHeight host height := rfl
  rw [buildContract, buildContract, resolved]
  cases engine.resolveHeight host height with
  | error cause => rfl
  | ok target =>
    dsimp only
    rw [assessed]
    rfl

theorem privilegeTerms_congr {first second : Engine σ} (config : first.config = second.config)
    (store : first.store = second.store) (host : Host) (tip target : Height) :
    first.privilegeTerms host tip target = second.privilegeTerms host tip target := by
  obtain ⟨_, _, _, _, _⟩ := first
  obtain ⟨_, _, _, _, _⟩ := second
  cases config
  cases store
  rfl

/-! ### Preparing a trigger -/

/-- A contract that pays someone is refused where no superblock is, above the budget and below one
coin; otherwise it has a trigger. -/
theorem prepareTrigger_cases (engine : Engine σ) (host : Host) (target : Height)
    (pays : contract.allocation.isEmpty = false) :
    let prepared := engine.prepareTrigger host target contract
    (¬engine.config.cadence.IsSuperblock target ∧
      prepared = .error (.validation (.notSuperblockHeight target))) ∨
    ((host.budgetLimit target).toNat < contract.total ∧
      prepared = .error (.budget ⟨target, contract.total, host.budgetLimit target⟩)) ∨
    (contract.total < Amount.coin ∧
      prepared = .error (.validation (.belowMinimum contract.total))) ∨
    ∃ payload, prepared = .ok payload := by
  intro prepared
  unfold prepared
  rw [prepareTrigger]
  by_cases scheduled : engine.config.cadence.IsSuperblock target
  · refine Or.inr ?_
    rw [if_neg (not_not_intro scheduled), if_neg (by simp [pays])]
    rw [checkBudget, Allocation.checkTotal]
    by_cases within : (host.budgetLimit target).toNat < contract.total
    · rw [if_pos within]
      exact Or.inl ⟨within, rfl⟩
    · rw [if_neg within, TriggerPayload.ofContract]
      by_cases small : contract.total < Amount.coin
      · exact Or.inr (Or.inl ⟨small, by rw [if_pos small]; rfl⟩)
      · exact Or.inr (Or.inr ⟨_, by rw [if_neg small, if_neg within]; rfl⟩)
  · exact Or.inl ⟨scheduled, by rw [if_pos scheduled]; rfl⟩

theorem decideCreation_congr {first second : Engine σ} (config : first.config = second.config)
    (host : Host) (target : Height) (contract : Contract) :
    first.decideCreation host target contract = second.decideCreation host target contract := by
  rw [decideCreation, decideCreation, prepareTrigger, prepareTrigger, config]

/-- Where no object is to be waited for or voted for, the privilege decides. -/
theorem decideAction_of_unmatched {tip : Height} {plan : VotePlan} (nobody : plan.winner = none)
    (alone : plan.localMatch = none) :
    engine.decideAction host identity tip target contract plan =
      if (engine.privilegeTerms host tip target).grants identity then
        engine.decideCreation host target contract
      else (.nothingToDo, .vote plan.intents) := by
  rw [decideAction, nobody, alone]
  simp only [Option.isNone_none, true_and]

/-- Why a contract that pays someone has no trigger in the end, with the outcome that is reported
and what was handed over. -/
inductive CreationFails (engine : Engine σ) (host : Host) (target : Height) (contract : Contract)
    (identity : Identity) : TickOutcome → List Handover → Prop
  | unscheduled (outside : ¬engine.config.cadence.IsSuperblock target) :
      CreationFails engine host target contract identity
        (.submitFailed (.validation (.notSuperblockHeight target))) []
  | overBudget (excess : (host.budgetLimit target).toNat < contract.total) :
      CreationFails engine host target contract identity
        (.overBudget ⟨target, contract.total, host.budgetLimit target⟩) []
  | belowCoin (small : contract.total < Amount.coin) :
      CreationFails engine host target contract identity
        (.submitFailed (.validation (.belowMinimum contract.total))) []
  | rateLimited {seconds : Nat}
      (waits : engine.store.waitFor engine.config.submitRateLimitSecs host.now = some seconds) :
      CreationFails engine host target contract identity
        (.submitFailed (.rateLimited seconds)) []
  | refused {payload : TriggerPayload} {cause : NetworkError}
      (prepared : engine.prepareTrigger host target contract = .ok payload) :
      CreationFails engine host target contract identity (.submitFailed (.network cause))
        [.object (host.signedSubmission identity payload) (.error cause)]

theorem CreationFails.votes_eq {outcome : TickOutcome} {handovers : List Handover}
    (fails : engine.CreationFails host target contract identity outcome handovers) :
    handovers.filterMap Handover.vote? = [] := by
  cases fails <;> rfl

/-! ### Ticks that find no object -/

/-- A tick that builds a contract which pays someone decides by its plan. -/
theorem decide_of_built {tip : Height} (next : (engine.config.cadence.around tip).2 = target)
    (built : (engine.buildContract host target true).1 = .ok contract)
    (pays : contract.allocation.isEmpty = false) :
    let plan := engine.plan host target contract.fingerprint identity
    let decision := (engine.prepared host tip).decideAction host identity tip target contract plan
    engine.decide host tip identity =
      ({ outcome := decision.1, target := some target, fingerprint := some contract.fingerprint,
         warning := plan.warning }, decision.2, engine.prepared host tip) := by
  subst next
  rcases engine.decide_cases host tip identity with ⟨_, _, empty, _⟩ | ⟨own, made, _, decided⟩
  · rw [empty contract built] at pays
    cases pays
  · obtain rfl : own = contract := Except.ok.inj (made.symm.trans built)
    rw [← plan_congr (config_prepared engine host tip) (store_prepared engine host tip)]
    exact decided

/-- A tick that passes its gates and builds a contract that pays someone. No object for the target
qualifies, and none carries the fingerprint of the contract. -/
structure LoneTick (engine : Engine σ) (host : Host) (force : Bool) (tip : ChainTip)
    (identity : Identity) (target : Height) (contract : Contract) : Prop where
  passed : engine.passGates host force = .ok (tip, identity)
  next : (engine.config.cadence.around tip.height).2 = target
  built : (engine.buildContract host target true).1 = .ok contract
  pays : contract.allocation.isEmpty = false
  unwon : ¬∃ object, engine.Eligible host target object
  missing : ¬engine.Carried target contract.fingerprint

/-- Such a tick creates the trigger if it is privileged, and votes by its plan otherwise. -/
theorem LoneTick.decide_eq (coherent : engine.store.Coherent engine.config.cadence)
    (lone : engine.LoneTick host force tip identity target contract) :
    let decision := if (engine.privilegeTerms host tip.height target).grants identity then
        engine.decideCreation host target contract
      else (.nothingToDo, .vote (engine.plan host target contract.fingerprint identity).intents)
    engine.decide host tip.height identity =
      ({ outcome := decision.1, target := some target,
         fingerprint := some contract.fingerprint }, decision.2,
        engine.prepared host tip.height) := by
  have config := config_prepared engine host tip.height
  have store := store_prepared engine host tip.height
  have nobody : engine.winner? host target = none := (winner?_eq_none_iff coherent).mpr lone.unwon
  have quiet : (engine.plan host target contract.fingerprint identity).warning = none := by
    show (engine.winner? host target).bind _ = none
    rw [nobody]
    rfl
  have alone : (engine.plan host target contract.fingerprint identity).localMatch = none :=
    Option.map_eq_none_iff.mpr ((localMatch?_eq_none_iff coherent).mpr lone.missing)
  intro decision
  rw [decide_of_built lone.next lone.built lone.pays, decideAction_of_unmatched nobody alone,
    privilegeTerms_congr config store, decideCreation_congr config, quiet]

section Ticks

variable [Relay σ]

/-- A privileged tick under watch creates the trigger, or fails to for one of the reasons and leaves
the store as it is. -/
theorem LoneTick.creates_or_fails (coherent : engine.store.Coherent engine.config.cadence)
    (lone : engine.LoneTick host force tip identity target contract)
    (granted : (engine.privilegeTerms host tip.height target).grants identity = true) :
    let ticked := engine.watched.tick host force
    (∃ id, ticked.1.outcome = .creatingContract id) ∨
      (engine.CreationFails host target contract identity ticked.1.outcome ticked.2.relay.log ∧
        ticked.2.store = engine.store) := by
  have store : (engine.prepared host tip.height).watched.store = engine.store :=
    store_prepared engine host tip.height
  have config : (engine.prepared host tip.height).watched.config = engine.config :=
    config_prepared engine host tip.height
  have log : (engine.prepared host tip.height).watched.relay.log = [] := rfl
  intro ticked
  unfold ticked
  rw [tick_watched lone.passed, lone.decide_eq coherent, if_pos granted, decideCreation]
  generalize (engine.prepared host tip.height).watched = before at store config log
  rcases engine.prepareTrigger_cases host target lone.pays with
    ⟨outside, same⟩ | ⟨excess, same⟩ | ⟨small, same⟩ | ⟨payload, same⟩
  · rw [same]
    exact Or.inr ⟨log ▸ .unscheduled outside, store⟩
  · rw [same]
    exact Or.inr ⟨log ▸ .overBudget excess, store⟩
  · rw [same]
    exact Or.inr ⟨log ▸ .belowCoin small, store⟩
  · rw [same, act]
    dsimp only
    rcases before.submitPayload_watched_cases host identity payload with
      ⟨seconds, waits, result⟩ | ⟨cause, failed, kept, sent⟩ | ⟨id, succeeded, _, _⟩
    · rw [store, config] at waits
      rw [result, log, store]
      exact Or.inr ⟨.rateLimited waits, rfl⟩
    · rw [log, List.nil_append] at sent
      rw [failed, kept, sent, store]
      exact Or.inr ⟨.refused same, rfl⟩
    · rw [succeeded]
      exact Or.inl ⟨id, rfl⟩

/-- Without the privilege such a tick hands over all votes of its plan, whatever the relay
answers. -/
theorem LoneTick.votes_of_denied (coherent : engine.store.Coherent engine.config.cadence)
    (lone : engine.LoneTick host force tip identity target contract)
    (denied : (engine.privilegeTerms host tip.height target).grants identity = false) :
    (engine.handovers host (.tick force)).map Handover.vote? =
      (engine.plannedVotes host target contract.fingerprint identity).map some := by
  have log : (engine.prepared host tip.height).watched.relay.log = [] := rfl
  rw [handovers, perform_watched_tick lone.passed, lone.decide_eq coherent, denied,
    if_neg Bool.false_ne_true, engine_act_vote]
  obtain ⟨added, sent, cast, _⟩ := (engine.prepared host tip.height).watched.castVotes_watched_spec
    host identity (engine.plan host target contract.fingerprint identity).intents
  rw [sent, log, List.nil_append, cast]
  rfl

omit [Relay σ] in
/-- The plan of such a tick is against every object that it votes on. -/
theorem LoneTick.opposes (coherent : engine.store.Coherent engine.config.cadence)
    (lone : engine.LoneTick host force tip identity target contract) :
    ∀ vote ∈ engine.plannedVotes host target contract.fingerprint identity,
      (vote.signal = .funding ∧ vote.outcome = .no) ∨
        (vote.signal = .delete ∧ vote.outcome = .yes) := by
  intro vote member
  have nothing : engine.fundedName host target contract.fingerprint = none := by
    refine Option.eq_none_iff_forall_ne_some.mpr fun id funded => lone.missing ?_
    obtain ⟨object, rfl, stored, aimed, carries⟩ := carried_of_fundedName coherent funded
    exact ⟨object, stored, aimed, carries⟩
  have stance := (takesStance_of_mem_plannedVotes coherent member).outcome
  rw [nothing] at stance
  cases signal : vote.signal with
  | funding =>
    rw [signal] at stance
    exact Or.inl ⟨rfl, stance⟩
  | delete =>
    rw [signal] at stance
    exact Or.inr ⟨rfl, stance⟩

omit [Relay σ] in
theorem LoneTick.withPrivilege (lone : engine.LoneTick host force tip identity target contract)
    (always : Bool) (share : UInt64) :
    (engine.withPrivilege always share).LoneTick host force tip identity target contract where
  passed := lone.passed
  next := lone.next
  built := by
    rw [buildContract_withPrivilege]
    exact lone.built
  pays := lone.pays
  unwon := fun ⟨object, stored, aimed, supported, payable⟩ =>
    lone.unwon ⟨object, stored, aimed, supported, payable⟩
  missing := lone.missing

/-- With settings that deny it the privilege, such a tick hands over all votes of its plan. -/
theorem LoneTick.votes_withPrivilege (coherent : engine.store.Coherent engine.config.cadence)
    (lone : engine.LoneTick host force tip identity target contract) (always : Bool)
    (share : UInt64) (denied : ((engine.withPrivilege always share).privilegeTerms host tip.height
      target).grants identity = false) :
    ((engine.withPrivilege always share).handovers host (.tick force)).map Handover.vote? =
      (engine.plannedVotes host target contract.fingerprint identity).map some :=
  (lone.withPrivilege always share).votes_of_denied coherent denied

/-- A privileged tick that finds no object for its contract and does not create its trigger either
hands over no vote and leaves the store as it is, whatever the reason. With other settings that deny
it the privilege, the same tick hands over all votes of its plan, each of which asks not to fund an
object or to delete it. -/
theorem failed_creation_casts_no_votes {hosts : Set Host} (reached : Reachable hosts engine)
    (lone : engine.LoneTick host force tip identity target contract)
    (granted : (engine.privilegeTerms host tip.height target).grants identity = true)
    (failed : ∀ id, (engine.tick host force).1.outcome ≠ .creatingContract id) :
    engine.CreationFails host target contract identity (engine.tick host force).1.outcome
        (engine.handovers host (.tick force)) ∧
      (engine.handovers host (.tick force)).filterMap Handover.vote? = [] ∧
      (engine.tick host force).2.store = engine.store ∧
      (∀ vote ∈ engine.plannedVotes host target contract.fingerprint identity,
        (vote.signal = .funding ∧ vote.outcome = .no) ∨
          (vote.signal = .delete ∧ vote.outcome = .yes)) ∧
      ∀ always share, let twin := engine.withPrivilege always share
        (twin.privilegeTerms host tip.height target).grants identity = false →
          (twin.handovers host (.tick force)).map Handover.vote? =
            (engine.plannedVotes host target contract.fingerprint identity).map some := by
  rw [tick_eq_map_watched] at failed ⊢
  obtain ⟨fails, kept⟩ : engine.CreationFails host target contract identity
      (engine.watched.tick host force).1.outcome (engine.handovers host (.tick force)) ∧
        (engine.watched.tick host force).2.store = engine.store := by
    rcases lone.creates_or_fails reached.coherent granted with ⟨id, created⟩ | result
    · exact absurd created (failed id)
    · exact result
  exact ⟨fails, fails.votes_eq, kept, lone.opposes reached.coherent,
    lone.votes_withPrivilege reached.coherent⟩

end Ticks

end Engine

/-! ### A contract below one coin -/

namespace PoorBudget

/-- A trigger of another sanctuary for the next superblock. -/
def payload : TriggerPayload where
  eventHeight := 1300
  startEpoch := 0
  addresses := "X"
  amounts := "1000.00"
  proposalHashes := ""
  objectType := TriggerPayload.triggerType

/-- The payload as another sanctuary submits it. -/
def submission : Submission where
  payloadHex := payload.toHex
  submitter := ⟨200⟩
  creationTime := 1000000
  signature := []

/-- The sample host with a budget of nine tenths of a coin. -/
def host : Host :=
  { VotingSample.host with budgetLimit := fun _ => 90000000 }

/-- After the trigger was received. -/
def engine : Engine CountingRelay :=
  VotingSample.fresh.perform host (.receiveObject 7 submission)

/-- The store with the object and nothing else. -/
def stored : TriggerStore :=
  (TriggerStore.empty.insert (.ofSubmission 7 submission payload)).2

theorem engine_eq : engine = { VotingSample.fresh with store := stored } := by
  have near : ∀ horizon ∈ VotingSample.fresh.horizon host, payload.eventHeight ≤ horizon := by
    have known : VotingSample.fresh.horizon host = some 1400 := by decide +kernel
    exact Engine.near_of_horizon_eq known (by decide)
  have accepted : VotingSample.fresh.acceptSubmission host submission = .ok payload :=
    Engine.acceptSubmission_eq_ok_iff.mpr
      ⟨TriggerPayload.ofHex_toHex rfl, by decide +kernel, near, rfl, by decide +kernel⟩
  exact Engine.perform_receiveObject accepted 7

theorem reachable_engine : Engine.Reachable {host} engine :=
  VotingSample.reachable_perform (.receiveObject 7 submission)

/-- The fingerprint of the contract, which shares out the budget and pays less than one coin. -/
def fingerprint : Fingerprint :=
  .ofTexts "X|Y" "0.60|0.30" "0"

/-- The contract of the sample tick has no object, and the plan is against the one that there is. -/
theorem exists_loneTick :
    ∃ contract, engine.LoneTick host false (HostFixture.tipAt 1250) ⟨1⟩ 1300 contract ∧
      contract.total = 90000000 ∧
      (engine.plan host 1300 contract.fingerprint ⟨1⟩).intents = [⟨7, .funding, .no⟩] := by
  have coherent := reachable_engine.coherent
  rw [engine_eq] at coherent ⊢
  have facts : (({ VotingSample.fresh with store := stored } : Engine CountingRelay).buildContract
      host 1300 true).1.toOption.map (fun contract =>
        (contract.fingerprint, contract.allocation.isEmpty, contract.total)) =
      some (fingerprint, false, 90000000) := by
    decide +kernel
  obtain ⟨contract, built, same⟩ := Option.map_eq_some_iff.mp facts
  have own : contract.fingerprint = fingerprint := congrArg Prod.fst same
  have alone : (({ VotingSample.fresh with store := stored } : Engine CountingRelay).planTerms
      host 1300 fingerprint).localMatch? = none := by
    decide +kernel
  refine ⟨contract, ⟨by decide +kernel, by decide +kernel, toOption_eq_some_iff.mp built,
    congrArg (·.2.1) same, (Engine.winner?_eq_none_iff coherent).mp (by decide +kernel), ?_⟩,
    congrArg (·.2.2) same, ?_⟩
  · rw [own]
    exact (Engine.localMatch?_eq_none_iff coherent).mp alone
  · rw [own]
    decide +kernel

theorem outcome_tick :
    (engine.tick host false).1.outcome = .submitFailed (.validation (.belowMinimum 90000000)) := by
  rw [engine_eq]
  decide +kernel

theorem grants_engine : (engine.privilegeTerms host 1250 1300).grants ⟨1⟩ = true := by
  rw [engine_eq]
  rfl

/-- No sanctuary is drawn for a share of nothing. -/
theorem not_grants_engine :
    ((engine.withPrivilege false 0).privilegeTerms host 1250 1300).grants ⟨1⟩ = false := by
  rw [engine_eq]
  decide +kernel

end PoorBudget

namespace Engine

open PoorBudget in
/-- The contract of the sample node is too small for a trigger. The node, which may create it, does
not vote; if it could not create it, it would vote against the trigger of the other sanctuary. -/
theorem sample_failed_creation :
    (engine.tick host false).1.outcome = .submitFailed (.validation (.belowMinimum 90000000)) ∧
      (engine.handovers host (.tick false)).filterMap Handover.vote? = [] ∧
      ((engine.withPrivilege false 0).handovers host (.tick false)).map Handover.vote? =
        [some (host.signedVote ⟨1⟩ ⟨7, .funding, .no⟩)] := by
  obtain ⟨contract, lone, _, against⟩ := exists_loneTick
  obtain ⟨_, silent, _, _, voiced⟩ := failed_creation_casts_no_votes reachable_engine lone
    grants_engine (by simp [outcome_tick])
  refine ⟨outcome_tick, silent, (voiced false 0 not_grants_engine).trans ?_⟩
  rw [plannedVotes, against]
  rfl

open PoorBudget in
/-- A foreign object goes unopposed, as the own contract is too small for a trigger. -/
theorem foreign_object_goes_unopposed :
    Reachable {host} engine ∧
      (∃ contract, engine.LoneTick host false (HostFixture.tipAt 1250) ⟨1⟩ 1300 contract ∧
        contract.total < Amount.coin ∧
        (engine.plan host 1300 contract.fingerprint ⟨1⟩).intents = [⟨7, .funding, .no⟩]) ∧
      (engine.privilegeTerms host 1250 1300).grants ⟨1⟩ = true ∧
      (engine.tick host false).1.outcome = .submitFailed (.validation (.belowMinimum 90000000)) ∧
      engine.handovers host (.tick false) = [] ∧
      ((engine.withPrivilege false 0).handovers host (.tick false)).map Handover.vote? =
        [some (host.signedVote ⟨1⟩ ⟨7, .funding, .no⟩)] := by
  obtain ⟨contract, lone, total, against⟩ := exists_loneTick
  have silent : engine.handovers host (.tick false) = [] := by
    rw [engine_eq]
    exact List.eq_nil_of_length_eq_zero (by decide +kernel)
  have small : contract.total < Amount.coin := by
    rw [total]
    decide
  have voiced := lone.votes_withPrivilege reachable_engine.coherent false 0 not_grants_engine
  rw [plannedVotes, against] at voiced
  exact ⟨reachable_engine, ⟨contract, lone, small, against⟩, grants_engine, outcome_tick, silent,
    voiced⟩

end Engine

end SuperblockGovernance

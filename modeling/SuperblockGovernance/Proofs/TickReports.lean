/-
What a tick reports. A tick stops at a gate, rests, creates a trigger, or votes; the relay may
refuse whatever it is handed, and may refuse some votes and take others. The report is made up in
two places, when the tick decides and when it acts, and still it tells what was done: the object
that the relay took, or the number of votes, or nothing, and in each case the store holds that and
nothing else that is new.
-/

import SuperblockGovernance.Proofs.InboundMessages
import SuperblockGovernance.Proofs.TickEffects

namespace SuperblockGovernance

/-- The outcome tells neither of an object nor of votes. -/
def TickOutcome.IsIdle : TickOutcome → Prop
  | creatingContract _ | voted _ | pendingSuperblock _ => False
  | _ => True

namespace Engine

variable {σ : Type} {engine : Engine σ} {host : Host} {identity : Identity} {force : Bool}

/-! ### What a tick can come to -/

/-- What a tick can come to: its report, the objects and the votes that the relay took, and the
store that is left. -/
inductive Reports (engine : Engine σ) (host : Host) :
    TickReport → List (Submission × ObjectId) → List Vote → TriggerStore → Prop
  | idles {report : TickReport} (idle : report.outcome.IsIdle) :
      Reports engine host report [] [] engine.store
  | creates {report : TickReport} {id : ObjectId} {submission : Submission}
      {payload : TriggerPayload} (outcome : report.outcome = .creatingContract id)
      (written : submission.payloadHex = payload.toHex)
      (aimed : report.target = some payload.eventHeight)
      (carries : report.fingerprint = some payload.fingerprint) :
      Reports engine host report [(submission, id)] []
        (engine.store.recordSubmission id submission payload)
  | votes {report : TickReport} {target : Height} {votes : List Vote}
      (outcome : report.outcome = .voted votes.length) (cast : 0 < votes.length)
      (aimed : report.target = some target) (nobody : engine.winner? host target = none) :
      Reports engine host report [] votes (engine.store.recordVotes votes)
  | pends {report : TickReport} {target : Height} {winner : Candidate} {votes : List Vote}
      (outcome : report.outcome = .pendingSuperblock winner.id)
      (aimed : report.target = some target) (won : engine.winner? host target = some winner) :
      Reports engine host report [] votes (engine.store.recordVotes votes)

theorem idle_of_passGates {outcome : TickOutcome}
    (stopped : engine.passGates host force = .error outcome) : outcome.IsIdle := by
  rw [passGates] at stopped
  split at stopped
  · cases stopped
    trivial
  split at stopped
  · cases stopped
    trivial
  split at stopped
  · cases stopped
    trivial
  split at stopped
  · cases stopped
  · cases stopped
    trivial

namespace Reports

variable {report : TickReport} {objects : List (Submission × ObjectId)} {votes : List Vote}
variable {store : TriggerStore}

theorem of_idle (told : engine.Reports host report objects votes store)
    (idle : report.outcome.IsIdle) : objects = [] ∧ votes = [] ∧ store = engine.store := by
  cases told with
  | idles _ => exact ⟨rfl, rfl, rfl⟩
  | creates outcome =>
    rw [outcome] at idle
    exact idle.elim
  | votes outcome =>
    rw [outcome] at idle
    exact idle.elim
  | pends outcome =>
    rw [outcome] at idle
    exact idle.elim

/-- An object that was created under a new name is all that the store gains, and it is remembered as
the last submission. -/
theorem of_creating (told : engine.Reports host report objects votes store) {id : ObjectId}
    (created : report.outcome = .creatingContract id) :
    ∃ submission payload, let object := TriggerObject.ofSubmission id submission payload
      objects = [(submission, id)] ∧ votes = [] ∧ submission.payloadHex = payload.toHex ∧
      report.target = some object.targetHeight ∧ report.fingerprint = some object.fingerprint ∧
      (engine.store.get? id = none → TriggerStore.GainsObject
        { engine.store with lastSubmission := some (submission.creationTime, id) } object
          store) := by
  cases told with
  | idles idle =>
    rw [created] at idle
    exact idle.elim
  | @creates name submission payload outcome written aimed carries =>
    obtain rfl := TickOutcome.creatingContract.inj (outcome.symm.trans created)
    refine ⟨submission, payload, rfl, rfl, written, aimed, carries, fun fresh => ?_⟩
    let remembered : TriggerStore :=
      { engine.store with lastSubmission := some (submission.creationTime, name) }
    have absent : remembered.get? name = none := fresh
    exact (TriggerStore.insert_of_fresh (.ofSubmission name submission payload) absent).2
  | votes outcome => cases outcome.symm.trans created
  | pends outcome => cases outcome.symm.trans created

theorem of_voted (told : engine.Reports host report objects votes store)
    (coherent : engine.store.Coherent engine.config.cadence) {count : Nat}
    (voted : report.outcome = .voted count) :
    1 ≤ count ∧ votes.length = count ∧ objects = [] ∧ store = engine.store.recordVotes votes ∧
      ∃ target, report.target = some target ∧ ¬∃ object, engine.Eligible host target object := by
  cases told with
  | idles idle =>
    rw [voted] at idle
    exact idle.elim
  | creates outcome => cases outcome.symm.trans voted
  | @votes target votes outcome cast aimed nobody =>
    obtain rfl := TickOutcome.voted.inj (outcome.symm.trans voted)
    exact ⟨cast, rfl, rfl, rfl, target, aimed, (winner?_eq_none_iff coherent).mp nobody⟩
  | pends outcome => cases outcome.symm.trans voted

theorem of_pending (told : engine.Reports host report objects votes store)
    (coherent : engine.store.Coherent engine.config.cadence) {id : ObjectId}
    (pending : report.outcome = .pendingSuperblock id) :
    objects = [] ∧ store = engine.store.recordVotes votes ∧
      ∃ target winner payouts, report.target = some target ∧
        engine.triggered? host target = some (winner, payouts) ∧ winner.id = id := by
  cases told with
  | idles idle =>
    rw [pending] at idle
    exact idle.elim
  | creates outcome => cases outcome.symm.trans pending
  | votes outcome => cases outcome.symm.trans pending
  | @pends target winner votes outcome aimed won =>
    have named := TickOutcome.pendingSuperblock.inj (outcome.symm.trans pending)
    obtain ⟨object, elected, same⟩ := (winner?_eq_some_iff coherent).mp won
    obtain ⟨payouts, read, _⟩ := elected.payable
    exact ⟨rfl, rfl, target, winner, payouts, aimed,
      (triggered?_eq_some_iff coherent).mpr ⟨object, elected, same, read⟩, named⟩

end Reports

/-! ### Under watch -/

section Watched

variable [Relay σ] {before : Engine (WatchedRelay σ)} {report : TickReport}

/-- The report and the engine under watch that a tick ends with are what it can come to. -/
def Tells (engine : Engine σ) (host : Host) (result : TickReport × Engine (WatchedRelay σ)) :
    Prop :=
  engine.Reports host result.1 (result.2.relay.log.filterMap Handover.acceptedObject?)
    (result.2.relay.log.filterMap Handover.acceptedVote?) result.2.store

theorem tells_submit {payload : TriggerPayload} (store : before.store = engine.store)
    (log : before.relay.log = []) (aimed : report.target = some payload.eventHeight)
    (carries : report.fingerprint = some payload.fingerprint) :
    engine.Tells host (before.act host identity report (.submit payload)) := by
  rw [Tells, act]
  dsimp only
  rcases before.submitPayload_watched_cases host identity payload with
    ⟨seconds, _, same⟩ | ⟨cause, failed, kept, sent⟩ | ⟨id, succeeded, recorded, sent⟩
  · rw [same, log, store]
    exact .idles trivial
  · rw [failed, kept, sent, log, store]
    exact .idles trivial
  · rw [succeeded, recorded, sent, log, store]
    exact .creates rfl rfl aimed carries

/-- Votes that the relay took are recorded, and named in the report of a tick that has not done
anything else. -/
theorem act_vote_watched (before : Engine (WatchedRelay σ)) (host : Host) (identity : Identity)
    (report : TickReport) (intents : List VoteIntent) (log : before.relay.log = []) :
    ∃ votes, let acted := before.act host identity report (.vote intents)
      acted.2.relay.log.filterMap Handover.acceptedObject? = [] ∧
      acted.2.relay.log.filterMap Handover.acceptedVote? = votes ∧
      acted.2.store = before.store.recordVotes votes ∧
      acted.1 = if report.outcome = .nothingToDo ∧ 0 < votes.length then
        { report with outcome := .voted votes.length } else report := by
  obtain ⟨added, sent, cast, recorded, counted⟩ :=
    before.castVotes_watched_spec host identity intents
  rw [log, List.nil_append] at sent
  refine ⟨added.filterMap Handover.acceptedVote?, ?_⟩
  intro acted
  have engine : acted.2 = (before.castVotes host identity intents).engine :=
    engine_act_vote before host identity report intents
  have told : acted.1 = if report.outcome = .nothingToDo ∧
      0 < (before.castVotes host identity intents).cast then
        { report with outcome := .voted (before.castVotes host identity intents).cast }
      else report := by
    unfold acted
    rw [act]
    split <;> rfl
  rw [engine, told, sent, counted]
  refine ⟨List.filterMap_eq_nil_iff.mpr fun handover inside => ?_, rfl, recorded, rfl⟩
  obtain ⟨vote, _, voted⟩ := List.mem_map.mp (cast ▸ List.mem_map_of_mem inside)
  exact Handover.acceptedObject?_of_vote? voted.symm

theorem tells_vote {target : Height} {intents : List VoteIntent}
    (store : before.store = engine.store) (log : before.relay.log = [])
    (rested : report.outcome = .nothingToDo) (aimed : report.target = some target)
    (nobody : engine.winner? host target = none) :
    engine.Tells host (before.act host identity report (.vote intents)) := by
  obtain ⟨votes, objects, accepted, recorded, told⟩ :=
    act_vote_watched before host identity report intents log
  rw [Tells, objects, accepted, recorded, told, store]
  cases votes with
  | nil =>
    rw [if_neg fun both => Nat.lt_irrefl 0 both.2]
    refine .idles ?_
    rw [rested]
    trivial
  | cons vote rest =>
    rw [if_pos ⟨rested, Nat.succ_pos _⟩]
    exact .votes rfl (Nat.succ_pos _) aimed nobody

theorem tells_pending {target : Height} {winner : Candidate} {intents : List VoteIntent}
    (store : before.store = engine.store) (log : before.relay.log = [])
    (waits : report.outcome = .pendingSuperblock winner.id) (aimed : report.target = some target)
    (won : engine.winner? host target = some winner) :
    engine.Tells host (before.act host identity report (.vote intents)) := by
  obtain ⟨votes, objects, accepted, recorded, told⟩ :=
    act_vote_watched before host identity report intents log
  rw [Tells, objects, accepted, recorded, told, store]
  rw [if_neg fun both => TickOutcome.noConfusion (waits.symm.trans both.1)]
  exact .pends waits aimed won

/-- Whatever is decided over a contract that was built is told. -/
theorem tells_decision {other : Engine σ} {tip target : Height} {contract : Contract}
    {plan : VotePlan} {warning : Option DeterminismWarning}
    (store : before.store = engine.store) (log : before.relay.log = [])
    (built : (engine.buildContract host target true).1 = .ok contract)
    (winner : plan.winner = engine.winner? host target) :
    let decision := other.decideAction host identity tip target contract plan
    engine.Tells host (before.act host identity
      { outcome := decision.1, target := some target, fingerprint := some contract.fingerprint,
        warning } decision.2) := by
  intro decision
  unfold decision
  rcases other.decideAction_cases host identity tip target contract plan with
    ⟨candidate, won, same⟩ | ⟨nobody, same⟩ | ⟨payload, _, prepared, same⟩ | ⟨outcome, fails, same⟩
  · rw [same]
    exact tells_pending store log rfl rfl (winner.symm.trans won)
  · rw [same]
    exact tells_vote store log rfl rfl (winner.symm.trans nobody)
  · obtain ⟨aimed, carries⟩ := payload_of_prepareTrigger built prepared
    rw [same]
    exact tells_submit store log (congrArg some aimed.symm) (congrArg some carries.symm)
  · rw [same, act, Tells, store, log]
    refine .idles ?_
    rcases fails with ⟨cause, rfl⟩ | ⟨cause, rfl⟩ <;> trivial

/-- A tick under watch tells what it can come to. -/
theorem tells_tick (engine : Engine σ) (host : Host) (force : Bool) :
    engine.Tells host (engine.watched.tick host force) := by
  rcases passed : engine.passGates host force with outcome | ⟨tip, identity⟩
  · have stopped : engine.watched.passGates host force = .error outcome := passed
    rw [tick, stopped]
    exact .idles (idle_of_passGates passed)
  · have store : (engine.prepared host tip.height).watched.store = engine.store :=
      store_prepared engine host tip.height
    rw [tick_watched passed]
    rcases engine.decide_cases host tip.height identity with
      ⟨outcome, quiet, _, rests⟩ | ⟨contract, built, _, decided⟩
    · rw [rests, act, Tells, store]
      refine .idles ?_
      rcases quiet with rfl | rfl <;> trivial
    · rw [decided]
      have log : (engine.prepared host tip.height).watched.relay.log = [] := rfl
      refine tells_decision store log built ?_
      exact congrArg VotePlan.winner (plan_congr (config_buildContract engine host _ true)
        (store_buildContract engine host _ true) host _ contract.fingerprint identity)

end Watched

/-! ### Reports -/

section Reports

variable [Relay σ]

/-- The objects that the relay takes in a call, each with the name that it gives. -/
def acceptedObjects (engine : Engine σ) (host : Host) (call : Call) :
    List (Submission × ObjectId) :=
  (engine.handovers host call).filterMap Handover.acceptedObject?

/-- The votes that the relay takes in a call. -/
def acceptedVotes (engine : Engine σ) (host : Host) (call : Call) : List Vote :=
  (engine.handovers host call).filterMap Handover.acceptedVote?

theorem reports_tick (engine : Engine σ) (host : Host) (force : Bool) :
    engine.Reports host (engine.tick host force).1 (engine.acceptedObjects host (.tick force))
      (engine.acceptedVotes host (.tick force)) (engine.tick host force).2.store := by
  rw [tick_eq_map_watched]
  exact tells_tick engine host force

/-- What a tick reports is what it did, whatever the relay takes or refuses. When it reports neither
an object nor votes nor a winner, the relay took nothing and the store is unchanged. When it has
created an object, the relay took that object only, under its name, and the store is the old one
with the object taken in, for the target and with the fingerprint of the report. When it has voted,
the relay took so many votes and nothing else, which are recorded, and no object for the target was
eligible. When a superblock is pending, the winner is that of the contract triggered at the target,
and the relay took at most votes, which are recorded. -/
theorem tick_reports_what_it_did {hosts : Set Host} (reached : Reachable hosts engine)
    (host : Host) (force : Bool) :
    let report := (engine.tick host force).1
    let store := (engine.tick host force).2.store
    let objects := engine.acceptedObjects host (.tick force)
    let votes := engine.acceptedVotes host (.tick force)
    (report.outcome.IsIdle → objects = [] ∧ votes = [] ∧ store = engine.store) ∧
    (∀ id, report.outcome = .creatingContract id →
      ∃ submission payload, let object := TriggerObject.ofSubmission id submission payload
        objects = [(submission, id)] ∧ votes = [] ∧ submission.payloadHex = payload.toHex ∧
        report.target = some object.targetHeight ∧ report.fingerprint = some object.fingerprint ∧
        (engine.store.get? id = none → TriggerStore.GainsObject
          { engine.store with lastSubmission := some (submission.creationTime, id) } object
            store)) ∧
    (∀ count, report.outcome = .voted count →
      1 ≤ count ∧ votes.length = count ∧ objects = [] ∧ store = engine.store.recordVotes votes ∧
        ∃ target, report.target = some target ∧ ¬∃ object, engine.Eligible host target object) ∧
    ∀ id, report.outcome = .pendingSuperblock id →
      objects = [] ∧ store = engine.store.recordVotes votes ∧
        ∃ target winner payouts, report.target = some target ∧
          engine.triggered? host target = some (winner, payouts) ∧ winner.id = id := by
  have told := engine.reports_tick host force
  have coherent := reached.coherent
  exact ⟨told.of_idle, fun id => told.of_creating, fun count => told.of_voted coherent,
    fun id => told.of_pending coherent⟩

end Reports

end Engine

/-! ### The first two ticks of a node -/

open VotingSample in
/-- The first tick of the sample node creates an object, which is stored with the target and the
fingerprint that were reported, and the second one casts a vote. -/
theorem sample_tick_reports :
    (fresh.tick host false).1.outcome = .creatingContract 1 ∧
      (∃ object, (fresh.tick host false).2.store.get? 1 = some object ∧
        (fresh.tick host false).1.target = some object.targetHeight ∧
        (fresh.tick host false).1.fingerprint = some object.fingerprint) ∧
      fresh.acceptedVotes host (.tick false) = [] ∧
      (created.tick host false).1.outcome = .voted 1 ∧
      (created.acceptedVotes host (.tick false)).length = 1 ∧
      created.acceptedObjects host (.tick false) = [] := by
  have creates : (fresh.tick host false).1.outcome = .creatingContract 1 := by decide +kernel
  have votes : (created.tick host false).1.outcome = .voted 1 := by decide +kernel
  have reached : Engine.Reachable {host} fresh := ⟨config, {}, .refl⟩
  obtain ⟨_, created, _⟩ := Engine.tick_reports_what_it_did reached host false
  obtain ⟨_, _, voted, _⟩ := Engine.tick_reports_what_it_did reachable_created host false
  obtain ⟨submission, payload, _, noVotes, _, aimed, carries, gains⟩ := created 1 creates
  obtain ⟨_, count, noObjects, _⟩ := voted 1 votes
  exact ⟨creates, ⟨_, (gains rfl).stored 1, aimed, carries⟩, noVotes, votes, count, noObjects⟩

end SuperblockGovernance

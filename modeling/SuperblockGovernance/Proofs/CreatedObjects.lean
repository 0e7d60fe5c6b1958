/-
The objects that a node creates. Whether a contract is submitted, or a trigger that was given
as text, or a tick submits its own contract, a payload of the trigger type is written, signed
and handed to the relay, and the object is recorded under the name that the relay gives it.
The payload is read again from what was relayed, so every node that reads it has the texts
that this node took from the contract or from the trigger.
-/

import SuperblockGovernance.Proofs.SubmittedTotals

namespace SuperblockGovernance

namespace Engine

variable {σ : Type} {engine after : Engine σ} {host : Host} {id : ObjectId}

/-! ### Creations -/

/-- An object is created under the name. -/
inductive Creation [Relay σ] (host : Host) (engine : Engine σ) (id : ObjectId) : Engine σ → Prop
  | submit {height : Height} {contract : Contract}
      (submitted : (engine.submit host height contract).1 = .ok id) :
      Creation host engine id (engine.submit host height contract).2
  | submitTrigger {hex : String} (submitted : (engine.submitTrigger host hex).1 = .ok id) :
      Creation host engine id (engine.submitTrigger host hex).2
  | tick {force : Bool}
      (submitted : (engine.tick host force).1.outcome = .creatingContract id) :
      Creation host engine id (engine.tick host force).2

/-- What a creation relays and records: the submission of a trigger for a superblock height. -/
structure Records [Relay σ] (engine : Engine σ) (id : ObjectId) (submission : Submission)
    (payload : TriggerPayload) (after : Engine σ) : Prop where
  written : submission.payloadHex = payload.toHex
  typed : payload.objectType = TriggerPayload.triggerType
  scheduled : engine.config.cadence.IsSuperblock payload.eventHeight
  taken : Relay.submitObject engine.relay submission = (.ok id, after.relay)
  recorded : after.store = engine.store.recordSubmission id submission payload
  config : after.config = engine.config

theorem records_submitPayload [Relay σ] {identity : Identity} {payload : TriggerPayload}
    (typed : payload.objectType = TriggerPayload.triggerType)
    (scheduled : engine.config.cadence.IsSuperblock payload.eventHeight)
    (submitted : (engine.submitPayload host identity payload).1 = .ok id) :
    engine.Records id (host.signedSubmission identity payload) payload
      (engine.submitPayload host identity payload).2 := by
  rcases engine.submitPayload_cases host identity payload with
    ⟨cause, failed, _⟩ | ⟨name, succeeded, taken, recorded⟩
  · rw [failed] at submitted
    cases submitted
  · rw [succeeded] at submitted
    cases submitted
    exact ⟨rfl, typed, scheduled, taken, recorded, rfl⟩

/-! ### Triggers given as text -/

/-- A trigger that is submitted was read, and the payload that was read is submitted. -/
theorem submitTrigger_eq_ok [Relay σ] {hex : String}
    (submitted : (engine.submitTrigger host hex).1 = .ok id) :
    ∃ identity payload, engine.acceptTrigger host hex = .ok (identity, payload) ∧
      (engine.submitPayload host identity payload).1 = .ok id ∧
      (engine.submitTrigger host hex).2 = (engine.submitPayload host identity payload).2 := by
  rcases engine.submitTrigger_cases host hex with
    ⟨cause, refused⟩ | ⟨identity, payload, accepted, same⟩
  · rw [refused] at submitted
    cases submitted
  · rw [same] at submitted ⊢
    exact ⟨identity, payload, accepted, mapError_eq_ok_iff.mp submitted, rfl⟩

/-! ### Ticks -/

theorem decideAction_outcome_ne {identity : Identity} {tip target : Height} {contract : Contract}
    {plan : VotePlan} :
    (engine.decideAction host identity tip target contract plan).1 ≠ .creatingContract id := by
  rcases engine.decideAction_cases host identity tip target contract plan with
    ⟨_, _, same⟩ | ⟨_, same⟩ | ⟨_, _, _, same⟩ | ⟨_, ⟨_, rfl⟩ | ⟨_, rfl⟩, same⟩ <;>
  · rw [same]
    exact TickOutcome.noConfusion

/-- A decision alone creates nothing, and leaves all but the kept assessment as it was. -/
theorem decide_spec (engine : Engine σ) (host : Host) (tip : Height) (identity : Identity) :
    (∀ id, (engine.decide host tip identity).1.outcome ≠ .creatingContract id) ∧
      ∃ cache, (engine.decide host tip identity).2.2 = { engine with cache } := by
  have kept := exists_cache_buildContract engine host (engine.config.cadence.around tip).2 true
  rcases engine.decide_cases host tip identity with
    ⟨outcome, quiet, _, rests⟩ | ⟨contract, _, _, decided⟩
  · rw [rests]
    refine ⟨fun id => ?_, kept⟩
    rcases quiet with rfl | rfl <;> exact TickOutcome.noConfusion
  · rw [decided]
    exact ⟨fun _ => decideAction_outcome_ne, kept⟩

theorem passGates_ne_creating {force : Bool} :
    engine.passGates host force ≠ .error (.creatingContract id) := by
  intro stopped
  rw [passGates] at stopped
  split at stopped
  · cases stopped
  split at stopped
  · cases stopped
  split at stopped
  · cases stopped
  · split at stopped <;> cases stopped

/-- Only a submission turns a decision into a creation. -/
theorem act_eq_creating [Relay σ] {identity : Identity} {report : TickReport} {action : TickAction}
    (before : report.outcome ≠ .creatingContract id)
    (created : (engine.act host identity report action).1.outcome = .creatingContract id) :
    ∃ payload, action = .submit payload ∧
      (engine.submitPayload host identity payload).1 = .ok id := by
  cases action with
  | submit payload =>
    refine ⟨payload, rfl, ?_⟩
    rw [act] at created
    dsimp only at created
    split at created
    · rename_i succeeded
      cases created
      exact succeeded
    · cases created
  | vote intents =>
    rw [act] at created
    split at created
    · cases created
    · exact absurd created before
  | rest => exact absurd created before

/-- A tick that creates an object submits the payload that it decided on. -/
theorem tick_eq_creating [Relay σ] {force : Bool}
    (coherent : engine.store.Coherent engine.config.cadence)
    (created : (engine.tick host force).1.outcome = .creatingContract id) :
    ∃ cache identity payload, let decided := { engine with cache }
      payload.objectType = TriggerPayload.triggerType ∧
      engine.config.cadence.IsSuperblock payload.eventHeight ∧
      (decided.submitPayload host identity payload).1 = .ok id ∧
      (engine.tick host force).2 = (decided.submitPayload host identity payload).2 := by
  rw [tick] at created ⊢
  split at created
  · rename_i stopped
    cases created
    exact absurd stopped passGates_ne_creating
  · rename_i tip identity passed
    have decided : Deeds NoName host engine _ ∧ Admits _ _ :=
      deeds_decide coherent tip.height identity
    -- The decision names no object yet, so the tick went on to submit.
    obtain ⟨quiet, cache, kept⟩ := engine.decide_spec host tip.height identity
    generalize engine.decide host tip.height identity = decision at *
    obtain ⟨report, action, next⟩ := decision
    obtain rfl : next = { engine with cache } := kept
    obtain ⟨payload, rfl, succeeded⟩ := act_eq_creating (quiet id) created
    obtain ⟨scheduled, typed⟩ := decided.2
    exact ⟨cache, identity, payload, typed, scheduled, succeeded, rfl⟩

/-- Every creation relays and records a submission. -/
theorem Creation.records [Relay σ] (creation : Creation host engine id after)
    (coherent : engine.store.Coherent engine.config.cadence) :
    ∃ submission payload, engine.Records id submission payload after := by
  cases creation with
  | submit submitted =>
    obtain ⟨identity, payload, prepared, same⟩ := submit_eq_ok submitted
    obtain ⟨scheduled, typed⟩ := scheduled_of_prepareTrigger prepared
    rw [same] at submitted ⊢
    exact ⟨_, payload, records_submitPayload typed scheduled submitted⟩
  | submitTrigger submitted =>
    obtain ⟨identity, payload, accepted, succeeded, same⟩ := submitTrigger_eq_ok submitted
    obtain ⟨_, read, scheduled⟩ := acceptTrigger_eq_ok accepted
    rw [same]
    exact ⟨_, payload,
      records_submitPayload (TriggerPayload.type_of_ofHex read) scheduled succeeded⟩
  | tick submitted =>
    obtain ⟨cache, identity, payload, typed, scheduled, succeeded, same⟩ :=
      tick_eq_creating coherent submitted
    rw [same]
    have recorded := records_submitPayload typed scheduled succeeded
    exact ⟨_, payload, recorded.written, typed, scheduled, recorded.taken, recorded.recorded,
      recorded.config⟩

/-! ### What is relayed -/

/-- Exactly the payloads of the trigger type are read from the text they are written as. So a
payload that was read is read again from its own text, and what a submitted trigger is relayed
as carries the payload that was read from it. -/
theorem payloads_are_read_as_written :
    (∀ payload : TriggerPayload, TriggerPayload.ofHex payload.toHex = .ok payload ↔
      payload.objectType = TriggerPayload.triggerType) ∧
    (∀ text payload, TriggerPayload.ofHex text = .ok payload →
      TriggerPayload.ofHex payload.toHex = .ok payload) ∧
    ∀ {σ : Type} [Relay σ] (engine : Engine σ) (host : Host) (text : String) (id : ObjectId),
      (engine.submitTrigger host text).1 = .ok id →
        ∃ submission payload, TriggerPayload.ofHex text = .ok payload ∧
          (Relay.submitObject engine.relay submission).1 = .ok id ∧
          submission.payloadHex = payload.toHex ∧
          TriggerPayload.ofHex submission.payloadHex = .ok payload := by
  have again : ∀ text payload, TriggerPayload.ofHex text = .ok payload →
      TriggerPayload.ofHex payload.toHex = .ok payload :=
    fun text payload read => TriggerPayload.ofHex_toHex (TriggerPayload.type_of_ofHex read)
  refine ⟨fun payload => ⟨TriggerPayload.type_of_ofHex, TriggerPayload.ofHex_toHex⟩, again, ?_⟩
  intro σ _ engine host text id submitted
  obtain ⟨identity, payload, accepted, succeeded, _⟩ := submitTrigger_eq_ok submitted
  obtain ⟨_, read, _⟩ := acceptTrigger_eq_ok accepted
  exact ⟨host.signedSubmission identity payload, payload, read, (submitPayload_eq_ok succeeded).1,
    rfl, again text payload read⟩

end Engine

/-! ### A sample trigger -/

namespace SampleTrigger

/-- A trigger with a text that needs escapes, and with an empty one. -/
def payload : TriggerPayload :=
  { eventHeight := 1300
    startEpoch := 7
    addresses := "X"
    amounts := "9"
    proposalHashes := ""
    sporkData := some "\x01\"é"
    objectType := 2 }

/-- Another text of the trigger: the array of its members, with blanks around it. -/
def text : String :=
  " 5b5b2274726967676572222c5b313330302c372c2258222c2239222c22222c6e756c6c" ++
    "2c225c75303030315c22c3a9222c6e756c6c2c6e756c6c2c6e756c6c2c6e756c6c2c32" ++
    "5d5d5d\n"

end SampleTrigger

/-- The trigger is read from the other text, and the text that it is relayed as is read as the
trigger. -/
theorem sample_trigger_is_relayed :
    TriggerPayload.ofHex SampleTrigger.text = .ok SampleTrigger.payload ∧
      TriggerPayload.ofHex SampleTrigger.payload.toHex = .ok SampleTrigger.payload ∧
      (RoundedSubmission.engine.submitTrigger SampleRun.host SampleTrigger.text).1 = .ok 1 ∧
      ∃ submission, (Relay.submitObject RoundedSubmission.engine.relay submission).1 = .ok 1 ∧
        submission.payloadHex = SampleTrigger.payload.toHex ∧
        TriggerPayload.ofHex submission.payloadHex = .ok SampleTrigger.payload := by
  obtain ⟨_, again, relayed⟩ := Engine.payloads_are_read_as_written
  have read : TriggerPayload.ofHex SampleTrigger.text = .ok SampleTrigger.payload := by
    decide +kernel
  have accepted : RoundedSubmission.engine.acceptTrigger SampleRun.host SampleTrigger.text =
      .ok (⟨1⟩, SampleTrigger.payload) := by
    rw [Engine.acceptTrigger, read]
    decide +kernel
  have submitted : (RoundedSubmission.engine.submitTrigger SampleRun.host
      SampleTrigger.text).1 = .ok 1 := by
    rw [Engine.submitTrigger, accepted]
    decide +kernel
  obtain ⟨submission, payload, readAgain, taken, written, readBack⟩ :=
    relayed RoundedSubmission.engine SampleRun.host SampleTrigger.text 1 submitted
  obtain rfl : SampleTrigger.payload = payload := Except.ok.inj (read.symm.trans readAgain)
  exact ⟨read, again _ _ read, submitted, submission, taken, written, readBack⟩

end SuperblockGovernance

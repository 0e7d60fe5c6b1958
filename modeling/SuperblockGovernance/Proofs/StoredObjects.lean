/-
What the objects in a store are. An object that a deed leaves in the store was there before, or
it is what a submission becomes whose text is read as a payload, be it a submission that was
handed in or one that this node wrote. So whatever the calls and the relay do, a stored object
says what its own text says, and the parts of the store agree with each other.
-/

import SuperblockGovernance.Proofs.SubmittedTotals

namespace SuperblockGovernance

/-! ### Objects and their submissions -/

namespace TriggerObject

/-- The submission that an object came from. -/
def submission (object : TriggerObject) : Submission where
  payloadHex := object.payloadHex
  submitter := object.submitter
  creationTime := object.creationTime
  signature := object.signature

/-- The object is what its submission becomes, as its text is read. -/
def Legible (object : TriggerObject) : Prop :=
  ∃ payload, TriggerPayload.ofHex object.payloadHex = .ok payload ∧
    object = .ofSubmission object.id object.submission payload

theorem legible_ofSubmission {id : ObjectId} {submission : Submission} {payload : TriggerPayload}
    (read : TriggerPayload.ofHex submission.payloadHex = .ok payload) :
    (ofSubmission id submission payload).Legible :=
  ⟨payload, read, rfl⟩

end TriggerObject

/-! ### What a change leaves stored -/

namespace TriggerStore

variable {store : TriggerStore} {id : ObjectId} {object : TriggerObject}

theorem get?_of_retractObject {other : ObjectId}
    (held : (store.retractObject other).2.get? id = some object) :
    store.get? id = some object := by
  unfold retractObject at held
  extract_lets settled at held
  have same : settled.get? id = store.get? id := by
    unfold settled
    split <;> rfl
  rw [← same]
  split at held
  · exact held
  · exact (get?_dropObjects.mp held).1

theorem objects_recordVote (vote : Vote) : (store.recordVote vote).2.objects = store.objects := by
  rw [recordVote]
  split <;> rfl

theorem objects_retractVote (vote : Vote) :
    (store.retractVote vote).2.objects = store.objects := by
  rw [retractVote]
  split <;> rfl

end TriggerStore

namespace Engine

variable {σ : Type} {names : ObjectId → Submission → Prop} {hosts : Set Host} {host : Host}
variable {engine after : Engine σ} {id : ObjectId} {object : TriggerObject}

/-- An object that is stored after a deed was stored before, or it is what a submission becomes
that was handed in or that the relay took. -/
theorem Deed.gained [Relay σ] (deed : Deed names host engine after)
    (held : after.store.get? id = some object) :
    engine.store.get? id = some object ∨
      ∃ submission payload, object = .ofSubmission id submission payload ∧
        TriggerPayload.ofHex submission.payloadHex = .ok payload ∧
        (names id submission ∨
          Relay.submitObject engine.relay submission = (.ok id, after.relay)) := by
  cases deed with
  | assess target =>
    rw [store_assess] at held
    exact Or.inl held
  | refreshSporks => exact Or.inl held
  | @submit identity payload own scheduled typed =>
    rcases engine.submitPayload_cases host identity payload with
      ⟨_, _, kept⟩ | ⟨name, _, taken, recorded⟩
    · rw [kept] at held
      exact Or.inl held
    · rw [recorded] at held
      rcases TriggerStore.get?_of_insert held with before | ⟨rfl, rfl⟩
      · exact Or.inl before
      · exact Or.inr ⟨_, payload, rfl, TriggerPayload.ofHex_toHex typed, Or.inr taken⟩
  | takeObject named accepted =>
    rcases TriggerStore.get?_of_insert held with before | ⟨rfl, rfl⟩
    · exact Or.inl before
    · exact Or.inr ⟨_, _, rfl, (acceptSubmission_eq_ok_iff.mp accepted).1, Or.inl named⟩
  | takeVote accepted =>
    rw [TriggerStore.get?, TriggerStore.objects_recordVote] at held
    exact Or.inl held
  | @castVote identity intent own known =>
    rcases store_castVote engine host identity intent with cast | refused
    · rw [cast, TriggerStore.get?, TriggerStore.objects_recordVote] at held
      exact Or.inl held
    · rw [refused] at held
      exact Or.inl held
  | retractVote vote =>
    rw [Engine.retractVote, TriggerStore.get?, TriggerStore.objects_retractVote] at held
    exact Or.inl held
  | retractObject other => exact Or.inl (TriggerStore.get?_of_retractObject held)
  | confirm height fingerprint => exact Or.inl held
  | prune height => exact Or.inl (TriggerStore.get?_dropObjects.mp held).1

/-- The stored objects say what their own texts say. -/
def Legible (engine : Engine σ) : Prop :=
  ∀ id object, engine.store.get? id = some object → object.Legible

theorem Deed.legible [Relay σ] (deed : Deed names host engine after) (before : engine.Legible) :
    after.Legible := by
  intro id object held
  rcases deed.gained held with earlier | ⟨submission, payload, rfl, read, _⟩
  · exact before id object earlier
  · exact TriggerObject.legible_ofSubmission read

theorem Reachable.legible [Relay σ] (reached : Reachable hosts engine) : engine.Legible := by
  refine reached.invariant ?_ ?_ ?_
  · intro config relay id object held
    cases held
  · intro engine relay before
    exact before
  · intro host member engine after coherent deed before
    exact deed.legible before

/-- The parts of every store that is reached agree. Objects stand under their own names, each for
a superblock height and with the height and the texts that are read from what it carries. The
index has exactly the heights that objects have, each with the names of all its objects. Marks
and votes belong to stored objects, and every vote is filed under its own ballot. -/
theorem reached_stores_agree [Relay σ] (reached : Reachable hosts engine) :
    let store := engine.store
    (∀ id object, store.get? id = some object →
      object.id = id ∧ engine.config.cadence.IsSuperblock object.targetHeight ∧
        ∃ payload, TriggerPayload.ofHex object.payloadHex = .ok payload ∧
          payload.eventHeight = object.targetHeight ∧ payload.addresses = object.addresses ∧
          payload.amounts = object.amounts ∧ payload.phase.getD "" = object.phase) ∧
    (∀ height ids, store.byHeight.get? height = some ids → ids.isEmpty = false ∧
      ∀ id, ids.contains id = true ↔
        ∃ object, store.get? id = some object ∧ object.targetHeight = height) ∧
    (∀ id object, store.get? id = some object →
      ∃ ids, store.byHeight.get? object.targetHeight = some ids ∧ ids.contains id = true) ∧
    (∀ id, store.isConfirmed id = true → ∃ object, store.get? id = some object) ∧
    ∀ ballot vote, store.votes.get? ballot = some vote →
      vote.ballot = ballot ∧ ∃ object, store.get? vote.object = some object := by
  have coherent := reached.coherent
  refine ⟨fun id object held => ?_, fun height ids listed => ?_, fun id object held => ?_,
    coherent.marked, fun ballot vote held => ?_⟩
  · obtain ⟨payload, read, same⟩ := reached.legible id object held
    refine ⟨coherent.named id object held, coherent.scheduled id object held, payload, read, ?_⟩
    rw [same]
    exact ⟨rfl, rfl, rfl, rfl⟩
  · refine ⟨coherent.inhabited height ids listed, fun id => ?_⟩
    rw [← coherent.indexed, TriggerStore.Listed, listed, Option.any_some]
  · have listed := (coherent.indexed object.targetHeight id).mpr ⟨object, held, rfl⟩
    exact (Option.any_eq_true _ _).mp listed
  · have filed := coherent.filed ballot vote held
    obtain ⟨object, known⟩ := coherent.concerned ballot vote held
    subst filed
    exact ⟨rfl, object, known⟩

end Engine

/-- In the sample run an object is stored with two votes on it, and says what its text says. -/
theorem sample_store_agrees :
    Engine.Reachable {SampleRun.host} SampleRun.engine ∧
      SampleRun.engine.store.votes.size = 2 ∧
      ∃ object payload, SampleRun.engine.store.get? 1 = some object ∧
        TriggerPayload.ofHex object.payloadHex = .ok payload ∧
        payload.eventHeight = object.targetHeight ∧ payload.addresses = object.addresses ∧
        payload.amounts = object.amounts ∧ payload.phase.getD "" = object.phase := by
  obtain ⟨said, _⟩ := Engine.reached_stores_agree SampleRun.reachable
  have stored : (SampleRun.engine.store.get? 1).isSome = true := by decide +kernel
  have votes : SampleRun.engine.store.votes.size = 2 := by decide +kernel
  obtain ⟨object, held⟩ := Option.isSome_iff_exists.mp stored
  obtain ⟨_, _, payload, read, fields⟩ := said 1 object held
  exact ⟨SampleRun.reachable, votes, object, payload, held, read, fields⟩

end SuperblockGovernance

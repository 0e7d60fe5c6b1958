/-
Objects that travel. A node on the network takes objects from messages and from its own queue
alone, so each stands under the name of its submission and says what its submission says. What
a node creates it puts on the queue, and a node with the same schedule that receives the message
stores the same object, or has it already: the name, the text and the signature that travel are
all that an object is made of. Names stand for contents as far as BLAKE3 tells these apart.
-/

import SuperblockGovernance.Proofs.CreatedObjects
import SuperblockGovernance.Proofs.GossipMessages
import SuperblockGovernance.Proofs.StoredObjects

namespace SuperblockGovernance

/-! ### The queue -/

namespace QueuedRelay

/-- The objects on the queue can be written. -/
def Writable (relay : QueuedRelay) : Prop :=
  ∀ id submission, .object id submission ∈ relay.queue → submission.Fits

theorem queue_send (relay : QueuedRelay) (message : GossipMessage) :
    relay.queue <+: (relay.send message).2.queue := by
  rw [send]
  split
  · exact List.prefix_refl _
  · exact List.prefix_append _ _

theorem send_eq_ok {relay after : QueuedRelay} {message : GossipMessage}
    (taken : relay.send message = (.ok (), after)) : after.queue = relay.queue ++ [message] := by
  rw [send] at taken
  split at taken
  · cases taken
  · cases taken
    rfl

theorem submitObject_eq (relay : QueuedRelay) (submission : Submission) :
    Relay.submitObject relay submission =
      ((relay.send (.object submission.objectId submission)).1.map fun _ => submission.objectId,
        (relay.send (.object submission.objectId submission)).2) :=
  rfl

/-- An object that the queue takes is named by its content and comes last. -/
theorem submitObject_eq_ok {relay after : QueuedRelay} {submission : Submission} {id : ObjectId}
    (taken : Relay.submitObject relay submission = (.ok id, after)) :
    id = submission.objectId ∧ after.queue = relay.queue ++ [.object id submission] := by
  rw [submitObject_eq, send] at taken
  split at taken
  · exact absurd (Prod.mk.inj taken).1 (nomatch ·)
  · obtain ⟨named, moved⟩ := Prod.mk.inj taken
    obtain rfl := Except.ok.inj named
    rw [← moved]
    exact ⟨rfl, rfl⟩

end QueuedRelay

namespace Engine

variable {names : ObjectId → Submission → Prop} {hosts : Set Host} {host : Host}
variable {engine after : Engine QueuedRelay}

/-- Whatever a node does, what is on the queue stays there until it is fetched. -/
theorem Deed.queue (deed : Deed names host engine after) :
    engine.relay.queue <+: after.relay.queue := by
  cases deed with
  | assess target =>
    obtain ⟨cache, same⟩ := exists_cache_assess engine host target
    exact same ▸ List.prefix_refl engine.relay.queue
  | @submit identity payload own scheduled typed =>
    rcases relay_submitPayload engine host identity payload with same | sent
    · exact same ▸ List.prefix_refl engine.relay.queue
    · rw [sent]
      exact QueuedRelay.queue_send _ _
  | @castVote identity intent own known =>
    rw [relay_castVote]
    exact QueuedRelay.queue_send _ _
  | _ => exact List.prefix_refl _

/-! ### Nodes on the network -/

/-- Objects are named by their content, which can be written. -/
def ContentName (id : ObjectId) (submission : Submission) : Prop :=
  submission.objectId = id ∧ submission.Fits

/-- One step of a node on the network: a call at one of the hosts that hands in objects by messages
only, or a move of the relay. A node writes an object to name it, so a call that returns has queued
nothing that cannot be written. -/
inductive NetworkStep (hosts : Set Host) (engine : Engine QueuedRelay) :
    Engine QueuedRelay → Prop
  | call {host : Host} (member : host ∈ hosts) (call : Call)
      (indirect : ∀ id submission, call ≠ .receiveObject id submission)
      (writable : (engine.perform host call).relay.Writable) :
      NetworkStep hosts engine (engine.perform host call)
  | relay (relay : QueuedRelay) : NetworkStep hosts engine { engine with relay }

/-- The engine comes from a run on the network of one that knew nothing. -/
def Networked (hosts : Set Host) (engine : Engine QueuedRelay) : Prop :=
  ∃ config relay, Relation.ReflTransGen (NetworkStep hosts) { config, relay } engine

theorem Networked.reachable (networked : Networked hosts engine) : Reachable hosts engine := by
  obtain ⟨config, relay, run⟩ := networked
  refine ⟨config, relay, Relation.ReflTransGen.mono (fun before next step => ?_) _ _ run⟩
  cases step with
  | call member call => exact .call member call
  | relay relay => exact .relay relay

/-- The stored objects have the names of their submissions, which can be written. -/
def Genuine (engine : Engine QueuedRelay) : Prop :=
  ∀ id object, engine.store.get? id = some object → ContentName id object.submission

/-- In the midst of a call some of the submissions may just have been queued. -/
def Underway (engine : Engine QueuedRelay) : Prop :=
  ∀ id object, engine.store.get? id = some object → object.submission.objectId = id ∧
    (object.submission.Fits ∨ .object id object.submission ∈ engine.relay.queue)

theorem Deed.underway (deed : Deed ContentName host engine after) (before : engine.Underway) :
    after.Underway := by
  intro id object held
  rcases deed.gained held with earlier | ⟨submission, payload, rfl, _, named | taken⟩
  · obtain ⟨named, fits | queued⟩ := before id object earlier
    · exact ⟨named, Or.inl fits⟩
    · exact ⟨named, Or.inr (deed.queue.subset queued)⟩
  · exact ⟨named.1, Or.inl named.2⟩
  · obtain ⟨named, queue⟩ := QueuedRelay.submitObject_eq_ok taken
    refine ⟨named.symm, Or.inr ?_⟩
    rw [queue]
    exact List.mem_append_right _ List.mem_cons_self

theorem Call.names_content {call : Call}
    (indirect : ∀ id submission, call ≠ .receiveObject id submission) :
    call.Names ContentName := by
  cases call with
  | receiveObject id submission => exact absurd rfl (indirect id submission)
  | receiveOctets octets =>
    intro submission rest read
    exact ⟨rfl, ((Wire.exact_message _ _ _).mp read).1⟩
  | _ => trivial

theorem Networked.genuine (networked : Networked hosts engine) : engine.Genuine := by
  obtain ⟨config, relay, run⟩ := networked
  induction run with
  | refl =>
    intro id object held
    cases held
  | tail before step inductionHypothesis =>
    have coherent := (Networked.reachable ⟨config, relay, before⟩).coherent
    cases step with
    | relay relay => exact inductionHypothesis
    | @call host member call indirect writable =>
      -- What the call has just stored of its own is on the queue, which can be written at its end.
      have deeds : Deeds ContentName host _ _ :=
        deeds_perform coherent (Call.names_content indirect)
      have underway := deeds.invariant (fun _ _ _ deed => deed.underway) coherent
        fun id object held => (inductionHypothesis id object held).imp_right Or.inl
      intro id object held
      obtain ⟨named, fits | queued⟩ := underway id object held
      · exact ⟨named, fits⟩
      · exact ⟨named, writable _ _ queued⟩

/-! ### Objects of one name -/

/-- The submissions of the stored objects and of those on the queue. -/
def submissions (engine : Engine QueuedRelay) : Set Submission :=
  { submission |
    (∃ id object, engine.store.get? id = some object ∧ object.submission = submission) ∨
      ∃ id, .object id submission ∈ engine.relay.queue }

theorem submissions_fresh (config : Config) :
    submissions { config, relay := {} } = ∅ := by
  refine Set.eq_empty_of_forall_notMem fun submission member => ?_
  rcases member with ⟨id, object, held, _⟩ | ⟨id, queued⟩
  · cases held
  · cases queued

/-- A creation adds its submission at most. -/
theorem Records.submissions_subset {id : ObjectId} {submission : Submission}
    {payload : TriggerPayload} (records : engine.Records id submission payload after) :
    after.submissions ⊆ insert submission engine.submissions := by
  rintro other (⟨name, object, held, rfl⟩ | ⟨name, queued⟩)
  · rw [records.recorded, TriggerStore.recordSubmission] at held
    rcases TriggerStore.get?_of_insert held with before | ⟨rfl, _⟩
    · exact Or.inr (Or.inl ⟨name, object, before, rfl⟩)
    · exact Or.inl rfl
  · rw [(QueuedRelay.submitObject_eq_ok records.taken).2] at queued
    rcases List.mem_append.mp queued with before | last
    · exact Or.inr (Or.inr ⟨name, before⟩)
    · cases List.mem_singleton.mp last
      exact Or.inl rfl

/-- An object that is stored under the name of a submission is what that becomes, unless BLAKE3
confuses the two submissions. -/
theorem Networked.eq_ofSubmission (networked : Networked hosts engine) {submission : Submission}
    {payload : TriggerPayload} {object : TriggerObject} (fits : submission.Fits)
    (read : TriggerPayload.ofHex submission.payloadHex = .ok payload)
    (apart : ¬Blake3.Collide (Wire.submission.write object.submission)
      (Wire.submission.write submission))
    (held : engine.store.get? submission.objectId = some object) :
    object = .ofSubmission submission.objectId submission payload := by
  obtain ⟨named, objectFits⟩ := networked.genuine _ object held
  have same : object.submission = submission :=
    (Submission.eq_or_collide objectFits fits named).resolve_right apart
  obtain ⟨other, otherRead, made⟩ := networked.reachable.legible _ object held
  have texts : object.payloadHex = submission.payloadHex := congrArg Submission.payloadHex same
  rw [texts, read] at otherRead
  obtain rfl := Except.ok.inj otherRead
  rw [networked.reachable.coherent.named _ object held, same] at made
  exact made

end Engine

/-- BLAKE3 has no collision among the submissions. -/
def Submission.ToldApart (submissions : Set Submission) : Prop :=
  ∀ first ∈ submissions, ∀ second ∈ submissions,
    ¬Blake3.Collide (Wire.submission.write first) (Wire.submission.write second)

namespace Engine

/-! ### What is received -/

/-- The message of an object hands in the object. -/
theorem receiveOctets_write {σ : Type} (engine : Engine σ) (host : Host) {submission : Submission}
    (fits : submission.Fits) (rest : Octets) :
    engine.receiveOctets host
        (Wire.message.write (.object submission.objectId submission) ++ rest) =
      engine.receiveObject host submission.objectId submission := by
  have read : Wire.message.read
      (Wire.message.write (.object submission.objectId submission) ++ rest) =
        some (.object submission.objectId submission, rest) :=
    (Wire.exact_message _ _ _).mpr ⟨fits, rfl⟩
  rw [receiveOctets, read]
  show engine.receiveMessage host (.object submission.objectId submission) = _
  rw [receiveMessage, if_pos rfl]

theorem receiveObject_of_accepted {σ : Type} {engine : Engine σ} {host : Host} (id : ObjectId)
    {submission : Submission} {payload : TriggerPayload}
    (accepted : engine.acceptSubmission host submission = .ok payload) :
    (engine.receiveObject host id submission).1 = .ok (engine.store.get? id).isNone ∧
      (engine.receiveObject host id submission).2.store =
        (engine.store.insert (.ofSubmission id submission payload)).2 := by
  rw [receiveObject, accepted]
  exact ⟨congrArg Except.ok TriggerStore.isNew_insert, rfl⟩

/-- What a node creates comes last on its queue, and every node with the same schedule that
receives the message takes it as far as it verifies the submission, holds the submitter for valid
at the target and has the target within its horizon. Then both store the same object under the
name, in all that it is made of. -/
theorem created_objects_are_received {hosts others : Set Host} {host : Host}
    {creator after receiver : Engine QueuedRelay} {id : ObjectId}
    (made : Networked hosts creator) (creation : Creation host creator id after)
    (writable : after.relay.Writable) (fed : Networked others receiver)
    (schedule : receiver.config.cadence = creator.config.cadence)
    (apart : Submission.ToldApart (after.submissions ∪ receiver.submissions)) :
    ∃ submission object,
      after.relay.queue = creator.relay.queue ++ [.object id submission] ∧
      after.store.get? id = some object ∧
      ∀ (observer : Host) (rest : Octets), observer.verifySubmission submission = true →
        observer.isValidIdentity submission.submitter object.targetHeight = true →
        (∀ horizon ∈ receiver.horizon observer, object.targetHeight ≤ horizon) →
        let received := receiver.receiveOctets observer
          (Wire.message.write (.object id submission) ++ rest)
        received.1 = .ok (receiver.store.get? id).isNone ∧
          received.2.store.get? id = some object := by
  obtain ⟨submission, payload, records⟩ := creation.records made.reachable.coherent
  obtain ⟨rfl, queue⟩ := QueuedRelay.submitObject_eq_ok records.taken
  have queued : .object submission.objectId submission ∈ after.relay.queue := by
    rw [queue]
    exact List.mem_append_right _ List.mem_cons_self
  have own : submission ∈ after.submissions := Or.inr ⟨_, queued⟩
  have fits : submission.Fits := writable _ _ queued
  have read : TriggerPayload.ofHex submission.payloadHex = .ok payload := by
    rw [records.written]
    exact TriggerPayload.ofHex_toHex records.typed
  refine ⟨submission, .ofSubmission submission.objectId submission payload, queue, ?_, ?_⟩
  -- On either side the name may be taken already, but then by the same submission.
  · rw [records.recorded, TriggerStore.recordSubmission]
    refine TriggerStore.get?_insert_self fun found held => ?_
    refine made.eq_ofSubmission fits read (apart _ (Or.inl (Or.inl ?_)) _ (Or.inl own)) held
    refine ⟨submission.objectId, found, ?_, rfl⟩
    rw [records.recorded, TriggerStore.recordSubmission]
    exact (TriggerStore.get?_insert_of_knows ⟨found, held⟩ _).trans held
  · intro observer rest verified valid near
    have scheduled : receiver.config.cadence.IsSuperblock payload.eventHeight := by
      rw [schedule]
      exact records.scheduled
    have accepted := acceptSubmission_eq_ok_iff.mpr ⟨read, scheduled, near, verified, valid⟩
    obtain ⟨result, stored⟩ := receiveObject_of_accepted submission.objectId accepted
    dsimp only
    rw [receiveOctets_write receiver observer fits rest]
    refine ⟨result, ?_⟩
    rw [stored]
    refine TriggerStore.get?_insert_self fun found held => ?_
    refine fed.eq_ofSubmission fits read (apart _ (Or.inr (Or.inl ?_)) _ (Or.inl own)) held
    exact ⟨_, found, held, rfl⟩

end Engine

/-! ### A sample exchange -/

namespace SampleExchange

/-- A host with empty signatures. -/
def host : Host :=
  { SampleRun.host with sign := fun _ => [] }

/-- The contract of the sample run with a proposal. -/
def contract : Contract :=
  { SampleRun.contract with proposals := ["p"] }

/-- A node that has seen nothing and puts messages on a queue. -/
def creator : Engine QueuedRelay :=
  { config := SampleRun.config, relay := {} }

/-- Another node with the same schedule. -/
def receiver : Engine QueuedRelay :=
  { config := { SampleRun.config with submitRateLimitSecs := 5 }, relay := {} }

/-- What the node does on the call to submit. -/
def created : Except SubmitError ObjectId × Engine QueuedRelay :=
  creator.submit host 1300 contract

theorem exists_created : ∃ id, created.1 = .ok id := by
  have succeeded : created.1.isOk = true := by decide +kernel
  cases result : created.1 with
  | ok id => exact ⟨id, rfl⟩
  | error cause =>
    rw [result] at succeeded
    cases succeeded

/-- Everything on the queue of the creator can be written and is accepted. -/
theorem queue_accepted : (created.2.relay.queue.all fun
    | .object _ submission => submission.Fits && host.verifySubmission submission &&
        host.isValidIdentity submission.submitter 1300
    | .vote _ => true) = true := by
  decide +kernel

theorem target_of_stored {id : ObjectId} {object : TriggerObject}
    (stored : created.2.store.get? id = some object) : object.targetHeight = 1300 := by
  have all : (created.2.store.objects.values.all fun object =>
      object.targetHeight = 1300) = true := by
    decide +kernel
  exact of_decide_eq_true
    (List.all_eq_true.mp all object (SortedMap.mem_values_iff.mpr ⟨id, stored⟩))

/-- There is but one submission, which is told apart from itself. -/
theorem told_apart {id : ObjectId} (creation : Engine.Creation host creator id created.2) :
    Submission.ToldApart (created.2.submissions ∪ receiver.submissions) := by
  obtain ⟨sent, _, records⟩ := creation.records TriggerStore.coherent_empty
  have only : ∀ submission ∈ created.2.submissions ∪ receiver.submissions, submission = sent := by
    rintro submission (own | other)
    · rcases records.submissions_subset own with same | before
      · exact same
      · exact absurd before (Engine.submissions_fresh _ ▸ Set.notMem_empty _)
    · exact absurd other (Engine.submissions_fresh _ ▸ Set.notMem_empty _)
  intro first firstMember second secondMember
  rw [only first firstMember, only second secondMember]
  exact fun collide => collide.1 rfl

end SampleExchange

/-- The contract that one node submits is new to the other, which stores the same object. -/
theorem sample_object_is_received :
    ∃ id submission object, SampleExchange.created.1 = .ok id ∧
      SampleExchange.created.2.relay.queue = [.object id submission] ∧
      SampleExchange.created.2.store.get? id = some object ∧ object.targetHeight = 1300 ∧
      let received := SampleExchange.receiver.receiveOctets SampleExchange.host
        (Wire.message.write (.object id submission) ++ [])
      received.1 = .ok true ∧ received.2.store.get? id = some object := by
  have queued := List.all_eq_true.mp SampleExchange.queue_accepted
  obtain ⟨id, submitted⟩ := SampleExchange.exists_created
  have made : Engine.Networked {SampleExchange.host} SampleExchange.creator := ⟨_, _, .refl⟩
  have fed : Engine.Networked {SampleExchange.host} SampleExchange.receiver := ⟨_, _, .refl⟩
  have creation : Engine.Creation SampleExchange.host SampleExchange.creator id
      SampleExchange.created.2 := .submit submitted
  have writable : SampleExchange.created.2.relay.Writable := by
    intro name submission member
    have accepted := queued _ member
    simp only [Bool.and_eq_true, decide_eq_true_eq] at accepted
    exact accepted.1.1
  obtain ⟨submission, object, queue, stored, received⟩ := Engine.created_objects_are_received
    made creation writable fed rfl (SampleExchange.told_apart creation)
  have target := SampleExchange.target_of_stored stored
  have accepted := queued (.object id submission) (queue ▸ List.mem_cons_self)
  simp only [Bool.and_eq_true] at accepted
  have horizon : SampleExchange.receiver.horizon SampleExchange.host = some 1400 := by
    decide +kernel
  have near : ∀ horizon ∈ SampleExchange.receiver.horizon SampleExchange.host,
      object.targetHeight ≤ horizon := by
    rintro _ found
    rw [horizon] at found
    cases found
    rw [target]
    decide
  exact ⟨id, submission, object, submitted, queue, stored, target,
    received SampleExchange.host [] accepted.1.2 (target ▸ accepted.2) near⟩

end SuperblockGovernance

/-
The gate for what peers send. Octets are taken in exactly when they begin with a message as it
is written and the message passes every check: a new object under the name of its content, for
a superblock height that is near enough, or a vote on a stored object that is later than the
one held, each verified and from a sanctuary that is valid at the height. What is taken in is
all that changes, and whatever is turned away, with an answer or with a failure, leaves the
engine as it was.
-/

import SuperblockGovernance.Proofs.EngineRuns
import SuperblockGovernance.Proofs.GossipMessages

namespace SuperblockGovernance

/-! ### What a store gains -/

namespace TriggerStore

variable {store : TriggerStore}

/-- The second store holds one object more, which is listed for its target, and is the first store
in everything else. -/
structure GainsObject (store : TriggerStore) (object : TriggerObject) (after : TriggerStore) :
    Prop where
  stored : ∀ id, after.get? id = if id = object.id then some object else store.get? id
  listed : ∃ ids, after.byHeight.get? object.targetHeight = some ids ∧
    ∀ id, ids.contains id = true ↔ id = object.id ∨ Listed store.byHeight object.targetHeight id
  elsewhere : ∀ height, height ≠ object.targetHeight →
    after.byHeight.get? height = store.byHeight.get? height
  alike : after = { store with objects := after.objects, byHeight := after.byHeight }

/-- The second store holds the vote under its ballot, in the place of any other, and is the first
store in everything else. -/
structure GainsVote (store : TriggerStore) (vote : Vote) (after : TriggerStore) : Prop where
  held : ∀ ballot, after.votes.get? ballot =
    if ballot = vote.ballot then some vote else store.votes.get? ballot
  alike : after = { store with votes := after.votes }

/-- The second store has what the message brings, as its content is read. -/
def GainsMessage (store : TriggerStore) : GossipMessage → TriggerStore → Prop
  | .object id submission, after =>
    ∃ payload, TriggerPayload.ofHex submission.payloadHex = .ok payload ∧
      store.GainsObject (.ofSubmission id submission payload) after
  | .vote vote, after => store.GainsVote vote after

theorem insert_of_known (object : TriggerObject) (known : store.Knows object.id) :
    store.insert object = (false, store) := by
  rw [insert, if_pos (SortedMap.contains_iff.mpr known)]

theorem insert_of_fresh (object : TriggerObject) (fresh : store.get? object.id = none) :
    (store.insert object).1 = true ∧ store.GainsObject object (store.insert object).2 := by
  have absent : ¬store.objects.contains object.id = true :=
    Bool.eq_false_iff.mp (SortedMap.contains_eq_false_iff.mpr fresh)
  rw [insert, if_neg absent]
  refine ⟨rfl, ⟨fun id => SortedMap.get?_insert _ _ _ _, ?_, fun height differs => ?_, rfl⟩⟩
  · refine ⟨_, (SortedMap.get?_alter _ _ _ _).trans (if_pos rfl), fun id => ?_⟩
    rw [SortedMap.contains_insert, Listed]
    cases store.byHeight.get? object.targetHeight with
    | none => rfl
    | some ids => rfl
  · exact (SortedMap.get?_alter _ _ _ _).trans (if_neg differs)

theorem recordVote_of_newer {vote : Vote}
    (newer : ∀ held, store.votes.get? vote.ballot = some held → held.timestamp < vote.timestamp) :
    (store.recordVote vote).1 = true ∧ store.GainsVote vote (store.recordVote vote).2 := by
  have superseded : ((store.votes.get? vote.ballot).all fun held =>
      held.timestamp < vote.timestamp) = true := by
    cases found : store.votes.get? vote.ballot with
    | none => rfl
    | some held => exact decide_eq_true (newer held found)
  rw [recordVote, if_pos superseded]
  exact ⟨rfl, ⟨fun ballot => SortedMap.get?_insert _ _ _ _, rfl⟩⟩

theorem recordVote_of_held {vote held : Vote} (found : store.votes.get? vote.ballot = some held)
    (later : ¬held.timestamp < vote.timestamp) : store.recordVote vote = (false, store) := by
  rw [recordVote, found, Option.all_some, if_neg (by simpa using later)]

end TriggerStore

namespace Engine

variable {σ : Type} {engine : Engine σ} {host : Host}

/-! ### What may come in -/

/-- The submission may be taken in under the name, as the object that the payload makes. -/
structure AdmitsObject (engine : Engine σ) (host : Host) (id : ObjectId) (submission : Submission)
    (payload : TriggerPayload) : Prop where
  named : submission.objectId = id
  read : TriggerPayload.ofHex submission.payloadHex = .ok payload
  scheduled : engine.config.cadence.IsSuperblock payload.eventHeight
  /-- The height is at most a cycle after the next superblock, if there is a tip. -/
  near : ∀ tip ∈ host.tip, payload.eventHeight.toNat ≤
    (engine.config.cadence.around tip.height).2.toNat + engine.config.cycleLength.toNat
  verified : host.verifySubmission submission = true
  valid : host.isValidIdentity submission.submitter payload.eventHeight = true
  fresh : engine.store.get? id = none

/-- The vote may be taken in on the object. -/
structure AdmitsVote (engine : Engine σ) (host : Host) (vote : Vote) (object : TriggerObject) :
    Prop where
  stored : engine.store.get? vote.object = some object
  verified : host.verifyVote vote = true
  valid : host.isValidIdentity vote.voter object.targetHeight = true
  newer : ∀ held, engine.store.votes.get? vote.ballot = some held → held.timestamp < vote.timestamp

/-- The message may be taken in. -/
def AdmitsMessage (engine : Engine σ) (host : Host) : GossipMessage → Prop
  | .object id submission => ∃ payload, engine.AdmitsObject host id submission payload
  | .vote vote => ∃ object, engine.AdmitsVote host vote object

/-- The second engine has what the message brings, and is the first one in everything else. -/
def GainsMessage (engine : Engine σ) (message : GossipMessage) (after : Engine σ) : Prop :=
  engine.store.GainsMessage message after.store ∧ after = { engine with store := after.store }

/-- The horizon is a cycle after the next superblock; a sum that 32 bits do not hold bounds no
height. -/
theorem near_iff {height : Height} :
    (∀ horizon ∈ engine.horizon host, height ≤ horizon) ↔ ∀ tip ∈ host.tip, height.toNat ≤
      (engine.config.cadence.around tip.height).2.toNat + engine.config.cycleLength.toNat := by
  rw [horizon, superblockHeights]
  cases host.tip with
  | none => simp
  | some tip =>
    have bound := height.toNat_lt
    have capped (sum : Nat) : (UInt32.ofNat (min sum (2 ^ 32 - 1))).toNat =
        min sum (2 ^ 32 - 1) :=
      UInt32.toNat_ofNat_of_lt' (Nat.lt_of_le_of_lt (Nat.min_le_right _ _) (by decide))
    simp only [Option.map_some, Option.mem_some_iff, forall_eq', UInt32.le_iff_toNat_le, capped]
    omega

theorem acceptSubmission_of_admitted {id : ObjectId} {submission : Submission}
    {payload : TriggerPayload} (admitted : engine.AdmitsObject host id submission payload) :
    engine.acceptSubmission host submission = .ok payload :=
  acceptSubmission_eq_ok_iff.mpr ⟨admitted.read, admitted.scheduled, near_iff.mpr admitted.near,
    admitted.verified, admitted.valid⟩

/-! ### One message -/

/-- Either an object is admitted and gained, or it is not and nothing changes. -/
theorem receiveMessage_object_cases (engine : Engine σ) (host : Host) (id : ObjectId)
    (submission : Submission) :
    let answer := engine.receiveMessage host (.object id submission)
    (engine.AdmitsMessage host (.object id submission) ∧ answer.1 = .ok true ∧
        engine.GainsMessage (.object id submission) answer.2) ∨
      (¬engine.AdmitsMessage host (.object id submission) ∧ answer.1 ≠ .ok true ∧
        answer.2 = engine) := by
  intro answer
  unfold answer
  rw [receiveMessage]
  by_cases admitted : engine.AdmitsMessage host (.object id submission)
  · obtain ⟨payload, admits⟩ := admitted
    obtain ⟨isNew, gained⟩ :=
      TriggerStore.insert_of_fresh (.ofSubmission id submission payload) admits.fresh
    rw [if_pos admits.named, receiveObject, acceptSubmission_of_admitted admits]
    exact Or.inl
      ⟨⟨payload, admits⟩, congrArg Except.ok isNew, ⟨payload, admits.read, gained⟩, rfl⟩
  · refine Or.inr ⟨admitted, ?_⟩
    split
    · rename_i named
      rw [receiveObject]
      cases accepted : engine.acceptSubmission host submission with
      | error cause =>
        refine ⟨fun taken => ?_, rfl⟩
        cases taken
      | ok payload =>
        -- All else was checked, so an object of the name is stored already.
        obtain ⟨read, scheduled, near, verified, valid⟩ := acceptSubmission_eq_ok_iff.mp accepted
        have known : engine.store.Knows id := by
          refine Option.ne_none_iff_exists'.mp fun fresh => admitted ⟨payload, ?_⟩
          exact ⟨named, read, scheduled, near_iff.mp near, verified, valid, fresh⟩
        dsimp only
        rw [TriggerStore.insert_of_known (.ofSubmission id submission payload) known]
        exact ⟨by simp, rfl⟩
    · refine ⟨fun taken => ?_, rfl⟩
      cases taken

/-- Either a vote is admitted and gained, or it is not and nothing changes. -/
theorem receiveMessage_vote_cases (engine : Engine σ) (host : Host) (vote : Vote) :
    let answer := engine.receiveMessage host (.vote vote)
    (engine.AdmitsMessage host (.vote vote) ∧ answer.1 = .ok true ∧
        engine.GainsMessage (.vote vote) answer.2) ∨
      (¬engine.AdmitsMessage host (.vote vote) ∧ answer.1 ≠ .ok true ∧ answer.2 = engine) := by
  intro answer
  unfold answer
  rw [receiveMessage, receiveVote]
  by_cases admitted : engine.AdmitsMessage host (.vote vote)
  · obtain ⟨object, admits⟩ := admitted
    obtain ⟨isHeld, gained⟩ := TriggerStore.recordVote_of_newer admits.newer
    have accepted : engine.acceptVote host vote = .ok () :=
      acceptVote_eq_ok_iff.mpr ⟨object, admits.stored, admits.verified, admits.valid⟩
    rw [accepted]
    dsimp only
    rw [isHeld]
    exact Or.inl ⟨⟨object, admits⟩, rfl, gained, rfl⟩
  · refine Or.inr ⟨admitted, ?_⟩
    cases accepted : engine.acceptVote host vote with
    | error cause =>
      refine ⟨fun taken => ?_, rfl⟩
      cases taken
    | ok _ =>
      -- All else was checked, so a vote that is as late is held.
      obtain ⟨object, stored, verified, valid⟩ := acceptVote_eq_ok_iff.mp accepted
      have late : ∃ held, engine.store.votes.get? vote.ballot = some held ∧
          ¬held.timestamp < vote.timestamp := by
        by_contra none
        push Not at none
        exact admitted ⟨object, stored, verified, valid, none⟩
      obtain ⟨held, found, later⟩ := late
      dsimp only
      rw [TriggerStore.recordVote_of_held found later]
      refine ⟨fun taken => ?_, rfl⟩
      cases taken

theorem receiveMessage_cases (engine : Engine σ) (host : Host) (message : GossipMessage) :
    let answer := engine.receiveMessage host message
    (engine.AdmitsMessage host message ∧ answer.1 = .ok true ∧
        engine.GainsMessage message answer.2) ∨
      (¬engine.AdmitsMessage host message ∧ answer.1 ≠ .ok true ∧ answer.2 = engine) := by
  cases message with
  | object id submission => exact receiveMessage_object_cases engine host id submission
  | vote vote => exact receiveMessage_vote_cases engine host vote

/-! ### Octets -/

/-- Octets are taken in exactly when they begin with a message that is admitted. Then the engine
gains just what the message brings; otherwise it stays as it was. -/
theorem inbound_gate_is_exact (engine : Engine σ) (host : Host) (octets : Octets) :
    let answer := engine.receiveOctets host octets
    (answer.1 = .ok true ↔ ∃ message rest, message.Fits ∧
      octets = Wire.message.write message ++ rest ∧ engine.AdmitsMessage host message) ∧
    (∀ message rest, message.Fits → octets = Wire.message.write message ++ rest →
      engine.AdmitsMessage host message → engine.GainsMessage message answer.2) ∧
    (answer.1 ≠ .ok true → answer.2 = engine) := by
  intro answer
  -- What is read from octets is the only message that they begin with.
  have begins {message : GossipMessage} {rest : Octets} (fits : message.Fits)
      (same : octets = Wire.message.write message ++ rest) :
      Wire.message.read octets = some (message, rest) :=
    (Wire.exact_message _ _ _).mpr ⟨fits, same⟩
  unfold answer
  rw [receiveOctets]
  cases read : Wire.message.read octets with
  | none =>
    rw [read] at begins
    refine ⟨⟨fun taken => ?_, ?_⟩, ?_, fun _ => rfl⟩
    · cases taken
    · rintro ⟨message, rest, fits, same, _⟩
      cases begins fits same
    · intro message rest fits same _
      cases begins fits same
  | some found =>
    obtain ⟨message, rest⟩ := found
    obtain ⟨fits, same⟩ := (Wire.exact_message _ _ _).mp read
    have only {other : GossipMessage} {others : Octets} (fits : other.Fits)
        (same : octets = Wire.message.write other ++ others) : message = other :=
      congrArg Prod.fst (Option.some.inj (read.symm.trans (begins fits same)))
    dsimp only
    rcases engine.receiveMessage_cases host message with
      ⟨admitted, taken, gained⟩ | ⟨refused, untaken, unchanged⟩
    · refine ⟨iff_of_true taken ⟨message, rest, fits, same, admitted⟩, ?_, absurd taken⟩
      intro other others fitsToo sameToo _
      exact only fitsToo sameToo ▸ gained
    · have none {other : GossipMessage} {others : Octets} (fits : other.Fits)
          (same : octets = Wire.message.write other ++ others) :
          ¬engine.AdmitsMessage host other := only fits same ▸ refused
      refine ⟨iff_of_false untaken ?_, ?_, fun _ => unchanged⟩
      · rintro ⟨other, others, fitsToo, sameToo, admitted⟩
        exact none fitsToo sameToo admitted
      · intro other others fitsToo sameToo admitted
        exact absurd admitted (none fitsToo sameToo)

end Engine

namespace SampleMessage

/-- One more approval of the object of the sample run. -/
def approval : Vote :=
  SampleRun.approval ⟨3⟩

/-- The approval as a peer sends it, with an octet after it. -/
def approvalOctets : Octets :=
  Wire.message.write (.vote approval) ++ [255]

/-- What becomes of the approval at the engine of the sample run. -/
def received : Except GovernanceError Bool × Engine CountingRelay :=
  SampleRun.engine.receiveOctets SampleRun.host approvalOctets

end SampleMessage

/-- The approval is taken in, and when it comes again it changes nothing. -/
theorem sample_approval_is_taken_once :
    SampleMessage.received.1 = .ok true ∧
      SampleMessage.received.2.store.votes.get? ⟨1, .funding, ⟨3⟩⟩ = some SampleMessage.approval ∧
      (SampleMessage.received.2.receiveOctets SampleRun.host SampleMessage.approvalOctets).2 =
        SampleMessage.received.2 := by
  have fits : (GossipMessage.vote SampleMessage.approval).Fits := by
    show SampleMessage.approval.signature.length < 2 ^ 32
    decide
  have known : (SampleRun.engine.store.get? 1).isSome = true := by decide +kernel
  obtain ⟨object, stored⟩ := Option.isSome_iff_exists.mp known
  have unheld : SampleRun.engine.store.votes.get? SampleMessage.approval.ballot = none := by
    decide +kernel
  have admitted : SampleRun.engine.AdmitsMessage SampleRun.host (.vote SampleMessage.approval) :=
    ⟨object, stored, rfl, rfl, fun held found => nomatch unheld.symm.trans found⟩
  obtain ⟨taken, gained, _⟩ := Engine.inbound_gate_is_exact SampleRun.engine SampleRun.host
    SampleMessage.approvalOctets
  obtain ⟨_, _, unchanged⟩ := Engine.inbound_gate_is_exact SampleMessage.received.2 SampleRun.host
    SampleMessage.approvalOctets
  have again : (SampleMessage.received.2.receiveOctets SampleRun.host
      SampleMessage.approvalOctets).1.toOption ≠ some true := by
    decide +kernel
  refine ⟨taken.mpr ⟨_, _, fits, rfl, admitted⟩, ?_, unchanged fun same => again (same ▸ rfl)⟩
  exact ((gained _ _ fits rfl admitted).1.held _).trans (if_pos rfl)

end SuperblockGovernance

/-
Forced ticks, one after the other, at a host that does not change. With a relay that takes
everything, the node holds what it hands over, and what it holds it does not hand over again:
the object for its fingerprint is there, and its stance on what it voted on stays what it was.
So each tick that is not silent adds the one object, or votes where it had not voted yet, and
there are two places to vote on for each stored object. After a silent tick all are silent.
-/

import Mathlib.Data.List.Perm.Subperm
import Mathlib.Data.List.ProdSigma
import SuperblockGovernance.Proofs.TickEffects

namespace SuperblockGovernance

/-! ### What is handed over -/

namespace Handover

/-- What was voted on, if it is a vote. -/
def place? (handover : Handover) : Option (ObjectId × VoteSignal) :=
  handover.vote?.map Vote.place

/-- A handover is of an object or of a vote. -/
theorem length_eq (log : List Handover) :
    log.length = (log.filterMap submission?).length + (log.filterMap place?).length := by
  induction log with
  | nil => rfl
  | cons handover rest inductionHypothesis =>
    cases handover with
    | object submission answer =>
      show rest.length + 1 =
        (rest.filterMap submission?).length + 1 + (rest.filterMap place?).length
      rw [inductionHypothesis, Nat.add_right_comm]
    | vote vote answer =>
      show rest.length + 1 =
        (rest.filterMap submission?).length + ((rest.filterMap place?).length + 1)
      rw [inductionHypothesis, Nat.add_assoc]

variable {handovers : List Handover} {votes : List Vote}

theorem filterMap_place?_of_votes (cast : handovers.map vote? = votes.map some) :
    handovers.filterMap place? = votes.map Vote.place := by
  have found : handovers.filterMap place? =
      (handovers.map vote?).filterMap (Option.map Vote.place) := by
    rw [List.filterMap_map]
    rfl
  rw [found, cast, List.filterMap_map]
  exact congrFun List.filterMap_eq_map votes

theorem filterMap_submission?_of_votes (cast : handovers.map vote? = votes.map some) :
    handovers.filterMap submission? = [] := by
  refine List.filterMap_eq_nil_iff.mpr fun handover inside => ?_
  obtain ⟨vote, _, same⟩ := List.mem_map.mp (cast ▸ List.mem_map_of_mem inside)
  cases handover with
  | object submission answer => cases same
  | vote vote answer => rfl

end Handover

namespace Engine

variable {σ : Type} {engine : Engine σ} {host : Host} {target : Height}
  {fingerprint : Fingerprint} {identity : Identity}

/-! ### Stances that last -/

/-- What is funded after a creation was not known before, so no stance on a known object changes. -/
theorem stance_of_creation {after : Engine σ}
    (coherent : engine.store.Coherent engine.config.cadence)
    (afterCoherent : after.store.Coherent after.config.cadence)
    (missing : ¬engine.Carried target fingerprint) {object : ObjectId}
    (known : engine.store.Knows object)
    (kept : after.store.get? object = engine.store.get? object) :
    PlanTerms.stance (after.fundedName host target fingerprint) object =
      PlanTerms.stance (engine.fundedName host target fingerprint) object := by
  refine PlanTerms.stance_congr (iff_of_false (fun funded => ?_) fun funded => ?_)
  · obtain ⟨found, rfl, held, same, alike⟩ := carried_of_fundedName afterCoherent funded
    exact missing ⟨found, kept.symm.trans held, same, alike⟩
  · obtain ⟨found, rfl, held, same, alike⟩ := carried_of_fundedName coherent funded
    exact missing ⟨found, held, same, alike⟩

/-- Places without a planned vote keep what they hold. -/
theorem get?_of_unplanned {object : ObjectId} {signal : VoteSignal}
    (unplanned : (object, signal) ∉
      (engine.plannedVotes host target fingerprint identity).map Vote.place) :
    (engine.store.recordVotes (engine.plannedVotes host target fingerprint identity)).votes.get?
        ⟨object, signal, identity⟩ =
      engine.store.votes.get? ⟨object, signal, identity⟩ := by
  refine TriggerStore.get?_recordVotes_of_forall_ne fun vote member same => unplanned ?_
  obtain ⟨rfl, rfl, _⟩ := Ballot.mk.inj same
  exact List.mem_map_of_mem member

/-- Planned votes take the place of older ones. -/
theorem voteOf_of_planned (coherent : engine.store.Coherent engine.config.cadence) {vote : Vote}
    (member : vote ∈ engine.plannedVotes host target fingerprint identity)
    (older : ∀ held, engine.store.votes.get? ⟨vote.object, vote.signal, identity⟩ = some held →
      held.timestamp < host.now) :
    (engine.store.recordVotes (engine.plannedVotes host target fingerprint identity)).voteOf
      identity vote.object vote.signal = some vote.outcome := by
  have stance := takesStance_of_mem_plannedVotes coherent member
  have newer : ∀ held, engine.store.votes.get? vote.ballot = some held →
      held.timestamp < vote.timestamp := by
    intro held found
    rw [Vote.ballot, stance.own] at found
    rw [stance.current]
    exact older held found
  have recorded := TriggerStore.voteOf_recordVotes member newer fun other inside same => by
    obtain ⟨object, signal, _⟩ := Ballot.mk.inj same
    rw [(takesStance_of_mem_plannedVotes coherent inside).outcome, stance.outcome, object, signal]
  rw [← recorded, stance.own]

/-! ### What the ticks keep -/

section Kept

variable {after : Engine σ} {start : Nat} {log handovers : List Handover}

/-- What holds when some ticks have handed over a log. No place was voted on twice, and the node
holds on each the outcome of its stance; all its other votes are older than the clock. At most one
object was created, and then one carries the fingerprint. -/
structure Upholds (engine : Engine σ) (host : Host) (target : Height) (fingerprint : Fingerprint)
    (identity : Identity) (start : Nat) (log : List Handover) : Prop where
  distinct : (log.filterMap Handover.place?).Nodup
  held : ∀ object signal, (object, signal) ∈ log.filterMap Handover.place? →
    engine.store.Knows object ∧ engine.store.voteOf identity object signal =
      some (PlanTerms.stance (engine.fundedName host target fingerprint) object signal)
  older : ∀ object signal vote, engine.store.votes.get? ⟨object, signal, identity⟩ = some vote →
    (object, signal) ∉ log.filterMap Handover.place? → vote.timestamp < host.now
  single : (log.filterMap Handover.submission?).length ≤ 1
  carried : log.filterMap Handover.submission? ≠ [] → engine.Carried target fingerprint
  counted : engine.store.size = start + (log.filterMap Handover.submission?).length

namespace Upholds

/-- A node whose own votes are older than the clock upholds the empty log. -/
theorem nil (older : ∀ ballot vote, engine.store.votes.get? ballot = some vote →
    ballot.voter = identity → vote.timestamp < host.now) :
    engine.Upholds host target fingerprint identity engine.store.size [] where
  distinct := List.nodup_nil
  held _ _ member := absurd member List.not_mem_nil
  older _ _ vote found _ := older _ vote found rfl
  single := Nat.zero_le 1
  carried some := absurd rfl some
  counted := rfl

/-- What is handed over is votes on different places of the stored objects, and one object. -/
theorem length_le (upholds : engine.Upholds host target fingerprint identity start log) :
    log.length ≤ 2 * (start + 1) + 1 := by
  have within : log.filterMap Handover.place? ⊆
      engine.store.objects.keys ×ˢ [VoteSignal.funding, VoteSignal.delete] := by
    rintro ⟨object, signal⟩ member
    have known := SortedMap.mem_keys_iff.mpr (upholds.held object signal member).1
    refine List.mem_product.mpr ⟨known, ?_⟩
    cases signal <;> simp
  have places := (List.subperm_of_subset upholds.distinct within).length_le
  have keys : engine.store.objects.keys.length = engine.store.size := List.length_map _
  rw [List.length_product, keys, upholds.counted] at places
  have parts := Handover.length_eq log
  have single := upholds.single
  simp only [List.length_cons, List.length_nil] at places
  omega

variable (before : engine.Upholds host target fingerprint identity start log)
  (coherent : engine.store.Coherent engine.config.cadence)
  (afterCoherent : after.store.Coherent after.config.cadence)

include before coherent afterCoherent

theorem rests (stored : after.store = engine.store) :
    after.Upholds host target fingerprint identity start log := by
  have funded : after.fundedName host target fingerprint =
      engine.fundedName host target fingerprint :=
    fundedName_congr coherent afterCoherent (congrArg TriggerStore.objects stored)
  obtain ⟨distinct, held, older, single, carried, counted⟩ := before
  refine ⟨distinct, ?_, ?_, single, ?_, ?_⟩
  · rw [stored, funded]
    exact held
  · rw [stored]
    exact older
  · rw [Carried, stored]
    exact carried
  · rw [stored]
    exact counted

/-- The object that is created is the first one. -/
theorem creates {id : ObjectId} {submission : Submission} {payload : TriggerPayload}
    (stored : after.store = engine.store.recordSubmission id submission payload)
    (missing : ¬engine.Carried target fingerprint) (new : engine.store.get? id = none)
    (aimed : payload.eventHeight = target)
    (carries : (TriggerObject.ofSubmission id submission payload).fingerprint = fingerprint) :
    after.Upholds host target fingerprint identity start
      (log ++ [.object submission (.ok id)]) := by
  have places : (log ++ [Handover.object submission (.ok id)]).filterMap Handover.place? =
      log.filterMap Handover.place? := by
    rw [List.filterMap_append]
    exact List.append_nil _
  have none : log.filterMap Handover.submission? = [] :=
    not_not.mp fun some => missing (before.carried some)
  have submissions : (log ++ [Handover.object submission (.ok id)]).filterMap
      Handover.submission? = [submission] := by
    rw [List.filterMap_append, none]
    rfl
  have size : engine.store.size = start := by
    rw [before.counted, none]
    rfl
  have votes : after.store.votes = engine.store.votes := by
    rw [stored, TriggerStore.votes_recordSubmission]
  have kept : ∀ object, engine.store.Knows object →
      after.store.get? object = engine.store.get? object := by
    intro object known
    rw [stored, TriggerStore.get?_recordSubmission_of_knows known]
  have gained : after.store.get? id = some (.ofSubmission id submission payload) := by
    rw [stored, TriggerStore.get?_recordSubmission new]
  refine
    { distinct := places ▸ before.distinct
      held := fun object signal member => ?_
      older := fun object signal vote found member => ?_
      single := by rw [submissions, List.length_singleton]
      carried := fun _ => ⟨.ofSubmission id submission payload, gained, aimed, carries⟩
      counted := ?_ }
  · obtain ⟨known, voted⟩ := before.held object signal (places ▸ member)
    obtain ⟨found, held⟩ := known
    have known : engine.store.Knows object := ⟨found, held⟩
    refine ⟨⟨found, (kept object known).trans held⟩, ?_⟩
    rw [stance_of_creation coherent afterCoherent missing known (kept object known), ← voted,
      TriggerStore.voteOf, TriggerStore.voteOf, votes]
  · exact before.older object signal vote (votes ▸ found) (places ▸ member)
  · rw [stored, TriggerStore.size_recordSubmission new, size, submissions, List.length_singleton]

omit afterCoherent in
/-- Where the log has a vote the outcome of the stance is held, and none is planned. -/
theorem place_notMem {vote : Vote}
    (member : vote ∈ engine.plannedVotes host target fingerprint identity) :
    vote.place ∉ log.filterMap Handover.place? := by
  intro voted
  have stance := takesStance_of_mem_plannedVotes coherent member
  have held := (before.held vote.object vote.signal voted).2
  exact stance.uncast (held.trans (congrArg some stance.outcome.symm))

/-- The planned votes are on new places, and later than what is held there. -/
theorem votes
    (stored : after.store =
      engine.store.recordVotes (engine.plannedVotes host target fingerprint identity))
    (cast : handovers.map Handover.vote? =
      (engine.plannedVotes host target fingerprint identity).map some) :
    after.Upholds host target fingerprint identity start (log ++ handovers) := by
  let votes := engine.plannedVotes host target fingerprint identity
  have places : (log ++ handovers).filterMap Handover.place? =
      log.filterMap Handover.place? ++ votes.map Vote.place := by
    rw [List.filterMap_append, Handover.filterMap_place?_of_votes cast]
  have submissions : (log ++ handovers).filterMap Handover.submission? =
      log.filterMap Handover.submission? := by
    rw [List.filterMap_append, Handover.filterMap_submission?_of_votes cast, List.append_nil]
  have objects : after.store.objects = engine.store.objects := by
    rw [stored, TriggerStore.recordVotes_eq]
  have lookup : after.store.get? = engine.store.get? := congrArg SortedMap.get? objects
  have knows : ∀ object, engine.store.Knows object → after.store.Knows object :=
    fun object ⟨found, held⟩ => ⟨found, lookup ▸ held⟩
  have funded : after.fundedName host target fingerprint =
      engine.fundedName host target fingerprint := fundedName_congr coherent afterCoherent objects
  refine
    { distinct := ?_
      held := fun object signal member => ?_
      older := fun object signal vote found member => ?_
      single := submissions ▸ before.single
      carried := fun some => ?_
      counted := ?_ }
  · rw [places]
    refine List.nodup_append.mpr ⟨before.distinct,
      nodup_plannedVotes coherent host target fingerprint identity, ?_⟩
    rintro place voted _ inside rfl
    obtain ⟨vote, member, rfl⟩ := List.mem_map.mp inside
    exact before.place_notMem coherent member voted
  · rw [funded, stored]
    by_cases inside : (object, signal) ∈ votes.map Vote.place
    · obtain ⟨vote, within, same⟩ := List.mem_map.mp inside
      obtain ⟨rfl, rfl⟩ := Prod.mk.inj same
      have stance := takesStance_of_mem_plannedVotes coherent within
      rw [← stance.outcome]
      exact ⟨stored ▸ knows _ stance.known, voteOf_of_planned coherent within fun held found =>
        before.older _ _ held found (before.place_notMem coherent within)⟩
    · rw [places] at member
      obtain ⟨known, voted⟩ := before.held object signal
        ((List.mem_append.mp member).resolve_right inside)
      refine ⟨stored ▸ knows object known, ?_⟩
      rw [← voted, TriggerStore.voteOf, get?_of_unplanned inside, TriggerStore.voteOf]
  · rw [places, List.mem_append, not_or] at member
    rw [stored, get?_of_unplanned member.2] at found
    exact before.older object signal vote found member.1
  · obtain ⟨object, stood, same⟩ := before.carried (submissions ▸ some)
    exact ⟨object, lookup ▸ stood, same⟩
  · rw [submissions, ← before.counted]
    exact congrArg SortedMap.size objects

end Upholds

end Kept

/-! ### Forced ticks -/

variable [Relay σ] {tip : ChainTip}

/-- The engine after some forced ticks. -/
def ticked (engine : Engine σ) (host : Host) : Nat → Engine σ
  | 0 => engine
  | count + 1 => (engine.ticked host count).perform host (.tick true)

/-- What the relay is handed in the tick that comes after some others. -/
def relayed (engine : Engine σ) (host : Host) (count : Nat) : List Handover :=
  (engine.ticked host count).handovers host (.tick true)

/-- What the relay is handed in the first ticks. -/
def relayedBefore (engine : Engine σ) (host : Host) (count : Nat) : List Handover :=
  (List.range count).flatMap (engine.relayed host)

theorem relayedBefore_succ (engine : Engine σ) (host : Host) (count : Nat) :
    engine.relayedBefore host (count + 1) =
      engine.relayedBefore host count ++ engine.relayed host count := by
  rw [relayedBefore, List.range_succ, List.flatMap_append]
  exact congrArg (engine.relayedBefore host count ++ ·) (List.append_nil _)

/-- A forced tick goes on, with a contract of this fingerprint for the target. -/
structure Ready (engine : Engine σ) (host : Host) (tip : ChainTip) (identity : Identity)
    (target : Height) (fingerprint : Fingerprint) : Prop where
  coherent : engine.store.Coherent engine.config.cadence
  passed : engine.passGates host true = .ok (tip, identity)
  next : (engine.config.cadence.around tip.height).2 = target
  own : engine.ownFingerprint host target = fingerprint

theorem Ready.perform (ready : engine.Ready host tip identity target fingerprint) :
    (engine.perform host (.tick true)).Ready host tip identity target fingerprint := by
  obtain ⟨store, relay, same⟩ := exists_tick_eq ready.passed
  have config : (engine.perform host (.tick true)).config = engine.config := by
    rw [same]
    exact config_prepared engine host tip.height
  refine
    { coherent := (deeds_perform ready.coherent (Call.names_any _)).coherent ready.coherent
      passed := (passGates_congr config host true).trans ready.passed
      next := by rw [config, ready.next]
      own := ?_ }
  rw [← ready.own, ownFingerprint, ownFingerprint, same, prepared, ready.next, buildContract_again]

theorem Ready.ticked (ready : engine.Ready host tip identity target fingerprint) (count : Nat) :
    (engine.ticked host count).Ready host tip identity target fingerprint := by
  induction count with
  | zero => exact ready
  | succ count inductionHypothesis => exact inductionHypothesis.perform

/-- Once a tick is silent, all that follow are. -/
theorem Ready.silent_from (ready : engine.Ready host tip identity target fingerprint) {quiet : Nat}
    (silent : engine.relayed host quiet = []) :
    ∀ later, quiet ≤ later → engine.relayed host later = [] := by
  intro later after
  induction later, after using Nat.le_induction with
  | base => exact silent
  | succ later _ inductionHypothesis =>
    exact silent_again (ready.ticked later).passed inductionHypothesis

theorem Upholds.perform {start : Nat} {log : List Handover}
    (before : engine.Upholds host target fingerprint identity start log)
    (ready : engine.Ready host tip identity target fingerprint)
    (taken : ∀ handover ∈ engine.handovers host (.tick true), handover.Taken engine.store) :
    (engine.perform host (.tick true)).Upholds host target fingerprint identity start
      (log ++ engine.handovers host (.tick true)) := by
  have effect := effect_tick ready.coherent ready.passed taken
  have after := ready.perform.coherent
  dsimp only at effect
  rw [ready.next, ready.own] at effect
  generalize engine.handovers host (.tick true) = handovers at effect ⊢
  generalize stored : (engine.perform host (.tick true)).store = store at effect
  cases effect with
  | rests =>
    rw [List.append_nil]
    exact before.rests ready.coherent after stored
  | creates missing new aimed carries =>
    exact before.creates ready.coherent after stored missing new aimed carries
  | votes cast => exact before.votes ready.coherent after stored cast

/-- Ticks uphold what they have handed over. -/
theorem upholds_ticked (ready : engine.Ready host tip identity target fingerprint)
    (taken : ∀ count, ∀ handover ∈ engine.relayed host count,
      handover.Taken (engine.ticked host count).store)
    (older : ∀ ballot vote, engine.store.votes.get? ballot = some vote →
      ballot.voter = identity → vote.timestamp < host.now) (count : Nat) :
    (engine.ticked host count).Upholds host target fingerprint identity engine.store.size
      (engine.relayedBefore host count) := by
  induction count with
  | zero => exact .nil older
  | succ count inductionHypothesis =>
    rw [relayedBefore_succ]
    exact inductionHypothesis.perform (ready.ticked count) (taken count)

/-- Ticks that are not silent hand over something each. -/
theorem le_length_relayedBefore {count : Nat}
    (busy : ∀ earlier < count, engine.relayed host earlier ≠ []) :
    count ≤ (engine.relayedBefore host count).length := by
  induction count with
  | zero => exact Nat.zero_le _
  | succ count inductionHypothesis =>
    have earlier := inductionHypothesis fun other below => busy other (Nat.lt_succ_of_lt below)
    have one := List.length_pos_of_ne_nil (busy count (Nat.lt_succ_self count))
    rw [relayedBefore_succ, List.length_append]
    omega

/-- Forced ticks at one host settle, when the relay takes everything, under names that are new, and
the own votes that are held are older than the clock. However many ticks there are, they create one
object at most and vote on no object and signal twice. Among the first ticks, two for each stored
object, two for one more and two more, one is silent, and so are all that follow it. -/
theorem ticks_settle {hosts : Set Host} (reached : Reachable hosts engine)
    (passed : engine.passGates host true = .ok (tip, identity))
    (taken : ∀ count, ∀ handover ∈ engine.relayed host count,
      handover.Taken (engine.ticked host count).store)
    (older : ∀ ballot vote, engine.store.votes.get? ballot = some vote →
      vote.voter = identity → vote.timestamp < host.now) :
    (∀ count, ((engine.relayedBefore host count).filterMap Handover.submission?).length ≤ 1 ∧
      ((engine.relayedBefore host count).filterMap Handover.place?).Nodup) ∧
    ∃ quiet < 2 * (engine.store.size + 1) + 2, ∀ later, quiet ≤ later →
      engine.relayed host later = [] := by
  have ready : engine.Ready host tip identity _ _ := ⟨reached.coherent, passed, rfl, rfl⟩
  have upholds := upholds_ticked ready taken fun ballot vote found own =>
    older ballot vote found
      ((congrArg Ballot.voter (reached.coherent.filed ballot vote found)).trans own)
  refine ⟨fun count => ⟨(upholds count).single, (upholds count).distinct⟩, ?_⟩
  by_contra unsettled
  have busy : ∀ earlier < 2 * (engine.store.size + 1) + 2, engine.relayed host earlier ≠ [] :=
    fun earlier below silent => unsettled ⟨earlier, below, ready.silent_from silent⟩
  have least := le_length_relayedBefore busy
  have most := (upholds (2 * (engine.store.size + 1) + 2)).length_le
  omega

end Engine

/-! ### A sample run of ticks -/

namespace SettlingRun

open VotingSample (fresh host)

theorem ready : fresh.Ready host (HostFixture.tipAt 1250) ⟨1⟩ 1300
    (fresh.ownFingerprint host 1300) where
  coherent := TriggerStore.coherent_empty
  passed := by decide +kernel
  next := by decide +kernel
  own := rfl

/-- The first tick creates an object, the second votes for it, and the third is silent. -/
theorem relayed_eq : ((fresh.relayedBefore host 2).filterMap Handover.submission?).length = 1 ∧
    (fresh.relayedBefore host 2).filterMap Handover.place? = [(1, .funding)] ∧
    (fresh.relayed host 2).length = 0 := by
  decide +kernel

theorem taken : ∀ count, ∀ handover ∈ fresh.relayed host count,
    handover.Taken (fresh.ticked host count).store := by
  have first : ∀ count < 2, ∀ handover ∈ fresh.relayed host count,
      handover.Taken (fresh.ticked host count).store := by
    decide +kernel
  intro count handover inside
  by_cases early : count < 2
  · exact first count early handover inside
  · have silent := List.length_eq_zero_iff.mp relayed_eq.2.2
    rw [ready.silent_from silent count (Nat.le_of_not_lt early)] at inside
    exact absurd inside List.not_mem_nil

end SettlingRun

open VotingSample SettlingRun in
/-- A node that knows nothing settles within four ticks, with an object and a vote for it. -/
theorem sample_ticks_settle :
    Engine.Reachable {host} fresh ∧
      (∀ count, ∀ handover ∈ fresh.relayed host count,
        handover.Taken (fresh.ticked host count).store) ∧
      ((fresh.relayedBefore host 2).filterMap Handover.submission?).length = 1 ∧
      (fresh.relayedBefore host 2).filterMap Handover.place? = [(1, .funding)] ∧
      ∃ quiet < 4, ∀ later, quiet ≤ later → fresh.relayed host later = [] := by
  have reached : Engine.Reachable {host} fresh := ⟨config, {}, .refl⟩
  have none : ∀ ballot vote, fresh.store.votes.get? ballot = some vote →
      vote.voter = ⟨1⟩ → vote.timestamp < host.now := by
    rintro ballot vote ⟨⟩
  obtain ⟨_, settled⟩ := Engine.ticks_settle reached ready.passed taken none
  obtain ⟨created, voted, _⟩ := relayed_eq
  exact ⟨reached, taken, created, voted, settled⟩

end SuperblockGovernance

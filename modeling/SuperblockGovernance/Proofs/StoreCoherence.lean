/-
The coherence of a trigger store. Objects stand under their own names, the height index
lists exactly them, all for superblock heights, and what is held or confirmed belongs to
an object that is stored. The store changes in few ways, each of which keeps it coherent,
so every store that an engine gets to is coherent whatever the order of the calls.
-/

import Mathlib.Data.List.Basic
import Mathlib.Logic.Relation
import SuperblockGovernance.Cadence
import SuperblockGovernance.Proofs.VoteTallies

namespace SuperblockGovernance

namespace TriggerStore

variable {store : TriggerStore}

/-! ### The height index -/

/-- The index lists the name for the height. -/
def Listed (byHeight : SortedMap Height (SortedSet ObjectId)) (height : Height) (id : ObjectId) :
    Prop :=
  ((byHeight.get? height).any fun ids => ids.contains id) = true

variable {byHeight : SortedMap Height (SortedSet ObjectId)} {height listed : Height}
variable {id other : ObjectId}

theorem mem_idsAt_iff : id ∈ store.idsAt height ↔ Listed store.byHeight height id := by
  rw [idsAt, Listed]
  cases store.byHeight.get? height with
  | none => simp
  | some ids =>
    rw [Option.map_some, Option.getD_some, SortedMap.mem_keys_iff, Option.any_some,
      SortedMap.contains_iff]

theorem listed_insert_iff {ids : SortedSet ObjectId} :
    Listed (byHeight.insert height ids) listed other ↔
      if listed = height then ids.contains other = true else Listed byHeight listed other := by
  rw [Listed, SortedMap.get?_insert]
  split
  · rw [Option.any_some]
  · rw [Listed]

theorem listed_alter_iff :
    Listed (byHeight.alter height fun ids => (ids.getD .empty).insert id ()) listed other ↔
      (listed = height ∧ other = id) ∨ Listed byHeight listed other := by
  rw [SortedMap.alter, listed_insert_iff]
  by_cases same : listed = height
  · subst same
    rw [if_pos rfl, SortedMap.contains_insert, and_iff_right rfl, Listed]
    refine or_congr_right ?_
    cases byHeight.get? listed with
    | none => rfl
    | some ids => rfl
  · rw [if_neg same]
    exact (or_iff_right fun both => same both.1).symm

theorem unlist_of_some {ids : SortedSet ObjectId} (found : byHeight.get? height = some ids) :
    unlist byHeight height id =
      if (ids.erase id).isEmpty then byHeight.erase height
      else byHeight.insert height (ids.erase id) := by
  rw [unlist, found]

theorem listed_unlist_iff :
    Listed (unlist byHeight height id) listed other ↔
      Listed byHeight listed other ∧ ¬(listed = height ∧ other = id) := by
  cases found : byHeight.get? height with
  | none =>
    rw [unlist, found]
    refine (and_iff_left_of_imp ?_).symm
    rintro inside ⟨rfl, _⟩
    rw [Listed, found] at inside
    cases inside
  | some ids =>
    rw [unlist_of_some found]
    by_cases same : listed = height
    · subst same
      have inside : Listed byHeight listed other ↔ ids.contains other = true := by
        rw [Listed, found, Option.any_some]
      rw [inside, and_iff_right rfl, and_comm, ← SortedMap.contains_erase]
      split
      · rename_i emptied
        rw [Listed, SortedMap.get?_erase, if_pos rfl, SortedMap.isEmpty_iff.mp emptied other]
        rfl
      · rw [listed_insert_iff, if_pos rfl]
    · rw [and_iff_left fun both => same both.1]
      split
      · rw [Listed, SortedMap.get?_erase, if_neg same, Listed]
      · rw [listed_insert_iff, if_neg same]

theorem listed_filter_iff :
    Listed (byHeight.filter fun found _ => height ≤ found) listed other ↔
      Listed byHeight listed other ∧ height ≤ listed := by
  rw [Listed, SortedMap.get?_filter, Listed]
  cases byHeight.get? listed with
  | none => simp
  | some ids => by_cases kept : height ≤ listed <;> simp [kept]

theorem mem_idsBelow_iff :
    id ∈ store.idsBelow height ↔ ∃ listed < height, Listed store.byHeight listed id := by
  rw [idsBelow, List.mem_flatMap]
  constructor
  · rintro ⟨ids, member, inside⟩
    obtain ⟨listed, found⟩ := SortedMap.mem_values_iff.mp member
    rw [SortedMap.get?_filter, Option.filter_eq_some_iff] at found
    refine ⟨listed, of_decide_eq_true found.2, ?_⟩
    rw [Listed, found.1, Option.any_some]
    exact SortedMap.contains_iff.mpr (SortedMap.mem_keys_iff.mp inside)
  · rintro ⟨listed, below, inside⟩
    obtain ⟨ids, found, within⟩ := (Option.any_eq_true _ _).mp inside
    refine ⟨ids, SortedMap.mem_values_iff.mpr ⟨listed, ?_⟩, ?_⟩
    · rw [SortedMap.get?_filter, found]
      exact if_pos (decide_eq_true below)
    · exact SortedMap.mem_keys_iff.mpr (SortedMap.contains_iff.mp within)

/-! ### Coherence -/

/-- An object of that name is stored. -/
def Knows (store : TriggerStore) (id : ObjectId) : Prop :=
  ∃ object, store.get? id = some object

/-- The parts of a store agree with each other. -/
structure Coherent (cadence : Cadence) (store : TriggerStore) : Prop where
  named : ∀ id object, store.get? id = some object → object.id = id
  scheduled : ∀ id object, store.get? id = some object → cadence.IsSuperblock object.targetHeight
  /-- The index lists the stored objects for a height. -/
  indexed : ∀ height id, Listed store.byHeight height id ↔
    ∃ object, store.get? id = some object ∧ object.targetHeight = height
  /-- A height without objects is not in the index. -/
  inhabited : ∀ height ids, store.byHeight.get? height = some ids → ids.isEmpty = false
  filed : store.VotesFiled
  concerned : ∀ ballot vote, store.votes.get? ballot = some vote → store.Knows ballot.object
  marked : ∀ id, store.isConfirmed id = true → store.Knows id

variable {cadence : Cadence}

theorem coherent_empty : Coherent cadence .empty where
  named _ _ found := by cases found
  scheduled _ _ found := by cases found
  indexed _ _ := iff_of_false Bool.false_ne_true fun ⟨_, found, _⟩ => by cases found
  inhabited _ _ found := by cases found
  filed _ _ found := by cases found
  concerned _ _ found := by cases found
  marked _ inside := by cases inside

/-! ### Objects that come and go -/

/-- An object that is stored after one was taken in was stored before, or is that one. -/
theorem get?_of_insert {added object : TriggerObject}
    (held : (store.insert added).2.get? id = some object) :
    store.get? id = some object ∨ object = added ∧ id = added.id := by
  rw [insert] at held
  split at held
  · exact Or.inl held
  · have lookup : (if id = added.id then some added else store.get? id) = some object :=
      (SortedMap.get?_insert _ _ _ _).symm.trans held
    split at lookup
    · rename_i same
      cases lookup
      exact Or.inr ⟨rfl, same⟩
    · exact Or.inl lookup

/-- A name that is known keeps its object when others are taken in. -/
theorem get?_insert_of_knows {id : ObjectId} (known : store.Knows id) (added : TriggerObject) :
    (store.insert added).2.get? id = store.get? id := by
  obtain ⟨found, held⟩ := known
  rw [insert]
  split
  · rfl
  · rename_i unknown
    refine (SortedMap.get?_insert _ _ _ _).trans (if_neg fun same => ?_)
    rw [← same] at unknown
    exact unknown (SortedMap.contains_iff.mpr ⟨found, held⟩)

theorem isNew_insert {object : TriggerObject} :
    (store.insert object).1 = (store.get? object.id).isNone := by
  have known : store.objects.contains object.id = (store.get? object.id).isSome := rfl
  rw [insert, known]
  cases store.get? object.id <;> rfl

/-- An object that is taken in is stored, when it is the only one that can have its name. -/
theorem get?_insert_self {object : TriggerObject}
    (alone : ∀ found, store.get? object.id = some found → found = object) :
    (store.insert object).2.get? object.id = some object := by
  cases known : store.get? object.id with
  | some found =>
    obtain rfl := alone found known
    exact (get?_insert_of_knows ⟨found, known⟩ found).trans known
  | none =>
    have absent : store.objects.contains object.id = false :=
      SortedMap.contains_eq_false_iff.mpr known
    rw [insert, if_neg (Bool.eq_false_iff.mp absent)]
    exact (SortedMap.get?_insert _ _ _ _).trans (if_pos rfl)

theorem votes_insert (store : TriggerStore) (added : TriggerObject) :
    (store.insert added).2.votes = store.votes := by
  rw [insert]
  split <;> rfl

theorem inhabited_alter
    (inhabited : ∀ height ids, byHeight.get? height = some ids → ids.isEmpty = false) :
    ∀ height ids, (byHeight.alter listed fun ids => (ids.getD .empty).insert id ()).get? height =
      some ids → ids.isEmpty = false := by
  intro height ids held
  rw [SortedMap.get?_alter] at held
  split at held
  · cases held
    refine Bool.eq_false_iff.mpr fun empty => ?_
    have absence := SortedMap.isEmpty_iff.mp empty id
    rw [Bool.eq_false_iff, Ne, SortedMap.contains_insert] at absence
    exact absence (Or.inl rfl)
  · exact inhabited height ids held

theorem Coherent.insert (coherent : store.Coherent cadence) {object : TriggerObject}
    (scheduled : cadence.IsSuperblock object.targetHeight) :
    (store.insert object).2.Coherent cadence := by
  rw [TriggerStore.insert]
  split
  · exact coherent
  rename_i unknown
  have absent : store.get? object.id = none :=
    SortedMap.contains_eq_false_iff.mp (Bool.eq_false_iff.mpr unknown)
  have lookup : ∀ id, (store.objects.insert object.id object).get? id =
      if id = object.id then some object else store.get? id :=
    fun id => SortedMap.get?_insert store.objects object.id id object
  have kept : ∀ id found, store.get? id = some found →
      (store.objects.insert object.id object).get? id = some found := by
    intro id found held
    have differs : id ≠ object.id := fun same => by
      rw [same, absent] at held
      cases held
    rw [lookup, if_neg differs, held]
  refine
    { named := fun id found held => ?_
      scheduled := fun id found held => ?_
      indexed := fun height id => ?_
      inhabited := fun height ids held => ?_
      filed := coherent.filed
      concerned := fun ballot vote held => ?_
      marked := fun id inside => ?_ }
  · rw [TriggerStore.get?, lookup] at held
    split at held
    · rename_i same
      cases held
      exact same.symm
    · exact coherent.named id found held
  · rw [TriggerStore.get?, lookup] at held
    split at held
    · cases held
      exact scheduled
    · exact coherent.scheduled id found held
  · rw [listed_alter_iff, coherent.indexed]
    show _ ↔ ∃ found, (store.objects.insert object.id object).get? id = some found ∧ _
    rw [lookup]
    by_cases same : id = object.id
    · rw [if_pos same, same, absent]
      simp [eq_comm]
    · rw [if_neg same]
      simp [same]
  · exact inhabited_alter coherent.inhabited height ids held
  · obtain ⟨found, known⟩ := coherent.concerned ballot vote held
    exact ⟨found, kept _ _ known⟩
  · obtain ⟨found, known⟩ := coherent.marked id inside
    exact ⟨found, kept _ _ known⟩

theorem get?_dropObjects {dropped : ObjectId → Bool} {object : TriggerObject} :
    (store.dropObjects dropped).get? id = some object ↔
      store.get? id = some object ∧ dropped id = false := by
  rw [TriggerStore.get?, dropObjects, SortedMap.get?_filter, Option.filter_eq_some_iff,
    Bool.not_eq_true', TriggerStore.get?]

theorem isConfirmed_dropObjects_iff {dropped : ObjectId → Bool} :
    (store.dropObjects dropped).isConfirmed id = true ↔
      store.isConfirmed id = true ∧ dropped id = false := by
  rw [isConfirmed, isConfirmed, SortedMap.contains_iff, SortedMap.contains_iff, dropObjects]
  simp only [SortedMap.get?_filter, Option.filter_eq_some_iff, Bool.not_eq_true', exists_and_right]

/-- Objects go together with their votes and confirmations, and with their places in the index. -/
theorem Coherent.drop (coherent : store.Coherent cadence) {dropped : ObjectId → Bool}
    {byHeight : SortedMap Height (SortedSet ObjectId)}
    (relisted : ∀ height id, Listed byHeight height id ↔
      Listed store.byHeight height id ∧ dropped id = false)
    (inhabited : ∀ height ids, byHeight.get? height = some ids → ids.isEmpty = false) :
    Coherent cadence { store.dropObjects dropped with byHeight } := by
  have lookup : ∀ id object, ({ store.dropObjects dropped with byHeight } : TriggerStore).get? id =
      some object ↔ store.get? id = some object ∧ dropped id = false :=
    fun _ _ => get?_dropObjects
  refine
    { named := fun id object held => coherent.named id object ((lookup id object).mp held).1
      scheduled := fun id object held => coherent.scheduled id object ((lookup id object).mp held).1
      indexed := fun height id => ?_
      inhabited
      filed := fun ballot vote held => ?_
      concerned := fun ballot vote held => ?_
      marked := fun id inside => ?_ }
  · rw [relisted, coherent.indexed]
    simp only [lookup]
    exact ⟨fun ⟨⟨object, held, target⟩, kept⟩ => ⟨object, ⟨held, kept⟩, target⟩,
      fun ⟨object, ⟨held, kept⟩, target⟩ => ⟨⟨object, held, target⟩, kept⟩⟩
  · rw [dropObjects, SortedMap.get?_filter, Option.filter_eq_some_iff] at held
    exact coherent.filed ballot vote held.1
  · rw [dropObjects, SortedMap.get?_filter, Option.filter_eq_some_iff, Bool.not_eq_true'] at held
    obtain ⟨object, known⟩ := coherent.concerned ballot vote held.1
    exact ⟨object, (lookup _ _).mpr ⟨known, held.2⟩⟩
  · obtain ⟨marked, kept⟩ := isConfirmed_dropObjects_iff.mp inside
    obtain ⟨object, known⟩ := coherent.marked id marked
    exact ⟨object, (lookup _ _).mpr ⟨known, kept⟩⟩

/-- The time of the last submission plays no part. -/
theorem Coherent.remember (coherent : store.Coherent cadence)
    (last : Option (Timestamp × ObjectId)) :
    Coherent cadence { store with lastSubmission := last } :=
  { coherent with }

theorem inhabited_unlist
    (inhabited : ∀ height ids, byHeight.get? height = some ids → ids.isEmpty = false) :
    ∀ height ids, (unlist byHeight listed id).get? height = some ids → ids.isEmpty = false := by
  intro height ids held
  cases found : byHeight.get? listed with
  | none =>
    rw [unlist, found] at held
    exact inhabited height ids held
  | some before =>
    rw [unlist_of_some found] at held
    split at held
    · rw [SortedMap.get?_erase] at held
      split at held
      · cases held
      · exact inhabited height ids held
    · rename_i left
      rw [SortedMap.get?_insert] at held
      split at held
      · cases held
        exact Bool.eq_false_iff.mpr left
      · exact inhabited height ids held

/-- Forgetting an object that is known, once the rate limit is settled. -/
theorem Coherent.forget (coherent : store.Coherent cadence) (id : ObjectId) :
    TriggerStore.Coherent cadence (match store.get? id with
      | none => (false, store)
      | some object => (true, { store.dropObjects (· == id) with
          byHeight := unlist store.byHeight object.targetHeight id })).2 := by
  cases found : store.get? id with
  | none => exact coherent
  | some object =>
    refine coherent.drop (fun height other => ?_) (inhabited_unlist coherent.inhabited)
    rw [listed_unlist_iff]
    refine and_congr_right fun inside => ?_
    rw [beq_eq_false_iff_ne]
    refine not_congr (and_iff_right_of_imp fun same => ?_)
    obtain ⟨known, held, target⟩ := (coherent.indexed height other).mp inside
    rw [same, found] at held
    cases held
    exact target.symm

theorem Coherent.retractObject (coherent : store.Coherent cadence) (id : ObjectId) :
    (store.retractObject id).2.Coherent cadence := by
  rw [TriggerStore.retractObject]
  refine Coherent.forget ?_ id
  split
  · exact coherent.remember none
  · exact coherent

/-- A stored object is listed below a bound exactly when its target is. -/
theorem Coherent.mem_idsBelow_iff (coherent : store.Coherent cadence) {object : TriggerObject}
    (held : store.get? id = some object) :
    id ∈ store.idsBelow height ↔ object.targetHeight < height := by
  rw [TriggerStore.mem_idsBelow_iff]
  constructor
  · rintro ⟨listed, below, inside⟩
    obtain ⟨again, heldAgain, target⟩ := (coherent.indexed listed id).mp inside
    rw [held] at heldAgain
    cases heldAgain
    rw [target]
    exact below
  · exact fun below => ⟨_, below, (coherent.indexed _ id).mpr ⟨object, held, rfl⟩⟩

theorem Coherent.prune (coherent : store.Coherent cadence) (height : Height) :
    (store.prune height).2.Coherent cadence := by
  refine coherent.drop (fun listed id => ?_) fun listed ids held => ?_
  · rw [listed_filter_iff]
    refine and_congr_right fun inside => ?_
    obtain ⟨object, held, rfl⟩ := (coherent.indexed listed id).mp inside
    rw [Bool.eq_false_iff, Ne, List.contains_iff_mem, coherent.mem_idsBelow_iff held]
    exact UInt32.not_lt.symm
  · rw [SortedMap.get?_filter, Option.filter_eq_some_iff] at held
    exact coherent.inhabited listed ids held.1

/-! ### Votes and confirmations -/

theorem Coherent.recordVote (coherent : store.Coherent cadence) {vote : Vote}
    (known : store.Knows vote.object) : (store.recordVote vote).2.Coherent cadence := by
  rw [TriggerStore.recordVote]
  split
  · refine
      { coherent with
        filed := fun ballot held found => ?_
        concerned := fun ballot held found => ?_ }
    · rw [SortedMap.get?_insert] at found
      split at found
      · rename_i same
        cases found
        exact same.symm
      · exact coherent.filed ballot held found
    · rw [SortedMap.get?_insert] at found
      split at found
      · rename_i same
        subst same
        exact known
      · exact coherent.concerned ballot held found
  · exact coherent

theorem Coherent.retractVote (coherent : store.Coherent cadence) (vote : Vote) :
    (store.retractVote vote).2.Coherent cadence := by
  rw [TriggerStore.retractVote]
  split
  · refine
      { coherent with
        filed := fun ballot held found => ?_
        concerned := fun ballot held found => ?_ }
    · rw [SortedMap.get?_erase] at found
      split at found
      · cases found
      · exact coherent.filed ballot held found
    · rw [SortedMap.get?_erase] at found
      split at found
      · cases found
      · exact coherent.concerned ballot held found
  · exact coherent

theorem mem_matching_iff {fingerprint : Fingerprint} :
    id ∈ store.matching height fingerprint ↔ Listed store.byHeight height id ∧
      ∃ object, store.get? id = some object ∧ object.fingerprint = fingerprint := by
  rw [matching, List.mem_filter, mem_idsAt_iff, Option.any_eq_true]
  simp only [beq_iff_eq]

theorem isConfirmed_confirm_iff {fingerprint : Fingerprint} :
    (store.confirm height fingerprint).2.isConfirmed id = true ↔
      id ∈ store.matching height fingerprint ∨ store.isConfirmed id = true :=
  SortedMap.contains_foldl_insert _ _ _

theorem Coherent.confirm (coherent : store.Coherent cadence) (height : Height)
    (fingerprint : Fingerprint) : (store.confirm height fingerprint).2.Coherent cadence := by
  refine { coherent with marked := fun id inside => ?_ }
  rcases isConfirmed_confirm_iff.mp inside with matched | before
  · obtain ⟨_, object, known, _⟩ := mem_matching_iff.mp matched
    exact ⟨object, known⟩
  · exact coherent.marked id before

/-! ### Changes -/

/-- One change of a store: an object is taken in or forgotten, a vote held or forgotten, a
submission remembered, a fingerprint confirmed, or old objects are pruned. -/
inductive Change (cadence : Cadence) (store : TriggerStore) : TriggerStore → Prop
  | insert {object : TriggerObject} (scheduled : cadence.IsSuperblock object.targetHeight) :
      Change cadence store (store.insert object).2
  | retractObject (id : ObjectId) : Change cadence store (store.retractObject id).2
  | recordVote {vote : Vote} (known : store.Knows vote.object) :
      Change cadence store (store.recordVote vote).2
  | retractVote (vote : Vote) : Change cadence store (store.retractVote vote).2
  | remember (last : Option (Timestamp × ObjectId)) :
      Change cadence store { store with lastSubmission := last }
  | confirm (height : Height) (fingerprint : Fingerprint) :
      Change cadence store (store.confirm height fingerprint).2
  | prune (height : Height) : Change cadence store (store.prune height).2

/-- Any number of changes, one after the other. -/
abbrev Changes (cadence : Cadence) : TriggerStore → TriggerStore → Prop :=
  Relation.ReflTransGen (Change cadence)

theorem Coherent.change (coherent : store.Coherent cadence) {after : TriggerStore}
    (change : Change cadence store after) : after.Coherent cadence := by
  cases change with
  | insert scheduled => exact coherent.insert scheduled
  | retractObject id => exact coherent.retractObject id
  | recordVote known => exact coherent.recordVote known
  | retractVote vote => exact coherent.retractVote vote
  | remember last => exact coherent.remember last
  | confirm height fingerprint => exact coherent.confirm height fingerprint
  | prune height => exact coherent.prune height

theorem Coherent.changes (coherent : store.Coherent cadence) {after : TriggerStore}
    (changes : Changes cadence store after) : after.Coherent cadence := by
  induction changes with
  | refl => exact coherent
  | tail _ change inductionHypothesis => exact inductionHypothesis.change change

section Submissions

variable {σ : Type} [Relay σ]

/-- A submission comes too early, is refused by the relay, or is recorded under the name that the
relay gives it. -/
theorem submit_cases (store : TriggerStore) (relay : σ) (limit : UInt64)
    (payload : TriggerPayload) (submission : Submission) :
    let waiting := store.waitFor limit submission.creationTime
    let submitted := store.submit relay limit payload submission
    (∃ seconds, waiting = some seconds ∧
      submitted = (.error (.rateLimited seconds), store, relay)) ∨
    (∃ cause after, waiting = none ∧ Relay.submitObject relay submission = (.error cause, after) ∧
      submitted = (.error (.network cause), store, after)) ∨
    ∃ id after, waiting = none ∧ Relay.submitObject relay submission = (.ok id, after) ∧
      submitted = (.ok id, store.recordSubmission id submission payload, after) := by
  unfold submit
  cases store.waitFor limit submission.creationTime with
  | some seconds => exact Or.inl ⟨seconds, rfl, rfl⟩
  | none =>
    rcases Relay.submitObject relay submission with ⟨cause | id, after⟩
    · exact Or.inr (Or.inl ⟨cause, after, rfl, rfl, rfl⟩)
    · exact Or.inr (Or.inr ⟨id, after, rfl, rfl, rfl⟩)

/-- A submission that the relay takes is remembered and its object taken in. -/
theorem changes_submit (store : TriggerStore) (relay : σ) (limit : UInt64)
    {payload : TriggerPayload} (submission : Submission)
    (scheduled : cadence.IsSuperblock payload.eventHeight) :
    Changes cadence store (store.submit relay limit payload submission).2.1 := by
  rcases store.submit_cases relay limit payload submission with
    ⟨_, _, same⟩ | ⟨_, _, _, _, same⟩ | ⟨_, _, _, _, same⟩
  · rw [same]
  · rw [same]
  · rw [same]
    exact .tail (.single (.remember _)) (.insert scheduled)

end Submissions

/-! ### Objects at a height -/

/-- The objects for a height are the stored ones with that target. -/
theorem Coherent.mem_objectsAt_iff (coherent : store.Coherent cadence) {object : TriggerObject} :
    object ∈ store.objectsAt height ↔
      store.get? object.id = some object ∧ object.targetHeight = height := by
  rw [objectsAt, List.mem_filterMap]
  simp only [mem_idsAt_iff, coherent.indexed]
  constructor
  · rintro ⟨id, ⟨listed, found, target⟩, held⟩
    rw [held] at found
    cases found
    rw [coherent.named id object held]
    exact ⟨held, target⟩
  · rintro ⟨held, target⟩
    exact ⟨object.id, ⟨object, held, target⟩, held⟩

/-- Stores that agree on the objects for a height list them alike. -/
theorem Coherent.objectsAt_eq {other : TriggerStore} (coherent : store.Coherent cadence)
    (otherCoherent : other.Coherent cadence)
    (alike : ∀ id object, object.targetHeight = height →
      (store.get? id = some object ↔ other.get? id = some object)) :
    store.objectsAt height = other.objectsAt height := by
  have listed : ∀ id, Listed store.byHeight height id ↔ Listed other.byHeight height id := by
    intro id
    rw [coherent.indexed, otherCoherent.indexed]
    exact exists_congr fun object =>
      and_congr_left fun target => alike id object target
  have asSet : ∀ store : TriggerStore,
      store.idsAt height = ((store.byHeight.get? height).getD .empty).keys := by
    intro store
    rw [idsAt]
    cases store.byHeight.get? height <;> rfl
  have names : store.idsAt height = other.idsAt height := by
    rw [asSet, asSet]
    refine congrArg SortedMap.keys (SortedMap.eq_of_contains fun id => ?_)
    rw [SortedMap.contains_iff, SortedMap.contains_iff, ← SortedMap.mem_keys_iff,
      ← SortedMap.mem_keys_iff, ← asSet, ← asSet, mem_idsAt_iff, mem_idsAt_iff]
    exact listed id
  rw [objectsAt, objectsAt, names]
  refine List.filterMap_congr fun id member => ?_
  obtain ⟨object, found, target⟩ :=
    (otherCoherent.indexed height id).mp (mem_idsAt_iff.mp member)
  rw [found, (alike id object target).mpr found]

end TriggerStore

end SuperblockGovernance

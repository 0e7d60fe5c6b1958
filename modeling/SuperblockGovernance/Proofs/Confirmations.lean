/-
Confirmations. A block that pays the triggered contract marks every object that carries its
fingerprint at the height. Calls keep the marks, with the objects that bear them, until an
object at the height is retracted or the height is pruned. The state of the fingerprint,
though, is read off the mark of the object that is elected at the moment: it is confirmed as
long as a marked object is elected, and later votes or objects may elect another one, or none.
-/

import SuperblockGovernance.Proofs.TriggeredContracts

namespace SuperblockGovernance

/-! ### Objects and marks that stay -/

namespace TriggerStore

variable {first second third store : TriggerStore} {cadence : Cadence} {height : Height}

theorem Coherent.contains_idsBelow (coherent : store.Coherent cadence) {id : ObjectId}
    {object : TriggerObject} (held : store.get? id = some object) {bound : Height}
    (within : bound ≤ object.targetHeight) : (store.idsBelow bound).contains id = false := by
  rw [Bool.eq_false_iff, Ne, List.contains_iff_mem, coherent.mem_idsBelow_iff held]
  exact UInt32.not_lt.mpr within

/-- The objects for a height stay stored, and those that are marked stay marked. -/
structure KeepsAt (height : Height) (before after : TriggerStore) : Prop where
  objects : ∀ id object, object.targetHeight = height → before.get? id = some object →
    after.get? id = some object
  marks : ∀ id object, object.targetHeight = height → before.get? id = some object →
    before.isConfirmed id = true → after.isConfirmed id = true

namespace KeepsAt

theorem refl (store : TriggerStore) : KeepsAt height store store where
  objects _ _ _ held := held
  marks _ _ _ _ marked := marked

theorem trans (one : KeepsAt height first second) (other : KeepsAt height second third) :
    KeepsAt height first third where
  objects id object target held :=
    other.objects id object target (one.objects id object target held)
  marks id object target held marked :=
    other.marks id object target (one.objects id object target held)
      (one.marks id object target held marked)

theorem of_store (same : second = first) : KeepsAt height first second := by
  rw [same]
  exact refl first

/-- Votes and submissions play no part. -/
theorem of_eq (objects : second.objects = first.objects)
    (marks : second.confirmed = first.confirmed) : KeepsAt height first second where
  objects id object _ held := by rwa [get?, objects]
  marks id object _ _ marked := by rwa [isConfirmed, marks]

theorem insert (store : TriggerStore) (object : TriggerObject) :
    KeepsAt height store (store.insert object).2 := by
  rw [TriggerStore.insert]
  split
  · exact refl store
  · rename_i unknown
    refine ⟨fun id found _ held => ?_, fun _ _ _ _ marked => marked⟩
    have differs : id ≠ object.id := fun same =>
      unknown (SortedMap.contains_iff.mpr ⟨found, same ▸ held⟩)
    rw [get?, SortedMap.get?_insert, if_neg differs]
    exact held

theorem recordVote (store : TriggerStore) (vote : Vote) :
    KeepsAt height store (store.recordVote vote).2 := by
  rw [TriggerStore.recordVote]
  split
  · exact of_eq rfl rfl
  · exact refl store

theorem retractVote (store : TriggerStore) (vote : Vote) :
    KeepsAt height store (store.retractVote vote).2 := by
  rw [TriggerStore.retractVote]
  split
  · exact of_eq rfl rfl
  · exact refl store

theorem submit {σ : Type} [Relay σ] (store : TriggerStore) (relay : σ) (limit : UInt64)
    (payload : TriggerPayload) (submission : Submission) :
    KeepsAt height store (store.submit relay limit payload submission).2.1 := by
  rcases store.submit_cases relay limit payload submission with
    ⟨_, _, same⟩ | ⟨_, _, _, _, same⟩ | ⟨id, _, _, _, same⟩
  · rw [same]
    exact refl store
  · rw [same]
    exact refl store
  · rw [same]
    have remembered : KeepsAt height store
        { store with lastSubmission := some (submission.creationTime, id) } := of_eq rfl rfl
    exact remembered.trans (insert _ (.ofSubmission id submission payload))

theorem confirm (store : TriggerStore) (block : Height) (fingerprint : Fingerprint) :
    KeepsAt height store (store.confirm block fingerprint).2 where
  objects _ _ _ held := held
  marks _ _ _ _ marked := isConfirmed_confirm_iff.mpr (Or.inr marked)

theorem dropObjects {dropped : ObjectId → Bool}
    (spared : ∀ id object, object.targetHeight = height → store.get? id = some object →
      dropped id = false) :
    KeepsAt height store (store.dropObjects dropped) where
  objects id object target held := get?_dropObjects.mpr ⟨held, spared id object target held⟩
  marks id object target held marked :=
    isConfirmed_dropObjects_iff.mpr ⟨marked, spared id object target held⟩

/-- Forgetting an object for another height. -/
theorem forget {id : ObjectId}
    (elsewhere : ∀ object, store.get? id = some object → object.targetHeight ≠ height) :
    KeepsAt height store (match store.get? id with
      | none => (false, store)
      | some object => (true, { store.dropObjects (· == id) with
          byHeight := unlist store.byHeight object.targetHeight id })).2 := by
  cases found : store.get? id with
  | none => exact refl store
  | some object =>
    have others : KeepsAt height store (store.dropObjects (· == id)) := by
      refine dropObjects fun other kept target held => beq_eq_false_iff_ne.mpr fun same => ?_
      exact elsewhere kept (same ▸ held) target
    exact others.trans (of_eq rfl rfl)

theorem retractObject {id : ObjectId}
    (elsewhere : ∀ object, store.get? id = some object → object.targetHeight ≠ height) :
    KeepsAt height store (store.retractObject id).2 := by
  rw [TriggerStore.retractObject]
  refine KeepsAt.trans ?_ (forget fun object held => elsewhere object ?_)
  · split
    · exact of_eq rfl rfl
    · exact refl store
  · split at held
    · exact held
    · exact held

/-- Pruning up to the height. -/
theorem prune (coherent : store.Coherent cadence) {bound : Height} (within : bound ≤ height) :
    KeepsAt height store (store.prune bound).2 := by
  have others : KeepsAt height store
      (store.dropObjects ((store.idsBelow bound).contains ·)) := by
    refine dropObjects fun id object target held => ?_
    exact coherent.contains_idsBelow held (target ▸ within)
  exact others.trans (of_eq rfl rfl)

end KeepsAt

end TriggerStore

namespace Engine

variable {σ : Type} {engine : Engine σ} {host : Host} {height : Height}

/-! ### Calls that spare a height -/

/-- The call retracts no object for the height and prunes only below it. -/
def Spares (engine : Engine σ) (height : Height) : Call → Prop
  | .retractObject id => ∀ object, engine.store.get? id = some object →
      object.targetHeight ≠ height
  | .connectBlock block _ => block.toNat ≤ height.toNat + engine.retention
  | _ => True

theorem keepsAt_castVotes [Relay σ] (engine : Engine σ) (host : Host) (identity : Identity)
    (intents : List VoteIntent) :
    TriggerStore.KeepsAt height engine.store
      (engine.castVotes host identity intents).engine.store := by
  refine castVotes_invariant (fun after => TriggerStore.KeepsAt height engine.store after.store)
    (fun before kept intent _ => ?_) (.refl _)
  rcases store_castVote before host identity intent with held | refused
  · rw [held]
    exact kept.trans (.recordVote _ _)
  · rw [refused]
    exact kept

theorem keepsAt_receiveObject (engine : Engine σ) (host : Host) (id : ObjectId)
    (submission : Submission) :
    TriggerStore.KeepsAt height engine.store (engine.receiveObject host id submission).2.store := by
  rw [receiveObject]
  split
  · exact .refl _
  · exact .insert _ _

theorem keepsAt_receiveVote (engine : Engine σ) (host : Host) (vote : Vote) :
    TriggerStore.KeepsAt height engine.store (engine.receiveVote host vote).2.store := by
  rw [receiveVote]
  split
  · exact .refl _
  · exact .recordVote _ _

theorem store_decide (engine : Engine σ) (host : Host) (tip : Height)
    (identity : Identity) : (engine.decide host tip identity).2.2.store = engine.store := by
  have store := store_buildContract engine host (engine.config.cadence.around tip).2 true
  rcases engine.decide_cases host tip identity with ⟨_, _, _, rests⟩ | ⟨_, _, _, decided⟩
  · rw [rests]
    exact store
  · rw [decided]
    exact store

theorem keepsAt_act [Relay σ] (identity : Identity) (report : TickReport) (action : TickAction) :
    TriggerStore.KeepsAt height engine.store (engine.act host identity report action).2.store := by
  cases action with
  | submit payload => exact .submit _ _ _ _ _
  | vote intents =>
    rw [act]
    split
    · exact keepsAt_castVotes engine host identity intents
    · exact keepsAt_castVotes engine host identity intents
  | rest => exact .refl _

/-- A paid contract is marked, and nothing else changes. -/
theorem exists_confirmed_confirmPaid (engine : Engine σ) (host : Host) (block : Height)
    (coinbase : List CoinbaseOutput) :
    ∃ confirmed, engine.confirmPaid host block coinbase = { engine.store with confirmed } := by
  rw [confirmPaid]
  split
  · exact ⟨_, rfl⟩
  split
  · exact ⟨_, rfl⟩
  · exact ⟨_, rfl⟩

theorem keepsAt_confirmPaid (engine : Engine σ) (host : Host) (block : Height)
    (coinbase : List CoinbaseOutput) :
    TriggerStore.KeepsAt height engine.store (engine.confirmPaid host block coinbase) := by
  rw [confirmPaid]
  split
  · exact .refl _
  split
  · exact .confirm _ _ _
  · exact .refl _

/-- A block that is connected confirms, and then prunes what is older than the retention. -/
theorem store_connectBlock (engine : Engine σ) (host : Host) (block : Height)
    (coinbase : List CoinbaseOutput) :
    (engine.connectBlock host block coinbase).store = engine.confirmPaid host block coinbase ∨
      ∃ bound : Height, bound.toNat + engine.retention = block.toNat ∧
        (engine.connectBlock host block coinbase).store =
          ((engine.confirmPaid host block coinbase).prune bound).2 := by
  rw [connectBlock]
  split
  · have fits : block.toNat - engine.retention < 2 ^ 32 :=
      Nat.lt_of_le_of_lt (Nat.sub_le _ _) block.toNat_lt
    refine Or.inr ⟨UInt32.ofNat (block.toNat - engine.retention), ?_, rfl⟩
    rw [UInt32.toNat_ofNat_of_lt' fits]
    omega
  · exact Or.inl rfl

theorem config_connectBlock (engine : Engine σ) (host : Host) (block : Height)
    (coinbase : List CoinbaseOutput) :
    (engine.connectBlock host block coinbase).config = engine.config := by
  rw [connectBlock]
  split <;> rfl

theorem coherent_confirmPaid [Relay σ] (coherent : engine.store.Coherent engine.config.cadence)
    (host : Host) (block : Height) (coinbase : List CoinbaseOutput) :
    (engine.confirmPaid host block coinbase).Coherent engine.config.cadence :=
  (deeds_confirmPaid engine host block coinbase).coherent coherent

/-- What a block confirmed stays, with everything else at a height that it does not prune. -/
theorem keepsAt_connected [Relay σ] (coherent : engine.store.Coherent engine.config.cadence)
    (host : Host) {block : Height} (above : block.toNat ≤ height.toNat + engine.retention)
    (coinbase : List CoinbaseOutput) :
    TriggerStore.KeepsAt height (engine.confirmPaid host block coinbase)
      (engine.connectBlock host block coinbase).store := by
  rcases engine.store_connectBlock host block coinbase with same | ⟨bound, below, pruned⟩
  · exact .of_store same
  · rw [pruned]
    refine .prune (coherent_confirmPaid coherent host block coinbase) ?_
    rw [UInt32.le_iff_toNat_le]
    omega

/-- A call that spares a height keeps its objects and their marks. -/
theorem keepsAt_perform [Relay σ] (coherent : engine.store.Coherent engine.config.cadence)
    {call : Call} (spares : engine.Spares height call) :
    TriggerStore.KeepsAt height engine.store (engine.perform host call).store := by
  cases call with
  | assess target => exact .of_store (store_assess engine host target)
  | prominence target => exact .of_store (store_prominence engine host target)
  | buildContract target forCreation =>
    exact .of_store (store_buildContract engine host target forCreation)
  | refreshSporks => exact .refl _
  | submit target contract =>
    rw [perform, submit]
    split
    · exact .refl _
    · exact .submit _ _ _ _ _
  | submitTrigger hex =>
    rw [perform, submitTrigger]
    split
    · exact .refl _
    · exact .submit _ _ _ _ _
  | receiveObject id submission =>
    rw [perform]
    exact keepsAt_receiveObject engine host id submission
  | receiveVote vote =>
    rw [perform]
    exact keepsAt_receiveVote engine host vote
  | receiveOctets octets =>
    rw [perform, receiveOctets]
    split
    · exact .refl _
    · rename_i message _ _
      cases message with
      | object id submission =>
        rw [receiveMessage]
        split
        · exact keepsAt_receiveObject engine host id submission
        · exact .refl _
      | vote vote => exact keepsAt_receiveVote engine host vote
  | voteForContract target text =>
    rw [perform, voteForContract]
    split
    · exact .refl _
    · exact keepsAt_castVotes engine host _ _
  | retractVote vote => exact .retractVote _ vote
  | retractObject id => exact .retractObject spares
  | connectBlock block coinbase =>
    exact (keepsAt_confirmPaid engine host block coinbase).trans
      (keepsAt_connected coherent host spares coinbase)
  | tick force =>
    rw [perform, tick]
    split
    · exact .refl _
    · rename_i tip identity _
      exact (TriggerStore.KeepsAt.of_store (store_decide engine host tip.height identity)).trans
        (keepsAt_act identity _ _)

/-- One step of a run that spares a height. -/
inductive SparingStep [Relay σ] (hosts : Set Host) (height : Height) (engine : Engine σ) :
    Engine σ → Prop
  | call {host : Host} (member : host ∈ hosts) {call : Call}
      (spares : engine.Spares height call) :
      SparingStep hosts height engine (engine.perform host call)
  | relay (relay : σ) : SparingStep hosts height engine { engine with relay }

/-- A run in which no object for the height is retracted or pruned. -/
abbrev SparingRun [Relay σ] (hosts : Set Host) (height : Height) : Engine σ → Engine σ → Prop :=
  Relation.ReflTransGen (SparingStep hosts height)

/-- The objects for the height and their marks are still there at the end of such a run. -/
theorem SparingRun.keepsAt [Relay σ] {hosts : Set Host} {first last : Engine σ}
    (run : SparingRun hosts height first last)
    (coherent : first.store.Coherent first.config.cadence) :
    last.store.Coherent last.config.cadence ∧
      TriggerStore.KeepsAt height first.store last.store := by
  induction run with
  | refl => exact ⟨coherent, .refl _⟩
  | tail _ step inductionHypothesis =>
    obtain ⟨before, kept⟩ := inductionHypothesis
    cases step with
    | call member spares =>
      exact ⟨(deeds_perform before (Call.names_any _)).coherent before,
        kept.trans (keepsAt_perform before spares)⟩
    | relay relay => exact ⟨before, kept⟩

/-! ### Confirmed states -/

/-- A fingerprint is confirmed exactly while the elected object carries it and is marked. -/
theorem contractState_eq_confirmed_iff (coherent : engine.store.Coherent engine.config.cadence)
    {fingerprint : Fingerprint} :
    engine.contractState host height fingerprint = .confirmed ↔
      ∃ object, engine.Elected host height object ∧ object.fingerprint = fingerprint ∧
        engine.store.isConfirmed object.id = true := by
  rw [contractState]
  cases won : engine.winner? host height with
  | none =>
    have nobody := (winner?_eq_none_iff coherent).mp won
    refine iff_of_false (fun confirmed => ?_) ?_
    · exact ContractState.classify_of_no_winner.1 (Or.inr confirmed)
    · rintro ⟨object, elected, _⟩
      exact nobody ⟨object, elected.toEligible⟩
  | some candidate =>
    obtain ⟨object, elected, rfl⟩ := (winner?_eq_some_iff coherent).mp won
    refine ContractState.classify_eq_confirmed_iff.trans ?_
    rw [← carried_iff coherent]
    constructor
    · rintro ⟨⟨_, carries⟩, marked⟩
      exact ⟨object, elected, carries, marked⟩
    · rintro ⟨other, also, carries, marked⟩
      obtain rfl := also.unique elected
      exact ⟨⟨⟨other, elected.stored, elected.target, carries⟩, carries⟩, marked⟩

end Engine

/-! ### Elections after a block -/

namespace TriggerStore

variable {store : TriggerStore} {cadence : Cadence} {height : Height}

theorem heldVotes_dropObjects {dropped : ObjectId → Bool} {id : ObjectId} {signal : VoteSignal}
    (filed : store.VotesFiled) (kept : dropped id = false) :
    (store.dropObjects dropped).heldVotes id signal = store.heldVotes id signal := by
  show ((store.votes.entries.filter fun entry => !dropped entry.1.object).map Prod.snd).filter _ =
    (store.votes.entries.map Prod.snd).filter _
  rw [List.filter_map, List.filter_map, List.filter_filter]
  refine congrArg _ (List.filter_congr fun entry member => ?_)
  have own : entry.2.ballot = entry.1 := filed _ _ (SortedMap.get?_eq_some_iff.mpr member)
  by_cases concerned : entry.2.object = id
  · have spared : dropped entry.1.object = false := by
      rw [← own]
      show dropped entry.2.object = false
      rw [concerned]
      exact kept
    simp [spared]
  · simp [concerned]

/-- The same objects for a height are stored, with the same support. -/
structure SameAt (height : Height) (before after : TriggerStore) : Prop where
  objects : ∀ id object, object.targetHeight = height →
    (after.get? id = some object ↔ before.get? id = some object)
  support : ∀ id object, object.targetHeight = height → before.get? id = some object →
    after.support id = before.support id

theorem SameAt.trans {first second third : TriggerStore} (one : SameAt height first second)
    (other : SameAt height second third) : SameAt height first third where
  objects id object target := (other.objects id object target).trans (one.objects id object target)
  support id object target held :=
    (other.support id object target ((one.objects id object target).mpr held)).trans
      (one.support id object target held)

theorem sameAt_prune (coherent : store.Coherent cadence) {bound : Height}
    (within : bound ≤ height) : SameAt height store (store.prune bound).2 := by
  refine ⟨fun id object target => ?_, fun id object target held => ?_⟩
  · refine get?_dropObjects.trans ⟨And.left, fun held => ⟨held, ?_⟩⟩
    exact coherent.contains_idsBelow held (target ▸ within)
  · have votes : (store.prune bound).2.heldVotes id .funding = store.heldVotes id .funding :=
      heldVotes_dropObjects coherent.filed (coherent.contains_idsBelow held (target ▸ within))
    rw [support, support, votes]

end TriggerStore

namespace Engine

variable {σ : Type} {engine after : Engine σ} {host : Host} {height : Height}

theorem eligible_iff_of_sameAt (config : after.config = engine.config)
    (same : TriggerStore.SameAt height engine.store after.store) {object : TriggerObject} :
    after.Eligible host height object ↔ engine.Eligible host height object := by
  have quorum : after.requiredQuorum host height = engine.requiredQuorum host height := by
    rw [requiredQuorum, requiredQuorum, config]
  constructor
  · rintro ⟨stored, target, supported, payable⟩
    have before := (same.objects _ object target).mp stored
    rw [quorum, same.support _ object target before] at supported
    exact ⟨before, target, supported, payable⟩
  · rintro ⟨stored, target, supported, payable⟩
    rw [← quorum, ← same.support _ object target stored] at supported
    exact ⟨(same.objects _ object target).mpr stored, target, supported, payable⟩

/-- The election goes by the objects for the height and their support. -/
theorem Elected.of_sameAt {object : TriggerObject} (elected : engine.Elected host height object)
    (config : after.config = engine.config)
    (same : TriggerStore.SameAt height engine.store after.store) :
    after.Elected host height object := by
  refine ⟨(eligible_iff_of_sameAt config same).mpr elected.toEligible, fun other able differs => ?_⟩
  have before := (eligible_iff_of_sameAt config same).mp able
  rw [same.support _ other before.target before.stored,
    same.support _ object elected.target elected.stored]
  exact elected.best other before differs

/-- The block at a height leaves its election as it is. -/
theorem sameAt_connectBlock [Relay σ] (coherent : engine.store.Coherent engine.config.cadence)
    (coinbase : List CoinbaseOutput) :
    TriggerStore.SameAt height engine.store (engine.connectBlock host height coinbase).store := by
  have same : TriggerStore.SameAt height engine.store
      (engine.confirmPaid host height coinbase) := by
    obtain ⟨confirmed, marked⟩ := engine.exists_confirmed_confirmPaid host height coinbase
    rw [marked]
    exact ⟨fun _ _ _ => Iff.rfl, fun _ _ _ _ => rfl⟩
  rcases engine.store_connectBlock host height coinbase with connected | ⟨bound, below, pruned⟩
  · rw [connected]
    exact same
  · rw [pruned]
    have paid := coherent_confirmPaid coherent host height coinbase
    refine same.trans (TriggerStore.sameAt_prune paid ?_)
    rw [UInt32.le_iff_toNat_le]
    omega

theorem confirmPaid_of_paid {winner : Candidate} {payouts : Allocation}
    {coinbase : List CoinbaseOutput}
    (triggered : engine.triggered? host height = some (winner, payouts))
    (paid : ∀ output ∈ Coinbase.ofAllocation payouts, output ∈ coinbase) :
    engine.confirmPaid host height coinbase =
      (engine.store.confirm height winner.fingerprint).2 := by
  have all : (Coinbase.ofAllocation payouts).all (fun output => output ∈ coinbase) = true :=
    List.all_eq_true.mpr fun output member => decide_eq_true (paid output member)
  rw [confirmPaid, triggered]
  exact if_pos all

/-- A block that pays the triggered contract marks the objects that carry its fingerprint. -/
theorem isConfirmed_confirmPaid (coherent : engine.store.Coherent engine.config.cadence)
    {winner : Candidate} {payouts : Allocation} {coinbase : List CoinbaseOutput}
    (triggered : engine.triggered? host height = some (winner, payouts))
    (paid : ∀ output ∈ Coinbase.ofAllocation payouts, output ∈ coinbase) {object : TriggerObject}
    (stored : engine.store.get? object.id = some object) (target : object.targetHeight = height)
    (carries : object.fingerprint = winner.fingerprint) :
    (engine.confirmPaid host height coinbase).isConfirmed object.id = true := by
  rw [confirmPaid_of_paid triggered paid]
  refine TriggerStore.isConfirmed_confirm_iff.mpr (Or.inl ?_)
  exact TriggerStore.mem_matching_iff.mpr
    ⟨(coherent.indexed height object.id).mpr ⟨object, stored, target⟩, object, stored, carries⟩

/-- A block that pays the triggered contract makes its fingerprint confirmed, and marks the objects
that carry it. As long as no object for the height is retracted or pruned, these objects and their
marks stay, and the fingerprint is confirmed whenever one of them is the elected object, whatever
else is received. -/
theorem confirmation_lasts [Relay σ] {hosts : Set Host} (reached : Reachable hosts engine)
    {winner : Candidate} {payouts : Allocation} {coinbase : List CoinbaseOutput}
    (triggered : engine.triggered? host height = some (winner, payouts))
    (paid : ∀ output ∈ Coinbase.ofAllocation payouts, output ∈ coinbase) {later : Engine σ}
    (run : SparingRun hosts height (engine.connectBlock host height coinbase) later) :
    (engine.connectBlock host height coinbase).contractState host height winner.fingerprint =
        .confirmed ∧
      (∀ object, engine.store.get? object.id = some object → object.targetHeight = height →
        object.fingerprint = winner.fingerprint →
          later.store.get? object.id = some object ∧
            later.store.isConfirmed object.id = true ∧
            ∀ observer, later.Elected observer height object →
              later.contractState observer height winner.fingerprint = .confirmed) ∧
      ∀ observer, later.contractState observer height winner.fingerprint = .confirmed ↔
        ∃ object, later.Elected observer height object ∧
          object.fingerprint = winner.fingerprint ∧
          later.store.isConfirmed object.id = true := by
  have coherent := reached.coherent
  have connected : (engine.connectBlock host height coinbase).store.Coherent
      (engine.connectBlock host height coinbase).config.cadence :=
    (deeds_connectBlock engine host height coinbase).coherent coherent
  obtain ⟨laterCoherent, kept⟩ := SparingRun.keepsAt run connected
  have marked : ∀ object, engine.store.get? object.id = some object →
      object.targetHeight = height → object.fingerprint = winner.fingerprint →
      (engine.connectBlock host height coinbase).store.get? object.id = some object ∧
        (engine.connectBlock host height coinbase).store.isConfirmed object.id = true := by
    intro object stored target carries
    have spared : TriggerStore.KeepsAt height (engine.confirmPaid host height coinbase)
        (engine.connectBlock host height coinbase).store :=
      keepsAt_connected coherent host (Nat.le_add_right _ _) coinbase
    have held := (keepsAt_confirmPaid engine host height coinbase).objects _ object target stored
    have paidMark := isConfirmed_confirmPaid coherent triggered paid stored target carries
    exact ⟨spared.objects _ object target held, spared.marks _ object target held paidMark⟩
  refine ⟨?_, fun object stored target carries => ?_, fun observer =>
    contractState_eq_confirmed_iff laterCoherent⟩
  · obtain ⟨object, elected, rfl, _⟩ := (triggered?_eq_some_iff coherent).mp triggered
    have still := elected.of_sameAt (config_connectBlock engine host height coinbase)
      (sameAt_connectBlock coherent coinbase)
    exact (contractState_eq_confirmed_iff connected).mpr
      ⟨object, still, rfl, (marked object elected.stored elected.target rfl).2⟩
  · obtain ⟨held, mark⟩ := marked object stored target carries
    have laterMark := kept.marks _ object target held mark
    refine ⟨kept.objects _ object target held, laterMark, fun observer elected => ?_⟩
    exact (contractState_eq_confirmed_iff laterCoherent).mpr ⟨object, elected, carries, laterMark⟩

end Engine

/-! ### A block of the sample run -/

namespace ConfirmedRun

/-- The host when the block at 1300 is its tip. -/
def host : Host :=
  { SampleRun.host with tip := some (HostFixture.tipAt 1300) }

/-- The chain before the block and after it. -/
def hosts : Set Host :=
  {SampleRun.host, host}

/-- The outputs that the contract of the sample run asks for. -/
def coinbase : List CoinbaseOutput :=
  Coinbase.ofAllocation SampleRun.contract.allocation

/-- The engine once the block is connected. -/
def connected : Engine CountingRelay :=
  SampleRun.engine.connectBlock host 1300 coinbase

/-- The second sanctuary changes its mind after the block. -/
def refusal : Vote :=
  { SampleRun.approval ⟨2⟩ with outcome := .no, timestamp := 6 }

/-- The engine once the refusal has come in as well. -/
def later : Engine CountingRelay :=
  connected.perform host (.receiveVote refusal)

theorem reachable_engine : Engine.Reachable hosts SampleRun.engine :=
  ⟨SampleRun.config, {}, Engine.run_of_calls (Set.mem_insert _ _) _ SampleRun.calls⟩

theorem mem_hosts : host ∈ hosts :=
  Set.mem_insert_of_mem _ (Set.mem_singleton host)

theorem run_later : Engine.SparingRun hosts 1300 connected later :=
  .single (.call mem_hosts trivial)

end ConfirmedRun

/-- The block of the sample run confirms its contract, and the object of the contract is still
stored and marked after a later vote against it. -/
theorem sample_confirmation_lasts :
    ∃ object, SampleRun.engine.store.get? 1 = some object ∧
      ConfirmedRun.connected.contractState ConfirmedRun.host 1300 object.fingerprint =
        .confirmed ∧
      ConfirmedRun.later.store.get? 1 = some object ∧
      ConfirmedRun.later.store.isConfirmed 1 = true := by
  have someone : (SampleRun.engine.triggered? ConfirmedRun.host 1300).any
      (fun (winner, payouts) =>
        winner.id = 1 ∧ Coinbase.ofAllocation payouts = ConfirmedRun.coinbase) = true := by
    decide +kernel
  obtain ⟨⟨winner, payouts⟩, triggered, facts⟩ := (Option.any_eq_true _ _).mp someone
  obtain ⟨first, same⟩ := of_decide_eq_true facts
  have paid : ∀ output ∈ Coinbase.ofAllocation payouts, output ∈ ConfirmedRun.coinbase :=
    fun output member => same ▸ member
  obtain ⟨confirmed, kept, _⟩ := Engine.confirmation_lasts ConfirmedRun.reachable_engine
    triggered paid ConfirmedRun.run_later
  obtain ⟨object, elected, rfl, _⟩ :=
    (Engine.triggered?_eq_some_iff ConfirmedRun.reachable_engine.coherent).mp triggered
  have named : object.id = 1 := first
  have carries : (SampleRun.engine.store.candidate object).fingerprint = object.fingerprint := rfl
  rw [carries] at confirmed
  have stored := elected.stored
  obtain ⟨still, marked, _⟩ := kept object stored elected.target carries.symm
  rw [named] at stored still marked
  exact ⟨object, stored, confirmed, still, marked⟩

/-- After the later vote nobody is elected, and the contract that a block paid, whose object is
still stored and marked, is reported as expired. -/
theorem confirmed_state_is_lost :
    Engine.Reachable ConfirmedRun.hosts ConfirmedRun.connected ∧
      Engine.SparingRun ConfirmedRun.hosts 1300 ConfirmedRun.connected ConfirmedRun.later ∧
      ∃ object, ConfirmedRun.connected.store.get? 1 = some object ∧
        ConfirmedRun.connected.contractState ConfirmedRun.host 1300 object.fingerprint =
          .confirmed ∧
        ConfirmedRun.later.store.get? 1 = some object ∧
        ConfirmedRun.later.store.isConfirmed 1 = true ∧
        ConfirmedRun.later.contractState ConfirmedRun.host 1300 object.fingerprint =
          .expired := by
  obtain ⟨config, relay, run⟩ := ConfirmedRun.reachable_engine
  have reachable : Engine.Reachable ConfirmedRun.hosts ConfirmedRun.connected :=
    ⟨config, relay, run.tail (.call ConfirmedRun.mem_hosts
      (.connectBlock 1300 ConfirmedRun.coinbase))⟩
  have states : (ConfirmedRun.connected.store.get? 1).any (fun object =>
      object.targetHeight = 1300 ∧
        ConfirmedRun.connected.contractState ConfirmedRun.host 1300 object.fingerprint =
          .confirmed ∧
        ConfirmedRun.later.contractState ConfirmedRun.host 1300 object.fingerprint =
          .expired) = true := by
    decide +kernel
  have marked : ConfirmedRun.later.store.isConfirmed 1 = true := by decide +kernel
  obtain ⟨object, stored, facts⟩ := (Option.any_eq_true _ _).mp states
  obtain ⟨target, confirmed, expired⟩ := of_decide_eq_true facts
  have kept := (ConfirmedRun.run_later.keepsAt reachable.coherent).2
  exact ⟨reachable, ConfirmedRun.run_later, object, stored, confirmed,
    kept.objects 1 object target stored, marked, expired⟩

end SuperblockGovernance

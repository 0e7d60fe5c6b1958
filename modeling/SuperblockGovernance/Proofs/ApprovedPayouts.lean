/-
The payouts that a sanctuary approves. A tick approves the least stored object that carries
the fingerprint of the contract built here. When MD5 tells the texts at hand apart, the texts
of that object make up the text of the local contract, and its payouts are the local ones
exactly when it cuts this text where the local contract does. An object may cut it elsewhere:
then other payouts are approved.
-/

import SuperblockGovernance.Proofs.FingerprintTexts
import SuperblockGovernance.Proofs.HexadecimalTexts
import SuperblockGovernance.Proofs.PayoutTexts
import SuperblockGovernance.Proofs.TriggeredContracts

namespace SuperblockGovernance

/-! ### The amounts of an assessment -/

namespace AllocationRules

theorem isPayable_payout (prominence : Nat) (pool : Amount) :
    (payout prominence pool).IsPayable := by
  rw [payout]
  generalize Rounding.divHalfDown _ _ = cents
  have bound : min (Rounding.saturatingMul cents Amount.cent) (2 ^ 64 - 1) < 2 ^ 64 := by omega
  rw [Amount.IsPayable, UInt64.toNat_ofNat_of_lt' bound, Rounding.saturatingMul]
  simp only [Amount.cent, Rounding.maxWord128]
  omega

/-- Whatever is paid is a share of the pool. -/
theorem isPayable_of_mem_assess (rules : AllocationRules) (records : ChainRecords)
    (target snapshot : Height) (limit : Amount) :
    ∀ pair ∈ (rules.assess records target snapshot limit).allocation.pairs,
      pair.2.IsPayable := by
  intro pair member
  obtain ⟨entry, kept, rfl⟩ := List.mem_map.mp member
  obtain ⟨inside, paid⟩ := List.mem_filter.mp kept
  obtain ⟨⟨payee, points⟩, _, rfl⟩ := List.mem_map.mp inside
  have paidSome := of_decide_eq_true paid
  simp only [AllocationRules.paid] at paidSome ⊢
  split at paidSome
  · rename_i above
    rw [if_pos above]
    exact isPayable_payout _ _
  · exact absurd rfl paidSome

end AllocationRules

namespace Engine

variable {σ : Type} {engine : Engine σ} {hosts : Set Host}

/-- A contract that is built here pays amounts that can be written. -/
theorem isPayable_of_mem_contract [Relay σ] (reached : Reachable hosts engine) {host : Host}
    {height : Height} {forCreation : Bool} {contract : Contract}
    (built : (engine.buildContract host height forCreation).1 = .ok contract) :
    ∀ pair ∈ contract.allocation.pairs, pair.2.IsPayable := by
  obtain ⟨target, same⟩ := payouts_of_buildContract built
  obtain ⟨maker, _, _, made⟩ := reached.assess_eq host target
  rw [Allocation.pairs, same, made]
  exact AllocationRules.isPayable_of_mem_assess _ _ _ _ _

/-! ### Ticks that vote -/

/-- A tick that passes its gates, builds a contract and plans votes. -/
structure VotingTick (engine : Engine σ) (host : Host) (force : Bool) (tip : ChainTip)
    (identity : Identity) (contract : Contract) (intents : List VoteIntent) : Prop where
  passed : engine.passGates host force = .ok (tip, identity)
  built : (engine.buildContract host (engine.config.cadence.around tip.height).2 true).1 =
    .ok contract
  planned : (engine.decide host tip.height identity).2.1 = .vote intents

/-- The votes are those of the plan for the local fingerprint. -/
theorem VotingTick.intents_eq {host : Host} {force : Bool} {tip : ChainTip} {identity : Identity}
    {contract : Contract} {intents : List VoteIntent}
    (voting : engine.VotingTick host force tip identity contract intents) :
    intents = (engine.plan host (engine.config.cadence.around tip.height).2 contract.fingerprint
      identity).intents := by
  obtain ⟨own, made, votes⟩ := intents_of_decide voting.planned
  obtain rfl : own = contract := Except.ok.inj (made.symm.trans voting.built)
  exact votes

/-- What an approval goes to: a stored object for the target that carries the local fingerprint,
with payouts that can be read and are within the budget. -/
theorem VotingTick.approved (coherent : engine.store.Coherent engine.config.cadence) {host : Host}
    {force : Bool} {tip : ChainTip} {identity : Identity} {contract : Contract}
    {intents : List VoteIntent}
    (voting : engine.VotingTick host force tip identity contract intents) {id : ObjectId}
    (approved : ⟨id, .funding, .yes⟩ ∈ intents) :
    ∃ object payouts, engine.store.get? id = some object ∧
      object.targetHeight = (engine.config.cadence.around tip.height).2 ∧
      object.fingerprint = contract.fingerprint ∧ object.payouts = .ok payouts ∧
      payouts.total ≤ (host.budgetLimit (engine.config.cadence.around tip.height).2).toNat := by
  rw [voting.intents_eq] at approved
  obtain ⟨candidate, funded, rfl⟩ := PlanTerms.funded_of_approval approved
  obtain ⟨matched, total, known, within⟩ := PlanTerms.funded?_spec funded
  obtain ⟨member, carries, _⟩ := PlanTerms.localMatch?_spec matched
  obtain ⟨object, stored, target, rfl⟩ := (mem_candidatesAt_iff coherent).mp member
  obtain ⟨payouts, read, rfl⟩ := TriggerObject.total?_eq_some_iff.mp known
  exact ⟨object, payouts, stored, target, carries, read, within⟩

/-- The texts that a tick for a target compares by their fingerprints. -/
def hashedTexts (engine : Engine σ) (target : Height) (contract : Contract) : Set String :=
  {text | text = contract.hashedText ∨ ∃ object, engine.store.get? object.id = some object ∧
    object.targetHeight = target ∧ object.hashedText = text}

/-- MD5 names the texts of a tick when all of them are one text. -/
theorem names_hashedTexts {target : Height} {contract : Contract} {text : String}
    (stored : ∀ object ∈ engine.store.allObjects, object.hashedText = text)
    (built : contract.hashedText = text)
    (nonzero : Md5.digest (Octets.ofText text) ≠ List.replicate 16 0) :
    Md5.Names (engine.hashedTexts target contract) := by
  refine .of_forall_eq (fun other member => ?_) nonzero
  rcases member with rfl | ⟨object, held, _, rfl⟩
  · exact built
  · exact stored object (SortedMap.mem_values_iff.mpr ⟨object.id, held⟩)

end Engine

/-! ### Sample ticks -/

namespace VotingSample

/-- A network whose nodes always submit, with superblocks every hundred blocks. -/
def config : Config := { startHeight := 1000, cycleLength := 100, alwaysPrivileged := true }

/-- Two payees with two thirds and one third of the weight. -/
def host : Host :=
  ({ tip := some (HostFixture.tipAt 1250)
     weights := .ofList [("CAMEROON", 10000)]
     contributions := [⟨1150, 1, "CAMEROON", SampleRun.payee, 2, 0⟩,
       ⟨1160, 2, "CAMEROON", SampleRun.otherPayee, 1, 0⟩] } : HostFixture).host

/-- A node that has seen nothing. -/
def fresh : Engine CountingRelay :=
  { config, relay := {} }

/-- After a first tick, which creates the trigger of the local contract. -/
def created : Engine CountingRelay :=
  fresh.perform host (.tick true)

/-- A trigger with the text of the local contract, where the first amount lost its first digit
to the second address. -/
def resplit : TriggerPayload where
  eventHeight := 1300
  startEpoch := 0
  addresses := "X|Y3"
  amounts := "330.00|1665.00"
  proposalHashes := ""
  phase := some "0"
  objectType := TriggerPayload.triggerType

/-- The document of this trigger. -/
def document : String :=
  "[[\"trigger\",\x7b\"event_block_height\":1300,\"start_epoch\":0," ++
    "\"payment_addresses\":\"X|Y3\",\"payment_amounts\":\"330.00|1665.00\"," ++
    "\"proposal_hashes\":\"\",\"qtphase\":\"0\",\"type\":2\x7d]]"

/-- The document as another sanctuary submits it. -/
def submission : Submission where
  payloadHex := Hexadecimal.encode (Octets.ofText document)
  submitter := ⟨200⟩
  creationTime := 1000000
  signature := []

/-- After the trigger that is cut elsewhere was received. -/
def received : Engine CountingRelay :=
  fresh.perform host (.receiveObject 7 submission)

theorem acceptSubmission_eq : fresh.acceptSubmission host submission = .ok resplit := by
  have read : TriggerPayload.ofHex submission.payloadHex = .ok resplit := by
    rw [submission, TriggerPayload.ofHex_encode]
    decide +kernel
  have within : fresh.checkHorizon host resplit.eventHeight = .ok () := by
    decide +kernel
  exact bind_eq_ok_iff.mpr ⟨resplit, mapError_eq_ok_iff.mpr read,
    bind_eq_ok_iff.mpr ⟨(), mapError_eq_ok_iff.mpr within, rfl⟩⟩

/-- The object that this trigger becomes. -/
def object : TriggerObject :=
  .ofSubmission 7 submission resplit

/-- The store with the object and nothing else. -/
def stored : TriggerStore :=
  (TriggerStore.empty.insert object).2

theorem received_eq : received = { fresh with store := stored } := by
  exact Engine.perform_receiveObject acceptSubmission_eq 7

/-- The text of the local contract. -/
def localText : String := "X|Y3330.00|1665.000"

theorem digest_localText_ne_zeros :
    Md5.digest (Octets.ofText localText) ≠ List.replicate 16 0 := by
  decide +kernel

/-- A tick that votes on objects with the text of the local contract. -/
theorem exists_votingTick (engine : Engine CountingRelay) (intents : List VoteIntent)
    (passed : engine.passGates host false = .ok (HostFixture.tipAt 1250, ⟨1⟩))
    (next : (engine.config.cadence.around 1250).2 = 1300)
    (texts : (engine.buildContract host 1300 true).1.toOption.map (fun contract =>
      (contract.hashedText, contract.allocation.addressesText, contract.allocation.phaseText,
        contract.total)) = some (localText, "X|Y", "0", (Amount.coins 4995).toNat))
    (planned : (engine.decide host 1250 ⟨1⟩).2.1 = .vote intents)
    (stored : ∀ object ∈ engine.store.allObjects, object.hashedText = localText) :
    ∃ contract, engine.VotingTick host false (HostFixture.tipAt 1250) ⟨1⟩ contract intents ∧
      Md5.Names (engine.hashedTexts (engine.config.cadence.around 1250).2 contract) ∧
      contract.allocation.addressesText = "X|Y" ∧ contract.allocation.phaseText = "0" ∧
      contract.total = (Amount.coins 4995).toNat := by
  obtain ⟨contract, held, same⟩ := Option.map_eq_some_iff.mp texts
  have built : (engine.buildContract host (engine.config.cadence.around 1250).2 true).1 =
      .ok contract := by
    rw [next]
    exact toOption_eq_some_iff.mp held
  exact ⟨contract, ⟨passed, built, planned⟩,
    Engine.names_hashedTexts stored (congrArg Prod.fst same) digest_localText_ne_zeros,
    congrArg (·.2.1) same, congrArg (·.2.2.1) same, congrArg (·.2.2.2) same⟩

theorem reachable_perform {host : Host} (call : Call) :
    Engine.Reachable {host} (fresh.perform host call) :=
  ⟨config, {}, Engine.run_of_calls (Set.mem_singleton host) fresh [call]⟩

theorem reachable_created : Engine.Reachable {host} created :=
  reachable_perform (.tick true)

theorem reachable_received : Engine.Reachable {host} received :=
  reachable_perform (.receiveObject 7 submission)

end VotingSample

/-! ### Approved texts -/

namespace Engine

variable {σ : Type} {engine : Engine σ} {hosts : Set Host}

/-- In every engine that a run reaches, and when MD5 tells the texts at hand apart, a tick approves
only objects whose texts make up the text of the contract built here, with payouts within the
budget. These are the local payouts exactly when the address text is the local one and the amount
text reads as the local amounts, and so whenever the three texts are the local ones. -/
theorem approved_texts_are_local [Relay σ] (reached : Reachable hosts engine) {host : Host}
    {force : Bool} {tip : ChainTip} {identity : Identity} {contract : Contract}
    {intents : List VoteIntent}
    (voting : engine.VotingTick host force tip identity contract intents)
    (names : Md5.Names
      (engine.hashedTexts (engine.config.cadence.around tip.height).2 contract))
    {id : ObjectId} (approved : ⟨id, .funding, .yes⟩ ∈ intents) :
    ∃ object payouts, engine.store.get? id = some object ∧
      object.targetHeight = (engine.config.cadence.around tip.height).2 ∧
      object.payouts = .ok payouts ∧
      payouts.total ≤ (host.budgetLimit (engine.config.cadence.around tip.height).2).toNat ∧
      object.hashedText = contract.hashedText ∧
      (payouts.payouts = contract.allocation.payouts ↔
        object.addresses = contract.allocation.addressesText ∧
          (Text.listed '|' object.amounts).map Amount.ofText? =
            contract.allocation.pairs.map (fun pair => some pair.2)) ∧
      (object.addresses = contract.allocation.addressesText →
        object.phase = contract.allocation.phaseText →
          payouts.payouts = contract.allocation.payouts) := by
  obtain ⟨object, payouts, stored, target, carries, read, within⟩ :=
    voting.approved reached.coherent approved
  have own : object.id = id := reached.coherent.named id object stored
  have same : object.hashedText = contract.hashedText := by
    refine Fingerprint.text_eq_of_eq names (Or.inr ⟨object, ?_, target, rfl⟩) (Or.inl rfl) carries
    rw [own]
    exact stored
  have common : object.addresses ++ (object.amounts ++ object.phase) =
      contract.allocation.addressesText ++
        (contract.allocation.amountsText ++ contract.allocation.phaseText) := by
    rw [← String.append_assoc, ← String.append_assoc]
    exact same
  refine ⟨object, payouts, stored, target, read, within, same,
    Allocation.payouts_eq_iff read common, fun sameAddresses samePhase => ?_⟩
  have sameAmounts : object.amounts = contract.allocation.amountsText := by
    rw [sameAddresses, samePhase] at common
    exact (String.append_left_inj _).mp ((String.append_right_inj _).mp common)
  refine (Allocation.payouts_eq_iff read common).mpr ⟨sameAddresses, ?_⟩
  rw [sameAmounts]
  have success : Allocation.ofTexts object.addresses contract.allocation.amountsText =
      .ok payouts := by
    rw [← sameAmounts]
    exact read
  exact Allocation.amounts_of_amountsText (isPayable_of_mem_contract reached voting.built) success

open VotingSample in
theorem sample_approval :
    ∃ contract object payouts,
      created.VotingTick host false (HostFixture.tipAt 1250) ⟨1⟩ contract [⟨1, .funding, .yes⟩] ∧
      created.store.get? 1 = some object ∧ object.payouts = .ok payouts ∧
      payouts.payouts = contract.allocation.payouts := by
  obtain ⟨contract, voting, names, addresses, phase, _⟩ :=
    exists_votingTick created [⟨1, .funding, .yes⟩] (by decide +kernel) (by decide +kernel)
      (by decide +kernel) (by decide +kernel) (by decide +kernel)
  obtain ⟨object, payouts, stored, _, read, _, _, _, agree⟩ :=
    approved_texts_are_local reachable_created voting names (List.mem_singleton.mpr rfl)
  have kept : (created.store.get? 1).map (fun object => (object.addresses, object.phase)) =
      some ("X|Y", "0") := by
    decide +kernel
  rw [stored] at kept
  have own := Option.some.inj kept
  exact ⟨contract, object, payouts, voting, stored, read,
    agree ((congrArg Prod.fst own).trans addresses.symm) ((congrArg Prod.snd own).trans phase.symm)⟩

open VotingSample in
/-- Payouts that were not computed here may be approved. -/
theorem resplit_is_approved :
    Reachable {host} received ∧ ∃ contract object payouts,
      received.VotingTick host false (HostFixture.tipAt 1250) ⟨1⟩ contract
        [⟨7, .funding, .yes⟩] ∧
      Md5.Names (received.hashedTexts (received.config.cadence.around 1250).2 contract) ∧
      received.store.get? 7 = some object ∧ object.payouts = .ok payouts ∧
      payouts.payouts ≠ contract.allocation.payouts := by
  refine ⟨reachable_received, ?_⟩
  rw [received_eq]
  obtain ⟨contract, voting, names, _, _, total⟩ :=
    exists_votingTick { fresh with store := stored } [⟨7, .funding, .yes⟩] (by decide +kernel)
      (by decide +kernel) (by decide +kernel) (by decide +kernel) (by decide +kernel)
  have less : object.payouts.toOption.map Allocation.total = some (Amount.coins 1995).toNat := by
    decide +kernel
  obtain ⟨payouts, read, small⟩ := Option.map_eq_some_iff.mp less
  refine ⟨contract, object, payouts, voting, names, rfl, toOption_eq_some_iff.mp read,
    fun same => ?_⟩
  have equal : payouts.total = contract.total := by
    rw [Contract.total, Allocation.total, Allocation.amounts, same]
    rfl
  rw [small, total] at equal
  exact absurd equal (by decide +kernel)

end Engine

end SuperblockGovernance

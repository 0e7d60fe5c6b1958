/-
One contract in every form. A contract is hashed by the texts of its payouts and its phase.
Its payload carries these texts, the hexadecimal document of the payload is read as the same
payload, and the object that is stored for it keeps the texts. So the contract, its plan, its
payload and its object have one fingerprint, and what is read from the texts is the plan of
the contract to the nearest cent, which for whole cents is the plan itself.
-/

import SuperblockGovernance.Proofs.ContractTexts
import SuperblockGovernance.Proofs.SubmittedTotals

namespace SuperblockGovernance

namespace TriggerPayload.Presents

variable {contract : Contract} {height : Height} {limit : Amount} {payload : TriggerPayload}

/-! ### The phase -/

theorem phaseText_eq (presents : payload.Presents contract height limit)
    (quoted : contract.allocation.phase = contract.quote.map Quote.phase) :
    payload.phase.getD "" = contract.allocation.phaseText := by
  rw [presents.phase, Allocation.phaseText, quoted]
  cases contract.quote <;> rfl

theorem readPhase_eq (presents : payload.Presents contract height limit)
    (quoted : contract.allocation.phase = contract.quote.map Quote.phase) :
    payload.phase.mapM (fun text => Quote.readPhase text "bad qtphase") =
      .ok contract.allocation.phase := by
  rw [presents.phase, quoted]
  cases contract.quote with
  | none => rfl
  | some quote =>
    rw [Option.map_some, Option.mapM_some, Quote.readPhase, Quote.phaseText,
      Decimal.small?_signedText]
    rfl

/-! ### Payloads and objects -/

theorem fingerprint_eq (presents : payload.Presents contract height limit)
    (quoted : contract.allocation.phase = contract.quote.map Quote.phase) :
    payload.fingerprint = contract.fingerprint := by
  rw [fingerprint, presents.addresses, presents.amounts, presents.phaseText_eq quoted]
  rfl

/-- The payload pays the amounts of the contract to the nearest cent. -/
theorem payouts_eq (presents : payload.Presents contract height limit)
    (quoted : contract.allocation.phase = contract.quote.map Quote.phase)
    (fits : ∀ amount ∈ contract.allocation.amounts, amount.rounded < 2 ^ 64) :
    payload.payouts = .ok contract.rounded.allocation := by
  refine bind_eq_ok_iff.mpr ⟨_, presents.readPhase_eq quoted, ?_⟩
  rw [presents.addresses, presents.amounts]
  exact bind_eq_ok_iff.mpr ⟨_, Allocation.ofTexts_written fits, rfl⟩

theorem carries (presents : payload.Presents contract height limit) (id : ObjectId)
    (submission : Submission) :
    (TriggerObject.ofSubmission id submission payload).Carries contract.allocation :=
  ⟨presents.addresses, presents.amounts⟩

end TriggerPayload.Presents

theorem Allocation.rounded_lt_of_whole {plan : Allocation}
    (whole : ∀ amount ∈ plan.amounts, amount.toNat % Amount.cent = 0) :
    ∀ amount ∈ plan.amounts, amount.rounded < 2 ^ 64 := by
  intro amount member
  rw [Amount.rounded_of_whole (whole amount member)]
  exact amount.toNat_lt

namespace Contract

variable {contract : Contract} {height : Height} {epoch : Timestamp} {limit : Amount}
  {payload : TriggerPayload}

/-- The contract, its plan, its payload and every object of its document have one fingerprint; a
contract of whole cents also has one list of payouts in all of them, with one total. -/
theorem same_in_every_form (quoted : contract.allocation.phase = contract.quote.map Quote.phase)
    (made : TriggerPayload.ofContract contract height epoch limit = .ok payload) :
    let whole := ∀ amount ∈ contract.allocation.amounts, amount.toNat % Amount.cent = 0
    TriggerPayload.ofHex payload.toHex = .ok payload ∧
      contract.allocation.fingerprint = contract.fingerprint ∧
      payload.fingerprint = contract.fingerprint ∧
      (whole → payload.payouts = .ok contract.allocation) ∧
      ∀ id submission read, TriggerPayload.ofHex payload.toHex = .ok read →
        let object := TriggerObject.ofSubmission id submission read
        object.fingerprint = contract.fingerprint ∧
          (whole → (∃ plan, object.payouts = .ok plan ∧
              plan.payouts = contract.allocation.payouts) ∧
            object.total? = some contract.total) := by
  intro whole
  have presents := TriggerPayload.presents_of_ofContract made
  have readBack := TriggerPayload.ofHex_toHex presents.typed
  refine ⟨readBack, rfl, presents.fingerprint_eq quoted, ?payouts, ?objects⟩
  case payouts =>
    intro cents
    rw [presents.payouts_eq quoted (Allocation.rounded_lt_of_whole cents), rounded_of_whole cents]
  case objects =>
    intro id submission read success object
    obtain rfl : payload = read := Except.ok.inj (readBack.symm.trans success)
    refine ⟨presents.fingerprint_eq quoted, fun cents => ?_⟩
    have fits := Allocation.rounded_lt_of_whole cents
    have carries := presents.carries id submission
    have kept := congrArg Allocation.payouts (Allocation.rounded_of_whole cents)
    have exact : contract.allocation.roundedTotal = contract.total :=
      sumOf_congr fun amount member => Amount.rounded_of_whole (cents amount member)
    refine ⟨⟨contract.allocation.rounded, ?_, kept⟩, ?_⟩
    · rw [carries.payouts_eq, Allocation.ofTexts_written fits]
    · rw [carries.total?_eq fits, exact]

end Contract

/-! ### A sample contract -/

namespace SampleForms

/-- Whole cents, and market data with a negative phase. -/
def contract : Contract :=
  { allocation :=
      { payouts := .ofList [(SampleRun.payee, 150000000), (SampleRun.otherPayee, 1000000)]
        phase := some (-1) }
    proposals := ["first", "second"]
    quote := some ⟨-1, 0, 2500000000000, 100⟩ }

/-- Two payouts with proposals and a coin price. -/
def payload : TriggerPayload :=
  { eventHeight := 1300
    startEpoch := 7
    addresses := "X|Y"
    amounts := "1.50|0.01"
    proposalHashes := "first|second"
    price := some "2.500000000000"
    phase := some "-1"
    btcPrice := some "1.00"
    bbpPrice := some "0.000000000000"
    objectType := 2 }

/-- The object that the first identity submits for a payload. -/
def object (payload : TriggerPayload) : TriggerObject :=
  .ofSubmission 1 (SampleRun.host.signedSubmission ⟨1⟩ payload) payload

end SampleForms

open SampleForms in
/-- The object that is read from the document of the sample pays what the sample pays. -/
theorem sample_is_same_in_every_form :
    TriggerPayload.ofContract contract 1300 7 (.coins 2) = .ok payload ∧
      payload.payouts = .ok contract.allocation ∧
      ∃ read, TriggerPayload.ofHex payload.toHex = .ok read ∧
        (object read).fingerprint = contract.fingerprint ∧
        (object read).total? = some 151000000 := by
  have made : TriggerPayload.ofContract contract 1300 7 (.coins 2) = .ok payload := by
    decide +kernel
  have whole : (contract.allocation.amounts.all fun amount =>
      amount.toNat % Amount.cent = 0) = true := by decide +kernel
  have cents : ∀ amount ∈ contract.allocation.amounts, amount.toNat % Amount.cent = 0 :=
    fun amount member => of_decide_eq_true (List.all_eq_true.mp whole amount member)
  obtain ⟨readBack, _, _, payouts, objects⟩ := Contract.same_in_every_form rfl made
  obtain ⟨same, paid⟩ := objects 1 (SampleRun.host.signedSubmission ⟨1⟩ payload) payload readBack
  exact ⟨made, payouts cents, payload, readBack, same, (paid cents).2⟩

end SuperblockGovernance

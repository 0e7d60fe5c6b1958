/-
Contract texts. The sections of a contract have different tags, and a body holds marks of its
own sections only, so every section is found where it was written. A contract whose lists and
sporks hold no bracket and no separator therefore reads back as itself, up to the cents that
its amounts are rounded to, and the fingerprint of its text is its own.
-/

import SuperblockGovernance.Contract
import SuperblockGovernance.Proofs.QuoteTexts
import SuperblockGovernance.Proofs.SporkTexts

namespace SuperblockGovernance

/-! ### Payout texts without brackets -/

namespace Text

theorem notMem_joined {character : Char} (apart : character ≠ '|') {entries : List String}
    (absent : ∀ entry ∈ entries, character ∉ entry.toList) :
    character ∉ (joined "|" entries).toList := by
  induction entries with
  | nil => exact List.not_mem_nil
  | cons first rest inductionHypothesis =>
    obtain ⟨inFirst, inRest⟩ := List.forall_mem_cons.mp absent
    by_cases last : rest = []
    · subst last
      rw [joined, String.intercalate_singleton]
      exact inFirst
    · rw [joined, String.intercalate_cons_of_ne_nil last, String.toList_append,
        String.toList_append, List.mem_append, List.mem_append, not_or, not_or]
      exact ⟨⟨inFirst, by simpa using apart⟩, inductionHypothesis inRest⟩

end Text

namespace Allocation

variable {plan : Allocation}

theorem bracket_notMem_addressesText : '<' ∉ plan.addressesText.toList := by
  refine Text.notMem_joined (by decide) fun entry member => ?_
  obtain ⟨address, _, rfl⟩ := List.mem_map.mp member
  exact fun bracket => absurd (List.all_eq_true.mp address.isText.2.2 _ bracket) (by decide)

theorem bracket_notMem_amountsText : '<' ∉ plan.amountsText.toList := by
  refine Text.notMem_joined (by decide) fun entry member => ?_
  obtain ⟨amount, _, rfl⟩ := List.mem_map.mp member
  rw [Amount.toList_text]
  exact Decimal.notMem_pointed (by decide) (by decide) _ _

/-- Rounding a plan does not change what it writes. -/
theorem addressesText_rounded : plan.rounded.addressesText = plan.addressesText := by
  rw [addressesText, addresses_rounded, addressesText]

theorem amountsText_rounded (fits : ∀ amount ∈ plan.amounts, amount.rounded < 2 ^ 64) :
    plan.rounded.amountsText = plan.amountsText := by
  rw [amountsText, amounts_rounded, amountsText, SuperblockGovernance.amountsText,
    SuperblockGovernance.amountsText, List.map_map]
  refine congrArg _ (List.map_congr_left fun amount member => ?_)
  exact Amount.text_rounded (fits amount member)

theorem rounded_of_whole (whole : ∀ amount ∈ plan.amounts, amount.toNat % Amount.cent = 0) :
    plan.rounded.withPhase plan.phase = plan := by
  obtain ⟨payouts, phase⟩ := plan
  have same : payouts.mapValues (fun _ amount => UInt64.ofNat amount.rounded) = payouts := by
    refine SortedMap.eq_of_perm (List.Perm.of_eq ?_)
    refine (List.map_congr_left fun pair member => ?_).trans (List.map_id _)
    have kept := Amount.rounded_of_whole (whole pair.2 (List.mem_map_of_mem member))
    show (pair.1, UInt64.ofNat pair.2.rounded) = pair
    rw [kept, UInt64.ofNat_toNat]
  exact congrArg (Allocation.mk · phase) same

end Allocation

/-! ### The sections of a contract -/

namespace Contract

variable {contract : Contract} {tag : String}

/-- The sections that list the payouts. -/
def payoutSections (contract : Contract) : List (String × String) :=
  [("ADDRESSES", contract.allocation.addressesText), ("PAYMENTS", contract.allocation.amountsText)]

/-- The sections of a contract. -/
def sections (contract : Contract) : List (String × String) :=
  contract.payoutSections ++ ([("PROPOSALS", Text.joined "|" contract.proposals),
      ("VOTEDATA", Text.joined "|" contract.voteData)] ++
    (contract.sporks.map fun sporks => ("SPORKS", sporks.body)).toList ++
    (contract.quote.map fun quote => ("QTDATA", quote.toText)).toList)

theorem toText_eq (contract : Contract) : contract.toText = Section.written contract.sections := by
  obtain ⟨allocation, proposals, voteData, sporks, quote⟩ := contract
  cases sporks <;> cases quote <;>
    simp [toText, sections, payoutSections, optionalSection, Section.written, String.append_assoc]

theorem forall_mem_sections {property : String × String → Prop} :
    (∀ entry ∈ contract.sections, property entry) ↔
      property ("ADDRESSES", contract.allocation.addressesText) ∧
      property ("PAYMENTS", contract.allocation.amountsText) ∧
      property ("PROPOSALS", Text.joined "|" contract.proposals) ∧
      property ("VOTEDATA", Text.joined "|" contract.voteData) ∧
      (∀ sporks ∈ contract.sporks, property ("SPORKS", sporks.body)) ∧
      ∀ quote ∈ contract.quote, property ("QTDATA", quote.toText) := by
  obtain ⟨allocation, proposals, voteData, sporks, quote⟩ := contract
  cases sporks <;> cases quote <;> simp [sections, payoutSections]

theorem lookup_sporks (contract : Contract) :
    contract.sections.lookup "SPORKS" = contract.sporks.map SporkSection.body := by
  obtain ⟨allocation, proposals, voteData, sporks, quote⟩ := contract
  cases sporks <;> cases quote <;> rfl

theorem lookup_quote (contract : Contract) :
    contract.sections.lookup "QTDATA" = contract.quote.map Quote.toText := by
  obtain ⟨allocation, proposals, voteData, sporks, quote⟩ := contract
  cases sporks <;> cases quote <;> rfl

/-! ### Payouts and phase -/

theorem isPlain_payoutSections (contract : Contract) : Section.IsPlain contract.payoutSections where
  tags := by
    show ∀ tag ∈ ["ADDRESSES", "PAYMENTS"], Section.IsTag tag
    decide
  bodies := List.forall_mem_cons.mpr ⟨Allocation.bracket_notMem_addressesText,
    List.forall_mem_singleton.mpr Allocation.bracket_notMem_amountsText⟩

/-- The payouts hold no bracket, and market data no tags but its own: what else there is has to be
looked at. -/
theorem clear_sections (isTag : Section.IsTag tag) (absent : tag ∉ Quote.tags)
    (proposals : Section.Clear tag ("PROPOSALS", Text.joined "|" contract.proposals))
    (voteData : Section.Clear tag ("VOTEDATA", Text.joined "|" contract.voteData))
    (sporks : ∀ sporks ∈ contract.sporks, Section.Clear tag ("SPORKS", sporks.body)) :
    ∀ entry ∈ contract.sections, Section.Clear tag entry := by
  have payouts : ∀ entry ∈ contract.payoutSections, Section.Clear tag entry :=
    fun _ member => contract.isPlain_payoutSections.clear member
  obtain ⟨addresses, payments⟩ := List.forall_mem_cons.mp payouts
  refine forall_mem_sections.mpr ⟨addresses, List.forall_mem_singleton.mp payments, proposals,
    voteData, sporks, fun quote _ => ?_⟩
  exact (quote.free_toText isTag absent).clear (by decide)

/-- The payouts come first, so nothing that follows hides them. -/
theorem body?_payouts (contract : Contract) :
    Section.body? "ADDRESSES" contract.toText = some contract.allocation.addressesText ∧
      Section.body? "PAYMENTS" contract.toText = some contract.allocation.amountsText := by
  have plain := contract.isPlain_payoutSections
  rw [toText_eq, sections, Section.written_append,
    Section.body?_written_append (by decide) fun _ member => plain.clear member,
    Section.body?_written_append (by decide) fun _ member => plain.clear member]
  exact ⟨rfl, rfl⟩

theorem requiredSection_payouts (contract : Contract) :
    requiredSection "ADDRESSES" contract.toText = .ok contract.allocation.addressesText ∧
      requiredSection "PAYMENTS" contract.toText = .ok contract.allocation.amountsText := by
  rw [requiredSection, requiredSection, contract.body?_payouts.1, contract.body?_payouts.2]
  exact ⟨rfl, rfl⟩

/-- A contract text can be read only if 64 bits can hold the rounded amounts. -/
theorem rounded_lt_of_ofText {read : Contract} (success : ofText contract.toText = .ok read) :
    ∀ amount ∈ contract.allocation.amounts, amount.rounded < 2 ^ 64 := by
  obtain ⟨addresses, foundAddresses, afterAddresses⟩ := bind_eq_ok_iff.mp success
  obtain ⟨amounts, foundAmounts, afterAmounts⟩ := bind_eq_ok_iff.mp afterAddresses
  obtain ⟨plan, readPlan, _⟩ := bind_eq_ok_iff.mp afterAmounts
  rw [contract.requiredSection_payouts.1] at foundAddresses
  rw [contract.requiredSection_payouts.2] at foundAmounts
  cases foundAddresses
  cases foundAmounts
  exact Allocation.rounded_lt_of_ofTexts readPlan

/-- A search for a tag that stands behind the sporks goes into them first. -/
theorem exists_body?_sporks {sporks : SporkSection} (held : contract.sporks = some sporks)
    (proposals : contract.proposals = []) (voteData : contract.voteData = [])
    (isTag : Section.IsTag tag)
    (absent : tag ∉ ["ADDRESSES", "PAYMENTS", "PROPOSALS", "VOTEDATA", "SPORKS"]) :
    ∃ rest, Section.body? tag contract.toText = Section.body? tag (sporks.body ++ rest) := by
  have plain : Section.IsPlain (contract.payoutSections ++ [("PROPOSALS", ""), ("VOTEDATA", "")]) :=
    contract.isPlain_payoutSections.append ⟨by decide, by decide⟩
  have sections : contract.sections = contract.payoutSections ++
      [("PROPOSALS", ""), ("VOTEDATA", "")] ++ ("SPORKS", sporks.body) ::
        (contract.quote.map fun quote => ("QTDATA", quote.toText)).toList := by
    rw [Contract.sections, held, proposals, voteData]
    simp [Text.joined]
  obtain ⟨rest, entered⟩ := Section.exists_body?_enter plain isTag
    (show Section.IsTag "SPORKS" by decide)
    (fun member => absent (List.mem_append_left ["SPORKS"] member))
    (fun same => absent (by rw [same]; decide)) sporks.body
    (contract.quote.map fun quote => ("QTDATA", quote.toText)).toList ""
  rw [String.append_empty, ← sections, ← toText_eq] at entered
  exact ⟨rest, entered⟩

/-- Market data is read from the section written for it, if no body before opens one. -/
theorem textFingerprint_of_clear
    (phase : contract.allocation.phase = contract.quote.map Quote.phase)
    (clear : ∀ entry ∈ contract.sections, Section.Clear "QTDATA" entry) :
    textFingerprint contract.toText = contract.fingerprint := by
  have found : Section.body? "QTDATA" contract.toText = contract.quote.map Quote.toText := by
    rw [toText_eq, Section.body?_written (by decide) clear, lookup_quote]
  have read : ((Section.body? "QTDATA" contract.toText).bind
      (Section.body? "QTPHASE")).getD "" = contract.allocation.phaseText := by
    rw [found, Allocation.phaseText, phase]
    cases contract.quote with
    | none => rfl
    | some quote =>
      rw [Option.map_some, Option.bind_some, quote.body?_toText (by decide)]
      rfl
  rw [textFingerprint, read, contract.body?_payouts.1, contract.body?_payouts.2]
  rfl

/-! ### Contracts that can be written -/

/-- The entries of a list that reads back from its text: they hold neither the separator nor a
bracket, and the list is not the one that is written as the empty one is. -/
structure IsListed (entries : List String) : Prop where
  plain : ∀ entry ∈ entries, '|' ∉ entry.toList ∧ '<' ∉ entry.toList
  filled : entries ≠ [""]

/-- A contract whose text stands for it: what the text does not show is determined by what it
shows, and no text of the contract disturbs the sections. -/
structure IsWritable (contract : Contract) : Prop where
  phase : contract.allocation.phase = contract.quote.map Quote.phase
  proposals : IsListed contract.proposals
  voteData : IsListed contract.voteData
  sporks : ∀ sporks ∈ contract.sporks,
    ∃ signer entries, sporks = .signed signer entries ∧ sporks.IsPlain
  amounts : ∀ amount ∈ contract.allocation.amounts, amount.rounded < 2 ^ 64

/-- The tags of a contract, in the order in which they are written. -/
def tags : List String :=
  ["ADDRESSES", "PAYMENTS", "PROPOSALS", "VOTEDATA", "SPORKS", "QTDATA"]

theorem isTag_of_mem_tags : ∀ tag ∈ tags, Section.IsTag tag := by
  decide

theorem IsListed.bracket_notMem {entries : List String} (list : IsListed entries) :
    '<' ∉ (Text.joined "|" entries).toList :=
  Text.notMem_joined (by decide) fun entry member => (list.plain entry member).2

theorem notMem_spork_tags : ∀ tag ∈ tags, tag ∉ SporkSection.tags := by
  decide

theorem notMem_quote_tags : ∀ tag ∈ tags, tag ∉ Quote.tags := by
  decide

theorem IsWritable.clear (writable : contract.IsWritable) (inside : tag ∈ tags) :
    ∀ entry ∈ contract.sections, Section.Clear tag entry := by
  have isTag : Section.IsTag tag := isTag_of_mem_tags tag inside
  refine clear_sections isTag (notMem_quote_tags tag inside) ?proposals ?voteData ?sporks
  case proposals =>
    exact (Section.free_of_notMem writable.proposals.bracket_notMem).clear (by decide)
  case voteData =>
    exact (Section.free_of_notMem writable.voteData.bracket_notMem).clear (by decide)
  case sporks =>
    intro sporks held
    obtain ⟨_, _, _, plain⟩ := writable.sporks sporks held
    exact (plain.free_body isTag (notMem_spork_tags tag inside)).clear (by decide)

/-- Every section is found under its own tag. -/
theorem IsWritable.body?_toText (writable : contract.IsWritable) (inside : tag ∈ tags) :
    Section.body? tag contract.toText = contract.sections.lookup tag := by
  rw [toText_eq]
  exact Section.body?_written (isTag_of_mem_tags tag inside) (writable.clear inside)

/-! ### Reading what was written -/

/-- The contract with its amounts to the nearest cent. -/
def rounded (contract : Contract) : Contract :=
  { contract with
    allocation := contract.allocation.rounded.withPhase contract.allocation.phase }

theorem IsListed.listSection {entries : List String} {text : String} (list : IsListed entries)
    (held : Section.body? tag text = some (Text.joined "|" entries)) :
    listSection tag text = entries := by
  rw [Contract.listSection, held, Option.getD_some,
    Text.listed_joined (fun entry member => (list.plain entry member).1) list.filled]

theorem IsWritable.ofText_toText (writable : contract.IsWritable) :
    ofText contract.toText = .ok contract.rounded := by
  obtain ⟨addresses, amounts⟩ := contract.requiredSection_payouts
  have readSporks : (Section.body? "SPORKS" contract.toText).mapM SporkSection.ofBody =
      .ok contract.sporks := by
    rw [writable.body?_toText (by decide), lookup_sporks]
    cases held : contract.sporks with
    | none => rfl
    | some sporks =>
      obtain ⟨signer, entries, rfl, plain⟩ := writable.sporks sporks held
      rw [Option.map_some, Option.mapM_some, SporkSection.ofBody_signed plain]
      rfl
  have readQuote : (Section.body? "QTDATA" contract.toText).mapM Quote.ofText =
      .ok contract.quote := by
    rw [writable.body?_toText (by decide), lookup_quote]
    cases contract.quote with
    | none => rfl
    | some quote =>
      rw [Option.map_some, Option.mapM_some, quote.ofText_toText]
      rfl
  refine bind_eq_ok_iff.mpr ⟨_, addresses, bind_eq_ok_iff.mpr ⟨_, amounts, ?_⟩⟩
  refine bind_eq_ok_iff.mpr ⟨_, Allocation.ofTexts_written writable.amounts, ?_⟩
  refine bind_eq_ok_iff.mpr ⟨_, readSporks, bind_eq_ok_iff.mpr ⟨_, readQuote, ?_⟩⟩
  rw [writable.proposals.listSection ((writable.body?_toText (by decide)).trans rfl),
    writable.voteData.listSection ((writable.body?_toText (by decide)).trans rfl)]
  have phase := writable.phase
  obtain ⟨allocation, proposals, voteData, sporks, quote⟩ := contract
  cases quote with
  | none =>
    change allocation.phase = none at phase
    simp only [rounded, phase]
    rfl
  | some quote =>
    change allocation.phase = some quote.phase at phase
    simp only [rounded, phase]
    rfl

/-- A contract writes what its rounded form writes. -/
theorem IsWritable.toText_rounded (writable : contract.IsWritable) :
    contract.rounded.toText = contract.toText := by
  show Section.wrap "ADDRESSES" contract.allocation.rounded.addressesText ++
      Section.wrap "PAYMENTS" contract.allocation.rounded.amountsText ++ _ ++ _ ++ _ ++ _ = _
  rw [Allocation.addressesText_rounded, Allocation.amountsText_rounded writable.amounts]
  rfl

theorem IsWritable.canonical_toText (writable : contract.IsWritable) :
    canonical contract.toText = .ok contract.rounded := by
  refine bind_eq_ok_iff.mpr ⟨_, writable.ofText_toText, ?_⟩
  rw [if_pos writable.toText_rounded]
  rfl

theorem rounded_of_whole
    (whole : ∀ amount ∈ contract.allocation.amounts, amount.toNat % Amount.cent = 0) :
    contract.rounded = contract := by
  rw [rounded, Allocation.rounded_of_whole whole]

/-- A contract reads back from its text with its amounts to the nearest cent, as canonical text as
well, and the fingerprint of the text is that of the contract. -/
theorem text_round_trip (writable : contract.IsWritable) :
    ofText contract.toText = .ok contract.rounded ∧
      canonical contract.toText = .ok contract.rounded ∧
      textFingerprint contract.toText = contract.fingerprint ∧
      ((∀ amount ∈ contract.allocation.amounts, amount.toNat % Amount.cent = 0) →
        ofText contract.toText = .ok contract) := by
  have clear := writable.clear (show "QTDATA" ∈ tags by decide)
  refine ⟨writable.ofText_toText, writable.canonical_toText,
    textFingerprint_of_clear writable.phase clear, fun whole => ?_⟩
  rw [writable.ofText_toText, rounded_of_whole whole]

end Contract

/-! ### A sample contract -/

namespace SampleText

/-- Two settings, one of them with empty texts. -/
def sporks : SporkSection :=
  .signed "key" [⟨"SPORK", "PRICE>", "/QTPHASE|1", 1⟩, ⟨"", "", "", 4294967295⟩]

/-- A contract with a bit of everything: half a cent and less than half a cent, empty entries, the
least and the greatest price, and a negative phase. -/
def contract : Contract :=
  { allocation :=
      { payouts := .ofList [(⟨"First", by decide⟩, 100500000), (⟨"Second", by decide⟩, 499999)]
        phase := some (-1) }
    proposals := ["", "ab>", ""]
    voteData := []
    sporks := some sporks
    quote := some ⟨-1, 340282366920938463463374607431768211455#128, 0#128, 18446744073709551615⟩ }

theorem isWritable : contract.IsWritable where
  phase := rfl
  proposals := ⟨by decide, by decide⟩
  voteData := ⟨by decide, by decide⟩
  sporks sporks held := by
    refine ⟨_, _, (Option.some.inj held).symm, ?_⟩
    obtain rfl := Option.some.inj held
    show ∀ text ∈ SampleText.sporks.texts, '<' ∉ text.toList
    decide +kernel
  amounts amount member := by
    have small : (contract.allocation.amounts.all fun amount =>
        amount.rounded < 2 ^ 64) = true := by decide +kernel
    exact of_decide_eq_true (List.all_eq_true.mp small amount member)

end SampleText

open SampleText in
/-- The sample reads back with its amounts to the cent. -/
theorem sample_text_round_trip :
    ∃ read, Contract.ofText contract.toText = .ok read ∧
      Contract.canonical contract.toText = .ok read ∧
      Contract.textFingerprint contract.toText = contract.fingerprint ∧
      read.allocation.amounts = [101000000, 0] ∧ read.sporks = some sporks := by
  obtain ⟨read, canonical, fingerprint, _⟩ := Contract.text_round_trip isWritable
  exact ⟨contract.rounded, read, canonical, fingerprint, by decide +kernel, rfl⟩

end SuperblockGovernance

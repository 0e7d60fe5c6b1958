/-
What canonical text says of its fingerprint. Canonical text is the text of the contract that it
reads as, so the payouts that are hashed are those of the contract. The phase is hashed as the
first section of market data writes it. That is the section of the contract, unless a list or a
setting opens one before it; and a section that is opened there is read as well, so it means the
phase of the contract, but a phase can be read from digits that writing it does not produce.
-/

import SuperblockGovernance.Proofs.ContractTexts

namespace SuperblockGovernance

/-! ### Lists without a pattern -/

namespace Text

variable {pattern text before after rest : List Char} {separator : Char}

/-- A pattern without the separator ends before it. -/
theorem ends_before_separator (apart : separator ∉ pattern)
    (whole : pattern ++ rest = text ++ separator :: after) :
    ∃ excess, text = pattern ++ excess := by
  rcases List.append_eq_append_iff.mp whole with ⟨excess, same, _⟩ | ⟨excess, same, ends⟩
  · exact ⟨excess, same⟩
  · cases excess with
    | nil => exact ⟨[], by rw [same, List.append_nil, List.append_nil]⟩
    | cons character others =>
      obtain ⟨rfl, _⟩ := List.cons.inj ends
      exact absurd (same ▸ List.mem_append_right _ List.mem_cons_self) apart

/-- A pattern without the separator stands on one side of it. -/
theorem lacks_append_separator (apart : separator ∉ pattern) (filled : pattern ≠ [])
    (lacksBefore : Lacks pattern before) (lacksAfter : Lacks pattern after) :
    Lacks pattern (before ++ separator :: after) := by
  induction before with
  | nil =>
    refine lacks_cons_iff.mpr ⟨Option.eq_none_iff_forall_ne_some.mpr fun rest found => ?_,
      lacksAfter⟩
    have whole : pattern ++ rest = [] ++ separator :: after :=
      List.isPrefixOf?_eq_some_iff_append_eq.mp found
    obtain ⟨excess, nothing⟩ := ends_before_separator apart whole
    exact filled (List.append_eq_nil_iff.mp nothing.symm).1
  | cons character others inductionHypothesis =>
    obtain ⟨differs, later⟩ := lacks_cons_iff.mp lacksBefore
    refine lacks_cons_iff.mpr ⟨Option.eq_none_iff_forall_ne_some.mpr fun rest found => ?_,
      inductionHypothesis later⟩
    have whole : pattern ++ rest = (character :: others) ++ separator :: after :=
      List.isPrefixOf?_eq_some_iff_append_eq.mp found
    obtain ⟨excess, same⟩ := ends_before_separator apart whole
    exact Option.eq_none_iff_forall_ne_some.mp differs excess
      (List.isPrefixOf?_eq_some_iff_append_eq.mpr same.symm)

theorem lacks_joined (apart : '|' ∉ pattern) (filled : pattern ≠ []) {entries : List String}
    (lacks : ∀ entry ∈ entries, Lacks pattern entry.toList) :
    Lacks pattern (joined "|" entries).toList := by
  induction entries with
  | nil =>
    show cutAt? pattern [] = none
    rw [cutAt?, if_neg filled]
  | cons first rest inductionHypothesis =>
    obtain ⟨inFirst, inRest⟩ := List.forall_mem_cons.mp lacks
    by_cases last : rest = []
    · subst last
      rw [joined, String.intercalate_singleton]
      exact inFirst
    · rw [joined, String.intercalate_cons_of_ne_nil last, String.toList_append,
        String.toList_append, List.append_assoc]
      exact lacks_append_separator apart filled inFirst (inductionHypothesis inRest)

end Text

/-! ### The phase that is read -/

namespace Allocation

theorem phase_of_foldlM_add {pairs : List (PayoutAddress × Amount)} {before after : Allocation}
    (added : pairs.foldlM (fun allocation pair => allocation.add pair.1 pair.2) before =
      .ok after) : after.phase = before.phase := by
  induction pairs generalizing before with
  | nil =>
    cases added
    rfl
  | cons pair rest inductionHypothesis =>
    rw [List.foldlM_cons] at added
    obtain ⟨next, one, others⟩ := bind_eq_ok_iff.mp added
    rw [inductionHypothesis others, (add_eq_ok_iff.mp one).2]

/-- The payout texts say nothing of a phase. -/
theorem phase_of_ofTexts {addresses amounts : String} {read : Allocation}
    (success : ofTexts addresses amounts = .ok read) : read.phase = none := by
  unfold ofTexts at success
  simp only at success
  split at success
  · cases success
  · rename_i paired
    obtain ⟨pairs, _, _, added⟩ :=
      pairs_of_foldlM_addText (Decidable.not_not.mp paired) success
    exact phase_of_foldlM_add added

end Allocation

namespace Quote

/-- The phase of market data is read from the digits of its section. -/
theorem phase_of_ofText {body : String} {quote : Quote} (read : ofText body = .ok quote) :
    ∃ numeral, Section.body? "QTPHASE" body = some numeral ∧
      Decimal.small? numeral.toList = some quote.phase := by
  obtain ⟨numeral, found, afterNumeral⟩ := bind_eq_ok_iff.mp read
  obtain ⟨phase, readPhase, afterPhase⟩ := bind_eq_ok_iff.mp afterNumeral
  obtain ⟨_, _, afterFound⟩ := bind_eq_ok_iff.mp afterPhase
  obtain ⟨cents, _, afterCents⟩ := bind_eq_ok_iff.mp afterFound
  obtain ⟨_, _, afterBbpField⟩ := bind_eq_ok_iff.mp afterCents
  obtain ⟨bbpPrice, _, afterBbp⟩ := bind_eq_ok_iff.mp afterBbpField
  obtain ⟨_, _, afterPriceField⟩ := bind_eq_ok_iff.mp afterBbp
  obtain ⟨price, _, last⟩ := bind_eq_ok_iff.mp afterPriceField
  refine ⟨numeral, ?_, ?_⟩
  · rw [field] at found
    split at found
    · rename_i body found'
      cases found
      exact found'
    · cases found
  · have same : quote.phase = phase := by
      split at last
      · cases last
        rfl
      · cases last
    rw [Quote.readPhase] at readPhase
    split at readPhase
    · rename_i small
      cases readPhase
      rw [small, same]
    · cases readPhase

end Quote

namespace Contract

variable {contract : Contract} {text : String}

/-- The phase as the first section of market data writes it; nothing without one. -/
def phaseNumeral (text : String) : String :=
  ((Section.body? "QTDATA" text).bind (Section.body? "QTPHASE")).getD ""

/-- The texts that a contract is given besides payouts and market data. -/
def freeTexts (contract : Contract) : List String :=
  contract.proposals ++ contract.voteData ++ (contract.sporks.map SporkSection.texts).getD []

theorem canonical_eq_ok_iff :
    canonical text = .ok contract ↔ ofText text = .ok contract ∧ contract.toText = text := by
  constructor
  · intro success
    obtain ⟨read, found, same⟩ := bind_eq_ok_iff.mp success
    split at same
    · rename_i written
      cases same
      exact ⟨found, written⟩
    · cases same
  · rintro ⟨found, written⟩
    exact bind_eq_ok_iff.mpr ⟨contract, found, if_pos written⟩

/-- Market data that is read gives the contract its phase. -/
theorem quote_of_ofText (read : ofText text = .ok contract) :
    (Section.body? "QTDATA" text = none ∧ contract.quote = none ∧
        contract.allocation.phase = none) ∨
      ∃ body quote, Section.body? "QTDATA" text = some body ∧ Quote.ofText body = .ok quote ∧
        contract.quote = some quote ∧ contract.allocation.phase = some quote.phase := by
  obtain ⟨addresses, _, afterAddresses⟩ := bind_eq_ok_iff.mp read
  obtain ⟨amounts, _, afterAmounts⟩ := bind_eq_ok_iff.mp afterAddresses
  obtain ⟨plan, readPlan, afterPlan⟩ := bind_eq_ok_iff.mp afterAmounts
  obtain ⟨sporks, _, afterSporks⟩ := bind_eq_ok_iff.mp afterPlan
  obtain ⟨quote, readQuote, last⟩ := bind_eq_ok_iff.mp afterSporks
  cases found : Section.body? "QTDATA" text with
  | none =>
    rw [found] at readQuote
    cases readQuote
    cases last
    exact Or.inl ⟨rfl, rfl, Allocation.phase_of_ofTexts readPlan⟩
  | some body =>
    rw [found] at readQuote
    obtain ⟨market, readMarket, same⟩ := bind_eq_ok_iff.mp readQuote
    cases same
    cases last
    exact Or.inr ⟨body, market, rfl, readMarket, rfl, rfl⟩

/-- The numeral that is hashed means the phase of the contract. -/
theorem phaseNumeral_spec (read : ofText text = .ok contract) :
    (contract.allocation.phase = none → phaseNumeral text = "") ∧
      ∀ phase, contract.allocation.phase = some phase →
        Decimal.small? (phaseNumeral text).toList = some phase := by
  rw [phaseNumeral]
  rcases quote_of_ofText read with ⟨found, _, phase⟩ | ⟨body, quote, found, readQuote, _, phase⟩
  · rw [found, phase]
    exact ⟨fun _ => rfl, nofun⟩
  · obtain ⟨numeral, inside, small⟩ := Quote.phase_of_ofText readQuote
    rw [found, Option.bind_some, inside, phase]
    refine ⟨nofun, fun _ same => ?_⟩
    cases same
    exact small

theorem phase_eq_of_ofText (read : ofText text = .ok contract) :
    contract.allocation.phase = contract.quote.map Quote.phase := by
  rcases quote_of_ofText read with ⟨_, quote, phase⟩ | ⟨_, _, _, _, quote, phase⟩
  · rw [quote, phase]
    rfl
  · rw [quote, phase]
    rfl

/-- Where no list and no setting opens market data, the section of the contract is the first. -/
theorem clear_of_freeTexts
    (unopened : ∀ given ∈ contract.freeTexts,
      Text.Lacks (Section.openingTag "QTDATA") given.toList) :
    ∀ entry ∈ contract.sections, Section.Clear "QTDATA" entry := by
  obtain ⟨lists, inSporks⟩ := List.forall_mem_append.mp unopened
  obtain ⟨inProposals, inVoteData⟩ := List.forall_mem_append.mp lists
  have isTag : Section.IsTag "QTDATA" := by decide
  have listed : ∀ tag entries, Section.IsTag tag → tag ≠ "QTDATA" →
      (∀ entry ∈ entries, Text.Lacks (Section.openingTag "QTDATA") entry.toList) →
        Section.Clear "QTDATA" (tag, Text.joined "|" entries) :=
    fun tag entries tagIsTag differs lacks =>
      ⟨tagIsTag, fun same => absurd same differs,
        fun _ => Text.lacks_joined (by decide) (by decide) lacks⟩
  refine clear_sections isTag (by decide) (listed _ _ (by decide) (by decide) inProposals)
    (listed _ _ (by decide) (by decide) inVoteData) fun sporks held => ?_
  rw [held] at inSporks
  exact ⟨show Section.IsTag "SPORKS" by decide,
    fun same => absurd (show "SPORKS" = "QTDATA" from same) (by decide),
    fun _ => SporkSection.lacks_body isTag .opening (by decide) inSporks⟩

/-- The fingerprint of canonical text is made of the payouts of the contract and of a numeral that
means its phase. It is the fingerprint of the contract, if that has no phase or no list and no
setting opens a section of market data. -/
theorem canonical_fixes_payouts (read : canonical text = .ok contract) :
    textFingerprint text = .ofTexts contract.allocation.addressesText
        contract.allocation.amountsText (phaseNumeral text) ∧
      (∀ phase, contract.allocation.phase = some phase →
        Decimal.small? (phaseNumeral text).toList = some phase) ∧
      (contract.allocation.phase = none → textFingerprint text = contract.fingerprint) ∧
      ((∀ given ∈ contract.freeTexts, Text.Lacks (Section.openingTag "QTDATA") given.toList) →
        textFingerprint text = contract.fingerprint) := by
  obtain ⟨found, written⟩ := canonical_eq_ok_iff.mp read
  obtain ⟨without, means⟩ := phaseNumeral_spec found
  have hashed : textFingerprint text = .ofTexts contract.allocation.addressesText
      contract.allocation.amountsText (phaseNumeral text) := by
    rw [← written, textFingerprint, contract.body?_payouts.1, contract.body?_payouts.2]
    rfl
  refine ⟨hashed, means, fun none => ?_, fun unopened => ?_⟩
  · rw [hashed, without none, fingerprint, Allocation.phaseText, none]
    rfl
  · rw [← written]
    exact textFingerprint_of_clear (phase_eq_of_ofText found) (clear_of_freeTexts unopened)

end Contract

open SampleText in
/-- No list and no setting of the sample holds a bracket. -/
theorem sample_canonical_fingerprint :
    Contract.canonical contract.toText = .ok contract.rounded ∧
      (∀ given ∈ contract.rounded.freeTexts,
        Text.Lacks (Section.openingTag "QTDATA") given.toList) ∧
      Contract.textFingerprint contract.toText = contract.rounded.fingerprint := by
  have read := isWritable.canonical_toText
  have plain : ∀ given ∈ contract.rounded.freeTexts, '<' ∉ given.toList := by
    decide +kernel
  have unopened : ∀ given ∈ contract.rounded.freeTexts,
      Text.Lacks (Section.openingTag "QTDATA") given.toList :=
    fun given member => Text.lacks_of_notMem (plain given member)
  obtain ⟨_, _, _, same⟩ := Contract.canonical_fixes_payouts read
  exact ⟨read, unopened, same unopened⟩

/-! ### Market data in a list -/

namespace Section

/-- A character that is in no bracket, tag or body is not in the sections. -/
theorem notMem_written {character : Char} {sections : List (String × String)}
    (outside : character ∉ ['<', '>', '/'])
    (tags : ∀ tag ∈ sections.map Prod.fst, character ∉ tag.toList)
    (bodies : ∀ body ∈ sections.map Prod.snd, character ∉ body.toList) :
    character ∉ (written sections).toList := by
  induction sections with
  | nil => simp [written]
  | cons entry rest inductionHypothesis =>
    obtain ⟨inTag, inTags⟩ := List.forall_mem_cons.mp tags
    obtain ⟨inBody, inBodies⟩ := List.forall_mem_cons.mp bodies
    have later := inductionHypothesis inTags inBodies
    rw [written, String.toList_append, toList_wrap, openingTag, closingTag]
    simp_all

end Section

namespace Contract

variable {contract : Contract} {quote : Quote} {numeral : String}

/-- Market data in which a numeral stands for the phase. -/
def hiddenQuote (quote : Quote) (numeral : String) : String :=
  Section.wrap "QTDATA" (Section.written (quote.sectionsAs numeral))

/-- The contract carries market data, and in its only list entry the same market data, where a
numeral means the phase. -/
structure Hides (contract : Contract) (quote : Quote) (numeral : String) : Prop where
  quoted : contract.quote = some quote
  phase : contract.allocation.phase = some quote.phase
  proposals : contract.proposals = [hiddenQuote quote numeral]
  voteData : contract.voteData = []
  sporks : contract.sporks = none
  means : Decimal.small? numeral.toList = some quote.phase
  plain : '<' ∉ numeral.toList ∧ '|' ∉ numeral.toList
  whole : ∀ amount ∈ contract.allocation.amounts, amount.toNat % Amount.cent = 0

theorem hiddenQuote_eq (quote : Quote) (numeral : String) :
    hiddenQuote quote numeral =
      Section.written [("QTDATA", Section.written (quote.sectionsAs numeral))] := by
  rw [Section.written, Section.written, String.append_empty, hiddenQuote]

namespace Hides

variable {tag : String} (hides : contract.Hides quote numeral)

include hides

theorem free_inner (isTag : Section.IsTag tag) (absent : tag ∉ Quote.tags) :
    Section.Free tag (Section.written (quote.sectionsAs numeral)).toList :=
  (quote.isPlain_sectionsAs hides.plain.1).free isTag absent

theorem free_entry (isTag : Section.IsTag tag) (absent : tag ∉ "QTDATA" :: Quote.tags) :
    Section.Free tag (hiddenQuote quote numeral).toList := by
  obtain ⟨differs, absentInside⟩ := not_or.mp (List.mem_cons.not.mp absent)
  rw [hiddenQuote_eq]
  refine Section.free_written isTag ?_ (by simpa using differs) ?_
  · show ∀ other ∈ ["QTDATA"], Section.IsTag other
    decide
  · exact List.forall_mem_singleton.mpr (hides.free_inner isTag absentInside)

theorem joined_proposals : Text.joined "|" contract.proposals = hiddenQuote quote numeral := by
  rw [hides.proposals]
  exact String.intercalate_singleton

/-- Every section but market data is found where it was written. -/
theorem body?_toText (isTag : Section.IsTag tag) (absent : tag ∉ "QTDATA" :: Quote.tags) :
    Section.body? tag contract.toText = contract.sections.lookup tag := by
  rw [toText_eq]
  refine Section.body?_written isTag (clear_sections isTag ?_ ?_ ?_ ?_)
  · exact fun member => absent (List.mem_cons_of_mem _ member)
  · rw [hides.joined_proposals]
    exact (hides.free_entry isTag absent).clear (by decide)
  · rw [hides.voteData]
    exact (Section.free_of_notMem List.not_mem_nil).clear (by decide)
  · rw [hides.sporks]
    exact nofun

/-- Market data is found in the list, which stands before the section of the contract. -/
theorem body?_quote : Section.body? "QTDATA" contract.toText =
    some (Section.written (quote.sectionsAs numeral)) := by
  have isTag : Section.IsTag "QTDATA" := by decide
  obtain ⟨rest, entered⟩ := Section.exists_body?_enter contract.isPlain_payoutSections isTag
    (show Section.IsTag "PROPOSALS" by decide)
    (show "QTDATA" ∉ ["ADDRESSES", "PAYMENTS"] by decide) (by decide)
    (Text.joined "|" contract.proposals)
    ([("VOTEDATA", Text.joined "|" contract.voteData)] ++
      (contract.sporks.map fun sporks => ("SPORKS", sporks.body)).toList ++
      (contract.quote.map fun quote => ("QTDATA", quote.toText)).toList) ""
  have sections : contract.sections = contract.payoutSections ++
      ("PROPOSALS", Text.joined "|" contract.proposals) ::
        ([("VOTEDATA", Text.joined "|" contract.voteData)] ++
          (contract.sporks.map fun sporks => ("SPORKS", sporks.body)).toList ++
          (contract.quote.map fun quote => ("QTDATA", quote.toText)).toList) := by
    simp [Contract.sections]
  rw [String.append_empty, ← sections, ← toText_eq, hides.joined_proposals, hiddenQuote] at entered
  rw [entered]
  exact Section.body?_wrap_self isTag (hides.free_inner isTag (by decide)).closing

theorem separator_notMem : '|' ∉ (hiddenQuote quote numeral).toList := by
  have pointed : ∀ places number, '|' ∉ (FixedPoint.text places number).toList := by
    intro places number
    rw [FixedPoint.text, String.toList_ofList]
    exact Decimal.notMem_pointed (by decide) (by decide) places number
  rw [hiddenQuote_eq]
  refine Section.notMem_written (by decide) ?_ (List.forall_mem_singleton.mpr ?_)
  · show ∀ tag ∈ ["QTDATA"], '|' ∉ tag.toList
    decide
  · refine Section.notMem_written (by decide) ?_ ?_
    · show ∀ tag ∈ Quote.tags, '|' ∉ tag.toList
      decide
    · show ∀ body ∈ [numeral, quote.bbpPriceText, quote.priceText, quote.btcPriceText], _
      simp only [List.forall_mem_cons, List.not_mem_nil, false_implies, implies_true, and_true]
      exact ⟨hides.plain.2, pointed _ _, pointed _ _, pointed _ _⟩

theorem proposals_toText : listSection "PROPOSALS" contract.toText = contract.proposals := by
  have filled : [hiddenQuote quote numeral] ≠ [""] := by
    intro same
    have opened := congrArg String.toList (List.cons.inj same).1
    rw [hiddenQuote, Section.toList_wrap, Section.openingTag] at opened
    cases opened
  rw [listSection, hides.body?_toText (by decide) (by decide)]
  show Text.listed '|' (Text.joined "|" contract.proposals) = contract.proposals
  rw [hides.proposals]
  exact Text.listed_joined (List.forall_mem_singleton.mpr hides.separator_notMem) filled

theorem voteData_toText : listSection "VOTEDATA" contract.toText = contract.voteData := by
  rw [listSection, hides.body?_toText (by decide) (by decide)]
  show Text.listed '|' (Text.joined "|" contract.voteData) = contract.voteData
  rw [hides.voteData]
  rfl

theorem ofText_toText : ofText contract.toText = .ok contract := by
  obtain ⟨addresses, amounts⟩ := contract.requiredSection_payouts
  have fits : ∀ amount ∈ contract.allocation.amounts, amount.rounded < 2 ^ 64 := by
    intro amount member
    rw [Amount.rounded_of_whole (hides.whole amount member)]
    exact amount.toNat_lt
  have readSporks : (Section.body? "SPORKS" contract.toText).mapM SporkSection.ofBody =
      .ok none := by
    rw [hides.body?_toText (by decide) (by decide), lookup_sporks, hides.sporks]
    rfl
  have readQuote : (Section.body? "QTDATA" contract.toText).mapM Quote.ofText =
      .ok (some quote) := by
    rw [hides.body?_quote, Option.mapM_some, quote.ofText_sectionsAs hides.plain.1 hides.means]
    rfl
  refine bind_eq_ok_iff.mpr ⟨_, addresses, bind_eq_ok_iff.mpr ⟨_, amounts, ?_⟩⟩
  refine bind_eq_ok_iff.mpr ⟨_, Allocation.ofTexts_written fits, ?_⟩
  refine bind_eq_ok_iff.mpr ⟨_, readSporks, bind_eq_ok_iff.mpr ⟨_, readQuote, ?_⟩⟩
  have kept := Allocation.rounded_of_whole hides.whole
  have phase := hides.phase
  have quoted := hides.quoted
  have sporks := hides.sporks
  rw [hides.proposals_toText, hides.voteData_toText]
  obtain ⟨allocation, proposals, voteData, _, _⟩ := contract
  cases quoted
  cases sporks
  change allocation.phase = some quote.phase at phase
  change allocation.rounded.withPhase allocation.phase = allocation at kept
  rw [phase] at kept
  show Except.ok (Contract.mk (allocation.rounded.withPhase (some quote.phase)) proposals voteData
    none (some quote)) = _
  rw [kept]

/-- The text is canonical, but its fingerprint is made with the numeral in the list. -/
theorem canonical_toText : canonical contract.toText = .ok contract ∧
    textFingerprint contract.toText = .ofTexts contract.allocation.addressesText
      contract.allocation.amountsText numeral := by
  refine ⟨canonical_eq_ok_iff.mpr ⟨hides.ofText_toText, rfl⟩, ?_⟩
  have read : Section.body? "QTPHASE" (Section.written (quote.sectionsAs numeral)) =
      some numeral :=
    (quote.isPlain_sectionsAs hides.plain.1).body?_eq_lookup (by decide)
  rw [textFingerprint, contract.body?_payouts.1, contract.body?_payouts.2, hides.body?_quote,
    Option.bind_some, read]
  rfl

end Hides

end Contract

namespace HiddenQuote

theorem isText : PayoutAddress.IsText "X" := by
  decide

/-- A contract with the phase 1, which its list writes with a zero. -/
def contract : Contract :=
  { allocation := { payouts := .ofList [(⟨"X", isText⟩, 100000000000)], phase := some 1 }
    proposals := [Contract.hiddenQuote ⟨1, 0, 0, 0⟩ "01"]
    quote := some ⟨1, 0, 0, 0⟩ }

theorem hides : contract.Hides ⟨1, 0, 0, 0⟩ "01" where
  quoted := rfl
  phase := rfl
  proposals := rfl
  voteData := rfl
  sporks := rfl
  means := by decide
  plain := by decide
  whole := by
    have every : (contract.allocation.amounts.all fun amount =>
        amount.toNat % Amount.cent = 0) = true := by decide
    exact fun amount member => of_decide_eq_true (List.all_eq_true.mp every amount member)

end HiddenQuote

/-- The text is canonical, and its fingerprint is not that of the contract. -/
theorem canonical_text_hides_phase :
    Contract.canonical HiddenQuote.contract.toText = .ok HiddenQuote.contract ∧
      Contract.textFingerprint HiddenQuote.contract.toText ≠
        HiddenQuote.contract.fingerprint := by
  obtain ⟨canonical, text⟩ := HiddenQuote.hides.canonical_toText
  rw [text]
  exact ⟨canonical, by decide +kernel⟩

end SuperblockGovernance

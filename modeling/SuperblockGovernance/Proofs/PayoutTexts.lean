/-
Payout texts. Cutting a list at its separators and writing it with separators undo each
other, addresses and amounts hold no separator, and an amount of whole cents reads back as
itself. So the texts that an allocation writes can be read in one way only: as that
allocation.
-/

import SuperblockGovernance.Allocation
import SuperblockGovernance.Proofs.DecimalNumerals
import SuperblockGovernance.Proofs.SortedMaps

namespace SuperblockGovernance

/-! ### Amounts -/

namespace Amount

theorem toList_text (amount : Amount) :
    amount.text.toList = Decimal.pointed 2 amount.nearestCents :=
  String.toList_ofList

/-- The text of an amount reads as the amount rounded to cents, if 64 bits can hold that. -/
theorem ofText?_text (amount : Amount) :
    ofText? amount.text =
      if amount.nearestCents * cent < 2 ^ 64 then
        some (UInt64.ofNat (amount.nearestCents * cent))
      else none := by
  have units : unitsOfText? amount.text.toList = some (amount.nearestCents * cent) := by
    rw [toList_text, unitsOfText?, Decimal.pointed,
      Decimal.cutAtPoint_append (Decimal.isNumeral_digits _)]
    have short : (Decimal.padLeft 2 (Decimal.digits (amount.nearestCents % 10 ^ 2))).length ≤
        decimals := by
      rw [Decimal.length_padLeft (by decide)]
      decide
    refine (if_pos ⟨Decimal.isNumeral_digits _, Decimal.isNumeral_padLeft _ _, short⟩).trans ?_
    exact congrArg some
      (Decimal.units_pointed (show 0 < 2 by decide) (show 2 ≤ decimals by decide) _)
  rw [ofText?, units, Option.bind_eq_bind, Option.bind_some]

/-- The amount to the nearest cent, halves up. -/
def rounded (amount : Amount) : Nat :=
  amount.nearestCents * cent

theorem ofText?_text_of_lt {amount : Amount} (fits : amount.rounded < 2 ^ 64) :
    ofText? amount.text = some (UInt64.ofNat amount.rounded) :=
  (ofText?_text amount).trans (if_pos fits)

theorem rounded_lt_of_ofText?_text {amount other : Amount}
    (read : ofText? amount.text = some other) : amount.rounded < 2 ^ 64 := by
  rw [ofText?_text] at read
  split at read
  · rename_i fits
    exact fits
  · cases read

/-- Rounding moves an amount by at most half a cent. -/
theorem rounded_near (amount : Amount) :
    2 * amount.rounded ≤ 2 * amount.toNat + cent ∧
      2 * amount.toNat ≤ 2 * amount.rounded + cent := by
  simp only [rounded, nearestCents, cent]
  omega

theorem rounded_of_whole {amount : Amount} (whole : amount.toNat % cent = 0) :
    amount.rounded = amount.toNat := by
  simp only [rounded, nearestCents, cent] at *
  omega

/-- Rounding an amount does not change its text. -/
theorem text_rounded {amount : Amount} (fits : amount.rounded < 2 ^ 64) :
    text (UInt64.ofNat amount.rounded) = amount.text := by
  rw [text, text, nearestCents, UInt64.toNat_ofNat_of_lt' fits]
  simp only [rounded, nearestCents, cent]
  congr 2
  omega

/-- The amount is one of whole cents, or the greatest amount. -/
def IsPayable (amount : Amount) : Prop :=
  amount.toNat % cent = 0 ∨ amount.toNat = 2 ^ 64 - 1

/-- When the text of such an amount can be read, it reads as that amount. -/
theorem eq_of_ofText?_text {amount other : Amount} (payable : amount.IsPayable)
    (read : ofText? amount.text = some other) : other = amount := by
  rw [ofText?_text] at read
  split at read
  · rename_i within
    cases read
    rw [← UInt64.toNat_inj, UInt64.toNat_ofNat_of_lt' within]
    rw [nearestCents] at within ⊢
    rcases payable with whole | greatest
    · simp only [cent] at *
      omega
    · rw [greatest] at within
      exact absurd within (by decide)
  · cases read

/-- No separator stands in the text of an amount. -/
theorem separator_notMem_text (amount : Amount) : '|' ∉ amount.text.toList := by
  rw [toList_text]
  exact Decimal.notMem_pointed (by decide) (by decide) _ _

theorem text_ne_empty (amount : Amount) : amount.text ≠ "" := by
  intro empty
  have nothing := toList_text amount
  rw [empty, Decimal.pointed] at nothing
  exact List.append_ne_nil_of_right_ne_nil _ (List.cons_ne_nil _ _) nothing.symm

end Amount

/-! ### Lists with separators -/

namespace Text

theorem pieces_eq_splitOn (separator : Char) (text : List Char) :
    pieces separator text = text.splitOn separator := by
  induction text with
  | nil => rfl
  | cons character rest inductionHypothesis =>
    rw [pieces, inductionHypothesis, List.splitOn_cons_eq_if_modifyHead]
    by_cases same : character = separator
    · rw [if_pos same, if_pos (beq_iff_eq.mpr same)]
    · rw [if_neg same, if_neg (by simpa using same)]
      cases cut : rest.splitOn separator with
      | nil => exact absurd cut (List.splitOn_ne_nil _ _)
      | cons piece others => rfl

/-- A written list reads back when its entries hold no separator. Only the list of one empty
entry is written as the empty list is. -/
theorem listed_joined {entries : List String} (apart : ∀ entry ∈ entries, '|' ∉ entry.toList)
    (filled : entries ≠ [""]) : listed '|' (joined "|" entries) = entries := by
  cases entries with
  | nil => rfl
  | cons first rest =>
    have letters : (joined "|" (first :: rest)).toList =
        ['|'].intercalate ((first :: rest).map String.toList) :=
      String.toList_intercalate
    have cut : pieces '|' (joined "|" (first :: rest)).toList =
        (first :: rest).map String.toList := by
      rw [pieces_eq_splitOn, letters]
      refine List.splitOn_intercalate '|' (fun entry member => ?_) (List.cons_ne_nil _ _)
      obtain ⟨text, inside, rfl⟩ := List.mem_map.mp member
      exact apart text inside
    have nonempty : (joined "|" (first :: rest)).isEmpty = false := by
      refine Bool.eq_false_iff.mpr fun empty => filled ?_
      rw [String.isEmpty_iff.mp empty] at cut
      obtain ⟨nothing, others⟩ := List.cons.inj cut
      rw [String.toList_eq_nil_iff.mp nothing.symm, List.map_eq_nil_iff.mp others.symm]
    rw [listed, nonempty, if_neg Bool.false_ne_true, cut, List.map_map]
    refine (List.map_congr_left fun entry _ => ?_).trans (List.map_id _)
    exact String.ofList_toList

/-- Writing the entries that were read gives the text back. -/
theorem joined_listed (text : String) : joined "|" (listed '|' text) = text := by
  rw [listed]
  split
  · rename_i empty
    exact (String.isEmpty_iff.mp empty).symm
  · have letters : (joined "|" ((pieces '|' text.toList).map String.ofList)).toList =
        ['|'].intercalate (((pieces '|' text.toList).map String.ofList).map String.toList) :=
      String.toList_intercalate
    have same : ((pieces '|' text.toList).map String.ofList).map String.toList =
        pieces '|' text.toList := by
      rw [List.map_map]
      exact (List.map_congr_left fun piece _ => String.toList_ofList).trans (List.map_id _)
    have whole : ['|'].intercalate (pieces '|' text.toList) = text.toList := by
      rw [pieces_eq_splitOn, List.intercalate_splitOn]
    rw [same, whole] at letters
    exact String.toList_inj.mp letters

theorem length_joined (first : String) (rest : List String) :
    (joined "|" (first :: rest)).length + 1 =
      sumOf (fun entry => entry.length + 1) (first :: rest) := by
  induction rest generalizing first with
  | nil => simp [joined]
  | cons second others inductionHypothesis =>
    have later := inductionHypothesis second
    rw [joined] at later ⊢
    rw [String.intercalate_cons_of_ne_nil (List.cons_ne_nil _ _), sumOf_cons, ← later,
      String.length_append, String.length_append]
    show first.length + 1 + _ + 1 = _
    omega

/-- A list written in another order takes as much room. -/
theorem length_joined_of_perm {entries others : List String} (reordered : entries.Perm others) :
    (joined "|" entries).length = (joined "|" others).length := by
  cases entries with
  | nil => rw [reordered.nil_eq]
  | cons first rest =>
    cases others with
    | nil => cases reordered.eq_nil
    | cons second remaining =>
      have sums := sumOf_of_perm (fun entry => entry.length + 1) reordered
      rw [← length_joined, ← length_joined] at sums
      omega

end Text

/-! ### Payout plans -/

theorem PayoutAddress.text_of_ofText? {text : String} {address : PayoutAddress}
    (read : PayoutAddress.ofText? text = some address) : address.text = text := by
  rw [ofText?] at read
  split at read
  · cases read
    rfl
  · cases read

theorem PayoutAddress.separator_notMem_text (address : PayoutAddress) :
    '|' ∉ address.text.toList := by
  intro member
  cases List.all_eq_true.mp address.isText.2.2 _ member

namespace Allocation

theorem add_eq_ok_iff {allocation next : Allocation} {address : PayoutAddress} {amount : Amount} :
    allocation.add address amount = .ok next ↔ allocation.payouts.contains address = false ∧
      next = { allocation with payouts := allocation.payouts.insert address amount } := by
  rw [add]
  cases allocation.payouts.contains address with
  | true => simp
  | false => simp [eq_comm]

/-- A plan to which pairs were added holds just these besides what it held. -/
theorem perm_of_foldlM_add {pairs : List (PayoutAddress × Amount)} {before after : Allocation}
    (added : pairs.foldlM (fun allocation (address, amount) => allocation.add address amount)
      before = .ok after) :
    after.payouts.entries.Perm (pairs ++ before.payouts.entries) := by
  induction pairs generalizing before with
  | nil =>
    cases added
    exact .refl _
  | cons pair rest inductionHypothesis =>
    rw [List.foldlM_cons] at added
    obtain ⟨next, one, others⟩ := bind_eq_ok_iff.mp added
    obtain ⟨fresh, rfl⟩ := add_eq_ok_iff.mp one
    refine (inductionHypothesis others).trans ?_
    exact ((SortedMap.perm_insert fresh pair.2).append_left rest).trans List.perm_middle

theorem readAddress_eq_ok_iff {text : String} {address : PayoutAddress} :
    readAddress text = .ok address ↔ PayoutAddress.ofText? text = some address := by
  rw [readAddress]
  cases PayoutAddress.ofText? text with
  | none => simp
  | some found => simp

theorem readAmount_eq_ok_iff {text : String} {amount : Amount} :
    readAmount text = .ok amount ↔ Amount.ofText? text = some amount := by
  rw [readAmount]
  cases Amount.ofText? text with
  | none => simp
  | some found => simp

/-- Payouts added by their texts are pairs of addresses and amounts with these texts. -/
theorem pairs_of_foldlM_addText {addresses amounts : List String}
    (paired : addresses.length = amounts.length) {before after : Allocation}
    (added : (addresses.zip amounts).foldlM
      (fun allocation (address, amount) => allocation.addText address amount)
        before = .ok after) :
    ∃ pairs : List (PayoutAddress × Amount), addresses = pairs.map (fun pair => pair.1.text) ∧
      amounts.map Amount.ofText? = pairs.map (fun pair => some pair.2) ∧
      pairs.foldlM (fun allocation (address, amount) => allocation.add address amount)
        before = .ok after := by
  induction addresses generalizing amounts before with
  | nil =>
    obtain rfl := List.eq_nil_of_length_eq_zero paired.symm
    exact ⟨[], rfl, rfl, added⟩
  | cons address otherAddresses inductionHypothesis =>
    cases amounts with
    | nil => cases paired
    | cons amount otherAmounts =>
      rw [List.zip_cons_cons, List.foldlM_cons] at added
      obtain ⟨next, one, others⟩ := bind_eq_ok_iff.mp added
      obtain ⟨payee, readAddress, afterAddress⟩ := bind_eq_ok_iff.mp one
      obtain ⟨value, readAmount, afterAmount⟩ := bind_eq_ok_iff.mp afterAddress
      obtain ⟨pairs, sameAddresses, sameAmounts, rest⟩ :=
        inductionHypothesis (Nat.succ.inj paired) others
      refine ⟨(payee, value) :: pairs, ?_, ?_, ?_⟩
      · rw [List.map_cons, ← sameAddresses, PayoutAddress.text_of_ofText?
          (readAddress_eq_ok_iff.mp readAddress)]
      · rw [List.map_cons, List.map_cons, ← sameAmounts, readAmount_eq_ok_iff.mp readAmount]
      · rw [List.foldlM_cons]
        exact bind_eq_ok_iff.mpr ⟨next, afterAmount, rest⟩

/-- Payout texts that can be read list the addresses and the amounts of the payouts, though not
always in the order of the addresses. -/
theorem pairs_of_ofTexts {addresses amounts : String} {read : Allocation}
    (success : ofTexts addresses amounts = .ok read) :
    ∃ pairs : List (PayoutAddress × Amount),
      Text.listed '|' addresses = pairs.map (fun pair => pair.1.text) ∧
      (Text.listed '|' amounts).map Amount.ofText? = pairs.map (fun pair => some pair.2) ∧
      read.payouts.entries.Perm pairs := by
  unfold ofTexts at success
  simp only at success
  split at success
  · cases success
  · rename_i paired
    obtain ⟨pairs, sameAddresses, sameAmounts, added⟩ :=
      pairs_of_foldlM_addText (Decidable.not_not.mp paired) success
    refine ⟨pairs, sameAddresses, sameAmounts, ?_⟩
    have held := perm_of_foldlM_add added
    rwa [show (empty : Allocation).payouts.entries = [] from rfl, List.append_nil] at held

/-! ### Reading what a plan writes -/

variable {plan : Allocation}

theorem listed_addressesText :
    Text.listed '|' plan.addressesText = plan.pairs.map (fun pair => pair.1.text) := by
  have written : plan.addressesText = Text.joined "|" (plan.addresses.map PayoutAddress.text) := rfl
  have apart : ∀ entry ∈ plan.addresses.map PayoutAddress.text, '|' ∉ entry.toList := by
    intro entry member
    obtain ⟨address, _, rfl⟩ := List.mem_map.mp member
    exact address.separator_notMem_text
  have filled : "" ∉ plan.addresses.map PayoutAddress.text := by
    intro member
    obtain ⟨address, _, empty⟩ := List.mem_map.mp member
    exact address.isText.1 empty
  rw [written, Text.listed_joined apart fun only => filled (only ▸ List.mem_singleton_self _)]
  exact List.map_map

theorem listed_amountsText :
    Text.listed '|' plan.amountsText = plan.pairs.map (fun pair => pair.2.text) := by
  have written : plan.amountsText = Text.joined "|" (plan.amounts.map Amount.text) := rfl
  have apart : ∀ entry ∈ plan.amounts.map Amount.text, '|' ∉ entry.toList := by
    intro entry member
    obtain ⟨amount, _, rfl⟩ := List.mem_map.mp member
    exact amount.separator_notMem_text
  have filled : "" ∉ plan.amounts.map Amount.text := by
    intro member
    obtain ⟨amount, _, empty⟩ := List.mem_map.mp member
    exact amount.text_ne_empty empty
  rw [written, Text.listed_joined apart fun only => filled (only ▸ List.mem_singleton_self _)]
  exact List.map_map

theorem pairs_eq_of_texts {pairs others : List (PayoutAddress × Amount)}
    (texts : pairs.map (fun pair => pair.1.text) = others.map (fun pair => pair.1.text))
    (amounts : pairs.map (fun pair => some pair.2) = others.map (fun pair => some pair.2)) :
    pairs = others := by
  induction pairs generalizing others with
  | nil => exact (List.map_eq_nil_iff.mp texts.symm).symm
  | cons pair rest inductionHypothesis =>
    cases others with
    | nil => cases texts
    | cons other remaining =>
      obtain ⟨⟨text, isText⟩, amount⟩ := pair
      obtain ⟨⟨otherText, otherIsText⟩, otherAmount⟩ := other
      obtain ⟨sameText, laterTexts⟩ := List.cons.inj texts
      obtain ⟨sameAmount, laterAmounts⟩ := List.cons.inj amounts
      cases sameText
      cases sameAmount
      rw [inductionHypothesis laterTexts laterAmounts]

/-- Payouts are those of a plan exactly when the address text is that of the plan and the amount
text reads as its amounts, provided that both address texts begin a common text. -/
theorem payouts_eq_iff {addresses amounts : String} {read : Allocation}
    (success : ofTexts addresses amounts = .ok read) {first second : String}
    (common : addresses ++ first = plan.addressesText ++ second) :
    read.payouts = plan.payouts ↔ addresses = plan.addressesText ∧
      (Text.listed '|' amounts).map Amount.ofText? = plan.pairs.map (fun pair => some pair.2) := by
  obtain ⟨pairs, sameAddresses, sameAmounts, held⟩ := pairs_of_ofTexts success
  constructor
  · intro same
    rw [same] at held
    have length : addresses.length = plan.addressesText.length := by
      rw [← Text.joined_listed addresses, ← Text.joined_listed plan.addressesText, sameAddresses,
        listed_addressesText]
      exact Text.length_joined_of_perm (held.symm.map _)
    have whole : addresses = plan.addressesText := by
      have letters := congrArg String.toList common
      rw [String.toList_append, String.toList_append] at letters
      refine String.toList_inj.mp (List.append_inj letters ?_).1
      rw [String.length_toList, String.length_toList, length]
    -- the addresses that were read ascend as those of the plan do
    have ascending : (plan.pairs.map fun pair => pair.1.text).Pairwise
        fun first second => compare first second = .lt :=
      List.pairwise_map.mpr plan.payouts.ascending
    rw [← listed_addressesText, ← whole, sameAddresses] at ascending
    have alike : plan.payouts = ⟨pairs, List.pairwise_map.mp ascending⟩ :=
      SortedMap.eq_of_perm held
    refine ⟨whole, ?_⟩
    rw [sameAmounts, Allocation.pairs, alike]
  · rintro ⟨rfl, reads⟩
    have same : pairs = plan.pairs := by
      refine pairs_eq_of_texts ?_ ?_
      · rw [← sameAddresses, listed_addressesText]
      · rw [← sameAmounts, reads]
    rw [same] at held
    exact SortedMap.eq_of_perm held

/-- What a plan of payable amounts writes reads as its amounts, if it can be read at all. -/
theorem amounts_of_amountsText {addresses : String} {read : Allocation}
    (payable : ∀ pair ∈ plan.pairs, pair.2.IsPayable)
    (success : ofTexts addresses plan.amountsText = .ok read) :
    (Text.listed '|' plan.amountsText).map Amount.ofText? =
      plan.pairs.map (fun pair => some pair.2) := by
  obtain ⟨pairs, _, sameAmounts, _⟩ := pairs_of_ofTexts success
  rw [listed_amountsText, List.map_map, Function.comp_def] at sameAmounts ⊢
  refine List.map_congr_left fun pair member => ?_
  have readable : Amount.ofText? pair.2.text ∈ pairs.map (fun pair => some pair.2) := by
    rw [← sameAmounts]
    exact List.mem_map_of_mem member
  obtain ⟨found, _, same⟩ := List.mem_map.mp readable
  rw [← same, Amount.eq_of_ofText?_text (payable pair member) same.symm]

/-- Adding payouts by their texts is adding the payouts that they are read as. -/
theorem foldlM_addText_eq {pairs : List (PayoutAddress × Amount)} {amounts : List String}
    (reads : amounts.map Amount.ofText? = pairs.map (fun pair => some pair.2))
    (before : Allocation) :
    ((pairs.map fun pair => pair.1.text).zip amounts).foldlM
        (fun allocation (address, amount) => allocation.addText address amount) before =
      pairs.foldlM (fun allocation (address, amount) => allocation.add address amount) before := by
  induction pairs generalizing amounts before with
  | nil => rfl
  | cons pair rest inductionHypothesis =>
    cases amounts with
    | nil => cases reads
    | cons text others =>
      obtain ⟨readFirst, readOthers⟩ := List.cons.inj reads
      have first : before.addText pair.1.text text = before.add pair.1 pair.2 := by
        rw [addText, readAddress_eq_ok_iff.mpr (PayoutAddress.ofText?_text pair.1),
          readAmount_eq_ok_iff.mpr readFirst]
        rfl
      rw [List.map_cons, List.zip_cons_cons, List.foldlM_cons, List.foldlM_cons]
      show (before.addText pair.1.text text >>= _) = (before.add pair.1 pair.2 >>= _)
      rw [first]
      exact congrArg _ (funext fun next => inductionHypothesis readOthers next)

/-- Payouts to different addresses that have none yet can all be added. -/
theorem exists_foldlM_add {pairs : List (PayoutAddress × Amount)} (before : Allocation)
    (distinct : (pairs.map Prod.fst).Nodup)
    (fresh : ∀ pair ∈ pairs, before.payouts.contains pair.1 = false) :
    ∃ after : Allocation, after.phase = before.phase ∧
      pairs.foldlM (fun allocation (address, amount) => allocation.add address amount) before =
        .ok after := by
  induction pairs generalizing before with
  | nil => exact ⟨before, rfl, rfl⟩
  | cons pair rest inductionHypothesis =>
    obtain ⟨outside, restDistinct⟩ := List.nodup_cons.mp distinct
    have added : before.add pair.1 pair.2 =
        .ok { before with payouts := before.payouts.insert pair.1 pair.2 } :=
      add_eq_ok_iff.mpr ⟨fresh pair List.mem_cons_self, rfl⟩
    have later : ∀ other ∈ rest,
        (before.payouts.insert pair.1 pair.2).contains other.1 = false := by
      intro other member
      rw [Bool.eq_false_iff, Ne, SortedMap.contains_insert, not_or]
      refine ⟨fun same => outside (same ▸ List.mem_map_of_mem member), ?_⟩
      exact Bool.eq_false_iff.mp (fresh other (List.mem_cons_of_mem _ member))
    obtain ⟨after, phase, others⟩ :=
      inductionHypothesis { before with payouts := before.payouts.insert pair.1 pair.2 }
        restDistinct later
    refine ⟨after, phase, ?_⟩
    rw [List.foldlM_cons]
    exact bind_eq_ok_iff.mpr ⟨_, added, others⟩

/-- The plan with its amounts to the nearest cent, without a phase. -/
def rounded (plan : Allocation) : Allocation :=
  { payouts := plan.payouts.mapValues fun _ amount => UInt64.ofNat amount.rounded }

/-- The sum of all payouts, each to the nearest cent. -/
def roundedTotal (plan : Allocation) : Nat :=
  sumOf Amount.rounded plan.amounts

theorem amounts_rounded :
    plan.rounded.amounts = plan.amounts.map fun amount => UInt64.ofNat amount.rounded := by
  simp [amounts, rounded, SortedMap.values, SortedMap.mapValues]

theorem addresses_rounded : plan.rounded.addresses = plan.addresses := by
  simp [addresses, rounded, SortedMap.keys, SortedMap.mapValues]

theorem total_rounded (fits : ∀ amount ∈ plan.amounts, amount.rounded < 2 ^ 64) :
    plan.rounded.total = plan.roundedTotal := by
  rw [total, amounts_rounded, sumOf_map]
  exact sumOf_congr fun amount member => UInt64.toNat_ofNat_of_lt' (fits amount member)

/-- What a plan writes reads as the plan with rounded amounts, if 64 bits can hold them. -/
theorem ofTexts_written (fits : ∀ amount ∈ plan.amounts, amount.rounded < 2 ^ 64) :
    ofTexts plan.addressesText plan.amountsText = .ok plan.rounded := by
  have reads : (Text.listed '|' plan.amountsText).map Amount.ofText? =
      plan.rounded.pairs.map (fun pair => some pair.2) := by
    show _ = (plan.pairs.map fun pair => (pair.1, UInt64.ofNat pair.2.rounded)).map _
    rw [listed_amountsText, List.map_map, List.map_map, Function.comp_def, Function.comp_def]
    refine List.map_congr_left fun pair member => ?_
    exact Amount.ofText?_text_of_lt (fits pair.2 (List.mem_map_of_mem member))
  have addresses : Text.listed '|' plan.addressesText =
      plan.rounded.pairs.map fun pair => pair.1.text := by
    rw [listed_addressesText]
    show _ = (plan.pairs.map fun pair => (pair.1, UInt64.ofNat pair.2.rounded)).map _
    rw [List.map_map]
    rfl
  have lengths := congrArg List.length reads
  rw [List.length_map, List.length_map] at lengths
  obtain ⟨after, phase, added⟩ := exists_foldlM_add empty
    (SortedMap.nodup_keys plan.rounded.payouts) fun _ _ => rfl
  have held := perm_of_foldlM_add added
  rw [show (empty : Allocation).payouts.entries = [] from rfl, List.append_nil] at held
  unfold ofTexts
  simp only
  rw [if_neg (by rw [addresses, List.length_map, lengths]; exact not_not_intro rfl), addresses,
    foldlM_addText_eq reads]
  refine added.trans ?_
  obtain ⟨payouts, _⟩ := after
  obtain rfl : payouts = plan.rounded.payouts := SortedMap.eq_of_perm held
  cases phase
  rfl

/-- What a plan writes can be read only if 64 bits can hold its rounded amounts. -/
theorem rounded_lt_of_ofTexts {read : Allocation}
    (success : ofTexts plan.addressesText plan.amountsText = .ok read) :
    ∀ amount ∈ plan.amounts, amount.rounded < 2 ^ 64 := by
  intro amount member
  obtain ⟨pair, inside, rfl⟩ := List.mem_map.mp member
  obtain ⟨pairs, _, sameAmounts, _⟩ := pairs_of_ofTexts success
  have readable : Amount.ofText? pair.2.text ∈ pairs.map (fun pair => some pair.2) := by
    rw [← sameAmounts, listed_amountsText, List.map_map, Function.comp_def]
    exact List.mem_map_of_mem inside
  obtain ⟨found, _, same⟩ := List.mem_map.mp readable
  exact Amount.rounded_lt_of_ofText?_text same.symm

/-- Rounding moves the total by at most half a cent for each payee. -/
theorem roundedTotal_near (plan : Allocation) :
    2 * plan.roundedTotal ≤ 2 * plan.total + plan.pairs.length * Amount.cent ∧
      2 * plan.total ≤ 2 * plan.roundedTotal + plan.pairs.length * Amount.cent := by
  have count : plan.pairs.length = plan.amounts.length := (List.length_map _).symm
  rw [count, total, roundedTotal]
  generalize plan.amounts = amounts
  induction amounts with
  | nil => exact ⟨Nat.le_refl _, Nat.le_refl _⟩
  | cons amount rest inductionHypothesis =>
    have near := amount.rounded_near
    rw [sumOf_cons, sumOf_cons, List.length_cons, Nat.add_mul, Nat.one_mul]
    omega

end Allocation

end SuperblockGovernance

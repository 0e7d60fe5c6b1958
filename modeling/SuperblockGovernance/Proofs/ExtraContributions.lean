/-
One more contribution. Its points raise what the payee has in the campaign and, by as much, what
all payees have there together. A share of the campaign is a quotient of the two, so the payee's
does not fall and nobody else's rises, and no share of another campaign changes. Cutting to whole
numbers, rounding to cents and dropping what is small all keep the order of two numbers, so the
same holds of prominences and of amounts.
-/

import SuperblockGovernance.Proofs.PlanRounding
import SuperblockGovernance.Proofs.QualifyingRecords

namespace SuperblockGovernance

/-! ### Points with one more award -/

namespace PointTable

variable {table : PointTable} {award : Award} {payee : PayoutAddress} {campaign : Campaign}

/-- The points of a payee, none if it is not listed. -/
def pointsOf (table : PointTable) (payee : PayoutAddress) : SortedMap Campaign Nat :=
  (table.get? payee).getD .empty

theorem ofAwards_concat (awards : List Award) (award : Award) :
    ofAwards (awards ++ [award]) = (ofAwards awards).add award :=
  List.foldl_append

theorem mem_columns_of_mem_pointsOf {column : Campaign × Nat}
    (member : column ∈ (table.pointsOf payee).entries) : column ∈ table.columns := by
  rw [pointsOf] at member
  cases held : table.get? payee with
  | none =>
    rw [held] at member
    cases member
  | some points =>
    rw [held] at member
    exact mem_columns_iff.mpr ⟨payee, points, held, SortedMap.get?_eq_some_iff.mpr member⟩

theorem le_totalOf {column : Campaign × Nat} (member : column ∈ table.columns) :
    column.2 ≤ table.totalOf column.1 := by
  rw [totalOf_eq]
  exact le_sumOf_of_mem Prod.snd (List.mem_filter.mpr ⟨member, decide_eq_true rfl⟩)

theorem pointsOf_add (table : PointTable) (something : award.points ≠ 0) :
    (table.add award).pointsOf award.payee =
      (table.pointsOf award.payee).alter award.campaign fun before =>
        before.getD 0 + award.points := by
  rw [pointsOf, add_of_some something, SortedMap.get?_alter, if_pos rfl]
  rfl

theorem pointsOf_add_of_ne (other : payee ≠ award.payee) :
    (table.add award).pointsOf payee = table.pointsOf payee := by
  rw [PointTable.add]
  split
  · rfl
  · rw [pointsOf, SortedMap.get?_alter, if_neg other]
    rfl

/-- The points of a campaign are what the payees have there, one after the other. -/
theorem totalOf_eq_sumOf (table : PointTable) (campaign : Campaign) :
    table.totalOf campaign =
      sumOf (fun entry => (entry.2.get? campaign).getD 0) table.entries := by
  rw [totalOf_eq, columns, List.filter_flatMap, sumOf_flatMap, SortedMap.values, sumOf_map]
  exact sumOf_congr fun entry _ => SortedMap.sumOf_filter_key entry.2 campaign

theorem totalOf_add (table : PointTable) (award : Award) (campaign : Campaign) :
    (table.add award).totalOf campaign =
      table.totalOf campaign + if campaign = award.campaign then award.points else 0 := by
  by_cases nothing : award.points = 0
  · rw [add_of_none nothing, nothing, ite_self, Nat.add_zero]
  rw [add_of_some nothing, totalOf_eq_sumOf, totalOf_eq_sumOf, SortedMap.sumOf_alter,
    SortedMap.sumOf_entries _ table award.payee, SortedMap.get?_alter]
  have held : ((table.get? award.payee).map fun points => (points.get? campaign).getD 0).getD 0 =
      ((table.pointsOf award.payee).get? campaign).getD 0 := by
    rw [pointsOf]
    cases table.get? award.payee <;> rfl
  rw [held, pointsOf]
  split
  · rename_i same
    rw [same, Option.getD_some]
    omega
  · rfl

theorem totalOf_add_of_ne (other : campaign ≠ award.campaign) :
    (table.add award).totalOf campaign = table.totalOf campaign := by
  rw [totalOf_add, if_neg other, Nat.add_zero]

theorem totalOf_add_self (table : PointTable) (award : Award) :
    (table.add award).totalOf award.campaign = table.totalOf award.campaign + award.points := by
  rw [totalOf_add, if_pos rfl]

end PointTable

/-! ### Shares of more points -/

namespace Prominence

variable {points more weight total : Nat}

/-- Points are worth no more among more points of others. -/
theorem share_add_total_le (fits : points * (weight * scale) ≤ Rounding.maxWord128)
    (among : points ≤ total) (more : Nat) :
    share points weight (total + more) ≤ share points weight total := by
  rw [share_eq fits, share_eq fits]
  rcases Nat.eq_zero_or_pos total with none | some
  · have nothing : points = 0 := Nat.le_zero.mp (none ▸ among)
    rw [nothing, Nat.zero_mul, Nat.zero_div]
    exact Nat.zero_le _
  · exact Nat.div_le_div_left (Nat.le_add_right _ _) some

/-- More points are worth no less, although they count among all points as well. -/
theorem share_le_share_add (fits : (points + more) * (weight * scale) ≤ Rounding.maxWord128)
    (among : points ≤ total) :
    share points weight total ≤ share (points + more) weight (total + more) := by
  have fewer : points * (weight * scale) ≤ Rounding.maxWord128 :=
    Nat.le_trans (Nat.mul_le_mul_right _ (Nat.le_add_right points more)) fits
  rw [share_eq fits, share_eq fewer]
  generalize weight * pointScale = parts
  rcases Nat.eq_zero_or_pos total with none | some
  · rw [none, Nat.div_zero]
    exact Nat.zero_le _
  -- a share is at most all the parts, so each further point is worth as much as the share
  have within : points * parts / total ≤ parts :=
    Nat.div_le_of_le_mul (Nat.mul_le_mul_right parts among)
  rw [Nat.le_div_iff_mul_le (Nat.add_pos_left some more), Nat.mul_add, Nat.add_mul]
  refine Nat.add_le_add (Nat.div_mul_le_self _ _) ?_
  rw [Nat.mul_comm]
  exact Nat.mul_le_mul_left more within

end Prominence

namespace AllocationRules

variable {rules : AllocationRules} {records extended : ChainRecords} {snapshot : Height}
variable {weights : SortedMap Campaign UInt32} {table : PointTable} {award : Award}
variable {payee : PayoutAddress}

/-! ### Prominences with one more award -/

theorem portion_add_of_ne {column : Campaign × Nat} (other : column.1 ≠ award.campaign) :
    portion weights (table.add award) column = portion weights table column := by
  rw [portion, portion, PointTable.totalOf_add_of_ne other]

theorem portion_add_le {column : Campaign × Nat} (member : column ∈ table.columns)
    (fits : column.2 * (weightOf weights column.1 * Prominence.scale) ≤ Rounding.maxWord128) :
    portion weights (table.add award) column ≤ portion weights table column := by
  rw [portion, portion, PointTable.totalOf_add]
  exact Prominence.share_add_total_le fits (PointTable.le_totalOf member) _

/-- Nobody gains from an award to another payee. -/
theorem prominence_add_le_of_ne (other : payee ≠ award.payee)
    (fits : ∀ column ∈ (table.add award).columns,
      column.2 * (weightOf weights column.1 * Prominence.scale) ≤ Rounding.maxWord128) :
    prominence weights (table.add award).totals ((table.add award).pointsOf payee) ≤
      prominence weights table.totals (table.pointsOf payee) := by
  have same : (table.add award).pointsOf payee = table.pointsOf payee :=
    PointTable.pointsOf_add_of_ne other
  rw [prominence_eq, prominence_eq, same]
  refine sumOf_le_sumOf fun column member => ?_
  refine portion_add_le (PointTable.mem_columns_of_mem_pointsOf member) (fits column ?_)
  rw [← same] at member
  exact PointTable.mem_columns_of_mem_pointsOf member

/-- The payee of an award does not lose from it. -/
theorem prominence_le_prominence_add (award : Award)
    (fits : ∀ column ∈ (table.add award).columns,
      column.2 * (weightOf weights column.1 * Prominence.scale) ≤ Rounding.maxWord128) :
    prominence weights table.totals (table.pointsOf award.payee) ≤
      prominence weights (table.add award).totals ((table.add award).pointsOf award.payee) := by
  by_cases nothing : award.points = 0
  · exact Nat.le_of_eq (by rw [PointTable.add_of_none nothing])
  have added := table.pointsOf_add nothing
  rw [prominence_eq, prominence_eq, added, SortedMap.sumOf_alter,
    SortedMap.sumOf_entries _ _ award.campaign]
  refine Nat.add_le_add ?_ (Nat.le_of_eq (sumOf_congr fun column member => ?_))
  · cases held : (table.pointsOf award.payee).get? award.campaign with
    | none => exact Nat.zero_le _
    | some before =>
      have listed : (award.campaign, before) ∈ table.columns :=
        PointTable.mem_columns_of_mem_pointsOf (SortedMap.get?_eq_some_iff.mp held)
      have heldNow : ((table.add award).pointsOf award.payee).get? award.campaign =
          some (before + award.points) := by
        rw [added, SortedMap.get?_alter, if_pos rfl, held, Option.getD_some]
      have listedNow : (award.campaign, before + award.points) ∈ (table.add award).columns :=
        PointTable.mem_columns_of_mem_pointsOf (SortedMap.get?_eq_some_iff.mp heldNow)
      rw [Option.map_some, Option.getD_some, Option.getD_some, portion, portion,
        PointTable.totalOf_add_self]
      exact Prominence.share_le_share_add (fits _ listedNow) (PointTable.le_totalOf listed)
  · exact (portion_add_of_ne (SortedMap.key_ne_of_mem_erase member)).symm

/-! ### Payouts of more prominence -/

theorem payout_mono {fewer more : Nat} (below : fewer ≤ more) (pool : Amount) :
    payout fewer pool ≤ payout more pool := by
  have cents := Rounding.divHalfDown_mono (Rounding.saturatingMul_mono below pool.toNat)
    (Prominence.scale * Amount.cent)
  have coins := Rounding.saturatingMul_mono cents Amount.cent
  rw [UInt64.le_iff_toNat_le, payout, payout, toNat_capped, toNat_capped]
  omega

theorem paid_mono {fewer more : Nat} (below : fewer ≤ more) (pool : Amount) :
    rules.paid fewer pool ≤ rules.paid more pool := by
  have larger := payout_mono below pool
  rw [paid, paid]
  split
  · rename_i above
    rw [if_pos (UInt64.lt_of_lt_of_le above larger)]
    exact larger
  · exact UInt64.zero_le

theorem paid_zero (pool : Amount) : rules.paid 0 pool = 0 := by
  have product : Rounding.saturatingMul 0 pool.toNat = 0 := by
    rw [Rounding.saturatingMul, Nat.zero_mul]
    exact Nat.zero_min _
  have nothing : payout 0 pool = 0 := by
    rw [payout, product]
    decide +kernel
  rw [paid, nothing]
  exact ite_self _

end AllocationRules

/-! ### What a payee has of an assessment -/

/-- The award for a contribution. -/
def Contribution.award (event : Contribution) : Award :=
  ⟨event.payee, event.campaign, event.points⟩

namespace Assessment

variable (report : Assessment) (payee : PayoutAddress)

/-- The prominence of a payee, zero if it has no entry. -/
def prominenceOf : Nat :=
  ((report.entries.get? payee).map AssessmentEntry.prominence).getD 0

/-- The amount of a payee, zero if it has no entry. -/
def amountOf : Amount :=
  ((report.entries.get? payee).map AssessmentEntry.amount).getD 0

end Assessment

namespace AllocationRules

variable {rules : AllocationRules} {records extended : ChainRecords} {snapshot : Height}
variable {event : Contribution}

theorem prominenceOf_assess (target : Height) (limit : Amount) (payee : PayoutAddress) :
    (rules.assess records target snapshot limit).prominenceOf payee =
      rules.standing records snapshot ((rules.collectPoints records snapshot).pointsOf payee) := by
  rw [Assessment.prominenceOf, get?_entries_assess, PointTable.pointsOf]
  cases (rules.collectPoints records snapshot).get? payee <;> rfl

theorem amountOf_assess (target : Height) (limit : Amount) (payee : PayoutAddress) :
    (rules.assess records target snapshot limit).amountOf payee =
      rules.paid ((rules.assess records target snapshot limit).prominenceOf payee)
        (rules.pool limit) := by
  rw [Assessment.amountOf, Assessment.prominenceOf, get?_entries_assess]
  cases (rules.collectPoints records snapshot).get? payee with
  | none => exact (paid_zero _).symm
  | some points =>
    rw [Option.map_some, Option.map_some, Option.map_some, Option.getD_some, Option.getD_some,
      entryFor]

/-- One scan returns a contribution more than the other, in some place, which counts as of the
snapshot, and is otherwise the same. -/
structure GainsContribution (rules : AllocationRules) (snapshot : Height) (event : Contribution)
    (records extended : ChainRecords) : Prop where
  counts : rules.inWindow snapshot event.height = true
  contributions : (extended.contributions (rules.windowStart snapshot) snapshot).Perm
    (event :: records.contributions (rules.windowStart snapshot) snapshot)
  stakes : extended.stakes snapshot = records.stakes snapshot
  coinAgeVotes : extended.coinAgeVotes (rules.windowStart snapshot) snapshot =
    records.coinAgeVotes (rules.windowStart snapshot) snapshot
  charities : extended.charities snapshot = records.charities snapshot
  orphans : extended.orphans snapshot = records.orphans snapshot
  weights : extended.weights snapshot = records.weights snapshot

/-- A contribution more is an award more, wherever it stands among the others. -/
theorem GainsContribution.collectPoints
    (gains : rules.GainsContribution snapshot event records extended) :
    rules.collectPoints extended snapshot =
      (rules.collectPoints records snapshot).add event.award := by
  have counted : (rules.contributionsIn extended snapshot).Perm
      (event :: rules.contributionsIn records snapshot) := by
    have kept := gains.contributions.filter fun event => rules.inWindow snapshot event.height
    rwa [List.filter_cons, if_pos gains.counts] at kept
  have votes : rules.coinAgeVotesIn extended snapshot = rules.coinAgeVotesIn records snapshot :=
    congrArg (List.filter fun vote : CoinAgeVote => rules.inWindow snapshot vote.height)
      gains.coinAgeVotes
  have awarded : (rules.awards extended snapshot).Perm
      (event.award :: rules.awards records snapshot) := by
    rw [awards_eq, awards_eq, gains.stakes, gains.charities, gains.orphans, votes]
    refine ((((List.Perm.refl _).append (counted.map _)).append_right _).append_right _).trans ?_
    exact (List.perm_middle.append_right _).append_right _
  have last := awarded.trans (List.perm_append_singleton _ _).symm
  rw [AllocationRules.collectPoints, PointTable.ofAwards_of_perm last, PointTable.ofAwards_concat]
  rfl

/-- A contribution never hurts its payee and never helps another. As long as no product of points
and a weight passes its width, the payee has at least the prominence and the amount that it had
without the contribution, and every other payee at most what it had. -/
theorem contribution_favours_contributor
    (gains : rules.GainsContribution snapshot event records extended)
    (fits : rules.SharesFit extended snapshot) (target : Height) (limit : Amount) :
    let before := rules.assess records target snapshot limit
    let after := rules.assess extended target snapshot limit
    (before.prominenceOf event.payee ≤ after.prominenceOf event.payee ∧
      before.amountOf event.payee ≤ after.amountOf event.payee) ∧
    ∀ rival, rival ≠ event.payee →
      after.prominenceOf rival ≤ before.prominenceOf rival ∧
        after.amountOf rival ≤ before.amountOf rival := by
  dsimp only
  rw [SharesFit, gains.collectPoints, gains.weights] at fits
  have own : (rules.assess records target snapshot limit).prominenceOf event.payee ≤
      (rules.assess extended target snapshot limit).prominenceOf event.payee := by
    rw [prominenceOf_assess, prominenceOf_assess, standing, standing, gains.collectPoints,
      gains.weights]
    exact prominence_le_prominence_add event.award fits
  have others : ∀ rival, rival ≠ event.payee →
      (rules.assess extended target snapshot limit).prominenceOf rival ≤
        (rules.assess records target snapshot limit).prominenceOf rival := by
    intro rival other
    rw [prominenceOf_assess, prominenceOf_assess, standing, standing, gains.collectPoints,
      gains.weights]
    exact prominence_add_le_of_ne other fits
  refine ⟨⟨own, ?_⟩, fun rival other => ⟨others rival other, ?_⟩⟩
  · rw [amountOf_assess, amountOf_assess]
    exact paid_mono own _
  · rw [amountOf_assess, amountOf_assess]
    exact paid_mono (others rival other) _

end AllocationRules

/-! ### A late contribution -/

namespace LateContribution

/-- A contribution of the southern payee, who had none in the campaign. -/
def event : Contribution :=
  ThirdsPlan.contribution "KAIROS" ThirdsPlan.southern 5000

/-- The records of the plan in thirds, with a contribution after all others. -/
def records : ChainRecords :=
  { ThirdsPlan.records with
    contributions := fun start last => ThirdsPlan.records.contributions start last ++ [event] }

theorem gains : ThirdsPlan.rules.GainsContribution 200 event ThirdsPlan.records records where
  counts := by decide
  contributions := List.perm_append_singleton _ _
  stakes := rfl
  coinAgeVotes := rfl
  charities := rfl
  orphans := rfl
  weights := rfl

/-- The assessment with the late contribution. -/
def report : Assessment :=
  ThirdsPlan.rules.assess records 300 200 ThirdsPlan.limit

theorem assess_eq : ThirdsPlan.rules.assess records 300 200 ThirdsPlan.limit = report := rfl

end LateContribution

/-- The payee of the late contribution does not lose from it, and another does not gain. -/
theorem late_contribution_favours_payee :
    ThirdsPlan.rules.GainsContribution 200 LateContribution.event ThirdsPlan.records
        LateContribution.records ∧
      ThirdsPlan.rules.SharesFit LateContribution.records 200 ∧
      ThirdsPlan.report.amountOf ThirdsPlan.southern ≤
        LateContribution.report.amountOf ThirdsPlan.southern ∧
      LateContribution.report.amountOf ThirdsPlan.northern ≤
        ThirdsPlan.report.amountOf ThirdsPlan.northern := by
  have fits : ThirdsPlan.rules.SharesFit LateContribution.records 200 := by decide +kernel
  obtain ⟨⟨_, gained⟩, others⟩ := AllocationRules.contribution_favours_contributor
    LateContribution.gains fits 300 ThirdsPlan.limit
  have apart : ThirdsPlan.northern ≠ ThirdsPlan.southern := by decide
  have lost := (others ThirdsPlan.northern apart).2
  rw [ThirdsPlan.assess_eq, LateContribution.assess_eq] at gained lost
  exact ⟨LateContribution.gains, fits, gained, lost⟩

example : LateContribution.report.amountOf ThirdsPlan.northern <
    ThirdsPlan.report.amountOf ThirdsPlan.northern := by decide +kernel

end SuperblockGovernance

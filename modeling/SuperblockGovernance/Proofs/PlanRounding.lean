/-
The rounding of a planned allocation, when no number passes the width it is held in. A share
of a campaign is cut to the whole number below, so the prominences of all payees miss the
weights of the campaigns by less than one part for each payee and campaign. A payout is the
whole number of cents nearest to the prominence's part of the pool, exact halves down, and
what is not above the minimum is not paid at all.
-/

import Mathlib.Algebra.Order.Field.Rat
import Mathlib.Tactic.Linarith
import Mathlib.Tactic.NormNum
import SuperblockGovernance.Host.Fixture
import SuperblockGovernance.Proofs.PlanTotals

namespace SuperblockGovernance

/-! ### What a table lists -/

namespace PointTable

variable {table : PointTable} {payee : PayoutAddress} {campaign : Campaign}

theorem mem_columns_iff {column : Campaign × Nat} :
    column ∈ table.columns ↔
      ∃ payee points, table.get? payee = some points ∧ points.get? column.1 = some column.2 := by
  rw [columns, List.mem_flatMap]
  constructor
  · rintro ⟨points, member, listed⟩
    obtain ⟨payee, held⟩ := SortedMap.mem_values_iff.mp member
    exact ⟨payee, points, held, SortedMap.get?_eq_some_iff.mpr listed⟩
  · rintro ⟨payee, points, held, listed⟩
    exact ⟨points, SortedMap.mem_values_iff.mpr ⟨payee, held⟩, SortedMap.get?_eq_some_iff.mp listed⟩

/-- Nobody is listed in a campaign without points there. -/
def Positive (table : PointTable) : Prop :=
  ∀ payee points campaign earned, table.get? payee = some points →
    points.get? campaign = some earned → 0 < earned

theorem Positive.add (positive : table.Positive) (award : Award) : (table.add award).Positive := by
  rw [PointTable.add]
  split
  · exact positive
  · rename_i something
    intro payee points campaign earned held listed
    rw [SortedMap.get?_alter] at held
    split at held
    · cases held
      rw [SortedMap.get?_alter] at listed
      split at listed
      · cases listed
        exact Nat.add_pos_right _ (Nat.pos_of_ne_zero something)
      · cases before : table.get? award.payee with
        | none =>
          rw [before] at listed
          cases listed
        | some points =>
          rw [before] at listed
          exact positive award.payee points campaign earned before listed
    · exact positive payee points campaign earned held listed

theorem positive_ofAwards (awards : List Award) : (ofAwards awards).Positive := by
  have general : ∀ table : PointTable, table.Positive → (awards.foldl add table).Positive := by
    induction awards with
    | nil => exact fun _ positive => positive
    | cons award rest inductionHypothesis =>
      exact fun table positive => inductionHypothesis _ (positive.add award)
  exact general .empty fun payee points campaign earned held => by cases held

theorem length_columns (table : PointTable) :
    table.columns.length = sumOf SortedMap.size table.values := by
  have counted : table.columns.length = sumOf (fun _ => 1) table.columns :=
    ((sumOf_const 1 table.columns).trans (Nat.mul_one _)).symm
  rw [counted, columns, sumOf_flatMap]
  exact sumOf_congr fun points _ => (sumOf_const 1 points.entries).trans (Nat.mul_one _)

/-- The campaigns that have a total are those in which somebody has points. -/
theorem mem_totals_iff (positive : table.Positive) :
    campaign ∈ table.totals.keys ↔
      ∃ payee points earned, table.get? payee = some points ∧
        points.get? campaign = some earned ∧ 0 < earned := by
  constructor
  · intro member
    have listed : table.totals.contains campaign = true :=
      SortedMap.contains_iff.mpr (SortedMap.mem_keys_iff.mp member)
    rw [totals_eq, SortedMap.contains_foldl_alter table.columns
      fun points before => before.getD 0 + points] at listed
    rcases listed with within | already
    · obtain ⟨column, inside, rfl⟩ := List.mem_map.mp within
      obtain ⟨payee, points, held, earned⟩ := mem_columns_iff.mp inside
      exact ⟨payee, points, column.2, held, earned, positive _ _ _ _ held earned⟩
    · cases already
  · rintro ⟨payee, points, earned, held, listed, _⟩
    have member : (campaign, earned) ∈ table.columns :=
      mem_columns_iff.mpr ⟨payee, points, held, listed⟩
    exact mem_totals_of_mem_columns member

end PointTable

/-! ### Shares cut to whole numbers -/

namespace Prominence

theorem share_eq {points weight : Nat} (fits : points * (weight * scale) ≤ Rounding.maxWord128)
    (total : Nat) : share points weight total = points * (weight * pointScale) / total := by
  rw [share]
  split
  · rename_i nothing
    rcases nothing with zero | zero
    · rw [zero, Nat.zero_mul, Nat.mul_zero, Nat.zero_div]
    · rw [zero, Nat.div_zero]
  · have scaled : points * (weight * scale) = points * (weight * pointScale) * basisPoints := by
      have whole : scale = pointScale * basisPoints := rfl
      rw [whole, Nat.mul_assoc, Nat.mul_assoc]
    rw [Rounding.mulDivFloor_of_le fits, scaled]
    exact Nat.mul_div_mul_right _ _ (by decide)

/-- Those who share the points of a campaign miss its weight by less than one part each. -/
theorem le_sumOf_share {columns : List (Campaign × Nat)} (weight : Nat)
    (fits : ∀ column ∈ columns, column.2 * (weight * scale) ≤ Rounding.maxWord128)
    (some : 0 < sumOf Prod.snd columns) :
    weight * pointScale ≤
      sumOf (fun column => share column.2 weight (sumOf Prod.snd columns) + 1) columns := by
  refine Nat.le_of_mul_le_mul_right (c := sumOf Prod.snd columns) ?_ some
  rw [← sumOf_mul, Nat.mul_comm (weight * pointScale), ← sumOf_mul]
  refine sumOf_le_sumOf fun column member => ?_
  rw [share_eq (fits column member), Nat.mul_comm, Nat.mul_comm (_ + 1)]
  exact Nat.le_of_lt (Nat.lt_mul_div_succ _ some)

end Prominence

namespace AllocationRules

variable {rules : AllocationRules} {records : ChainRecords} {snapshot : Height} {limit : Amount}

/-- The products of points and weights are held in 128 bits. -/
def SharesFit (rules : AllocationRules) (records : ChainRecords) (snapshot : Height) : Prop :=
  ∀ column ∈ (rules.collectPoints records snapshot).columns,
    column.2 * (weightOf (records.weights snapshot) column.1 * Prominence.scale) ≤
      Rounding.maxWord128

/-- No number of an assessment passes the width that it is held in. -/
structure Unsaturated (rules : AllocationRules) (records : ChainRecords) (snapshot : Height)
    (limit : Amount) : Prop where
  shares : rules.SharesFit records snapshot
  pool : (limit.toNat - rules.reserve.toNat) * rules.marginPermille.toNat / 1000 < 2 ^ 64
  products : ∀ points ∈ (rules.collectPoints records snapshot).values,
    rules.standing records snapshot points * (rules.pool limit).toNat ≤ Rounding.maxWord128
  payouts : ∀ points ∈ (rules.collectPoints records snapshot).values,
    Rounding.divHalfDown (rules.standing records snapshot points * (rules.pool limit).toNat)
      (Prominence.scale * Amount.cent) * Amount.cent < 2 ^ 64

instance (rules : AllocationRules) (records : ChainRecords) (snapshot : Height) :
    Decidable (rules.SharesFit records snapshot) :=
  List.decidableBAll _ _

/-- All prominences together miss the weights of the campaigns in play by less than one part for
each payee and campaign. -/
theorem weightInPlay_mul_le (fits : rules.SharesFit records snapshot) :
    let table := rules.collectPoints records snapshot
    weightInPlay (records.weights snapshot) table * Prominence.pointScale ≤
      sumOf (rules.standing records snapshot) table.values + table.columns.length := by
  intro table
  have positive : table.Positive := PointTable.positive_ofAwards _
  have counted : sumOf (rules.standing records snapshot) table.values + table.columns.length =
      sumOf (fun column => portion (records.weights snapshot) table column + 1) table.columns := by
    have ones := sumOf_const 1 table.columns
    rw [Nat.mul_one] at ones
    rw [sumOf_add, ones, ← sumOf_prominence_eq]
    rfl
  rw [counted, ← table.sumOf_campaigns, weightInPlay, ← sumOf_mul]
  refine sumOf_le_sumOf fun campaign member => ?_
  obtain ⟨payee, points, earned, held, listed, some⟩ :=
    (PointTable.mem_totals_iff positive).mp member
  have within : (campaign, earned) ∈ table.columns.filter fun column => column.1 = campaign :=
    List.mem_filter.mpr
      ⟨PointTable.mem_columns_iff.mpr ⟨payee, points, held, listed⟩, decide_eq_true rfl⟩
  have total : 0 < sumOf Prod.snd (table.columns.filter fun column => column.1 = campaign) :=
    Nat.lt_of_lt_of_le some (le_sumOf_of_mem Prod.snd within)
  have small : ∀ column ∈ table.columns.filter fun column => column.1 = campaign,
      column.2 * (weightOf (records.weights snapshot) campaign * Prominence.scale) ≤
        Rounding.maxWord128 := by
    intro column inside
    have same : column.1 = campaign := of_decide_eq_true (List.mem_filter.mp inside).2
    exact same ▸ fits column (List.mem_filter.mp inside).1
  refine Nat.le_trans (Prominence.le_sumOf_share _ small total) (Nat.le_of_eq ?_)
  refine sumOf_congr fun column inside => ?_
  rw [portion_of_mem_filter _ inside]

/-! ### Payouts to the nearest cent -/

/-- The whole number of cents that is nearest to a share of coin, an exact half going down. -/
structure IsNearestCents (amount : Nat) (share : ℚ) : Prop where
  whole : Amount.cent ∣ amount
  low : share - Amount.cent / 2 ≤ amount
  high : amount < share + Amount.cent / 2

theorem isNearestCents_divHalfDown (prominence pool : Nat) :
    IsNearestCents
      (Rounding.divHalfDown (prominence * pool) (Prominence.scale * Amount.cent) * Amount.cent)
      (prominence * pool / Prominence.scale) := by
  have positive : 0 < Prominence.scale * Amount.cent := by decide
  obtain ⟨taken, added⟩ := Rounding.divHalfDown_near positive (prominence * pool)
  generalize Rounding.divHalfDown (prominence * pool) (Prominence.scale * Amount.cent) = cents
    at taken added ⊢
  have takenShare : (2 * (prominence * pool) : ℚ) ≤
      2 * (cents * (Prominence.scale * Amount.cent)) + Prominence.scale * Amount.cent := by
    exact_mod_cast taken
  have addedShare : (2 * (cents * (Prominence.scale * Amount.cent)) : ℚ) <
      2 * (prominence * pool) + Prominence.scale * Amount.cent := by
    exact_mod_cast added
  have scaled : (0 : ℚ) < Prominence.scale := by norm_num [Prominence.scale]
  refine ⟨Nat.dvd_mul_left _ _, ?_, ?_⟩
  · rw [Nat.cast_mul, sub_le_iff_le_add, div_le_iff₀ scaled]
    linarith
  · rw [Nat.cast_mul, ← sub_lt_iff_lt_add, lt_div_iff₀ scaled]
    linarith

theorem IsNearestCents.abs_sub_le {amount : Nat} {share : ℚ} (near : IsNearestCents amount share) :
    |(amount : ℚ) - share| ≤ Amount.cent / 2 := by
  rw [abs_le]
  constructor
  · linarith [near.low]
  · linarith [near.high]

theorem toNat_payout {prominence : Nat} {pool : Amount}
    (product : prominence * pool.toNat ≤ Rounding.maxWord128)
    (held : Rounding.divHalfDown (prominence * pool.toNat) (Prominence.scale * Amount.cent) *
      Amount.cent < 2 ^ 64) :
    (payout prominence pool).toNat =
      Rounding.divHalfDown (prominence * pool.toNat) (Prominence.scale * Amount.cent) *
        Amount.cent := by
  have narrow : 2 ^ 64 ≤ Rounding.maxWord128 := by decide
  rw [payout, toNat_capped, Rounding.saturatingMul_of_le product,
    Rounding.saturatingMul_of_le (Nat.le_trans (Nat.le_of_lt held) narrow)]
  exact Nat.min_eq_left (Nat.le_pred_of_lt held)

/-! ### Entries of an assessment -/

section

variable (rules records snapshot limit)

/-- The entry of a payee with these points. -/
def entryFor (points : SortedMap Campaign Nat) : AssessmentEntry where
  points := points
  prominence := rules.standing records snapshot points
  amount := rules.paid (rules.standing records snapshot points) (rules.pool limit)

theorem entries_assess (target : Height) :
    (rules.assess records target snapshot limit).entries =
      (rules.collectPoints records snapshot).mapValues fun _ points =>
        rules.entryFor records snapshot limit points := rfl

theorem get?_entries_assess (target : Height) (payee : PayoutAddress) :
    (rules.assess records target snapshot limit).entries.get? payee =
      ((rules.collectPoints records snapshot).get? payee).map
        (rules.entryFor records snapshot limit) := by
  rw [entries_assess, SortedMap.get?_mapValues]

theorem values_entries_assess (target : Height) :
    (rules.assess records target snapshot limit).entries.values =
      (rules.collectPoints records snapshot).values.map
        (rules.entryFor records snapshot limit) := by
  rw [entries_assess, SortedMap.values, SortedMap.values, SortedMap.mapValues, List.map_map,
    List.map_map]
  rfl

theorem sumOf_prominence_assess (target : Height) :
    sumOf AssessmentEntry.prominence (rules.assess records target snapshot limit).entries.values =
      sumOf (rules.standing records snapshot) (rules.collectPoints records snapshot).values := by
  rw [values_entries_assess, sumOf_map]
  rfl

/-- The entries list as many campaigns as the points that they come from. -/
theorem sumOf_size_assess (target : Height) :
    sumOf (fun entry => entry.points.size)
        (rules.assess records target snapshot limit).entries.values =
      (rules.collectPoints records snapshot).columns.length := by
  rw [values_entries_assess, sumOf_map, PointTable.length_columns]
  rfl

/-- The campaigns of an assessment are those in which an entry has points. -/
theorem mem_campaigns_assess_iff (target : Height) (campaign : Campaign) :
    campaign ∈ (rules.assess records target snapshot limit).campaignTotals.keys ↔
      ∃ payee entry points,
        (rules.assess records target snapshot limit).entries.get? payee = some entry ∧
          entry.points.get? campaign = some points ∧ 0 < points := by
  refine (PointTable.mem_totals_iff (PointTable.positive_ofAwards _)).trans ?_
  simp only [get?_entries_assess, Option.map_eq_some_iff]
  constructor
  · rintro ⟨payee, points, number, found, listed, some⟩
    exact ⟨payee, _, number, ⟨points, found, rfl⟩, listed, some⟩
  · rintro ⟨payee, _, number, ⟨points, found, rfl⟩, listed, some⟩
    exact ⟨payee, points, number, found, listed, some⟩

/-- Those are paid whose entry has an amount. -/
theorem amountFor?_assess (target : Height) (payee : PayoutAddress) :
    (rules.assess records target snapshot limit).allocation.amountFor? payee =
      (((rules.assess records target snapshot limit).entries.get? payee).filter fun entry =>
        entry.amount ≠ 0).map AssessmentEntry.amount :=
  (SortedMap.get?_mapValues _ _ payee).trans
    (congrArg (Option.map AssessmentEntry.amount) (SortedMap.get?_filter _ _ payee))

end

/-- The entry of a payee who is rounded to these cents, by what is paid. -/
theorem amount_entryFor (exact : rules.Unsaturated records snapshot limit)
    {points : SortedMap Campaign Nat}
    (member : points ∈ (rules.collectPoints records snapshot).values) :
    ∃ rounded : Nat,
      IsNearestCents rounded
        (rules.standing records snapshot points * (rules.pool limit).toNat / Prominence.scale) ∧
      (rounded ≤ rules.minPayment.toNat →
        (rules.entryFor records snapshot limit points).amount = 0) ∧
      (rules.minPayment.toNat < rounded →
        (rules.entryFor records snapshot limit points).amount.toNat = rounded) := by
  have paid := toNat_payout (exact.products points member) (exact.payouts points member)
  refine ⟨_, isNearestCents_divHalfDown _ _, fun small => ?_, fun large => ?_⟩
  · rw [← paid] at small
    exact if_neg (UInt64.not_lt.mpr (UInt64.le_iff_toNat_le.mpr small))
  · rw [← paid] at large ⊢
    exact congrArg UInt64.toNat (if_pos (UInt64.lt_iff_toNat_lt.mpr large))

theorem toNat_pool (exact : rules.Unsaturated records snapshot limit) :
    (rules.pool limit).toNat =
      (limit.toNat - rules.reserve.toNat) * rules.marginPermille.toNat / 1000 := by
  rw [pool, toNat_capped]
  exact Nat.min_eq_left (Nat.le_pred_of_lt exact.pool)

/-- An assessment whose numbers are held shares out all but the parts that are cut off, fewer than
one for each payee and campaign. What each payee is paid is the nearest number of cents to its part
of the pool, if that is above the minimum, and otherwise it is not paid. With weights of at most the
whole, the plan passes the pool by at most half a cent for each payee that is paid. -/
theorem plan_rounds_to_cents (exact : rules.Unsaturated records snapshot limit)
    (target : Height) :
    let report := rules.assess records target snapshot limit
    let weight := sumOf (weightOf (records.weights snapshot)) report.campaignTotals.keys
    let earned := sumOf AssessmentEntry.prominence report.entries.values
    let pairs := sumOf (fun entry => entry.points.size) report.entries.values
    report.pool.toNat =
      (limit.toNat - rules.reserve.toNat) * rules.marginPermille.toNat / 1000 ∧
    (∀ campaign, campaign ∈ report.campaignTotals.keys ↔
      ∃ payee entry points, report.entries.get? payee = some entry ∧
        entry.points.get? campaign = some points ∧ 0 < points) ∧
    (earned ≤ weight * Prominence.pointScale ∧ weight * Prominence.pointScale ≤ earned + pairs) ∧
    (∀ payee entry, report.entries.get? payee = some entry →
      let share : ℚ := entry.prominence * report.pool.toNat / Prominence.scale
      (entry.amount ≠ 0 →
        report.allocation.amountFor? payee = some entry.amount ∧
        Amount.cent ∣ entry.amount.toNat ∧
        |(entry.amount.toNat : ℚ) - share| ≤ Amount.cent / 2 ∧
        rules.minPayment < entry.amount) ∧
      ∃ rounded : Nat, IsNearestCents rounded share ∧
        (rounded ≤ rules.minPayment.toNat →
          report.allocation.amountFor? payee = none ∧ entry.amount = 0) ∧
        (rules.minPayment.toNat < rounded → entry.amount.toNat = rounded)) ∧
    (weight ≤ Prominence.basisPoints →
      2 * report.allocation.total ≤
        2 * report.pool.toNat + report.allocation.pairs.length * Amount.cent) := by
  intro report weight earned pairs
  have earnedIs : earned = sumOf _ (rules.collectPoints records snapshot).values :=
    rules.sumOf_prominence_assess records snapshot limit target
  have pairsIs : pairs = (rules.collectPoints records snapshot).columns.length :=
    rules.sumOf_size_assess records snapshot limit target
  refine ⟨toNat_pool exact, rules.mem_campaigns_assess_iff records snapshot limit target, ⟨?_, ?_⟩,
    fun payee entry held => ?_, fun weighed => twice_total_le target limit weighed⟩
  · rw [earnedIs]
    exact sumOf_prominence_le _ _
  · rw [earnedIs, pairsIs]
    exact weightInPlay_mul_le exact.shares
  · have listed := rules.amountFor?_assess records snapshot limit target payee
    rw [held] at listed
    rw [get?_entries_assess, Option.map_eq_some_iff] at held
    obtain ⟨points, found, rfl⟩ := held
    obtain ⟨rounded, near, small, large⟩ :=
      amount_entryFor exact (SortedMap.mem_values_iff.mpr ⟨payee, found⟩)
    refine ⟨fun pays => ?_, rounded, near, fun low => ?_, large⟩
    · have above : rules.minPayment.toNat < rounded :=
        Nat.lt_of_not_le fun low => pays (small low)
      rw [listed, large above, Option.filter_some, if_pos (decide_eq_true pays),
        UInt64.lt_iff_toNat_lt, large above]
      exact ⟨rfl, near.whole, near.abs_sub_le, above⟩
    · rw [listed, small low, Option.filter_some, if_neg (by simp [small low])]
      exact ⟨rfl, rfl⟩

end AllocationRules

/-! ### A plan in thirds -/

namespace ThirdsPlan

/-- A payee of both campaigns, with almost all of the second one. -/
def northern : PayoutAddress := ⟨"North", by decide⟩

/-- A payee of the first campaign. -/
def southern : PayoutAddress := ⟨"South", by decide⟩

/-- A payee of both campaigns, with almost nothing of the second one. -/
def inland : PayoutAddress := ⟨"Inland", by decide⟩

/-- A contribution in the window of the snapshot. -/
def contribution (campaign : Campaign) (payee : PayoutAddress) (coinAge : UInt64) : Contribution :=
  { height := 150, txid := 1, campaign, payee, coinAge, donation := 0 }

/-- Three payees have a third of one campaign each, and one of them has almost nothing of another
campaign. -/
def records : ChainRecords :=
  ({ weights := .ofList [("CAMEROON", 6000), ("KAIROS", 4000)]
     contributions :=
       [contribution "CAMEROON" northern 1, contribution "CAMEROON" southern 1,
         contribution "CAMEROON" inland 1, contribution "KAIROS" northern 9999,
         contribution "KAIROS" inland 1] } : HostFixture).records

/-- The rules that a network starts from. -/
def rules : AllocationRules :=
  ({ cycleLength := 100 } : Config).allocationRules

/-- A thousand coins. -/
def limit : Amount := 100000000000

theorem unsaturated : rules.Unsaturated records 200 limit where
  shares := by decide +kernel
  pool := by decide
  products := by decide +kernel
  payouts := by decide +kernel

/-- The assessment of the plan. -/
def report : Assessment :=
  rules.assess records 300 200 limit

theorem assess_eq : rules.assess records 300 200 limit = report := rfl

end ThirdsPlan

/-- The thirds of the plan are cut off, and its payouts are rounded. -/
theorem thirds_plan_is_rounded :
    ThirdsPlan.rules.Unsaturated ThirdsPlan.records 200 ThirdsPlan.limit ∧
      Prominence.scale ≤ sumOf AssessmentEntry.prominence ThirdsPlan.report.entries.values + 5 ∧
      (∃ entry, ThirdsPlan.report.entries.get? ThirdsPlan.southern = some entry ∧
        entry.amount ≠ 0 ∧
        ThirdsPlan.report.allocation.amountFor? ThirdsPlan.southern = some entry.amount ∧
        Amount.cent ∣ entry.amount.toNat) ∧
      2 * ThirdsPlan.report.allocation.total ≤
        2 * ThirdsPlan.report.pool.toNat +
          ThirdsPlan.report.allocation.pairs.length * Amount.cent := by
  have rounded := AllocationRules.plan_rounds_to_cents ThirdsPlan.unsaturated 300
  rw [ThirdsPlan.assess_eq] at rounded
  obtain ⟨_, _, ⟨_, earned⟩, entries, total⟩ := rounded
  have weight : sumOf (AllocationRules.weightOf (ThirdsPlan.records.weights 200))
      ThirdsPlan.report.campaignTotals.keys = Prominence.basisPoints := by decide +kernel
  have pairs : sumOf (fun entry => entry.points.size) ThirdsPlan.report.entries.values = 5 := by
    decide +kernel
  rw [weight, pairs] at earned
  obtain ⟨entry, held⟩ : ∃ entry, ThirdsPlan.report.entries.get? ThirdsPlan.southern = some entry :=
    Option.isSome_iff_exists.mp (by decide +kernel)
  have pays : entry.amount ≠ 0 := by
    have paid : (ThirdsPlan.report.entries.get? ThirdsPlan.southern).all fun entry =>
        entry.amount != 0 := by decide +kernel
    rw [held] at paid
    exact bne_iff_ne.mp paid
  obtain ⟨listed, whole, _⟩ := (entries ThirdsPlan.southern entry held).1 pays
  exact ⟨ThirdsPlan.unsaturated, earned, ⟨entry, held, pays, listed, whole⟩,
    total (Nat.le_of_eq weight)⟩

end SuperblockGovernance

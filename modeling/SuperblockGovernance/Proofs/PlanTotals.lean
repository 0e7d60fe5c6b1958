/-
What a planned allocation adds up to. The points of a campaign are shared out among its
payees, so that the shares stay within its weight, and the prominences of all payees
together within the weights of all campaigns. A payout is a share of the pool to the
nearest cent, which may be half a cent too much, so half a cent for each payee is all that
a plan can pass its pool by.
-/

import SuperblockGovernance.Allocation.Assessment
import SuperblockGovernance.Proofs.SortedMaps

namespace SuperblockGovernance

/-! ### Points of a campaign -/

namespace PointTable

/-- The points of each payee in each campaign, one after the other. -/
def columns (table : PointTable) : List (Campaign × Nat) :=
  table.values.flatMap SortedMap.entries

/-- The points that a campaign has in all. -/
def totalOf (table : PointTable) (campaign : Campaign) : Nat :=
  (table.totals.get? campaign).getD 0

theorem totals_eq (table : PointTable) :
    table.totals = table.columns.foldl
      (fun totals column => totals.alter column.1 fun before => before.getD 0 + column.2) .empty :=
  rfl

theorem totalOf_eq (table : PointTable) (campaign : Campaign) :
    table.totalOf campaign =
      sumOf Prod.snd (table.columns.filter fun column => column.1 = campaign) := by
  rw [totalOf, totals_eq, SortedMap.getD_foldl_add]
  exact Nat.zero_add _

theorem mem_totals_of_mem_columns {table : PointTable} {column : Campaign × Nat}
    (member : column ∈ table.columns) : column.1 ∈ table.totals.keys := by
  have listed : table.totals.contains column.1 = true := by
    rw [totals_eq]
    exact (SortedMap.contains_foldl_alter table.columns
      (fun points before => before.getD 0 + points) .empty column.1).mpr
        (Or.inl (List.mem_map_of_mem member))
  exact SortedMap.mem_keys_iff.mpr (SortedMap.contains_iff.mp listed)

/-- Summing up campaign by campaign is summing up everything. -/
theorem sumOf_campaigns (table : PointTable) (number : Campaign × Nat → Nat) :
    sumOf (fun campaign => sumOf number (table.columns.filter fun column => column.1 = campaign))
      table.totals.keys = sumOf number table.columns := by
  have inPlay : table.columns.filter (fun column => column.1 ∈ table.totals.keys) =
      table.columns :=
    List.filter_eq_self.mpr fun column member =>
      decide_eq_true (mem_totals_of_mem_columns member)
  rw [sumOf_groups number Prod.fst table.columns (SortedMap.nodup_keys table.totals), inPlay]

end PointTable

/-! ### Prominence -/

namespace Prominence

/-- The parts of the scale in a basis point. -/
def pointScale : Nat := 100000000

theorem share_mul_le (points weight total : Nat) :
    share points weight total * total ≤ points * (weight * pointScale) := by
  rw [share]
  split
  · rw [Nat.zero_mul]
    exact Nat.zero_le _
  · have floored := Rounding.mulDivFloor_mul_le points (weight * scale) (total * basisPoints)
    have scaled : points * (weight * scale) = points * (weight * pointScale) * basisPoints := by
      have whole : scale = pointScale * basisPoints := rfl
      rw [whole, Nat.mul_assoc, Nat.mul_assoc]
    rw [scaled, ← Nat.mul_assoc] at floored
    exact Nat.le_of_mul_le_mul_right floored (by decide)

/-- Those who share all the points of a campaign have no more than its weight. -/
theorem sumOf_share_le (columns : List (Campaign × Nat)) (weight : Nat) :
    sumOf (fun column => share column.2 weight (sumOf Prod.snd columns)) columns ≤
      weight * pointScale := by
  rcases Nat.eq_zero_or_pos (sumOf Prod.snd columns) with none | some
  · have nothing : ∀ column ∈ columns,
        share column.2 weight (sumOf Prod.snd columns) ≤ (fun _ => 0) column := by
      intro column _
      have zero : share column.2 weight (sumOf Prod.snd columns) = 0 := if_pos (Or.inr none)
      exact Nat.le_of_eq zero
    have bounded := sumOf_le_sumOf nothing
    rw [sumOf_const, Nat.mul_zero] at bounded
    exact Nat.le_trans bounded (Nat.zero_le _)
  · refine Nat.le_of_mul_le_mul_right (c := sumOf Prod.snd columns) ?_ some
    rw [← sumOf_mul, Nat.mul_comm (weight * pointScale), ← sumOf_mul]
    exact sumOf_le_sumOf fun column _ => share_mul_le column.2 weight _

end Prominence

namespace AllocationRules

/-- The weight of a campaign in basis points. -/
def weightOf (weights : SortedMap Campaign UInt32) (campaign : Campaign) : Nat :=
  ((weights.get? campaign).getD 0).toNat

/-- The weights of the campaigns in which there are points. -/
def weightInPlay (weights : SortedMap Campaign UInt32) (table : PointTable) : Nat :=
  sumOf (weightOf weights) table.totals.keys

theorem weightOf_le (weights : SortedMap Campaign UInt32) (campaign : Campaign) :
    weightOf weights campaign ≤
      sumOf (fun entry => entry.2.toNat)
        (weights.entries.filter fun entry => entry.1 = campaign) := by
  rw [weightOf]
  cases held : weights.get? campaign with
  | none => exact Nat.zero_le _
  | some weight =>
    have member : (campaign, weight) ∈ weights.entries.filter fun entry => entry.1 = campaign :=
      List.mem_filter.mpr ⟨SortedMap.get?_eq_some_iff.mp held, decide_eq_true rfl⟩
    exact le_sumOf_of_mem (fun entry => entry.2.toNat) member

theorem weightInPlay_le (weights : SortedMap Campaign UInt32) (table : PointTable) :
    weightInPlay weights table ≤ sumOf UInt32.toNat weights.values := by
  have byCampaign := sumOf_groups (fun entry : Campaign × UInt32 => entry.2.toNat) Prod.fst
    weights.entries (SortedMap.nodup_keys table.totals)
  have each : weightInPlay weights table ≤ _ :=
    sumOf_le_sumOf fun campaign _ => weightOf_le weights campaign
  rw [byCampaign] at each
  rw [SortedMap.values, sumOf_map]
  exact Nat.le_trans each (sumOf_filter_le _ _ _)

/-- The prominence that points in a campaign earn. -/
def portion (weights : SortedMap Campaign UInt32) (table : PointTable)
    (column : Campaign × Nat) : Nat :=
  Prominence.share column.2 (weightOf weights column.1) (table.totalOf column.1)

theorem prominence_eq (weights : SortedMap Campaign UInt32) (table : PointTable)
    (points : SortedMap Campaign Nat) :
    prominence weights table.totals points = sumOf (portion weights table) points.entries :=
  rfl

/-- In a campaign, points earn their share of all points there. -/
theorem portion_of_mem_filter (weights : SortedMap Campaign UInt32) {table : PointTable}
    {campaign : Campaign} {column : Campaign × Nat}
    (member : column ∈ table.columns.filter fun column => column.1 = campaign) :
    portion weights table column = Prominence.share column.2 (weightOf weights campaign)
      (sumOf Prod.snd (table.columns.filter fun column => column.1 = campaign)) := by
  have same : column.1 = campaign := of_decide_eq_true (List.mem_filter.mp member).2
  rw [portion, same, PointTable.totalOf_eq]

/-- All who have points in a campaign get no more than its weight. -/
theorem sumOf_portion_le (weights : SortedMap Campaign UInt32) (table : PointTable)
    (campaign : Campaign) :
    sumOf (portion weights table) (table.columns.filter fun column => column.1 = campaign) ≤
      weightOf weights campaign * Prominence.pointScale := by
  rw [sumOf_congr fun column member => portion_of_mem_filter weights member]
  exact Prominence.sumOf_share_le _ _

theorem sumOf_prominence_eq (weights : SortedMap Campaign UInt32) (table : PointTable) :
    sumOf (prominence weights table.totals) table.values =
      sumOf (portion weights table) table.columns := by
  rw [PointTable.columns, sumOf_flatMap]
  exact sumOf_congr fun points _ => prominence_eq weights table points

/-- All prominences together are within the weights of the campaigns in play. -/
theorem sumOf_prominence_le (weights : SortedMap Campaign UInt32) (table : PointTable) :
    sumOf (prominence weights table.totals) table.values ≤
      weightInPlay weights table * Prominence.pointScale := by
  rw [sumOf_prominence_eq, ← table.sumOf_campaigns, weightInPlay, ← sumOf_mul]
  exact sumOf_le_sumOf fun campaign _ => sumOf_portion_le weights table campaign

/-! ### Payouts -/

theorem toNat_capped (number : Nat) :
    (UInt64.ofNat (min number (2 ^ 64 - 1))).toNat = min number (2 ^ 64 - 1) :=
  UInt64.toNat_ofNat_of_lt' (by
    have capped := Nat.min_le_right number (2 ^ 64 - 1)
    exact Nat.lt_of_le_of_lt capped (by decide))

theorem pool_le (rules : AllocationRules) (limit : Amount) :
    1000 * (rules.pool limit).toNat ≤ rules.marginPermille.toNat * limit.toNat := by
  rw [pool, toNat_capped]
  have available := Nat.mul_le_mul_right rules.marginPermille.toNat
    (Nat.sub_le limit.toNat rules.reserve.toNat)
  have floored := Nat.div_mul_le_self
    ((limit.toNat - rules.reserve.toNat) * rules.marginPermille.toNat) 1000
  rw [Nat.mul_comm rules.marginPermille.toNat]
  omega

/-- A payout passes its share of the pool by at most half a cent. -/
theorem payout_le (prominence : Nat) (pool : Amount) :
    2 * (payout prominence pool).toNat * Prominence.scale ≤
      2 * pool.toNat * prominence + Amount.cent * Prominence.scale := by
  rw [payout, toNat_capped]
  generalize quotient : Rounding.divHalfDown (Rounding.saturatingMul prominence pool.toNat)
    (Prominence.scale * Amount.cent) = cents
  have rounded := Rounding.twice_divHalfDown_mul_le
    (Rounding.saturatingMul prominence pool.toNat) (Prominence.scale * Amount.cent)
  rw [quotient] at rounded
  have product := Rounding.saturatingMul_le prominence pool.toNat
  have paid : min (Rounding.saturatingMul cents Amount.cent) (2 ^ 64 - 1) ≤ cents * Amount.cent :=
    Nat.le_trans (Nat.min_le_left _ _) (Rounding.saturatingMul_le cents Amount.cent)
  calc 2 * min (Rounding.saturatingMul cents Amount.cent) (2 ^ 64 - 1) * Prominence.scale
      ≤ 2 * (cents * Amount.cent) * Prominence.scale :=
        Nat.mul_le_mul_right _ (Nat.mul_le_mul_left 2 paid)
    _ = 2 * (cents * (Prominence.scale * Amount.cent)) := by
        rw [Nat.mul_assoc, Nat.mul_assoc, Nat.mul_comm Amount.cent]
    _ ≤ 2 * Rounding.saturatingMul prominence pool.toNat + Prominence.scale * Amount.cent :=
        rounded
    _ ≤ 2 * (prominence * pool.toNat) + Prominence.scale * Amount.cent :=
        Nat.add_le_add_right (Nat.mul_le_mul_left 2 product) _
    _ = 2 * pool.toNat * prominence + Amount.cent * Prominence.scale := by
        rw [Nat.mul_comm prominence, ← Nat.mul_assoc, Nat.mul_comm Prominence.scale]

/-- A payout above some number of cents is a cent more than these. -/
theorem cent_le_payout {prominence cents : Nat} {pool : Amount}
    (small : (cents + 1) * Amount.cent ≤ 2 ^ 64 - 1)
    (above : cents * Amount.cent < (payout prominence pool).toNat) :
    (cents + 1) * Amount.cent ≤ (payout prominence pool).toNat := by
  rw [payout, toNat_capped] at above ⊢
  generalize Rounding.divHalfDown (Rounding.saturatingMul prominence pool.toNat)
    (Prominence.scale * Amount.cent) = quotient at above ⊢
  have whole : cents * Amount.cent < quotient * Amount.cent :=
    Nat.lt_of_lt_of_le above
      (Nat.le_trans (Nat.min_le_left _ _) (Rounding.saturatingMul_le quotient Amount.cent))
  have more : cents + 1 ≤ quotient := Nat.lt_of_mul_lt_mul_right whole
  refine Nat.le_min.mpr ⟨Nat.le_min.mpr ⟨Nat.mul_le_mul_right _ more, ?_⟩, small⟩
  exact Nat.le_trans small (by decide)

theorem paid_eq_of_ne_zero {rules : AllocationRules} {prominence : Nat} {pool : Amount}
    (pays : rules.paid prominence pool ≠ 0) :
    rules.paid prominence pool = payout prominence pool ∧
      rules.minPayment < payout prominence pool := by
  rw [paid] at pays ⊢
  by_cases above : rules.minPayment < payout prominence pool
  · exact ⟨if_pos above, above⟩
  · exact absurd (if_neg above) pays

/-! ### The allocation of an assessment -/

section

variable (rules : AllocationRules) (records : ChainRecords) (target snapshot : Height)
  (limit : Amount)

/-- The prominence of a payee with these points. -/
def standing (points : SortedMap Campaign Nat) : Nat :=
  prominence (records.weights snapshot) (rules.collectPoints records snapshot).totals points

/-- The points of the payees that are paid. -/
def paidRows : List (SortedMap Campaign Nat) :=
  (rules.collectPoints records snapshot).values.filter fun points =>
    rules.paid (rules.standing records snapshot points) (rules.pool limit) ≠ 0

theorem amounts_assess :
    (rules.assess records target snapshot limit).allocation.amounts =
      (rules.paidRows records snapshot limit).map fun points =>
        rules.paid (rules.standing records snapshot points) (rules.pool limit) := by
  simp only [Allocation.amounts, assess, SortedMap.values, SortedMap.mapValues,
    SortedMap.filter, paidRows, List.filter_map, List.map_map]
  rfl

theorem length_pairs_assess :
    (rules.assess records target snapshot limit).allocation.pairs.length =
      (rules.paidRows records snapshot limit).length := by
  have amounts := congrArg List.length (rules.amounts_assess records target snapshot limit)
  rw [Allocation.amounts, SortedMap.values, List.length_map, List.length_map] at amounts
  exact amounts

theorem total_assess :
    (rules.assess records target snapshot limit).allocation.total =
      sumOf (fun points =>
        (payout (rules.standing records snapshot points) (rules.pool limit)).toNat)
        (rules.paidRows records snapshot limit) := by
  rw [Allocation.total, amounts_assess, sumOf_map]
  refine sumOf_congr fun points member => ?_
  have pays := of_decide_eq_true (List.mem_filter.mp member).2
  rw [(paid_eq_of_ne_zero pays).1]

variable {rules records snapshot}

/-- The payees that are paid have together at most the whole prominence. -/
theorem sumOf_standing_le
    (weighed : weightInPlay (records.weights snapshot) (rules.collectPoints records snapshot) ≤
      Prominence.basisPoints) :
    sumOf (rules.standing records snapshot) (rules.paidRows records snapshot limit) ≤
      Prominence.scale :=
  calc sumOf (rules.standing records snapshot) (rules.paidRows records snapshot limit)
      ≤ sumOf (rules.standing records snapshot) (rules.collectPoints records snapshot).values :=
        sumOf_filter_le _ _ _
    _ ≤ weightInPlay (records.weights snapshot) (rules.collectPoints records snapshot) *
          Prominence.pointScale := sumOf_prominence_le _ _
    _ ≤ Prominence.basisPoints * Prominence.pointScale := Nat.mul_le_mul_right _ weighed
    _ = Prominence.scale := rfl

/-- A plan passes its pool by at most half a cent for each payee. -/
theorem twice_total_le
    (weighed : weightInPlay (records.weights snapshot) (rules.collectPoints records snapshot) ≤
      Prominence.basisPoints) :
    2 * (rules.assess records target snapshot limit).allocation.total ≤
      2 * (rules.pool limit).toNat +
        (rules.assess records target snapshot limit).allocation.pairs.length * Amount.cent := by
  rw [length_pairs_assess, total_assess]
  have within := sumOf_standing_le limit weighed
  generalize rules.paidRows records snapshot limit = rows at within ⊢
  generalize rules.pool limit = pool
  generalize rules.standing records snapshot = standing at within ⊢
  refine Nat.le_of_mul_le_mul_right (c := Prominence.scale) ?_ (by decide)
  calc 2 * sumOf (fun points => (payout (standing points) pool).toNat) rows * Prominence.scale
      = sumOf (fun points => 2 * (payout (standing points) pool).toNat * Prominence.scale) rows :=
        by rw [sumOf_mul, Nat.mul_comm 2, ← sumOf_mul]; simp only [Nat.mul_comm]
    _ ≤ sumOf (fun points => 2 * pool.toNat * standing points + Amount.cent * Prominence.scale)
          rows := sumOf_le_sumOf fun points _ => payout_le (standing points) pool
    _ = sumOf standing rows * (2 * pool.toNat) + rows.length * (Amount.cent * Prominence.scale) :=
        by rw [sumOf_add, sumOf_const, ← sumOf_mul]; simp only [Nat.mul_comm]
    _ ≤ Prominence.scale * (2 * pool.toNat) + rows.length * (Amount.cent * Prominence.scale) :=
        Nat.add_le_add_right (Nat.mul_le_mul_right _ within) _
    _ = (2 * pool.toNat + rows.length * Amount.cent) * Prominence.scale := by
        rw [Nat.add_mul, Nat.mul_comm Prominence.scale, Nat.mul_assoc rows.length]

/-- Every payee that is paid gets at least a cent more than a minimum of whole cents. -/
theorem length_mul_cent_le {cents : Nat} (minimum : rules.minPayment.toNat = cents * Amount.cent)
    (small : (cents + 1) * Amount.cent ≤ 2 ^ 64 - 1) :
    (rules.assess records target snapshot limit).allocation.pairs.length *
        ((cents + 1) * Amount.cent) ≤
      (rules.assess records target snapshot limit).allocation.total := by
  rw [length_pairs_assess, total_assess, ← sumOf_const]
  refine sumOf_le_sumOf fun points member => cent_le_payout small ?_
  have pays := of_decide_eq_true (List.mem_filter.mp member).2
  rw [← minimum]
  exact (paid_eq_of_ne_zero pays).2

end

end AllocationRules

end SuperblockGovernance

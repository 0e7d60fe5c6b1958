/-
A planned allocation beside its limit. A plan passes its pool by at most half a cent for each payee,
and since the least payout is 26 cents, that is never more than one part in 51. The margin that is
held back from the limit is one part in a thousand, so it covers the rounding of a few payees and
not of many.

An assessment adds up in 128 bits, step by step: the points of a payee, of a campaign and of a
charity, and the shares of a payee. A sum only grows from step to step, so if 128 bits hold what the
points come to in the end, counted in basis points, they hold every step before. Then the whole
numbers of a plan are the words that it is computed in.
-/

import SuperblockGovernance.Proofs.ExtraContributions

namespace SuperblockGovernance

/-! ### Steps in 128 bits -/

namespace Rounding

/-- The sum of two numbers, if 128 bits hold it. -/
def sum? (first second : Nat) : Option Nat :=
  if first + second ≤ maxWord128 then some (first + second) else none

/-- The product of two numbers, if 128 bits hold it. -/
def product? (first second : Nat) : Option Nat :=
  if first * second ≤ maxWord128 then some (first * second) else none

theorem sum?_of_le {first second : Nat} (fits : first + second ≤ maxWord128) :
    sum? first second = some (first + second) :=
  if_pos fits

theorem product?_of_le {first second : Nat} (fits : first * second ≤ maxWord128) :
    product? first second = some (first * second) :=
  if_pos fits

end Rounding

/-- A run of steps that may fail is the run of the steps that it stands for, if each of them
succeeds after those before it. -/
theorem foldlM_eq_some_foldl {σ α : Type} {step : σ → α → σ} {step? : σ → α → Option σ}
    {items : List α} {start : σ}
    (succeeds : ∀ before item after, items = before ++ item :: after →
      step? (before.foldl step start) item = some (step (before.foldl step start) item)) :
    items.foldlM step? start = some (items.foldl step start) := by
  induction items generalizing start with
  | nil => rfl
  | cons item rest inductionHypothesis =>
    have first : step? start item = some (step start item) := succeeds [] item rest rfl
    rw [List.foldlM_cons, first, List.foldl_cons]
    exact inductionHypothesis fun before next after same =>
      succeeds (item :: before) next after (congrArg (item :: ·) same)

/-! ### Sums by key -/

namespace SortedMap

variable {κ : Type} [Ord κ] [Std.TransOrd κ]

/-- Adds a number up under its key. -/
def count (map : SortedMap κ Nat) (pair : κ × Nat) : SortedMap κ Nat :=
  map.alter pair.1 fun before => before.getD 0 + pair.2

/-- Adds a number up under its key, if 128 bits hold the sum. -/
def countInWords? (map : SortedMap κ Nat) (pair : κ × Nat) : Option (SortedMap κ Nat) :=
  (Rounding.sum? ((map.get? pair.1).getD 0) pair.2).map (map.insert pair.1)

variable [Std.LawfulEqOrd κ]

theorem getD_le_of_values {map : SortedMap κ Nat} {bound : Nat}
    (fits : ∀ number ∈ map.values, number ≤ bound) (key : κ) : (map.get? key).getD 0 ≤ bound := by
  cases held : map.get? key with
  | none => exact Nat.zero_le _
  | some number => exact fits number (mem_values_iff.mpr ⟨key, held⟩)

variable [DecidableEq κ]

theorem getD_foldl_count (pairs : List (κ × Nat)) (key : κ) :
    ((pairs.foldl count .empty).get? key).getD 0 =
      sumOf Prod.snd (pairs.filter fun pair => pair.1 = key) :=
  (getD_foldl_add pairs .empty key).trans (Nat.zero_add _)

/-- What is held for a key after some pairs is no more than what is held after all of them. -/
theorem foldlM_countInWords? {pairs : List (κ × Nat)}
    (fits : ∀ key, ((pairs.foldl count .empty).get? key).getD 0 ≤ Rounding.maxWord128) :
    pairs.foldlM countInWords? .empty = some (pairs.foldl count .empty) := by
  refine foldlM_eq_some_foldl fun before pair after same => ?_
  have grows : ((before.foldl count .empty).get? pair.1).getD 0 + pair.2 ≤
      ((pairs.foldl count .empty).get? pair.1).getD 0 := by
    rw [getD_foldl_count, getD_foldl_count, same, List.filter_append, sumOf_append,
      List.filter_cons, if_pos (decide_eq_true rfl), sumOf_cons]
    omega
  rw [countInWords?, Rounding.sum?_of_le (Nat.le_trans grows (fits pair.1))]
  rfl

end SortedMap

/-! ### Points in 128 bits -/

namespace PointTable

variable {awards : List Award}

/-- Adds the points of an award, if 128 bits hold what its payee has in the campaign then. -/
def addInWords? (table : PointTable) (award : Award) : Option PointTable :=
  if award.points = 0 then some table
  else
    let held := table.pointsOf award.payee
    (Rounding.sum? ((held.get? award.campaign).getD 0) award.points).map fun sum =>
      table.insert award.payee (held.insert award.campaign sum)

theorem totalOf_foldl_add (awards : List Award) (table : PointTable) (campaign : Campaign) :
    (awards.foldl add table).totalOf campaign =
      table.totalOf campaign +
        sumOf Award.points (awards.filter fun award => award.campaign = campaign) := by
  induction awards generalizing table with
  | nil => rfl
  | cons award rest inductionHypothesis =>
    rw [List.foldl_cons, inductionHypothesis, totalOf_add]
    by_cases same : award.campaign = campaign
    · rw [if_pos same.symm, List.filter_cons, if_pos (decide_eq_true same), sumOf_cons,
        Nat.add_assoc]
    · rw [if_neg (Ne.symm same), List.filter_cons, if_neg (by simpa using same), Nat.add_zero]

theorem getD_pointsOf_le_totalOf (table : PointTable) (payee : PayoutAddress)
    (campaign : Campaign) :
    ((table.pointsOf payee).get? campaign).getD 0 ≤ table.totalOf campaign := by
  cases held : (table.pointsOf payee).get? campaign with
  | none => exact Nat.zero_le _
  | some points =>
    have listed : (campaign, points) ∈ (table.pointsOf payee).entries :=
      SortedMap.get?_eq_some_iff.mp held
    exact le_totalOf (mem_columns_of_mem_pointsOf listed)

/-- What a payee has in a campaign after some awards is no more than the total of the campaign after
all of them. -/
theorem foldlM_addInWords?
    (fits : ∀ campaign, (ofAwards awards).totalOf campaign ≤ Rounding.maxWord128) :
    awards.foldlM addInWords? .empty = some (ofAwards awards) := by
  refine foldlM_eq_some_foldl fun before award after same => ?_
  rw [addInWords?]
  by_cases nothing : award.points = 0
  · rw [if_pos nothing, add_of_none nothing]
  have own := getD_pointsOf_le_totalOf (before.foldl add .empty) award.payee award.campaign
  have grows : (before.foldl add .empty).totalOf award.campaign + award.points ≤
      (ofAwards awards).totalOf award.campaign := by
    rw [ofAwards, same, List.foldl_append, List.foldl_cons, totalOf_foldl_add after,
      totalOf_add_self]
    exact Nat.le_add_right _ _
  have held := fits award.campaign
  rw [if_neg nothing, add_of_some nothing]
  dsimp only
  rw [Rounding.sum?_of_le (by omega)]
  rfl

end PointTable

/-! ### Shares in 128 bits -/

/-- The prominence that points earn, if 128 bits hold the weight and the total as a share needs
them. The product with the points is the one that stays at the greatest number. -/
def Prominence.shareInWords? (points weight total : Nat) : Option Nat :=
  if weight = 0 ∨ total = 0 then some 0
  else do
    let parts ← Rounding.product? weight scale
    let whole ← Rounding.product? total basisPoints
    some (Rounding.mulDivFloor points parts whole)

theorem Prominence.shareInWords?_of_le {weight total : Nat} (points : Nat)
    (weighed : weight < 2 ^ 32) (fits : total * basisPoints ≤ Rounding.maxWord128) :
    shareInWords? points weight total = some (share points weight total) := by
  have parts : weight * scale ≤ Rounding.maxWord128 :=
    Nat.le_trans (Nat.mul_le_mul_right scale (Nat.le_of_lt weighed)) (by decide)
  rw [shareInWords?, share]
  split
  · rfl
  · rw [Rounding.product?_of_le parts, Rounding.product?_of_le fits]
    rfl

namespace AllocationRules

variable {weights : SortedMap Campaign UInt32} {table : PointTable}

/-- Adds the share of a campaign to a prominence, if 128 bits hold it. -/
def addShareInWords? (weights : SortedMap Campaign UInt32) (totals : SortedMap Campaign Nat)
    (prominence : Nat) (column : Campaign × Nat) : Option Nat := do
  let share ← Prominence.shareInWords? column.2 (weightOf weights column.1)
    ((totals.get? column.1).getD 0)
  Rounding.sum? prominence share

theorem addShareInWords?_of_le {sum : Nat} {column : Campaign × Nat}
    (fits : table.totalOf column.1 * Prominence.basisPoints ≤ Rounding.maxWord128)
    (held : sum + portion weights table column ≤ Rounding.maxWord128) :
    addShareInWords? weights table.totals sum column =
      some (sum + portion weights table column) := by
  have share : Prominence.shareInWords? column.2 (weightOf weights column.1)
      ((table.totals.get? column.1).getD 0) = some (portion weights table column) :=
    Prominence.shareInWords?_of_le column.2 (UInt32.toNat_lt _) fits
  rw [addShareInWords?, share]
  exact Rounding.sum?_of_le held

theorem foldlM_addShareInWords? {points : SortedMap Campaign Nat}
    (fits : ∀ campaign, table.totalOf campaign * Prominence.basisPoints ≤ Rounding.maxWord128)
    (held : prominence weights table.totals points ≤ Rounding.maxWord128) :
    points.entries.foldlM (addShareInWords? weights table.totals) 0 =
      some (prominence weights table.totals points) := by
  rw [prominence_eq] at held ⊢
  have total := sumOf_eq_foldl (portion weights table) points.entries
  rw [total]
  refine foldlM_eq_some_foldl fun before column after same => ?_
  refine addShareInWords?_of_le (fits column.1) (Nat.le_trans ?_ held)
  rw [← sumOf_eq_foldl, same, sumOf_append, sumOf_cons]
  omega

/-! ### The words of an assessment -/

/-- 128 bits hold the cents sponsored through each charity, and the total of each campaign counted
in basis points. -/
structure SumsFit (rules : AllocationRules) (records : ChainRecords) (snapshot : Height) :
    Prop where
  sponsored : ∀ cents ∈ (sponsored (records.orphans snapshot)).values,
    cents ≤ Rounding.maxWord128
  totals : ∀ total ∈ (rules.collectPoints records snapshot).totals.values,
    total * Prominence.basisPoints ≤ Rounding.maxWord128

/-- The sums of an assessment come out alike in 128 bits, step by step: the cents sponsored through
each charity, the points of each payee, the totals of the campaigns and the prominence of each
payee. -/
structure HeldInWords (rules : AllocationRules) (records : ChainRecords) (snapshot : Height) :
    Prop where
  sponsored : ((records.orphans snapshot).map fun orphan =>
      (orphan.charity, orphan.monthlyCents.toNat)).foldlM SortedMap.countInWords? .empty =
    some (sponsored (records.orphans snapshot))
  collected : (rules.awards records snapshot).foldlM PointTable.addInWords? .empty =
    some (rules.collectPoints records snapshot)
  totals : (rules.collectPoints records snapshot).columns.foldlM SortedMap.countInWords? .empty =
    some (rules.collectPoints records snapshot).totals
  prominences : ∀ points ∈ (rules.collectPoints records snapshot).values,
    points.entries.foldlM (addShareInWords? (records.weights snapshot)
        (rules.collectPoints records snapshot).totals) 0 =
      some (rules.standing records snapshot points)

section

variable {rules : AllocationRules} {records : ChainRecords} {snapshot : Height}

theorem sponsored_eq (orphans : List OrphanCommitment) :
    sponsored orphans = (orphans.map fun orphan =>
      (orphan.charity, orphan.monthlyCents.toNat)).foldl SortedMap.count .empty := by
  rw [List.foldl_map]
  rfl

theorem SumsFit.heldInWords (fits : rules.SumsFit records snapshot)
    (weighed : weightInPlay (records.weights snapshot) (rules.collectPoints records snapshot) ≤
      Prominence.basisPoints) : rules.HeldInWords records snapshot := by
  have counted : ∀ campaign,
      (rules.collectPoints records snapshot).totalOf campaign * Prominence.basisPoints ≤
        Rounding.maxWord128 := by
    intro campaign
    refine (Nat.le_div_iff_mul_le (by decide)).mp (SortedMap.getD_le_of_values ?_ campaign)
    exact fun total member => (Nat.le_div_iff_mul_le (by decide)).mpr (fits.totals total member)
  have held : ∀ campaign,
      (rules.collectPoints records snapshot).totalOf campaign ≤ Rounding.maxWord128 :=
    fun campaign => Nat.le_trans (Nat.le_mul_of_pos_right _ (by decide)) (counted campaign)
  refine ⟨?_, PointTable.foldlM_addInWords? held, SortedMap.foldlM_countInWords? held,
    fun points member => foldlM_addShareInWords? counted ?_⟩
  · rw [sponsored_eq]
    refine SortedMap.foldlM_countInWords? (SortedMap.getD_le_of_values ?_)
    rw [← sponsored_eq]
    exact fits.sponsored
  · -- all payees together have no more than the whole
    have whole := sumOf_prominence_le (records.weights snapshot)
      (rules.collectPoints records snapshot)
    have part := le_sumOf_of_mem (prominence (records.weights snapshot)
      (rules.collectPoints records snapshot).totals) member
    have scaled := Nat.mul_le_mul_right Prominence.pointScale weighed
    exact Nat.le_trans part (Nat.le_trans whole (Nat.le_trans scaled (by decide)))

end

/-! ### Plans within their limits -/

section

variable {rules : AllocationRules} {records : ChainRecords} {snapshot : Height}
variable (target : Height) (limit : Amount)

/-- With the margin and the minimum that a network starts from, and weights of at most the whole, a
plan keeps within its limit while it pays few, and passes it by rounding only: by at most half a
cent for each payee, and never by more than one part in 51 of the pool. Where 128 bits hold the
totals, the numbers of the plan are the words that they are computed in. -/
theorem plan_within_limit_up_to_rounding (margin : rules.marginPermille = 999)
    (minimum : rules.minPayment = 25000000)
    (weighed : sumOf UInt32.toNat (records.weights snapshot).values ≤ Prominence.basisPoints) :
    let pool := (rules.pool limit).toNat
    let allocation := (rules.assess records target snapshot limit).allocation
    let paid := allocation.pairs.length
    1000 * pool ≤ 999 * limit.toNat ∧
      2 * allocation.total ≤ 2 * pool + paid * Amount.cent ∧
      51 * allocation.total ≤ 52 * pool ∧
      (1000 * (paid * Amount.cent) ≤ 2 * limit.toNat → allocation.total ≤ limit.toNat) ∧
      (rules.SumsFit records snapshot → rules.HeldInWords records snapshot) := by
  intro pool allocation paid
  have planned : 1000 * pool ≤ 999 * limit.toNat := by
    have bounded := rules.pool_le limit
    rw [margin] at bounded
    exact bounded
  have inPlay := weightInPlay_le (records.weights snapshot) (rules.collectPoints records snapshot)
  have rounded : 2 * allocation.total ≤ 2 * pool + paid * Amount.cent :=
    twice_total_le target limit (Nat.le_trans inPlay weighed)
  have least : paid * (26 * Amount.cent) ≤ allocation.total :=
    length_mul_cent_le target limit (by rw [minimum]; rfl) (by decide)
  rw [Nat.mul_left_comm] at least
  exact ⟨planned, rounded, by omega, fun few => by omega, fun fits =>
    fits.heldInWords (Nat.le_trans inPlay weighed)⟩

end

end AllocationRules

/-! ### A plan above its limit -/

namespace CrowdedPlan

/-- Four payees with equal points in the one campaign. -/
def records : ChainRecords :=
  ({ weights := .ofList [("CAMEROON", 10000)]
     contributions :=
       (["A", "B", "C", "D"].filterMap PayoutAddress.ofText?).map fun payee =>
         { height := 150, txid := 1, campaign := "CAMEROON", payee, coinAge := 1,
           donation := 0 } } : HostFixture).records

/-- The rules that a network starts from. -/
def rules : AllocationRules :=
  ({ cycleLength := 100 } : Config).allocationRules

/-- A limit at which each of four payees earns 30.6 cents. -/
def limit : Amount := 122522523

theorem fits : rules.SumsFit records 200 where
  sponsored := by decide +kernel
  totals := by decide +kernel

end CrowdedPlan

/-- Each of the four payees earns 30.6 cents and is paid 31, which the margin does not cover. -/
theorem crowded_plan_passes_limit :
    CrowdedPlan.limit.toNat <
      (CrowdedPlan.rules.assess CrowdedPlan.records 300 200
        CrowdedPlan.limit).allocation.total := by
  decide +kernel

/-- The crowded plan passes its pool by no more than rounding explains, and no word is left. -/
theorem crowded_plan_within_rounding :
    CrowdedPlan.rules.marginPermille = 999 ∧ CrowdedPlan.rules.minPayment = 25000000 ∧
      sumOf UInt32.toNat (CrowdedPlan.records.weights 200).values ≤ Prominence.basisPoints ∧
      51 * (CrowdedPlan.rules.assess CrowdedPlan.records 300 200
        CrowdedPlan.limit).allocation.total ≤
          52 * (CrowdedPlan.rules.pool CrowdedPlan.limit).toNat ∧
      CrowdedPlan.rules.HeldInWords CrowdedPlan.records 200 := by
  have margin : CrowdedPlan.rules.marginPermille = 999 := rfl
  have minimum : CrowdedPlan.rules.minPayment = 25000000 := rfl
  have weighed : sumOf UInt32.toNat (CrowdedPlan.records.weights 200).values ≤
      Prominence.basisPoints := by decide +kernel
  obtain ⟨_, _, bounded, _, words⟩ := AllocationRules.plan_within_limit_up_to_rounding 300
    CrowdedPlan.limit margin minimum weighed
  exact ⟨margin, minimum, weighed, bounded, words CrowdedPlan.fits⟩

end SuperblockGovernance

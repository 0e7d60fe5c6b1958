/-
Laws of sorted maps. What a map holds for a key is the one entry with that key, so every
operation is described by what it holds afterwards for each key. A run of neighbouring
keys is read from its first key on, which gives the same entries as going through the
whole map. Lists are sorted by two numbers here, the second of which decides between elements
that agree in the first.
-/

import SuperblockGovernance.Proofs.Sums
import SuperblockGovernance.SortedMap

namespace SuperblockGovernance.SortedMap

variable {κ ν : Type} [Ord κ]

theorem contains_iff {map : SortedMap κ ν} {key : κ} :
    map.contains key = true ↔ ∃ value, map.get? key = some value :=
  Option.isSome_iff_exists

theorem contains_eq_false_iff {map : SortedMap κ ν} {key : κ} :
    map.contains key = false ↔ map.get? key = none :=
  Option.isSome_eq_false_iff.trans Option.isNone_iff_eq_none

@[simp] theorem get?_empty (key : κ) : (empty : SortedMap κ ν).get? key = none := rfl

variable [Std.TransOrd κ] [Std.LawfulEqOrd κ]

/-! ### Entries and lookups -/

omit [Std.LawfulEqOrd κ] in
theorem key_ne_of_lt {first second : κ} (below : compare first second = .lt) : first ≠ second := by
  rintro rfl
  rw [Std.ReflOrd.compare_self] at below
  cases below

omit [Std.LawfulEqOrd κ] in
/-- A key stands in one entry only. -/
theorem value_unique {entries : List (κ × ν)} {key : κ} {first second : ν}
    (ascending : entries.Pairwise fun first second => compare first.1 second.1 = .lt)
    (one : (key, first) ∈ entries) (other : (key, second) ∈ entries) : first = second := by
  induction entries with
  | nil => cases one
  | cons head rest inductionHypothesis =>
    obtain ⟨headBelow, restAscending⟩ := List.pairwise_cons.mp ascending
    rcases List.mem_cons.mp one with oneHead | oneInside <;>
      rcases List.mem_cons.mp other with otherHead | otherInside
    · exact (Prod.mk.inj (oneHead.trans otherHead.symm)).2
    · subst oneHead
      exact (key_ne_of_lt (headBelow (key, second) otherInside) rfl).elim
    · subst otherHead
      exact (key_ne_of_lt (headBelow (key, first) oneInside) rfl).elim
    · exact inductionHypothesis restAscending oneInside otherInside

omit [Std.TransOrd κ] in
theorem key_of_find? {entries : List (κ × ν)} {key : κ} {entry : κ × ν}
    (found : (entries.find? fun entry => compare entry.1 key == .eq) = some entry) :
    entry.1 = key := by
  have matched := List.find?_some found
  exact Std.LawfulEqOrd.eq_of_compare (eq_of_beq matched)

theorem get?_eq_some_iff {map : SortedMap κ ν} {key : κ} {value : ν} :
    map.get? key = some value ↔ (key, value) ∈ map.entries := by
  rw [get?, Option.map_eq_some_iff]
  constructor
  · rintro ⟨⟨held, _⟩, found, rfl⟩
    have same : held = key := key_of_find? found
    exact same ▸ List.mem_of_find?_eq_some found
  · intro member
    cases found : map.entries.find? fun entry => compare entry.1 key == .eq with
    | none =>
      have differs := List.find?_eq_none.mp found (key, value) member
      simp [Std.ReflOrd.compare_self] at differs
    | some entry =>
      obtain ⟨held, other⟩ := entry
      have same : held = key := key_of_find? found
      subst same
      exact ⟨_, rfl, value_unique map.ascending (List.mem_of_find?_eq_some found) member⟩

theorem get?_eq_none_iff {map : SortedMap κ ν} {key : κ} :
    map.get? key = none ↔ ∀ value, (key, value) ∉ map.entries := by
  rw [Option.eq_none_iff_forall_ne_some]
  exact forall_congr' fun value => not_congr get?_eq_some_iff

theorem mem_keys_iff {map : SortedMap κ ν} {key : κ} :
    key ∈ map.keys ↔ ∃ value, map.get? key = some value := by
  rw [keys, List.mem_map]
  constructor
  · rintro ⟨⟨_, value⟩, member, rfl⟩
    exact ⟨value, get?_eq_some_iff.mpr member⟩
  · rintro ⟨value, held⟩
    exact ⟨(key, value), get?_eq_some_iff.mp held, rfl⟩

theorem mem_values_iff {map : SortedMap κ ν} {value : ν} :
    value ∈ map.values ↔ ∃ key, map.get? key = some value := by
  rw [values, List.mem_map]
  constructor
  · rintro ⟨⟨key, _⟩, member, rfl⟩
    exact ⟨key, get?_eq_some_iff.mpr member⟩
  · rintro ⟨key, held⟩
    exact ⟨(key, value), get?_eq_some_iff.mp held, rfl⟩

/-! ### What the operations hold -/

theorem mem_setEntry_iff {entries : List (κ × ν)} {key other : κ} {value held : ν}
    (ascending : entries.Pairwise fun first second => compare first.1 second.1 = .lt) :
    (other, held) ∈ setEntry key value entries ↔
      (other = key ∧ held = value) ∨ (other ≠ key ∧ (other, held) ∈ entries) := by
  induction entries with
  | nil => simp [setEntry]
  | cons head rest inductionHypothesis =>
    obtain ⟨first, kept⟩ := head
    obtain ⟨headBelow, restAscending⟩ := List.pairwise_cons.mp ascending
    rw [setEntry]
    split
    · rename_i below
      have outside : (other, held) ∈ (first, kept) :: rest → other ≠ key := fun member same => by
        rcases List.mem_cons.mp member with head | inside
        · cases head
          exact key_ne_of_lt below same.symm
        · exact key_ne_of_lt (Std.TransCmp.lt_trans below (headBelow _ inside)) same.symm
      rw [List.mem_cons, Prod.mk.injEq]
      exact or_congr_right ⟨fun member => ⟨outside member, member⟩, And.right⟩
    · rename_i equal
      have same : key = first := Std.LawfulEqOrd.eq_of_compare equal
      subst same
      have outside : (other, held) ∈ rest → other ≠ key := fun member same =>
        key_ne_of_lt (headBelow _ member) same.symm
      rw [List.mem_cons, List.mem_cons, Prod.mk.injEq, Prod.mk.injEq]
      constructor
      · rintro (both | inside)
        · exact Or.inl both
        · exact Or.inr ⟨outside inside, Or.inr inside⟩
      · rintro (both | ⟨differs, both | inside⟩)
        · exact Or.inl both
        · exact absurd both.1 differs
        · exact Or.inr inside
    · rename_i above
      have differs : first ≠ key := key_ne_of_lt (Std.OrientedCmp.lt_of_gt above)
      rw [List.mem_cons, List.mem_cons, inductionHypothesis restAscending, Prod.mk.injEq]
      constructor
      · rintro (⟨rfl, rfl⟩ | both | ⟨apart, inside⟩)
        · exact Or.inr ⟨differs, Or.inl ⟨rfl, rfl⟩⟩
        · exact Or.inl both
        · exact Or.inr ⟨apart, Or.inr inside⟩
      · rintro (both | ⟨apart, both | inside⟩)
        · exact Or.inr (Or.inl both)
        · exact Or.inl both
        · exact Or.inr (Or.inr ⟨apart, inside⟩)

theorem get?_insert [DecidableEq κ] (map : SortedMap κ ν) (key other : κ) (value : ν) :
    (map.insert key value).get? other = if other = key then some value else map.get? other := by
  refine Option.ext fun held => ?_
  rw [get?_eq_some_iff]
  refine (mem_setEntry_iff map.ascending).trans ?_
  split
  · rename_i same
    simp [same, eq_comm]
  · rename_i differs
    simp [differs, get?_eq_some_iff]

theorem get?_alter [DecidableEq κ] (map : SortedMap κ ν) (key other : κ) (change : Option ν → ν) :
    (map.alter key change).get? other =
      if other = key then some (change (map.get? key)) else map.get? other :=
  get?_insert map key other _

theorem get?_filter (map : SortedMap κ ν) (keep : κ → ν → Bool) (key : κ) :
    (map.filter keep).get? key = (map.get? key).filter (keep key) := by
  refine Option.ext fun value => ?_
  rw [get?_eq_some_iff, Option.filter_eq_some_iff, get?_eq_some_iff]
  exact List.mem_filter

theorem get?_erase [DecidableEq κ] (map : SortedMap κ ν) (key other : κ) :
    (map.erase key).get? other = if other = key then none else map.get? other := by
  rw [erase, get?_filter]
  split
  · rename_i same
    subst same
    cases map.get? other <;> simp [Std.ReflOrd.compare_self]
  · rename_i differs
    have apart : compare other key ≠ .eq := fun equal =>
      differs (Std.LawfulEqOrd.eq_of_compare equal)
    cases map.get? other <;> simp [apart]

theorem get?_mapValues {μ : Type} (map : SortedMap κ ν) (change : κ → ν → μ) (key : κ) :
    (map.mapValues change).get? key = (map.get? key).map (change key) := by
  refine Option.ext fun value => ?_
  rw [get?_eq_some_iff, Option.map_eq_some_iff]
  refine List.mem_map.trans ?_
  constructor
  · rintro ⟨⟨held, before⟩, member, same⟩
    cases same
    exact ⟨before, get?_eq_some_iff.mpr member, rfl⟩
  · rintro ⟨before, held, rfl⟩
    exact ⟨(key, before), get?_eq_some_iff.mp held, rfl⟩

omit [Std.TransOrd κ] in
/-- A key that is not there yet gets an entry of its own. -/
theorem perm_setEntry {entries : List (κ × ν)} {key : κ} (value : ν)
    (fresh : ∀ entry ∈ entries, entry.1 ≠ key) :
    (setEntry key value entries).Perm ((key, value) :: entries) := by
  induction entries with
  | nil => exact .refl _
  | cons head rest inductionHypothesis =>
    obtain ⟨first, held⟩ := head
    rw [setEntry]
    split
    · exact .refl _
    · rename_i equal
      have same : key = first := Std.LawfulEqOrd.eq_of_compare equal
      exact absurd same.symm (fresh _ List.mem_cons_self)
    · have later := inductionHypothesis fun entry member =>
        fresh entry (List.mem_cons_of_mem _ member)
      exact (later.cons _).trans (.swap _ _ _)

theorem perm_insert {map : SortedMap κ ν} {key : κ} (fresh : map.contains key = false)
    (value : ν) : (map.insert key value).entries.Perm ((key, value) :: map.entries) := by
  refine perm_setEntry value fun entry member same => ?_
  exact get?_eq_none_iff.mp (contains_eq_false_iff.mp fresh) entry.2 (same ▸ member)

omit [Std.LawfulEqOrd κ] in
/-- Maps with the same entries are equal. -/
theorem eq_of_perm {first second : SortedMap κ ν} (alike : first.entries.Perm second.entries) :
    first = second := by
  obtain ⟨entries, ascending⟩ := first
  obtain ⟨others, othersAscending⟩ := second
  have same : entries = others := by
    refine alike.eq_of_pairwise (fun one other _ _ below above => ?_) ascending othersAscending
    exact absurd rfl (key_ne_of_lt (Std.TransCmp.lt_trans below above))
  cases same
  rfl

/-- Maps that answer every lookup alike are equal. -/
theorem eq_of_get? {first second : SortedMap κ ν}
    (alike : ∀ key, first.get? key = second.get? key) : first = second := by
  have distinct : ∀ map : SortedMap κ ν, map.entries.Nodup := fun map =>
    map.ascending.imp fun below same => key_ne_of_lt below (congrArg Prod.fst same)
  refine eq_of_perm ((List.perm_ext_iff_of_nodup (distinct first) (distinct second)).mpr ?_)
  intro entry
  show (entry.1, entry.2) ∈ first.entries ↔ (entry.1, entry.2) ∈ second.entries
  rw [← get?_eq_some_iff, ← get?_eq_some_iff, alike]

/-- Two changes commute, unless they are of one key and do not commute as changes of its value. -/
theorem alter_comm [DecidableEq κ] (map : SortedMap κ ν) {first second : κ}
    {change other : Option ν → ν}
    (agree : first = second → ∀ held, other (some (change held)) = change (some (other held))) :
    (map.alter first change).alter second other =
      (map.alter second other).alter first change := by
  refine eq_of_get? fun key => ?_
  simp only [get?_alter]
  by_cases same : first = second
  · subst same
    rw [if_pos rfl, if_pos rfl, agree rfl]
    split <;> rfl
  · rw [if_neg same, if_neg (Ne.symm same)]
    by_cases one : key = first
    · subst one
      rw [if_neg same, if_pos rfl, if_pos rfl]
    · rw [if_neg one, if_neg one]

/-! ### One entry taken out -/

/-- Setting a key forgets what it held. -/
theorem insert_erase [DecidableEq κ] (map : SortedMap κ ν) (key : κ) (value : ν) :
    (map.erase key).insert key value = map.insert key value := by
  refine eq_of_get? fun other => ?_
  rw [get?_insert, get?_insert, get?_erase]
  split <;> rfl

theorem erase_insert [DecidableEq κ] (map : SortedMap κ ν) (key : κ) (value : ν) :
    (map.insert key value).erase key = map.erase key := by
  refine eq_of_get? fun other => ?_
  rw [get?_erase, get?_erase, get?_insert]
  split <;> rfl

theorem insert_of_get? [DecidableEq κ] {map : SortedMap κ ν} {key : κ} {value : ν}
    (held : map.get? key = some value) : map.insert key value = map := by
  refine eq_of_get? fun other => ?_
  rw [get?_insert]
  split
  · rename_i same
    rw [same, held]
  · rfl

theorem erase_of_get?_eq_none [DecidableEq κ] {map : SortedMap κ ν} {key : κ}
    (absent : map.get? key = none) : map.erase key = map := by
  refine eq_of_get? fun other => ?_
  rw [get?_erase]
  split
  · rename_i same
    rw [same, absent]
  · rfl

theorem key_ne_of_mem_erase [DecidableEq κ] {map : SortedMap κ ν} {key : κ} {entry : κ × ν}
    (member : entry ∈ (map.erase key).entries) : entry.1 ≠ key := by
  have held : (map.erase key).get? entry.1 = some entry.2 := get?_eq_some_iff.mpr member
  rw [get?_erase] at held
  split at held
  · cases held
  · assumption

theorem contains_erase_self [DecidableEq κ] (map : SortedMap κ ν) (key : κ) :
    (map.erase key).contains key = false := by
  rw [contains_eq_false_iff, get?_erase, if_pos rfl]

/-- The entries of a map are the one of a key and all the others. -/
theorem perm_cons_erase [DecidableEq κ] {map : SortedMap κ ν} {key : κ} {value : ν}
    (held : map.get? key = some value) :
    map.entries.Perm ((key, value) :: (map.erase key).entries) := by
  have apart := perm_insert (map.contains_erase_self key) value
  rwa [insert_erase, insert_of_get? held] at apart

/-- The sum over a map that was changed at one key: what stands there now, and all the others. -/
theorem sumOf_alter [DecidableEq κ] (number : κ × ν → Nat) (map : SortedMap κ ν) (key : κ)
    (change : Option ν → ν) :
    sumOf number (map.alter key change).entries =
      number (key, change (map.get? key)) + sumOf number (map.erase key).entries := by
  have apart := perm_insert (map.contains_erase_self key) (change (map.get? key))
  rw [alter, ← insert_erase, sumOf_of_perm number apart, sumOf_cons]

/-- The sum over a map: what stands at one key, if anything does, and all the others. -/
theorem sumOf_entries [DecidableEq κ] (number : κ × ν → Nat) (map : SortedMap κ ν) (key : κ) :
    sumOf number map.entries =
      ((map.get? key).map fun held => number (key, held)).getD 0 +
        sumOf number (map.erase key).entries := by
  cases held : map.get? key with
  | none => rw [erase_of_get?_eq_none held, Option.map_none, Option.getD_none, Nat.zero_add]
  | some value =>
    rw [sumOf_of_perm number (perm_cons_erase held), sumOf_cons]
    rfl

/-- The numbers that stand at one key come to what the map holds there. -/
theorem sumOf_filter_key [DecidableEq κ] (map : SortedMap κ Nat) (key : κ) :
    sumOf Prod.snd (map.entries.filter fun entry => entry.1 = key) = (map.get? key).getD 0 := by
  have others : ((map.erase key).entries.filter fun entry => entry.1 = key) = [] :=
    List.filter_eq_nil_iff.mpr fun entry member same =>
      key_ne_of_mem_erase member (of_decide_eq_true same)
  cases held : map.get? key with
  | none =>
    rw [← erase_of_get?_eq_none held, others]
    rfl
  | some value =>
    rw [sumOf_of_perm Prod.snd ((perm_cons_erase held).filter _), List.filter_cons,
      if_pos (decide_eq_true rfl), others]
    rfl

theorem eq_of_contains {first second : SortedSet κ}
    (alike : ∀ key, first.contains key = true ↔ second.contains key = true) : first = second := by
  refine eq_of_get? fun key => ?_
  have same := alike key
  rw [contains, contains] at same
  cases one : first.get? key <;> cases other : second.get? key <;> simp_all

/-! ### Keys -/

theorem contains_insert [DecidableEq κ] (map : SortedMap κ ν) (key other : κ) (value : ν) :
    (map.insert key value).contains other = true ↔ other = key ∨ map.contains other = true := by
  rw [contains, get?_insert]
  by_cases same : other = key
  · rw [if_pos same]
    exact iff_of_true rfl (Or.inl same)
  · rw [if_neg same]
    exact (or_iff_right same).symm

theorem contains_erase [DecidableEq κ] (map : SortedMap κ ν) (key other : κ) :
    (map.erase key).contains other = true ↔ other ≠ key ∧ map.contains other = true := by
  rw [contains, get?_erase]
  by_cases same : other = key
  · rw [if_pos same]
    exact iff_of_false Bool.false_ne_true fun both => both.1 same
  · rw [if_neg same]
    exact (and_iff_right same).symm

omit [Std.LawfulEqOrd κ] in
theorem nodup_keys (map : SortedMap κ ν) : map.keys.Nodup :=
  List.pairwise_map.mpr (map.ascending.imp key_ne_of_lt)

theorem contains_foldl_insert [DecidableEq κ] (keys : List κ) (set : SortedSet κ) (key : κ) :
    (keys.foldl (fun set key => set.insert key ()) set).contains key = true ↔
      key ∈ keys ∨ set.contains key = true := by
  induction keys generalizing set with
  | nil => exact (or_iff_right List.not_mem_nil).symm
  | cons first rest inductionHypothesis =>
    rw [List.foldl_cons, inductionHypothesis, contains_insert, List.mem_cons, or_left_comm,
      or_assoc]

/-- A map that adds up numbers by their keys holds the sum of those with the key. -/
theorem getD_foldl_add [DecidableEq κ] (pairs : List (κ × Nat)) (map : SortedMap κ Nat) (key : κ) :
    ((pairs.foldl (fun map pair => map.alter pair.1 fun before => before.getD 0 + pair.2)
        map).get? key).getD 0 =
      (map.get? key).getD 0 + sumOf Prod.snd (pairs.filter fun pair => pair.1 = key) := by
  induction pairs generalizing map with
  | nil => rfl
  | cons pair rest inductionHypothesis =>
    rw [List.foldl_cons, inductionHypothesis, get?_alter]
    by_cases same : key = pair.1
    · rw [if_pos same, List.filter_cons, if_pos (decide_eq_true same.symm), sumOf_cons, ← same,
        Option.getD_some, Nat.add_assoc]
    · rw [if_neg same, List.filter_cons, if_neg (by simpa using Ne.symm same)]

theorem contains_foldl_alter [DecidableEq κ] {μ : Type} (pairs : List (κ × μ))
    (change : μ → Option ν → ν) (map : SortedMap κ ν) (key : κ) :
    (pairs.foldl (fun map pair => map.alter pair.1 (change pair.2)) map).contains key = true ↔
      key ∈ pairs.map Prod.fst ∨ map.contains key = true := by
  induction pairs generalizing map with
  | nil => exact (or_iff_right List.not_mem_nil).symm
  | cons pair rest inductionHypothesis =>
    rw [List.foldl_cons, inductionHypothesis, alter, contains_insert, List.map_cons,
      List.mem_cons, or_left_comm, or_assoc]

theorem isEmpty_iff {map : SortedMap κ ν} :
    map.isEmpty = true ↔ ∀ key, map.contains key = false := by
  rw [isEmpty, List.isEmpty_iff]
  constructor
  · intro nothing key
    rw [contains_eq_false_iff, get?_eq_none_iff, nothing]
    exact fun _ => List.not_mem_nil
  · intro absent
    refine List.eq_nil_iff_forall_not_mem.mpr fun entry member => ?_
    exact get?_eq_none_iff.mp (contains_eq_false_iff.mp (absent entry.1)) entry.2 member

/-! ### Runs of neighbouring entries -/

/-- Entries that stand together are found by reading on from a place that none of them precedes. -/
theorem takeWhile_dropWhile_eq_filter {α : Type} {entries : List α} {before inside : α → Bool}
    (starts : ∀ entry ∈ entries, inside entry = true → before entry = false)
    (stays : entries.Pairwise fun first second => before first = false → before second = false)
    (closes : entries.Pairwise fun first second =>
      before first = false → inside first = false → inside second = false) :
    (entries.dropWhile before).takeWhile inside = entries.filter inside := by
  induction entries with
  | nil => rfl
  | cons head rest inductionHypothesis =>
    obtain ⟨headStays, restStays⟩ := List.pairwise_cons.mp stays
    obtain ⟨headCloses, restCloses⟩ := List.pairwise_cons.mp closes
    have restEqual := inductionHypothesis
      (fun entry member => starts entry (List.mem_cons_of_mem _ member)) restStays restCloses
    cases ahead : before head with
    | true =>
      have outside : inside head = false := Bool.eq_false_iff.mpr fun within => by
        rw [starts head List.mem_cons_self within] at ahead
        cases ahead
      rw [List.dropWhile_cons_of_pos ahead, List.filter_cons_of_neg (by simp [outside]), restEqual]
    | false =>
      have reached : rest.dropWhile before = rest := by
        cases rest with
        | nil => rfl
        | cons next others =>
          exact List.dropWhile_cons_of_neg (by simp [headStays next List.mem_cons_self ahead])
      rw [reached] at restEqual
      rw [List.dropWhile_cons_of_neg (by simp [ahead])]
      cases within : inside head with
      | true => rw [List.takeWhile_cons_of_pos within, List.filter_cons_of_pos within, restEqual]
      | false =>
        have none : rest.filter inside = [] := List.filter_eq_nil_iff.mpr fun entry member => by
          simp [headCloses entry member ahead within]
        rw [List.takeWhile_cons_of_neg (by simp [within]),
          List.filter_cons_of_neg (by simp [within]), none]

end SuperblockGovernance.SortedMap

/-! ### Lists sorted by two ranks -/

namespace SuperblockGovernance

variable {α : Type} {before : α → α → Bool} {major minor : α → Nat}

theorem pairwise_mergeSort_of_ranks
    (ranked : ∀ first second, before first second = true ↔
      major first < major second ∨ (major first = major second ∧ minor first ≤ minor second))
    (list : List α) :
    (list.mergeSort before).Pairwise fun first second => before first second = true := by
  refine List.pairwise_mergeSort (fun first second third one other => ?_)
    (fun first second => ?_) list
  · rw [ranked] at *
    omega
  · rw [Bool.or_eq_true, ranked, ranked]
    omega

/-- Elements of different ranks are sorted in one way only. -/
theorem pairwise_lt_mergeSort_of_ranks
    (ranked : ∀ first second, before first second = true ↔
      major first < major second ∨ (major first = major second ∧ minor first ≤ minor second))
    {list : List α} (apart : (list.map fun element => (major element, minor element)).Nodup) :
    (list.mergeSort before).Pairwise fun first second =>
      major first < major second ∨ (major first = major second ∧ minor first < minor second) := by
  have differ : ((list.mergeSort before).map fun element => (major element, minor element)).Nodup :=
    ((List.mergeSort_perm list before).map _).nodup_iff.mpr apart
  refine ((pairwise_mergeSort_of_ranks ranked list).and (List.pairwise_map.mp differ)).imp ?_
  rintro first second ⟨below, unequal⟩
  rcases (ranked first second).mp below with less | ⟨same, atMost⟩
  · exact Or.inl less
  · refine Or.inr ⟨same, Nat.lt_of_le_of_ne atMost fun equal => unequal ?_⟩
    rw [same, equal]

end SuperblockGovernance

/-
Finite maps held as lists of entries with strictly ascending keys. Since the
entries of a map are determined by what it holds, two maps that answer every
lookup alike are equal, and iterating over a map follows the order of its keys.
-/

namespace SuperblockGovernance

/-- A finite map. Its entries stand in ascending order of their keys. -/
structure SortedMap (κ ν : Type) [Ord κ] where
  entries : List (κ × ν)
  ascending : entries.Pairwise fun first second => compare first.1 second.1 = .lt

namespace SortedMap

variable {κ ν : Type} [Ord κ]

instance [DecidableEq κ] [DecidableEq ν] : DecidableEq (SortedMap κ ν) := fun first second =>
  if same : first.entries = second.entries then
    .isTrue (by cases first; cases second; cases same; rfl)
  else .isFalse fun equal => same (congrArg entries equal)

/-! ### Entries -/

/-- Entries with one key set to a value, other keys left alone. -/
def setEntry (key : κ) (value : ν) : List (κ × ν) → List (κ × ν)
  | [] => [(key, value)]
  | (first, held) :: rest =>
    match compare key first with
    | .lt => (key, value) :: (first, held) :: rest
    | .eq => (key, value) :: rest
    | .gt => (first, held) :: setEntry key value rest

theorem mem_setEntry {key : κ} {value : ν} {entries : List (κ × ν)} {entry : κ × ν}
    (member : entry ∈ setEntry key value entries) : entry = (key, value) ∨ entry ∈ entries := by
  induction entries with
  | nil => exact Or.inl (List.mem_singleton.mp member)
  | cons head rest inductionHypothesis =>
    obtain ⟨first, held⟩ := head
    rw [setEntry] at member
    split at member
    · exact List.mem_cons.mp member
    · rcases List.mem_cons.mp member with same | inside
      · exact Or.inl same
      · exact Or.inr (List.mem_cons_of_mem _ inside)
    · rcases List.mem_cons.mp member with same | inside
      · exact Or.inr (same ▸ List.mem_cons_self)
      · exact (inductionHypothesis inside).imp_right (List.mem_cons_of_mem _)

theorem ascending_setEntry [Std.TransOrd κ] (key : κ) (value : ν) {entries : List (κ × ν)}
    (ascending : entries.Pairwise fun first second => compare first.1 second.1 = .lt) :
    (setEntry key value entries).Pairwise fun first second =>
      compare first.1 second.1 = .lt := by
  induction entries with
  | nil => exact List.pairwise_singleton _ _
  | cons head rest inductionHypothesis =>
    obtain ⟨first, held⟩ := head
    obtain ⟨headBelow, restAscending⟩ := List.pairwise_cons.mp ascending
    rw [setEntry]
    split
    · rename_i below
      refine List.pairwise_cons.mpr ⟨fun entry member => ?_, ascending⟩
      rcases List.mem_cons.mp member with same | inside
      · exact same ▸ below
      · exact Std.TransCmp.lt_trans below (headBelow entry inside)
    · rename_i same
      refine List.pairwise_cons.mpr ⟨fun entry member => ?_, restAscending⟩
      exact Std.TransCmp.lt_of_eq_of_lt same (headBelow entry member)
    · rename_i above
      refine List.pairwise_cons.mpr ⟨fun entry member => ?_, inductionHypothesis restAscending⟩
      rcases mem_setEntry member with same | inside
      · exact same ▸ Std.OrientedCmp.lt_of_gt above
      · exact headBelow entry inside

/-! ### Maps -/

/-- The map that holds nothing. -/
def empty : SortedMap κ ν :=
  ⟨[], List.Pairwise.nil⟩

instance : EmptyCollection (SortedMap κ ν) :=
  ⟨empty⟩

instance : Inhabited (SortedMap κ ν) :=
  ⟨empty⟩

/-- The value held for a key. -/
def get? (map : SortedMap κ ν) (key : κ) : Option ν :=
  (map.entries.find? fun entry => compare entry.1 key == .eq).map Prod.snd

/-- Something is held for the key. -/
def contains (map : SortedMap κ ν) (key : κ) : Bool :=
  (map.get? key).isSome

/-- The keys in ascending order. -/
def keys (map : SortedMap κ ν) : List κ :=
  map.entries.map Prod.fst

/-- The values in the order of their keys. -/
def values (map : SortedMap κ ν) : List ν :=
  map.entries.map Prod.snd

/-- The number of entries. -/
def size (map : SortedMap κ ν) : Nat :=
  map.entries.length

/-- Nothing is held. -/
def isEmpty (map : SortedMap κ ν) : Bool :=
  map.entries.isEmpty

/-- The map with one key set to a value. -/
def insert [Std.TransOrd κ] (map : SortedMap κ ν) (key : κ) (value : ν) : SortedMap κ ν :=
  ⟨setEntry key value map.entries, ascending_setEntry key value map.ascending⟩

/-- The map with the value of one key computed from what it held before. -/
def alter [Std.TransOrd κ] (map : SortedMap κ ν) (key : κ) (change : Option ν → ν) :
    SortedMap κ ν :=
  map.insert key (change (map.get? key))

/-- The entries that a test keeps. -/
def filter (map : SortedMap κ ν) (keep : κ → ν → Bool) : SortedMap κ ν :=
  ⟨map.entries.filter fun entry => keep entry.1 entry.2, map.ascending.filter _⟩

/-- The map without one key. -/
def erase (map : SortedMap κ ν) (key : κ) : SortedMap κ ν :=
  map.filter fun held _ => compare held key != .eq

/-- The entries from a key on, in order. -/
def entriesFrom (map : SortedMap κ ν) (key : κ) : List (κ × ν) :=
  map.entries.dropWhile fun entry => compare entry.1 key == .lt

/-- The map with every value changed in place. -/
def mapValues {μ : Type} (map : SortedMap κ ν) (change : κ → ν → μ) : SortedMap κ μ :=
  ⟨map.entries.map fun entry => (entry.1, change entry.1 entry.2),
    List.pairwise_map.mpr map.ascending⟩

/-- The map of a list of pairs; a later pair replaces an earlier one with its key. -/
def ofList [Std.TransOrd κ] (pairs : List (κ × ν)) : SortedMap κ ν :=
  pairs.foldl (fun map pair => map.insert pair.1 pair.2) empty

end SortedMap

/-- A finite set, held as the ascending list of its members. -/
abbrev SortedSet (κ : Type) [Ord κ] :=
  SortedMap κ Unit

end SuperblockGovernance

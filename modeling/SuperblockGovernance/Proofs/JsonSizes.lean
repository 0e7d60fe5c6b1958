/-
Sizes of JSON documents. The size of a tree is a number of tokens that every document of it
has: one for a scalar, two brackets for an array or object, and a name and a colon for each
member. Commas and blanks are not counted. A token adds at most one to the size of what has
been read, and takes at least one octet, so a document has at least as many octets as the
size of its tree.
-/

import SuperblockGovernance.Json.Value
import SuperblockGovernance.Proofs.Sums

namespace SuperblockGovernance.Json

/-! ### The size of a tree -/

mutual

/-- The tokens of a tree, the commas left out. -/
def Value.size : Value → Nat
  | .array elements => 2 + elementsSize elements
  | .object members => 2 + membersSize members
  | _ => 1

/-- The sizes of all elements together. -/
def elementsSize : List Value → Nat
  | [] => 0
  | value :: rest => value.size + elementsSize rest

/-- The sizes of all members together, with two tokens before each value. -/
def membersSize : List (Option String × Value) → Nat
  | [] => 0
  | (_, value) :: rest => 2 + value.size + membersSize rest

end

theorem elementsSize_eq (elements : List Value) :
    elementsSize elements = sumOf Value.size elements := by
  induction elements with
  | nil => rfl
  | cons value rest inductionHypothesis => rw [elementsSize, sumOf_cons, inductionHypothesis]

/-- The tokens of a member: its name, the colon and its value. -/
def memberSize (member : Option String × Value) : Nat :=
  2 + member.2.size

theorem membersSize_eq (members : List (Option String × Value)) :
    membersSize members = sumOf memberSize members := by
  induction members with
  | nil => rfl
  | cons member rest inductionHypothesis =>
    rw [membersSize, sumOf_cons, inductionHypothesis, memberSize]

theorem Value.size_pos (value : Value) : 0 < value.size := by
  cases value <;> simp only [size] <;> omega

theorem length_le_elementsSize (elements : List Value) :
    elements.length ≤ elementsSize elements := by
  rw [elementsSize_eq]
  induction elements with
  | nil => exact Nat.le_refl 0
  | cons value rest inductionHypothesis =>
    have positive := value.size_pos
    rw [List.length_cons, sumOf_cons]
    omega

theorem length_le_membersSize (members : List (Option String × Value)) :
    3 * members.length ≤ membersSize members := by
  rw [membersSize_eq]
  induction members with
  | nil => exact Nat.le_refl 0
  | cons member rest inductionHypothesis =>
    have positive := member.2.size_pos
    rw [List.length_cons, sumOf_cons, memberSize]
    omega

/-! ### The size of what has been read -/

/-- The tokens of an open array or object so far; after a name comes its colon. -/
def Frame.size : Frame → Nat
  | .element done => 1 + sumOf Value.size done
  | .member done _ => 3 + sumOf memberSize done

namespace Reading

/-- The tokens that it took to come to a reading. -/
def size : Reading → Nat
  | .expectValue stack => sumOf Frame.size stack
  | .openedArray stack => 1 + sumOf Frame.size stack
  | .openedObject stack => 1 + sumOf Frame.size stack
  | .expectName done stack => 1 + sumOf memberSize done + sumOf Frame.size stack
  | .expectColon done _ stack => 2 + sumOf memberSize done + sumOf Frame.size stack
  | .afterElement done stack => 1 + sumOf Value.size done + sumOf Frame.size stack
  | .afterMember done stack => 1 + sumOf memberSize done + sumOf Frame.size stack
  | .finished value => value.size

theorem size_complete (value : Value) (stack : List Frame) :
    (complete value stack).size = value.size + sumOf Frame.size stack := by
  rcases stack with _ | ⟨done | ⟨done, name⟩, rest⟩
  · rfl
  · simp only [complete, size, sumOf_cons, Frame.size]
    omega
  · simp only [complete, size, sumOf_cons, Frame.size, memberSize]
    omega

/-- The first token of a value adds one. -/
theorem size_start {stack : List Frame} {token : Token} {next : Reading}
    (started : start stack token = some next) : next.size = 1 + sumOf Frame.size stack := by
  cases token with
  | null | boolean | number | string =>
    cases started
    exact size_complete _ stack
  | openArray | openObject =>
    cases started
    rfl
  | closeArray | closeObject | comma | colon => cases started

/-- Each token adds at most one: it starts a value, closes what is open, or stands between. -/
theorem size_step {reading next : Reading} {token : Token}
    (stepped : reading.step token = some next) : next.size ≤ reading.size + 1 := by
  unfold step at stepped
  split at stepped
  case h_1 | h_3 =>
    rw [size_start stepped]
    simp only [size, sumOf_cons, Frame.size, sumOf_nil]
    omega
  case h_2 | h_4 | h_9 | h_11 =>
    cases stepped
    rw [size_complete]
    simp only [size, Value.size, elementsSize_eq, membersSize_eq, sumOf_nil,
      sumOf_of_perm _ (List.reverse_perm _)]
    omega
  case h_12 => cases stepped
  all_goals
    cases stepped
    simp only [size, sumOf_cons, Frame.size, sumOf_nil]
    omega

/-- The size of what has been read is at most the number of tokens read. -/
theorem size_foldlM {tokens : List Token} {reading next : Reading}
    (read : tokens.foldlM step reading = some next) :
    next.size ≤ reading.size + tokens.length := by
  induction tokens generalizing reading with
  | nil =>
    cases read
    exact Nat.le_refl _
  | cons token rest inductionHypothesis =>
    rw [List.foldlM_cons] at read
    obtain ⟨between, stepped, restRead⟩ := Option.bind_eq_some_iff.mp read
    have first := size_step stepped
    have later := inductionHypothesis restRead
    rw [List.length_cons]
    omega

end Reading

/-! ### The octets of a document -/

/-- A token takes at least one octet. -/
theorem length_of_tokens? {octets : Octets} {tokens : List Token}
    (read : tokens? octets = some tokens) : tokens.length ≤ octets.length := by
  fun_induction tokens? octets generalizing tokens with
  | case1 =>
    cases read
    exact Nat.le_refl 0
  | case2 octet rest _ inductionHypothesis =>
    exact Nat.le_succ_of_le (inductionHypothesis read)
  | case3 => cases read
  | case4 octet rest _ token after _ shorter inductionHypothesis =>
    obtain ⟨others, afterRead, rfl⟩ := Option.map_eq_some_iff.mp read
    have later := inductionHypothesis afterRead
    simp only [List.length_cons]
    omega

/-- A document is at least as long as the size of its tree. -/
theorem Value.size_of_ofOctets? {octets : Octets} {value : Value}
    (read : ofOctets? octets = some value) : value.size ≤ octets.length := by
  obtain ⟨tokens, lexed, afterTokens⟩ := Option.bind_eq_some_iff.mp read
  obtain ⟨reading, parsed, found⟩ := Option.bind_eq_some_iff.mp afterTokens
  have short := length_of_tokens? lexed
  have small := Reading.size_foldlM parsed
  cases reading with
  | finished result =>
    cases found
    have nothing : (Reading.expectValue []).size = 0 := rfl
    rw [nothing, Reading.size] at small
    omega
  | _ => cases found

end SuperblockGovernance.Json

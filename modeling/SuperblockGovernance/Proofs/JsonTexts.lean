/-
Objects as JSON text. The text of an object is read as the tokens of its members, and these
build the tree of the members. Each part is read before a mark, which is what comes next in
the text of an object.
-/

import SuperblockGovernance.Json.Value
import SuperblockGovernance.Proofs.JsonLiterals

namespace SuperblockGovernance

namespace Json

/-! ### Tokens -/

/-- A token that is taken is followed by the tokens of the rest. -/
theorem tokens?_of_takeToken {octet : UInt8} {octets after : Octets} {token : Token}
    (solid : isBlank octet = false) (taken : takeToken (octet :: octets) = some (token, after)) :
    tokens? (octet :: octets) = (tokens? after).map (token :: ·) := by
  rw [tokens?, if_neg (Bool.eq_false_iff.mp solid)]
  split
  · rename_i none
    rw [taken] at none
    cases none
  · rename_i found
    rw [taken] at found
    cases found
    rfl

theorem tokens?_mark {mark : UInt8} {token : Token} (known : single? mark = some token)
    (rest : Octets) : tokens? (mark :: rest) = (tokens? rest).map (token :: ·) := by
  refine tokens?_of_takeToken (ends_of_single? known).1 ?_
  simp only [takeToken, known]

/-- Before a mark, the octets are read as the tokens. -/
def Reads (octets : Octets) (tokens : List Token) : Prop :=
  ∀ mark token rest, single? mark = some token →
    tokens? (octets ++ mark :: rest) = (tokens? (mark :: rest)).map (tokens ++ ·)

theorem reads_nil : Reads [] [] := by
  intro mark token rest known
  simp

theorem reads_literal (text : String) :
    Reads (Octets.ofCharacters (literalCharacters text)) [.string (some text)] := by
  intro mark token rest known
  exact tokens?_of_takeToken rfl (takeToken_literal text (mark :: rest))

theorem reads_numeral (number : Nat) : Reads (numeral number) [.number (some number)] := by
  intro mark token rest known
  obtain ⟨first, others, written, _⟩ := head?_numeral number
  have starts := isDigit_of_mem_numeral number first (written ▸ List.mem_cons_self)
  have taken := takeToken_numeral number known rest
  rw [written] at taken ⊢
  exact tokens?_of_takeToken (starts_of_isDigit starts).2.2.2 taken

/-- Two texts with a mark between them. -/
theorem Reads.join {first second : Octets} {one other : List Token} {token : Token}
    (before : Reads first one) (mark : UInt8) (known : single? mark = some token)
    (after : Reads second other) :
    Reads (first ++ mark :: second) (one ++ token :: other) := by
  intro next nextToken rest nextKnown
  rw [List.append_assoc, List.cons_append, before _ _ _ known, tokens?_mark known,
    after _ _ _ nextKnown]
  simp [Function.comp_def]

/-- A text between two marks. -/
theorem Reads.enclose {body : Octets} {tokens : List Token} {first last : Token}
    (inside : Reads body tokens) (opening closing : UInt8) (opens : single? opening = some first)
    (closes : single? closing = some last) :
    Reads (opening :: (body ++ [closing])) (first :: (tokens ++ [last])) := by
  intro next nextToken rest nextKnown
  rw [List.cons_append, List.append_assoc, List.singleton_append, tokens?_mark opens,
    inside _ _ _ closes, tokens?_mark closes]
  simp [Function.comp_def]

/-- A text between two marks, and nothing after it. -/
theorem Reads.tokens?_enclosed {body : Octets} {tokens : List Token} {opening closing : UInt8}
    {first last : Token} (inside : Reads body tokens) (opens : single? opening = some first)
    (closes : single? closing = some last) :
    tokens? (opening :: (body ++ [closing])) = some (first :: (tokens ++ [last])) := by
  rw [tokens?_mark opens, inside _ _ _ closes, tokens?_mark closes, tokens?]
  simp

/-! ### Objects -/

/-- The token of a scalar. -/
def Scalar.token : Scalar → Token
  | .number value => .number (some value)
  | .text value => .string (some value)

/-- The value that a scalar is read as. -/
def Scalar.toValue : Scalar → Value
  | .number value => .ofNatural value
  | .text value => .ofText value

theorem reads_scalar (scalar : Scalar) :
    Reads (Octets.ofCharacters scalar.literal) [scalar.token] := by
  cases scalar with
  | number value => exact reads_numeral value
  | text value => exact reads_literal value

/-- The tokens of a member. -/
def memberTokens (member : String × Scalar) : List Token :=
  [.string (some member.1), .colon, member.2.token]

/-- The tokens of an object. -/
def objectTokens (members : Members) : List Token :=
  .openObject :: ([.comma].intercalate (members.map memberTokens) ++ [.closeObject])

theorem reads_member (member : String × Scalar) :
    Reads (Octets.ofCharacters (memberText member)) (memberTokens member) := by
  rw [memberText, Octets.ofCharacters_append, Octets.ofCharacters_cons]
  exact (reads_literal member.1).join 58 rfl (reads_scalar member.2)

theorem reads_members (members : Members) :
    Reads (Octets.ofCharacters ([','].intercalate (members.map memberText)))
      ([.comma].intercalate (members.map memberTokens)) := by
  induction members with
  | nil => exact reads_nil
  | cons first rest inductionHypothesis =>
    cases rest with
    | nil =>
      simp only [List.map_cons, List.map_nil, List.intercalate_singleton]
      exact reads_member first
    | cons second others =>
      simp only [List.map_cons, List.intercalate_cons_cons, List.append_assoc,
        List.singleton_append, Octets.ofCharacters_append,
        Octets.ofCharacters_cons] at inductionHypothesis ⊢
      exact (reads_member first).join 44 rfl inductionHypothesis

theorem reads_object (members : Members) :
    Reads (Octets.ofCharacters (objectText members)) (objectTokens members) := by
  rw [objectText, List.cons_append, Octets.ofCharacters_cons, Octets.ofCharacters_append]
  exact (reads_members members).enclose 123 125 rfl rfl

/-! ### Trees -/

/-- A member as the tree of an object holds it. -/
def memberValue (member : String × Scalar) : Option String × Value :=
  (some member.1, member.2.toValue)

theorem step_scalar (stack : List Frame) (scalar : Scalar) :
    Reading.step (.expectValue stack) scalar.token =
      some (Reading.complete scalar.toValue stack) := by
  cases scalar <;> rfl

theorem foldlM_member (done : List (Option String × Value)) (stack : List Frame)
    (member : String × Scalar) (more : List Token) :
    (memberTokens member ++ more).foldlM Reading.step (.expectName done stack) =
      more.foldlM Reading.step (.afterMember (memberValue member :: done) stack) := by
  show (Reading.step (.expectValue (.member done (some member.1) :: stack)) member.2.token).bind
    (fun state => more.foldlM Reading.step state) = _
  rw [step_scalar]
  rfl

/-- Members are read one after the other, those before them set aside in reverse. -/
theorem foldlM_members (done : List (Option String × Value)) (stack : List Frame)
    (first : String × Scalar) (rest : Members) (more : List Token) :
    ([Token.comma].intercalate ((first :: rest).map memberTokens) ++
        .closeObject :: more).foldlM Reading.step (.expectName done stack) =
      more.foldlM Reading.step
        (Reading.complete (.object (done.reverse ++ (first :: rest).map memberValue)) stack) := by
  induction rest generalizing done first with
  | nil =>
    rw [List.map_singleton, List.intercalate_singleton, foldlM_member]
    show more.foldlM Reading.step
      (Reading.complete (.object (memberValue first :: done).reverse) stack) = _
    rw [List.reverse_cons]
    rfl
  | cons second others inductionHypothesis =>
    have continued := inductionHypothesis (memberValue first :: done) second
    rw [List.reverse_cons, List.append_assoc] at continued
    rw [List.map_cons, List.map_cons, List.intercalate_cons_cons, List.append_assoc,
      List.append_assoc, foldlM_member]
    exact continued

/-- The tokens of members start with a name. -/
theorem exists_intercalate_eq (first : String × Scalar) (rest : Members) :
    ∃ tail, [Token.comma].intercalate ((first :: rest).map memberTokens) =
      .string (some first.1) :: tail := by
  cases rest with
  | nil => exact ⟨_, List.intercalate_singleton⟩
  | cons second others => exact ⟨_, List.intercalate_cons_cons⟩

/-- An object is read as the tree of its members. -/
theorem foldlM_object (stack : List Frame) (members : Members) (more : List Token) :
    (objectTokens members ++ more).foldlM Reading.step (.expectValue stack) =
      more.foldlM Reading.step
        (Reading.complete (.object (members.map memberValue)) stack) := by
  rw [objectTokens, List.cons_append, List.append_assoc]
  cases members with
  | nil => rfl
  | cons first rest =>
    have read := foldlM_members [] stack first rest more
    obtain ⟨tail, starts⟩ := exists_intercalate_eq first rest
    rw [starts] at read ⊢
    exact read

end Json

end SuperblockGovernance

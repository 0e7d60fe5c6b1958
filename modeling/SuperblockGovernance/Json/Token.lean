/-
The tokens of a JSON document, read from its octets. A string token keeps the text it
denotes when it denotes one: an escaped surrogate without its partner, or octets that
are no UTF-8, leave a token without a text, which may stand only where its text is not
needed. A number token keeps its value when it is a plain run of digits.
-/

import SuperblockGovernance.Octets
import SuperblockGovernance.Octets.Hexadecimal
import SuperblockGovernance.Text.Search

namespace SuperblockGovernance.Json

/-- The words and marks of a document. A number is kept if it is a natural one, and a string if it
is a text. -/
inductive Token
  | openArray
  | closeArray
  | openObject
  | closeObject
  | comma
  | colon
  | null
  | boolean (value : Bool)
  | number (natural : Option Nat)
  | string (text : Option String)
  deriving DecidableEq

/-! ### Strings -/

/-- The code unit written as four hexadecimal digits, and what follows it. -/
def codeUnit? : Octets → Option (Nat × Octets)
  | first :: second :: third :: fourth :: rest => do
    let first ← Hexadecimal.digitValue? first
    let second ← Hexadecimal.digitValue? second
    let third ← Hexadecimal.digitValue? third
    let fourth ← Hexadecimal.digitValue? fourth
    return (((first * 16 + second) * 16 + third) * 16 + fourth, rest)
  | _ => none

/-- The octet that a one-letter escape stands for. -/
def escaped? (letter : UInt8) : Option UInt8 :=
  if letter = 34 ∨ letter = 92 ∨ letter = 47 then some letter
  else if letter = 98 then some 8
  else if letter = 102 then some 12
  else if letter = 110 then some 10
  else if letter = 114 then some 13
  else if letter = 116 then some 9
  else none

/-- One element of a string body. -/
inductive Piece
  | octet (value : UInt8)
  | unit (value : Nat)
  deriving DecidableEq

/-- The elements of a string body up to its closing quote, and what follows the quote. Control
octets have to be escaped. -/
def takeString (octets : Octets) : Option (List Piece × Octets) :=
  match octets with
  | [] => none
  | 34 :: rest => some ([], rest)
  | 92 :: 117 :: rest =>
    match unit : codeUnit? rest with
    | none => none
    | some (value, after) =>
      have : after.length < rest.length := by
        unfold codeUnit? at unit
        split at unit
        · simp only [bind, Option.bind_eq_some_iff, pure, Option.some.injEq, Prod.mk.injEq] at unit
          obtain ⟨_, _, _, _, _, _, _, _, _, same⟩ := unit
          subst same
          simp only [List.length_cons]
          omega
        · cases unit
      (takeString after).map fun (pieces, after) => (.unit value :: pieces, after)
  | 92 :: letter :: rest =>
    match escaped? letter with
    | none => none
    | some value => (takeString rest).map fun (pieces, after) => (.octet value :: pieces, after)
  | octet :: rest =>
    if octet < 32 ∨ octet = 92 then none
    else (takeString rest).map fun (pieces, after) => (.octet octet :: pieces, after)
termination_by octets.length

/-- The UTF-8 octets that string elements denote. A high surrogate takes the low surrogate after
it along; either of them alone denotes nothing. -/
def denoted? : List Piece → Option Octets
  | [] => some []
  | .octet value :: rest => (denoted? rest).map (value :: ·)
  | .unit high :: .unit low :: rest =>
    if 0xd800 ≤ high ∧ high < 0xdc00 then
      if 0xdc00 ≤ low ∧ low < 0xe000 then
        let code := 0x10000 + (high - 0xd800) * 0x400 + (low - 0xdc00)
        (denoted? rest).map (String.utf8EncodeChar (Char.ofNat code) ++ ·)
      else none
    else if 0xdc00 ≤ high ∧ high < 0xe000 then none
    else (denoted? (.unit low :: rest)).map (String.utf8EncodeChar (Char.ofNat high) ++ ·)
  | .unit value :: rest =>
    if 0xd800 ≤ value ∧ value < 0xe000 then none
    else (denoted? rest).map (String.utf8EncodeChar (Char.ofNat value) ++ ·)

/-- The string that pieces stand for. -/
def stringToken (pieces : List Piece) : Token :=
  .string ((denoted? pieces).bind Octets.toText?)

/-! ### Numbers and words -/

/-- The octet is a decimal digit. -/
def isDigit (octet : UInt8) : Bool :=
  48 ≤ octet && octet ≤ 57

/-- The number that digits stand for. -/
def digitsValue (digits : Octets) : Nat :=
  digits.foldl (fun value digit => 10 * value + (digit.toNat - 48)) 0

/-- What follows one or more digits. -/
def afterDigits? (octets : Octets) : Option Octets :=
  match octets with
  | octet :: rest => if isDigit octet then some (rest.dropWhile isDigit) else none
  | [] => none

/-- What follows a fraction, if there is one. -/
def afterFraction? : Octets → Option Octets
  | 46 :: rest => afterDigits? rest
  | octets => some octets

/-- What follows an exponent, if there is one. -/
def afterExponent? : Octets → Option Octets
  | letter :: rest =>
    if letter = 101 ∨ letter = 69 then
      match rest with
      | sign :: digits => if sign = 43 ∨ sign = 45 then afterDigits? digits else afterDigits? rest
      | [] => none
    else some (letter :: rest)
  | [] => some []

/-- The digits of the whole part of a number, and what follows them: a zero alone, or digits that
start with another digit. -/
def wholePart? (octets : Octets) : Option (Octets × Octets) :=
  if octets.takeWhile isDigit = [] ∨
      ((octets.takeWhile isDigit).head? = some 48 ∧ octets.takeWhile isDigit ≠ [48]) then none
  else some (octets.takeWhile isDigit, octets.dropWhile isDigit)

/-- A number token and what follows it, after its minus sign if it has one. -/
def takeUnsigned (negative : Bool) (octets : Octets) : Option (Token × Octets) := do
  let (digits, afterWhole) ← wholePart? octets
  let afterFraction ← afterFraction? afterWhole
  let after ← afterExponent? afterFraction
  if !negative && after.length == afterWhole.length then
    return (.number (some (digitsValue digits)), after)
  else return (.number none, after)

/-- A number token and what follows it. -/
def takeNumber : Octets → Option (Token × Octets)
  | 45 :: rest => takeUnsigned true rest
  | octets => takeUnsigned false octets

/-- The words that documents know. -/
def words : List (Octets × Token) :=
  [(Octets.ofText "null", .null), (Octets.ofText "true", .boolean true),
    (Octets.ofText "false", .boolean false)]

/-- A word token and what follows it. -/
def takeWord (octets : Octets) : Option (Token × Octets) :=
  words.findSome? fun (word, token) => (word.isPrefixOf? octets).map fun after => (token, after)

/-! ### Documents -/

/-- The octet only sets tokens apart. -/
def isBlank (octet : UInt8) : Bool :=
  octet = 32 || octet = 10 || octet = 13 || octet = 9

/-- The token that one octet is on its own. -/
def single? (octet : UInt8) : Option Token :=
  if octet = 91 then some .openArray
  else if octet = 93 then some .closeArray
  else if octet = 123 then some .openObject
  else if octet = 125 then some .closeObject
  else if octet = 44 then some .comma
  else if octet = 58 then some .colon
  else none

/-- The first token and what follows it, when the first octet is no blank. -/
def takeToken (octets : Octets) : Option (Token × Octets) :=
  match octets with
  | [] => none
  | octet :: rest =>
    match single? octet with
    | some token => some (token, rest)
    | none =>
      if octet = 34 then (takeString rest).map fun (pieces, after) => (stringToken pieces, after)
      else if octet = 45 ∨ isDigit octet then takeNumber octets
      else takeWord octets

/-! ### Progress -/

theorem length_of_takeString {octets after : Octets} {pieces : List Piece}
    (taken : takeString octets = some (pieces, after)) : after.length < octets.length := by
  fun_induction takeString octets generalizing pieces with
  | case1 => cases taken
  | case2 rest =>
    cases taken
    exact Nat.lt_succ_self _
  | case3 => cases taken
  | case4 rest value unitAfter _ shorter inductionHypothesis =>
    obtain ⟨⟨inner, innerAfter⟩, found, same⟩ := Option.map_eq_some_iff.mp taken
    cases same
    have bound := inductionHypothesis found
    simp only [List.length_cons]
    omega
  | case5 => cases taken
  | case6 letter rest _ value _ inductionHypothesis =>
    obtain ⟨⟨inner, innerAfter⟩, found, same⟩ := Option.map_eq_some_iff.mp taken
    cases same
    have bound := inductionHypothesis found
    simp only [List.length_cons]
    omega
  | case7 => cases taken
  | case8 octet rest _ _ _ _ inductionHypothesis =>
    obtain ⟨⟨inner, innerAfter⟩, found, same⟩ := Option.map_eq_some_iff.mp taken
    cases same
    have bound := inductionHypothesis found
    simp only [List.length_cons]
    omega

theorem length_dropWhile_le (test : UInt8 → Bool) (octets : Octets) :
    (octets.dropWhile test).length ≤ octets.length :=
  (List.dropWhile_suffix test).length_le

theorem length_of_afterDigits? {octets after : Octets} (taken : afterDigits? octets = some after) :
    after.length < octets.length := by
  unfold afterDigits? at taken
  split at taken
  · rename_i octet rest
    split at taken
    · cases taken
      exact Nat.lt_succ_of_le (length_dropWhile_le isDigit rest)
    · cases taken
  · cases taken

theorem length_of_afterFraction? {octets after : Octets}
    (taken : afterFraction? octets = some after) : after.length ≤ octets.length := by
  unfold afterFraction? at taken
  split at taken
  · rename_i rest
    exact Nat.le_of_lt (Nat.lt_succ_of_lt (length_of_afterDigits? taken))
  · cases taken
    exact Nat.le_refl _

theorem length_of_afterExponent? {octets after : Octets}
    (taken : afterExponent? octets = some after) : after.length ≤ octets.length := by
  unfold afterExponent? at taken
  split at taken
  · rename_i letter rest
    split at taken
    · split at taken
      · rename_i sign digits
        split at taken
        · have bound := length_of_afterDigits? taken
          simp only [List.length_cons]
          omega
        · have bound := length_of_afterDigits? taken
          simp only [List.length_cons] at bound ⊢
          omega
      · cases taken
    · cases taken
      exact Nat.le_refl _
  · cases taken
    exact Nat.le_refl _

theorem length_of_wholePart? {octets digits after : Octets}
    (taken : wholePart? octets = some (digits, after)) : after.length < octets.length := by
  unfold wholePart? at taken
  split at taken
  · cases taken
  · rename_i some_digits
    cases taken
    have whole :=
      congrArg List.length (List.takeWhile_append_dropWhile (p := isDigit) (l := octets))
    have positive : 0 < (octets.takeWhile isDigit).length :=
      List.length_pos_iff.mpr fun none => some_digits (Or.inl none)
    rw [List.length_append] at whole
    omega

theorem length_of_takeUnsigned {negative : Bool} {octets after : Octets} {token : Token}
    (taken : takeUnsigned negative octets = some (token, after)) :
    after.length < octets.length := by
  obtain ⟨⟨digits, afterWhole⟩, whole, taken⟩ := Option.bind_eq_some_iff.mp taken
  obtain ⟨afterFraction, fraction, taken⟩ := Option.bind_eq_some_iff.mp taken
  obtain ⟨afterExponent, exponent, taken⟩ := Option.bind_eq_some_iff.mp taken
  have first := length_of_wholePart? whole
  have second := length_of_afterFraction? fraction
  have third := length_of_afterExponent? exponent
  split at taken <;> (cases taken; omega)

theorem length_of_takeNumber {octets after : Octets} {token : Token}
    (taken : takeNumber octets = some (token, after)) : after.length < octets.length := by
  unfold takeNumber at taken
  split at taken
  · exact Nat.lt_succ_of_lt (length_of_takeUnsigned taken)
  · exact length_of_takeUnsigned taken

theorem length_of_takeWord {octets after : Octets} {token : Token}
    (taken : takeWord octets = some (token, after)) : after.length < octets.length := by
  obtain ⟨⟨word, wordToken⟩, member, found⟩ := List.exists_of_findSome?_eq_some taken
  obtain ⟨wordAfter, cut, same⟩ := Option.map_eq_some_iff.mp found
  cases same
  rw [Text.append_eq_of_isPrefixOf? cut, List.length_append]
  have positive : 0 < word.length := by
    simp only [words, List.mem_cons, List.not_mem_nil, or_false, Prod.mk.injEq] at member
    rcases member with ⟨same, _⟩ | ⟨same, _⟩ | ⟨same, _⟩ <;> (subst same; decide)
  omega

theorem length_of_takeToken {octets after : Octets} {token : Token}
    (taken : takeToken octets = some (token, after)) : after.length < octets.length := by
  unfold takeToken at taken
  split at taken
  · cases taken
  · split at taken
    · cases taken
      exact Nat.lt_succ_self _
    · split at taken
      · obtain ⟨⟨pieces, stringAfter⟩, found, same⟩ := Option.map_eq_some_iff.mp taken
        cases same
        exact Nat.lt_succ_of_lt (length_of_takeString found)
      · split at taken
        · exact length_of_takeNumber taken
        · exact length_of_takeWord taken

/-- The tokens of a document, blanks left out. -/
def tokens? (octets : Octets) : Option (List Token) :=
  match octets with
  | [] => some []
  | octet :: rest =>
    if isBlank octet then tokens? rest
    else
      match taken : takeToken (octet :: rest) with
      | none => none
      | some (token, after) =>
        have : after.length < rest.length + 1 := length_of_takeToken taken
        (tokens? after).map (token :: ·)
termination_by octets.length

end SuperblockGovernance.Json

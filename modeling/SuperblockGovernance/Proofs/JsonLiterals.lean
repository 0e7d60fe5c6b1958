/-
Literals of JSON text. A string literal is read back as its text, escapes and all: wherever the
octets of a character stand in a literal, they denote the character. A numeral is read back as
its number when a mark (a bracket, brace, comma or colon) comes next.
-/

import SuperblockGovernance.Json.Token
import SuperblockGovernance.Json.Writer
import SuperblockGovernance.Proofs.HexadecimalTexts

namespace SuperblockGovernance

/-! ### Characters as octets -/

/-- The UTF-8 form of characters. -/
def Octets.ofCharacters (characters : List Char) : Octets :=
  characters.flatMap String.utf8EncodeChar

namespace Octets

theorem ofCharacters_cons (first : Char) (rest : List Char) :
    ofCharacters (first :: rest) = String.utf8EncodeChar first ++ ofCharacters rest :=
  List.flatMap_cons

theorem ofCharacters_append (first second : List Char) :
    ofCharacters (first ++ second) = ofCharacters first ++ ofCharacters second :=
  List.flatMap_append

theorem ofCharacters_toList (text : String) : ofCharacters text.toList = ofText text := by
  rw [ofCharacters, ← ofText_ofList, String.ofList_toList]

end Octets

namespace Json

/-! ### Strings -/

/-- Wherever the first octets come in a string literal, they denote the second ones. -/
def Denotes (written denoted : Octets) : Prop :=
  ∃ pieces : List Piece,
    (∀ rest, takeString (written ++ rest) =
      (takeString rest).map fun (others, after) => (pieces ++ others, after)) ∧
    ∀ others, denoted? (pieces ++ others) = (denoted? others).map (denoted ++ ·)

theorem Denotes.nil : Denotes [] [] :=
  ⟨[], fun rest => by simp, fun others => by simp⟩

theorem Denotes.append {first second one other : Octets} (before : Denotes first one)
    (after : Denotes second other) : Denotes (first ++ second) (one ++ other) := by
  obtain ⟨pieces, taken, denoted⟩ := before
  obtain ⟨others, takenAfter, denotedAfter⟩ := after
  refine ⟨pieces ++ others, fun rest => ?_, fun more => ?_⟩
  · rw [List.append_assoc, taken, takenAfter, Option.map_map]
    simp [Function.comp_def]
  · rw [List.append_assoc, denoted, denotedAfter, Option.map_map]
    simp [Function.comp_def]

/-- An octet that may stand in a literal as it is. -/
def IsPlain (octet : UInt8) : Prop :=
  32 ≤ octet ∧ octet ≠ 34 ∧ octet ≠ 92

theorem takeString_octet {octet : UInt8} (plain : IsPlain octet) (rest : Octets) :
    takeString (octet :: rest) =
      (takeString rest).map fun (pieces, after) => (.octet octet :: pieces, after) := by
  obtain ⟨least, quote, slash⟩ := plain
  rw [takeString.eq_def]
  split
  · rename_i same
    cases same
  · rename_i same
    exact absurd (List.cons.inj same).1 quote
  · rename_i same
    exact absurd (List.cons.inj same).1 slash
  · rename_i same
    exact absurd (List.cons.inj same).1 slash
  · rename_i same
    cases same
    rw [if_neg (not_or.mpr ⟨UInt8.not_lt.mpr least, slash⟩)]

theorem denotes_octet {octet : UInt8} (plain : IsPlain octet) : Denotes [octet] [octet] :=
  ⟨[.octet octet], fun rest => takeString_octet plain rest, fun _ => rfl⟩

theorem denotes_octets {octets : Octets} (plain : ∀ octet ∈ octets, IsPlain octet) :
    Denotes octets octets := by
  induction octets with
  | nil => exact .nil
  | cons octet rest inductionHypothesis =>
    exact (denotes_octet (plain octet List.mem_cons_self)).append
      (inductionHypothesis fun other member => plain other (List.mem_cons_of_mem _ member))

/-- A letter after a backslash. -/
theorem denotes_escape (letter value : UInt8) (known : escaped? letter = some value)
    (single : letter ≠ 117) : Denotes [92, letter] [value] := by
  refine ⟨[.octet value], fun rest => ?_, fun _ => rfl⟩
  show takeString (92 :: letter :: rest) = _
  rw [takeString, known]
  · rfl
  · exact single

theorem takeString_unit {octets rest : Octets} {code : Nat}
    (unit : codeUnit? octets = some (code, rest)) :
    takeString (92 :: 117 :: octets) =
      (takeString rest).map fun (pieces, after) => (.unit code :: pieces, after) := by
  rw [takeString]
  split
  · rename_i none
    rw [unit] at none
    cases none
  · rename_i found
    rw [unit] at found
    cases found
    rfl

/-- A code unit below the surrogates denotes its character, whatever follows. -/
theorem denoted?_unit {code : Nat} (single : code < 0xd800) (others : List Piece) :
    denoted? (.unit code :: others) =
      (denoted? others).map (String.utf8EncodeChar (Char.ofNat code) ++ ·) := by
  have high : ¬(0xd800 ≤ code ∧ code < 0xdc00) := by omega
  have low : ¬(0xdc00 ≤ code ∧ code < 0xe000) := by omega
  have surrogate : ¬(0xd800 ≤ code ∧ code < 0xe000) := by omega
  cases others with
  | nil => exact if_neg surrogate
  | cons piece rest =>
    cases piece with
    | octet value => exact if_neg surrogate
    | unit value => exact (if_neg high).trans (if_neg low)

/-- A control character by its code. -/
theorem denotes_control {code : Nat} (small : code < 32) :
    Denotes [92, 117, 48, 48, Hexadecimal.digitOctet (code / 16),
      Hexadecimal.digitOctet (code % 16)] (String.utf8EncodeChar (Char.ofNat code)) := by
  refine ⟨[.unit code], fun rest => takeString_unit ?_, denoted?_unit (by omega)⟩
  have number : ((0 * 16 + 0) * 16 + code / 16) * 16 + code % 16 = code := by omega
  show codeUnit? (48 :: 48 :: _ :: _ :: rest) = _
  rw [codeUnit?, (Hexadecimal.digit_spec (code / 16) (by omega)).2.1,
    (Hexadecimal.digit_spec (code % 16) (by omega)).2.1]
  exact congrArg (fun number => some (number, rest)) number

/-! ### Characters and texts -/

theorem isPlain_ofNat {code : Nat} (least : 32 ≤ code) (most : code < 256) (quote : code ≠ 34)
    (slash : code ≠ 92) : IsPlain (UInt8.ofNat code) := by
  have number : (UInt8.ofNat code).toNat = code := UInt8.toNat_ofNat_of_lt' most
  rw [IsPlain, UInt8.le_iff_toNat_le, Ne, Ne, ← UInt8.toNat_inj, ← UInt8.toNat_inj, number]
  exact ⟨least, quote, slash⟩

/-- The octets of a character that needs no escape are plain: the character itself, or octets
above those of ASCII. -/
theorem isPlain_of_mem {character : Char} {octet : UInt8} (least : 32 ≤ character.toNat)
    (quote : character ≠ '"') (slash : character ≠ '\\')
    (member : octet ∈ String.utf8EncodeChar character) : IsPlain octet := by
  have quoteCode : character.val.toNat ≠ 34 := fun same => quote (Char.toNat_inj.mp same)
  have slashCode : character.val.toNat ≠ 92 := fun same => slash (Char.toNat_inj.mp same)
  have leastCode : 32 ≤ character.val.toNat := least
  rw [String.utf8EncodeChar] at member
  generalize character.val.toNat = code at *
  have high : ∀ value, 128 ≤ value → value < 256 → IsPlain (UInt8.ofNat value) :=
    fun value least most => isPlain_ofNat (by omega) most (by omega) (by omega)
  split at member
  · rw [List.mem_singleton.mp member]
    exact isPlain_ofNat leastCode (by omega) quoteCode slashCode
  split at member
  · simp only [List.mem_cons, List.not_mem_nil, or_false] at member
    rcases member with rfl | rfl <;> exact high _ (by omega) (by omega)
  split at member
  · simp only [List.mem_cons, List.not_mem_nil, or_false] at member
    rcases member with rfl | rfl | rfl <;> exact high _ (by omega) (by omega)
  · simp only [List.mem_cons, List.not_mem_nil, or_false] at member
    rcases member with rfl | rfl | rfl | rfl <;> exact high _ (by omega) (by omega)

/-- A character as a literal writes it denotes the character. -/
theorem denotes_literalCharacter (character : Char) :
    Denotes (Octets.ofCharacters (literalCharacter character))
      (String.utf8EncodeChar character) := by
  have coded : ∀ code, character.toNat = code → character = Char.ofNat code :=
    fun code same => same ▸ (Char.ofNat_toNat character).symm
  -- The branches of the writer: marks, the controls that have letters, others, and plain ones.
  rw [literalCharacter]
  split
  · rename_i special
    rcases special with rfl | rfl
    · exact denotes_escape 34 34 rfl (by decide)
    · exact denotes_escape 92 92 rfl (by decide)
  split
  · rename_i code
    rw [coded 8 code]
    exact denotes_escape 98 8 rfl (by decide)
  split
  · rename_i code
    rw [coded 12 code]
    exact denotes_escape 102 12 rfl (by decide)
  split
  · rename_i same
    rw [same]
    exact denotes_escape 110 10 rfl (by decide)
  split
  · rename_i same
    rw [same]
    exact denotes_escape 114 13 rfl (by decide)
  split
  · rename_i same
    rw [same]
    exact denotes_escape 116 9 rfl (by decide)
  split
  · rename_i small
    have control := denotes_control small
    rw [Char.ofNat_toNat] at control
    show Denotes (92 :: 117 :: 48 :: 48 ::
      (String.utf8EncodeChar (Hexadecimal.digit (character.toNat / 16)) ++
        (String.utf8EncodeChar (Hexadecimal.digit (character.toNat % 16)) ++ []))) _
    rw [(Hexadecimal.digit_spec (character.toNat / 16) (by omega)).1,
      (Hexadecimal.digit_spec (character.toNat % 16) (by omega)).1]
    exact control
  · rename_i special _ _ _ _ _ large
    rw [Octets.ofCharacters, List.flatMap_singleton]
    exact denotes_octets fun octet member => isPlain_of_mem (Nat.le_of_not_lt large)
      (fun same => special (Or.inl same)) (fun same => special (Or.inr same)) member

theorem denotes_text (text : String) :
    Denotes (Octets.ofCharacters (text.toList.flatMap literalCharacter)) (Octets.ofText text) := by
  rw [← Octets.ofCharacters_toList]
  induction text.toList with
  | nil => exact .nil
  | cons first rest inductionHypothesis =>
    rw [List.flatMap_cons, Octets.ofCharacters_append, Octets.ofCharacters_cons]
    exact (denotes_literalCharacter first).append inductionHypothesis

/-- A literal is read as one token with its text. -/
theorem takeToken_literal (text : String) (rest : Octets) :
    takeToken (Octets.ofCharacters (literalCharacters text) ++ rest) =
      some (.string (some text), rest) := by
  obtain ⟨pieces, taken, denoted⟩ := denotes_text text
  have written : Octets.ofCharacters (literalCharacters text) ++ rest =
      34 :: (Octets.ofCharacters (text.toList.flatMap literalCharacter) ++ 34 :: rest) := by
    rw [literalCharacters, List.cons_append, Octets.ofCharacters_cons, Octets.ofCharacters_append,
      List.append_assoc, List.append_assoc]
    rfl
  have whole := denoted []
  rw [List.append_nil] at whole
  have token : stringToken pieces = .string (some text) := by
    rw [stringToken, whole, denoted?, Option.map_some, List.append_nil, Option.bind_some,
      Octets.toText?_ofText]
  rw [written]
  show (takeString _).map _ = _
  rw [taken, takeString, Option.map_some, Option.map_some]
  show some (stringToken (pieces ++ []), rest) = _
  rw [List.append_nil, token]

/-! ### Numbers -/

/-- The octets of a numeral. -/
def numeral (number : Nat) : Octets :=
  Octets.ofCharacters (Decimal.digits number)

theorem ofCharacters_digit {value : Nat} (small : value < 10) :
    Octets.ofCharacters [Nat.digitChar value] = [Hexadecimal.digitOctet value] := by
  rw [Octets.ofCharacters, List.flatMap_singleton]
  exact (Hexadecimal.digit_spec value (by omega)).1

theorem numeral_of_lt {number : Nat} (small : number < 10) :
    numeral number = [Hexadecimal.digitOctet number] := by
  rw [numeral, Decimal.digits, Nat.toDigits_of_lt_base small, ofCharacters_digit small]

theorem numeral_of_le {number : Nat} (large : 10 ≤ number) :
    numeral number = numeral (number / 10) ++ [Hexadecimal.digitOctet (number % 10)] := by
  rw [numeral, Decimal.digits, Nat.toDigits_eq_if (by decide), if_neg (by omega),
    Octets.ofCharacters_append, ofCharacters_digit (by omega)]
  rfl

theorem digitOctet_spec : ∀ value < 10, isDigit (Hexadecimal.digitOctet value) = true ∧
    (Hexadecimal.digitOctet value).toNat = 48 + value := by
  decide

/-- What numerals have in common when it holds of one digit and is kept by one more. -/
theorem numeral_induction (holds : Nat → Octets → Prop)
    (one : ∀ number < 10, holds number [Hexadecimal.digitOctet number])
    (more : ∀ number, 10 ≤ number → holds (number / 10) (numeral (number / 10)) →
      holds number (numeral (number / 10) ++ [Hexadecimal.digitOctet (number % 10)]))
    (number : Nat) : holds number (numeral number) := by
  induction number using Nat.strongRecOn with
  | ind number inductionHypothesis =>
    by_cases small : number < 10
    · rw [numeral_of_lt small]
      exact one number small
    · rw [numeral_of_le (by omega)]
      exact more number (by omega) (inductionHypothesis _ (by omega))

theorem isDigit_of_mem_numeral (number : Nat) :
    ∀ octet ∈ numeral number, isDigit octet = true := by
  refine numeral_induction (fun _ octets => ∀ octet ∈ octets, isDigit octet = true) ?_ ?_ number
  · intro number small octet member
    rw [List.mem_singleton.mp member]
    exact (digitOctet_spec number small).1
  · intro number _ before octet member
    rcases List.mem_append.mp member with inside | last
    · exact before octet inside
    · rw [List.mem_singleton.mp last]
      exact (digitOctet_spec (number % 10) (by omega)).1

theorem digitsValue_numeral (number : Nat) : digitsValue (numeral number) = number := by
  refine numeral_induction (fun number octets => digitsValue octets = number) ?_ ?_ number
  · intro number small
    show 10 * 0 + ((Hexadecimal.digitOctet number).toNat - 48) = number
    rw [(digitOctet_spec number small).2]
    omega
  · intro number _ before
    rw [digitsValue, List.foldl_append]
    show 10 * digitsValue _ + (_ - 48) = number
    rw [before, (digitOctet_spec (number % 10) (by omega)).2]
    omega

/-- A numeral of several digits starts with another digit than zero. -/
theorem head?_numeral (number : Nat) :
    ∃ first rest, numeral number = first :: rest ∧ (first = 48 → number = 0) := by
  refine numeral_induction
    (fun number octets => ∃ first rest, octets = first :: rest ∧ (first = 48 → number = 0))
    ?_ ?_ number
  · intro number small
    refine ⟨_, [], rfl, fun zero => ?_⟩
    have code := (digitOctet_spec number small).2
    rw [zero] at code
    exact Nat.add_left_cancel (n := 48) code.symm
  · rintro number large ⟨first, rest, written, zero⟩
    rw [written]
    exact ⟨first, _, rfl, fun same => by have := zero same; omega⟩

/-- A digit is no mark, quote, minus sign or blank. -/
theorem starts_of_isDigit {octet : UInt8} (digit : isDigit octet = true) :
    single? octet = none ∧ octet ≠ 34 ∧ octet ≠ 45 ∧ isBlank octet = false := by
  have differs : ∀ other, isDigit other = false → octet ≠ other := by
    rintro other none rfl
    rw [digit] at none
    cases none
  refine ⟨?_, differs 34 rfl, differs 45 rfl, ?_⟩
  · rw [single?, if_neg (differs 91 rfl), if_neg (differs 93 rfl), if_neg (differs 123 rfl),
      if_neg (differs 125 rfl), if_neg (differs 44 rfl), if_neg (differs 58 rfl)]
  · simp [isBlank, differs 32 rfl, differs 10 rfl, differs 13 rfl, differs 9 rfl]

theorem mem_marks {mark : UInt8} {token : Token} (known : single? mark = some token) :
    mark ∈ ([91, 93, 123, 125, 44, 58] : Octets) := by
  refine Decidable.byContradiction fun outside => ?_
  simp only [List.mem_cons, List.not_mem_nil, or_false, not_or] at outside
  obtain ⟨first, second, third, fourth, fifth, last⟩ := outside
  rw [single?, if_neg first, if_neg second, if_neg third, if_neg fourth, if_neg fifth,
    if_neg last] at known
  cases known

/-- A mark is no blank, and it ends a number, being no digit, point or exponent. -/
theorem ends_of_single? {mark : UInt8} {token : Token} (known : single? mark = some token) :
    isBlank mark = false ∧ isDigit mark = false ∧ mark ≠ 46 ∧ mark ≠ 101 ∧ mark ≠ 69 := by
  have all : (([91, 93, 123, 125, 44, 58] : Octets).all fun mark =>
      isBlank mark = false ∧ isDigit mark = false ∧ mark ≠ 46 ∧ mark ≠ 101 ∧ mark ≠ 69) = true := by
    decide
  exact of_decide_eq_true (List.all_eq_true.mp all mark (mem_marks known))

theorem wholePart?_numeral (number : Nat) (after : Octets)
    (ends : after.head?.all fun octet => !isDigit octet) :
    wholePart? (numeral number ++ after) = some (numeral number, after) := by
  have digits := isDigit_of_mem_numeral number
  have rest : after.takeWhile isDigit = [] ∧ after.dropWhile isDigit = after := by
    cases after with
    | nil => exact ⟨rfl, rfl⟩
    | cons octet others =>
      have stops : isDigit octet ≠ true := by simpa using ends
      exact ⟨List.takeWhile_cons_of_neg stops, List.dropWhile_cons_of_neg stops⟩
  have taken : (numeral number ++ after).takeWhile isDigit = numeral number := by
    rw [List.takeWhile_append_of_pos digits, rest.1, List.append_nil]
  have dropped : (numeral number ++ after).dropWhile isDigit = after := by
    rw [List.dropWhile_append_of_pos digits, rest.2]
  obtain ⟨first, others, written, zero⟩ := head?_numeral number
  rw [wholePart?, taken, dropped, if_neg]
  rintro (none | ⟨leading, several⟩)
  · rw [written] at none
    cases none
  · rw [written, List.head?_cons, Option.some.injEq] at leading
    rw [zero leading] at several
    exact several rfl

theorem afterFraction?_of_ne {octet : UInt8} (point : octet ≠ 46) (rest : Octets) :
    afterFraction? (octet :: rest) = some (octet :: rest) := by
  rw [afterFraction?]
  rintro others ⟨⟩
  exact point rfl

theorem afterExponent?_of_ne {octet : UInt8} (small : octet ≠ 101) (large : octet ≠ 69)
    (rest : Octets) : afterExponent? (octet :: rest) = some (octet :: rest) :=
  if_neg (not_or.mpr ⟨small, large⟩)

theorem takeNumber_of_ne {octet : UInt8} (minus : octet ≠ 45) (rest : Octets) :
    takeNumber (octet :: rest) = takeUnsigned false (octet :: rest) := by
  rw [takeNumber]
  rintro others ⟨⟩
  exact minus rfl

/-- A numeral before a mark is read as one token with its number. -/
theorem takeToken_numeral (number : Nat) {mark : UInt8} {token : Token}
    (known : single? mark = some token) (rest : Octets) :
    takeToken (numeral number ++ mark :: rest) = some (.number (some number), mark :: rest) := by
  obtain ⟨_, digit, point, small, large⟩ := ends_of_single? known
  have whole := wholePart?_numeral number (mark :: rest) (by simp [digit])
  have read : takeUnsigned false (numeral number ++ mark :: rest) =
      some (.number (some number), mark :: rest) := by
    simp only [takeUnsigned, whole, afterFraction?_of_ne point, afterExponent?_of_ne small large,
      Option.bind_eq_bind, Option.bind_some, digitsValue_numeral]
    simp
  obtain ⟨first, others, written, _⟩ := head?_numeral number
  have starts := isDigit_of_mem_numeral number first (written ▸ List.mem_cons_self)
  obtain ⟨noMark, noQuote, noMinus, _⟩ := starts_of_isDigit starts
  rw [written, List.cons_append] at read ⊢
  simp only [takeToken, noMark]
  rw [if_neg noQuote, if_pos (Or.inr starts), takeNumber_of_ne noMinus, read]

end Json

end SuperblockGovernance

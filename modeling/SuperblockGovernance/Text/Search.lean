/-
Finding a pattern in a text, cutting a text at separators, and trimming blanks.
Texts are lists of characters here; the callers hold strings. A tagged section is a body
between an opening and a closing tag: reading takes the first opening tag and the first
closing tag after it, wherever they stand.
-/

namespace SuperblockGovernance.Text

/-! ### Patterns -/

/-- The text before and after the first occurrence of a pattern. -/
def cutAt? (pattern : List Char) : List Char → Option (List Char × List Char)
  | [] => if pattern = [] then some ([], []) else none
  | character :: rest =>
    match pattern.isPrefixOf? (character :: rest) with
    | some after => some ([], after)
    | none => (cutAt? pattern rest).map fun (before, after) => (character :: before, after)

theorem append_eq_of_isPrefixOf? {α : Type} [BEq α] [LawfulBEq α] {pattern text after : List α}
    (found : pattern.isPrefixOf? text = some after) : text = pattern ++ after := by
  induction pattern generalizing text with
  | nil => exact Option.some.inj (show some text = some after from found)
  | cons first pattern inductionHypothesis =>
    cases text with
    | nil => cases show none = some after from found
    | cons character text =>
      change (if first == character then pattern.isPrefixOf? text else none) = some after at found
      split at found
      · rename_i same
        rw [inductionHypothesis found, eq_of_beq same, List.cons_append]
      · cases found

/-- A cut takes the text apart around one occurrence of the pattern. -/
theorem append_of_cutAt? {pattern text before after : List Char}
    (cut : cutAt? pattern text = some (before, after)) : text = before ++ pattern ++ after := by
  induction text generalizing before with
  | nil =>
    rw [cutAt?] at cut
    split at cut
    · rename_i empty
      cases cut
      simp [empty]
    · cases cut
  | cons character rest inductionHypothesis =>
    rw [cutAt?] at cut
    split at cut
    · rename_i remainder found
      cases cut
      exact append_eq_of_isPrefixOf? found
    · obtain ⟨⟨before', after'⟩, inner, same⟩ := Option.map_eq_some_iff.mp cut
      cases same
      rw [inductionHypothesis inner]
      rfl

theorem length_of_cutAt? {pattern text before after : List Char}
    (cut : cutAt? pattern text = some (before, after)) :
    text.length = before.length + pattern.length + after.length := by
  rw [append_of_cutAt? cut, List.length_append, List.length_append]

/-! ### Separators -/

/-- The text before and after the first separator. -/
def cutOnce? (separator : Char) (text : List Char) : Option (List Char × List Char) :=
  cutAt? [separator] text

/-- The pieces between separators; one more than there are separators. -/
def pieces (separator : Char) : List Char → List (List Char)
  | [] => [[]]
  | character :: rest =>
    if character = separator then [] :: pieces separator rest
    else
      match pieces separator rest with
      | [] => [[character]]
      | piece :: others => (character :: piece) :: others

/-- The entries of a list written with separators; an empty text is an empty list. -/
def listed (separator : Char) (text : String) : List String :=
  if text.isEmpty then [] else (pieces separator text.toList).map String.ofList

/-- A list written with separators. -/
def joined (separator : String) (entries : List String) : String :=
  separator.intercalate entries

/-! ### Blanks -/

/-- The characters with the Unicode property `White_Space`. -/
def isBlank (character : Char) : Bool :=
  let code := character.toNat
  (9 ≤ code && code ≤ 13) || code == 0x20 || code == 0x85 || code == 0xa0 || code == 0x1680 ||
    (0x2000 ≤ code && code ≤ 0x200a) || code == 0x2028 || code == 0x2029 || code == 0x202f ||
    code == 0x205f || code == 0x3000

/-- A text without the blanks at its two ends. -/
def trimmed (text : String) : String :=
  String.ofList ((text.toList.dropWhile isBlank).reverse.dropWhile isBlank).reverse

end SuperblockGovernance.Text

/-! ### Tagged sections -/

namespace SuperblockGovernance.Section

/-- The mark at which a section begins. -/
def openingTag (tag : String) : List Char :=
  '<' :: tag.toList ++ ['>']

/-- The mark at which a section ends. -/
def closingTag (tag : String) : List Char :=
  '<' :: '/' :: tag.toList ++ ['>']

/-- A body between its tags. -/
def wrap (tag body : String) : String :=
  String.ofList (openingTag tag ++ body.toList ++ closingTag tag)

/-- The body of the first section with a tag, and the text after the section. -/
def find? (tag : String) (text : List Char) : Option (List Char × List Char) := do
  let (_, inside) ← Text.cutAt? (openingTag tag) text
  Text.cutAt? (closingTag tag) inside

/-- The body of the first section with a tag. -/
def body? (tag text : String) : Option String :=
  (find? tag text.toList).map fun (body, _) => String.ofList body

end SuperblockGovernance.Section

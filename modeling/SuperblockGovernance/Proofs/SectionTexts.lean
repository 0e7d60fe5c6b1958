/-
Texts that are made of sections. A tag has one opening bracket, its first character, so it
cannot begin in one text and end in the next if the next starts with a bracket as well. A
section is therefore found where it was written, as long as its opening tag does not stand
in the sections before it and its closing tag does not stand in its own body.
-/

import Mathlib.Data.List.Basic
import SuperblockGovernance.Text.Search

namespace SuperblockGovernance

/-! ### Texts that lack a pattern -/

namespace Text

/-- The pattern does not stand in the text. -/
def Lacks (pattern text : List Char) : Prop :=
  cutAt? pattern text = none

variable {first : Char} {pattern before after text : List Char}

theorem cutAt?_cons_of_none {character : Char}
    (differs : pattern.isPrefixOf? (character :: text) = none) :
    cutAt? pattern (character :: text) =
      (cutAt? pattern text).map fun (skipped, rest) => (character :: skipped, rest) := by
  rw [cutAt?, differs]

/-- A text that starts with the pattern is cut there. -/
theorem cutAt?_append_self (pattern text : List Char) (filled : pattern ≠ []) :
    cutAt? pattern (pattern ++ text) = some ([], text) := by
  cases pattern with
  | nil => exact absurd rfl filled
  | cons first rest =>
    have found : (first :: rest).isPrefixOf? (first :: (rest ++ text)) = some text :=
      List.isPrefixOf?_eq_some_iff_append_eq.mpr rfl
    rw [List.cons_append, cutAt?, found]

/-- A text without the first character of the pattern is skipped. -/
theorem cutAt?_append_of_notMem (absent : first ∉ before) (after : List Char) :
    cutAt? (first :: pattern) (before ++ after) =
      (cutAt? (first :: pattern) after).map fun (skipped, rest) => (before ++ skipped, rest) := by
  induction before with
  | nil => simp
  | cons character others inductionHypothesis =>
    obtain ⟨differs, later⟩ := List.ne_and_not_mem_of_not_mem_cons absent
    have elsewhere : (first :: pattern).isPrefixOf? (character :: (others ++ after)) = none :=
      if_neg (by simpa using differs)
    rw [List.cons_append, cutAt?_cons_of_none elsewhere, inductionHypothesis later,
      Option.map_map]
    rfl

theorem lacks_of_notMem (absent : first ∉ text) : Lacks (first :: pattern) text := by
  have skipped : cutAt? (first :: pattern) (text ++ []) = none :=
    cutAt?_append_of_notMem absent []
  rwa [List.append_nil] at skipped

theorem lacks_cons_iff {character : Char} :
    Lacks pattern (character :: text) ↔
      pattern.isPrefixOf? (character :: text) = none ∧ Lacks pattern text := by
  rw [Lacks, cutAt?]
  cases pattern.isPrefixOf? (character :: text) with
  | some rest => simp
  | none => simp [Lacks]

/-- A pattern that repeats its first character nowhere does not begin in one text and end in the
next, if the next starts with this character or is empty. -/
theorem isPrefixOf?_append_of_none {character : Char} {others : List Char}
    (single : first ∉ pattern)
    (differs : (first :: pattern).isPrefixOf? (character :: others) = none)
    (starts : ∀ character ∈ after.head?, character = first) :
    (first :: pattern).isPrefixOf? (character :: (others ++ after)) = none := by
  have nowhere : ∀ rest, (first :: pattern) ++ rest ≠ character :: others := fun rest same =>
    Option.eq_none_iff_forall_ne_some.mp differs rest
      (List.isPrefixOf?_eq_some_iff_append_eq.mpr same)
  refine Option.eq_none_iff_forall_ne_some.mpr fun rest found => ?_
  have whole : (first :: pattern) ++ rest = (character :: others) ++ after :=
    List.isPrefixOf?_eq_some_iff_append_eq.mp found
  rcases List.append_eq_append_iff.mp whole with ⟨left, inside, _⟩ | ⟨excess, straddles, ends⟩
  · exact nowhere left inside.symm
  cases excess with
  | nil => exact nowhere [] (by rw [straddles, List.append_nil, List.append_nil])
  | cons head tail =>
    -- this part of the pattern would start with its first character
    have same : head = first := starts head (by rw [ends]; rfl)
    have member : head ∈ pattern := by
      rw [(List.cons.inj straddles).2]
      exact List.mem_append_right _ List.mem_cons_self
    exact single (same ▸ member)

theorem cutAt?_append_of_lacks (single : first ∉ pattern) (lacks : Lacks (first :: pattern) before)
    (starts : ∀ character ∈ after.head?, character = first) :
    cutAt? (first :: pattern) (before ++ after) =
      (cutAt? (first :: pattern) after).map fun (skipped, rest) => (before ++ skipped, rest) := by
  induction before with
  | nil => simp
  | cons character others inductionHypothesis =>
    obtain ⟨differs, later⟩ := lacks_cons_iff.mp lacks
    have elsewhere := isPrefixOf?_append_of_none single differs starts
    rw [List.cons_append, cutAt?_cons_of_none elsewhere, inductionHypothesis later,
      Option.map_map]
    rfl

end Text

/-! ### Tags -/

namespace Section

/-- A name between brackets. Both tags of a section are such marks; the name of the closing one
begins with a slash. -/
def mark (name : List Char) : List Char :=
  '<' :: (name ++ ['>'])

/-- The name of a tag holds no bracket and no slash. -/
def IsTag (tag : String) : Prop :=
  ∀ character ∈ tag.toList, character ≠ '<' ∧ character ≠ '>' ∧ character ≠ '/'

instance (tag : String) : Decidable (IsTag tag) :=
  List.decidableBAll _ tag.toList

/-- The marks of a section. -/
inductive IsMarkOf (tag : String) : List Char → Prop
  | opening : IsMarkOf tag tag.toList
  | closing : IsMarkOf tag ('/' :: tag.toList)

variable {tag other body : String} {name text after : List Char}

theorem openingTag_eq (tag : String) : openingTag tag = mark tag.toList := rfl

theorem closingTag_eq (tag : String) : closingTag tag = mark ('/' :: tag.toList) := rfl

theorem toList_wrap (tag body : String) :
    (wrap tag body).toList = openingTag tag ++ (body.toList ++ closingTag tag) := by
  rw [wrap, String.toList_ofList, List.append_assoc]

theorem IsMarkOf.bracket_notMem (isTag : IsTag tag) (marks : IsMarkOf tag name) :
    '<' ∉ name ∧ '>' ∉ name := by
  have plain : '<' ∉ tag.toList ∧ '>' ∉ tag.toList :=
    ⟨fun member => (isTag _ member).1 rfl, fun member => (isTag _ member).2.1 rfl⟩
  cases marks with
  | opening => exact plain
  | closing => exact ⟨by simp [plain.1], by simp [plain.2]⟩

/-- Marks of different sections are different. -/
theorem IsMarkOf.ne (isTag : IsTag tag) (otherIsTag : IsTag other) (differs : tag ≠ other)
    {otherName : List Char} (marks : IsMarkOf tag name) (otherMarks : IsMarkOf other otherName) :
    name ≠ otherName := by
  have apart : tag.toList ≠ other.toList := fun same => differs (String.toList_inj.mp same)
  cases marks with
  | opening =>
    cases otherMarks with
    | opening => exact apart
    | closing => exact fun same => (isTag '/' (by rw [same]; simp)).2.2 rfl
  | closing =>
    cases otherMarks with
    | opening => exact fun same => (otherIsTag '/' (by rw [← same]; simp)).2.2 rfl
    | closing => exact fun same => apart (List.cons.inj same).2

theorem takeWhile_bracket (rest : List Char) (plain : '>' ∉ name) :
    (name ++ (['>'] ++ rest)).takeWhile (· ≠ '>') = name := by
  have inside : ∀ character ∈ name, decide (character ≠ '>') = true := fun character member =>
    decide_eq_true fun same => plain (same ▸ member)
  rw [List.takeWhile_append_of_pos inside]
  simp

theorem isPrefixOf?_mark {otherName : List Char} (plain : '>' ∉ name) (otherPlain : '>' ∉ otherName)
    (differs : name ≠ otherName) (text : List Char) :
    (mark name).isPrefixOf? (mark otherName ++ text) = none := by
  refine Option.eq_none_iff_forall_ne_some.mpr fun rest found => differs ?_
  have whole : (name ++ ['>']) ++ rest = (otherName ++ ['>']) ++ text :=
    (List.cons.inj (List.isPrefixOf?_eq_some_iff_append_eq.mp found)).2
  rw [List.append_assoc, List.append_assoc] at whole
  rw [← takeWhile_bracket rest plain, ← takeWhile_bracket text otherPlain, whole]

/-- Another mark is skipped. -/
theorem cutAt?_mark_of_ne {otherName : List Char} (plain : '>' ∉ name)
    (otherPlain : '<' ∉ otherName ∧ '>' ∉ otherName) (differs : name ≠ otherName)
    (text : List Char) :
    Text.cutAt? (mark name) (mark otherName ++ text) =
      (Text.cutAt? (mark name) text).map fun (skipped, rest) =>
        (mark otherName ++ skipped, rest) := by
  have absent : '<' ∉ otherName ++ ['>'] := by simp [otherPlain.1]
  have elsewhere := isPrefixOf?_mark plain otherPlain.2 differs text
  rw [mark, mark, List.cons_append] at elsewhere
  rw [mark, mark, List.cons_append, Text.cutAt?_cons_of_none elsewhere,
    Text.cutAt?_append_of_notMem absent, Option.map_map]
  rfl

/-- A text that lacks a mark is skipped, if a mark follows it. -/
theorem cutAt?_append_mark {before otherName : List Char} (plain : '<' ∉ name)
    (lacks : Text.Lacks (mark name) before) :
    Text.cutAt? (mark name) (before ++ (mark otherName ++ text)) =
      (Text.cutAt? (mark name) (mark otherName ++ text)).map fun (skipped, rest) =>
        (before ++ skipped, rest) :=
  Text.cutAt?_append_of_lacks (by simp [plain]) lacks (by simp [mark])

/-- A mark that the text before it lacks is found where it stands. -/
theorem cutAt?_append_mark_self {before : List Char} (plain : '<' ∉ name)
    (lacks : Text.Lacks (mark name) before) (after : List Char) :
    Text.cutAt? (mark name) (before ++ (mark name ++ after)) = some (before, after) := by
  rw [cutAt?_append_mark plain lacks, Text.cutAt?_append_self _ _ (by simp [mark])]
  simp

/-! ### One section -/

/-- A section with another tag is skipped, if the mark does not stand in its body. -/
theorem cutAt?_wrap_of_ne (isTag : IsTag tag) (otherIsTag : IsTag other) (differs : tag ≠ other)
    (marks : IsMarkOf tag name) (lacks : Text.Lacks (mark name) body.toList) (after : List Char) :
    Text.cutAt? (mark name) ((wrap other body).toList ++ after) =
      (Text.cutAt? (mark name) after).map fun (skipped, rest) =>
        ((wrap other body).toList ++ skipped, rest) := by
  have plain := marks.bracket_notMem isTag
  rw [toList_wrap, List.append_assoc, List.append_assoc, openingTag_eq, closingTag_eq,
    cutAt?_mark_of_ne plain.2 (IsMarkOf.opening.bracket_notMem otherIsTag)
      (marks.ne isTag otherIsTag differs .opening), cutAt?_append_mark plain.1 lacks,
    cutAt?_mark_of_ne plain.2 (IsMarkOf.closing.bracket_notMem otherIsTag)
      (marks.ne isTag otherIsTag differs .closing), Option.map_map, Option.map_map]
  refine congrArg (Option.map · _) (funext fun cut => ?_)
  simp

/-- The closing tag of a section is the first one, if it does not stand in the body. -/
theorem cutAt?_closingTag (isTag : IsTag tag) (lacks : Text.Lacks (closingTag tag) body.toList) :
    Text.cutAt? (closingTag tag) (body.toList ++ (closingTag tag ++ after)) =
      some (body.toList, after) :=
  cutAt?_append_mark_self (IsMarkOf.closing.bracket_notMem isTag).1 lacks after

/-- The first closing tag behind the opening one stands at the end of the section. -/
theorem cutAt?_closingTag_wrap (isTag : IsTag tag)
    (lacks : Text.Lacks (closingTag tag) body.toList) (after : List Char) :
    Text.cutAt? (closingTag tag) ((wrap tag body).toList ++ after) =
      some (openingTag tag ++ body.toList, after) := by
  have opens := cutAt?_mark_of_ne (IsMarkOf.closing.bracket_notMem isTag).2
    (IsMarkOf.opening.bracket_notMem isTag) (List.cons_ne_self '/' tag.toList)
    (body.toList ++ (closingTag tag ++ after))
  rw [← closingTag_eq] at opens
  rw [toList_wrap, List.append_assoc, List.append_assoc, openingTag_eq, opens,
    cutAt?_closingTag isTag lacks]
  rfl

/-- The section of a tag is found, if its closing tag does not stand in its body. -/
theorem find?_wrap_self (isTag : IsTag tag) (lacks : Text.Lacks (closingTag tag) body.toList)
    (after : List Char) :
    find? tag ((wrap tag body).toList ++ after) = some (body.toList, after) := by
  have opens := Text.cutAt?_append_self (openingTag tag)
    (body.toList ++ (closingTag tag ++ after)) (by simp [openingTag])
  rw [find?, toList_wrap, List.append_assoc, List.append_assoc, opens]
  exact cutAt?_closingTag isTag lacks

theorem find?_wrap_of_ne (isTag : IsTag tag) (otherIsTag : IsTag other) (differs : tag ≠ other)
    (lacks : Text.Lacks (openingTag tag) body.toList) (after : List Char) :
    find? tag ((wrap other body).toList ++ after) = find? tag after := by
  rw [find?, find?, openingTag_eq, cutAt?_wrap_of_ne isTag otherIsTag differs .opening lacks]
  cases Text.cutAt? (mark tag.toList) after with
  | none => rfl
  | some cut => rfl

theorem body?_wrap_self {text : String} (isTag : IsTag tag)
    (lacks : Text.Lacks (closingTag tag) body.toList) :
    body? tag (wrap tag body ++ text) = some body := by
  rw [body?, String.toList_append, find?_wrap_self isTag lacks, Option.map_some]
  exact congrArg some String.ofList_toList

theorem body?_wrap_of_ne {text : String} (isTag : IsTag tag) (otherIsTag : IsTag other)
    (differs : tag ≠ other) (lacks : Text.Lacks (openingTag tag) body.toList) :
    body? tag (wrap other body ++ text) = body? tag text := by
  rw [body?, String.toList_append, find?_wrap_of_ne isTag otherIsTag differs lacks, body?]

/-- A search for a tag goes into the sections with other tags. -/
theorem body?_wrap_enter {text : String} (isTag : IsTag tag) (otherIsTag : IsTag other)
    (differs : tag ≠ other) :
    body? tag (wrap other body ++ text) =
      body? tag (body ++ (String.ofList (closingTag other) ++ text)) := by
  have enters := cutAt?_mark_of_ne (IsMarkOf.opening.bracket_notMem isTag).2
    (IsMarkOf.opening.bracket_notMem otherIsTag)
    (IsMarkOf.opening.ne isTag otherIsTag differs .opening)
    (body.toList ++ (closingTag other ++ text.toList))
  rw [body?, body?, find?, find?, String.toList_append, toList_wrap, String.toList_append,
    String.toList_append, String.toList_ofList, List.append_assoc, List.append_assoc,
    openingTag_eq, openingTag_eq, enters]
  cases Text.cutAt? (mark tag.toList) (body.toList ++ (closingTag other ++ text.toList)) with
  | none => rfl
  | some cut => rfl

/-! ### Sections one after the other -/

/-- The text of sections, given by their tags and bodies. -/
def written : List (String × String) → String
  | [] => ""
  | (tag, body) :: rest => wrap tag body ++ written rest

theorem written_cons (tag body : String) (rest : List (String × String)) :
    written ((tag, body) :: rest) = wrap tag body ++ written rest := rfl

theorem written_append (first second : List (String × String)) :
    written (first ++ second) = written first ++ written second := by
  induction first with
  | nil => simp [written]
  | cons entry rest inductionHypothesis =>
    rw [List.cons_append, written_cons, inductionHypothesis, ← String.append_assoc, written_cons]

/-- A section that does not disturb the search for the first one of a tag: with this tag, its body
ends where its closing tag stands, and with another one, its body does not open this tag. -/
structure Clear (tag : String) (entry : String × String) : Prop where
  isTag : IsTag entry.1
  closes : entry.1 = tag → Text.Lacks (closingTag tag) entry.2.toList
  passes : tag ≠ entry.1 → Text.Lacks (openingTag tag) entry.2.toList

/-- Neither mark of a tag stands in the text. -/
structure Free (tag : String) (text : List Char) : Prop where
  opening : Text.Lacks (openingTag tag) text
  closing : Text.Lacks (closingTag tag) text

theorem free_of_notMem (plain : '<' ∉ text) : Free tag text :=
  ⟨Text.lacks_of_notMem plain, Text.lacks_of_notMem plain⟩

theorem Free.clear (free : Free tag body.toList) (isTag : IsTag other) : Clear tag (other, body) :=
  ⟨isTag, fun _ => free.closing, fun _ => free.opening⟩

variable {sections : List (String × String)}

/-- A search finds the first section of the tag, or goes on after the sections. -/
theorem body?_written_append (isTag : IsTag tag) (clear : ∀ entry ∈ sections, Clear tag entry)
    (text : String) :
    body? tag (written sections ++ text) = (sections.lookup tag).or (body? tag text) := by
  induction sections with
  | nil => simp [written]
  | cons entry rest inductionHypothesis =>
    obtain ⟨other, body⟩ := entry
    obtain ⟨first, later⟩ := List.forall_mem_cons.mp clear
    rw [written_cons, String.append_assoc]
    by_cases same : tag = other
    · subst same
      rw [body?_wrap_self isTag (first.closes rfl), List.lookup_cons_self, Option.some_or]
    · rw [body?_wrap_of_ne isTag first.isTag same (first.passes same), inductionHypothesis later,
        List.lookup_cons, beq_false_of_ne same]

theorem body?_empty (tag : String) : body? tag "" = none := by
  simp [body?, find?, Text.cutAt?, openingTag]

theorem body?_written (isTag : IsTag tag) (clear : ∀ entry ∈ sections, Clear tag entry) :
    body? tag (written sections) = sections.lookup tag := by
  have found := body?_written_append isTag clear ""
  rwa [String.append_empty, body?_empty, Option.or_none] at found

/-- A mark that stands in no body does not stand in sections with other tags. -/
theorem lacks_written (isTag : IsTag tag) (marks : IsMarkOf tag name)
    (tags : ∀ other ∈ sections.map Prod.fst, IsTag other) (absent : tag ∉ sections.map Prod.fst)
    (lacks : ∀ body ∈ sections.map Prod.snd, Text.Lacks (mark name) body.toList) :
    Text.Lacks (mark name) (written sections).toList := by
  induction sections with
  | nil => simp [written, Text.Lacks, Text.cutAt?, mark]
  | cons entry rest inductionHypothesis =>
    obtain ⟨otherIsTag, laterTags⟩ := List.forall_mem_cons.mp tags
    obtain ⟨differs, laterAbsent⟩ := not_or.mp (List.mem_cons.not.mp absent)
    obtain ⟨inFirst, inRest⟩ := List.forall_mem_cons.mp lacks
    rw [Text.Lacks, written_cons, String.toList_append,
      cutAt?_wrap_of_ne isTag otherIsTag differs marks inFirst,
      show Text.cutAt? _ _ = none from inductionHypothesis laterTags laterAbsent inRest,
      Option.map_none]

theorem free_written (isTag : IsTag tag) (tags : ∀ other ∈ sections.map Prod.fst, IsTag other)
    (absent : tag ∉ sections.map Prod.fst)
    (free : ∀ body ∈ sections.map Prod.snd, Free tag body.toList) :
    Free tag (written sections).toList :=
  ⟨lacks_written isTag .opening tags absent fun body member => (free body member).opening,
    lacks_written isTag .closing tags absent fun body member => (free body member).closing⟩

/-- Sections whose bodies hold no bracket. -/
structure IsPlain (sections : List (String × String)) : Prop where
  tags : ∀ tag ∈ sections.map Prod.fst, IsTag tag
  bodies : ∀ body ∈ sections.map Prod.snd, '<' ∉ body.toList

namespace IsPlain

theorem clear (plain : IsPlain sections) {entry : String × String} (member : entry ∈ sections) :
    Clear tag entry :=
  (free_of_notMem (plain.bodies _ (List.mem_map_of_mem member))).clear
    (plain.tags _ (List.mem_map_of_mem member))

theorem body?_eq_lookup (plain : IsPlain sections) (isTag : IsTag tag) :
    body? tag (written sections) = sections.lookup tag :=
  body?_written isTag fun _ member => plain.clear member

theorem free (plain : IsPlain sections) (isTag : IsTag tag) (absent : tag ∉ sections.map Prod.fst) :
    Free tag (written sections).toList :=
  free_written isTag plain.tags absent fun body member => free_of_notMem (plain.bodies body member)

end IsPlain

theorem IsPlain.append {first second : List (String × String)} (one : IsPlain first)
    (other : IsPlain second) : IsPlain (first ++ second) where
  tags := by
    rw [List.map_append]
    exact List.forall_mem_append.mpr ⟨one.tags, other.tags⟩
  bodies := by
    rw [List.map_append]
    exact List.forall_mem_append.mpr ⟨one.bodies, other.bodies⟩

/-- A search for a tag passes sections without brackets and goes into the next one. -/
theorem exists_body?_enter {front : List (String × String)} (plain : IsPlain front)
    (isTag : IsTag tag) (otherIsTag : IsTag other) (absent : tag ∉ front.map Prod.fst)
    (differs : tag ≠ other) (body : String) (back : List (String × String)) (text : String) :
    ∃ rest, body? tag (written (front ++ (other, body) :: back) ++ text) =
      body? tag (body ++ rest) := by
  have nowhere : front.lookup tag = none := by
    refine List.lookup_eq_none_iff.mpr fun entry member => bne_iff_ne.mpr ?_
    rintro rfl
    exact absent (List.mem_map_of_mem member)
  refine ⟨String.ofList (closingTag other) ++ (written back ++ text), ?_⟩
  rw [written_append, String.append_assoc,
    body?_written_append isTag fun _ member => plain.clear member, nowhere, Option.none_or,
    written_cons, String.append_assoc, body?_wrap_enter isTag otherIsTag differs]

end Section

end SuperblockGovernance

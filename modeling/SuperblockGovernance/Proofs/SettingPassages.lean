/-
How often a setting is read. The settings of a text stand one after the other: each goes from the
first opening tag to the first closing tag behind it, and the next one is looked for right behind
that closing tag. The loop looks for a setting in the same way, but it goes on behind the first
closing tag of the text, which is the one of the setting only if no closing tag is passed over
before the setting opens. So every setting is read, in order, and it is read again for each closing
tag that strays in front of it.
-/

import SuperblockGovernance.Proofs.SporkTexts

namespace SuperblockGovernance

/-! ### First places of a pattern -/

namespace Text

variable {pattern text before after : List Char}

/-- The first place of a pattern in a text, by what stands before and after it. -/
structure IsFirst (pattern text before after : List Char) : Prop where
  place : text = before ++ pattern ++ after
  least : ∀ earlier rest, text = earlier ++ pattern ++ rest → before.length ≤ earlier.length

theorem IsFirst.unique {otherBefore otherAfter : List Char}
    (one : IsFirst pattern text before after)
    (other : IsFirst pattern text otherBefore otherAfter) :
    before = otherBefore ∧ after = otherAfter := by
  have long : before.length = otherBefore.length :=
    Nat.le_antisymm (one.least _ _ other.place) (other.least _ _ one.place)
  have whole := one.place.symm.trans other.place
  rw [List.append_assoc, List.append_assoc] at whole
  obtain ⟨same, rest⟩ := List.append_inj whole long
  exact ⟨same, List.append_cancel_left rest⟩

/-- A cut is made at the first place. -/
theorem isFirst_of_cutAt? (cut : cutAt? pattern text = some (before, after)) :
    IsFirst pattern text before after := by
  refine ⟨append_of_cutAt? cut, ?_⟩
  induction text generalizing before with
  | nil =>
    intro earlier rest _
    have whole := append_of_cutAt? cut
    simp only [List.append_assoc, List.nil_eq, List.append_eq_nil_iff] at whole
    rw [whole.1]
    exact Nat.zero_le _
  | cons character others inductionHypothesis =>
    intro earlier rest whole
    rw [cutAt?] at cut
    split at cut
    · cases cut
      exact Nat.zero_le _
    · rename_i differs
      obtain ⟨⟨skipped, behind⟩, inner, same⟩ := Option.map_eq_some_iff.mp cut
      cases same
      cases earlier with
      | nil =>
        refine absurd ?_ (Option.eq_none_iff_forall_ne_some.mp differs rest)
        exact List.isPrefixOf?_eq_some_iff_append_eq.mpr whole.symm
      | cons first earlier =>
        exact Nat.succ_le_succ (inductionHypothesis inner earlier rest (List.cons.inj whole).2)

theorem lacks_iff : Lacks pattern text ↔ ∀ before after, text ≠ before ++ pattern ++ after := by
  constructor
  · intro lacks before
    induction text generalizing before with
    | nil =>
      intro after whole
      rw [Lacks, cutAt?] at lacks
      split at lacks
      · cases lacks
      · rename_i filled
        simp only [List.append_assoc, List.nil_eq, List.append_eq_nil_iff] at whole
        exact filled whole.2.1
    | cons character others inductionHypothesis =>
      intro after whole
      obtain ⟨differs, later⟩ := lacks_cons_iff.mp lacks
      cases before with
      | nil =>
        refine Option.eq_none_iff_forall_ne_some.mp differs after ?_
        exact List.isPrefixOf?_eq_some_iff_append_eq.mpr whole.symm
      | cons first earlier => exact inductionHypothesis later earlier after (List.cons.inj whole).2
  · intro nowhere
    rw [Lacks, Option.eq_none_iff_forall_ne_some]
    exact fun cut found => nowhere cut.1 cut.2 (append_of_cutAt? found)

theorem Lacks.of_append (lacks : Lacks pattern (before ++ after)) :
    Lacks pattern before ∧ Lacks pattern after := by
  rw [lacks_iff] at lacks
  refine ⟨lacks_iff.mpr fun front back same => lacks front (back ++ after) ?_,
    lacks_iff.mpr fun front back same => lacks (before ++ front) back ?_⟩
  · simp [same]
  · simp [same]

theorem IsFirst.cut (first : IsFirst pattern text before after) :
    cutAt? pattern text = some (before, after) := by
  rcases found : cutAt? pattern text with _ | ⟨front, back⟩
  · exact absurd first.place (lacks_iff.mp found before after)
  · obtain ⟨rfl, rfl⟩ := (isFirst_of_cutAt? found).unique first
    rfl

/-- The text before the first place lacks the pattern. -/
theorem IsFirst.lacks (first : IsFirst pattern text before after) (filled : pattern ≠ []) :
    Lacks pattern before := by
  refine lacks_iff.mpr fun front back same => ?_
  have earlier : text = front ++ pattern ++ (back ++ pattern ++ after) := by
    rw [first.place, same]
    simp only [List.append_assoc]
  have shorter := first.least _ _ earlier
  have positive := List.length_pos_iff.mpr filled
  rw [same, List.length_append, List.length_append] at shorter
  omega

/-! ### Counting places -/

/-- The number of places where a pattern stands in a text. -/
def occurrences (pattern : List Char) : List Char → Nat
  | [] => 0
  | character :: rest =>
    (if pattern.isPrefixOf (character :: rest) then 1 else 0) + occurrences pattern rest

variable {first : Char}

theorem occurrences_append_of_notMem (absent : first ∉ before) (after : List Char) :
    occurrences (first :: pattern) (before ++ after) = occurrences (first :: pattern) after := by
  induction before with
  | nil => rfl
  | cons character others inductionHypothesis =>
    obtain ⟨differs, later⟩ := List.ne_and_not_mem_of_not_mem_cons absent
    have elsewhere : (first :: pattern).isPrefixOf (character :: (others ++ after)) = false := by
      simp [List.isPrefixOf, differs]
    rw [List.cons_append, occurrences, elsewhere, inductionHypothesis later]
    exact Nat.zero_add _

theorem occurrences_of_lacks (lacks : Lacks pattern text) : occurrences pattern text = 0 := by
  induction text with
  | nil => rfl
  | cons character others inductionHypothesis =>
    obtain ⟨differs, later⟩ := lacks_cons_iff.mp lacks
    have elsewhere : pattern.isPrefixOf (character :: others) = false := by
      rw [← List.isSome_isPrefixOf?_eq_isPrefixOf, differs]
      rfl
    rw [occurrences, elsewhere, inductionHypothesis later]
    rfl

/-- A cut takes one occurrence away, if the pattern repeats its first character nowhere. -/
theorem occurrences_of_cutAt? (single : first ∉ pattern)
    (cut : cutAt? (first :: pattern) text = some (before, after)) :
    occurrences (first :: pattern) text = occurrences (first :: pattern) after + 1 := by
  induction text generalizing before with
  | nil => cases cut
  | cons character others inductionHypothesis =>
    rw [cutAt?] at cut
    split at cut
    · rename_i rest found
      cases cut
      have whole : character :: (pattern ++ after) = character :: others := by
        have same := List.isPrefixOf?_eq_some_iff_append_eq.mp found
        rwa [List.cons_append, (List.cons.inj same).1] at same
      have here : (first :: pattern).isPrefixOf (character :: others) = true := by
        rw [← List.isSome_isPrefixOf?_eq_isPrefixOf, found]
        rfl
      rw [occurrences, here, ← (List.cons.inj whole).2,
        occurrences_append_of_notMem single, if_pos rfl, Nat.add_comm]
    · rename_i differs
      obtain ⟨⟨skipped, behind⟩, inner, same⟩ := Option.map_eq_some_iff.mp cut
      cases same
      have elsewhere : (first :: pattern).isPrefixOf (character :: others) = false := by
        rw [← List.isSome_isPrefixOf?_eq_isPrefixOf, differs]
        rfl
      rw [occurrences, elsewhere, inductionHypothesis inner]
      exact Nat.zero_add _

end Text

namespace Section

variable {name before after : List Char}

/-- A mark that is found makes one occurrence less. -/
theorem occurrences_of_cutAt? {text : List Char} (plain : '<' ∉ name)
    (cut : Text.cutAt? (mark name) text = some (before, after)) :
    Text.occurrences (mark name) text = Text.occurrences (mark name) after + 1 :=
  Text.occurrences_of_cutAt? (by simp [plain]) cut

end Section

/-! ### Settings as they stand in a text -/

namespace SporkSection

/-- A setting as it stands in a text: what is passed over before it, and its body. -/
structure Passage where
  skipped : List Char
  body : List Char

namespace Passage

/-- The body of the setting. -/
def text (passage : Passage) : String :=
  String.ofList passage.body

/-- The closing tags that are passed over before the setting opens. -/
def strays (passage : Passage) : Nat :=
  Text.occurrences (Section.closingTag tag) passage.skipped

/-- The text that begins with the passage and goes on like this. -/
def followedBy (passage : Passage) (after : List Char) : List Char :=
  passage.skipped ++ (Section.openingTag tag ++
    (passage.body ++ (Section.closingTag tag ++ after)))

/-- The setting opens at the first opening tag and ends at the first closing tag behind it. -/
structure Fits (passage : Passage) : Prop where
  unopened : Text.Lacks (Section.openingTag tag) passage.skipped
  unclosed : Text.Lacks (Section.closingTag tag) passage.body

end Passage

/-- The settings of a text, one after the other: from the first opening tag to the first closing tag
behind it, and the next ones right behind that closing tag. -/
inductive Passages : List Char → List Passage → Prop
  | stop {text : List Char} (none : ∀ skipped inside body after,
        Text.IsFirst (Section.openingTag tag) text skipped inside →
          ¬Text.IsFirst (Section.closingTag tag) inside body after) :
      Passages text []
  | next {text skipped inside body after : List Char} {later : List Passage}
      (opens : Text.IsFirst (Section.openingTag tag) text skipped inside)
      (closes : Text.IsFirst (Section.closingTag tag) inside body after)
      (rest : Passages after later) :
      Passages text (⟨skipped, body⟩ :: later)

/-- A text has its settings in one way only. -/
theorem Passages.unique {text : List Char} {passages others : List Passage}
    (one : Passages text passages) (other : Passages text others) : passages = others := by
  induction one generalizing others with
  | stop none =>
    cases other with
    | stop _ => rfl
    | next opens closes _ => exact absurd closes (none _ _ _ _ opens)
  | next opens closes _ inductionHypothesis =>
    cases other with
    | stop none => exact absurd closes (none _ _ _ _ opens)
    | next otherOpens otherCloses otherRest =>
      obtain ⟨rfl, rfl⟩ := opens.unique otherOpens
      obtain ⟨rfl, rfl⟩ := closes.unique otherCloses
      rw [inductionHypothesis otherRest]

theorem find?_eq_some_iff {text body after : List Char} :
    Section.find? tag text = some (body, after) ↔ ∃ skipped inside,
      Text.IsFirst (Section.openingTag tag) text skipped inside ∧
        Text.IsFirst (Section.closingTag tag) inside body after := by
  constructor
  · intro found
    obtain ⟨⟨skipped, inside⟩, opens, closes⟩ := Option.bind_eq_some_iff.mp found
    exact ⟨skipped, inside, Text.isFirst_of_cutAt? opens, Text.isFirst_of_cutAt? closes⟩
  · rintro ⟨skipped, inside, opens, closes⟩
    exact Option.bind_eq_some_iff.mpr ⟨(skipped, inside), opens.cut, closes.cut⟩

/-! ### The rounds of the loop -/

theorem bracket_notMem_opening : '<' ∉ tag.toList := by
  decide

theorem bracket_notMem_closing : '<' ∉ '/' :: tag.toList := by
  decide

namespace Passage

variable {passage : Passage} {front back : List Char}

/-- The setting is found, whatever strays in front of it. -/
theorem Fits.find? (fits : passage.Fits) (after : List Char) :
    Section.find? tag (passage.followedBy after) = some (passage.body, after) :=
  Option.bind_eq_some_iff.mpr ⟨_,
    Section.cutAt?_append_mark_self bracket_notMem_opening fits.unopened _,
    Section.cutAt?_append_mark_self bracket_notMem_closing fits.unclosed after⟩

/-- Behind a setting without strays, the loop goes on with the next one. -/
theorem Fits.next?_of_clear (fits : passage.Fits)
    (clear : Text.Lacks (Section.closingTag tag) passage.skipped) (after : List Char) :
    next? (passage.followedBy after) = some (passage.text, after) := by
  have passes : Text.cutAt? (Section.closingTag tag) (passage.followedBy after) =
      some (passage.skipped ++ (Section.openingTag tag ++ passage.body), after) := by
    have closes := Section.cutAt?_append_mark_self bracket_notMem_closing fits.unclosed after
    have isTag : Section.IsTag tag := by decide
    rw [followedBy, Section.closingTag_eq, Section.openingTag_eq,
      Section.cutAt?_append_mark bracket_notMem_closing clear,
      Section.cutAt?_mark_of_ne (Section.IsMarkOf.closing.bracket_notMem isTag).2
        (Section.IsMarkOf.opening.bracket_notMem isTag) (List.cons_ne_self '/' tag.toList),
      closes]
    rfl
  rw [next?, fits.find?, passes]
  rfl

/-- With a closing tag in front of it, the loop reads the setting and goes on behind that tag. -/
theorem Fits.next?_of_stray (fits : passage.Fits)
    (stray : Text.cutAt? (Section.closingTag tag) passage.skipped = some (front, back))
    (after : List Char) :
    next? (passage.followedBy after) =
      some (passage.text, { passage with skipped := back }.followedBy after) := by
  have first := Text.isFirst_of_cutAt? stray
  have passes : Text.cutAt? (Section.closingTag tag) (passage.followedBy after) =
      some (front, { passage with skipped := back }.followedBy after) := by
    have found := Section.cutAt?_append_mark_self bracket_notMem_closing
      (first.lacks (List.cons_ne_nil _ _)) ({ passage with skipped := back }.followedBy after)
    rw [followedBy, first.place, List.append_assoc, List.append_assoc]
    exact found
  rw [next?, fits.find?, passes]
  rfl

/-- The loop reads a setting once, and once more for each closing tag that strays in front of it,
and then goes on behind it. -/
theorem Fits.bodies_eq (fits : passage.Fits) (after : List Char) :
    bodies (passage.followedBy after) =
      List.replicate (passage.strays + 1) passage.text ++ bodies after := by
  -- Each round takes the first closing tag away, and a stray one as long as there is any.
  induction strays : passage.strays generalizing passage with
  | zero =>
    have clear : Text.Lacks (Section.closingTag tag) passage.skipped := by
      refine Option.eq_none_iff_forall_ne_some.mpr fun cut first => ?_
      exact Nat.succ_ne_zero _
        ((Section.occurrences_of_cutAt? bracket_notMem_closing first).symm.trans strays)
    rw [SporkSection.bodies_eq, fits.next?_of_clear clear]
    rfl
  | succ count inductionHypothesis =>
    rcases stray : Text.cutAt? (Section.closingTag tag) passage.skipped with _ | ⟨front, back⟩
    · exact absurd ((Text.occurrences_of_lacks stray).symm.trans strays) (Nat.succ_ne_zero _).symm
    · have place := (Text.isFirst_of_cutAt? stray).place
      have fewer := Section.occurrences_of_cutAt? bracket_notMem_closing stray
      have fitsToo : Fits { passage with skipped := back } :=
        ⟨(Text.Lacks.of_append (place ▸ fits.unopened)).2, fits.unclosed⟩
      have later := inductionHypothesis fitsToo (Nat.succ.inj (fewer.symm.trans strays))
      rw [SporkSection.bodies_eq, fits.next?_of_stray stray]
      dsimp only
      rw [later]
      rfl

end Passage

theorem Passages.bodies_eq {text : List Char} {passages : List Passage}
    (found : Passages text passages) :
    bodies text =
      passages.flatMap fun passage => List.replicate (passage.strays + 1) passage.text := by
  induction found with
  | @stop text none =>
    have stops : next? text = Option.none := by
      refine Option.bind_eq_none_iff.mpr fun cut found => ?_
      obtain ⟨skipped, inside, opens, closes⟩ := find?_eq_some_iff.mp found
      exact absurd closes (none _ _ _ _ opens)
    rw [SporkSection.bodies_eq, stops]
    rfl
  | @next text skipped inside body after later opens closes rest inductionHypothesis =>
    have fits : Passage.Fits ⟨skipped, body⟩ :=
      ⟨opens.lacks (List.cons_ne_nil _ _), closes.lacks (List.cons_ne_nil _ _)⟩
    have whole : text = Passage.followedBy ⟨skipped, body⟩ after := by
      rw [opens.place, closes.place, Passage.followedBy]
      simp only [List.append_assoc]
    rw [whole, fits.bodies_eq, inductionHypothesis, List.flatMap_cons]

theorem Passage.Fits.passages {passage : Passage} (fits : passage.Fits) {after : List Char}
    {later : List Passage} (rest : Passages after later) :
    Passages (passage.followedBy after) (passage :: later) :=
  .next (Text.isFirst_of_cutAt?
      (Section.cutAt?_append_mark_self bracket_notMem_opening fits.unopened _))
    (Text.isFirst_of_cutAt?
      (Section.cutAt?_append_mark_self bracket_notMem_closing fits.unclosed after)) rest

theorem passages_of_find?_eq_none {text : List Char} (none : Section.find? tag text = none) :
    Passages text [] := by
  refine .stop fun skipped inside body after opens closes => ?_
  cases none.symm.trans (find?_eq_some_iff.mpr ⟨skipped, inside, opens, closes⟩)

theorem exists_passages (text : List Char) : ∃ passages, Passages text passages := by
  induction size : text.length using Nat.strongRecOn generalizing text with
  | ind _ inductionHypothesis =>
    rcases found : Section.find? tag text with _ | ⟨body, after⟩
    · exact ⟨[], passages_of_find?_eq_none found⟩
    · obtain ⟨skipped, inside, opens, closes⟩ := find?_eq_some_iff.mp found
      have shorter : after.length < text.length := by
        have positive : 0 < (Section.closingTag tag).length := by decide
        rw [opens.place, closes.place]
        simp only [List.length_append]
        omega
      obtain ⟨later, rest⟩ := inductionHypothesis _ (size ▸ shorter) after rfl
      exact ⟨_, .next opens closes rest⟩

/-- The loop takes as many rounds at most as there are closing tags. -/
theorem length_bodies_le (text : List Char) :
    (bodies text).length ≤ Text.occurrences (Section.closingTag tag) text := by
  induction text using bodies.induct with
  | case1 text stops =>
    rw [SporkSection.bodies_eq, stops]
    exact Nat.zero_le _
  | case2 text body after found _ inductionHypothesis =>
    obtain ⟨_, _, closes⟩ := Option.bind_eq_some_iff.mp found
    obtain ⟨⟨before, behind⟩, cut, same⟩ := Option.bind_eq_some_iff.mp closes
    cases same
    have fewer := Section.occurrences_of_cutAt? bracket_notMem_closing cut
    rw [SporkSection.bodies_eq, found, Section.closingTag_eq, fewer]
    exact Nat.succ_le_succ inductionHypothesis

/-! ### What is read -/

/-- The settings of some passages, each read once. -/
def readOnce : List Passage → Except ValidationError (List SporkEntry)
  | [] => .ok []
  | passage :: rest => do
    let setting ← SporkEntry.ofText passage.text
    return setting :: (← readOnce rest)

/-- The settings of some passages, each as often as the loop reads it. -/
def repeated (passages : List Passage) (settings : List SporkEntry) : List SporkEntry :=
  (passages.zip settings).flatMap fun pair => List.replicate (pair.1.strays + 1) pair.2

theorem mapM_replicate {α β ε : Type} (read : α → Except ε β) (source : α) (count : Nat) :
    (List.replicate (count + 1) source).mapM read =
      (read source).map (List.replicate (count + 1)) := by
  induction count with
  | zero =>
    rw [List.replicate_succ, List.mapM_cons]
    cases read source <;> rfl
  | succ count inductionHypothesis =>
    rw [List.replicate_succ, List.mapM_cons, inductionHypothesis]
    cases read source <;> rfl

/-- To read a body again and again comes to reading it once and repeating what was read. -/
theorem mapM_repeated (passages : List Passage) :
    (passages.flatMap fun passage => List.replicate (passage.strays + 1) passage.text).mapM
        SporkEntry.ofText = (readOnce passages).map (repeated passages) := by
  induction passages with
  | nil => rfl
  | cons passage rest inductionHypothesis =>
    rw [List.flatMap_cons, List.mapM_append, mapM_replicate, inductionHypothesis, readOnce]
    cases SporkEntry.ofText passage.text with
    | error cause => rfl
    | ok setting => cases readOnce rest <;> rfl

theorem length_of_readOnce {passages : List Passage} {settings : List SporkEntry}
    (read : readOnce passages = .ok settings) : settings.length = passages.length := by
  induction passages generalizing settings with
  | nil =>
    cases read
    rfl
  | cons passage rest inductionHypothesis =>
    obtain ⟨_, _, afterFirst⟩ := bind_eq_ok_iff.mp read
    obtain ⟨later, readLater, same⟩ := bind_eq_ok_iff.mp afterFirst
    cases same
    exact congrArg Nat.succ (inductionHypothesis readLater)

theorem length_repeated {passages : List Passage} {settings : List SporkEntry}
    (paired : settings.length = passages.length) :
    (repeated passages settings).length = settings.length + sumOf Passage.strays passages := by
  induction passages generalizing settings with
  | nil =>
    rw [List.length_eq_zero_iff.mp paired]
    rfl
  | cons passage rest inductionHypothesis =>
    cases settings with
    | nil => cases paired
    | cons setting others =>
      have later := inductionHypothesis (Nat.succ.inj paired)
      rw [repeated] at later ⊢
      simp only [List.zip_cons_cons, List.flatMap_cons, List.length_append, List.length_replicate,
        List.length_cons, sumOf_cons, later]
      omega

/-- Each setting is read once exactly if no closing tag strays in front of any. -/
theorem repeated_eq_self_iff {passages : List Passage} {settings : List SporkEntry}
    (paired : settings.length = passages.length) :
    repeated passages settings = settings ↔ ∀ passage ∈ passages, passage.strays = 0 := by
  constructor
  · intro same passage member
    have longer := length_repeated paired
    have within := le_sumOf_of_mem Passage.strays member
    rw [same] at longer
    omega
  · intro clear
    induction passages generalizing settings with
    | nil =>
      rw [List.length_eq_zero_iff.mp paired]
      rfl
    | cons passage rest inductionHypothesis =>
      cases settings with
      | nil => cases paired
      | cons setting others =>
        obtain ⟨first, later⟩ := List.forall_mem_cons.mp clear
        have rest := inductionHypothesis (Nat.succ.inj paired) later
        rw [repeated] at rest ⊢
        rw [List.zip_cons_cons, List.flatMap_cons, first, rest]
        rfl

/-- The settings that are read from a text are those that stand in it one after the other, each as
often as the loop reads it. -/
theorem ofBody_eq_ok_iff {body : String} {passages : List Passage}
    (found : Passages body.toList passages) {sporks : SporkSection} :
    ofBody body = .ok sporks ↔ ∃ settings, readOnce passages = .ok settings ∧
      sporks = ⟨(Section.body? "MS" body).getD "", repeated passages settings⟩ := by
  rw [ofBody, found.bodies_eq, mapM_repeated]
  cases readOnce passages with
  | error cause => exact iff_of_false nofun fun ⟨_, read, _⟩ => by cases read
  | ok settings =>
    constructor
    · intro read
      cases read
      exact ⟨settings, rfl, rfl⟩
    · rintro ⟨_, read, rfl⟩
      cases read
      rfl

/-- Every text has its settings one after the other, and the loop reads them in this order, each one
once and once more for each closing tag that is passed over in front of it. So every setting is read
once exactly if no closing tag strays in front of one. The rounds are no more than the closing tags
of the text. -/
theorem strays_repeat_settings (body : String) :
    ∃ passages, Passages body.toList passages ∧
      (∀ others, Passages body.toList others → others = passages) ∧
      (bodies body.toList).length ≤ Text.occurrences (Section.closingTag tag) body.toList ∧
      ∀ sporks, ofBody body = .ok sporks ↔ ∃ settings, readOnce passages = .ok settings ∧
        sporks = ⟨(Section.body? "MS" body).getD "", repeated passages settings⟩ ∧
        (sporks.entries = settings ↔ ∀ passage ∈ passages, passage.strays = 0) := by
  obtain ⟨passages, found⟩ := exists_passages body.toList
  refine ⟨passages, found, fun others other => other.unique found, length_bodies_le _, ?_⟩
  intro sporks
  rw [ofBody_eq_ok_iff found]
  constructor
  · rintro ⟨settings, read, rfl⟩
    exact ⟨settings, read, rfl, repeated_eq_self_iff (length_of_readOnce read)⟩
  · rintro ⟨settings, read, same, _⟩
    exact ⟨settings, read, same⟩

end SporkSection

/-! ### A stray closing tag -/

namespace StraySetting

/-- A setting with one letter for each text. -/
def setting : SporkEntry :=
  ⟨"SPORK", "k", "v", 0⟩

/-- The setting with a closing tag in front of it. -/
def body : String :=
  "</SPORK>" ++ Section.wrap "SPORK" setting.toText

/-- The setting behind a stray closing tag. -/
def passage : SporkSection.Passage :=
  ⟨"</SPORK>".toList, setting.toText.toList⟩

theorem isPlain_setting : setting.IsPlain := by
  show ∀ text ∈ ["SPORK", "k", "v"], '<' ∉ text.toList
  decide

/-- The setting stands in the text once. -/
theorem passages : SporkSection.Passages body.toList [passage] := by
  have free : Section.Free SporkSection.tag setting.toText.toList :=
    isPlain_setting.free_toText (by decide) (by decide)
  have whole : body.toList = passage.followedBy [] := by
    rw [body, String.toList_append, Section.toList_wrap, SporkSection.Passage.followedBy,
      List.append_nil]
    rfl
  have unopened : Text.cutAt? (Section.openingTag SporkSection.tag) passage.skipped = none := by
    decide
  have fits : passage.Fits := ⟨unopened, free.closing⟩
  exact whole ▸ fits.passages (SporkSection.passages_of_find?_eq_none (by decide))

theorem readOnce_passage : SporkSection.readOnce [passage] = .ok [setting] := by
  have same : passage.text = setting.toText := String.ofList_toList
  rw [SporkSection.readOnce, same, isPlain_setting.ofText_toText]
  rfl

end StraySetting

open StraySetting in
/-- A setting behind a stray closing tag is read twice, although it stands in the text once. -/
theorem stray_setting_is_read_twice :
    SporkSection.Passages body.toList [passage] ∧
      SporkSection.readOnce [passage] = .ok [setting] ∧
      ∃ sporks, SporkSection.ofBody body = .ok sporks ∧ sporks.entries = [setting, setting] := by
  refine ⟨passages, readOnce_passage, ?_⟩
  have read := (SporkSection.ofBody_eq_ok_iff passages).mpr ⟨[setting], readOnce_passage, rfl⟩
  have once : passage.strays = 1 := by decide
  refine ⟨_, read, ?_⟩
  rw [SporkSection.repeated, List.zip_cons_cons, List.flatMap_cons, once]
  rfl

end SuperblockGovernance

/-
Spork section texts. Settings are read in a loop that goes on behind the first closing tag, so
every setting has to be free of the marks that the loop looks for. Where no text of a section
holds a bracket, the section can be read in one way only: as the section it was written for.
-/

import SuperblockGovernance.Contract.SporkSection
import SuperblockGovernance.Proofs.QuoteTexts

namespace SuperblockGovernance

variable {tag : String} {name : List Char}

/-! ### One setting -/

namespace SporkEntry

variable {entry : SporkEntry}

/-- The texts that a setting is given; its number is always written in digits. -/
def texts (entry : SporkEntry) : List String :=
  [entry.sporkType, entry.key, entry.value]

/-- The nonce as a setting carries it. -/
def nonceText (entry : SporkEntry) : String :=
  String.ofList (Decimal.digits entry.nonce.toNat)

/-- The sections of one setting. -/
def sections (entry : SporkEntry) : List (String × String) :=
  [("SPORKTYPE", entry.sporkType), ("SPORKKEY", entry.key), ("SPORKVAL", entry.value),
    ("NONCE", entry.nonceText)]

/-- The tags of a setting, in the order in which they are written. -/
def tags : List String := ["SPORKTYPE", "SPORKKEY", "SPORKVAL", "NONCE"]

theorem bodies_eq : entry.sections.map Prod.snd = entry.texts ++ [entry.nonceText] := rfl

theorem isTag_of_mem_tags : ∀ tag ∈ tags, Section.IsTag tag := by
  decide

theorem bracket_notMem_nonceText (entry : SporkEntry) : '<' ∉ entry.nonceText.toList := by
  rw [nonceText, String.toList_ofList]
  exact Decimal.notMem_digits (by decide) _

theorem toText_eq (entry : SporkEntry) : entry.toText = Section.written entry.sections := by
  simp [toText, sections, nonceText, Section.written, String.append_assoc]

/-- A mark of another tag gets into the text of a setting only through the texts it was given. -/
theorem lacks_toText (isTag : Section.IsTag tag) (marks : Section.IsMarkOf tag name)
    (absent : tag ∉ tags)
    (lacks : ∀ text ∈ entry.texts, Text.Lacks (Section.mark name) text.toList) :
    Text.Lacks (Section.mark name) entry.toText.toList := by
  rw [toText_eq]
  refine Section.lacks_written isTag marks isTag_of_mem_tags absent ?_
  rw [bodies_eq]
  refine List.forall_mem_append.mpr ⟨lacks, List.forall_mem_singleton.mpr ?_⟩
  exact Text.lacks_of_notMem entry.bracket_notMem_nonceText

/-- No text that the setting was given holds a bracket. -/
def IsPlain (entry : SporkEntry) : Prop :=
  ∀ text ∈ entry.texts, '<' ∉ text.toList

theorem IsPlain.sections (plain : entry.IsPlain) : Section.IsPlain entry.sections where
  tags := isTag_of_mem_tags
  bodies := by
    rw [bodies_eq]
    exact List.forall_mem_append.mpr
      ⟨plain, List.forall_mem_singleton.mpr entry.bracket_notMem_nonceText⟩

theorem IsPlain.free_toText (plain : entry.IsPlain) (isTag : Section.IsTag tag)
    (absent : tag ∉ tags) : Section.Free tag entry.toText.toList := by
  rw [toText_eq]
  exact plain.sections.free isTag absent

theorem IsPlain.field_toText (plain : entry.IsPlain) {body : String} (isTag : Section.IsTag tag)
    (held : entry.sections.lookup tag = some body) : field tag entry.toText = .ok body := by
  rw [field, toText_eq, plain.sections.body?_eq_lookup isTag, held]

/-- A setting reads back as itself. -/
theorem IsPlain.ofText_toText (plain : entry.IsPlain) : ofText entry.toText = .ok entry := by
  refine bind_eq_ok_iff.mpr ⟨_, plain.field_toText (by decide) rfl, ?_⟩
  refine bind_eq_ok_iff.mpr ⟨_, plain.field_toText (by decide) rfl, ?_⟩
  refine bind_eq_ok_iff.mpr ⟨_, plain.field_toText (by decide) rfl, ?_⟩
  refine bind_eq_ok_iff.mpr ⟨_, plain.field_toText (by decide) rfl, ?_⟩
  rw [nonceText, String.toList_ofList, Decimal.word32?_digits]
  rfl

/-- A search for another tag passes the type of a setting and goes into its key. -/
theorem exists_body?_key (isTag : Section.IsTag tag) (absent : tag ∉ tags)
    (sporkType : '<' ∉ entry.sporkType.toList) (text : String) :
    ∃ rest, Section.body? tag (entry.toText ++ text) = Section.body? tag (entry.key ++ rest) := by
  have plain : Section.IsPlain [("SPORKTYPE", entry.sporkType)] :=
    ⟨List.forall_mem_singleton.mpr (show Section.IsTag "SPORKTYPE" by decide),
      List.forall_mem_singleton.mpr sporkType⟩
  rw [toText_eq]
  refine Section.exists_body?_enter plain isTag (show Section.IsTag "SPORKKEY" by decide)
    (fun member => absent ?_) (fun same => absent (by rw [same]; decide)) entry.key
    [("SPORKVAL", entry.value), ("NONCE", entry.nonceText)] text
  exact (show ["SPORKTYPE"] ⊆ tags by decide) member

end SporkEntry

/-! ### The loop over settings -/

namespace SporkSection

theorem bodies_eq (text : List Char) :
    bodies text = match next? text with
      | none => []
      | some (found, after) => found :: bodies after := by
  rw [bodies]
  split <;> rename_i next <;> simp only [next]

theorem next?_nil : next? [] = none := by
  decide

/-- The loop stops at a setting and goes on right behind it. -/
theorem next?_wrap_self {body : String} {after : List Char}
    (free : Section.Free "SPORK" body.toList) :
    next? ((Section.wrap "SPORK" body).toList ++ after) = some (body, after) := by
  have isTag : Section.IsTag "SPORK" := by decide
  have found := Section.find?_wrap_self isTag free.closing after
  have behind := Section.cutAt?_closingTag_wrap isTag free.closing after
  rw [next?, SporkSection.tag, found, behind]
  exact congrArg (fun text => some (text, after)) String.ofList_toList

/-- The loop passes a section with another tag. -/
theorem next?_wrap_of_ne {body : String} {after : List Char} (isTag : Section.IsTag tag)
    (differs : "SPORK" ≠ tag) (free : Section.Free "SPORK" body.toList) :
    next? ((Section.wrap tag body).toList ++ after) = next? after := by
  have sporkIsTag : Section.IsTag "SPORK" := by decide
  have passes := Section.cutAt?_wrap_of_ne sporkIsTag isTag differs .closing free.closing after
  rw [next?, next?, SporkSection.tag,
    Section.find?_wrap_of_ne sporkIsTag isTag differs free.opening,
    Section.closingTag_eq, passes]
  cases Text.cutAt? (Section.mark ('/' :: "SPORK".toList)) after with
  | none => rfl
  | some cut => rfl

/-- The loop collects the settings among the sections. -/
theorem bodies_written {sections : List (String × String)}
    (tags : ∀ tag ∈ sections.map Prod.fst, Section.IsTag tag)
    (free : ∀ body ∈ sections.map Prod.snd, Section.Free "SPORK" body.toList) :
    bodies (Section.written sections).toList =
      (sections.filter fun entry => entry.1 = "SPORK").map Prod.snd := by
  induction sections with
  | nil => rw [bodies_eq, Section.written, String.toList_empty, next?_nil]; rfl
  | cons entry rest inductionHypothesis =>
    obtain ⟨isTag, laterTags⟩ := List.forall_mem_cons.mp tags
    obtain ⟨inFirst, inRest⟩ := List.forall_mem_cons.mp free
    have later := inductionHypothesis laterTags inRest
    obtain ⟨other, body⟩ := entry
    rw [Section.written_cons, String.toList_append, bodies_eq]
    by_cases same : other = "SPORK"
    · subst same
      rw [next?_wrap_self inFirst]
      simp [later]
    · rw [next?_wrap_of_ne isTag (Ne.symm same) inFirst, ← bodies_eq, later]
      simp [same]

/-! ### The whole section -/

variable {sporks : SporkSection}

/-- The texts that the section is given. -/
def texts (sporks : SporkSection) : List String :=
  sporks.signer :: sporks.entries.flatMap SporkEntry.texts

/-- The sections before the settings. -/
def heading (sporks : SporkSection) : List (String × String) :=
  [("MT", "SPORK2"), ("MK", ""), ("MV", ""), ("MS", sporks.signer)]

/-- The sections of a spork section with settings. -/
def sections (sporks : SporkSection) : List (String × String) :=
  sporks.heading ++ sporks.entries.map fun entry => ("SPORK", entry.toText)

/-- All tags inside a spork section. -/
def tags : List String :=
  ["MT", "MK", "MV", "MS", "SPORK"] ++ SporkEntry.tags

theorem isTag_of_mem_tags : ∀ tag ∈ tags, Section.IsTag tag := by
  decide

theorem body_eq (filled : sporks.entries ≠ []) : sporks.body = Section.written sporks.sections := by
  have settings : ∀ entries : List SporkEntry,
      String.join (entries.map fun entry => Section.wrap "SPORK" entry.toText) =
        Section.written (entries.map fun entry => ("SPORK", entry.toText)) := by
    intro entries
    induction entries with
    | nil => rfl
    | cons entry rest inductionHypothesis =>
      rw [List.map_cons, String.join_cons, inductionHypothesis]
      rfl
  rw [body, if_neg (by simpa using filled), settings, sections, Section.written_append]
  simp [heading, Section.written, String.append_assoc]

theorem tags_eq : sporks.sections.map Prod.fst =
    ["MT", "MK", "MV", "MS"] ++ sporks.entries.map fun _ => "SPORK" := by
  rw [sections, List.map_append, List.map_map]
  rfl

theorem mem_tags {other : String} (member : other ∈ sporks.sections.map Prod.fst) :
    other ∈ tags := by
  rw [tags_eq, List.mem_append] at member
  rcases member with heads | settings
  · exact List.mem_append_left _ (List.mem_append_left ["SPORK"] heads)
  · obtain ⟨_, _, rfl⟩ := List.mem_map.mp settings
    decide

theorem headingBodies_eq :
    sporks.heading.map Prod.snd = ["SPORK2", "", ""] ++ [sporks.signer] := rfl

theorem bracket_notMem_heading : ∀ body ∈ ["SPORK2", "", ""], '<' ∉ body.toList := by
  decide

theorem isPlain_heading (signer : '<' ∉ sporks.signer.toList) : Section.IsPlain sporks.heading where
  tags := by
    show ∀ tag ∈ ["MT", "MK", "MV", "MS"], Section.IsTag tag
    decide
  bodies := by
    rw [headingBodies_eq]
    exact List.forall_mem_append.mpr
      ⟨bracket_notMem_heading, List.forall_mem_singleton.mpr signer⟩

/-- What holds of texts without brackets, of the signer and of the settings holds of all bodies. -/
theorem forall_mem_bodies (property : List Char → Prop)
    (plain : ∀ text, '<' ∉ text → property text) (signer : property sporks.signer.toList)
    (settings : ∀ entry ∈ sporks.entries, property entry.toText.toList) :
    ∀ body ∈ sporks.sections.map Prod.snd, property body.toList := by
  rw [sections, List.map_append, List.map_map, headingBodies_eq, List.forall_mem_append,
    List.forall_mem_append]
  refine ⟨⟨fun body member => plain _ (bracket_notMem_heading body member),
    List.forall_mem_singleton.mpr signer⟩, fun text member => ?_⟩
  obtain ⟨entry, inside, rfl⟩ := List.mem_map.mp member
  exact settings entry inside

/-- A mark of another tag gets into a spork section only through the texts it was given. -/
theorem lacks_body (isTag : Section.IsTag tag) (marks : Section.IsMarkOf tag name)
    (absent : tag ∉ tags)
    (lacks : ∀ text ∈ sporks.texts, Text.Lacks (Section.mark name) text.toList) :
    Text.Lacks (Section.mark name) sporks.body.toList := by
  obtain ⟨inSigner, inEntries⟩ := List.forall_mem_cons.mp lacks
  by_cases filled : sporks.entries = []
  · rw [body, if_pos (List.isEmpty_iff.mpr filled)]
    exact Text.lacks_of_notMem List.not_mem_nil
  · rw [body_eq filled]
    refine Section.lacks_written isTag marks (fun _ member => isTag_of_mem_tags _ (mem_tags member))
      (fun member => absent (mem_tags member))
      (forall_mem_bodies _ (fun _ => Text.lacks_of_notMem) inSigner fun entry member => ?_)
    refine SporkEntry.lacks_toText isTag marks (fun same => absent (List.mem_append_right _ same))
      fun text given => inEntries text (List.mem_flatMap.mpr ⟨entry, member, given⟩)

/-- No text that the section was given holds a bracket. -/
def IsPlain (sporks : SporkSection) : Prop :=
  ∀ text ∈ sporks.texts, '<' ∉ text.toList

theorem IsPlain.entry (plain : sporks.IsPlain) {entry : SporkEntry}
    (member : entry ∈ sporks.entries) : entry.IsPlain := fun text given =>
  plain text (List.mem_cons_of_mem _ (List.mem_flatMap.mpr ⟨entry, member, given⟩))

theorem IsPlain.free_body (plain : sporks.IsPlain) (isTag : Section.IsTag tag)
    (absent : tag ∉ tags) : Section.Free tag sporks.body.toList :=
  ⟨lacks_body isTag .opening absent fun text given => Text.lacks_of_notMem (plain text given),
    lacks_body isTag .closing absent fun text given => Text.lacks_of_notMem (plain text given)⟩

/-- The settings themselves are free of the marks around them. -/
theorem IsPlain.free_bodies (plain : sporks.IsPlain) (isTag : Section.IsTag tag)
    (absent : tag ∉ SporkEntry.tags) :
    ∀ body ∈ sporks.sections.map Prod.snd, Section.Free tag body.toList :=
  forall_mem_bodies (Section.Free tag) (fun _ => Section.free_of_notMem)
    (Section.free_of_notMem (plain _ List.mem_cons_self))
    fun _ member => (plain.entry member).free_toText isTag absent

theorem bodies_body (plain : sporks.IsPlain) (filled : sporks.entries ≠ []) :
    bodies sporks.body.toList = sporks.entries.map SporkEntry.toText := by
  rw [body_eq filled, bodies_written (fun _ member => isTag_of_mem_tags _ (mem_tags member))
    (plain.free_bodies (by decide) (by decide)), sections, List.filter_append, List.map_append]
  have heads : sporks.heading.filter (fun entry => entry.1 = "SPORK") = [] := rfl
  rw [heads, List.filter_map, List.filter_eq_self.mpr fun _ _ => by simp, List.map_map]
  rfl

theorem mapM_ofText {entries : List SporkEntry} (plain : ∀ entry ∈ entries, entry.IsPlain) :
    (entries.map SporkEntry.toText).mapM SporkEntry.ofText = .ok entries := by
  induction entries with
  | nil => rfl
  | cons entry rest inductionHypothesis =>
    obtain ⟨first, later⟩ := List.forall_mem_cons.mp plain
    rw [List.map_cons, List.mapM_cons, first.ofText_toText]
    exact bind_eq_ok_iff.mpr ⟨_, rfl, bind_eq_ok_iff.mpr ⟨_, inductionHypothesis later, rfl⟩⟩

/-- A search for another tag passes the heading and goes into the first setting, and there into its
key. -/
theorem exists_body?_key {entry : SporkEntry} {others : List SporkEntry}
    (first : sporks.entries = entry :: others) (isTag : Section.IsTag tag) (absent : tag ∉ tags)
    (signer : '<' ∉ sporks.signer.toList) (sporkType : '<' ∉ entry.sporkType.toList)
    (text : String) :
    ∃ rest, Section.body? tag (sporks.body ++ text) = Section.body? tag (entry.key ++ rest) := by
  have settings : sporks.sections = sporks.heading ++ ("SPORK", entry.toText) ::
      others.map fun entry => ("SPORK", entry.toText) := by
    rw [sections, first, List.map_cons]
  obtain ⟨behind, entered⟩ := Section.exists_body?_enter (isPlain_heading signer) isTag
    (show Section.IsTag "SPORK" by decide)
    (fun member => absent ((show ["MT", "MK", "MV", "MS"] ⊆ tags by decide) member))
    (fun same => absent (by rw [same]; decide)) entry.toText
    (others.map fun entry => ("SPORK", entry.toText)) text
  rw [← settings, ← body_eq (by rw [first]; exact List.cons_ne_nil _ _)] at entered
  rw [entered]
  exact SporkEntry.exists_body?_key isTag (fun member => absent (List.mem_append_right _ member))
    sporkType behind

/-- A section that a signer made of settings without brackets reads back as itself. -/
theorem ofBody_signed {signer : String} {entries : List SporkEntry}
    (plain : (signed signer entries).IsPlain) :
    ofBody (signed signer entries).body = .ok (signed signer entries) := by
  by_cases filled : entries = []
  · subst filled
    have nothing : bodies [] = [] := by rw [bodies_eq, next?_nil]
    refine bind_eq_ok_iff.mpr ⟨[], ?_, rfl⟩
    show (bodies []).mapM SporkEntry.ofText = .ok []
    rw [nothing]
    rfl
  · have same : signed signer entries = ⟨signer, entries⟩ := if_neg (by simpa using filled)
    rw [same] at plain ⊢
    have signs : Section.body? "MS" (SporkSection.mk signer entries).body = some signer := by
      rw [body_eq filled]
      refine (Section.body?_written (by decide) fun entry member => ?_).trans rfl
      exact (plain.free_bodies (by decide) (by decide) _ (List.mem_map_of_mem member)).clear
        (isTag_of_mem_tags _ (mem_tags (List.mem_map_of_mem member)))
    refine bind_eq_ok_iff.mpr ⟨entries, ?_, ?_⟩
    · rw [bodies_body plain filled]
      exact mapM_ofText fun _ member => plain.entry member
    · rw [signs]
      rfl

end SporkSection

end SuperblockGovernance

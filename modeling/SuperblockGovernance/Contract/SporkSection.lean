/-
The spork section of a contract: settings that won their vote, written one section
each under the key of the node that created the contract. A section without settings
has no signer and an empty body.
-/

import SuperblockGovernance.Failure
import SuperblockGovernance.Text.Decimal
import SuperblockGovernance.Text.Search

namespace SuperblockGovernance

/-- One setting. -/
structure SporkEntry where
  sporkType : String
  key : String
  value : String
  nonce : UInt32
  deriving DecidableEq

/-- The settings that a contract carries, and who signed them. -/
structure SporkSection where
  signer : String
  entries : List SporkEntry
  deriving DecidableEq

namespace SporkEntry

/-- The sections of one setting. -/
def toText (entry : SporkEntry) : String :=
  Section.wrap "SPORKTYPE" entry.sporkType ++ Section.wrap "SPORKKEY" entry.key ++
    Section.wrap "SPORKVAL" entry.value ++
    Section.wrap "NONCE" (String.ofList (Decimal.digits entry.nonce.toNat))

/-- Reads the body of a section that every setting has. -/
def field (tag text : String) : Except ValidationError String :=
  match Section.body? tag text with
  | some body => .ok body
  | none => .error (.missingSection tag)

/-- Reads one setting from sections in any order. -/
def ofText (text : String) : Except ValidationError SporkEntry := do
  let sporkType ← field "SPORKTYPE" text
  let key ← field "SPORKKEY" text
  let value ← field "SPORKVAL" text
  let nonce ← field "NONCE" text
  match Decimal.word32? nonce.toList with
  | some nonce => return ⟨sporkType, key, value, nonce⟩
  | none => .error (.nonCanonical "bad spork NONCE")

end SporkEntry

namespace SporkSection

/-- The section that a signer makes of some settings. -/
def signed (signer : String) (entries : List SporkEntry) : SporkSection :=
  if entries.isEmpty then ⟨"", []⟩ else ⟨signer, entries⟩

/-- The text of the section, empty without settings. -/
def body (sporks : SporkSection) : String :=
  if sporks.entries.isEmpty then ""
  else
    Section.wrap "MT" "SPORK2" ++ Section.wrap "MK" "" ++ Section.wrap "MV" "" ++
      Section.wrap "MS" sporks.signer ++
      String.join (sporks.entries.map fun entry => Section.wrap "SPORK" entry.toText)

/-! ### Reading -/

/-- The tag around each setting. -/
def tag : String := "SPORK"

/-- The body of the first setting, and the text after the first closing tag. The text goes on
there even when that tag stands before the setting. -/
def next? (text : List Char) : Option (String × List Char) := do
  let (found, _) ← Section.find? tag text
  let (_, after) ← Text.cutAt? (Section.closingTag tag) text
  return (String.ofList found, after)

theorem length_of_next? {text after : List Char} {found : String}
    (next : next? text = some (found, after)) : after.length < text.length := by
  unfold next? at next
  obtain ⟨_, _, rest⟩ := Option.bind_eq_some_iff.mp next
  obtain ⟨⟨before, after'⟩, cut, same⟩ := Option.bind_eq_some_iff.mp rest
  cases same
  have size := Text.length_of_cutAt? cut
  have positive : 0 < (Section.closingTag tag).length := by decide
  omega

/-- The bodies of the settings in a text, one after the other. -/
def bodies (text : List Char) : List String :=
  match next : next? text with
  | none => []
  | some (found, after) =>
    have := length_of_next? next
    found :: bodies after
termination_by text.length

/-- Reads the settings one after the other, and the signer. -/
def ofBody (body : String) : Except ValidationError SporkSection := do
  let entries ← (bodies body.toList).mapM SporkEntry.ofText
  return ⟨(Section.body? "MS" body).getD "", entries⟩

end SporkSection

end SuperblockGovernance

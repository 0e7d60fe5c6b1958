/-
Writing JSON: string literals, and objects whose members are numbers and strings. A
literal escapes the quote, the backslash and the controls; every other character stands
for itself. An object is written on one line, or with a member on each line.
-/

import SuperblockGovernance.Text.Decimal
import SuperblockGovernance.Octets.Hexadecimal

namespace SuperblockGovernance.Json

/-- A character inside a string literal. -/
def literalCharacter (character : Char) : List Char :=
  if character = '"' ∨ character = '\\' then ['\\', character]
  else if character.toNat = 8 then ['\\', 'b']
  else if character.toNat = 12 then ['\\', 'f']
  else if character = '\n' then ['\\', 'n']
  else if character = '\r' then ['\\', 'r']
  else if character = '\t' then ['\\', 't']
  else if character.toNat < 32 then
    ['\\', 'u', '0', '0', Hexadecimal.digit (character.toNat / 16),
      Hexadecimal.digit (character.toNat % 16)]
  else [character]

/-- A text as a string between quotes. -/
def literalCharacters (text : String) : List Char :=
  '"' :: text.toList.flatMap literalCharacter ++ ['"']

/-- The string literal of a text. -/
def literal (text : String) : String :=
  String.ofList (literalCharacters text)

/-- What the member of a written object may be. -/
inductive Scalar
  | number (value : Nat)
  | text (value : String)
  deriving DecidableEq

/-- The text of a scalar. -/
def Scalar.literal : Scalar → List Char
  | number value => Decimal.digits value
  | text value => literalCharacters value

/-- The members of an object, each with its name. -/
abbrev Members := List (String × Scalar)

/-- A member without blanks. -/
def memberText (member : String × Scalar) : List Char :=
  literalCharacters member.1 ++ ':' :: member.2.literal

/-- An object on one line, without blanks. -/
def objectText (members : Members) : List Char :=
  '\x7b' :: [','].intercalate (members.map memberText) ++ ['\x7d']

/-- A member on a line of its own. -/
def prettyMemberText (member : String × Scalar) : List Char :=
  "  ".toList ++ literalCharacters member.1 ++ ": ".toList ++ member.2.literal

/-- An object with each member on a line of its own, indented by two blanks. -/
def prettyObjectText (members : Members) : String :=
  let lines := ",\n".toList.intercalate (members.map prettyMemberText)
  String.ofList ("\x7b\n".toList ++ lines ++ "\n\x7d".toList)

end SuperblockGovernance.Json

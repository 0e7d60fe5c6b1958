/-
The text of a JSON document, on one line and without blanks. A number or string that was
read but denotes nothing is written as null.
-/

import SuperblockGovernance.Json.Value
import SuperblockGovernance.Json.Writer

namespace SuperblockGovernance.Json.Value

/-- The word for no value. -/
def nullCharacters : List Char :=
  "null".toList

mutual

/-- The characters of a document. -/
def characters : Value → List Char
  | null => nullCharacters
  | boolean value => (if value then "true" else "false").toList
  | number natural => (natural.map Decimal.digits).getD nullCharacters
  | string text => (text.map literalCharacters).getD nullCharacters
  | array elements => '[' :: [','].intercalate (elementCharacters elements) ++ [']']
  | object members => '\x7b' :: [','].intercalate (memberCharacters members) ++ ['\x7d']

/-- The texts of the elements of an array. -/
def elementCharacters : List Value → List (List Char)
  | [] => []
  | element :: elements => element.characters :: elementCharacters elements

/-- The texts of the members of an object. -/
def memberCharacters : List (Option String × Value) → List (List Char)
  | [] => []
  | (name, value) :: members =>
    (literalCharacters (name.getD "") ++ ':' :: value.characters) :: memberCharacters members

end

/-- The text of a document. -/
def toText (value : Value) : String :=
  String.ofList value.characters

end SuperblockGovernance.Json.Value

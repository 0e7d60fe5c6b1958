/-
JSON documents as trees. A document is read by a machine that takes one token at a
time and keeps the arrays and objects that are still open on a stack, so nesting has
no limit. Objects keep every member, in order and with repetitions.
-/

import SuperblockGovernance.Json.Token

namespace SuperblockGovernance.Json

/-- A document. Numbers and texts are kept as in their tokens. -/
inductive Value
  | null
  | boolean (value : Bool)
  | number (natural : Option Nat)
  | string (text : Option String)
  | array (elements : List Value)
  | object (members : List (Option String × Value))
  deriving Inhabited

/-- An array or object around the value being read, with what came before it in reverse. -/
inductive Frame
  | element (done : List Value)
  | member (done : List (Option String × Value)) (name : Option String)

/-- What may come next. -/
inductive Reading
  | expectValue (stack : List Frame)
  | openedArray (stack : List Frame)
  | openedObject (stack : List Frame)
  | expectName (done : List (Option String × Value)) (stack : List Frame)
  | expectColon (done : List (Option String × Value)) (name : Option String)
      (stack : List Frame)
  | afterElement (done : List Value) (stack : List Frame)
  | afterMember (done : List (Option String × Value)) (stack : List Frame)
  | finished (value : Value)

namespace Reading

/-- A value is complete; it belongs to what is open around it. -/
def complete (value : Value) : List Frame → Reading
  | [] => .finished value
  | .element done :: stack => .afterElement (value :: done) stack
  | .member done name :: stack => .afterMember ((name, value) :: done) stack

/-- A value starts with this token. -/
def start (stack : List Frame) : Token → Option Reading
  | .null => some (complete .null stack)
  | .boolean value => some (complete (.boolean value) stack)
  | .number natural => some (complete (.number natural) stack)
  | .string text => some (complete (.string text) stack)
  | .openArray => some (.openedArray stack)
  | .openObject => some (.openedObject stack)
  | _ => none

/-- Reads one token. -/
def step : Reading → Token → Option Reading
  | .expectValue stack, token => start stack token
  | .openedArray stack, .closeArray => some (complete (.array []) stack)
  | .openedArray stack, token => start (.element [] :: stack) token
  | .openedObject stack, .closeObject => some (complete (.object []) stack)
  | .openedObject stack, .string name => some (.expectColon [] name stack)
  | .expectName done stack, .string name => some (.expectColon done name stack)
  | .expectColon done name stack, .colon => some (.expectValue (.member done name :: stack))
  | .afterElement done stack, .comma => some (.expectValue (.element done :: stack))
  | .afterElement done stack, .closeArray => some (complete (.array done.reverse) stack)
  | .afterMember done stack, .comma => some (.expectName done stack)
  | .afterMember done stack, .closeObject => some (complete (.object done.reverse) stack)
  | _, _ => none

end Reading

namespace Value

/-- The document that the octets spell, blanks around it allowed. -/
def ofOctets? (octets : Octets) : Option Value := do
  let tokens ← tokens? octets
  match ← tokens.foldlM Reading.step (.expectValue []) with
  | .finished value => some value
  | _ => none

/-- The number below a bound that a value is. -/
def naturalBelow? (bound : Nat) : Value → Option Nat
  | .number (some natural) => if natural < bound then some natural else none
  | _ => none

/-- The text, if the value is one. -/
def text? : Value → Option String
  | .string text => text
  | _ => none

/-- The truth value, if the value is one. -/
def boolean? : Value → Option Bool
  | .boolean value => some value
  | _ => none

/-- A text or nothing: null counts as no text. -/
def optionalText? : Value → Option (Option String)
  | .null => some none
  | value => value.text?.map some

/-! ### Building documents -/

/-- The value for a natural number. -/
def ofNatural (natural : Nat) : Value :=
  .number (some natural)

/-- The value for a text. -/
def ofText (text : String) : Value :=
  .string (some text)

/-- The object with these members. -/
def ofMembers (members : List (String × Value)) : Value :=
  .object (members.map fun (name, value) => (some name, value))

end Value

end SuperblockGovernance.Json

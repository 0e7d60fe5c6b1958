/-
The form of a command line: options with a value, flags, at most one plain argument, and
subcommands. Words are read from the left. The value of an option may stand after an equals
sign or be the next word, in which case it is read when the next part of the line begins,
and after a double dash every word is plain.
-/

import SuperblockGovernance.Text.Search

namespace SuperblockGovernance.CommandLine

/-- Why a command line asks for nothing that can be run. -/
inductive UsageError
  | helpRequested
  | versionRequested
  /-- Nothing was given where at least a subcommand is needed. -/
  | nothingGiven
  | missingSubcommand
  | unknownSubcommand
  | unknownArgument
  /-- An option without its value. -/
  | missingValue
  /-- An option whose value cannot be read. -/
  | badValue
  /-- A flag with a value. -/
  | unneededValue
  | repeatedArgument
  | missingArgument
  deriving DecidableEq, Repr

/-- An option that takes a value. -/
structure ValueOption (α : Type) where
  name : String
  /-- Puts a value into the settings, if it can be read. -/
  read : String → α → Option α

/-- An option without a value. -/
structure Flag (α : Type) where
  name : String
  set : α → α

/-- What a command line may hold, where the words end up in settings of a type. -/
structure Grammar (α : Type) where
  options : List (ValueOption α) := []
  flags : List (Flag α) := []
  /-- The plain argument. -/
  argument : Option (String → α → α) := none
  subcommands : List String := []
  hasVersion : Bool := false

/-! ### Words -/

/-- The kinds of words on a command line. -/
inductive Word
  | doubleDash
  | long (name : String) (value : Option String)
  | short (letter : Char)
  | plain

/-- What a word is where options are expected. A dash alone is plain. -/
def Word.ofText (text : String) : Word :=
  match text.toList with
  | ['-', '-'] => doubleDash
  | '-' :: '-' :: rest =>
    match Text.cutOnce? '=' rest with
    | some (name, value) => long (String.ofList name) (some (String.ofList value))
    | none => long (String.ofList rest) none
  | '-' :: letter :: _ => short letter
  | _ => plain

/-! ### Reading -/

/-- How far a line has been read. -/
structure Progress (α : Type) where
  settings : α
  /-- The options and flags that were read. -/
  given : List String := []
  /-- An option that is not read yet, with its value if that has been seen. -/
  pending : Option (ValueOption α × Option String) := none
  argumentGiven : Bool := false
  /-- All further words are plain. -/
  plainOnly : Bool := false

namespace Progress

variable {α : Type}

/-- The next word is the value of an option. -/
def awaitsValue (progress : Progress α) : Bool :=
  progress.pending.any fun (_, value) => value.isNone

/-- Reads an option with its value, unless it was given before. -/
def readOption (progress : Progress α) (option : ValueOption α) (value : String) :
    Except UsageError (Progress α) :=
  if option.name ∈ progress.given then .error .repeatedArgument
  else
    match option.read value progress.settings with
    | none => .error .badValue
    | some settings =>
      .ok { progress with settings, given := option.name :: progress.given, pending := none }

/-- Reads the option that is pending. -/
def resolve (progress : Progress α) : Except UsageError (Progress α) :=
  match progress.pending with
  | none => .ok progress
  | some (_, none) => .error .missingValue
  | some (option, some value) => progress.readOption option value

/-- Sets a flag, which may be given once. -/
def readFlag (progress : Progress α) (flag : Flag α) : Except UsageError (Progress α) :=
  if flag.name ∈ progress.given then .error .repeatedArgument
  else
    .ok { progress with
      settings := flag.set progress.settings
      given := flag.name :: progress.given }

end Progress

namespace Grammar

variable {α : Type}

/-- A request for help or the version ends the reading, once the option before it is read. -/
def request (progress : Progress α) (value : Option String) (kind : UsageError) :
    Except UsageError (Progress α) := do
  if value.isSome then .error .unneededValue
  let _ ← progress.resolve
  .error kind

/-- Takes an option, whose value may be the next word. -/
def acceptOption (progress : Progress α) (option : ValueOption α) (value : Option String) :
    Except UsageError (Progress α) := do
  let progress ← progress.resolve
  match value with
  | some value => progress.readOption option value
  | none => return { progress with pending := some (option, none) }

/-- Takes a flag, which has no value. -/
def acceptFlag (progress : Progress α) (flag : Flag α) (value : Option String) :
    Except UsageError (Progress α) := do
  if value.isSome then .error .unneededValue
  (← progress.resolve).readFlag flag

/-- Takes a word that names an option or a flag in full. -/
def acceptLong (grammar : Grammar α) (progress : Progress α) (name : String)
    (value : Option String) : Except UsageError (Progress α) :=
  match grammar.options.find? fun option => option.name == name with
  | some option => acceptOption progress option value
  | none =>
    match grammar.flags.find? fun flag => flag.name == name with
    | some flag => acceptFlag progress flag value
    | none =>
      if name = "help" then request progress value .helpRequested
      else if name = "version" ∧ grammar.hasVersion then request progress value .versionRequested
      else .error .unknownArgument

/-- Takes a word of one letter, which asks for help or the version. -/
def acceptShort (grammar : Grammar α) (progress : Progress α) (letter : Char) :
    Except UsageError (Progress α) :=
  if letter = 'h' then request progress none .helpRequested
  else if letter = 'V' ∧ grammar.hasVersion then request progress none .versionRequested
  else .error .unknownArgument

/-- Why a plain word is not wanted. -/
def unwanted (grammar : Grammar α) (progress : Progress α) (word : String) : UsageError :=
  if grammar.subcommands.isEmpty then .unknownArgument
  else if progress.plainOnly ∧ word ∈ grammar.subcommands then .unknownArgument
  else .unknownSubcommand

/-- Takes a plain word: the argument, if there is one and it is not given yet. -/
def acceptPlain (grammar : Grammar α) (progress : Progress α) (word : String) :
    Except UsageError (Progress α) :=
  match grammar.argument, progress.argumentGiven with
  | some set, false => do
    let progress ← progress.resolve
    return { progress with settings := set word progress.settings, argumentGiven := true }
  | _, _ => .error (grammar.unwanted progress word)

/-- Reads a word that is no subcommand. -/
def accept (grammar : Grammar α) (progress : Progress α) (word : String) :
    Except UsageError (Progress α) :=
  if progress.plainOnly then grammar.acceptPlain progress word
  else
    match Word.ofText word with
    | .doubleDash => .ok { progress with plainOnly := true }
    | .long name value => grammar.acceptLong progress name value
    | .short letter => grammar.acceptShort progress letter
    | .plain =>
      match progress.pending with
      | some (option, none) => .ok { progress with pending := some (option, some word) }
      | _ => grammar.acceptPlain progress word

/-- Reads a line up to its end, or up to a subcommand, with the words after it. -/
def read (grammar : Grammar α) :
    Progress α → List String → Except UsageError (Progress α × Option (String × List String))
  | progress, [] => .ok (progress, none)
  | progress, word :: rest =>
    if ¬progress.plainOnly ∧ ¬progress.awaitsValue ∧ word ∈ grammar.subcommands then
      .ok (progress, some (word, rest))
    else do read grammar (← grammar.accept progress word) rest

/-- The settings of a line without subcommands. -/
def readAll (grammar : Grammar α) (settings : α) (words : List String) :
    Except UsageError α := do
  let (progress, _) ← grammar.read { settings } words
  return (← progress.resolve).settings

end Grammar

end SuperblockGovernance.CommandLine

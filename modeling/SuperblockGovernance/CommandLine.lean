/-
The commands of a node: what each prints, and how it fails. Failures are printed in the
form of their values.
-/

import SuperblockGovernance.CommandLine.Outline

namespace SuperblockGovernance

/-! ### Failures as values -/

/-- The failure as a programmer writes it down. -/
def ScalarError.shown : ScalarError → String
  | invalidAmount text => "InvalidAmount(" ++ Text.quoted text ++ ")"
  | invalidAddress text => "InvalidAddress(" ++ Text.quoted text ++ ")"

/-- A failure with its fields in the order they are declared. -/
def ValidationError.shown : ValidationError → String
  | missingSection tag => "MissingSection(" ++ Text.quoted tag ++ ")"
  | countMismatch addresses amounts =>
    "CountMismatch \x7b addresses: " ++ toString addresses ++ ", amounts: " ++ toString amounts ++
      " \x7d"
  | duplicateAddress address => "DuplicateAddress(" ++ Text.quoted address ++ ")"
  | scalar cause => "Primitive(" ++ cause.shown ++ ")"
  | nonCanonical reason => "NonCanonical(" ++ Text.quoted reason ++ ")"
  | notSuperblockHeight height => "NotSuperblockHeight(" ++ toString height ++ ")"
  | beyondHorizon height horizon =>
    "BeyondHorizon \x7b height: " ++ toString height ++ ", horizon: " ++ toString horizon ++ " \x7d"
  | malformedPayload reason => "MalformedPayload(" ++ Text.quoted reason ++ ")"
  | emptyContract => "EmptyContract"
  | belowMinimum total => "BelowMinimum \x7b total: " ++ toString total ++ " \x7d"

namespace CommandLine

/-- What a command leaves behind. -/
structure Outcome where
  code : UInt8 := 0
  stdout : String := ""
  stderr : String := ""
  deriving DecidableEq

/-- Lines, each with its end. -/
def printed (lines : List String) : String :=
  String.join (lines.map (· ++ "\n"))

namespace Command

/-- The settings in force, line by line. -/
def configLines (settings : Settings) : List String :=
  Outline.ofConfig settings.config ++ Outline.ofServiceRules settings.serviceRules

/-- The superblocks around a tip and the snapshot of the next one. -/
def scheduleLines (cadence : Cadence) (tip : Height) : List String :=
  let (last, next) := cadence.around tip
  ["last superblock: " ++ toString last,
    "next superblock: " ++ toString next,
    "snapshot for next: " ++ toString (cadence.previous next)]

/-- The fingerprint of a contract text, and what the contract pays. -/
def fingerprintLines (text : String) : Except ValidationError (List String) := do
  let contract ← Contract.ofText text
  return ["fingerprint: " ++ (Contract.textFingerprint text).toHex,
    "payees: " ++ toString contract.allocation.payouts.size ++ ", total: " ++
      toString contract.total]

/-- The document in a trigger and its fingerprint. -/
def triggerLines (hex : String) : Except ValidationError (List String) := do
  let payload ← TriggerPayload.ofHex hex
  return [Json.prettyObjectText payload.members,
    "fingerprint: " ++ payload.fingerprint.toHex]

/-- What a command prints. -/
def lines (settings : Settings) : Command → Except ValidationError (List String)
  | showConfig => .ok (configLines settings)
  | schedule tip => .ok (scheduleLines settings.config.cadence tip)
  | fingerprint contract => fingerprintLines contract
  | decodeTrigger hex => triggerLines hex

/-- Runs a command. -/
def run (settings : Settings) (command : Command) : Outcome :=
  match command.lines settings with
  | .ok lines => { stdout := printed lines }
  | .error cause => { code := 1, stderr := printed ["Error: " ++ cause.shown] }

end Command

end CommandLine

end SuperblockGovernance

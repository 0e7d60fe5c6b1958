/-
What the command line of a node sets: the governance options that come first and the
subcommand with its own arguments.
-/

import SuperblockGovernance.CommandLine.Grammar
import SuperblockGovernance.Config
import SuperblockGovernance.Services

namespace SuperblockGovernance.CommandLine

/-! ### Governance options -/

/-- What the options of a command line set. -/
structure Settings where
  config : Config := {}
  tickIntervalSecs : Option UInt64 := none

namespace Settings

/-- The seconds between forced ticks: those given or else five blocks in 64 bits, and at least
one. -/
def tickSecs (settings : Settings) : Nat :=
  max (settings.tickIntervalSecs.getD (5 * settings.config.targetSpacingSecs)).toNat 1

/-- The rules of the services under these settings. -/
def serviceRules (settings : Settings) : ServiceRules :=
  { tickInterval := .ofSeconds (UInt64.ofNat settings.tickSecs) }

end Settings

/-- Reads a 32-bit number; a sign may stand before it. -/
def word32? (text : String) : Option UInt32 := do
  let number ← Decimal.signed? text.toList
  if 0 ≤ number ∧ number < 2 ^ 32 then some (UInt32.ofNat number.toNat) else none

/-- Reads a 64-bit number; a plus sign may stand before it. -/
def word64? (text : String) : Option UInt64 := do
  let number ← Decimal.unsigned? text.toList
  if number < 2 ^ 64 then some (UInt64.ofNat number) else none

/-- An option whose value changes the configuration. -/
def configOption {ν : Type} (name : String) (read : String → Option ν)
    (set : Config → ν → Config) : ValueOption Settings where
  name := name
  read := fun text settings => (read text).map fun value =>
    { settings with config := set settings.config value }

/-- The options that set the rules of a network. -/
def governanceOptions : List (ValueOption Settings) :=
  [configOption "gsc-start-height" word32? fun config height =>
      { config with startHeight := height },
    configOption "gsc-cycle" word32? fun config blocks => { config with cycleLength := blocks },
    configOption "gsc-floor-height" word32? fun config height =>
      { config with floorHeight := height },
    configOption "gsc-quorum-percent" word32? fun config percent =>
      { config with quorumPercent := percent },
    configOption "gsc-quorum-minimum" word32? fun config votes =>
      { config with quorumMinimum := votes },
    configOption "gsc-min-payment" Amount.ofText? fun config amount =>
      { config with minPayment := amount },
    configOption "gsc-reserve" Amount.ofText? fun config amount =>
      { config with allocationReserve := amount },
    configOption "gsc-privilege-share" word64? fun config percent =>
      { config with privilegeSharePercent := percent },
    configOption "gsc-phase-activation" word32? fun config height =>
      { config with phaseActivationHeight := some height },
    configOption "target-spacing" word64? fun config seconds =>
      { config with targetSpacingSecs := seconds },
    { name := "gsc-tick-interval"
      read := fun text settings => (word64? text).map fun seconds =>
        { settings with tickIntervalSecs := some seconds } }]

/-- The flags that set the rules of a network. -/
def governanceFlags : List (Flag Settings) :=
  [{ name := "gsc-always-privileged"
     set := fun settings =>
      { settings with config := { settings.config with alwaysPrivileged := true } } }]

/-! ### Subcommands -/

/-- What the program is asked to do. -/
inductive Command
  | showConfig
  /-- Superblock heights around a tip. -/
  | schedule (tip : Height)
  /-- The fingerprint of a contract text. -/
  | fingerprint (contract : String)
  /-- The document in a trigger. -/
  | decodeTrigger (hex : String)
  deriving DecidableEq

/-- The option for the tip of a schedule. -/
def tipOption : ValueOption (Option Height) where
  name := "tip"
  read := fun text _ => (word32? text).map some

/-- A line that holds one plain argument. -/
def textGrammar : Grammar (Option String) :=
  { argument := some fun text _ => some text }

/-- A value that has to be given. -/
def required {α : Type} : Option α → Except UsageError α
  | some value => .ok value
  | none => .error .missingArgument

/-- Asks for help, also on a subcommand. -/
def helpOn (subcommands : List String) : List String → UsageError
  | [] => .helpRequested
  | name :: rest =>
    if name ∈ subcommands ∧ rest = [] then .helpRequested else .unknownSubcommand

/-- The command line up to the subcommand. -/
def nodeGrammar : Grammar Settings where
  options := governanceOptions
  flags := governanceFlags
  subcommands := ["show-config", "schedule", "fingerprint", "decode-trigger", "help"]
  hasVersion := true

/-- The subcommand of that name with its arguments. -/
def Command.read (name : String) (words : List String) : Except UsageError Command :=
  match name with
  | "show-config" => (({} : Grammar Unit).readAll () words).map fun _ => showConfig
  | "schedule" => do
    let tip ← ({ options := [tipOption] } : Grammar (Option Height)).readAll none words
    return schedule (← required tip)
  | "fingerprint" => do return fingerprint (← required (← textGrammar.readAll none words))
  | "decode-trigger" => do return decodeTrigger (← required (← textGrammar.readAll none words))
  | _ => .error (helpOn nodeGrammar.subcommands words)

/-- Reads a command line. The subcommand is read before the last option ahead of it. -/
def readLine (words : List String) : Except UsageError (Command × Settings) := do
  match ← nodeGrammar.read { settings := {} } words with
  | (progress, some (name, rest)) =>
    let command ← Command.read name rest
    return (command, (← progress.resolve).settings)
  | (progress, none) =>
    let progress ← progress.resolve
    .error (if progress.given.isEmpty then .nothingGiven else .missingSubcommand)

end SuperblockGovernance.CommandLine

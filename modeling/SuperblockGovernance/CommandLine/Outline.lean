/-
Settings written as an outline: a record opens with its name and a brace, each field stands
on lines of its own with four more blanks before it, and a comma ends each field.
-/

import SuperblockGovernance.CommandLine.Settings

namespace SuperblockGovernance.CommandLine.Outline

/-- The lines of a value. -/
abbrev Block := List String

/-- The lines with a comma after the last. -/
def ended : Block → Block
  | [] => []
  | [last] => [last ++ ","]
  | line :: rest => line :: ended rest

/-- The lines one level further in. -/
def indented (block : Block) : Block :=
  block.map ("    " ++ ·)

/-- A field of a record. -/
def field (name : String) : Block → Block
  | [] => []
  | first :: rest => indented (ended ((name ++ ": " ++ first) :: rest))

/-- A record with its fields between braces. -/
def record (name : String) (fields : List Block) : Block :=
  (name ++ " \x7b") :: fields.flatten ++ ["\x7d"]

/-- A whole number. -/
def number (value : Nat) : Block :=
  [toString value]

/-- A truth value. -/
def boolean (value : Bool) : Block :=
  [if value then "true" else "false"]

/-- A value that may be missing. -/
def optional {α : Type} (block : α → Block) : Option α → Block
  | none => ["None"]
  | some value => "Some(" :: indented (ended (block value)) ++ [")"]

/-- A duration of whole seconds. -/
def seconds (duration : Duration) : Block :=
  [toString (duration.nanoseconds / 10 ^ 9) ++ "s"]

/-! ### The settings of a node -/

/-- The rules for the settings that proposals ask for. -/
def ofSporkRules (rules : SporkRules) : Block :=
  record "SporkRules"
    [field "window_secs" (number rules.windowSecs.toNat),
      field "min_age_secs" (number rules.minAgeSecs.toNat),
      field "vote_percent" (number rules.votePercent.toNat)]

/-- The rules of a network. -/
def ofConfig (config : Config) : Block :=
  record "GovernanceConfig"
    [field "start_height" (number config.startHeight.toNat),
      field "cycle_length" (number config.cycleLength.toNat),
      field "floor_height" (number config.floorHeight.toNat),
      field "quorum_percent" (number config.quorumPercent.toNat),
      field "quorum_minimum" (number config.quorumMinimum.toNat),
      field "safety_margin_permille" (number config.safetyMarginPermille.toNat),
      field "min_payment" (number config.minPayment.toNat),
      field "allocation_reserve" (number config.allocationReserve.toNat),
      field "submit_rate_limit_secs" (number config.submitRateLimitSecs.toNat),
      field "privilege_share_percent" (number config.privilegeSharePercent.toNat),
      field "always_privileged" (boolean config.alwaysPrivileged),
      field "tick_modulus" (number config.tickModulus.toNat),
      field "max_no_votes_per_tick" (number config.maxNoVotesPerTick),
      field "max_delete_votes_per_tick" (number config.maxDeleteVotesPerTick),
      field "target_spacing_secs" (number config.targetSpacingSecs.toNat),
      field "max_tip_age_secs" (number config.maxTipAgeSecs.toNat),
      field "phase_activation_height"
        (optional (number ∘ UInt32.toNat) config.phaseActivationHeight),
      field "spork_rules" (ofSporkRules config.sporkRules)]

/-- The rules of delivery. -/
def ofDeliveryRules (rules : DeliveryRules) : Block :=
  record "RelayConfig"
    [field "initial_backoff" (seconds rules.initialWait),
      field "max_backoff" (seconds rules.greatestWait),
      field "max_attempts" (number rules.attempts)]

/-- The rules of the services. -/
def ofServiceRules (rules : ServiceRules) : Block :=
  record "ServiceConfig"
    [field "tick_interval" (seconds rules.tickInterval),
      field "spork_interval" (seconds rules.sporkInterval),
      field "relay" (ofDeliveryRules rules.delivery)]

end SuperblockGovernance.CommandLine.Outline

/-
The diagnostic calls that a node answers. A call names a method and gives parameters as a
JSON document; it is read as a request, and the engine's answer is written as a document
again. A failure of the engine is reported by its label and its message.
-/

import SuperblockGovernance.Engine.Blocks
import SuperblockGovernance.Engine.LocalContract
import SuperblockGovernance.Engine.Submitting
import SuperblockGovernance.Engine.Voting
import SuperblockGovernance.Json.Value

namespace SuperblockGovernance.Rpc

/-- Why a call has no result. -/
inductive Failure
  | methodNotFound
  | invalidParams
  | noTip
  | governance (cause : GovernanceError)
  deriving DecidableEq

namespace Failure

/-- The number that a failure is answered with. -/
def code : Failure → Int
  | methodNotFound => -32601
  | invalidParams => -32602
  | noTip | governance _ => -32000

/-- The text that a failure is answered with. -/
def message : Failure → String
  | methodNotFound => "Method not found"
  | invalidParams => "Invalid params"
  | noTip => "InvalidChain: no tip"
  | governance cause => cause.label ++ ": " ++ cause.message

end Failure

/-- What a call asks for. -/
inductive Request
  | contract (height : Height) (forCreation : Bool)
  | submitTrigger (hex : String)
  | voteForContract (height : Height) (text : String)
  | isTriggered (height : Height)
  | requiredQuorum (height : Height)
  | superblockHeights
  | prominence (height : Height)
  deriving DecidableEq

/-! ### Parameters -/

/-- The height that a parameter gives. -/
def height? (value : Json.Value) : Option Height :=
  (value.naturalBelow? (2 ^ 32)).map UInt32.ofNat

/-- The parameter at a place, or a default where it is null or missing. Without a list all are
missing. -/
def optionalAt {α : Type} (params : Json.Value) (place : Nat) (read : Json.Value → Option α)
    (default : α) : Except Failure α :=
  match params with
  | .null => .ok default
  | .array given =>
    match given[place]? with
    | none | some .null => .ok default
    | some value => (read value).elim (.error .invalidParams) .ok
  | _ => .error .invalidParams

/-- The only parameter. -/
def onlyParam {α : Type} (read : Json.Value → Option α) : Json.Value → Except Failure α
  | .array [value] => (read value).elim (.error .invalidParams) .ok
  | _ => .error .invalidParams

/-- The request that a call makes. -/
def Request.ofCall (method : String) (params : Json.Value) : Except Failure Request :=
  match method with
  | "gsc_getContract" => do
    let height ← optionalAt params 0 height? 0
    let forCreation ← optionalAt params 1 Json.Value.boolean? false
    return .contract height forCreation
  | "gsc_submitTrigger" => (onlyParam Json.Value.text? params).map .submitTrigger
  | "gsc_voteForContract" =>
    match params with
    | .array [height, text] =>
      match height? height, text.text? with
      | some height, some text => .ok (.voteForContract height text)
      | _, _ => .error .invalidParams
    | _ => .error .invalidParams
  | "gsc_isSuperblockTriggered" => (onlyParam height? params).map .isTriggered
  | "gsc_requiredQuorum" => (onlyParam height? params).map .requiredQuorum
  | "gsc_superblockHeights" => .ok .superblockHeights
  | "gsc_prominence" => (optionalAt params 0 height? 0).map .prominence
  | _ => .error .methodNotFound

/-! ### Results -/

open Json.Value (ofNatural ofText ofMembers)

/-- A total as amount text; totals past the greatest amount are shown as that. -/
def totalText (total : Nat) : String :=
  Amount.text (UInt64.ofNat (min total (2 ^ 64 - 1)))

/-- A contract with its fingerprint and total. -/
def contractDocument (contract : Contract) : Json.Value :=
  ofMembers [("contract", ofText contract.toText),
    ("fingerprint", ofText contract.fingerprint.toHex),
    ("total", ofText (totalText contract.total))]

/-- What a payee contributed and earns. -/
def entryDocument (address : PayoutAddress) (entry : AssessmentEntry) : Json.Value :=
  ofMembers [("address", ofText address.text),
    ("points", ofMembers (entry.points.entries.map fun (campaign, points) =>
      (campaign, ofText (toString points)))),
    ("prominence", ofText (toString entry.prominence)),
    ("amount", ofText entry.amount.text)]

/-- An assessment with the entries of all payees. -/
def assessmentDocument (assessment : Assessment) : Json.Value :=
  ofMembers [("target", ofNatural assessment.target.toNat),
    ("snapshot", ofNatural assessment.snapshot.toNat),
    ("budget", ofText assessment.budgetLimit.text),
    ("pool", ofText assessment.pool.text),
    ("entries", .array (assessment.entries.entries.map fun (address, entry) =>
      entryDocument address entry))]

/-- The last superblock and the next one. -/
def heightsDocument (last next : Height) : Json.Value :=
  ofMembers [("last", ofNatural last.toNat), ("next", ofNatural next.toNat)]

/-! ### Answers -/

variable {σ : Type} [Relay σ]

/-- Answers a request. -/
def answer (engine : Engine σ) (host : Host) :
    Request → Except Failure Json.Value × Engine σ
  | .contract height forCreation =>
    let (built, engine) := engine.buildContract host height forCreation
    ((built.map contractDocument).mapError (.governance ∘ .validation), engine)
  | .submitTrigger hex =>
    let (result, engine) := engine.submitTrigger host hex
    ((result.map fun id => ofText id.toHex).mapError .governance, engine)
  | .voteForContract height text =>
    let (result, engine) := engine.voteForContract host height text
    ((result.map fun _ => Json.Value.boolean true).mapError .governance, engine)
  | .isTriggered height => (.ok (.boolean (engine.isTriggered host height)), engine)
  | .requiredQuorum height => (.ok (ofNatural (engine.requiredQuorum host height)), engine)
  | .superblockHeights =>
    match engine.superblockHeights host with
    | some (last, next) => (.ok (heightsDocument last next), engine)
    | none => (.error .noTip, engine)
  | .prominence height =>
    let (result, engine) := engine.prominence host height
    ((result.map assessmentDocument).mapError (.governance ∘ .validation), engine)

/-- Answers a call. -/
def call (engine : Engine σ) (host : Host) (method : String) (params : Json.Value) :
    Except Failure Json.Value × Engine σ :=
  match Request.ofCall method params with
  | .error failure => (.error failure, engine)
  | .ok request => answer engine host request

end SuperblockGovernance.Rpc

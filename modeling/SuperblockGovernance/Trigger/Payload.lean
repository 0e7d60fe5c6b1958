/-
Trigger payloads: the JSON document `[["trigger", ...]]` in hexadecimal that carries a
contract over the relay. A payload keeps the section texts of the contract, so its
fingerprint is that of the contract. Reading takes the members of the object in any
order, or all of them as an array, passes over members it does not know, and refuses
documents that hold anything but one trigger.
-/

import SuperblockGovernance.Contract
import SuperblockGovernance.Json.Value
import SuperblockGovernance.Json.Writer

namespace SuperblockGovernance

/-- What a trigger says. The payouts are texts, which need not be valid. -/
structure TriggerPayload where
  eventHeight : Height
  startEpoch : Timestamp
  addresses : String
  amounts : String
  proposalHashes : String
  voteData : Option String := none
  sporkData : Option String := none
  price : Option String := none
  phase : Option String := none
  btcPrice : Option String := none
  bbpPrice : Option String := none
  objectType : UInt8
  deriving DecidableEq

namespace TriggerPayload

/-- The object type of superblock triggers. -/
def triggerType : UInt8 := 2

/-! ### From a contract -/

/-- A text, unless it is empty. -/
def nonEmpty (text : String) : Option String :=
  if text.isEmpty then none else some text

/-- The trigger of a contract for a height. The payouts have to come to at least one coin and at
most the budget limit. -/
def ofContract (contract : Contract) (height : Height) (startEpoch : Timestamp)
    (budgetLimit : Amount) : Except SubmitError TriggerPayload :=
  let total := contract.total
  if total < Amount.coin then .error (.validation (.belowMinimum total))
  else if budgetLimit.toNat < total then .error (.budget ⟨height, total, budgetLimit⟩)
  else
    .ok {
      eventHeight := height
      startEpoch
      addresses := contract.allocation.addressesText
      amounts := contract.allocation.amountsText
      proposalHashes :=
        if contract.proposals.isEmpty then contract.fingerprint.toHex
        else Text.joined "|" contract.proposals
      voteData := nonEmpty (Text.joined "|" contract.voteData)
      sporkData := contract.sporks.bind fun sporks => nonEmpty sporks.body
      price := contract.quote.map Quote.priceText
      phase := contract.quote.map Quote.phaseText
      btcPrice := contract.quote.map Quote.btcPriceText
      bbpPrice := contract.quote.map Quote.bbpPriceText
      objectType := triggerType }

/-! ### What a payload says -/

/-- The fingerprint of the texts as they are. -/
def fingerprint (payload : TriggerPayload) : Fingerprint :=
  .ofTexts payload.addresses payload.amounts (payload.phase.getD "")

/-- The payouts with the phase; the phase is read first. -/
def payouts (payload : TriggerPayload) : Except ValidationError Allocation := do
  let phase ← payload.phase.mapM fun text => Quote.readPhase text "bad qtphase"
  let allocation ← Allocation.ofTexts payload.addresses payload.amounts
  return allocation.withPhase phase

/-! ### Writing -/

/-- A member that is left out when it has no text. -/
def optionalMember (name : String) (text : Option String) : Json.Members :=
  (text.map fun value => (name, Json.Scalar.text value)).toList

/-- The members in the order they are written. -/
def members (payload : TriggerPayload) : Json.Members :=
  [("event_block_height", .number payload.eventHeight.toNat),
    ("start_epoch", .number payload.startEpoch.toNat),
    ("payment_addresses", .text payload.addresses),
    ("payment_amounts", .text payload.amounts),
    ("proposal_hashes", .text payload.proposalHashes)] ++
  optionalMember "vote_data" payload.voteData ++
  optionalMember "spork_data" payload.sporkData ++
  optionalMember "price" payload.price ++
  optionalMember "qtphase" payload.phase ++
  optionalMember "btcprice" payload.btcPrice ++
  optionalMember "bbpprice" payload.bbpPrice ++
  [("type", .number payload.objectType.toNat)]

/-- The document that holds the trigger alone. -/
def toJson (payload : TriggerPayload) : String :=
  String.ofList ("[[\"trigger\",".toList ++ Json.objectText payload.members ++ "]]".toList)

/-- The hexadecimal form of the document, which the relay carries. -/
def toHex (payload : TriggerPayload) : String :=
  Hexadecimal.encode (Octets.ofText payload.toJson)

/-! ### Reading -/

/-- The names of the members, in the order in which they are written. -/
def memberNames : List String :=
  ["event_block_height", "start_epoch", "payment_addresses", "payment_amounts",
    "proposal_hashes", "vote_data", "spork_data", "price", "qtphase", "btcprice", "bbpprice",
    "type"]

/-- A payload from the values of its members in order, each present or absent. A text may be
absent or null only where the payload may lack it. -/
def ofFields? : List (Option Json.Value) → Option TriggerPayload
  | [eventHeight, startEpoch, addresses, amounts, proposalHashes, voteData, sporkData, price,
      phase, btcPrice, bbpPrice, objectType] => do
    let optional (field : Option Json.Value) : Option (Option String) :=
      (field.getD .null).optionalText?
    return {
      eventHeight := UInt32.ofNat (← (← eventHeight).naturalBelow? (2 ^ 32))
      startEpoch := UInt64.ofNat (← (← startEpoch).naturalBelow? (2 ^ 64))
      addresses := ← (← addresses).text?
      amounts := ← (← amounts).text?
      proposalHashes := ← (← proposalHashes).text?
      voteData := ← optional voteData
      sporkData := ← optional sporkData
      price := ← optional price
      phase := ← optional phase
      btcPrice := ← optional btcPrice
      bbpPrice := ← optional bbpPrice
      objectType := UInt8.ofNat (← (← objectType).naturalBelow? (2 ^ 8)) }
  | _ => none

/-- The value of a member that comes at most once. -/
def member? (members : List (String × Json.Value)) (name : String) :
    Option (Option Json.Value) :=
  match members.filter fun member => member.1 == name with
  | [] => some none
  | [(_, value)] => some (some value)
  | _ => none

/-- Reads an object, or the array of all members in order. -/
def ofValue? : Json.Value → Option TriggerPayload
  | .object members => do
    let named ← members.mapM fun (name, value) => name.map fun text => (text, value)
    ofFields? (← memberNames.mapM (member? named))
  | .array elements => ofFields? (elements.map some)
  | _ => none

/-- Reads an entry of the document: a kind and a payload. -/
def entry? : Json.Value → Option (String × TriggerPayload)
  | .array [kind, payload] => do return (← kind.text?, ← ofValue? payload)
  | _ => none

/-- The entries of the outer array. -/
def entries? : Json.Value → Option (List (String × TriggerPayload))
  | .array elements => elements.mapM entry?
  | _ => none

/-- The payload in a document that holds one trigger. -/
def ofDocument (octets : Octets) : Except ValidationError TriggerPayload :=
  match (Json.Value.ofOctets? octets).bind entries? with
  | none => .error (.malformedPayload "json")
  | some [(kind, payload)] =>
    if kind = "trigger" ∧ payload.objectType = triggerType then .ok payload
    else
      .error (.malformedPayload
        ("unexpected object " ++ kind ++ " of type " ++ toString payload.objectType))
  | some _ => .error (.malformedPayload "expected one trigger")

/-- The payload in a hexadecimal document, blanks around it allowed. -/
def ofHex (text : String) : Except ValidationError TriggerPayload :=
  match Hexadecimal.decode (Octets.ofText (Text.trimmed text)) with
  | .error fault => .error (.malformedPayload ("hex: " ++ fault.message))
  | .ok octets => ofDocument octets

end TriggerPayload

end SuperblockGovernance

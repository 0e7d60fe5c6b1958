/-
Trigger payloads as texts. The document that a payload is written as holds one object with a
member for every field, those fields left out that have no text. It is read back as the same
payload: the texts through their escapes, the fields by their names, and the absent ones as
absent, an empty text being a text. So a trigger that was read and is relayed anew carries
the payload that was read. A payload that was made from a contract presents it: what the
contract lists is found in the payload.
-/

import SuperblockGovernance.Proofs.JsonTexts
import SuperblockGovernance.Trigger.Payload

namespace SuperblockGovernance

namespace TriggerPayload

open Json

/-! ### Fields and members -/

/-- A field that has a member in the document, or none. -/
abbrev Field := String × Option Scalar

/-- The members of the fields that have one. -/
def present (fields : List Field) : Members :=
  fields.flatMap fun field => (field.2.map fun value => (field.1, value)).toList

/-- The fields of a payload in the order of their members. -/
def fields (payload : TriggerPayload) : List Field :=
  [("event_block_height", some (.number payload.eventHeight.toNat)),
    ("start_epoch", some (.number payload.startEpoch.toNat)),
    ("payment_addresses", some (.text payload.addresses)),
    ("payment_amounts", some (.text payload.amounts)),
    ("proposal_hashes", some (.text payload.proposalHashes)),
    ("vote_data", payload.voteData.map .text),
    ("spork_data", payload.sporkData.map .text),
    ("price", payload.price.map .text),
    ("qtphase", payload.phase.map .text),
    ("btcprice", payload.btcPrice.map .text),
    ("bbpprice", payload.bbpPrice.map .text),
    ("type", some (.number payload.objectType.toNat))]

theorem members_eq (payload : TriggerPayload) : payload.members = present payload.fields := by
  simp [members, present, fields, optionalMember, Function.comp_def]

theorem memberNames_eq (payload : TriggerPayload) :
    memberNames = payload.fields.map Prod.fst := rfl

theorem mem_present_iff {fields : List Field} {name : String} {value : Scalar} :
    (name, value) ∈ present fields ↔ (name, some value) ∈ fields := by
  rw [present, List.mem_flatMap]
  constructor
  · rintro ⟨⟨other, held⟩, member, found⟩
    obtain ⟨_, rfl, same⟩ := Option.map_eq_some_iff.mp (Option.mem_toList.mp found)
    cases same
    exact member
  · exact fun member => ⟨(name, some value), member, List.mem_singleton_self _⟩

theorem present_cons (first : Field) (rest : List Field) :
    present (first :: rest) =
      (first.2.map fun value => (first.1, value)).toList ++ present rest :=
  List.flatMap_cons

/-- What is found under the name of a field is what the field holds. -/
theorem filter_present {fields : List Field} (distinct : (fields.map Prod.fst).Nodup)
    {field : Field} (member : field ∈ fields) :
    (present fields).filter (fun found => found.1 == field.1) =
      (field.2.map fun value => (field.1, value)).toList := by
  induction fields with
  | nil => cases member
  | cons first rest inductionHypothesis =>
    obtain ⟨outside, restDistinct⟩ := List.nodup_cons.mp distinct
    rw [present_cons, List.filter_append]
    -- The name stands in the first field or in the rest, but not in both.
    rcases List.mem_cons.mp member with rfl | inside
    · have others : (present rest).filter (fun found => found.1 == field.1) = [] := by
        refine List.filter_eq_nil_iff.mpr fun ⟨name, value⟩ found same => outside ?_
        rw [← eq_of_beq same]
        exact List.mem_map_of_mem (mem_present_iff.mp found)
      rw [others, List.append_nil]
      cases field.2 <;> simp
    · have differs : first.1 ≠ field.1 := fun same =>
        outside (same ▸ List.mem_map_of_mem inside)
      rw [inductionHypothesis restDistinct inside]
      cases first.2 <;> simp [differs]

/-! ### Reading the fields -/

/-- The values of the members, under their names. -/
def given (fields : List Field) : List (String × Value) :=
  (present fields).map fun member => (member.1, member.2.toValue)

/-- The values of the fields, present or absent. -/
def values (fields : List Field) : List (Option Value) :=
  fields.map fun field => field.2.map Scalar.toValue

theorem member?_given {fields : List Field} (distinct : (fields.map Prod.fst).Nodup)
    {field : Field} (member : field ∈ fields) :
    member? (given fields) field.1 = some (field.2.map Scalar.toValue) := by
  have found : (given fields).filter (fun member => member.1 == field.1) =
      (field.2.map fun value => (field.1, value.toValue)).toList := by
    rw [given, List.filter_map]
    show ((present fields).filter fun found => found.1 == field.1).map _ = _
    rw [filter_present distinct member]
    cases field.2 <;> rfl
  rw [member?, found]
  cases field.2 <;> rfl

theorem mapM_member? {fields : List Field} (distinct : (fields.map Prod.fst).Nodup) :
    (fields.map Prod.fst).mapM (member? (given fields)) = some (values fields) := by
  have part : ∀ chosen : List Field, (∀ field ∈ chosen, field ∈ fields) →
      (chosen.map Prod.fst).mapM (member? (given fields)) = some (values chosen) := by
    intro chosen inside
    induction chosen with
    | nil => rfl
    | cons first rest inductionHypothesis =>
      rw [List.map_cons, List.mapM_cons, member?_given distinct (inside first List.mem_cons_self),
        inductionHypothesis fun field member => inside field (List.mem_cons_of_mem _ member)]
      rfl
  exact part fields fun _ member => member

theorem ofFields?_values (payload : TriggerPayload) :
    ofFields? (values payload.fields) = some payload := by
  have optional : ∀ text : Option String,
      (((text.map Scalar.text).map Scalar.toValue).getD .null).optionalText? = some text := by
    rintro (_ | text) <;> rfl
  have height : (Value.ofNatural payload.eventHeight.toNat).naturalBelow? (2 ^ 32) =
    some payload.eventHeight.toNat := if_pos payload.eventHeight.toNat_lt
  have epoch : (Value.ofNatural payload.startEpoch.toNat).naturalBelow? (2 ^ 64) =
    some payload.startEpoch.toNat := if_pos payload.startEpoch.toNat_lt
  have type : (Value.ofNatural payload.objectType.toNat).naturalBelow? (2 ^ 8) =
    some payload.objectType.toNat := if_pos payload.objectType.toNat_lt
  simp only [values, fields, List.map_cons, List.map_nil, ofFields?, optional, Option.map_some,
    Scalar.toValue, Option.bind_eq_bind, Option.bind_some, height, epoch, type,
    UInt32.ofNat_toNat, UInt64.ofNat_toNat, UInt8.ofNat_toNat, Option.pure_def]
  rfl

/-- The object that a payload is written as is read as the payload. -/
theorem ofValue?_members (payload : TriggerPayload) :
    ofValue? (.object (payload.members.map memberValue)) = some payload := by
  have distinct : (payload.fields.map Prod.fst).Nodup := by
    rw [← memberNames_eq]
    decide
  have named : (payload.members.map memberValue).mapM
      (fun member => member.1.map fun text => (text, member.2)) = some (given payload.fields) := by
    rw [members_eq, given]
    induction present payload.fields with
    | nil => rfl
    | cons first rest inductionHypothesis =>
      rw [List.map_cons, List.mapM_cons, inductionHypothesis]
      rfl
  show (((payload.members.map memberValue).mapM fun (member : Option String × Value) =>
      member.1.map fun text => (text, member.2)).bind fun named =>
      (memberNames.mapM (member? named)).bind ofFields?) = _
  rw [named, Option.bind_some, memberNames_eq payload, mapM_member? distinct]
  exact ofFields?_values payload

/-! ### The document -/

/-- The tokens of the document that holds a payload. -/
def documentTokens (payload : TriggerPayload) : List Token :=
  .openArray :: (.openArray :: ([.string (some "trigger")] ++
    .comma :: objectTokens payload.members ++ [.closeArray]) ++ [.closeArray])

theorem opening_toList :
    "[[\"trigger\",".toList = '[' :: '[' :: (literalCharacters "trigger" ++ [',']) := by
  decide

theorem ofText_toJson (payload : TriggerPayload) :
    Octets.ofText payload.toJson =
      91 :: (91 :: (Octets.ofCharacters (literalCharacters "trigger") ++
        44 :: Octets.ofCharacters (objectText payload.members) ++ [93]) ++ [93]) := by
  have comma : String.utf8EncodeChar ',' = [44] := rfl
  have closing : Octets.ofCharacters "]]".toList = [93, 93] := rfl
  have bracket : String.utf8EncodeChar '[' = [91] := rfl
  unfold toJson
  rw [Octets.ofText_ofList, ← Octets.ofCharacters, opening_toList]
  simp only [Octets.ofCharacters_append, Octets.ofCharacters_cons, List.cons_append, comma,
    closing, bracket, List.append_assoc, List.nil_append]

theorem tokens?_toJson (payload : TriggerPayload) :
    tokens? (Octets.ofText payload.toJson) = some payload.documentTokens := by
  have pair := (reads_literal "trigger").join 44 rfl (reads_object payload.members)
  have entry := pair.enclose 91 93 rfl rfl
  rw [ofText_toJson]
  exact entry.tokens?_enclosed rfl rfl

/-- Around the value of an entry: what opens before it and closes after it. -/
theorem foldlM_document (kind : String) {tokens : List Token} {value : Value}
    (read : ∀ stack more, (tokens ++ more).foldlM Reading.step (.expectValue stack) =
      more.foldlM Reading.step (Reading.complete value stack)) :
    (.openArray :: (.openArray :: ([.string (some kind)] ++ .comma :: tokens ++ [.closeArray]) ++
        [.closeArray])).foldlM Reading.step (.expectValue []) =
      some (.finished (.array [.array [.ofText kind, value]])) := by
  have inner := read [.element [.ofText kind], .element []] [Token.closeArray, Token.closeArray]
  calc _ = (tokens ++ [Token.closeArray, Token.closeArray]).foldlM Reading.step
        (.expectValue [.element [.ofText kind], .element []]) := by
        simp only [List.append_assoc, List.cons_append, List.nil_append]
        rfl
    _ = _ := inner

/-- The document is read as the pair of its kind and the object. -/
theorem ofOctets?_toJson (payload : TriggerPayload) :
    Value.ofOctets? (Octets.ofText payload.toJson) =
      some (.array [.array [.ofText "trigger",
        .object (payload.members.map memberValue)]]) := by
  have read := foldlM_document "trigger" fun stack => foldlM_object stack payload.members
  rw [Value.ofOctets?, tokens?_toJson, Option.bind_eq_bind, Option.bind_some, documentTokens, read]
  rfl

theorem entries?_toJson (payload : TriggerPayload) :
    (Value.ofOctets? (Octets.ofText payload.toJson)).bind entries? =
      some [("trigger", payload)] := by
  rw [ofOctets?_toJson, Option.bind_some, entries?, List.mapM_cons, entry?, ofValue?_members]
  rfl

/-- A document is accepted when it holds one trigger, a payload of the trigger type. -/
theorem ofDocument_eq_ok_iff {octets : Octets} {payload : TriggerPayload} :
    ofDocument octets = .ok payload ↔
      (Value.ofOctets? octets).bind entries? = some [("trigger", payload)] ∧
        payload.objectType = triggerType := by
  rw [ofDocument]
  cases (Value.ofOctets? octets).bind entries? with
  | none => simp
  | some entries =>
    rcases entries with _ | ⟨⟨kind, found⟩, _ | ⟨other, more⟩⟩
    · simp
    · dsimp only
      split
      · rename_i typed
        simp only [Except.ok.injEq, Option.some.injEq, List.cons.injEq, Prod.mk.injEq, and_true]
        exact ⟨fun same => ⟨⟨typed.1, same⟩, same ▸ typed.2⟩, fun both => both.1.2⟩
      · rename_i untyped
        refine iff_of_false nofun ?_
        rintro ⟨same, typed⟩
        cases same
        exact untyped ⟨rfl, typed⟩
    · simp

theorem ofHex_eq_ok_iff {text : String} {payload : TriggerPayload} :
    ofHex text = .ok payload ↔
      ∃ octets, Hexadecimal.decode (Octets.ofText (Text.trimmed text)) = .ok octets ∧
        ofDocument octets = .ok payload := by
  rw [ofHex]
  cases Hexadecimal.decode (Octets.ofText (Text.trimmed text)) with
  | error fault => simp
  | ok octets => simp

/-- A payload of the trigger type is read from the text that it is written as. -/
theorem ofHex_toHex {payload : TriggerPayload} (typed : payload.objectType = triggerType) :
    ofHex payload.toHex = .ok payload := by
  rw [toHex, ofHex_encode]
  exact ofDocument_eq_ok_iff.mpr ⟨payload.entries?_toJson, typed⟩

/-- Only payloads of the trigger type are read. -/
theorem type_of_ofHex {text : String} {payload : TriggerPayload}
    (read : ofHex text = .ok payload) : payload.objectType = triggerType := by
  obtain ⟨octets, _, accepted⟩ := ofHex_eq_ok_iff.mp read
  exact (ofDocument_eq_ok_iff.mp accepted).2

/-! ### Payloads of contracts -/

/-- The payload presents a contract at a height: it carries the texts of the contract, whose total
is at least one coin and at most the limit. -/
structure Presents (payload : TriggerPayload) (contract : Contract) (height : Height)
    (limit : Amount) : Prop where
  target : payload.eventHeight = height
  typed : payload.objectType = triggerType
  addresses : payload.addresses = contract.allocation.addressesText
  amounts : payload.amounts = contract.allocation.amountsText
  phase : payload.phase = contract.quote.map Quote.phaseText
  least : Amount.coin ≤ contract.total
  most : contract.total ≤ limit.toNat

theorem presents_of_ofContract {contract : Contract} {height : Height} {epoch : Timestamp}
    {limit : Amount} {payload : TriggerPayload}
    (made : ofContract contract height epoch limit = .ok payload) :
    payload.Presents contract height limit := by
  unfold ofContract at made
  simp only at made
  split at made
  · cases made
  · rename_i least
    split at made
    · cases made
    · rename_i most
      cases made
      exact ⟨rfl, rfl, rfl, rfl, rfl, Nat.le_of_not_lt least, Nat.le_of_not_lt most⟩

end TriggerPayload

end SuperblockGovernance

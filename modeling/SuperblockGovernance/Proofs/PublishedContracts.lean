/-
The contract text that a node publishes. It is the contract that a tick of the node builds, but
the settings in it come from the names of proposals, which anyone may choose. Where neither
these nor the key of the signer open the section of market data, the text has the fingerprint
of the contract, so a vote for the text is the vote of a tick. Without any bracket in them the
text reads back as the contract. A setting that opens that section puts another phase before
the one of the contract, and then a node that votes for the text it published votes against
its own contract.
-/

import SuperblockGovernance.Proofs.ApprovedPayouts
import SuperblockGovernance.Proofs.ContractTexts
import SuperblockGovernance.Proofs.SporkWinners

namespace SuperblockGovernance

namespace Engine

variable {σ : Type} {engine : Engine σ} {hosts : Set Host} {host : Host}

/-! ### Settings -/

theorem sporks_assess (engine : Engine σ) (host : Host) (target : Height) :
    (engine.assess host target).2.sporks = engine.sporks := by
  obtain ⟨cache, same⟩ := exists_cache_assess engine host target
  rw [same]

theorem Deed.sporks [Relay σ] {names : ObjectId → Submission → Prop} {after : Engine σ}
    (deed : Deed names host engine after) :
    after.sporks = engine.sporks ∨ after.sporks = engine.currentSporks host := by
  cases deed with
  | assess target => exact Or.inl (sporks_assess engine host target)
  | refreshSporks => exact Or.inr rfl
  | castVote own known =>
    rw [Casting.step]
    split <;> exact Or.inl rfl
  | _ => exact Or.inl rfl

/-- The cached settings won at one of the hosts, or there are none. -/
def SporksWon (hosts : Set Host) (engine : Engine σ) : Prop :=
  engine.sporks = [] ∨ ∃ maker ∈ hosts, engine.sporks = engine.currentSporks maker

/-- The cached settings of an engine that is reached won at a host of the run. -/
theorem Reachable.sporksWon [Relay σ] (reached : Reachable hosts engine) :
    SporksWon hosts engine := by
  refine reached.invariant ?_ ?_ ?_
  · intro config relay
    exact Or.inl rfl
  · intro engine relay won
    exact won
  · intro maker member engine after _ deed won
    have rules : ∀ other, after.currentSporks other = engine.currentSporks other := by
      intro other
      rw [currentSporks, currentSporks, deed.config]
    rcases deed.sporks with same | fresh
    · rcases won with empty | ⟨other, within, cached⟩
      · exact Or.inl (same.trans empty)
      · exact Or.inr ⟨other, within, by rw [rules, same, cached]⟩
    · exact Or.inr ⟨maker, member, by rw [rules, fresh]⟩

/-- A setting that won is the name of a proposal of a spork type, cut at its first bar. -/
theorem exists_proposal_of_mem_currentSporks {maker : Host} {winner : WinningSpork}
    (won : winner ∈ engine.currentSporks maker) :
    ∃ since, ∃ proposal ∈ maker.proposalsSince since,
      winner.sporkType = proposal.expenseType ∧ proposal.expenseType ∈ Proposal.expenseTypes ∧
      proposal.name.toList = winner.key.toList ++ '|' :: winner.value.toList := by
  obtain ⟨proposal, sorted, found⟩ := List.mem_filterMap.mp won
  obtain ⟨given, passes⟩ := List.mem_filter.mp (List.mem_mergeSort.mp sorted)
  obtain ⟨⟨name, _⟩, _, _, sporkType⟩ := Proposal.setting?_eq_some_iff.mp found
  exact ⟨_, proposal, given, sporkType, (of_decide_eq_true passes).1, name⟩

/-- The texts in a published contract that others chose: the key of the signer, and the settings
that won. -/
def givenTexts (engine : Engine σ) (host : Host) : List String :=
  host.signerKey :: engine.sporks.flatMap fun winner => [winner.key, winner.value]

/-- Names without brackets give settings without brackets. -/
theorem bracket_notMem_givenTexts [Relay σ] (reached : Reachable hosts engine)
    (signer : '<' ∉ host.signerKey.toList)
    (names : ∀ maker ∈ hosts, ∀ since, ∀ proposal ∈ maker.proposalsSince since,
      '<' ∉ proposal.name.toList) :
    ∀ text ∈ engine.givenTexts host, '<' ∉ text.toList := by
  refine List.forall_mem_cons.mpr ⟨signer, fun text member => ?_⟩
  obtain ⟨winner, won, inside⟩ := List.mem_flatMap.mp member
  rcases reached.sporksWon with empty | ⟨maker, within, cached⟩
  · rw [empty] at won
    cases won
  · rw [cached] at won
    obtain ⟨since, proposal, given, _, _, name⟩ := exists_proposal_of_mem_currentSporks won
    have plain := names maker within since proposal given
    rw [name, List.mem_append, List.mem_cons, not_or, not_or] at plain
    rcases List.mem_cons.mp inside with rfl | value
    · exact plain.1
    · rw [List.mem_singleton.mp value]
      exact plain.2.2

/-- What holds of texts without brackets and of the given texts holds of all texts in the spork
section, as the types of settings are fixed. -/
theorem forall_mem_sporkTexts [Relay σ] (reached : Reachable hosts engine)
    {property : List Char → Prop} (plain : ∀ text, '<' ∉ text → property text)
    (given : ∀ text ∈ engine.givenTexts host, property text.toList) :
    ∀ text ∈ (SporkSection.ofWinners host.signerKey engine.sporks).texts,
      property text.toList := by
  obtain ⟨signer, settings⟩ := List.forall_mem_cons.mp given
  intro text member
  rcases SporkSection.mem_texts_ofWinners member with rfl | rfl | ⟨winner, won, inside⟩
  · exact plain _ List.not_mem_nil
  · exact signer
  rcases List.mem_cons.mp inside with rfl | chosen
  · rcases reached.sporksWon with empty | ⟨maker, _, cached⟩
    · rw [empty] at won
      cases won
    · rw [cached] at won
      obtain ⟨_, proposal, _, same, spork, _⟩ := exists_proposal_of_mem_currentSporks won
      have fixed : ∀ type ∈ Proposal.expenseTypes, '<' ∉ type.toList := by decide
      rw [same]
      exact plain _ (fixed _ spork)
  · exact settings text (List.mem_flatMap.mpr ⟨_, won, chosen⟩)

/-! ### The published contract -/

variable {height : Height} {contract : Contract}

/-- A contract for submission carries market data, with its phase, and sporks, and nothing else
beside the payouts. -/
theorem exists_quote_of_buildContract
    (built : (engine.buildContract host height true).1 = .ok contract) :
    ∃ quote, contract.quote = some quote ∧ contract.allocation.phase = some quote.phase ∧
      contract.sporks = some (.ofWinners host.signerKey engine.sporks) ∧
      contract.proposals = [] ∧ contract.voteData = [] := by
  rw [buildContract] at built
  split at built
  · cases built
  · rename_i target _
    cases built
    refine ⟨_, rfl, rfl, ?_, rfl, rfl⟩
    show some (SporkSection.ofWinners host.signerKey (engine.assess host target).2.sporks) = _
    rw [sporks_assess]

/-- No body in front of the market data opens that section, if no given text does. -/
theorem clear_of_buildContract [Relay σ] (reached : Reachable hosts engine)
    (built : (engine.buildContract host height true).1 = .ok contract)
    (unopened : ∀ text ∈ engine.givenTexts host,
      Text.Lacks (Section.openingTag "QTDATA") text.toList) :
    ∀ entry ∈ contract.sections, Section.Clear "QTDATA" entry := by
  obtain ⟨_, _, _, sporks, proposals, voteData⟩ := exists_quote_of_buildContract built
  have empty : Section.Free "QTDATA" (Text.joined "|" []).toList :=
    Section.free_of_notMem List.not_mem_nil
  refine Contract.clear_sections (by decide) (by decide) ?proposals ?voteData ?sporks
  case proposals =>
    rw [proposals]
    exact empty.clear (by decide)
  case voteData =>
    rw [voteData]
    exact empty.clear (by decide)
  case sporks =>
    intro section' held
    rw [sporks] at held
    cases held
    refine ⟨show Section.IsTag "SPORKS" by decide,
      fun same => absurd same (show "SPORKS" ≠ "QTDATA" by decide), fun _ => ?_⟩
    exact SporkSection.lacks_body (by decide) .opening (by decide)
      (forall_mem_sporkTexts reached (fun _ => Text.lacks_of_notMem) unopened)

theorem isWritable_of_buildContract [Relay σ] (reached : Reachable hosts engine)
    (built : (engine.buildContract host height true).1 = .ok contract)
    (plain : ∀ text ∈ engine.givenTexts host, '<' ∉ text.toList)
    (fits : ∀ amount ∈ contract.allocation.amounts, amount.rounded < 2 ^ 64) :
    contract.IsWritable := by
  obtain ⟨quote, quoted, phase, sporks, proposals, voteData⟩ := exists_quote_of_buildContract built
  have none : Contract.IsListed [] := ⟨nofun, nofun⟩
  refine ⟨?_, proposals ▸ none, voteData ▸ none, fun section' held => ?_, fits⟩
  · rw [phase, quoted]
    rfl
  · rw [sporks] at held
    cases held
    exact ⟨_, _, rfl, forall_mem_sporkTexts reached (fun _ plain => plain) plain⟩

/-- A published contract reads back as itself, unless it pays the greatest amount: this is rounded
to cents that 64 bits do not hold. -/
theorem ofText_published_iff [Relay σ] (reached : Reachable hosts engine)
    (built : (engine.buildContract host height true).1 = .ok contract)
    (plain : ∀ text ∈ engine.givenTexts host, '<' ∉ text.toList) :
    Contract.ofText contract.toText = .ok contract ↔
      ∀ amount ∈ contract.allocation.amounts, amount.toNat ≠ 2 ^ 64 - 1 := by
  constructor
  · intro success amount member greatest
    have fits := Contract.rounded_lt_of_ofText success amount member
    rw [Amount.rounded, Amount.nearestCents, greatest] at fits
    exact absurd fits (by decide)
  · intro smaller
    have whole : ∀ amount ∈ contract.allocation.amounts, amount.toNat % Amount.cent = 0 := by
      intro amount member
      obtain ⟨pair, inside, rfl⟩ := List.mem_map.mp member
      exact (isPayable_of_mem_contract reached built pair inside).resolve_right
        (smaller pair.2 member)
    have fits : ∀ amount ∈ contract.allocation.amounts, amount.rounded < 2 ^ 64 := by
      intro amount member
      rw [Amount.rounded_of_whole (whole amount member)]
      exact amount.toNat_lt
    rw [(isWritable_of_buildContract reached built plain fits).ofText_toText,
      Contract.rounded_of_whole whole]

/-! ### Votes for the published text -/

/-- The height that a tick builds its contract for stands for itself. -/
theorem VotingTick.resolved {force : Bool} {tip : ChainTip} {identity : Identity}
    {intents : List VoteIntent}
    (voting : engine.VotingTick host force tip identity contract intents) :
    engine.resolveHeight host (engine.config.cadence.around tip.height).2 =
      .ok (engine.config.cadence.around tip.height).2 := by
  obtain ⟨_, itself⟩ := resolveHeight_next (passGates_eq_ok_iff.mp voting.passed).1 rfl
  have built := voting.built
  rw [buildContract, itself] at built
  rw [itself]
  split
  · rfl
  · rename_i missing
    rw [if_neg missing] at built
    cases built

/-- A vote for a text with the fingerprint of the local contract casts the votes of a tick. -/
theorem VotingTick.voteForContract_eq [Relay σ] {force : Bool} {tip : ChainTip}
    {identity : Identity} {intents : List VoteIntent}
    (voting : engine.VotingTick host force tip identity contract intents) {text : String}
    {read : Contract} (readable : Contract.ofText text = .ok read)
    (same : Contract.textFingerprint text = contract.fingerprint) :
    (engine.voteForContract host (engine.config.cadence.around tip.height).2 text).2 =
      (engine.castVotes host identity intents).engine := by
  have accepted : engine.acceptContract host (engine.config.cadence.around tip.height).2 text =
      .ok (identity, (engine.config.cadence.around tip.height).2) := by
    rw [acceptContract, (passGates_eq_ok_iff.mp voting.passed).2.2.1, voting.resolved, readable]
    rfl
  rw [voteForContract, accepted, voting.intents_eq]
  show (engine.castVotes host identity (engine.plan host _ (Contract.textFingerprint text)
    identity).intents).engine = _
  rw [same]

/-! ### Forged market data -/

theorem ofWinners_cons (signer : String) (winner : WinningSpork) (others : List WinningSpork) :
    SporkSection.ofWinners signer (winner :: others) =
      ⟨signer, winner.entry 0 :: others.mapIdx fun place other => other.entry (place + 1)⟩ := by
  rw [SporkSection.ofWinners, List.mapIdx_cons]
  rfl

/-- A setting whose key is a section of market data puts this section before the one of the
contract. -/
theorem body?_forged {winner : WinningSpork} {others : List WinningSpork} {forged : Quote}
    (built : (engine.buildContract host height true).1 = .ok contract)
    (first : engine.sporks = winner :: others)
    (key : winner.key = Section.wrap "QTDATA" forged.toText)
    (signer : '<' ∉ host.signerKey.toList) (sporkType : '<' ∉ winner.sporkType.toList) :
    Section.body? "QTDATA" contract.toText = some forged.toText := by
  obtain ⟨_, _, _, held, proposals, voteData⟩ := exists_quote_of_buildContract built
  rw [first, ofWinners_cons] at held
  generalize others.mapIdx _ = rest at held
  have settings : (SporkSection.mk host.signerKey (winner.entry 0 :: rest)).entries =
      winner.entry 0 :: rest := rfl
  have isTag : Section.IsTag "QTDATA" := by decide
  obtain ⟨afterSporks, inContract⟩ :=
    Contract.exists_body?_sporks held proposals voteData isTag (by decide)
  obtain ⟨afterKey, inSporks⟩ :=
    SporkSection.exists_body?_key settings isTag (by decide) signer sporkType afterSporks
  rw [inContract, inSporks]
  show Section.body? "QTDATA" (winner.key ++ afterKey) = _
  rw [key]
  exact Section.body?_wrap_self isTag (forged.free_toText isTag (by decide)).closing

/-- The text then has the fingerprint of the same payouts with the phase of the setting. -/
theorem textFingerprint_forged {winner : WinningSpork} {others : List WinningSpork}
    {forged : Quote} (built : (engine.buildContract host height true).1 = .ok contract)
    (first : engine.sporks = winner :: others)
    (key : winner.key = Section.wrap "QTDATA" forged.toText)
    (signer : '<' ∉ host.signerKey.toList) (sporkType : '<' ∉ winner.sporkType.toList) :
    Contract.textFingerprint contract.toText = (contract.withQuote forged).fingerprint := by
  rw [Contract.textFingerprint, body?_forged built first key signer sporkType,
    contract.body?_payouts.1, contract.body?_payouts.2, Option.bind_some,
    forged.body?_toText (by decide)]
  rfl

end Engine

/-! ### Sample settings -/

namespace NamedSpork

/-- One spork proposal with this name has passed. -/
def host (name : String) : Host :=
  { VotingSample.host with
    proposalsSince := fun since =>
      [(⟨1, name, "SPORK", 827260, 10, 0⟩ : Proposal)].filter fun proposal =>
        since ≤ proposal.createdAt }

/-- The setting is selected, and a tick creates the trigger of the local contract. -/
def calls : List Call :=
  [.refreshSporks, .tick true]

/-- The engine after all calls on a chain where the proposal has this name. -/
def engine (name : String) : Engine CountingRelay :=
  calls.foldl (fun engine call => engine.perform (host name) call) VotingSample.fresh

theorem reachable (name : String) : Engine.Reachable {host name} (engine name) :=
  ⟨VotingSample.config, {}, Engine.run_of_calls (Set.mem_singleton _) VotingSample.fresh calls⟩

/-- A setting of the usual form. -/
def plain : String := "PRICE|1.50>"

/-- Market data with a phase that does not exist. -/
def forged : Quote := ⟨9, 0, 0, 0⟩

/-- A setting whose key is a section of market data. -/
def injected : String := Section.wrap "QTDATA" forged.toText ++ "|1"

/-- The setting that the forged name gives. -/
theorem sporks_injected : (engine injected).sporks =
    [⟨1, "SPORK", Section.wrap "QTDATA" forged.toText, "1"⟩] := by
  decide +kernel

theorem bracket_notMem_plain :
    ∀ text ∈ (engine plain).givenTexts (host plain), '<' ∉ text.toList := by
  refine Engine.bracket_notMem_givenTexts (reachable plain) (by decide) ?_
  intro maker member since proposal given
  obtain rfl := Set.mem_singleton_iff.mp member
  obtain rfl := List.mem_singleton.mp (List.mem_filter.mp given).1
  decide

end NamedSpork

/-! ### The text and the contract -/

namespace Engine

variable {σ : Type} {engine : Engine σ} {hosts : Set Host} {host : Host} {height : Height}
  {contract : Contract}

/-- The published text and the contract agree as far as no given text opens the section of market
data; a vote for the text is then the vote of a tick. Without brackets in the given texts, the text
reads back as the contract, unless that pays the greatest amount. -/
theorem published_text_agrees [Relay σ] (reached : Reachable hosts engine)
    (built : (engine.buildContract host height true).1 = .ok contract)
    (unopened : ∀ text ∈ engine.givenTexts host,
      Text.Lacks (Section.openingTag "QTDATA") text.toList) :
    (engine.contractText host height true).1 = .ok contract.toText ∧
      Contract.textFingerprint contract.toText = contract.fingerprint ∧
      ((∀ text ∈ engine.givenTexts host, '<' ∉ text.toList) →
        (Contract.ofText contract.toText = .ok contract ↔
          ∀ amount ∈ contract.allocation.amounts, amount.toNat ≠ 2 ^ 64 - 1)) ∧
      ∀ force tip identity intents read,
        engine.VotingTick host force tip identity contract intents →
          Contract.ofText contract.toText = .ok read →
          (engine.voteForContract host (engine.config.cadence.around tip.height).2
            contract.toText).2 = (engine.castVotes host identity intents).engine := by
  obtain ⟨quote, quoted, phase, _⟩ := exists_quote_of_buildContract built
  have fingerprint : Contract.textFingerprint contract.toText = contract.fingerprint := by
    refine Contract.textFingerprint_of_clear ?_ (clear_of_buildContract reached built unopened)
    rw [phase, quoted]
    rfl
  refine ⟨?_, fingerprint, ofText_published_iff reached built, ?_⟩
  · show (engine.buildContract host height true).1.map Contract.toText = _
    rw [built]
    rfl
  · intro force tip identity intents read voting readable
    exact voting.voteForContract_eq readable fingerprint

end Engine

open NamedSpork in
theorem sample_text_published :
    ∃ contract, ((engine plain).buildContract (host plain) 1300 true).1 = .ok contract ∧
      (engine plain).sporks ≠ [] ∧
      Contract.textFingerprint contract.toText = contract.fingerprint ∧
      Contract.ofText contract.toText = .ok contract := by
  have something : ((engine plain).buildContract (host plain) 1300 true).1.toOption.map
      (fun contract => contract.allocation.amounts.all fun amount => amount.toNat != 2 ^ 64 - 1) =
      some true := by
    decide +kernel
  obtain ⟨contract, some, smaller⟩ := Option.map_eq_some_iff.mp something
  have built := toOption_eq_some_iff.mp some
  obtain ⟨_, fingerprint, read, _⟩ := Engine.published_text_agrees (reachable plain) built
    fun text given => Text.lacks_of_notMem (bracket_notMem_plain text given)
  refine ⟨contract, built, by decide +kernel, fingerprint, (read bracket_notMem_plain).mpr ?_⟩
  intro amount member
  exact bne_iff_ne.mp (List.all_eq_true.mp smaller amount member)

open NamedSpork in
/-- A published text may have another fingerprint than the contract: a vote for the text is then a
rejection of the object that a tick approves. -/
theorem forged_phase_is_published :
    Engine.Reachable {host injected} (engine injected) ∧ ∃ contract,
      ((engine injected).buildContract (host injected) 1300 true).1 = .ok contract ∧
      Contract.textFingerprint contract.toText ≠ contract.fingerprint ∧
      ((engine injected).plan (host injected) 1300 contract.fingerprint ⟨1⟩).intents =
        [⟨1, .funding, .yes⟩] ∧
      ((engine injected).plan (host injected) 1300 (Contract.textFingerprint contract.toText)
        ⟨1⟩).intents = [⟨1, .funding, .no⟩] := by
  have plans : ((engine injected).buildContract (host injected) 1300 true).1.toOption.map
      (fun contract => ((contract.withQuote forged).fingerprint == contract.fingerprint,
        ((engine injected).plan (host injected) 1300 contract.fingerprint ⟨1⟩).intents,
        ((engine injected).plan (host injected) 1300 (contract.withQuote forged).fingerprint
          ⟨1⟩).intents)) = some (false, [⟨1, .funding, .yes⟩], [⟨1, .funding, .no⟩]) := by
    decide +kernel
  obtain ⟨contract, found, same⟩ := Option.map_eq_some_iff.mp plans
  have built := toOption_eq_some_iff.mp found
  have text := Engine.textFingerprint_forged built sporks_injected rfl (by decide) (by decide)
  refine ⟨reachable injected, contract, built, ?_, congrArg (·.2.1) same, ?_⟩
  · rw [text]
    exact beq_eq_false_iff_ne.mp (congrArg Prod.fst same)
  · rw [text]
    exact congrArg (·.2.2) same

end SuperblockGovernance

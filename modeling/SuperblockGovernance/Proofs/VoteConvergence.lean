/-
The vote that a ballot holds after any number of votes were received: the first among those
with the greatest timestamp, a vote held before counting as the first. So the order of
arrival and repetitions play no part, unless votes of one ballot tie at the greatest
timestamp and mean different outcomes: then the one that came first stays. Nodes that know
the same objects and receive the same votes, without such a tie, agree on every tally, on
what is triggered at every height, and on every coinbase.
-/

import Mathlib.Data.List.Induction
import SuperblockGovernance.Proofs.EngineRuns

namespace SuperblockGovernance

/-! ### The latest vote -/

namespace Vote

/-- The vote without its signature. -/
def unsigned (vote : Vote) : Vote :=
  { vote with signature := [] }

/-- What is held after one more vote. -/
def supersede (held : Option Vote) (vote : Vote) : Option Vote :=
  if held.all fun held => held.timestamp < vote.timestamp then some vote else held

/-- What is held after votes that came one after the other. -/
def latest? (votes : List Vote) : Option Vote :=
  votes.foldl supersede none

/-- The vote is the first among those with the greatest timestamp. -/
def IsLatest (vote : Vote) (votes : List Vote) : Prop :=
  ∃ before after, votes = before ++ vote :: after ∧
    (∀ earlier ∈ before, earlier.timestamp < vote.timestamp) ∧
    ∀ later ∈ after, later.timestamp ≤ vote.timestamp

variable {vote : Vote} {votes : List Vote}

theorem IsLatest.mem (latest : vote.IsLatest votes) : vote ∈ votes := by
  obtain ⟨before, after, rfl, _⟩ := latest
  exact List.mem_append_right before List.mem_cons_self

theorem IsLatest.le (latest : vote.IsLatest votes) :
    ∀ other ∈ votes, other.timestamp ≤ vote.timestamp := by
  obtain ⟨before, after, rfl, earlier, later⟩ := latest
  intro other member
  rcases List.mem_append.mp member with inside | inside
  · exact UInt64.le_of_lt (earlier other inside)
  rcases List.mem_cons.mp inside with same | inside
  · rw [same]
    exact UInt64.le_refl _
  · exact later other inside

theorem supersede_of_older {held : Option Vote}
    (older : ∀ other ∈ held, other.timestamp < vote.timestamp) :
    supersede held vote = some vote := by
  rw [supersede, if_pos]
  rw [Option.all_eq_true]
  exact fun other known => decide_eq_true (older other known)

theorem supersede_of_le {held : Vote} (late : vote.timestamp ≤ held.timestamp) :
    supersede (some held) vote = some held := by
  rw [supersede, Option.all_some, if_neg]
  rw [decide_eq_true_iff]
  exact UInt64.not_lt.mpr late

/-- A vote stays held while nothing later comes. -/
theorem foldl_supersede_of_le (later : ∀ other ∈ votes, other.timestamp ≤ vote.timestamp) :
    votes.foldl supersede (some vote) = some vote := by
  induction votes with
  | nil => rfl
  | cons other rest inductionHypothesis =>
    rw [List.foldl_cons, supersede_of_le (later other List.mem_cons_self)]
    exact inductionHypothesis fun other member => later other (List.mem_cons_of_mem _ member)

/-- What was held before counts as the first vote. -/
theorem foldl_supersede (held : Option Vote) (votes : List Vote) :
    votes.foldl supersede held = latest? (held.toList ++ votes) := by
  cases held <;> rfl

theorem exists_latest (first : Vote) (rest : List Vote) :
    ∃ vote, latest? (first :: rest) = some vote ∧ vote.IsLatest (first :: rest) := by
  induction rest using List.reverseRecOn with
  | nil => exact ⟨first, rfl, [], [], rfl, nofun, nofun⟩
  | append_singleton rest last inductionHypothesis =>
    obtain ⟨best, held, latest⟩ := inductionHypothesis
    have after : latest? (first :: (rest ++ [last])) = supersede (some best) last := by
      rw [← held, latest?, ← List.cons_append, List.foldl_append]
      rfl
    rw [after]
    by_cases newer : best.timestamp < last.timestamp
    · have older : ∀ other ∈ first :: rest, other.timestamp < last.timestamp := fun other member =>
        UInt64.lt_of_le_of_lt (latest.le other member) newer
      refine ⟨last, supersede_of_older ?_, first :: rest, [], rfl, older, nofun⟩
      rintro _ ⟨⟩
      exact newer
    · have late : last.timestamp ≤ best.timestamp := UInt64.not_lt.mp newer
      obtain ⟨before, others, split, earlier, later⟩ := latest
      refine ⟨best, supersede_of_le late, before, others ++ [last], ?_, earlier, ?_⟩
      · rw [← List.cons_append, split, List.append_assoc, List.cons_append]
      · intro other member
        rcases List.mem_append.mp member with inside | inside
        · exact later other inside
        · rw [List.mem_singleton.mp inside]
          exact late

/-- Of any votes, the first among those with the greatest timestamp is held in the end. -/
theorem latest?_eq_some_iff : latest? votes = some vote ↔ vote.IsLatest votes := by
  constructor
  · intro held
    cases votes with
    | nil => cases held
    | cons first rest =>
      obtain ⟨best, found, latest⟩ := exists_latest first rest
      rw [held] at found
      cases found
      exact latest
  · rintro ⟨before, after, rfl, earlier, later⟩
    have superseded : supersede (latest? before) vote = some vote := by
      refine supersede_of_older fun other known => ?_
      cases before with
      | nil => cases known
      | cons first rest =>
        obtain ⟨best, found, latest⟩ := exists_latest first rest
        rw [found] at known
        cases known
        exact earlier _ latest.mem
    rw [latest?, List.foldl_append, List.foldl_cons]
    show after.foldl supersede (supersede (latest? before) vote) = some vote
    rw [superseded]
    exact foldl_supersede_of_le later

theorem latest?_eq_none_iff : latest? votes = none ↔ votes = [] := by
  cases votes with
  | nil => exact iff_of_true rfl rfl
  | cons first rest =>
    obtain ⟨best, found, _⟩ := exists_latest first rest
    rw [found]
    exact iff_of_false nofun nofun

end Vote

/-! ### Votes in a store -/

namespace TriggerStore

variable {store : TriggerStore}

/-- The store after votes were recorded one after the other. -/
def recordVotes (store : TriggerStore) (votes : List Vote) : TriggerStore :=
  votes.foldl (fun store vote => (store.recordVote vote).2) store

theorem recordVotes_append (first second : List Vote) :
    store.recordVotes (first ++ second) = (store.recordVotes first).recordVotes second :=
  List.foldl_append

theorem get?_recordVote (vote : Vote) (ballot : Ballot) :
    (store.recordVote vote).2.votes.get? ballot =
      if ballot = vote.ballot then Vote.supersede (store.votes.get? ballot) vote
      else store.votes.get? ballot := by
  have decided : (store.recordVote vote).2.votes.get? vote.ballot =
      Vote.supersede (store.votes.get? vote.ballot) vote := by
    rw [recordVote, Vote.supersede]
    split
    · exact (SortedMap.get?_insert _ _ _ _).trans (if_pos rfl)
    · rfl
  split
  · rename_i same
    rw [same, decided]
  · rename_i differs
    rw [recordVote]
    split
    · exact (SortedMap.get?_insert _ _ _ _).trans (if_neg differs)
    · rfl

/-- A ballot holds the latest of its votes, the one held before being the first of them. -/
theorem get?_recordVotes (votes : List Vote) (ballot : Ballot) :
    (store.recordVotes votes).votes.get? ballot =
      Vote.latest? ((store.votes.get? ballot).toList ++
        votes.filter fun vote => vote.ballot = ballot) := by
  rw [← Vote.foldl_supersede]
  induction votes generalizing store with
  | nil => rfl
  | cons vote rest inductionHypothesis =>
    show ((store.recordVote vote).2.recordVotes rest).votes.get? ballot = _
    rw [inductionHypothesis, get?_recordVote]
    by_cases same : vote.ballot = ballot
    · rw [if_pos same.symm, List.filter_cons_of_pos (by simpa using same), List.foldl_cons]
    · rw [if_neg (Ne.symm same), List.filter_cons_of_neg (by simpa using same)]

theorem recordVotes_eq (votes : List Vote) :
    store.recordVotes votes = { store with votes := (store.recordVotes votes).votes } := by
  induction votes generalizing store with
  | nil => rfl
  | cons vote rest inductionHypothesis =>
    show (store.recordVote vote).2.recordVotes rest =
      { store with votes := ((store.recordVote vote).2.recordVotes rest).votes }
    rw [inductionHypothesis]
    rw [recordVote]
    split <;> rfl

/-! ### Two orders of arrival -/

/-- The vote decides its ballot: it is later than the vote held there, and none that comes is later
than it. -/
structure Decisive (store : TriggerStore) (votes : List Vote) (vote : Vote) : Prop where
  comes : vote ∈ votes
  newer : ∀ held, store.votes.get? vote.ballot = some held → held.timestamp < vote.timestamp
  latest : ∀ other ∈ votes, other.ballot = vote.ballot → other.timestamp ≤ vote.timestamp

/-- What a ballot holds in the end is what it held at first, or a decisive vote. -/
theorem held_or_decisive {votes : List Vote} {ballot : Ballot} {vote : Vote}
    (held : (store.recordVotes votes).votes.get? ballot = some vote) :
    (store.votes.get? ballot = some vote ∧
        ∀ other ∈ votes, other.ballot = ballot → other.timestamp ≤ vote.timestamp) ∨
      (vote.ballot = ballot ∧ store.Decisive votes vote) := by
  rw [get?_recordVotes, Vote.latest?_eq_some_iff] at held
  have cast : ∀ other ∈ votes, other.ballot = ballot → other.timestamp ≤ vote.timestamp :=
    fun other member same => held.le other (List.mem_append_right _
      (List.mem_filter.mpr ⟨member, decide_eq_true same⟩))
  cases before : store.votes.get? ballot with
  | none =>
    rw [before] at held
    obtain ⟨comes, own⟩ := List.mem_filter.mp held.mem
    have same : vote.ballot = ballot := of_decide_eq_true own
    refine Or.inr ⟨same, comes, fun other found => ?_, fun other member alike => ?_⟩
    · rw [same, before] at found
      cases found
    · exact cast other member (alike.trans same)
  | some first =>
    rw [before] at held
    obtain ⟨earlierVotes, after, split, earlier, later⟩ := held
    cases earlierVotes with
    | nil =>
      cases split
      exact Or.inl ⟨rfl, cast⟩
    | cons _ rest =>
      obtain ⟨rfl, inside⟩ := List.cons.inj split
      have comes : vote ∈ votes.filter fun vote => vote.ballot = ballot := by
        rw [show (votes.filter fun vote => vote.ballot = ballot) =
          rest ++ vote :: after from inside]
        exact List.mem_append_right rest List.mem_cons_self
      have same : vote.ballot = ballot := of_decide_eq_true (List.mem_filter.mp comes).2
      refine Or.inr ⟨same, (List.mem_filter.mp comes).1, fun other found => ?_,
        fun other member alike => cast other member (alike.trans same)⟩
      rw [same, before] at found
      cases found
      exact earlier first List.mem_cons_self

theorem recordVotes_eq_none_iff {votes : List Vote} {ballot : Ballot} :
    (store.recordVotes votes).votes.get? ballot = none ↔
      store.votes.get? ballot = none ∧ ∀ vote ∈ votes, vote.ballot ≠ ballot := by
  rw [get?_recordVotes, Vote.latest?_eq_none_iff, List.append_eq_nil_iff, List.filter_eq_nil_iff,
    Option.toList_eq_nil_iff]
  simp only [decide_eq_true_iff]

/-- A ballot without new votes holds what it held. -/
theorem get?_recordVotes_of_forall_ne {votes : List Vote} {ballot : Ballot}
    (others : ∀ vote ∈ votes, vote.ballot ≠ ballot) :
    (store.recordVotes votes).votes.get? ballot = store.votes.get? ballot := by
  have none : votes.filter (fun vote => vote.ballot = ballot) = [] :=
    List.filter_eq_nil_iff.mpr fun vote member same => others vote member (of_decide_eq_true same)
  rw [get?_recordVotes, none, List.append_nil]
  cases store.votes.get? ballot <;> rfl

/-- New votes that agree on a ballot decide its outcome, if they are later than the vote there. -/
theorem voteOf_recordVotes {votes : List Vote} {vote : Vote} (member : vote ∈ votes)
    (newer : ∀ held, store.votes.get? vote.ballot = some held → held.timestamp < vote.timestamp)
    (agreed : ∀ other ∈ votes, other.ballot = vote.ballot → other.outcome = vote.outcome) :
    (store.recordVotes votes).voteOf vote.voter vote.object vote.signal = some vote.outcome := by
  show ((store.recordVotes votes).votes.get? vote.ballot).map Vote.outcome = some vote.outcome
  cases found : (store.recordVotes votes).votes.get? vote.ballot with
  | none => exact absurd rfl ((recordVotes_eq_none_iff.mp found).2 vote member)
  | some held =>
    rcases held_or_decisive found with ⟨before, last⟩ | ⟨own, decisive⟩
    · exact absurd (newer held before) (UInt64.not_lt.mpr (last vote member rfl))
    · exact congrArg some (agreed held decisive.comes own)

theorem Decisive.of_mem_iff {first second : TriggerStore} (votes : first.votes = second.votes)
    {received reordered : List Vote} (same : ∀ vote, vote ∈ received ↔ vote ∈ reordered)
    {vote : Vote} (decisive : second.Decisive reordered vote) : first.Decisive received vote where
  comes := (same vote).mpr decisive.comes
  newer held found := decisive.newer held (votes ▸ found)
  latest other member := decisive.latest other ((same other).mp member)

/-- Stores that hold the same votes, and record the same votes in any order, end with votes under
each ballot that are alike in whatever its decisive votes agree on. -/
theorem recordVotes_agree {first second : TriggerStore} (votes : first.votes = second.votes)
    {received reordered : List Vote} (same : ∀ vote, vote ∈ received ↔ vote ∈ reordered)
    {α : Type} {view : Vote → α}
    (agreed : ∀ one other, first.Decisive received one → first.Decisive received other →
      one.ballot = other.ballot → view one = view other)
    (ballot : Ballot) :
    ((first.recordVotes received).votes.get? ballot).map view =
      ((second.recordVotes reordered).votes.get? ballot).map view := by
  have absent : (first.recordVotes received).votes.get? ballot = none ↔
      (second.recordVotes reordered).votes.get? ballot = none := by
    simp only [recordVotes_eq_none_iff, votes, same]
  cases one : (first.recordVotes received).votes.get? ballot with
  | none => rw [absent.mp one]
  | some vote =>
    cases other : (second.recordVotes reordered).votes.get? ballot with
    | none =>
      rw [absent.mpr other] at one
      cases one
    | some otherVote =>
      refine congrArg some ?_
      rcases held_or_decisive one with ⟨held, last⟩ | ⟨own, decisive⟩ <;>
        rcases held_or_decisive other with ⟨otherHeld, otherLast⟩ | ⟨otherOwn, otherDecisive⟩
      · rw [votes, otherHeld] at held
        cases held
        rfl
      · have newer := otherDecisive.newer vote (by rw [otherOwn, ← votes, held])
        have late := last otherVote ((same otherVote).mpr otherDecisive.comes) otherOwn
        exact absurd newer (UInt64.not_lt.mpr late)
      · have newer := decisive.newer otherVote (by rw [own, votes, otherHeld])
        have late := otherLast vote ((same vote).mp decisive.comes) own
        exact absurd newer (UInt64.not_lt.mpr late)
      · exact agreed vote otherVote decisive (otherDecisive.of_mem_iff votes same)
          (own.trans otherOwn.symm)

/-- Decisive votes of one ballot are as late as each other. -/
theorem Decisive.unsigned_eq {votes : List Vote} {vote rival : Vote}
    (decisive : store.Decisive votes vote) (rivalDecisive : store.Decisive votes rival)
    (own : vote.ballot = rival.ballot) (meant : vote.outcome = rival.outcome) :
    vote.unsigned = rival.unsigned := by
  have late : vote.timestamp = rival.timestamp :=
    UInt64.le_antisymm (rivalDecisive.latest vote decisive.comes own)
      (decisive.latest rival rivalDecisive.comes own.symm)
  obtain ⟨voter, object, signal, outcome, timestamp, signature⟩ := vote
  cases own
  cases meant
  cases late
  rfl

/-- Tallies count outcomes, so stores whose votes agree in ballot and outcome have the same. -/
theorem tally_congr {first second : TriggerStore}
    (alike : ∀ ballot, (first.votes.get? ballot).map Vote.outcome =
      (second.votes.get? ballot).map Vote.outcome) (object : ObjectId) (signal : VoteSignal) :
    first.tally object signal = second.tally object signal := by
  have outcomes : (first.votes.mapValues fun _ vote => vote.outcome) =
      second.votes.mapValues fun _ vote => vote.outcome := by
    refine SortedMap.eq_of_get? fun ballot => ?_
    rw [SortedMap.get?_mapValues, SortedMap.get?_mapValues]
    exact alike ballot
  have byOutcome : ∀ store : TriggerStore, store.tally object signal =
      ((store.votes.mapValues fun _ vote => vote.outcome).entries.filter fun entry =>
        entry.1.concerns object signal).foldl (fun tally entry => tally.count entry.2) {} := by
    intro store
    rw [tally, votesOn_eq_filter_entries, List.foldl_map]
    show _ = ((store.votes.entries.map _).filter _).foldl _ _
    rw [List.filter_map, List.foldl_map]
    rfl
  rw [byOutcome first, byOutcome second, outcomes]

end TriggerStore

/-! ### Nodes on one chain -/

/-- The hosts give the same answers about the identities, the budget and the payments of a
height. -/
structure Host.AgreesAt (height : Height) (first second : Host) : Prop where
  identities : first.validIdentityCount height = second.validIdentityCount height
  budget : first.budgetLimit height = second.budgetLimit height
  reward : first.blockReward height = second.blockReward height
  masternodes : first.masternodePayees height = second.masternodePayees height
  synced : first.governanceSynced = second.governanceSynced

namespace Engine

variable {σ τ : Type} {first : Engine σ} {second : Engine τ} {host other : Host} {height : Height}

/-- Coherent engines that store the same objects for a height and hold votes of the same
outcomes. -/
structure MatchesAt (height : Height) (first : Engine σ) (second : Engine τ) : Prop where
  config : first.config = second.config
  coherent : first.store.Coherent first.config.cadence
  otherCoherent : second.store.Coherent second.config.cadence
  objects : ∀ id object, object.targetHeight = height →
    (first.store.get? id = some object ↔ second.store.get? id = some object)
  outcomes : ∀ ballot, (first.store.votes.get? ballot).map Vote.outcome =
    (second.store.votes.get? ballot).map Vote.outcome

namespace MatchesAt

theorem candidatesAt_eq (alike : MatchesAt height first second) :
    first.candidatesAt height = second.candidatesAt height := by
  have stored : first.store.objectsAt height = second.store.objectsAt height :=
    alike.coherent.objectsAt_eq (alike.config ▸ alike.otherCoherent) alike.objects
  have candidates : ∀ object : TriggerObject,
      first.store.candidate object = second.store.candidate object := by
    intro object
    rw [TriggerStore.candidate, TriggerStore.candidate, TriggerStore.tally_congr alike.outcomes]
  rw [candidatesAt, candidatesAt, stored]
  exact List.map_congr_left fun object _ => candidates object

theorem winner?_eq (alike : MatchesAt height first second) (agrees : host.AgreesAt height other) :
    first.winner? host height = second.winner? other height := by
  simp only [winner?, requiredQuorum, alike.candidatesAt_eq, alike.config, agrees.identities,
    agrees.budget]

theorem triggered?_eq (alike : MatchesAt height first second)
    (agrees : host.AgreesAt height other) :
    first.triggered? host height = second.triggered? other height := by
  have winners := alike.winner?_eq agrees
  simp only [triggered?, winners, alike.config]
  cases won : second.winner? other height with
  | none => rfl
  | some winner =>
    have member : winner ∈ second.candidatesAt height := (Election.winner?_spec won).1
    obtain ⟨object, found, target, rfl⟩ := (mem_candidatesAt_iff alike.otherCoherent).mp member
    have lookup : first.store.get? (second.store.candidate object).id =
        second.store.get? (second.store.candidate object).id :=
      ((alike.objects object.id object target).mpr found).trans found.symm
    simp only [Option.bind_eq_bind, Option.bind_some, lookup]

theorem checkBlock_eq (alike : MatchesAt height first second)
    (agrees : host.AgreesAt height other) (coinbase : List CoinbaseOutput) :
    first.checkBlock host height coinbase = second.checkBlock other height coinbase := by
  have terms : first.paymentTerms host height = second.paymentTerms other height := by
    simp only [paymentTerms, alike.triggered?_eq agrees, alike.config, agrees.reward,
      agrees.budget, agrees.synced, agrees.masternodes]
  rw [checkBlock, checkBlock, terms]

end MatchesAt

/-! ### Votes that are received -/

/-- The engine after votes were received one after the other. -/
def receiveVotes (engine : Engine σ) (host : Host) (votes : List Vote) : Engine σ :=
  votes.foldl (fun engine vote => (engine.receiveVote host vote).2) engine

/-- Whether a vote is accepted does not depend on other votes. -/
theorem acceptVote_recordVote (engine : Engine σ) (host : Host) (recorded vote : Vote) :
    acceptVote { engine with store := (engine.store.recordVote recorded).2 } host vote =
      engine.acceptVote host vote := by
  have objects : (engine.store.recordVote recorded).2.get? = engine.store.get? := by
    rw [TriggerStore.recordVote]
    split <;> rfl
  rw [acceptVote, acceptVote, objects]

/-- Votes that are accepted are recorded, and nothing else changes. -/
theorem receiveVotes_eq {engine : Engine σ} {votes : List Vote}
    (accepted : ∀ vote ∈ votes, engine.acceptVote host vote = .ok ()) :
    engine.receiveVotes host votes = { engine with store := engine.store.recordVotes votes } := by
  induction votes generalizing engine with
  | nil => rfl
  | cons vote rest inductionHypothesis =>
    have recorded : (engine.receiveVote host vote).2 =
        { engine with store := (engine.store.recordVote vote).2 } := by
      rw [receiveVote, accepted vote List.mem_cons_self]
    show (engine.receiveVote host vote).2.receiveVotes host rest = _
    rw [recorded, inductionHypothesis]
    · rfl
    · intro next member
      rw [acceptVote_recordVote]
      exact accepted next (List.mem_cons_of_mem vote member)

/-- Votes that are accepted keep the store coherent and its objects as they are. -/
theorem coherent_receiveVotes {engine : Engine σ} {votes : List Vote}
    (coherent : engine.store.Coherent engine.config.cadence)
    (accepted : ∀ vote ∈ votes, engine.acceptVote host vote = .ok ()) :
    (engine.store.recordVotes votes).Coherent engine.config.cadence := by
  induction votes generalizing engine with
  | nil => exact coherent
  | cons vote rest inductionHypothesis =>
    obtain ⟨object, known, _⟩ := acceptVote_eq_ok_iff.mp (accepted vote List.mem_cons_self)
    refine @inductionHypothesis { engine with store := (engine.store.recordVote vote).2 }
      (coherent.recordVote ⟨object, known⟩) fun next member => ?_
    rw [acceptVote_recordVote]
    exact accepted next (List.mem_cons_of_mem vote member)

/-- Two nodes that hold the same votes, and accept the same votes in any order and number, end with
the same votes, up to what decisive votes of one ballot differ in. When these mean the same outcome,
the nodes agree on what every vote says and on every tally; when they are equal, on the votes
altogether. At a height for which the nodes know the same objects, they also agree on what is
triggered and on every coinbase. -/
theorem votes_converge [Relay σ] [Relay τ] {hosts others : Set Host}
    (reached : Reachable hosts first) (otherReached : Reachable others second)
    (config : first.config = second.config) (votes : first.store.votes = second.store.votes)
    {received reordered : List Vote} (same : ∀ vote, vote ∈ received ↔ vote ∈ reordered)
    (accepted : ∀ vote ∈ received, first.acceptVote host vote = .ok ())
    (otherAccepted : ∀ vote ∈ reordered, second.acceptVote other vote = .ok ())
    (agreed : ∀ vote rival, first.store.Decisive received vote →
      first.store.Decisive received rival → vote.ballot = rival.ballot →
      vote.outcome = rival.outcome) :
    let one := first.receiveVotes host received
    let two := second.receiveVotes other reordered
    (∀ ballot, (one.store.votes.get? ballot).map Vote.unsigned =
      (two.store.votes.get? ballot).map Vote.unsigned) ∧
    ((∀ vote rival, first.store.Decisive received vote → first.store.Decisive received rival →
        vote.ballot = rival.ballot → vote = rival) →
      one.store.votes = two.store.votes) ∧
    (∀ voter object signal, one.store.voteOf voter object signal =
      two.store.voteOf voter object signal) ∧
    (∀ object signal, one.store.tally object signal = two.store.tally object signal) ∧
    ∀ height, (∀ id object, object.targetHeight = height →
        (first.store.get? id = some object ↔ second.store.get? id = some object)) →
      ∀ viewer otherViewer : Host, viewer.AgreesAt height otherViewer →
        one.triggered? viewer height = two.triggered? otherViewer height ∧
        ∀ coinbase, one.checkBlock viewer height coinbase =
          two.checkBlock otherViewer height coinbase := by
  intro one two
  have oneIs : one = { first with store := first.store.recordVotes received } :=
    receiveVotes_eq accepted
  have twoIs : two = { second with store := second.store.recordVotes reordered } :=
    receiveVotes_eq otherAccepted
  have unsigned : ∀ ballot, (one.store.votes.get? ballot).map Vote.unsigned =
      (two.store.votes.get? ballot).map Vote.unsigned := by
    rw [oneIs, twoIs]
    refine TriggerStore.recordVotes_agree votes same fun vote rival decisive rivalDecisive own => ?_
    exact decisive.unsigned_eq rivalDecisive own (agreed vote rival decisive rivalDecisive own)
  have outcomes : ∀ ballot, (one.store.votes.get? ballot).map Vote.outcome =
      (two.store.votes.get? ballot).map Vote.outcome := by
    intro ballot
    have meant := congrArg (Option.map Vote.outcome) (unsigned ballot)
    rw [Option.map_map, Option.map_map] at meant
    exact meant
  refine ⟨unsigned, fun equal => ?_, fun voter object signal => outcomes ⟨object, signal, voter⟩,
    TriggerStore.tally_congr outcomes, fun height objects viewer otherViewer agrees => ?_⟩
  · rw [oneIs, twoIs]
    refine SortedMap.eq_of_get? fun ballot => ?_
    have alike := TriggerStore.recordVotes_agree votes same equal ballot
    rw [Option.map_id', Option.map_id'] at alike
    exact alike
  · have alike : MatchesAt height one two := by
      rw [oneIs, twoIs] at outcomes ⊢
      refine ⟨config, coherent_receiveVotes reached.coherent accepted,
        coherent_receiveVotes otherReached.coherent otherAccepted, fun id object target => ?_,
        outcomes⟩
      have stored : (first.store.recordVotes received).get? id = first.store.get? id := by
        rw [TriggerStore.recordVotes_eq]
        rfl
      have otherStored : (second.store.recordVotes reordered).get? id = second.store.get? id := by
        rw [TriggerStore.recordVotes_eq]
        rfl
      show (first.store.recordVotes received).get? id = some object ↔
        (second.store.recordVotes reordered).get? id = some object
      rw [stored, otherStored]
      exact objects id object target
    exact ⟨alike.triggered?_eq agrees, alike.checkBlock_eq agrees⟩

end Engine

/-! ### Votes that tie -/

namespace TiedRun

/-- A contract is submitted for the height 1300. -/
def calls : List Call :=
  [.submit 1300 SampleRun.contract]

/-- The engine after all calls. -/
def engine : Engine CountingRelay :=
  calls.foldl (fun engine call => engine.perform SampleRun.host call)
    { config := SampleRun.config, relay := {} }

theorem reachable_submitted : Engine.Reachable {SampleRun.host} engine :=
  ⟨SampleRun.config, {}, Engine.run_of_calls (Set.mem_singleton SampleRun.host) _ calls⟩

/-- Two approvals of the contract. -/
def approvals : List Vote :=
  [SampleRun.approval ⟨1⟩, SampleRun.approval ⟨2⟩]

/-- A vote of the second sanctuary against the contract, at the time of its approval. -/
def refusal : Vote :=
  { SampleRun.approval ⟨2⟩ with outcome := .no }

end TiedRun

/-- Of the two votes of the second sanctuary the first stays, so one node finds the contract
triggered and the other does not. -/
theorem tied_votes_diverge :
    let received := [SampleRun.approval ⟨1⟩, SampleRun.approval ⟨2⟩, TiedRun.refusal]
    let reordered := [SampleRun.approval ⟨1⟩, TiedRun.refusal, SampleRun.approval ⟨2⟩]
    Engine.Reachable {SampleRun.host} TiedRun.engine ∧ received.Perm reordered ∧
      (∀ vote ∈ received, TiedRun.engine.acceptVote SampleRun.host vote = .ok ()) ∧
      (TiedRun.engine.receiveVotes SampleRun.host received).isTriggered SampleRun.host 1300 =
        true ∧
      (TiedRun.engine.receiveVotes SampleRun.host reordered).isTriggered SampleRun.host 1300 =
        false := by
  refine ⟨TiedRun.reachable_submitted, .cons _ (.swap _ _ _), ?_, ?_, ?_⟩
  all_goals decide +kernel

/-- Without a tie, nodes agree also when votes come again. -/
theorem sample_votes_converge :
    let received := TiedRun.approvals
    let reordered := TiedRun.approvals ++ TiedRun.approvals.reverse
    (∀ vote, vote ∈ received ↔ vote ∈ reordered) ∧
      (TiedRun.engine.receiveVotes SampleRun.host received).triggered? SampleRun.host 1300 =
        (TiedRun.engine.receiveVotes SampleRun.host reordered).triggered? SampleRun.host 1300 := by
  intro received reordered
  have same : ∀ vote, vote ∈ received ↔ vote ∈ reordered := by
    intro vote
    simp [received, reordered]
  have accepted : ∀ vote ∈ received, TiedRun.engine.acceptVote SampleRun.host vote = .ok () := by
    decide +kernel
  have approving : ∀ vote ∈ received, vote.outcome = .yes := by decide
  obtain ⟨_, _, _, _, agree⟩ := Engine.votes_converge TiedRun.reachable_submitted
    TiedRun.reachable_submitted rfl rfl same accepted
    (fun vote member => accepted vote ((same vote).mpr member))
    fun vote rival decisive rivalDecisive _ =>
      (approving vote decisive.comes).trans (approving rival rivalDecisive.comes).symm
  exact ⟨same, (agree 1300 (fun _ _ _ => Iff.rfl) SampleRun.host SampleRun.host
    ⟨rfl, rfl, rfl, rfl, rfl⟩).1⟩

end SuperblockGovernance

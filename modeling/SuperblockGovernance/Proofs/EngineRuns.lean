/-
The runs of an engine. A run is any sequence of calls, each at a host of its own, with the
relay moving between them as it likes. Every deed of a call keeps the configuration, changes
the store only in the few ways a coherent store allows, and keeps no assessment but one that
was made at a host of the run. So these hold of every engine that a run reaches.
-/

import Mathlib.Data.Set.Insert
import SuperblockGovernance.Host.Fixture
import SuperblockGovernance.Proofs.EngineDeeds

namespace SuperblockGovernance

namespace Engine

variable {σ : Type}

/-! ### Runs -/

/-- One step of a run: a call at one of the hosts, or a move of the relay. -/
inductive Step [Relay σ] (hosts : Set Host) (engine : Engine σ) : Engine σ → Prop
  | call {host : Host} (member : host ∈ hosts) (call : Call) :
      Step hosts engine (engine.perform host call)
  | relay (relay : σ) : Step hosts engine { engine with relay }

/-- Any number of steps, one after the other. -/
abbrev Run [Relay σ] (hosts : Set Host) : Engine σ → Engine σ → Prop :=
  Relation.ReflTransGen (Step hosts)

/-- The engine comes from a run of one that knew nothing. -/
def Reachable [Relay σ] (hosts : Set Host) (engine : Engine σ) : Prop :=
  ∃ config relay, Run hosts { config, relay } engine

/-! ### What a call keeps -/

/-- The assessment for a target as it is kept when it is made now. -/
def assessmentAt (engine : Engine σ) (host : Host) (target : Height) : CachedAssessment :=
  ⟨target, host.seedAt (engine.snapshotFor target), engine.freshAssessment host target⟩

/-- The second engine may come from the first by calls at the hosts. -/
structure Follows (hosts : Set Host) (before after : Engine σ) : Prop where
  config : after.config = before.config
  changes : TriggerStore.Changes before.config.cadence before.store after.store
  cached : ∀ kept ∈ after.cache, kept ∈ before.cache ∨
    ∃ host ∈ hosts, ∃ target, kept = before.assessmentAt host target

theorem assessmentAt_of_config {first second : Engine σ} (same : first.config = second.config)
    (host : Host) (target : Height) :
    first.assessmentAt host target = second.assessmentAt host target := by
  simp only [assessmentAt, freshAssessment, snapshotFor, same]

namespace Follows

variable {hosts : Set Host} {first second third : Engine σ}

theorem refl (engine : Engine σ) : Follows hosts engine engine where
  config := rfl
  changes := .refl
  cached _ member := Or.inl member

theorem trans (one : Follows hosts first second) (other : Follows hosts second third) :
    Follows hosts first third where
  config := other.config.trans one.config
  changes := by
    have further := other.changes
    rw [one.config] at further
    exact one.changes.trans further
  cached kept member := by
    rcases other.cached kept member with before | ⟨host, within, target, same⟩
    · exact one.cached kept before
    · exact Or.inr
        ⟨host, within, target, same.trans (assessmentAt_of_config one.config host target)⟩

theorem coherent (follows : Follows hosts first second)
    (before : first.store.Coherent first.config.cadence) :
    second.store.Coherent second.config.cadence := by
  rw [follows.config]
  exact before.changes follows.changes

/-- The relay may move. -/
theorem of_relay (relay : σ) : Follows hosts first { first with relay } where
  config := rfl
  changes := .refl
  cached _ member := Or.inl member

end Follows

variable {hosts : Set Host} {host : Host} {engine after : Engine σ}
variable {names : ObjectId → Submission → Prop}

/-! ### Every run -/

theorem follows_assess (member : host ∈ hosts) (engine : Engine σ) (target : Height) :
    Follows hosts engine (engine.assess host target).2 := by
  rw [assess]
  cases engine.cached? target (host.seedAt (engine.snapshotFor target)) with
  | some assessment => exact .refl engine
  | none =>
    refine ⟨rfl, .refl, fun kept inside => Or.inr ⟨host, member, target, ?_⟩⟩
    cases inside
    rfl

theorem follows_deed [Relay σ] (member : host ∈ hosts) (deed : Deed names host engine after) :
    Follows hosts engine after where
  config := deed.config
  changes := deed.changes
  cached kept inside := by
    rcases deed.cache with same | ⟨target, rfl⟩
    · exact Or.inl (same ▸ inside)
    · exact (follows_assess member engine target).cached kept inside

theorem follows_deeds [Relay σ] (member : host ∈ hosts) (deeds : Deeds names host engine after) :
    Follows hosts engine after := by
  induction deeds with
  | refl => exact .refl engine
  | tail _ deed inductionHypothesis => exact inductionHypothesis.trans (follows_deed member deed)

/-- A run from a coherent engine follows from it. -/
theorem follows_of_run [Relay σ] {first last : Engine σ}
    (coherent : first.store.Coherent first.config.cadence) (run : Run hosts first last) :
    Follows hosts first last := by
  induction run with
  | refl => exact .refl first
  | tail _ step inductionHypothesis =>
    refine inductionHypothesis.trans ?_
    cases step with
    | call member call =>
      have coherent := inductionHypothesis.coherent coherent
      exact follows_deeds member (deeds_perform coherent call.names_any)
    | relay relay => exact .of_relay relay

/-- Every store that is reached is coherent. -/
theorem Reachable.coherent [Relay σ] (reached : Reachable hosts engine) :
    engine.store.Coherent engine.config.cadence := by
  obtain ⟨config, relay, run⟩ := reached
  exact (follows_of_run TriggerStore.coherent_empty run).coherent TriggerStore.coherent_empty

/-- What holds at first, and is kept by every deed of a coherent engine and by the moves of the
relay, holds of every engine that is reached. -/
theorem Reachable.invariant [Relay σ] {holds : Engine σ → Prop}
    (fresh : ∀ config relay, holds { config, relay })
    (moved : ∀ engine relay, holds engine → holds { engine with relay })
    (kept : ∀ host ∈ hosts, ∀ engine after, engine.store.Coherent engine.config.cadence →
      Deed AnyName host engine after → holds engine → holds after)
    (reached : Reachable hosts engine) : holds engine := by
  obtain ⟨config, relay, run⟩ := reached
  induction run with
  | refl => exact fresh config relay
  | tail before step inductionHypothesis =>
    have coherent := (follows_of_run TriggerStore.coherent_empty before).coherent
      TriggerStore.coherent_empty
    cases step with
    | relay relay => exact moved _ relay inductionHypothesis
    | call member call =>
      exact (deeds_perform coherent call.names_any).invariant (kept _ member) coherent
        inductionHypothesis

/-- An assessment that is kept was made at a host of the run. -/
theorem Reachable.cached [Relay σ] (reached : Reachable hosts engine) {kept : CachedAssessment}
    (member : kept ∈ engine.cache) :
    ∃ host ∈ hosts, ∃ target, kept = engine.assessmentAt host target := by
  obtain ⟨config, relay, run⟩ := reached
  have follows := follows_of_run TriggerStore.coherent_empty run
  rcases follows.cached kept member with before | ⟨host, within, target, same⟩
  · cases before
  · exact
      ⟨host, within, target, same.trans (assessmentAt_of_config follows.config.symm host target)⟩

/-- An assessment is one made at a host of the run or at this one, with the same block at the
snapshot. -/
theorem Reachable.assess_eq [Relay σ] (reached : Reachable hosts engine) (host : Host)
    (target : Height) :
    ∃ maker, (maker ∈ hosts ∨ maker = host) ∧
      maker.seedAt (engine.snapshotFor target) = host.seedAt (engine.snapshotFor target) ∧
      (engine.assess host target).1 = engine.freshAssessment maker target := by
  rw [assess]
  cases found : engine.cached? target (host.seedAt (engine.snapshotFor target)) with
  | none => exact ⟨host, Or.inr rfl, rfl, rfl⟩
  | some assessment =>
    rw [cached?, Option.map_eq_some_iff] at found
    obtain ⟨kept, held, rfl⟩ := found
    rw [Option.filter_eq_some_iff, decide_eq_true_iff] at held
    obtain ⟨member, sameTarget, sameSeed⟩ := held
    obtain ⟨maker, within, madeFor, rfl⟩ := reached.cached member
    obtain rfl : madeFor = target := sameTarget
    exact ⟨maker, Or.inl within, sameSeed, rfl⟩

/-- Calls made one after the other at a host are a run. -/
theorem run_of_calls [Relay σ] (member : host ∈ hosts) (engine : Engine σ) (calls : List Call) :
    Run hosts engine (calls.foldl (fun engine call => engine.perform host call) engine) := by
  induction calls generalizing engine with
  | nil => exact .refl
  | cons call rest inductionHypothesis =>
    exact .head (.call member call) (inductionHypothesis (engine.perform host call))

end Engine

/-! ### A sample run -/

/-- A relay that names objects by their number. -/
structure CountingRelay where
  taken : Nat := 0

instance : Relay CountingRelay where
  submitObject relay _ := (.ok (BitVec.ofNat 256 (relay.taken + 1)), ⟨relay.taken + 1⟩)
  relayVote relay _ := (.ok (), relay)

namespace SampleRun

/-- A network with superblocks every hundred blocks. -/
def config : Config := { startHeight := 1000, cycleLength := 100 }

/-- A chain of two identities in the middle of a cycle. -/
def host : Host :=
  ({ tip := some (HostFixture.tipAt 1250), identityCount := 2 } : HostFixture).host

/-- Who is paid two thirds. -/
def payee : PayoutAddress := ⟨"X", by decide⟩

/-- Who is paid one third. -/
def otherPayee : PayoutAddress := ⟨"Y", by decide⟩

/-- A contract for two payees. -/
def contract : Contract :=
  { allocation :=
      { payouts := .ofList [(payee, .coins 3330), (otherPayee, .coins 1665)] } }

/-- An approval of the first object. -/
def approval (voter : Identity) : Vote :=
  { voter, object := 1, signal := .funding, outcome := .yes, timestamp := 5, signature := [] }

/-- A contract is submitted for the height 1300 and approved by two sanctuaries. -/
def calls : List Call :=
  [.submit 1300 contract, .receiveVote (approval ⟨1⟩), .receiveVote (approval ⟨2⟩)]

/-- The engine after all calls. -/
def engine : Engine CountingRelay :=
  calls.foldl (fun engine call => engine.perform host call) { config, relay := {} }

theorem reachable : Engine.Reachable {host} engine :=
  ⟨config, {}, Engine.run_of_calls (Set.mem_singleton host) _ calls⟩

end SampleRun

end SuperblockGovernance

/-
The trigger objects and votes that a node knows. Objects are found by name and by target
height, each ballot holds the latest vote cast under it, and objects that were mined are
marked as confirmed. Submissions of this node are limited in rate.
-/

import SuperblockGovernance.Election
import SuperblockGovernance.Relay
import SuperblockGovernance.SortedMap

namespace SuperblockGovernance

/-- The objects and votes that a node knows, and which objects the chain confirmed. -/
structure TriggerStore where
  objects : SortedMap ObjectId TriggerObject := {}
  /-- The names of the objects for each target height. -/
  byHeight : SortedMap Height (SortedSet ObjectId) := {}
  votes : SortedMap Ballot Vote := {}
  confirmed : SortedSet ObjectId := {}
  /-- The time and the name of the last submission that the relay took. -/
  lastSubmission : Option (Timestamp × ObjectId) := none
  deriving DecidableEq

namespace TriggerStore

/-- The store of a new node. -/
def empty : TriggerStore := {}

/-! ### Objects -/

/-- The object with the name. -/
def get? (store : TriggerStore) (id : ObjectId) : Option TriggerObject :=
  store.objects.get? id

/-- The names of the objects for a height, in order. -/
def idsAt (store : TriggerStore) (height : Height) : List ObjectId :=
  ((store.byHeight.get? height).map SortedMap.keys).getD []

/-- The objects for a height, in the order of their names. -/
def objectsAt (store : TriggerStore) (height : Height) : List TriggerObject :=
  (store.idsAt height).filterMap store.get?

/-- All objects in the order of their names. -/
def allObjects (store : TriggerStore) : List TriggerObject :=
  store.objects.values

/-- The number of objects. -/
def size (store : TriggerStore) : Nat :=
  store.objects.size

/-- Takes an object in, unless one of that name is known; says whether it did. -/
def insert (store : TriggerStore) (object : TriggerObject) : Bool × TriggerStore :=
  if store.objects.contains object.id then (false, store)
  else
    (true, { store with
      objects := store.objects.insert object.id object
      byHeight := store.byHeight.alter object.targetHeight fun ids =>
        (ids.getD .empty).insert object.id () })

/-! ### Submission -/

/-- When the next submission is allowed. -/
def readyAt (store : TriggerStore) (rateLimitSecs : UInt64) : Option Nat :=
  store.lastSubmission.map fun (time, _) =>
    min (time.toNat + rateLimitSecs.toNat) (2 ^ 64 - 1)

/-- The seconds to wait, for a submission that comes too early. -/
def waitFor (store : TriggerStore) (rateLimitSecs : UInt64) (time : Timestamp) : Option Nat :=
  (store.readyAt rateLimitSecs).bind fun ready =>
    if time.toNat < ready then some (ready - time.toNat) else none

/-- Records a submission that the relay took under a name. -/
def recordSubmission (store : TriggerStore) (id : ObjectId) (submission : Submission)
    (payload : TriggerPayload) : TriggerStore :=
  let store := { store with lastSubmission := some (submission.creationTime, id) }
  (store.insert (.ofSubmission id submission payload)).2

/-- Hands a submission to the relay and takes the object in under the name it is given. -/
def submit {σ : Type} [Relay σ] (store : TriggerStore) (relay : σ) (rateLimitSecs : UInt64)
    (payload : TriggerPayload) (submission : Submission) :
    Except SubmitError ObjectId × TriggerStore × σ :=
  match store.waitFor rateLimitSecs submission.creationTime with
  | some seconds => (.error (.rateLimited seconds), store, relay)
  | none =>
    match Relay.submitObject relay submission with
    | (.error cause, relay) => (.error (.network cause), store, relay)
    | (.ok id, relay) => (.ok id, store.recordSubmission id submission payload, relay)

/-! ### Votes -/

/-- Holds a vote under its ballot, unless one as late is held there; says whether it did. -/
def recordVote (store : TriggerStore) (vote : Vote) : Bool × TriggerStore :=
  let superseded := (store.votes.get? vote.ballot).all fun held => held.timestamp < vote.timestamp
  if superseded then (true, { store with votes := store.votes.insert vote.ballot vote })
  else (false, store)

/-- Forgets a vote that is still held; says whether it was. -/
def retractVote (store : TriggerStore) (vote : Vote) : Bool × TriggerStore :=
  if store.votes.get? vote.ballot = some vote then
    (true, { store with votes := store.votes.erase vote.ballot })
  else (false, store)

/-- The votes on an object under a signal. They stand together in the order of ballots, from the
ballot of the least voter on. -/
def votesOn (store : TriggerStore) (object : ObjectId) (signal : VoteSignal) : List Vote :=
  ((store.votes.entriesFrom ⟨object, signal, ⟨0⟩⟩).takeWhile fun (ballot, _) =>
    ballot.object == object && ballot.signal == signal).map Prod.snd

/-- The votes on an object and signal, counted. -/
def tally (store : TriggerStore) (object : ObjectId) (signal : VoteSignal) : VoteTally :=
  (store.votesOn object signal).foldl (fun tally vote => tally.count vote.outcome) {}

/-- The outcome that a sanctuary's vote holds. -/
def voteOf (store : TriggerStore) (voter : Identity) (object : ObjectId) (signal : VoteSignal) :
    Option VoteOutcome :=
  (store.votes.get? ⟨object, signal, voter⟩).map Vote.outcome

/-- The candidate that an object is under the votes held. -/
def candidate (store : TriggerStore) (object : TriggerObject) : Candidate :=
  .ofObject object (store.tally object.id .funding)

/-! ### Forgetting -/

/-- The store without some objects and what belongs to them, the height index aside. -/
def dropObjects (store : TriggerStore) (dropped : ObjectId → Bool) : TriggerStore :=
  { store with
    objects := store.objects.filter fun id _ => !dropped id
    votes := store.votes.filter fun ballot _ => !dropped ballot.object
    confirmed := store.confirmed.filter fun id _ => !dropped id }

/-- The height index without one name; a height without objects is not listed. -/
def unlist (byHeight : SortedMap Height (SortedSet ObjectId)) (height : Height) (id : ObjectId) :
    SortedMap Height (SortedSet ObjectId) :=
  match byHeight.get? height with
  | none => byHeight
  | some ids =>
    let left := ids.erase id
    if left.isEmpty then byHeight.erase height else byHeight.insert height left

/-- Forgets an object with its votes and frees the rate limit if it was the last submission; says
whether the object was known. -/
def retractObject (store : TriggerStore) (id : ObjectId) : Bool × TriggerStore :=
  let store :=
    if store.lastSubmission.any fun (_, last) => last == id then
      { store with lastSubmission := none }
    else store
  match store.get? id with
  | none => (false, store)
  | some object =>
    (true, { store.dropObjects (· == id) with
      byHeight := unlist store.byHeight object.targetHeight id })

/-- The names listed for heights below a bound. -/
def idsBelow (store : TriggerStore) (height : Height) : List ObjectId :=
  (store.byHeight.filter fun listed _ => listed < height).values.flatMap SortedMap.keys

/-- Forgets the objects for heights below a bound, with their votes; says how many they were. -/
def prune (store : TriggerStore) (height : Height) : Nat × TriggerStore :=
  let ids := store.idsBelow height
  (ids.length, { store.dropObjects (ids.contains ·) with
    byHeight := store.byHeight.filter fun listed _ => height ≤ listed })

/-! ### Confirmation -/

/-- The names of the objects for a height that carry a fingerprint. -/
def matching (store : TriggerStore) (height : Height) (fingerprint : Fingerprint) :
    List ObjectId :=
  (store.idsAt height).filter fun id =>
    (store.get? id).any fun object => object.fingerprint == fingerprint

/-- Marks the objects for a height that carry a fingerprint as mined. -/
def confirm (store : TriggerStore) (height : Height) (fingerprint : Fingerprint) :
    List ObjectId × TriggerStore :=
  let ids := store.matching height fingerprint
  (ids, { store with
    confirmed := ids.foldl (fun confirmed id => confirmed.insert id ()) store.confirmed })

/-- The chain confirmed the object. -/
def isConfirmed (store : TriggerStore) (id : ObjectId) : Bool :=
  store.confirmed.contains id

end TriggerStore

end SuperblockGovernance

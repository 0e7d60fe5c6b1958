/-
Messages that were not delivered. A node records a vote or an object of its own when its relay
takes the message, which is then on the queue. The relay takes the oldest message off the queue
and delivers it, or drops it, and then the node forgets what the message announced. So whatever
a node records under its own identities has a message that is queued or was delivered: every
call queues what it records, and dropping a message forgets no less than the message announced.
A vote that was given up on is thus never among the votes that the next plan goes by.
-/

import SuperblockGovernance.Proofs.Confirmations
import SuperblockGovernance.Proofs.ReceivedObjects
import SuperblockGovernance.Proofs.VoteOrigins
import SuperblockGovernance.Proofs.WatchedRelays

namespace SuperblockGovernance

/-! ### Forgetting what a message announced -/

namespace TriggerStore

variable {store : TriggerStore}

theorem get?_retractVote_self (vote : Vote) :
    (store.retractVote vote).2.votes.get? vote.ballot ≠ some vote := by
  rw [retractVote]
  split
  · rw [SortedMap.get?_erase, if_pos rfl]
    exact (Option.some_ne_none vote).symm
  · rename_i other
    exact other

theorem get?_retractObject_self (id : ObjectId) : (store.retractObject id).2.get? id = none := by
  unfold retractObject
  extract_lets settled
  split
  · rename_i none
    exact none
  · refine Option.eq_none_iff_forall_ne_some.mpr fun object held => ?_
    have left : (settled.dropObjects (· == id)).get? id = some object := held
    exact absurd (get?_dropObjects.mp left).2 (by simp)

end TriggerStore

/-- Whose vote or object a message carries. -/
def GossipMessage.author : GossipMessage → Identity
  | .object _ submission => submission.submitter
  | .vote cast => cast.voter

/-- What the call hands in is from none of the identities. -/
def Call.IsForeign (own : Set Identity) : Call → Prop
  | .receiveObject _ submission => submission.submitter ∉ own
  | .receiveVote vote => vote.voter ∉ own
  | .receiveOctets octets => ∀ message rest,
    Wire.message.read octets = some (message, rest) → message.author ∉ own
  | _ => True

namespace Engine

variable {own : Set Identity} {host : Host} {engine first second third : Engine QueuedRelay}

theorem relay_retractMessage (engine : Engine QueuedRelay) (message : GossipMessage) :
    (engine.retractMessage message).relay = engine.relay := by
  cases message <;> rfl

/-- A vote that is still held is not the one that was forgotten. -/
theorem held_of_retractMessage (filed : engine.store.VotesFiled) {message : GossipMessage}
    {ballot : Ballot} {vote : Vote}
    (held : (engine.retractMessage message).store.votes.get? ballot = some vote) :
    engine.store.votes.get? ballot = some vote ∧ message ≠ .vote vote := by
  cases message with
  | object id submission => exact ⟨TriggerStore.held_of_retractObject held, nofun⟩
  | vote other =>
    have before := TriggerStore.held_of_retractVote held
    refine ⟨before, fun same => ?_⟩
    cases same
    exact TriggerStore.get?_retractVote_self vote (filed ballot vote before ▸ held)

theorem stored_of_retractMessage {message : GossipMessage} {id : ObjectId}
    {object : TriggerObject}
    (held : (engine.retractMessage message).store.get? id = some object) :
    engine.store.get? id = some object ∧ ∀ submission, message ≠ .object id submission := by
  cases message with
  | object other announced =>
    refine ⟨TriggerStore.get?_of_retractObject held, fun submission same => ?_⟩
    cases same
    exact absurd (held.symm.trans (TriggerStore.get?_retractObject_self id)) nofun
  | vote vote =>
    rw [retractMessage, retractVote, TriggerStore.get?, TriggerStore.objects_retractVote] at held
    refine ⟨held, fun submission same => ?_⟩
    cases same

/-! ### Calls queue what they record -/

/-- What was queued still is, and what is recorded under the identities was recorded before or is
queued. -/
structure Announces (own : Set Identity) (before after : Engine QueuedRelay) : Prop where
  queue : before.relay.queue <+: after.relay.queue
  votes : ∀ ballot vote, after.store.votes.get? ballot = some vote → vote.voter ∈ own →
    before.store.votes.get? ballot = some vote ∨ .vote vote ∈ after.relay.queue
  objects : ∀ id object, after.store.get? id = some object → object.submitter ∈ own →
    before.store.get? id = some object ∨ .object id object.submission ∈ after.relay.queue

namespace Announces

theorem trans (one : Announces own first second) (other : Announces own second third) :
    Announces own first third where
  queue := one.queue.trans other.queue
  votes ballot vote held member := by
    rcases other.votes ballot vote held member with before | queued
    · exact (one.votes ballot vote before member).imp_right (other.queue.subset ·)
    · exact Or.inr queued
  objects id object held member := by
    rcases other.objects id object held member with before | queued
    · exact (one.objects id object before member).imp_right (other.queue.subset ·)
    · exact Or.inr queued

/-- Nothing is recorded anew, and the queue is as it was. -/
theorem of_recorded (relay : second.relay = first.relay)
    (votes : ∀ ballot vote, second.store.votes.get? ballot = some vote → vote.voter ∈ own →
      first.store.votes.get? ballot = some vote)
    (objects : ∀ id object, second.store.get? id = some object → object.submitter ∈ own →
      first.store.get? id = some object) : Announces own first second where
  queue := relay ▸ List.prefix_refl _
  votes ballot vote held member := Or.inl (votes ballot vote held member)
  objects id object held member := Or.inl (objects id object held member)

theorem of_store (relay : second.relay = first.relay) (store : second.store = first.store) :
    Announces own first second := by
  refine of_recorded relay ?_ ?_
  · intro ballot vote held _
    exact store ▸ held
  · intro id object held _
    exact store ▸ held

theorem refl (engine : Engine QueuedRelay) : Announces own engine engine :=
  of_store rfl rfl

end Announces

theorem announces_submitPayload (engine : Engine QueuedRelay) (host : Host) (identity : Identity)
    (payload : TriggerPayload) :
    Announces own engine (engine.submitPayload host identity payload).2 := by
  rcases engine.submitPayload_cases host identity payload with
    ⟨_, _, kept⟩ | ⟨id, _, taken, recorded⟩
  · have queue : engine.relay.queue <+:
        (engine.submitPayload host identity payload).2.relay.queue := by
      rcases relay_submitPayload engine host identity payload with same | sent
      · exact same ▸ List.prefix_refl engine.relay.queue
      · rw [sent]
        exact QueuedRelay.queue_send _ _
    exact ⟨queue, fun _ _ held _ => Or.inl (kept ▸ held), fun _ _ held _ => Or.inl (kept ▸ held)⟩
  · have queue := (QueuedRelay.submitObject_eq_ok taken).2
    refine ⟨queue ▸ List.prefix_append _ _, fun ballot vote held _ => ?_,
      fun name object held _ => ?_⟩
    · rw [recorded, TriggerStore.recordSubmission, TriggerStore.votes_insert] at held
      exact Or.inl held
    · rw [recorded, TriggerStore.recordSubmission] at held
      rcases TriggerStore.get?_of_insert held with before | ⟨rfl, rfl⟩
      · exact Or.inl before
      · rw [queue]
        exact Or.inr (List.mem_append_right _ List.mem_cons_self)

/-- A vote is recorded only if it was queued. -/
theorem announces_castVote (engine : Engine QueuedRelay) (host : Host) (identity : Identity)
    (intent : VoteIntent) :
    Announces own engine (Casting.step host identity { engine } intent).engine := by
  have sent := QueuedRelay.queue_send engine.relay (.vote (host.signedVote identity intent))
  have relayed : Relay.relayVote engine.relay (host.signedVote identity intent) =
    engine.relay.send (.vote (host.signedVote identity intent)) := rfl
  rcases answer : engine.relay.send (.vote (host.signedVote identity intent)) with
    ⟨cause | _, relay⟩
  · rw [answer] at relayed sent
    simp only [Casting.step, relayed]
    exact ⟨sent, fun _ _ held _ => Or.inl held, fun _ _ held _ => Or.inl held⟩
  · have queue := QueuedRelay.send_eq_ok answer
    rw [answer] at relayed sent
    simp only [Casting.step, relayed]
    refine ⟨sent, fun ballot vote held _ => ?_, fun id object held _ => ?_⟩
    · rcases TriggerStore.held_of_recordVote held with before | ⟨rfl, _⟩
      · exact Or.inl before
      · exact Or.inr (queue ▸ List.mem_append_right _ List.mem_cons_self)
    · rw [TriggerStore.get?, TriggerStore.objects_recordVote] at held
      exact Or.inl held

theorem announces_castVotes (engine : Engine QueuedRelay) (host : Host) (identity : Identity)
    (intents : List VoteIntent) :
    Announces own engine (engine.castVotes host identity intents).engine :=
  castVotes_invariant (fun after => Announces own engine after)
    (fun before announced intent _ =>
      announced.trans (announces_castVote before host identity intent))
    (.refl engine)

theorem announces_act (engine : Engine QueuedRelay) (host : Host) (identity : Identity)
    (report : TickReport) (action : TickAction) :
    Announces own engine (engine.act host identity report action).2 := by
  cases action with
  | submit payload => exact announces_submitPayload engine host identity payload
  | vote intents =>
    rw [act]
    split <;> exact announces_castVotes engine host identity intents
  | rest => exact .refl engine

theorem announces_tick (engine : Engine QueuedRelay) (host : Host) (force : Bool) :
    Announces own engine (engine.tick host force).2 := by
  rcases gates : engine.passGates host force with outcome | ⟨tip, identity⟩
  · rw [tick, gates]
    exact .refl engine
  · obtain ⟨_, cache, kept⟩ := engine.decide_spec host tip.height identity
    have built : Announces own engine { engine with cache } := .of_store rfl rfl
    rw [tick_of_passGates gates, kept]
    exact built.trans (announces_act _ host identity _ _)

theorem announces_receiveObject (engine : Engine QueuedRelay) (host : Host) (id : ObjectId)
    {submission : Submission} (foreign : submission.submitter ∉ own) :
    Announces own engine (engine.receiveObject host id submission).2 := by
  rw [receiveObject]
  split
  · exact .refl engine
  · refine .of_recorded rfl (fun ballot vote held _ => ?_) fun name object held member => ?_
    · rwa [TriggerStore.votes_insert] at held
    · rcases TriggerStore.get?_of_insert held with before | ⟨rfl, _⟩
      · exact before
      · exact absurd member foreign

theorem announces_receiveVote (engine : Engine QueuedRelay) (host : Host) {vote : Vote}
    (foreign : vote.voter ∉ own) : Announces own engine (engine.receiveVote host vote).2 := by
  rw [receiveVote]
  split
  · exact .refl engine
  · refine .of_recorded rfl (fun ballot other held member => ?_) fun id object held _ => ?_
    · rcases TriggerStore.held_of_recordVote held with before | ⟨rfl, _⟩
      · exact before
      · exact absurd member foreign
    · rwa [TriggerStore.get?, TriggerStore.objects_recordVote] at held

theorem announces_receiveOctets (engine : Engine QueuedRelay) (host : Host) {octets : Octets}
    (foreign : ∀ message rest, Wire.message.read octets = some (message, rest) →
      message.author ∉ own) : Announces own engine (engine.receiveOctets host octets).2 := by
  rw [receiveOctets]
  split
  · exact .refl engine
  · rename_i message rest read
    have other := foreign message rest read
    cases message with
    | object id submission =>
      rw [receiveMessage]
      split
      · exact announces_receiveObject engine host id other
      · exact .refl engine
    | vote vote => exact announces_receiveVote engine host other

theorem announces_voteForContract (engine : Engine QueuedRelay) (host : Host) (height : Height)
    (text : String) : Announces own engine (engine.voteForContract host height text).2 := by
  rw [voteForContract]
  split
  · exact .refl engine
  · exact announces_castVotes engine host _ _

/-- A block marks objects and forgets old ones. -/
theorem announces_connectBlock (engine : Engine QueuedRelay) (host : Host) (height : Height)
    (coinbase : List CoinbaseOutput) :
    Announces own engine (engine.connectBlock host height coinbase) := by
  have relay : (engine.perform host (.connectBlock height coinbase)).relay = engine.relay :=
    relay_perform_of_quiet engine host trivial
  obtain ⟨confirmed, marked⟩ := engine.exists_confirmed_confirmPaid host height coinbase
  rcases engine.store_connectBlock host height coinbase with kept | ⟨bound, _, pruned⟩
  · rw [marked] at kept
    refine .of_recorded relay (fun ballot vote held _ => ?_) fun id object held _ => ?_
    · rwa [kept] at held
    · rwa [kept] at held
  · rw [marked] at pruned
    refine .of_recorded relay (fun ballot vote held _ => ?_) fun id object held _ => ?_
    · rw [pruned] at held
      exact TriggerStore.held_of_dropObjects held
    · rw [pruned] at held
      exact (TriggerStore.get?_dropObjects.mp held).1

theorem announces_submit (engine : Engine QueuedRelay) (host : Host) (height : Height)
    (contract : Contract) : Announces own engine (engine.submit host height contract).2 := by
  rcases engine.submit_cases host height contract with
    ⟨cause, refused⟩ | ⟨identity, payload, _, _, same⟩
  · rw [refused]
    exact .refl engine
  · rw [same]
    exact announces_submitPayload engine host identity payload

theorem announces_submitTrigger (engine : Engine QueuedRelay) (host : Host) (hex : String) :
    Announces own engine (engine.submitTrigger host hex).2 := by
  rcases engine.submitTrigger_cases host hex with
    ⟨cause, refused⟩ | ⟨identity, payload, _, same⟩
  · rw [refused]
    exact .refl engine
  · rw [same]
    exact announces_submitPayload engine host identity payload

/-- A call queues what it records under the identities, if it hands in nothing of theirs. -/
theorem announces_perform (engine : Engine QueuedRelay) (host : Host) {call : Call}
    (foreign : call.IsForeign own) : Announces own engine (engine.perform host call) := by
  cases call with
  | submit height contract => exact announces_submit engine host height contract
  | submitTrigger hex => exact announces_submitTrigger engine host hex
  | receiveObject id submission => exact announces_receiveObject engine host id foreign
  | receiveVote vote => exact announces_receiveVote engine host foreign
  | receiveOctets octets => exact announces_receiveOctets engine host foreign
  | voteForContract height text => exact announces_voteForContract engine host height text
  | tick force => exact announces_tick engine host force
  | connectBlock height coinbase => exact announces_connectBlock engine host height coinbase
  | retractVote vote =>
    refine .of_recorded rfl (fun _ _ held _ => TriggerStore.held_of_retractVote held) ?_
    intro id object held _
    rwa [perform, Engine.retractVote, TriggerStore.get?, TriggerStore.objects_retractVote] at held
  | retractObject id =>
    exact .of_recorded rfl (fun _ _ held _ => TriggerStore.held_of_retractObject held)
      fun _ _ held _ => TriggerStore.get?_of_retractObject held
  | refreshSporks => exact .of_store rfl rfl
  | assess target =>
    exact .of_store (relay_perform_of_quiet engine host trivial) (store_assess engine host target)
  | prominence height =>
    exact .of_store (relay_perform_of_quiet engine host trivial)
      (store_prominence engine host height)
  | buildContract height forCreation =>
    exact .of_store (relay_perform_of_quiet engine host trivial)
      (store_buildContract engine host height forCreation)

end Engine

/-- The engine with this left on its queue. -/
def Engine.withQueue (engine : Engine QueuedRelay) (queue : List GossipMessage) :
    Engine QueuedRelay :=
  { engine with relay := { engine.relay with queue } }

/-! ### Nodes with their relays -/

/-- An engine, and the messages that its relay delivered. -/
structure RelayingNode where
  engine : Engine QueuedRelay
  delivered : List GossipMessage := []

namespace RelayingNode

variable {hosts : Set Host} {node after : RelayingNode}

/-- The node once its engine has performed a call. -/
def perform (node : RelayingNode) (host : Host) (call : Call) : RelayingNode :=
  { node with engine := node.engine.perform host call }

/-- Takes the oldest message off the queue and delivers it. -/
def deliverNext (node : RelayingNode) : RelayingNode :=
  match node.engine.relay.queue with
  | [] => node
  | message :: rest =>
    { engine := node.engine.withQueue rest, delivered := node.delivered ++ [message] }

/-- Takes the oldest message off the queue and drops it; the engine forgets what it announced. -/
def dropNext (node : RelayingNode) : RelayingNode :=
  match node.engine.relay.queue with
  | [] => node
  | message :: rest =>
    { node with engine := (node.engine.withQueue rest).retractMessage message }

/-- The identities that a node acts under at the hosts. -/
def identities (hosts : Set Host) : Set Identity :=
  { identity | ∃ host ∈ hosts, host.localIdentity = some identity }

/-- One step of a node: a call at one of the hosts that hands in nothing of its own identities, or
a step of its relay. -/
inductive Step (hosts : Set Host) (node : RelayingNode) : RelayingNode → Prop
  | call {host : Host} (member : host ∈ hosts) {call : Call}
      (foreign : call.IsForeign (identities hosts)) : Step hosts node (node.perform host call)
  | deliver : Step hosts node node.deliverNext
  | drop : Step hosts node node.dropNext

/-- The node comes from one that knew nothing and had nothing on its queue. -/
def Reachable (hosts : Set Host) (node : RelayingNode) : Prop :=
  ∃ config closed,
    Relation.ReflTransGen (Step hosts) { engine := { config, relay := { closed } } } node

/-! ### What is recorded -/

/-- The message is on the queue, or it was delivered. -/
def Announced (node : RelayingNode) (message : GossipMessage) : Prop :=
  message ∈ node.engine.relay.queue ∨ message ∈ node.delivered

/-- The votes and objects that are recorded under the identities are announced. -/
structure Sound (own : Set Identity) (node : RelayingNode) : Prop where
  coherent : node.engine.store.Coherent node.engine.config.cadence
  votes : ∀ ballot vote, node.engine.store.votes.get? ballot = some vote → vote.voter ∈ own →
    node.Announced (.vote vote)
  objects : ∀ id object, node.engine.store.get? id = some object → object.submitter ∈ own →
    node.Announced (.object id object.submission)

variable {own : Set Identity} {host : Host} {call : Call}

theorem Sound.perform (sound : node.Sound own) (foreign : call.IsForeign own) :
    (node.perform host call).Sound own := by
  have announces := Engine.announces_perform node.engine host foreign
  have stays : ∀ message, node.Announced message → (node.perform host call).Announced message :=
    fun message => Or.imp_left (announces.queue.subset ·)
  refine ⟨(Engine.deeds_perform sound.coherent call.names_any).coherent sound.coherent, ?_, ?_⟩
  · intro ballot vote held member
    rcases announces.votes ballot vote held member with before | queued
    · exact stays _ (sound.votes ballot vote before member)
    · exact Or.inl queued
  · intro id object held member
    rcases announces.objects id object held member with before | queued
    · exact stays _ (sound.objects id object before member)
    · exact Or.inl queued

theorem Sound.deliverNext (sound : node.Sound own) : node.deliverNext.Sound own := by
  have stays : ∀ message, node.Announced message → node.deliverNext.Announced message := by
    intro message
    unfold RelayingNode.deliverNext
    split
    · exact id
    · rename_i next rest queue
      rw [Announced, queue]
      rintro (waiting | delivered)
      · rcases List.mem_cons.mp waiting with rfl | later
        · exact Or.inr (List.mem_append_right _ List.mem_cons_self)
        · exact Or.inl later
      · exact Or.inr (List.mem_append_left _ delivered)
  have same : node.deliverNext.engine.store = node.engine.store ∧
      node.deliverNext.engine.config = node.engine.config := by
    unfold RelayingNode.deliverNext
    split <;> exact ⟨rfl, rfl⟩
  refine ⟨?_, fun ballot vote held member => ?_, fun id object held member => ?_⟩
  · rw [same.1, same.2]
    exact sound.coherent
  · rw [same.1] at held
    exact stays _ (sound.votes ballot vote held member)
  · rw [same.1] at held
    exact stays _ (sound.objects id object held member)

/-- What is still recorded after a message was dropped is not what the message announced, so its
own message is still there. -/
theorem Sound.dropNext (sound : node.Sound own) : node.dropNext.Sound own := by
  unfold RelayingNode.dropNext
  split
  · exact sound
  · rename_i next rest queue
    have stays : ∀ message, node.Announced message → next ≠ message →
        Announced { node with engine := (node.engine.withQueue rest).retractMessage next }
          message := by
      intro message announced differs
      rw [Announced, queue] at announced
      rw [Announced, Engine.relay_retractMessage]
      exact announced.imp_left fun waiting =>
        (List.mem_cons.mp waiting).resolve_left (Ne.symm differs)
    have filed : (node.engine.withQueue rest).store.VotesFiled := sound.coherent.filed
    refine ⟨?_, fun ballot vote held member => ?_, fun id object held member => ?_⟩
    · cases next with
      | object id submission => exact sound.coherent.retractObject id
      | vote vote => exact sound.coherent.retractVote vote
    · obtain ⟨before, differs⟩ := Engine.held_of_retractMessage filed held
      exact stays _ (sound.votes ballot vote before member) differs
    · obtain ⟨before, differs⟩ := Engine.stored_of_retractMessage held
      exact stays _ (sound.objects id object before member) (differs _)

theorem Reachable.sound (reached : Reachable hosts node) : node.Sound (identities hosts) := by
  obtain ⟨config, closed, run⟩ := reached
  induction run with
  | refl => exact ⟨TriggerStore.coherent_empty, nofun, nofun⟩
  | tail _ step inductionHypothesis =>
    cases step with
    | call member foreign => exact inductionHypothesis.perform foreign
    | deliver => exact inductionHypothesis.deliverNext
    | drop => exact inductionHypothesis.dropNext

/-- In every state of a node, each vote of its own that is held has its message on the queue or
among those delivered, and so has each object of its own that is stored. So when a plan takes a
vote for cast, that vote was not given up on. -/
theorem recorded_is_announced (reached : Reachable hosts node) :
    (∀ ballot vote, node.engine.store.votes.get? ballot = some vote →
      vote.voter ∈ identities hosts → node.Announced (.vote vote)) ∧
    (∀ id object, node.engine.store.get? id = some object →
      object.submitter ∈ identities hosts → node.Announced (.object id object.submission)) ∧
    ∀ identity ∈ identities hosts, ∀ object signal outcome,
      node.engine.store.voteOf identity object signal = some outcome →
        ∃ vote, vote.voter = identity ∧ vote.object = object ∧ vote.signal = signal ∧
          vote.outcome = outcome ∧ node.Announced (.vote vote) := by
  have sound := reached.sound
  refine ⟨sound.votes, sound.objects, fun identity member object signal outcome cast => ?_⟩
  obtain ⟨vote, held, same⟩ := Option.map_eq_some_iff.mp cast
  have filed : vote.ballot = ⟨object, signal, identity⟩ := sound.coherent.filed _ vote held
  have voter : vote.voter = identity := congrArg Ballot.voter filed
  refine ⟨vote, voter, congrArg Ballot.object filed, congrArg Ballot.signal filed, same, ?_⟩
  exact sound.votes _ vote held (voter ▸ member)

end RelayingNode

/-! ### A vote that is lost -/

namespace LostVote

/-- The chain of the sample run. -/
def host : Host :=
  SampleRun.host

/-- A payload with two payouts. -/
def payload : TriggerPayload :=
  { eventHeight := 1300
    startEpoch := 7
    addresses := "X|Y"
    amounts := "3330.00|1665.00"
    proposalHashes := ""
    objectType := 2 }

/-- Another node submits the contract. -/
def submission : Submission :=
  { payloadHex := payload.toHex, submitter := ⟨2⟩, creationTime := 7, signature := [] }

/-- The call to vote for the contract of the sample run. -/
def vote : Call :=
  .voteForContract 1300 SampleRun.contract.toText

/-- A node that has seen nothing. -/
def fresh : RelayingNode :=
  { engine := { config := SampleRun.config, relay := {} } }

/-- The node once the object has come in. -/
def received : RelayingNode :=
  fresh.perform host (.receiveObject 1 submission)

/-- The vote for the object was dropped. -/
def lost : RelayingNode :=
  (received.perform host vote).dropNext

/-- The vote was cast again and delivered. -/
def delivered : RelayingNode :=
  (lost.perform host vote).deliverNext

/-- The store with the object and nothing else. -/
def store : TriggerStore :=
  (TriggerStore.empty.insert (.ofSubmission 1 submission payload)).2

theorem received_eq : received = { engine := { fresh.engine with store } } := by
  have read : TriggerPayload.ofHex submission.payloadHex = .ok payload :=
    TriggerPayload.ofHex_toHex rfl
  have near : ∀ horizon ∈ fresh.engine.horizon host, payload.eventHeight ≤ horizon := by
    have known : fresh.engine.horizon host = some 1400 := by decide +kernel
    exact Engine.near_of_horizon_eq known (by decide)
  have accepted : fresh.engine.acceptSubmission host submission = .ok payload :=
    Engine.acceptSubmission_eq_ok_iff.mpr ⟨read, by decide +kernel, near, rfl, by decide +kernel⟩
  rw [received, RelayingNode.perform, Engine.perform_receiveObject accepted]
  rfl

theorem reachable_delivered : RelayingNode.Reachable {host} delivered := by
  have foreign : (Call.receiveObject 1 submission).IsForeign (RelayingNode.identities {host}) := by
    rintro ⟨_, rfl, own⟩
    exact absurd own (by decide)
  have member : host ∈ ({host} : Set Host) := Set.mem_singleton host
  have taken : RelayingNode.Step {host} fresh received := .call member foreign
  have voted (before : RelayingNode) :
      RelayingNode.Step {host} before (before.perform host vote) := .call member trivial
  exact ⟨SampleRun.config, false,
    .tail (.tail (.tail (.tail (.single taken) (voted received)) .drop) (voted lost)) .deliver⟩

end LostVote

open LostVote in
/-- The vote is not held when it was lost. It is cast again, and then it is among those that were
delivered. -/
theorem lost_vote_is_cast_again :
    RelayingNode.Reachable {host} delivered ∧ lost.engine.store.votes.size = 0 ∧
      delivered.engine.relay.queue = [] ∧
      ∃ vote, delivered.engine.store.votes.get? ⟨1, .funding, ⟨1⟩⟩ = some vote ∧
        .vote vote ∈ delivered.delivered := by
  have facts : lost.engine.store.votes.size = 0 ∧ delivered.engine.relay.queue = [] ∧
      (delivered.engine.store.votes.get? ⟨1, .funding, ⟨1⟩⟩).any (·.voter = ⟨1⟩) = true := by
    rw [delivered, lost, received_eq]
    decide +kernel
  obtain ⟨votes, _⟩ := RelayingNode.recorded_is_announced reachable_delivered
  obtain ⟨vote, held, voter⟩ := (Option.any_eq_true _ _).mp facts.2.2
  have own : vote.voter ∈ RelayingNode.identities {host} :=
    ⟨host, Set.mem_singleton host, of_decide_eq_true voter ▸ rfl⟩
  refine ⟨reachable_delivered, facts.1, facts.2.1, vote, held, ?_⟩
  rcases votes _ vote held own with queued | given
  · rw [facts.2.1] at queued
    cases queued
  · exact given

end SuperblockGovernance

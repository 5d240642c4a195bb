import Confluence.Proofs.Replication.Gossip
import Confluence.Proofs.Replication.OperationHistory
import Confluence.State.GrowSet

/-!
Operation-based replicas over a medium that reorders, repeats and loses messages. Every replica
applies the operations of each origin in the order of their numbers, each exactly once, and its
version says how many of them it has applied. Nothing is assumed of the operations.
-/

set_option autoImplicit false

namespace Confluence.OperationReplica

variable {σ ω : Type} [Operational σ ω]

/-- What operation-based replicas do: one submits an operation and sends its message, or one is
offered any message that was ever sent. A submission that is refused changes nothing. -/
inductive Step : Gossip (OperationReplica σ) (OperationMessage ω) →
    Gossip (OperationReplica σ) (OperationMessage ω) → Prop where
  | submit {gossip replica changed message} (id : ReplicaId) (operation : ω) :
      gossip.participants.get? id = some replica →
      replica.submit operation = .ok (changed, message) →
      Step gossip (gossip.advance id changed [message])
  | update {gossip replica} (id : ReplicaId) (message : OperationMessage ω) :
      gossip.participants.get? id = some replica →
      message ∈ gossip.said →
      Step gossip (gossip.advance id (Updatable.update replica message).2 [])

/-- The moments of a run in which all replicas began with one state and without any history. -/
inductive Reachable (start : σ) : Gossip (OperationReplica σ) (OperationMessage ω) → Prop where
  | fresh (ids : List ReplicaId) :
      Reachable start (Gossip.fresh ids (fun id => ofState id ∅ start) [])
  | step {gossip next} : Reachable start gossip → Step gossip next → Reachable start next

variable {start : σ}

/-- The messages are numbered, and every replica accounts for its own. -/
structure Consistent (start : σ)
    (gossip : Gossip (OperationReplica σ) (OperationMessage ω)) : Prop where
  numbered : Numbered gossip.said
  faithful : ∀ id replica, gossip.participants.get? id = some replica →
    Faithful start id gossip.said replica

theorem consistent_fresh (ids : List ReplicaId) :
    Consistent start (Gossip.fresh ids (fun id => ofState id ∅ start) []) where
  numbered := numbered_nil
  faithful id replica found := by
    rw [Gossip.participant_of_fresh found]
    exact faithful_ofState id start

theorem Consistent.step {gossip next : Gossip (OperationReplica σ) (OperationMessage ω)}
    (consistent : Consistent start gossip) (step : Step gossip next) : Consistent start next := by
  cases step with
  | @submit replica changed message id operation found done =>
      obtain ⟨numbered, origin, faithful⟩ :=
        (consistent.faithful id replica found).submit consistent.numbered done
      refine ⟨numbered, ?_⟩
      intro query other present
      rcases Gossip.participant_of_advance present with ⟨rfl, rfl⟩ | ⟨different, earlier⟩
      · exact faithful
      · exact (consistent.faithful query other earlier).issue (origin ▸ different)
  | @update replica id message found sent =>
      have same : (gossip.advance id (Updatable.update replica message).2 []).said = gossip.said :=
        List.append_nil _
      refine ⟨same.symm ▸ consistent.numbered, ?_⟩
      intro query other present
      rw [same]
      rcases Gossip.participant_of_advance present with ⟨rfl, rfl⟩ | ⟨_, earlier⟩
      · exact (consistent.faithful query replica found).update consistent.numbered sent
      · exact consistent.faithful query other earlier

theorem Reachable.consistent {gossip : Gossip (OperationReplica σ) (OperationMessage ω)}
    (reached : Reachable start gossip) : Consistent start gossip := by
  induction reached with
  | fresh ids => exact consistent_fresh ids
  | step _ step ih => exact ih.step step

/-- What the state of a replica reflects is, for every origin, exactly the operations up to the
number that its version shows, each once and in the order of their numbers. -/
theorem Reflects.numbers {issued : List (OperationMessage ω)} {replica : OperationReplica σ}
    (reflects : Reflects start issued replica) (numbered : Numbered issued) :
    ∃ applied, applied ⊆ issued ∧ replica.state = replay start applied ∧
      ∀ origin, (messagesFrom origin applied).map (·.dot.clock.value) =
        List.range' 1 (replica.version.get origin) := by
  obtain ⟨applied, state, taken⟩ := reflects.applied
  refine ⟨applied, ?_, state, ?_⟩
  · intro message isApplied
    have own := mem_messagesFrom.mpr ⟨isApplied, rfl⟩
    rw [taken] at own
    exact (mem_messagesFrom.mp (List.mem_of_mem_take own)).1
  · intro origin
    rw [taken, List.map_take, numbered.consecutive, List.take_range'_of_length_ge]
    exact reflects.covered origin

/-- At every moment of a run the state of a replica is the initial state after a sequence of
applied operations in which, for every origin, exactly those numbered one up to the number in the
version of the replica occur, each once and in order; no two messages carry one dot, so a number
names one operation. A message of the run that the replica is offered is applied, ignored or
refused, as its number is the next, an earlier or a later one. -/
theorem Reachable.exactly_once {gossip : Gossip (OperationReplica σ) (OperationMessage ω)}
    (reached : Reachable start gossip) (id : ReplicaId) {replica : OperationReplica σ}
    (found : gossip.participants.get? id = some replica) :
    (gossip.said.map (·.dot)).Nodup ∧
    (∃ applied, applied ⊆ gossip.said ∧ replica.state = replay start applied ∧
      ∀ origin, (messagesFrom origin applied).map (·.dot.clock.value) =
        List.range' 1 (replica.version.get origin)) ∧
    ∀ message ∈ gossip.said,
      (message.dot.clock.value = replica.version.get message.dot.id + 1 →
        ∃ changed, replica.update message = .ok changed ∧ changed.id = replica.id ∧
          changed.state = Operational.apply replica.state message.operation ∧
          changed.version.get message.dot.id = message.dot.clock.value ∧
          ∀ origin, origin ≠ message.dot.id →
            changed.version.get origin = replica.version.get origin) ∧
      (message.dot.clock.value ≤ replica.version.get message.dot.id →
        replica.update message = .ok replica) ∧
      (replica.version.get message.dot.id + 1 < message.dot.clock.value →
        replica.update message = .error (.outOfOrder message.dot.id
          (replica.version.get message.dot.id + 1) message.dot.clock.value)) := by
  have consistent := reached.consistent
  have reflects := (consistent.faithful id replica found).reflects
  have cumulative := reflects.canonical.cumulative
  refine ⟨consistent.numbered.distinct, reflects.numbers consistent.numbered, ?_⟩
  intro message _
  refine ⟨?_, update_of_seen cumulative, update_of_early cumulative⟩
  intro next
  refine ⟨_, update_of_next cumulative next, rfl, rfl, ?_, ?_⟩
  · refine (VersionVector.get_absorb_toVector_self cumulative message.dot).trans ?_
    omega
  · intro origin different
    exact VersionVector.get_absorb_toVector_of_ne cumulative different

/-- Two additions that arrive in the wrong order, the later one twice, are applied once each and in
the right order. -/
theorem exactly_once_after_reordering :
    ∃ (gossip : Gossip (OperationReplica (GrowSet Nat)) (OperationMessage (SetOperation Nat)))
      (replica : OperationReplica (GrowSet Nat)), Reachable GrowSet.empty gossip ∧
        gossip.participants.get? ⟨2⟩ = some replica ∧
        ∃ applied, applied ⊆ gossip.said ∧ replica.state = replay GrowSet.empty applied ∧
          (messagesFrom ⟨1⟩ applied).map (·.dot.clock.value) = [1, 2] := by
  have run : ∃ gossip replica, Reachable (GrowSet.empty : GrowSet Nat) gossip ∧
      gossip.participants.get? ⟨2⟩ = some replica ∧ replica.version.get ⟨1⟩ = 2 := by
    have begun : Reachable (GrowSet.empty : GrowSet Nat) _ := .fresh [⟨1⟩, ⟨2⟩]
    have one := begun.step (.submit ⟨1⟩ (.add [7]) rfl rfl)
    have two := one.step (.submit ⟨1⟩ (.add [8, 7]) rfl rfl)
    have refused := two.step
      (.update ⟨2⟩ ⟨⟨⟨1⟩, 2, by decide⟩, .add [8, 7]⟩ rfl (.tail _ (.head _)))
    have filled := refused.step (.update ⟨2⟩ ⟨⟨⟨1⟩, 1, by decide⟩, .add [7]⟩ rfl (.head _))
    have reached := filled.step
      (.update ⟨2⟩ ⟨⟨⟨1⟩, 2, by decide⟩, .add [8, 7]⟩ rfl (.tail _ (.head _)))
    exact ⟨_, _, reached, rfl, rfl⟩
  obtain ⟨gossip, replica, reached, found, seen⟩ := run
  obtain ⟨_, ⟨applied, issued, state, numbers⟩, _⟩ := reached.exactly_once ⟨2⟩ found
  refine ⟨gossip, replica, reached, found, applied, issued, state, ?_⟩
  rw [numbers ⟨1⟩, seen]
  rfl

end Confluence.OperationReplica

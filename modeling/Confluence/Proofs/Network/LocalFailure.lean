import Confluence.Network.Local
import Confluence.Proofs.Network.Stations
import Confluence.Proofs.Network.Wiring

/-!
What a local operation that fails leaves behind. It never sends anything, and it changes nothing
unless it fails only in the end: a replica that has accepted an operation keeps it when the exchange
refuses the message that tells of it. The exchange refuses a message when it is shut down or when
one with the same key is pending.
-/

set_option autoImplicit false

namespace Confluence

namespace Network

variable {ρ μ : Type} [Message μ] {network next : Network ρ μ} {handle : Nat}
  {act : ρ → Except StateError (ρ × μ)} {error : ReplicationError}

theorem send_eq_error_iff {message : μ} :
    network.send message = .error error ↔ network.exchange.Refuses message error := by
  rw [← Exchange.publish_eq_error_iff]
  unfold send
  constructor
  · intro failed
    cases taken : network.exchange.publish message with
    | error cause =>
        rw [taken] at failed
        cases failed
        rfl
    | ok exchange =>
        rw [taken] at failed
        cases failed
  · intro refused
    rw [refused]
    rfl

/-- Once a replica has accepted a change, its channel cannot keep the message back. -/
theorem publish_after_change {message : μ}
    (done : network.change handle act = .ok (next, message)) :
    next.publish handle message = next.send message ∧ next.exchange = network.exchange := by
  obtain ⟨station, replica, address, _, _, rfl⟩ := change_eq_ok done
  exact ⟨publish_eq (station?_setMember_self ..) message, rfl⟩

theorem perform_eq_error_iff :
    network.perform handle act = (.error error, next) ↔
      network.change handle act = .error error ∧ next = network ∨
        ∃ message, network.change handle act = .ok (next, message) ∧
          network.exchange.Refuses message error := by
  unfold perform
  cases attempted : network.change handle act with
  | error cause =>
      constructor
      · intro failed
        cases failed
        exact .inl ⟨rfl, rfl⟩
      · intro either
        cases either with
        | inl unchanged =>
            obtain ⟨same, rfl⟩ := unchanged
            cases same
            rfl
        | inr kept =>
            obtain ⟨message, impossible, _⟩ := kept
            cases impossible
  | ok result =>
      obtain ⟨changed, message⟩ := result
      obtain ⟨passes, sameExchange⟩ := publish_after_change attempted
      simp only [passes]
      rw [← sameExchange]
      constructor
      · intro failed
        cases sent : changed.send message with
        | error cause =>
            rw [sent] at failed
            cases failed
            exact .inr ⟨message, rfl, send_eq_error_iff.mp sent⟩
        | ok published =>
            rw [sent] at failed
            cases failed
      · intro either
        cases either with
        | inl unchanged => cases unchanged.1
        | inr kept =>
            obtain ⟨_, same, refuses⟩ := kept
            cases same
            rw [send_eq_error_iff.mpr refuses]

/-- What is left of a local operation that failed: nothing has been sent, and nothing has changed
unless the replica accepted the operation and the exchange alone refused the message. -/
structure LeftBehind (network : Network ρ μ) (handle : Nat) (act : ρ → Except StateError (ρ × μ))
    (error : ReplicationError) (next : Network ρ μ) : Prop where
  unsent : next.exchange = network.exchange
  elsewhere : ∀ query, query ≠ handle → next.members.get? query = network.members.get? query
  here : next = network ∨ ∃ replica changed message, network.replica handle = .ok replica ∧
    act replica = .ok (changed, message) ∧ next.replica handle = .ok changed ∧
      network.exchange.Refuses message error

theorem replica_of_station {station : Station ρ μ}
    (present : network.station? handle = some station) :
    network.replica handle = .ok station.replica := by
  obtain ⟨address, found⟩ := station?_eq_some_iff.mp present
  rw [replica, found]
  rfl

theorem leftBehind_of_perform (failed : network.perform handle act = (.error error, next)) :
    network.LeftBehind handle act error next := by
  rcases perform_eq_error_iff.mp failed with ⟨_, rfl⟩ | ⟨message, kept, refuses⟩
  · exact ⟨rfl, fun _ _ => rfl, .inl rfl⟩
  · obtain ⟨station, changed, address, present, accepted, rfl⟩ := change_eq_ok kept
    refine ⟨rfl, ?_, .inr ⟨station.replica, changed, message, replica_of_station present,
      accepted, replica_of_station (station?_setMember_self ..), refuses⟩⟩
    intro query different
    rw [members_setMember, if_neg different]

/-- Whatever the type of the replica, the operation, and the state of the network: a local operation
that fails has sent nothing, and it has changed nothing unless the exchange alone refused it. -/
theorem failed_operation_sends_nothing {σ κ τ ω α : Type} [LocalCommand σ κ] [Operational τ ω]
    (handle : Nat) (error : ReplicationError) :
    (∀ {network next : Network (StateReplica σ) (Snapshot σ)} {command : κ},
      network.issue handle command = (.error error, next) →
        network.LeftBehind handle (fun replica => replica.issue command) error next) ∧
    (∀ {network next : Network (StateReplica (Register α)) (Snapshot (Register α))} {value : α}
      {now : Timestamp}, network.assign handle value now = (.error error, next) →
        network.LeftBehind handle (fun replica => replica.assign value now) error next) ∧
    ∀ {network next : Network (OperationReplica τ) (OperationMessage ω)} {operation : ω},
      network.submit handle operation = (.error error, next) →
        network.LeftBehind handle (fun replica => replica.submit operation) error next := by
  refine ⟨?_, ?_, ?_⟩
  · intro network next command failed
    unfold issue at failed
    split at failed
    · cases failed
      exact ⟨rfl, fun _ _ => rfl, .inl rfl⟩
    · exact leftBehind_of_perform failed
  · intro network next value now failed
    exact leftBehind_of_perform failed
  · intro network next operation failed
    exact leftBehind_of_perform failed

/-! ## The exchange as the last to refuse -/

/-- Two replicas at an exchange that was shut down before anything happened. -/
def abandoned {ρ μ : Type} [Message μ] [Updatable ρ μ] (order : InboxOrder)
    (begin : ReplicaId → ρ) : Except ReplicationError (Network ρ μ) :=
  (assemble order begin [⟨1⟩, ⟨2⟩] (.empty [])).map shutdown

theorem failures_at_closed_exchange_send_nothing :
    (∃ network next, abandoned .newestFirst (fun id => StateReplica.ofState id ∅ .empty) =
        .ok network ∧
      network.issue 0 (.remove [7]) = (.error (.refused .removalFromGrowSet), next) ∧
      network.LeftBehind 0 (fun replica : StateReplica (GrowSet Nat) =>
        replica.issue (.remove [7])) (.refused .removalFromGrowSet) next) ∧
    (∃ network next, abandoned .newestFirst (fun id => StateReplica.ofState id ∅ default) =
        .ok network ∧
      network.assign 0 7 default = (.error .channelClosed, next) ∧
      network.LeftBehind 0 (fun replica : StateReplica (Register Nat) =>
        replica.assign 7 default) .channelClosed next) ∧
    ∃ network next, abandoned .oldestFirst (fun id => OperationReplica.ofState id ∅ .empty) =
        .ok network ∧
      network.submit 0 (.add [7]) = (.error .channelClosed, next) ∧
      network.LeftBehind 0 (fun replica : OperationReplica (GrowSet Nat) =>
        replica.submit (.add [7])) .channelClosed next := by
  have nothing := @failed_operation_sends_nothing (GrowSet Nat) (SetOperation Nat) (GrowSet Nat)
    (SetOperation Nat) Nat _ _ 0
  refine ⟨⟨_, _, rfl, rfl, ?_⟩, ⟨_, _, rfl, rfl, ?_⟩, ⟨_, _, rfl, rfl, ?_⟩⟩
  · exact (nothing _).1 rfl
  · exact (nothing _).2.1 rfl
  · exact (nothing _).2.2 rfl

/-- The caller is told that the exchange is closed, nothing is pending, and yet the replica has
the element and has counted the event. -/
theorem replica_keeps_operation_that_exchange_refuses :
    ∃ network next, abandoned .oldestFirst (fun id => OperationReplica.ofState id ∅ .empty) =
        .ok network ∧
      network.submit 0 (.add [7]) = (.error .channelClosed, next) ∧
      next.exchange.pending.length = 0 ∧
      (network.replica 0).map (fun replica : OperationReplica (GrowSet Nat) =>
        (replica.state.elements.elements, replica.version.get ⟨1⟩)) = .ok ([], 0) ∧
      (next.replica 0).map (fun replica =>
        (replica.state.elements.elements, replica.version.get ⟨1⟩)) = .ok ([7], 1) :=
  ⟨_, _, rfl, rfl, rfl, rfl, rfl⟩

end Network

end Confluence

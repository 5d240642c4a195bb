import Confluence.Proofs.Replication.InboxProperties
import Confluence.Replication.OperationReplica
import Confluence.Replication.StateReplica

/-!
What one apply cycle leaves in a queue. If a replica stays as it is when it refuses a message, then
what is queued after a cycle is refused by the replica as the cycle leaves it: a cycle ends only with
a pass that takes everything or nothing.
-/

set_option autoImplicit false

namespace Confluence

/-- A message that a replica refuses leaves the replica as it was. -/
class Steady (ρ : Type) {μ : outParam Type} [Updatable ρ μ] : Prop where
  refusal : ∀ (replica : ρ) (message : μ) (error : ReplicationError),
    (Updatable.update replica message).1 = .error error →
      (Updatable.update replica message).2 = replica

instance {σ ω : Type} [Operational σ ω] : Steady (OperationReplica σ) where
  refusal replica message error refused := by
    simp only [Updatable.update] at refused ⊢
    cases updated : replica.update message with
    | ok next =>
        rw [updated] at refused
        cases refused
    | error error => rfl

theorem StateReplica.accepts {σ : Type} [Convergent σ] (replica : StateReplica σ)
    (snapshot : Snapshot σ) : (Updatable.update replica snapshot).1 = .ok () := rfl

instance {σ : Type} [Convergent σ] : Steady (StateReplica σ) where
  refusal replica snapshot error refused := by
    rw [replica.accepts snapshot] at refused
    cases refused

namespace Inbox

variable {ρ μ : Type}

def messages (inbox : Inbox μ) : List μ := inbox.queue.map (·.message)

theorem messages_enqueue [Message μ] (order : InboxOrder) (inbox : Inbox μ) (message : μ) :
    (inbox.enqueue order message).messages = inbox.messages ++ [message] :=
  List.map_append

theorem perm_due (inbox : Inbox μ) : (inbox.due.map (·.message)).Perm inbox.messages :=
  inbox.due_perm.map _

/-! ## What stays -/

section Refusals

variable {update : ρ → μ → Except ReplicationError Unit × ρ}

/-- The replica refuses everything that is queued. -/
def Stuck (update : ρ → μ → Except ReplicationError Unit × ρ) (replica : ρ)
    (inbox : Inbox μ) : Prop :=
  ∀ queued ∈ inbox.queue, ∃ error, (update replica queued.message).1 = .error error

theorem length_refused_le (update : ρ → μ → Except ReplicationError Unit × ρ)
    (queue : List (Queued μ)) (replica : ρ) :
    (pass update queue replica).2.length ≤ queue.length := by
  induction queue generalizing replica with
  | nil => exact Nat.le_refl _
  | cons first later ih =>
      cases outcome : (update replica first.message).1 with
      | ok _ =>
          rw [pass_cons_of_accepted outcome]
          exact Nat.le_succ_of_le (ih _)
      | error _ =>
          rw [pass_cons_of_refused outcome]
          exact Nat.succ_le_succ (ih _)

variable (steady : ∀ replica message error, (update replica message).1 = .error error →
  (update replica message).2 = replica)

include steady

/-- A pass that takes nothing was over messages that the replica refuses as it is. -/
theorem refused_of_length {queue : List (Queued μ)} {replica : ρ}
    (nothing : (pass update queue replica).2.length = queue.length) :
    ∀ queued ∈ queue, ∃ error, (update replica queued.message).1 = .error error := by
  induction queue with
  | nil => exact fun _ absent => by cases absent
  | cons first later ih =>
      cases outcome : (update replica first.message).1 with
      | ok _ =>
          rw [pass_cons_of_accepted outcome] at nothing
          have fewer := length_refused_le update later (update replica first.message).2
          rw [List.length_cons] at nothing
          omega
      | error error =>
          rw [pass_cons_of_refused outcome, steady replica _ error outcome] at nothing
          exact List.forall_mem_cons.mpr ⟨⟨error, outcome⟩, ih (Nat.succ.inj nothing)⟩

theorem pass_of_refused {queue : List (Queued μ)} {replica : ρ}
    (refused : ∀ queued ∈ queue, ∃ error, (update replica queued.message).1 = .error error) :
    pass update queue replica = (replica, queue) := by
  induction queue with
  | nil => rfl
  | cons first later ih =>
      obtain ⟨⟨error, outcome⟩, laterRefused⟩ := List.forall_mem_cons.mp refused
      rw [pass_cons_of_refused outcome, steady replica _ error outcome, ih laterRefused]

theorem stuck_applyPending (replica : ρ) (inbox : Inbox μ) :
    (applyPending update replica inbox).inbox.Stuck update
      (applyPending update replica inbox).replica := by
  induction replica, inbox using cycle_induction update with
  | @last replica next inbox refused passed finished =>
      obtain ⟨sameReplica, sameInbox⟩ := applyPending_of_pass passed finished
      rw [sameReplica, sameInbox]
      by_cases empty : refused = []
      · rw [empty]
        exact fun _ absent => by cases absent
      · have sameLength : inbox.due.length = inbox.queue.length := List.length_mergeSort _
        have fewer := length_refused_le update inbox.due replica
        rw [passed] at fewer
        have nothing : refused.length = inbox.due.length :=
          Nat.le_antisymm fewer
            (sameLength ▸ Nat.le_of_not_lt fun less => finished ⟨empty, less⟩)
        have allRefused := refused_of_length steady ((congrArg (·.2.length) passed).trans nothing)
        obtain ⟨rfl, rfl⟩ := Prod.mk.inj (passed.symm.trans (pass_of_refused steady allRefused))
        exact allRefused
  | again passed progress ih =>
      obtain ⟨sameReplica, sameInbox⟩ := applyPending_again passed progress
      rw [sameReplica, sameInbox]
      exact ih

end Refusals

end Inbox

end Confluence

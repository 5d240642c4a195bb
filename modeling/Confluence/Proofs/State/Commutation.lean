import Confluence.Proofs.Replication.OperationHistory
import Confluence.State.GrowSet
import Confluence.State.TwoPhaseSet

/-!
States whose operations commute. Replicas of such a state that have applied the same operations are
in one state, in whatever order they applied those of different origins.
-/

set_option autoImplicit false

namespace Confluence

def Commutes (σ : Type) {ω : Type} [Operational σ ω] : Prop :=
  ∀ (state : σ) (first second : ω), Operational.apply (Operational.apply state first) second =
    Operational.apply (Operational.apply state second) first

theorem OrderedSet.insertAll_right_comm {α : Type} [Ord α] [Std.TransOrd α] [Std.LawfulEqOrd α]
    (set : OrderedSet α) (elements others : List α) :
    (set.insertAll elements).insertAll others = (set.insertAll others).insertAll elements := by
  refine OrderedSet.ext fun member => ?_
  simp only [mem_insertAll]
  exact or_right_comm

theorem GrowSet.commutes (α : Type) [Ord α] [Std.TransOrd α] [Std.LawfulEqOrd α] :
    Commutes (GrowSet α) := by
  intro set first second
  cases first with
  | remove elements => cases second <;> rfl
  | add elements =>
      cases second with
      | remove others => rfl
      | add others => exact congrArg GrowSet.mk (set.elements.insertAll_right_comm elements others)

theorem TwoPhaseSet.commutes (α : Type) [Ord α] [Std.TransOrd α] [Std.LawfulEqOrd α]
    [Diagnostic α] : Commutes (TwoPhaseSet α) := by
  intro set first second
  cases first with
  | add elements =>
      cases second with
      | add others =>
          exact congrArg (TwoPhaseSet.mk · set.removed)
            (set.added.insertAll_right_comm elements others)
      | remove others => rfl
  | remove elements =>
      cases second with
      | add others => rfl
      | remove others =>
          exact congrArg (TwoPhaseSet.mk set.added)
            (set.removed.insertAll_right_comm elements others)

variable {σ ω : Type}

/-- Lists that agree on the messages of every origin differ in their order at most. -/
theorem perm_of_messagesFrom {left right : List (OperationMessage ω)}
    (same : ∀ origin, messagesFrom origin left = messagesFrom origin right) : left.Perm right := by
  classical
  refine List.perm_iff_count.mpr fun message => ?_
  have counts := congrArg (List.count message) (same message.dot.id)
  simpa [messagesFrom, List.count_filter] using counts

variable [Operational σ ω]

theorem replay_eq_of_perm (commutes : Commutes σ) (start : σ)
    {left right : List (OperationMessage ω)} (perm : left.Perm right) :
    replay start left = replay start right :=
  perm.foldl_eq' (fun first _ second _ state =>
    commutes state first.operation second.operation) start

/-- The version of a replica determines its state. -/
theorem OperationReplica.Reflects.state_eq {start : σ} {issued : List (OperationMessage ω)}
    {replica other : OperationReplica σ} (commutes : Commutes σ)
    (left : Reflects start issued replica) (right : Reflects start issued other)
    (same : ∀ origin, replica.version.get origin = other.version.get origin) :
    replica.state = other.state := by
  obtain ⟨applied, state, taken⟩ := left.applied
  obtain ⟨applied', state', taken'⟩ := right.applied
  have perm : applied.Perm applied' := perm_of_messagesFrom fun origin => by
    rw [taken, taken', same]
  rw [state, state', replay_eq_of_perm commutes start perm]

end Confluence

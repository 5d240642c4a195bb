import Confluence.Replication.StateReplica

/-!
The commands that the user of a state-based replica gives it. Each changes the state on behalf of
the replica and is told to the others by a snapshot.
-/

set_option autoImplicit false

namespace Confluence

/-- States of type `σ` that are changed locally by commands of type `κ`. -/
class LocalCommand (σ : Type) (κ : outParam Type) where
  perform : ReplicaId → κ → σ → Except StateError σ
  /-- Why a command is refused by every state. Such a command is not even tried. -/
  refusal? : κ → Option StateError := fun _ => none

inductive GrowCounter.Command where
  | increment
  deriving DecidableEq

instance : LocalCommand GrowCounter GrowCounter.Command where
  perform id
    | .increment, counter => counter.increment id

inductive SignedCounter.Command where
  | increment
  | decrement
  deriving DecidableEq

instance : LocalCommand SignedCounter SignedCounter.Command where
  perform id
    | .increment, counter => counter.increment id
    | .decrement, counter => counter.decrement id

section Sets

variable {α : Type} [Ord α] [Std.TransOrd α] [Std.LawfulEqOrd α]

instance : LocalCommand (GrowSet α) (SetOperation α) where
  perform _
    | .add elements, set => .ok (set.insertAll elements)
    | .remove _, _ => .error .removalFromGrowSet
  refusal?
    | .add _ => none
    | .remove _ => some .removalFromGrowSet

instance [Diagnostic α] : LocalCommand (TwoPhaseSet α) (SetOperation α) where
  perform _
    | .add elements, set => set.insertAll elements
    | .remove elements, set => .ok (set.removeAll elements)

end Sets

inductive Register.Command (α : Type) where
  /-- Writes a value with a timestamp, which is raised if the present winner is not earlier. -/
  | assignAt (value : α) (timestamp : Timestamp)
  deriving DecidableEq

instance {α : Type} : LocalCommand (Register α) (Register.Command α) where
  perform id
    | .assignAt value timestamp, register => register.assignAt value id timestamp

namespace StateReplica

def issue {σ κ : Type} [LocalCommand σ κ] (replica : StateReplica σ) (command : κ) :
    Except StateError (StateReplica σ × Snapshot σ) :=
  replica.mutate (LocalCommand.perform replica.id command)

def assign {α : Type} (replica : StateReplica (Register α)) (value : α) (now : Timestamp) :
    Except StateError (StateReplica (Register α) × Snapshot (Register α)) :=
  replica.issue (.assignAt value (.following now replica.state.timestamp))

end StateReplica

end Confluence

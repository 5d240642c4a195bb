import Confluence.Replication.Message
import Confluence.Replication.Updatable
import Confluence.State.Discipline
import Confluence.Word

/-!
Operation-based replicas. A replica stamps each local operation with its next event. An operation
from elsewhere is applied exactly when it is the next event of its origin; one that was seen before
is ignored, and one that comes too early is refused until the gap is filled.
-/

set_option autoImplicit false

namespace Confluence

structure OperationReplica (σ : Type) where
  id : ReplicaId
  state : σ
  history : ReplicaHistory

namespace OperationReplica

variable {σ ω : Type}

def ofState (id : ReplicaId) (version : ReplicaVector) (state : σ) : OperationReplica σ :=
  ⟨id, state, ⟨id, version⟩⟩

def version (replica : OperationReplica σ) : ReplicaVector := replica.history.vector

/-- Applies a local operation and makes the message that tells the other replicas of it. A refused
operation changes nothing. -/
def submit [Operational σ ω] (replica : OperationReplica σ) (operation : ω) :
    Except StateError (OperationReplica σ × OperationMessage ω) := do
  Operational.prepare replica.state operation
  let history ← replica.history.increment
  let state := Operational.apply replica.state operation
  .ok ({ replica with state, history }, ⟨history.dot, operation⟩)

/-- Applies an operation that is the next event of its origin, ignores one that was seen before,
and refuses any other. -/
def update [Operational σ ω] (replica : OperationReplica σ) (message : OperationMessage ω) :
    Except ReplicationError (OperationReplica σ) :=
  if replica.version.precedes message.version then
    .ok { replica with
      state := Operational.apply replica.state message.operation
      history := replica.history.absorb message.version }
  else if replica.version.dominates message.version then .ok replica
  else
    let origin := Message.origin message
    .error (.outOfOrder origin (Word.saturate 64 (replica.version.get origin + 1))
      (Message.rank message))

instance [Operational σ ω] : Updatable (OperationReplica σ) (OperationMessage ω) where
  id := OperationReplica.id
  update replica message :=
    match replica.update message with
    | .ok updated => (.ok (), updated)
    | .error error => (.error error, replica)

end OperationReplica

end Confluence

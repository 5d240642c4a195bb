import Confluence.Replication.Message
import Confluence.Replication.Updatable
import Confluence.State.GrowCounter
import Confluence.State.GrowSet
import Confluence.State.Register
import Confluence.State.SignedCounter
import Confluence.State.TwoPhaseSet

/-!
State-based replicas. Every local change counts one event of the replica and makes a snapshot of
the whole state. A snapshot from elsewhere is merged unless the replica has seen its version
already; any order of snapshots will do.
-/

set_option autoImplicit false

namespace Confluence

structure StateReplica (σ : Type) where
  id : ReplicaId
  state : σ
  history : ReplicaHistory

namespace StateReplica

variable {σ : Type}

def ofState (id : ReplicaId) (version : ReplicaVector) (state : σ) : StateReplica σ :=
  ⟨id, state, ⟨id, version⟩⟩

def version (replica : StateReplica σ) : ReplicaVector := replica.history.vector

def snapshot (replica : StateReplica σ) : Snapshot σ :=
  ⟨replica.id, replica.version, replica.state⟩

/-- Changes the state locally and makes the snapshot that tells the other replicas of it. The event
is counted before the change is tried, and a refusal of either changes nothing. -/
def mutate (replica : StateReplica σ) (change : σ → Except StateError σ) :
    Except StateError (StateReplica σ × Snapshot σ) := do
  let history ← replica.history.increment
  let state ← change replica.state
  let changed := { replica with state, history }
  .ok (changed, changed.snapshot)

def update [Convergent σ] (replica : StateReplica σ) (snapshot : Snapshot σ) : StateReplica σ :=
  match replica.version.order snapshot.version with
  | .after | .equal => replica
  | .before | .concurrent =>
    { replica with
      state := merge replica.state snapshot.state
      history := replica.history.absorb snapshot.version }

instance [Convergent σ] : Updatable (StateReplica σ) (Snapshot σ) where
  id := StateReplica.id
  update replica snapshot := (.ok (), replica.update snapshot)

end StateReplica

end Confluence

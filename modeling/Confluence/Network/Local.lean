import Confluence.Network.Basic
import Confluence.Replication.LocalCommand
import Confluence.Replication.OperationReplica

/-!
What the users of replicas do in a network: every local operation is carried out at one member and
published to the others. The channel of the member has to be open, but for commands that every
state refuses: these are refused first.
-/

set_option autoImplicit false

namespace Confluence.Network

def issue {σ κ : Type} [LocalCommand σ κ] (network : Network (StateReplica σ) (Snapshot σ))
    (handle : Nat) (command : κ) :
    Except ReplicationError Unit × Network (StateReplica σ) (Snapshot σ) :=
  match LocalCommand.refusal? (σ := σ) command with
  | some cause => (.error (.refused cause), network)
  | none => network.perform handle fun replica => replica.issue command

def assign {α : Type} (network : Network (StateReplica (Register α)) (Snapshot (Register α)))
    (handle : Nat) (value : α) (now : Timestamp) :
    Except ReplicationError Unit × Network (StateReplica (Register α)) (Snapshot (Register α)) :=
  network.perform handle fun replica => replica.assign value now

def submit {σ ω : Type} [Operational σ ω]
    (network : Network (OperationReplica σ) (OperationMessage ω)) (handle : Nat) (operation : ω) :
    Except ReplicationError Unit × Network (OperationReplica σ) (OperationMessage ω) :=
  network.perform handle fun replica => replica.submit operation

end Confluence.Network

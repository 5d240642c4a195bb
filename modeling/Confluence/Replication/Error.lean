import Confluence.Causality.ReplicaVector

/-!
Why an operation of the replication layer fails.
-/

set_option autoImplicit false

namespace Confluence

inductive ReplicationError where
  | outOfOrder (origin : ReplicaId) (expected received : Nat)
  | alreadyRegistered
  | foreignChannel
  | duplicateReplica (id : ReplicaId)
  | notRegistered
  | channelClosed
  /-- A message with the same key, given by its diagnostic text, still awaits delivery. -/
  | duplicateMessage (key : String)
  | replicaDropped
  | refused (cause : StateError)
  deriving DecidableEq

namespace ReplicationError

def message : ReplicationError → String
  | outOfOrder origin expected received =>
    "out-of-order update from " ++ toString origin ++ ": expected event " ++ expected.repr ++
      ", received " ++ received.repr
  | alreadyRegistered => "channel is already registered"
  | foreignChannel => "replica belongs to a different channel"
  | duplicateReplica id =>
    "replica " ++ toString id ++ " is already attached to this exchange"
  | notRegistered => "channel is not registered"
  | channelClosed => "channel closed"
  | duplicateMessage key => "message " ++ key ++ " was already published"
  | replicaDropped => "replica has been dropped"
  | refused cause => cause.message

/-- Whether the delivery cycles absorb the failure and try again. -/
def isTransient : ReplicationError → Bool
  | outOfOrder .. | replicaDropped => true
  | _ => false

end ReplicationError

end Confluence

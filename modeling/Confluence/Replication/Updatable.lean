import Confluence.Replication.Error

/-!
What channels need of a replica.
-/

set_option autoImplicit false

namespace Confluence

class Updatable (ρ : Type) (μ : outParam Type) where
  id : ρ → ReplicaId
  /-- Offers a message to a replica. The outcome tells whether the message is done with; a message
  that is refused may be offered again. The replica may change in either case. -/
  update : ρ → μ → Except ReplicationError Unit × ρ

end Confluence

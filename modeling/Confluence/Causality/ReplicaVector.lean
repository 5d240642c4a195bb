import Confluence.Causality.OwnedVector
import Confluence.ReplicaId

/-!
The dots and vectors of replicas: identifiers name the replicas, and events are counted in 64
bits.
-/

set_option autoImplicit false

namespace Confluence

abbrev ReplicaDot := Dot ReplicaId 64

abbrev ReplicaVector := VersionVector ReplicaId 64

abbrev ReplicaHistory := OwnedVector ReplicaId 64

end Confluence

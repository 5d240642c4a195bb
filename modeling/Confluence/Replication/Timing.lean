/-!
The periods by which replication is paced, in milliseconds. All channels on an exchange share the
timing of the exchange.
-/

set_option autoImplicit false

namespace Confluence

/-- Periods of fan-out and application, and how long a closing side may drain. -/
structure Timing where
  deliveryInterval : Nat := 20
  applyInterval : Nat := 20
  drainTimeout : Nat := 5000
  deriving DecidableEq

end Confluence

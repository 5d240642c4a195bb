import Confluence.StateError

/-!
The two disciplines of replicated states. A convergent state is merged with whole states of other
replicas; an operational state applies the operations of other replicas one by one.
-/

set_option autoImplicit false

namespace Confluence

class Convergent (σ : Type) where
  merge : σ → σ → σ

class Operational (σ : Type) (ω : outParam Type) where
  /-- Checks an operation that is about to be issued here. Operations that come from elsewhere
  are not checked. -/
  prepare : σ → ω → Except StateError Unit
  apply : σ → ω → σ

export Convergent (merge)

end Confluence

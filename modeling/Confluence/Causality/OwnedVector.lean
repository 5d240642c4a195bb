import Confluence.Causality.VersionVector

/-!
A version vector with an owner: the causal history of one replica, which counts its own events
without naming itself each time.
-/

set_option autoImplicit false

namespace Confluence

structure OwnedVector (κ : Type) [Ord κ] (width : Nat) where
  owner : κ
  vector : VersionVector κ width

namespace OwnedVector

variable {κ : Type} [Ord κ] {width : Nat}

def empty (owner : κ) : OwnedVector κ width := ⟨owner, ∅⟩

def dot (history : OwnedVector κ width) : Dot κ width := history.vector.dot history.owner

instance [Diagnostic κ] : Diagnostic (OwnedVector κ width) :=
  ⟨fun history => Diagnostic.record "LocalVersionVector"
    [("owner", diagnostic history.owner), ("vector", diagnostic history.vector)]⟩

variable [Std.TransOrd κ] [Std.LawfulEqOrd κ]

def increment (history : OwnedVector κ width) : Except StateError (OwnedVector κ width) :=
  (history.vector.increment history.owner).map fun vector => { history with vector }

def absorb (history : OwnedVector κ width) (other : VersionVector κ width) :
    OwnedVector κ width :=
  { history with vector := history.vector.absorb other }

def order (history other : OwnedVector κ width) : CausalOrder :=
  history.vector.order other.vector

end OwnedVector

end Confluence

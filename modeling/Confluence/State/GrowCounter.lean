import Confluence.Causality.ReplicaVector
import Confluence.State.Discipline
import Confluence.Word

/-!
Grow-only counters. Each replica counts its own increments; the value is the sum of the counts, and
a merge takes the maximum of the two counts of each replica.
-/

set_option autoImplicit false

namespace Confluence

structure GrowCounter where
  counts : ReplicaVector

namespace GrowCounter

def zero : GrowCounter := ⟨∅⟩

instance : Inhabited GrowCounter := ⟨zero⟩

instance : BEq GrowCounter := ⟨fun left right => left.counts == right.counts⟩

/-- The sum of all increments, saturated to a word of 64 bits. -/
def value (counter : GrowCounter) : Nat := Word.saturate 64 counter.counts.total.toNat

def increment (counter : GrowCounter) (replica : ReplicaId) : Except StateError GrowCounter :=
  (counter.counts.increment replica).map GrowCounter.mk

instance : Convergent GrowCounter := ⟨fun left right => ⟨left.counts.absorb right.counts⟩⟩

end GrowCounter

end Confluence

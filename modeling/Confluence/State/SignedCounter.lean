import Confluence.Causality.ReplicaVector
import Confluence.State.Discipline
import Confluence.Word

/-!
Counters that go both ways. Increments and decrements are counted apart, each by a vector of their
own that only grows; the value is the difference of the two sums.
-/

set_option autoImplicit false

namespace Confluence

structure SignedCounter where
  increments : ReplicaVector
  decrements : ReplicaVector

namespace SignedCounter

def zero : SignedCounter := ⟨∅, ∅⟩

instance : Inhabited SignedCounter := ⟨zero⟩

instance : BEq SignedCounter :=
  ⟨fun left right => left.increments == right.increments && left.decrements == right.decrements⟩

/-- Increments less decrements. The difference is taken in signed words of 128 bits, and the result
is saturated to a signed word of 64 bits. -/
def value (counter : SignedCounter) : Int :=
  let increments := Word.saturateSigned 128 counter.increments.total.toNat
  let decrements := Word.saturateSigned 128 counter.decrements.total.toNat
  Word.saturateSigned 64 (Word.saturateSigned 128 (increments - decrements))

def increment (counter : SignedCounter) (replica : ReplicaId) :
    Except StateError SignedCounter :=
  (counter.increments.increment replica).map fun increments => { counter with increments }

def decrement (counter : SignedCounter) (replica : ReplicaId) :
    Except StateError SignedCounter :=
  (counter.decrements.increment replica).map fun decrements => { counter with decrements }

instance : Convergent SignedCounter :=
  ⟨fun left right =>
    ⟨left.increments.absorb right.increments, left.decrements.absorb right.decrements⟩⟩

end SignedCounter

end Confluence

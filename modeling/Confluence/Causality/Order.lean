/-!
How two versions stand to each other causally. Unlike a linear order, causal order knows versions
of which neither happened before the other.
-/

set_option autoImplicit false

namespace Confluence

inductive CausalOrder where
  | before
  | after
  | concurrent
  | equal
  deriving DecidableEq

namespace CausalOrder

/-- The causal order of two points on one line. -/
def ofOrdering : Ordering → CausalOrder
  | .lt => .before
  | .gt => .after
  | .eq => .equal

def toOrdering? : CausalOrder → Option Ordering
  | .before => some .lt
  | .after => some .gt
  | .equal => some .eq
  | .concurrent => none

def swap : CausalOrder → CausalOrder
  | .before => .after
  | .after => .before
  | .concurrent => .concurrent
  | .equal => .equal

/-- The order of two versions, of which the first is behind the second somewhere, or ahead of it
somewhere. -/
def ofDifferences (behind ahead : Bool) : CausalOrder :=
  match behind, ahead with
  | false, false => .equal
  | true, false => .before
  | false, true => .after
  | true, true => .concurrent

@[simp] theorem swap_swap (order : CausalOrder) : order.swap.swap = order := by
  cases order <;> rfl

@[simp] theorem swap_ofDifferences (behind ahead : Bool) :
    (ofDifferences behind ahead).swap = ofDifferences ahead behind := by
  cases behind <;> cases ahead <;> rfl

@[simp] theorem toOrdering?_ofOrdering (order : Ordering) :
    (ofOrdering order).toOrdering? = some order := by
  cases order <;> rfl

end CausalOrder

end Confluence

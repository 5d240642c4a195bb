import Confluence.OrderedSet
import Confluence.State.Discipline
import Confluence.State.SetOperation

/-!
Grow-only sets. Elements are never removed and a merge is a union, so additions that are made
concurrently all survive.
-/

set_option autoImplicit false

namespace Confluence

structure GrowSet (α : Type) [Ord α] where
  elements : OrderedSet α

namespace GrowSet

variable {α : Type} [Ord α]

def empty : GrowSet α := ⟨∅⟩

instance : Inhabited (GrowSet α) := ⟨empty⟩

instance [DecidableEq α] : DecidableEq (GrowSet α) := fun left right =>
  decidable_of_iff (left.elements = right.elements)
    ⟨fun same => by cases left; cases right; cases same; rfl, fun same => by rw [same]⟩

def contains (set : GrowSet α) (element : α) : Bool := set.elements.contains element

variable [Std.TransOrd α] [Std.LawfulEqOrd α]

def insert (set : GrowSet α) (element : α) : GrowSet α := ⟨set.elements.insert element⟩

def insertAll (set : GrowSet α) (elements : List α) : GrowSet α :=
  ⟨set.elements.insertAll elements⟩

instance : Convergent (GrowSet α) := ⟨fun left right => ⟨left.elements.union right.elements⟩⟩

/-- Removals are refused where they would be issued; one that arrives changes nothing. -/
instance : Operational (GrowSet α) (SetOperation α) where
  prepare _
    | .add _ => .ok ()
    | .remove _ => .error .removalFromGrowSet
  apply set
    | .add elements => set.insertAll elements
    | .remove _ => set

end GrowSet

end Confluence

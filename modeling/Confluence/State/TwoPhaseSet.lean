import Confluence.OrderedSet
import Confluence.State.Discipline
import Confluence.State.SetOperation

/-!
Two-phase sets. A set remembers what was added and, apart from that, what was removed. An element
is live if it was added and never removed: removal is for good, and wins over a concurrent
addition.
-/

set_option autoImplicit false

namespace Confluence

structure TwoPhaseSet (α : Type) [Ord α] where
  added : OrderedSet α
  removed : OrderedSet α

namespace TwoPhaseSet

variable {α : Type} [Ord α]

def empty : TwoPhaseSet α := ⟨∅, ∅⟩

instance : Inhabited (TwoPhaseSet α) := ⟨empty⟩

instance [DecidableEq α] : DecidableEq (TwoPhaseSet α) := fun left right =>
  decidable_of_iff (left.added = right.added ∧ left.removed = right.removed)
    ⟨fun same => by cases left; cases right; cases same.1; cases same.2; rfl,
      fun same => by subst same; exact ⟨rfl, rfl⟩⟩

def live (set : TwoPhaseSet α) : OrderedSet α := set.added.difference set.removed

def contains (set : TwoPhaseSet α) (element : α) : Bool :=
  set.added.contains element && !set.removed.contains element

def isRemoved (set : TwoPhaseSet α) (element : α) : Bool := set.removed.contains element

/-- Refuses to add elements of which some were removed, and names all of those. -/
def checkInsertable [Diagnostic α] (set : TwoPhaseSet α) (elements : List α) :
    Except StateError Unit :=
  match elements.filter set.isRemoved with
  | [] => .ok ()
  | rejected => .error (.insertionOfRemoved (rejected.map diagnostic))

variable [Std.TransOrd α] [Std.LawfulEqOrd α]

def recordAdded (set : TwoPhaseSet α) (elements : List α) : TwoPhaseSet α :=
  { set with added := set.added.insertAll elements }

/-- Adds every listed element, or none if one of them was removed. -/
def insertAll [Diagnostic α] (set : TwoPhaseSet α) (elements : List α) :
    Except StateError (TwoPhaseSet α) :=
  (set.checkInsertable elements).map fun _ => set.recordAdded elements

def insert [Diagnostic α] (set : TwoPhaseSet α) (element : α) :
    Except StateError (TwoPhaseSet α) :=
  set.insertAll [element]

/-- Removes every listed element for good. An element need not have been added: its removal then
hides a later or concurrent addition. -/
def removeAll (set : TwoPhaseSet α) (elements : List α) : TwoPhaseSet α :=
  { set with removed := set.removed.insertAll elements }

def remove (set : TwoPhaseSet α) (element : α) : TwoPhaseSet α := set.removeAll [element]

instance : Convergent (TwoPhaseSet α) :=
  ⟨fun left right =>
    ⟨left.added.union right.added, left.removed.union right.removed⟩⟩

/-- An addition that arrives is recorded even for removed elements, which stay hidden. -/
instance [Diagnostic α] : Operational (TwoPhaseSet α) (SetOperation α) where
  prepare set
    | .add elements => set.checkInsertable elements
    | .remove _ => .ok ()
  apply set
    | .add elements => set.recordAdded elements
    | .remove elements => set.removeAll elements

end TwoPhaseSet

end Confluence

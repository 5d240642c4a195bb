/-!
Finite sets over a linearly ordered type, kept as strictly ascending lists. A set has exactly one
representation, so two sets with the same members are equal, and the order in which the elements
are listed is the order of the type.
-/

set_option autoImplicit false

namespace Confluence

/-- A finite set. Its elements are listed in ascending order without repetition. -/
structure OrderedSet (α : Type) [Ord α] where
  elements : List α
  ascending : elements.Pairwise fun lower higher => compare lower higher = .lt

namespace OrderedSet

variable {α : Type} [Ord α]

def empty : OrderedSet α := ⟨[], .nil⟩

instance : EmptyCollection (OrderedSet α) := ⟨empty⟩

instance : Inhabited (OrderedSet α) := ⟨empty⟩

instance [DecidableEq α] : DecidableEq (OrderedSet α) := fun left right =>
  decidable_of_iff (left.elements = right.elements)
    ⟨fun same => by cases left; cases right; cases same; rfl, fun same => by rw [same]⟩

instance : Membership α (OrderedSet α) := ⟨fun set element => element ∈ set.elements⟩

@[simp] theorem mem_elements {set : OrderedSet α} {element : α} :
    element ∈ set.elements ↔ element ∈ set := Iff.rfl

@[simp] theorem not_mem_empty (element : α) : element ∉ (∅ : OrderedSet α) := List.not_mem_nil

def size (set : OrderedSet α) : Nat := set.elements.length

def isEmpty (set : OrderedSet α) : Bool := set.elements.isEmpty

theorem isEmpty_iff {set : OrderedSet α} : set.isEmpty = true ↔ ∀ element, element ∉ set := by
  rw [isEmpty, List.isEmpty_iff, List.eq_nil_iff_forall_not_mem]
  rfl

def contains (set : OrderedSet α) (element : α) : Bool :=
  set.elements.any fun member => compare element member == .eq

def filter (keep : α → Bool) (set : OrderedSet α) : OrderedSet α :=
  ⟨set.elements.filter keep, set.ascending.filter keep⟩

def erase (set : OrderedSet α) (element : α) : OrderedSet α :=
  set.filter fun member => compare element member != .eq

def difference (left right : OrderedSet α) : OrderedSet α :=
  left.filter fun element => !right.contains element

/-- Puts an element into its place in an ascending list; an element that is there stays. -/
def insertElement (element : α) : List α → List α
  | [] => [element]
  | first :: rest =>
    match compare element first with
    | .lt => element :: first :: rest
    | .eq => first :: rest
    | .gt => first :: insertElement element rest

@[simp] theorem mem_filter {keep : α → Bool} {set : OrderedSet α} {element : α} :
    element ∈ set.filter keep ↔ element ∈ set ∧ keep element = true :=
  List.mem_filter

variable [Std.LawfulEqOrd α]

theorem mem_insertElement {element member : α} {elements : List α} :
    member ∈ insertElement element elements ↔ member = element ∨ member ∈ elements := by
  induction elements with
  | nil => simp [insertElement]
  | cons first rest ih =>
    cases order : compare element first with
    | lt => simp [insertElement, order]
    | eq =>
      have same := Std.LawfulEqOrd.eq_of_compare order
      subst same
      simp [insertElement, Std.ReflOrd.compare_self]
    | gt =>
      simp only [insertElement, order, List.mem_cons, ih]
      exact or_left_comm

@[simp] theorem contains_iff {set : OrderedSet α} {element : α} :
    set.contains element = true ↔ element ∈ set := by
  simp [contains, ← mem_elements]

@[simp] theorem mem_erase {set : OrderedSet α} {element member : α} :
    member ∈ set.erase element ↔ member ∈ set ∧ element ≠ member := by
  simp [erase]

@[simp] theorem mem_difference {left right : OrderedSet α} {member : α} :
    member ∈ left.difference right ↔ member ∈ left ∧ member ∉ right := by
  simp [difference, ← Bool.not_eq_true]

omit [Std.LawfulEqOrd α] in
private theorem ne_of_compare_lt [Std.ReflOrd α] {lower higher : α}
    (less : compare lower higher = .lt) : lower ≠ higher := by
  intro same
  subst same
  simp [Std.ReflOrd.compare_self] at less

omit [Std.LawfulEqOrd α] in
theorem nodup_elements [Std.ReflOrd α] (set : OrderedSet α) : set.elements.Nodup :=
  set.ascending.imp ne_of_compare_lt

variable [Std.TransOrd α]

theorem ascending_insertElement (element : α) {elements : List α}
    (ascending : elements.Pairwise fun lower higher => compare lower higher = .lt) :
    (insertElement element elements).Pairwise fun lower higher =>
      compare lower higher = .lt := by
  induction elements with
  | nil => simp [insertElement]
  | cons first rest ih =>
    obtain ⟨firstLeast, restAscending⟩ := List.pairwise_cons.mp ascending
    cases order : compare element first with
    | lt =>
      simp only [insertElement, order]
      refine List.pairwise_cons.mpr ⟨fun member isMember => ?_, ascending⟩
      cases List.mem_cons.mp isMember with
      | inl same => exact same ▸ order
      | inr later => exact Std.TransCmp.lt_trans order (firstLeast member later)
    | eq => simpa only [insertElement, order] using ascending
    | gt =>
      simp only [insertElement, order]
      refine List.pairwise_cons.mpr ⟨fun member isMember => ?_, ih restAscending⟩
      cases mem_insertElement.mp isMember with
      | inl same => exact same ▸ Std.OrientedCmp.gt_iff_lt.mp order
      | inr later => exact firstLeast member later

def insert (set : OrderedSet α) (element : α) : OrderedSet α :=
  ⟨insertElement element set.elements, ascending_insertElement element set.ascending⟩

def insertAll (set : OrderedSet α) (elements : List α) : OrderedSet α :=
  elements.foldl insert set

def ofList (elements : List α) : OrderedSet α := insertAll ∅ elements

def union (left right : OrderedSet α) : OrderedSet α := left.insertAll right.elements

@[simp] theorem mem_insert {set : OrderedSet α} {element member : α} :
    member ∈ set.insert element ↔ member = element ∨ member ∈ set :=
  mem_insertElement

@[simp] theorem mem_insertAll {set : OrderedSet α} {elements : List α} {member : α} :
    member ∈ set.insertAll elements ↔ member ∈ set ∨ member ∈ elements := by
  induction elements generalizing set with
  | nil => simp [insertAll]
  | cons first rest ih =>
    have unfolded : set.insertAll (first :: rest) = (set.insert first).insertAll rest := rfl
    rw [unfolded, ih, mem_insert, List.mem_cons, or_comm (a := (member = first)), or_assoc]

@[simp] theorem mem_ofList {elements : List α} {member : α} :
    member ∈ ofList elements ↔ member ∈ elements := by
  simp [ofList]

@[simp] theorem mem_union {left right : OrderedSet α} {member : α} :
    member ∈ left.union right ↔ member ∈ left ∨ member ∈ right := by
  simp [union]

private theorem eq_of_ascending : ∀ {left right : List α},
    (left.Pairwise fun lower higher => compare lower higher = .lt) →
    (right.Pairwise fun lower higher => compare lower higher = .lt) →
    (∀ member, member ∈ left ↔ member ∈ right) → left = right
  | [], [], _, _, _ => rfl
  | [], first :: _, _, _, same => by simpa using same first
  | first :: _, [], _, _, same => by simpa using same first
  | first :: rest, first' :: rest', ascending, ascending', same => by
    obtain ⟨firstLeast, restAscending⟩ := List.pairwise_cons.mp ascending
    obtain ⟨firstLeast', restAscending'⟩ := List.pairwise_cons.mp ascending'
    have heads : first = first' := by
      cases List.mem_cons.mp ((same first).mp List.mem_cons_self) with
      | inl equal => exact equal
      | inr later =>
        cases List.mem_cons.mp ((same first').mpr List.mem_cons_self) with
        | inl equal => exact equal.symm
        | inr later' =>
          have cycle := Std.TransCmp.lt_trans (firstLeast first' later') (firstLeast' first later)
          exact absurd rfl (ne_of_compare_lt cycle)
    subst heads
    have tails : ∀ member, member ∈ rest ↔ member ∈ rest' := by
      intro member
      constructor
      · intro isMember
        cases List.mem_cons.mp ((same member).mp (List.mem_cons_of_mem _ isMember)) with
        | inl equal => exact absurd equal.symm (ne_of_compare_lt (firstLeast member isMember))
        | inr later => exact later
      · intro isMember
        cases List.mem_cons.mp ((same member).mpr (List.mem_cons_of_mem _ isMember)) with
        | inl equal => exact absurd equal.symm (ne_of_compare_lt (firstLeast' member isMember))
        | inr later => exact later
    rw [eq_of_ascending restAscending restAscending' tails]

@[ext] theorem ext {left right : OrderedSet α}
    (same : ∀ member, member ∈ left ↔ member ∈ right) : left = right := by
  have elements := eq_of_ascending left.ascending right.ascending same
  cases left
  cases right
  cases elements
  rfl

theorem ofList_elements (set : OrderedSet α) : ofList set.elements = set :=
  ext fun _ => mem_ofList

end OrderedSet

end Confluence

import Confluence.Proofs.Causality.VectorProperties
import Confluence.State.GrowCounter
import Confluence.State.GrowSet
import Confluence.State.SignedCounter
import Confluence.State.TwoPhaseSet

/-!
The laws of merging. States may be merged in any order, in any grouping and any number of times, and
a merge is the least state that says everything that either of the two says.

Sets obey these laws whatever they hold. Counters obey them as far as their vectors have room for
one another, as vectors that are not dotted always have. A counter with a dotted vector drops the
counts of the replicas that the vector does not carry, and what is dropped depends on the order.
-/

set_option autoImplicit false

namespace Confluence

/-- What a merge keeps, and which changes of its order leave the result the same. A state may lack
room for another; it then takes in only a part of it. -/
structure MergeLaws {σ : Type} (same : σ → σ → Prop) (merge : σ → σ → σ)
    (within hasRoomFor : σ → σ → Prop) : Prop where
  within_left : ∀ left right, within left (merge left right)
  within_right_iff : ∀ left right, within right (merge left right) ↔ hasRoomFor left right
  least : ∀ left right bound, within left bound → within right bound →
    within (merge left right) bound
  comm_iff : ∀ left right, same (merge left right) (merge right left) ↔
    hasRoomFor left right ∧ hasRoomFor right left
  assoc : ∀ first second third, hasRoomFor second third →
    same (merge (merge first second) third) (merge first (merge second third))
  idem : ∀ state, same (merge state state) state

namespace MergeLaws

variable {σ τ : Type} {same within hasRoomFor : σ → σ → Prop} {merge : σ → σ → σ}
  {same' within' hasRoomFor' : τ → τ → Prop} {merge' : τ → τ → τ}

/-- Pairs that are merged part by part. -/
theorem pair (laws : MergeLaws same merge within hasRoomFor)
    (laws' : MergeLaws same' merge' within' hasRoomFor') :
    MergeLaws (fun left right : σ × τ => same left.1 right.1 ∧ same' left.2 right.2)
      (fun left right => (merge left.1 right.1, merge' left.2 right.2))
      (fun left right => within left.1 right.1 ∧ within' left.2 right.2)
      (fun left right => hasRoomFor left.1 right.1 ∧ hasRoomFor' left.2 right.2) where
  within_left left right := ⟨laws.within_left left.1 right.1, laws'.within_left left.2 right.2⟩
  within_right_iff left right :=
    and_congr (laws.within_right_iff left.1 right.1) (laws'.within_right_iff left.2 right.2)
  least left right bound below below' :=
    ⟨laws.least left.1 right.1 bound.1 below.1 below'.1,
      laws'.least left.2 right.2 bound.2 below.2 below'.2⟩
  comm_iff left right :=
    (and_congr (laws.comm_iff left.1 right.1) (laws'.comm_iff left.2 right.2)).trans
      and_and_and_comm
  assoc first second third room :=
    ⟨laws.assoc first.1 second.1 third.1 room.1, laws'.assoc first.2 second.2 third.2 room.2⟩
  idem state := ⟨laws.idem state.1, laws'.idem state.2⟩

/-- States that are compared and merged through a view of them. -/
theorem along (laws : MergeLaws same merge within hasRoomFor) (view : τ → σ)
    (same_iff : ∀ left right, same' left right ↔ same (view left) (view right))
    (view_merge : ∀ left right, view (merge' left right) = merge (view left) (view right)) :
    MergeLaws same' merge' (fun left right => within (view left) (view right))
      (fun left right => hasRoomFor (view left) (view right)) := by
  refine ⟨?_, ?_, ?_, ?_, ?_, ?_⟩
  · intro left right
    rw [view_merge]
    exact laws.within_left _ _
  · intro left right
    rw [view_merge]
    exact laws.within_right_iff _ _
  · intro left right bound below below'
    rw [view_merge]
    exact laws.least _ _ _ below below'
  · intro left right
    rw [same_iff, view_merge, view_merge]
    exact laws.comm_iff _ _
  · intro first second third room
    rw [same_iff, view_merge, view_merge, view_merge, view_merge]
    exact laws.assoc _ _ _ room
  · intro state
    rw [same_iff, view_merge]
    exact laws.idem _

end MergeLaws

/-! ## Vectors -/

namespace VersionVector

variable {κ : Type} [Ord κ] {width : Nat}

theorem hasRoomFor_of_cumulative {vector : VersionVector κ width}
    (cumulative : vector.isDotted = false) (other : VersionVector κ width) :
    vector.HasRoomFor other := by
  intro dotted
  rw [cumulative] at dotted
  cases dotted

variable [Std.TransOrd κ] [Std.LawfulEqOrd κ]

theorem absorb_comm_iff {vector other : VersionVector κ width} :
    (vector.absorb other == other.absorb vector) = true ↔
      vector.HasRoomFor other ∧ other.HasRoomFor vector := by
  constructor
  · intro same
    obtain ⟨lower, upper⟩ := beq_iff_within.mp same
    exact ⟨within_absorb_right_iff.mp ((within_absorb other vector).trans upper),
      within_absorb_right_iff.mp ((within_absorb vector other).trans lower)⟩
  · intro ⟨room, room'⟩
    refine beq_iff_get.mpr fun id => ?_
    rw [get_absorb_of_room room, get_absorb_of_room room', Nat.max_comm]

theorem absorb_assoc {first second third : VersionVector κ width}
    (room : second.HasRoomFor third) :
    ((first.absorb second).absorb third == first.absorb (second.absorb third)) = true := by
  classical
  refine beq_iff_get.mpr fun id => ?_
  -- What `first` carries is the same on both sides, so only the counts of that have to agree.
  cases dotted : first.isDotted with
  | false =>
      have stillCumulative : (first.absorb second).isDotted = false :=
        (isDotted_absorb first second).trans dotted
      rw [get_absorb stillCumulative, get_absorb dotted, get_absorb dotted,
        get_absorb_of_room room, Nat.max_assoc]
  | true =>
      have stillDotted : (first.absorb second).isDotted = true :=
        (isDotted_absorb first second).trans dotted
      have sameIds : (first.absorb second).ids = first.ids := by
        simp [absorb, dotted, ids]
      rw [get_absorb_of_dotted stillDotted, sameIds, get_absorb_of_dotted dotted,
        get_absorb_of_dotted dotted, get_absorb_of_room room]
      split
      · exact Nat.max_assoc _ _ _
      · rfl

theorem absorb_self (vector : VersionVector κ width) :
    (vector.absorb vector == vector) = true := by
  refine beq_iff_within.mpr ⟨fun id => ?_, within_absorb vector vector⟩
  have bounded := get_absorb_le vector vector id
  rwa [Nat.max_self] at bounded

theorem mergeLaws : MergeLaws (fun vector other : VersionVector κ width => (vector == other) = true)
    absorb Within HasRoomFor where
  within_left := within_absorb
  within_right_iff _ _ := within_absorb_right_iff
  least left right _ below below' id :=
    Nat.le_trans (get_absorb_le left right id) (Nat.max_le.mpr ⟨below id, below' id⟩)
  comm_iff _ _ := absorb_comm_iff
  assoc _ _ _ := absorb_assoc
  idem := absorb_self

end VersionVector

namespace OrderedSet

variable {α : Type} [Ord α] [Std.TransOrd α] [Std.LawfulEqOrd α]

theorem mergeLaws : MergeLaws (fun left right : OrderedSet α => left = right) union
    (fun left right => ∀ element ∈ left, element ∈ right) (fun _ _ => True) where
  within_left left right element isMember := mem_union.mpr (.inl isMember)
  within_right_iff left right :=
    iff_true_intro fun element isMember => mem_union.mpr (.inr isMember)
  least _ _ _ below below' element isMember :=
    (mem_union.mp isMember).elim (below element) (below' element)
  comm_iff left right := by
    simp only [and_self, iff_true]
    ext element
    simp only [mem_union, or_comm]
  assoc first second third _ := by
    ext element
    simp only [mem_union, or_assoc]
  idem set := by
    ext element
    simp only [mem_union, or_self]

end OrderedSet

/-! ## States -/

namespace GrowCounter

/-- Every count of `counter` is reached in `other`. -/
def Within (counter other : GrowCounter) : Prop := counter.counts.Within other.counts

def HasRoomFor (counter other : GrowCounter) : Prop := counter.counts.HasRoomFor other.counts

end GrowCounter

namespace SignedCounter

/-- Every count of `counter`, of increments and of decrements, is reached in `other`. -/
def Within (counter other : SignedCounter) : Prop :=
  counter.increments.Within other.increments ∧ counter.decrements.Within other.decrements

def HasRoomFor (counter other : SignedCounter) : Prop :=
  counter.increments.HasRoomFor other.increments ∧ counter.decrements.HasRoomFor other.decrements

end SignedCounter

section Sets

variable {α : Type} [Ord α]

def GrowSet.Within (set other : GrowSet α) : Prop :=
  ∀ element ∈ set.elements, element ∈ other.elements

/-- Everything added to `set` was added to `other`, and everything removed from it was removed
there. -/
def TwoPhaseSet.Within (set other : TwoPhaseSet α) : Prop :=
  (∀ element ∈ set.added, element ∈ other.added) ∧
    ∀ element ∈ set.removed, element ∈ other.removed

end Sets

/-- The laws of merging for a type of states, up to equality of states. -/
def Convergent.Lawful (σ : Type) [BEq σ] [Convergent σ] (within hasRoomFor : σ → σ → Prop) : Prop :=
  MergeLaws (fun left right : σ => (left == right) = true) merge within hasRoomFor

theorem GrowCounter.lawful : Convergent.Lawful GrowCounter Within HasRoomFor :=
  VersionVector.mergeLaws.along GrowCounter.counts (fun _ _ => .rfl) fun _ _ => rfl

theorem SignedCounter.lawful : Convergent.Lawful SignedCounter Within HasRoomFor :=
  (VersionVector.mergeLaws.pair VersionVector.mergeLaws).along
    (fun counter : SignedCounter => (counter.increments, counter.decrements))
    (fun _ _ => Bool.and_eq_true_iff) fun _ _ => rfl

section Sets

variable {α : Type} [Ord α] [Std.TransOrd α] [Std.LawfulEqOrd α] [DecidableEq α]

theorem GrowSet.lawful : Convergent.Lawful (GrowSet α) Within fun _ _ => True := by
  refine OrderedSet.mergeLaws.along GrowSet.elements ?_ fun _ _ => rfl
  intro left right
  rw [beq_iff_eq]
  cases left
  cases right
  simp only [mk.injEq]

theorem TwoPhaseSet.lawful : Convergent.Lawful (TwoPhaseSet α) Within fun _ _ => True := by
  refine and_self True ▸ (OrderedSet.mergeLaws.pair OrderedSet.mergeLaws).along
    (fun set : TwoPhaseSet α => (set.added, set.removed)) ?_ fun _ _ => rfl
  intro left right
  rw [beq_iff_eq]
  cases left
  cases right
  simp only [mk.injEq]

end Sets

/-- Counters and sets obey the laws of merging, sets without any condition, and counters as far as
their vectors have room for one another. That is no condition on vectors that are not dotted. -/
theorem merges_obey_laws {α : Type} [Ord α] [Std.TransOrd α] [Std.LawfulEqOrd α] [DecidableEq α] :
    Convergent.Lawful GrowCounter GrowCounter.Within GrowCounter.HasRoomFor ∧
      Convergent.Lawful SignedCounter SignedCounter.Within SignedCounter.HasRoomFor ∧
      Convergent.Lawful (GrowSet α) GrowSet.Within (fun _ _ => True) ∧
      Convergent.Lawful (TwoPhaseSet α) TwoPhaseSet.Within (fun _ _ => True) ∧
      ∀ vector other : ReplicaVector, vector.isDotted = false → vector.HasRoomFor other :=
  ⟨GrowCounter.lawful, SignedCounter.lawful, GrowSet.lawful, TwoPhaseSet.lawful,
    fun _ other cumulative => VersionVector.hasRoomFor_of_cumulative cumulative other⟩

/-- A dotted counter may be merged in any order with one that counts the same replica only. -/
theorem dotted_counter_merges_with_its_own_replica :
    ∃ dotted other : GrowCounter, dotted.counts.isDotted = true ∧
      dotted.HasRoomFor other ∧ other.HasRoomFor dotted ∧
      (merge dotted other == merge other dotted) = true ∧ other.Within (merge dotted other) := by
  let once : ReplicaVector := .ofDot ⟨⟨1⟩, ⟨1, by decide⟩⟩
  let twice : ReplicaVector := .ofList [(⟨1⟩, ⟨2, by decide⟩)]
  obtain ⟨laws, _, _, _, cumulative⟩ := merges_obey_laws (α := Nat)
  have counts : ∀ id, 0 < twice.get id → id ∈ twice.ids :=
    fun _ => VersionVector.mem_ids_of_get_pos
  have room : once.HasRoomFor twice := fun _ id counted => counts id counted
  have room' : twice.HasRoomFor once := cumulative twice once rfl
  exact ⟨⟨once⟩, ⟨twice⟩, rfl, room, room', (laws.comm_iff _ _).mpr ⟨room, room'⟩,
    (laws.within_right_iff _ _).mpr room⟩

/-- A dotted counter drops the counts of other replicas that it is merged with, so that the result
depends on the order and on the grouping. -/
theorem dotted_counter_drops_counts :
    ∃ dotted other : GrowCounter,
      (merge dotted other == merge other dotted) = false ∧
        ¬ other.Within (merge dotted other) ∧
        (merge (merge GrowCounter.zero dotted) other ==
          merge GrowCounter.zero (merge dotted other)) = false := by
  refine ⟨⟨.ofDot ⟨⟨1⟩, ⟨1, by decide⟩⟩⟩, ⟨.ofList [(⟨2⟩, ⟨1, by decide⟩)]⟩, by decide, ?_, by decide⟩
  intro within
  exact absurd (within ⟨2⟩) (by decide)

end Confluence

import Confluence.Proofs.Causality.VectorProperties

/-!
Version vectors as a join-semilattice. On vectors that are not dotted `dominates` is the pointwise
order of the counts, and taking in a vector gives the least vector that dominates both. Equality of
vectors is equality of counts; the laws of taking in hold of the representations as well, entries
that are zero included.

A dotted vector takes in only what it carries. It has no place in the semilattice, but what becomes
of its counts, and of those of a vector that takes it in, is said here too.
-/

set_option autoImplicit false

namespace Confluence

namespace Clock

variable {width : Nat}

instance : Std.Commutative (@absorb width) where
  comm left right := by
    apply ext
    rw [value_absorb, value_absorb, Nat.max_comm]

instance : Std.Associative (@absorb width) where
  assoc first second third := by
    apply ext
    simp only [value_absorb, Nat.max_assoc]

instance : Std.IdempotentOp (@absorb width) where
  idempotent clock := by
    apply ext
    rw [value_absorb, Nat.max_self]

end Clock

namespace VersionVector

variable {κ : Type} [Ord κ] [Std.TransOrd κ] [Std.LawfulEqOrd κ] {width : Nat}
  {vector other : VersionVector κ width}

/-! ## Order -/

theorem dominates_iff_within (left : vector.isDotted = false) (right : other.isDotted = false) :
    vector.dominates other = true ↔ other.Within vector := by
  have after := order_eq_after_iff left right
  have equal := order_eq_equal_iff left right
  unfold dominates
  cases verdict : vector.order other with
  | after => exact iff_of_true rfl (after.mp verdict).1
  | equal => exact iff_of_true rfl (equal.mp verdict).2
  | before => exact iff_of_false Bool.false_ne_true ((order_eq_before_iff left right).mp verdict).2
  | concurrent =>
      exact iff_of_false Bool.false_ne_true ((order_eq_concurrent_iff left right).mp verdict).2

theorem order_eq_pointwiseOrder (left : vector.isDotted = false) (right : other.isDotted = false) :
    vector.order other = vector.pointwiseOrder other := by
  rw [order, pointwiseOrder, comparedIds_of_cumulative left right]

/-! ## Entries of a join -/

theorem get?_absorb_eq_merge (cumulative : vector.isDotted = false)
    (other : VersionVector κ width) (id : κ) :
    (vector.absorb other).clocks.get? id =
      Option.merge Clock.absorb (vector.clocks.get? id) (other.clocks.get? id) := by
  rw [get?_absorb cumulative]
  cases present : vector.clocks.get? id with
  | none =>
      cases other.clocks.get? id with
      | none => rfl
      | some taken =>
          have fromZero : Clock.zero.absorb taken = taken := by
            apply Clock.ext
            rw [Clock.value_absorb, Clock.value_zero, Nat.zero_max]
          simp only [clock, present, Option.getD_none, fromZero, Option.merge]
  | some kept =>
      cases other.clocks.get? id with
      | none => rfl
      | some taken => simp only [clock, present, Option.getD_some, Option.merge]

theorem ids_absorb_of_cumulative (cumulative : vector.isDotted = false)
    (other : VersionVector κ width) : (vector.absorb other).ids = vector.ids.union other.ids := by
  refine OrderedSet.ext fun id => ?_
  rw [OrderedSet.mem_union, ids, ids, ids, OrderedMap.mem_keys, OrderedMap.mem_keys,
    OrderedMap.mem_keys, get?_absorb_eq_merge cumulative]
  cases vector.clocks.get? id <;> cases other.clocks.get? id <;> simp [Option.merge]

omit [Std.LawfulEqOrd κ] in
theorem ids_absorb_of_dotted (dotted : vector.isDotted = true)
    (other : VersionVector κ width) : (vector.absorb other).ids = vector.ids := by
  simp only [absorb, dotted, ↓reduceIte, ids, OrderedMap.keys_mapValues]

/-! ## The semilattice -/

theorem join_comm_of_cumulative (left : vector.isDotted = false) (right : other.isDotted = false) :
    vector.absorb other = other.absorb vector := by
  refine VersionVector.ext (fun id => ?_) ?_
  · rw [get?_absorb_eq_merge left, get?_absorb_eq_merge right]
    exact Std.Commutative.comm _ _
  · rw [isDotted_absorb, isDotted_absorb, left, right]

theorem join_assoc_of_cumulative (left : vector.isDotted = false) (right : other.isDotted = false)
    (third : VersionVector κ width) :
    (vector.absorb other).absorb third = vector.absorb (other.absorb third) := by
  have joined : (vector.absorb other).isDotted = false := (isDotted_absorb vector other).trans left
  refine VersionVector.ext (fun id => ?_) ?_
  · rw [get?_absorb_eq_merge joined, get?_absorb_eq_merge left, get?_absorb_eq_merge left,
      get?_absorb_eq_merge right]
    exact Std.Associative.assoc _ _ _
  · rw [isDotted_absorb, isDotted_absorb, isDotted_absorb]

theorem join_self_of_cumulative (cumulative : vector.isDotted = false) :
    vector.absorb vector = vector := by
  refine VersionVector.ext (fun id => ?_) (isDotted_absorb vector vector)
  rw [get?_absorb_eq_merge cumulative]
  exact Std.IdempotentOp.idempotent _

/-- The vectors that are not dotted are a join-semilattice, with `absorb` for the join: `dominates`
is an order up to equality of counts, and a join is the least vector that dominates both. The laws
of `absorb` are equations between representations, so that entries, zeros and texts are the same. -/
structure JoinSemilattice (κ : Type) [Ord κ] [Std.TransOrd κ] [Std.LawfulEqOrd κ] (width : Nat) :
    Prop where
  dominates_refl : ∀ {vector : VersionVector κ width}, vector.isDotted = false →
    vector.dominates vector = true
  dominates_trans : ∀ {first second third : VersionVector κ width}, first.isDotted = false →
    second.isDotted = false → third.isDotted = false →
    first.dominates second = true → second.dominates third = true → first.dominates third = true
  dominates_antisymm : ∀ {vector other : VersionVector κ width}, vector.isDotted = false →
    other.isDotted = false → vector.dominates other = true → other.dominates vector = true →
    (vector == other) = true
  partialCompare?_eq : ∀ {vector other : VersionVector κ width}, vector.isDotted = false →
    other.isDotted = false → vector.partialCompare? other = (vector.order other).toOrdering?
  join_dominates : ∀ {vector other : VersionVector κ width}, vector.isDotted = false →
    other.isDotted = false → (vector.absorb other).dominates vector = true ∧
      (vector.absorb other).dominates other = true
  join_least : ∀ {vector other bound : VersionVector κ width}, vector.isDotted = false →
    other.isDotted = false → bound.isDotted = false → bound.dominates vector = true →
    bound.dominates other = true → bound.dominates (vector.absorb other) = true
  dominates_iff_join : ∀ {vector other : VersionVector κ width}, vector.isDotted = false →
    other.isDotted = false →
    (vector.dominates other = true ↔ (vector.absorb other == vector) = true)
  join_comm : ∀ {vector other : VersionVector κ width}, vector.isDotted = false →
    other.isDotted = false → vector.absorb other = other.absorb vector
  join_assoc : ∀ {first second third : VersionVector κ width}, first.isDotted = false →
    second.isDotted = false → third.isDotted = false →
    (first.absorb second).absorb third = first.absorb (second.absorb third)
  join_self : ∀ {vector : VersionVector κ width}, vector.isDotted = false →
    vector.absorb vector = vector

theorem joinSemilattice : JoinSemilattice κ width where
  dominates_refl cumulative := (dominates_iff_within cumulative cumulative).mpr (.refl _)
  dominates_trans left middle right above below :=
    (dominates_iff_within left right).mpr
      (((dominates_iff_within middle right).mp below).trans
        ((dominates_iff_within left middle).mp above))
  dominates_antisymm left right above below :=
    beq_iff_within.mpr
      ⟨(dominates_iff_within right left).mp below, (dominates_iff_within left right).mp above⟩
  partialCompare?_eq left right := by rw [partialCompare?, order_eq_pointwiseOrder left right]
  join_dominates {vector other} left right := by
    have joined := (isDotted_absorb vector other).trans left
    exact ⟨(dominates_iff_within joined left).mpr (within_absorb_left left other),
      (dominates_iff_within joined right).mpr (within_absorb_right left other)⟩
  join_least {vector other _} left right isCumulative above above' := by
    have joined := (isDotted_absorb vector other).trans left
    refine (dominates_iff_within isCumulative joined).mpr fun id => ?_
    rw [get_absorb left]
    exact Nat.max_le.mpr ⟨(dominates_iff_within isCumulative left).mp above id,
      (dominates_iff_within isCumulative right).mp above' id⟩
  dominates_iff_join {_ other} left right := by
    rw [dominates_iff_within left right, beq_iff_within]
    constructor
    · intro within
      refine ⟨fun id => ?_, within_absorb_left left other⟩
      rw [get_absorb left]
      exact Nat.max_le.mpr ⟨Nat.le_refl _, within id⟩
    · exact fun same => (within_absorb_right left other).trans same.1
  join_comm := join_comm_of_cumulative
  join_assoc left right _ := join_assoc_of_cumulative left right _
  join_self := join_self_of_cumulative

/-- What `absorb` does to the entries of a vector, whatever the mode of the other. A vector that is
not dotted receives all entries of the other. A dotted one keeps to the entries that it has, and
raises each of them. -/
structure AbsorbsByMode (κ : Type) [Ord κ] [Std.TransOrd κ] [Std.LawfulEqOrd κ] (width : Nat) :
    Prop where
  keeps_mode : ∀ vector other : VersionVector κ width,
    (vector.absorb other).isDotted = vector.isDotted
  ids_of_cumulative : ∀ {vector : VersionVector κ width}, vector.isDotted = false →
    ∀ other, (vector.absorb other).ids = vector.ids.union other.ids
  get_of_cumulative : ∀ {vector : VersionVector κ width}, vector.isDotted = false →
    ∀ other id, (vector.absorb other).get id = max (vector.get id) (other.get id)
  ids_of_dotted : ∀ {vector : VersionVector κ width}, vector.isDotted = true →
    ∀ other, (vector.absorb other).ids = vector.ids
  get_of_dotted : ∀ {vector : VersionVector κ width}, vector.isDotted = true →
    ∀ other, ∀ id ∈ vector.ids, (vector.absorb other).get id = max (vector.get id) (other.get id)

theorem absorbsByMode : AbsorbsByMode κ width where
  keeps_mode := isDotted_absorb
  ids_of_cumulative := ids_absorb_of_cumulative
  get_of_cumulative := get_absorb
  ids_of_dotted := ids_absorb_of_dotted
  get_of_dotted dotted other id carried := by
    classical
    rw [get_absorb_of_dotted dotted, if_pos carried]

/-- Version vectors over any type of replicas, counted in words of any width, are a join-semilattice
as far as they are not dotted, and a join with a dotted vector moves what the receiver may move. -/
theorem vectors_join_what_they_count (κ : Type) [Ord κ] [Std.TransOrd κ] [Std.LawfulEqOrd κ]
    (width : Nat) : JoinSemilattice κ width ∧ AbsorbsByMode κ width :=
  ⟨joinSemilattice, absorbsByMode⟩

/-- Two vectors, of which one has an entry that is zero and the other an entry of its own, and a
dotted vector between them. -/
theorem zero_entry_survives_join_in_either_order :
    ∃ first second dotted : VersionVector Nat 8,
      first.isDotted = false ∧ second.isDotted = false ∧ dotted.isDotted = true ∧
        first.absorb second = second.absorb first ∧ (first.absorb second).ids.elements = [1, 2, 3] ∧
        (first.absorb second).dominates first = true ∧ first.dominates second = false ∧
        (first.absorb dotted).get 2 = 4 ∧ (dotted.absorb first).ids.elements = [2] := by
  let first : VersionVector Nat 8 := .ofList [(1, ⟨2, by decide⟩), (3, ⟨0, by decide⟩)]
  let second : VersionVector Nat 8 := .ofList [(2, ⟨1, by decide⟩)]
  let dotted : VersionVector Nat 8 := .ofDot ⟨2, ⟨4, by decide⟩⟩
  obtain ⟨lattice, modes⟩ := vectors_join_what_they_count Nat 8
  refine ⟨first, second, dotted, rfl, rfl, rfl, lattice.join_comm rfl rfl, ?_,
    (lattice.join_dominates rfl rfl).1, by decide, ?_, ?_⟩
  · rw [modes.ids_of_cumulative rfl]
    rfl
  · exact modes.get_of_cumulative rfl dotted 2
  · rw [modes.ids_of_dotted rfl]
    rfl

end VersionVector

end Confluence

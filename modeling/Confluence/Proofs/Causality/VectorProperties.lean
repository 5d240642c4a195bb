import Confluence.Causality.VersionVector

/-!
How the operations of version vectors act on the counts that a vector holds, one count for every
replica. A vector that is not dotted is compared on all replicas; one that speaks of a single event
is compared with such a vector on the replica of that event alone.
-/

set_option autoImplicit false

namespace Confluence

namespace CausalOrder

theorem ofDifferences_eq_equal_iff {behind ahead : Bool} :
    ofDifferences behind ahead = .equal ↔ behind = false ∧ ahead = false := by
  cases behind <;> cases ahead <;> simp [ofDifferences]

theorem ofDifferences_eq_before_iff {behind ahead : Bool} :
    ofDifferences behind ahead = .before ↔ behind = true ∧ ahead = false := by
  cases behind <;> cases ahead <;> simp [ofDifferences]

theorem ofDifferences_eq_after_iff {behind ahead : Bool} :
    ofDifferences behind ahead = .after ↔ behind = false ∧ ahead = true := by
  cases behind <;> cases ahead <;> simp [ofDifferences]

theorem ofDifferences_eq_concurrent_iff {behind ahead : Bool} :
    ofDifferences behind ahead = .concurrent ↔ behind = true ∧ ahead = true := by
  cases behind <;> cases ahead <;> simp [ofDifferences]

end CausalOrder

theorem Dot.ext {κ : Type} {width : Nat} {left right : Dot κ width} (id : left.id = right.id)
    (clock : left.clock = right.clock) : left = right := by
  cases left
  cases right
  cases id
  cases clock
  rfl

namespace VersionVector

variable {κ : Type} [Ord κ] {width : Nat}

@[simp] theorem get_empty (id : κ) : (∅ : VersionVector κ width).get id = 0 := rfl

/-- Every replica is at least as far in `other` as in `vector`. -/
def Within (vector other : VersionVector κ width) : Prop := ∀ id, vector.get id ≤ other.get id

theorem Within.refl (vector : VersionVector κ width) : vector.Within vector :=
  fun _ => Nat.le_refl _

theorem Within.trans {first second third : VersionVector κ width} (lower : first.Within second)
    (upper : second.Within third) : first.Within third :=
  fun id => Nat.le_trans (lower id) (upper id)

variable [Std.TransOrd κ] [Std.LawfulEqOrd κ]

omit [Std.TransOrd κ] in
theorem mem_ids_of_get_pos {vector : VersionVector κ width} {id : κ}
    (positive : 0 < vector.get id) : id ∈ vector.ids := by
  rw [ids, OrderedMap.mem_keys]
  cases found : vector.clocks.get? id with
  | none => simp [get, clock, found] at positive
  | some clock => rfl

/-! ## Counting an event -/

omit [Std.LawfulEqOrd κ] in
theorem increment_eq_ok_iff {vector next : VersionVector κ width} {id : κ} :
    vector.increment id = .ok next ↔
      ∃ clock : Clock width, clock.value = vector.get id + 1 ∧
        next = { vector with clocks := vector.clocks.insert id clock } := by
  unfold increment
  cases counted : (vector.clock id).increment with
  | error error =>
      simp only [Except.map, reduceCtorEq, false_iff]
      rintro ⟨clock, ahead, _⟩
      rw [Clock.increment_eq_ok_iff.mpr ahead] at counted
      cases counted
  | ok clock =>
      have ahead := Clock.increment_eq_ok_iff.mp counted
      simp only [Except.map, Except.ok.injEq]
      constructor
      · rintro rfl
        exact ⟨clock, ahead, rfl⟩
      · rintro ⟨other, same, rfl⟩
        rw [Clock.ext (same.trans ahead.symm)]

theorem get_increment_self {vector next : VersionVector κ width} {id : κ}
    (counted : vector.increment id = .ok next) : next.get id = vector.get id + 1 := by
  obtain ⟨clock, ahead, rfl⟩ := increment_eq_ok_iff.mp counted
  simpa [get, VersionVector.clock] using ahead

theorem get_increment_of_ne {vector next : VersionVector κ width} {id query : κ}
    (counted : vector.increment id = .ok next) (different : query ≠ id) :
    next.get query = vector.get query := by
  obtain ⟨clock, _, rfl⟩ := increment_eq_ok_iff.mp counted
  simp [get, VersionVector.clock, OrderedMap.get?_insert, different]

omit [Std.LawfulEqOrd κ] in
theorem isDotted_increment {vector next : VersionVector κ width} {id : κ}
    (counted : vector.increment id = .ok next) : next.isDotted = vector.isDotted := by
  obtain ⟨clock, _, rfl⟩ := increment_eq_ok_iff.mp counted
  rfl

omit [Std.LawfulEqOrd κ] in
theorem increment_eq_error_iff {vector : VersionVector κ width} {id : κ} {error : StateError} :
    vector.increment id = .error error ↔
      error = .clockOverflow ∧ vector.get id = Word.size width - 1 := by
  rw [get, ← Clock.increment_eq_error_iff, increment]
  cases (vector.clock id).increment <;> simp [Except.map]

omit [Std.LawfulEqOrd κ] in
theorem exists_increment {vector : VersionVector κ width} {id : κ}
    (room : vector.get id ≠ Word.size width - 1) : ∃ next, vector.increment id = .ok next := by
  cases counted : vector.increment id with
  | ok next => exact ⟨next, rfl⟩
  | error error => exact absurd (increment_eq_error_iff.mp counted).2 room

omit [Std.LawfulEqOrd κ] in
/-- A clock that another vector is ahead of is not at its end. -/
theorem exists_increment_of_lt {vector other : VersionVector κ width} {id : κ}
    (behind : vector.get id < other.get id) : ∃ next, vector.increment id = .ok next := by
  have bounded : other.get id < Word.size width := (other.clock id).value_lt
  exact exists_increment (by omega)

theorem mem_ids_increment {vector next : VersionVector κ width} {id query : κ}
    (counted : vector.increment id = .ok next) :
    query ∈ next.ids ↔ query = id ∨ query ∈ vector.ids := by
  obtain ⟨clock, _, rfl⟩ := increment_eq_ok_iff.mp counted
  rw [ids, ids, OrderedMap.mem_keys, OrderedMap.mem_keys, OrderedMap.get?_insert]
  split <;> simp_all

theorem within_increment {vector next : VersionVector κ width} {id : κ}
    (counted : vector.increment id = .ok next) : vector.Within next := by
  intro query
  by_cases same : query = id
  · subst same
    rw [get_increment_self counted]
    exact Nat.le_succ _
  · exact Nat.le_of_eq (get_increment_of_ne counted same).symm

/-! ## Taking in another vector -/

omit [Std.LawfulEqOrd κ] in
@[simp] theorem isDotted_absorb (vector other : VersionVector κ width) :
    (vector.absorb other).isDotted = vector.isDotted := by
  unfold absorb
  split <;> rfl

theorem get?_absorb {vector : VersionVector κ width} (cumulative : vector.isDotted = false)
    (other : VersionVector κ width) (id : κ) :
    (vector.absorb other).clocks.get? id =
      match other.clocks.get? id with
      | some clock => some ((vector.clock id).absorb clock)
      | none => vector.clocks.get? id := by
  simp only [absorb, cumulative, Bool.false_eq_true, ↓reduceIte, OrderedMap.get?_mergeWith]
  cases other.clocks.get? id <;> rfl

theorem get_absorb {vector : VersionVector κ width} (cumulative : vector.isDotted = false)
    (other : VersionVector κ width) (id : κ) :
    (vector.absorb other).get id = max (vector.get id) (other.get id) := by
  simp only [get, clock, get?_absorb cumulative]
  cases found : other.clocks.get? id with
  | none => simp
  | some clock => simp

theorem within_absorb_left {vector : VersionVector κ width} (cumulative : vector.isDotted = false)
    (other : VersionVector κ width) : vector.Within (vector.absorb other) := by
  intro id
  rw [get_absorb cumulative]
  exact Nat.le_max_left _ _

theorem within_absorb_right {vector : VersionVector κ width}
    (cumulative : vector.isDotted = false) (other : VersionVector κ width) :
    other.Within (vector.absorb other) := by
  intro id
  rw [get_absorb cumulative]
  exact Nat.le_max_right _ _

/-- Whether `vector` can take in all of `other`: a dotted vector moves only the clocks that it
carries, and any other vector all clocks. -/
def HasRoomFor (vector other : VersionVector κ width) : Prop :=
  vector.isDotted = true → ∀ id, 0 < other.get id → id ∈ vector.ids

theorem get_absorb_of_dotted {vector : VersionVector κ width} (dotted : vector.isDotted = true)
    (other : VersionVector κ width) (id : κ) [Decidable (id ∈ vector.ids)] :
    (vector.absorb other).get id =
      if id ∈ vector.ids then max (vector.get id) (other.get id) else 0 := by
  have carried : id ∈ vector.ids ↔ (vector.clocks.get? id).isSome = true := OrderedMap.mem_keys
  simp only [absorb, dotted, ↓reduceIte, get, clock, OrderedMap.get?_mapValues, carried]
  cases vector.clocks.get? id with
  | none => simp
  | some present => simp

theorem get_absorb_le (vector other : VersionVector κ width) (id : κ) :
    (vector.absorb other).get id ≤ max (vector.get id) (other.get id) := by
  classical
  cases dotted : vector.isDotted with
  | false => exact Nat.le_of_eq (get_absorb dotted other id)
  | true =>
      rw [get_absorb_of_dotted dotted]
      split <;> omega

theorem within_absorb (vector other : VersionVector κ width) :
    vector.Within (vector.absorb other) := by
  classical
  cases dotted : vector.isDotted with
  | false => exact within_absorb_left dotted other
  | true =>
      intro id
      rw [get_absorb_of_dotted dotted]
      split
      · exact Nat.le_max_left _ _
      next absent => exact Nat.le_of_not_gt fun counted => absent (mem_ids_of_get_pos counted)

/-- A vector without room for another loses what it has no room for. -/
theorem within_absorb_right_iff {vector other : VersionVector κ width} :
    other.Within (vector.absorb other) ↔ vector.HasRoomFor other := by
  classical
  constructor
  · intro within dotted id counted
    refine Classical.byContradiction fun absent => ?_
    have kept := within id
    rw [get_absorb_of_dotted dotted, if_neg absent] at kept
    omega
  · intro room id
    cases dotted : vector.isDotted with
    | false => exact within_absorb_right dotted other id
    | true =>
        rw [get_absorb_of_dotted dotted]
        split
        · exact Nat.le_max_right _ _
        next absent => exact Nat.le_of_not_gt fun counted => absent (room dotted id counted)

theorem get_absorb_of_room {vector other : VersionVector κ width} (room : vector.HasRoomFor other)
    (id : κ) : (vector.absorb other).get id = max (vector.get id) (other.get id) :=
  Nat.le_antisymm (get_absorb_le vector other id)
    (Nat.max_le.mpr ⟨within_absorb vector other id, within_absorb_right_iff.mpr room id⟩)

/-! ## Comparison -/

omit [Std.TransOrd κ] [Std.LawfulEqOrd κ] in
theorem isBehindOn_eq_false_iff {vector other : VersionVector κ width} {ids : OrderedSet κ} :
    vector.isBehindOn other ids = false ↔ ∀ id ∈ ids, other.get id ≤ vector.get id := by
  simp only [isBehindOn, List.any_eq_false, decide_eq_true_eq, Nat.not_lt]
  rfl

omit [Std.TransOrd κ] in
/-- Replicas without an entry stand at zero, so leaving them out of a comparison loses nothing. -/
theorem isBehindOn_eq_false_iff_within {vector other : VersionVector κ width} {ids : OrderedSet κ}
    (listed : ∀ id ∈ other.ids, id ∈ ids) :
    vector.isBehindOn other ids = false ↔ other.Within vector := by
  rw [isBehindOn_eq_false_iff]
  constructor
  · intro covered id
    by_cases counted : 0 < other.get id
    · exact covered id (listed id (mem_ids_of_get_pos counted))
    · omega
  · intro within id _
    exact within id

theorem isBehindOn_union_eq_false_iff {vector other : VersionVector κ width} :
    vector.isBehindOn other (vector.ids.union other.ids) = false ↔ other.Within vector :=
  isBehindOn_eq_false_iff_within fun _ isListed => OrderedSet.mem_union.mpr (.inr isListed)

theorem isAheadOn_union_eq_false_iff {vector other : VersionVector κ width} :
    other.isBehindOn vector (vector.ids.union other.ids) = false ↔ vector.Within other :=
  isBehindOn_eq_false_iff_within fun _ isListed => OrderedSet.mem_union.mpr (.inl isListed)

section Cumulative

variable {vector other : VersionVector κ width}

theorem comparedIds_of_cumulative (left : vector.isDotted = false)
    (right : other.isDotted = false) : vector.comparedIds other = vector.ids.union other.ids := by
  simp [comparedIds, left, right]

theorem order_eq_before_iff (left : vector.isDotted = false) (right : other.isDotted = false) :
    vector.order other = .before ↔ vector.Within other ∧ ¬ other.Within vector := by
  rw [order, comparedIds_of_cumulative left right, orderOn,
    CausalOrder.ofDifferences_eq_before_iff, isAheadOn_union_eq_false_iff,
    ← Bool.not_eq_false, isBehindOn_union_eq_false_iff]
  exact And.comm

theorem order_eq_after_iff (left : vector.isDotted = false) (right : other.isDotted = false) :
    vector.order other = .after ↔ other.Within vector ∧ ¬ vector.Within other := by
  rw [order, comparedIds_of_cumulative left right, orderOn,
    CausalOrder.ofDifferences_eq_after_iff, isBehindOn_union_eq_false_iff,
    ← Bool.not_eq_false, isAheadOn_union_eq_false_iff]

theorem order_eq_equal_iff (left : vector.isDotted = false) (right : other.isDotted = false) :
    vector.order other = .equal ↔ vector.Within other ∧ other.Within vector := by
  rw [order, comparedIds_of_cumulative left right, orderOn,
    CausalOrder.ofDifferences_eq_equal_iff, isBehindOn_union_eq_false_iff,
    isAheadOn_union_eq_false_iff]
  exact And.comm

theorem order_eq_concurrent_iff (left : vector.isDotted = false)
    (right : other.isDotted = false) :
    vector.order other = .concurrent ↔ ¬ vector.Within other ∧ ¬ other.Within vector := by
  rw [order, comparedIds_of_cumulative left right, orderOn,
    CausalOrder.ofDifferences_eq_concurrent_iff, ← Bool.not_eq_false, ← Bool.not_eq_false,
    isBehindOn_union_eq_false_iff, isAheadOn_union_eq_false_iff]
  exact And.comm

end Cumulative

/-- Equality of vectors is equality of all counts, whether they are dotted or not. -/
theorem beq_iff_within {vector other : VersionVector κ width} :
    (vector == other) = true ↔ vector.Within other ∧ other.Within vector := by
  change (vector.pointwiseOrder other == .equal) = true ↔ _
  rw [beq_iff_eq, pointwiseOrder, orderOn, CausalOrder.ofDifferences_eq_equal_iff,
    isBehindOn_union_eq_false_iff, isAheadOn_union_eq_false_iff]
  exact And.comm

theorem beq_iff_get {vector other : VersionVector κ width} :
    (vector == other) = true ↔ ∀ id, vector.get id = other.get id := by
  rw [beq_iff_within]
  constructor
  · rintro ⟨lower, upper⟩ id
    exact Nat.le_antisymm (lower id) (upper id)
  · exact fun same =>
      ⟨fun id => Nat.le_of_eq (same id), fun id => Nat.le_of_eq (same id).symm⟩

instance : ReflBEq (VersionVector κ width) where
  rfl := beq_iff_within.mpr ⟨.refl _, .refl _⟩

instance : EquivBEq (VersionVector κ width) where
  symm same := beq_iff_within.mpr (beq_iff_within.mp same).symm
  trans first second := by
    obtain ⟨lower, upper⟩ := beq_iff_within.mp first
    obtain ⟨lower', upper'⟩ := beq_iff_within.mp second
    exact beq_iff_within.mpr ⟨lower.trans lower', upper'.trans upper⟩

/-! ## Single events -/

@[simp] theorem clock_toVector_self (dot : Dot κ width) :
    dot.toVector.clock dot.id = dot.clock := by
  simp [Dot.toVector, ofDot, clock]

@[simp] theorem get_toVector_self (dot : Dot κ width) :
    dot.toVector.get dot.id = dot.clock.value := by
  simp [get]

theorem get_toVector_of_ne {dot : Dot κ width} {id : κ} (different : id ≠ dot.id) :
    dot.toVector.get id = 0 := by
  simp [Dot.toVector, ofDot, get, clock, OrderedMap.get?_insert, different]

theorem elements_comparedIds_toVector {vector : VersionVector κ width}
    (cumulative : vector.isDotted = false) (dot : Dot κ width) :
    (vector.comparedIds dot.toVector).elements = [dot.id] := by
  simp only [comparedIds, cumulative, Dot.toVector, ofDot]
  rfl

theorem precedes_toVector_iff {vector : VersionVector κ width}
    (cumulative : vector.isDotted = false) (dot : Dot κ width) :
    vector.precedes dot.toVector = true ↔ dot.clock.value = vector.get dot.id + 1 := by
  unfold precedes
  rw [elements_comparedIds_toVector cumulative]
  by_cases same : vector.clock dot.id = dot.clock
  · have agree : vector.get dot.id = dot.clock.value := congrArg Clock.value same
    simp only [List.filter, clock_toVector_self, same, bne_self_eq_false, Bool.false_eq_true,
      false_iff]
    omega
  · have differ : (vector.clock dot.id != dot.clock) = true := by simpa using same
    simp only [List.filter, clock_toVector_self, differ]
    exact Clock.precedes_iff

theorem dominates_toVector_iff {vector : VersionVector κ width}
    (cumulative : vector.isDotted = false) (dot : Dot κ width) :
    vector.dominates dot.toVector = true ↔ dot.clock.value ≤ vector.get dot.id := by
  have onlyId : ∀ id, id ∈ vector.comparedIds dot.toVector ↔ id = dot.id := by
    intro id
    rw [← OrderedSet.mem_elements, elements_comparedIds_toVector cumulative, List.mem_singleton]
  have behind : vector.isBehindOn dot.toVector (vector.comparedIds dot.toVector) = false ↔
      dot.clock.value ≤ vector.get dot.id := by
    rw [isBehindOn_eq_false_iff]
    simp [onlyId]
  rw [dominates, order, orderOn, ← behind]
  cases vector.isBehindOn dot.toVector (vector.comparedIds dot.toVector) <;>
    cases dot.toVector.isBehindOn vector (vector.comparedIds dot.toVector) <;>
    simp [CausalOrder.ofDifferences]

theorem get_absorb_toVector_self {vector : VersionVector κ width}
    (cumulative : vector.isDotted = false) (dot : Dot κ width) :
    (vector.absorb dot.toVector).get dot.id = max (vector.get dot.id) dot.clock.value := by
  rw [get_absorb cumulative, get_toVector_self]

theorem get_absorb_toVector_of_ne {vector : VersionVector κ width}
    (cumulative : vector.isDotted = false) {dot : Dot κ width} {id : κ}
    (different : id ≠ dot.id) : (vector.absorb dot.toVector).get id = vector.get id := by
  rw [get_absorb cumulative, get_toVector_of_ne different, Nat.max_zero]

/-! ## Representations -/

@[ext] theorem ext {vector other : VersionVector κ width}
    (clocks : ∀ id, vector.clocks.get? id = other.clocks.get? id)
    (dotted : vector.isDotted = other.isDotted) : vector = other := by
  have same := OrderedMap.ext clocks
  cases vector
  cases other
  cases same
  cases dotted
  rfl

/-- What becomes of a vector that only takes in events: it has a new entry exactly where it has
come to count more. -/
structure Raised (vector raised : VersionVector κ width) : Prop where
  sameMode : raised.isDotted = vector.isDotted
  within : vector.Within raised
  entries : ∀ id, raised.clocks.get? id =
    if vector.get id < raised.get id then some (raised.clock id) else vector.clocks.get? id

namespace Raised

variable {vector raised other : VersionVector κ width}

omit [Std.TransOrd κ] [Std.LawfulEqOrd κ] in
theorem refl (vector : VersionVector κ width) : vector.Raised vector where
  sameMode := rfl
  within := .refl vector
  entries _ := (if_neg (Nat.lt_irrefl _)).symm

theorem absorb_toVector (isRaised : vector.Raised raised) (cumulative : raised.isDotted = false)
    {dot : Dot κ width} (ahead : raised.get dot.id < dot.clock.value) :
    vector.Raised (raised.absorb dot.toVector) := by
  refine ⟨(isDotted_absorb _ _).trans isRaised.sameMode,
    isRaised.within.trans (within_absorb_left cumulative _), fun id => ?_⟩
  have entry := get?_absorb cumulative dot.toVector id
  by_cases same : id = dot.id
  · subst same
    have grown := get_absorb_toVector_self cumulative dot
    have lower := isRaised.within dot.id
    rw [Dot.toVector, ofDot, OrderedMap.get?_insert_self] at entry
    rw [if_pos (by omega), clock, Dot.toVector, ofDot, entry, Option.getD_some]
  · have kept : (raised.absorb dot.toVector).clocks.get? id = raised.clocks.get? id := by
      rw [entry, Dot.toVector, ofDot, OrderedMap.get?_insert, if_neg (by simpa using same)]
      rfl
    have sameClock : (raised.absorb dot.toVector).clock id = raised.clock id :=
      congrArg (·.getD .zero) kept
    rw [kept, get_absorb_toVector_of_ne cumulative same, sameClock]
    exact isRaised.entries id

/-- What a vector was raised to is determined by what it counts. -/
theorem eq_of_get (left : vector.Raised raised) (right : vector.Raised other)
    (same : ∀ id, raised.get id = other.get id) : raised = other := by
  refine VersionVector.ext (fun id => ?_) (left.sameMode.trans right.sameMode.symm)
  have sameClock : raised.clock id = other.clock id := Clock.ext (same id)
  rw [left.entries, right.entries, same id, sameClock]

end Raised

/-! ## Canonical vectors -/

/-- A vector that is not dotted and has entries only for replicas of which it has seen an event.
Such a vector is determined by its counts. -/
structure Canonical (vector : VersionVector κ width) : Prop where
  cumulative : vector.isDotted = false
  significant : ∀ id clock, vector.clocks.get? id = some clock → 0 < clock.value

omit [Std.TransOrd κ] [Std.LawfulEqOrd κ] in
theorem canonical_empty : (∅ : VersionVector κ width).Canonical where
  cumulative := rfl
  significant id clock found := by cases found

theorem Canonical.increment {vector next : VersionVector κ width} {id : κ}
    (canonical : vector.Canonical) (counted : vector.increment id = .ok next) :
    next.Canonical := by
  obtain ⟨clock, ahead, rfl⟩ := increment_eq_ok_iff.mp counted
  refine ⟨canonical.cumulative, ?_⟩
  intro query present found
  by_cases same : query = id
  · subst same
    rw [OrderedMap.get?_insert_self] at found
    cases found
    omega
  · rw [OrderedMap.get?_insert, if_neg (by simpa using same)] at found
    exact canonical.significant query present found

/-- What is taken in need not be canonical as long as it has no entry that is zero. -/
theorem Canonical.absorb {vector other : VersionVector κ width} (canonical : vector.Canonical)
    (significant : ∀ id clock, other.clocks.get? id = some clock → 0 < clock.value) :
    (vector.absorb other).Canonical := by
  refine ⟨by rw [isDotted_absorb, canonical.cumulative], ?_⟩
  intro id clock found
  rw [get?_absorb canonical.cumulative] at found
  cases present : other.clocks.get? id with
  | none =>
      rw [present] at found
      exact canonical.significant id clock found
  | some seen =>
      rw [present] at found
      cases found
      have positive := significant id seen present
      rw [Clock.value_absorb]
      omega

theorem Canonical.absorb_toVector {vector : VersionVector κ width} (canonical : vector.Canonical)
    {dot : Dot κ width} (positive : 0 < dot.clock.value) :
    (vector.absorb dot.toVector).Canonical := by
  refine canonical.absorb ?_
  intro id clock found
  rw [Dot.toVector, ofDot, OrderedMap.get?_insert] at found
  split at found
  · cases found
    exact positive
  · cases found

omit [Std.TransOrd κ] [Std.LawfulEqOrd κ] in
theorem Canonical.get?_eq_some_iff {vector : VersionVector κ width}
    (canonical : vector.Canonical) {id : κ} {clock : Clock width} :
    vector.clocks.get? id = some clock ↔ 0 < vector.get id ∧ vector.clock id = clock := by
  constructor
  · intro found
    have same : vector.clock id = clock := by simp [VersionVector.clock, found]
    refine ⟨?_, same⟩
    rw [get, same]
    exact canonical.significant id clock found
  · rintro ⟨positive, rfl⟩
    cases found : vector.clocks.get? id with
    | none => simp [get, VersionVector.clock, found] at positive
    | some clock => simp [VersionVector.clock, found]

theorem Canonical.ext {vector other : VersionVector κ width} (left : vector.Canonical)
    (right : other.Canonical) (same : ∀ id, vector.get id = other.get id) : vector = other := by
  refine VersionVector.ext (fun id => Option.ext fun clock => ?_) ?_
  · have agree : vector.clock id = other.clock id := Clock.ext (same id)
    rw [left.get?_eq_some_iff, right.get?_eq_some_iff, same id, agree]
  · rw [left.cumulative, right.cumulative]

theorem Canonical.absorb_eq_self {vector other : VersionVector κ width}
    (left : vector.Canonical) (right : other.Canonical) (within : other.Within vector) :
    vector.absorb other = vector := by
  refine (left.absorb right.significant).ext left fun id => ?_
  rw [get_absorb left.cumulative]
  exact Nat.max_eq_left (within id)

end VersionVector

end Confluence

import Mathlib.Algebra.Order.BigOperators.Group.List
import Mathlib.Algebra.Order.Ring.Nat
import Mathlib.Data.List.Nodup
import Confluence.Proofs.Causality.VectorProperties

/-!
How many events a version vector has seen. The total is added up in words of 128 bits. It is exact
for every vector of fewer than `2 ^ 63` clocks of 64 bits, which is more than fit into a memory that
is addressed by 64 bits, and then it is a number of signed words of 128 bits too.

The number of events grows with the counts: an event more is one more, and a vector that is ahead of
another somewhere, and nowhere behind it, has seen more.
-/

set_option autoImplicit false

namespace Confluence.VersionVector

variable {κ : Type} [Ord κ] {width : Nat}

/-- The number of all events that the vector has seen. -/
def events (vector : VersionVector κ width) : Nat := (vector.clocks.values.map (·.value)).sum

/-! ## Bounds -/

private theorem sum_values_le (clocks : List (Clock width)) :
    (clocks.map (·.value)).sum ≤ clocks.length * (Word.size width - 1) := by
  induction clocks with
  | nil => exact Nat.zero_le _
  | cons first later ih =>
      have bounded : first.value ≤ Word.size width - 1 := Nat.le_pred_of_lt first.value_lt
      rw [List.map_cons, List.sum_cons, List.length_cons, Nat.succ_mul, Nat.add_comm]
      exact Nat.add_le_add ih bounded

/-- There is room for one event more. -/
theorem events_succ_lt {vector : VersionVector κ 64} (few : vector.size < Word.size 63) :
    vector.events + 1 < Word.size 127 := by
  have bounded := sum_values_le vector.clocks.values
  have length : vector.clocks.values.length = vector.size := List.length_map _
  rw [length] at bounded
  have atMost : vector.size * (Word.size 64 - 1) ≤ (Word.size 63 - 1) * (Word.size 64 - 1) :=
    Nat.mul_le_mul_right _ (Nat.le_pred_of_lt few)
  have fits : (Word.size 63 - 1) * (Word.size 64 - 1) + 1 < Word.size 127 := by decide
  exact Nat.lt_of_le_of_lt (Nat.succ_le_succ (Nat.le_trans bounded atMost)) fits

theorem events_lt {vector : VersionVector κ 64} (few : vector.size < Word.size 63) :
    vector.events < Word.size 127 :=
  Nat.lt_of_succ_lt (events_succ_lt few)

private theorem toNat_foldr_widen (clocks : List (Clock width)) :
    (clocks.foldr (fun (clock : Clock width) (sum : BitVec 128) => clock.widen + sum) 0).toNat =
      (clocks.map (·.value)).sum % 2 ^ 128 := by
  induction clocks with
  | nil => rfl
  | cons first later ih =>
      rw [List.foldr_cons, BitVec.toNat_add, ih, Clock.widen, BitVec.toNat_ofNat, List.map_cons,
        List.sum_cons, ← Nat.add_mod]

theorem toNat_total {vector : VersionVector κ width} (fits : vector.events < Word.size 128) :
    vector.total.toNat = vector.events :=
  (toNat_foldr_widen vector.clocks.values).trans (Nat.mod_eq_of_lt fits)

/-! ## Events by replica -/

private theorem sum_map_filter_pos {α : Type} (count : α → Nat) (members : List α) :
    ((members.filter fun member => decide (0 < count member)).map count).sum =
      (members.map count).sum := by
  induction members with
  | nil => rfl
  | cons first later ih =>
      by_cases positive : 0 < count first
      · rw [List.filter_cons_of_pos (by simpa using positive), List.map_cons, List.map_cons,
          List.sum_cons, List.sum_cons, ih]
      · rw [List.filter_cons_of_neg (by simpa using positive), ih, List.map_cons, List.sum_cons]
        omega

variable [Std.TransOrd κ] [Std.LawfulEqOrd κ]

theorem sum_get_ids (vector : VersionVector κ width) :
    (vector.ids.elements.map vector.get).sum = vector.events := by
  have counted : ∀ entry ∈ vector.clocks.entries, vector.get entry.1 = entry.2.value := by
    intro entry isEntry
    have found : vector.clocks.get? entry.1 = some entry.2 :=
      OrderedMap.get?_eq_some_iff.mpr isEntry
    rw [get, clock, found]
    rfl
  have agree : vector.ids.elements.map vector.get = vector.clocks.values.map (·.value) := by
    simp only [ids, OrderedMap.keys, OrderedMap.values, List.map_map]
    exact List.map_congr_left counted
  rw [agree]
  rfl

/-- The events can be counted over any replicas among which are all that had one. -/
theorem sum_get {vector : VersionVector κ width} {ids : OrderedSet κ}
    (covers : ∀ id, 0 < vector.get id → id ∈ ids) :
    (ids.elements.map vector.get).sum = vector.events := by
  have sameActive : ids.filter (fun id => decide (0 < vector.get id)) =
      vector.ids.filter fun id => decide (0 < vector.get id) := by
    refine OrderedSet.ext fun id => ?_
    rw [OrderedSet.mem_filter, OrderedSet.mem_filter, decide_eq_true_eq]
    constructor
    · intro active
      exact ⟨mem_ids_of_get_pos active.2, active.2⟩
    · intro active
      exact ⟨covers id active.2, active.2⟩
  have sameElements := congrArg OrderedSet.elements sameActive
  rw [← sum_get_ids, ← sum_map_filter_pos vector.get ids.elements,
    ← sum_map_filter_pos vector.get vector.ids.elements]
  exact congrArg (fun active => (active.map vector.get).sum) sameElements

/-! ## Growth -/

section Growth

variable {vector other : VersionVector κ width}

theorem events_increment {next : VersionVector κ width} {id : κ}
    (counted : vector.increment id = .ok next) : next.events = vector.events + 1 := by
  have carried : id ∈ next.ids.elements := (mem_ids_increment counted).mpr (.inl rfl)
  have covers : ∀ query, 0 < vector.get query → query ∈ next.ids := fun query positive =>
    (mem_ids_increment counted).mpr (.inr (mem_ids_of_get_pos positive))
  obtain ⟨lower, higher, split⟩ := List.append_of_mem carried
  have distinct := next.ids.nodup_elements
  rw [split, List.nodup_middle, List.nodup_cons, List.mem_append, not_or] at distinct
  obtain ⟨⟨notLower, notHigher⟩, _⟩ := distinct
  have kept : ∀ {ids : List κ}, id ∉ ids → ids.map next.get = ids.map vector.get :=
    fun absent => List.map_congr_left fun query present =>
      get_increment_of_ne counted fun same => absent (same ▸ present)
  rw [← sum_get_ids next, ← sum_get covers, split]
  simp only [List.map_append, List.map_cons, List.sum_append, List.sum_cons, kept notLower,
    kept notHigher, get_increment_self counted]
  omega

theorem events_le_of_within (within : vector.Within other) : vector.events ≤ other.events := by
  have covers : ∀ id, 0 < vector.get id → id ∈ other.ids := fun id positive =>
    mem_ids_of_get_pos (Nat.lt_of_lt_of_le positive (within id))
  rw [← sum_get covers, ← sum_get_ids other]
  exact List.sum_le_sum fun id _ => within id

theorem events_lt_of_within (within : vector.Within other) (apart : ¬ other.Within vector) :
    vector.events < other.events := by
  obtain ⟨id, ahead⟩ := Classical.not_forall.mp apart
  have covers : ∀ id, 0 < vector.get id → id ∈ other.ids := fun id positive =>
    mem_ids_of_get_pos (Nat.lt_of_lt_of_le positive (within id))
  rw [← sum_get covers, ← sum_get_ids other]
  refine List.sum_lt_sum _ _ (fun id _ => within id) ⟨id, ?_, Nat.lt_of_not_le ahead⟩
  exact mem_ids_of_get_pos (by omega)

theorem events_absorb_le (vector other : VersionVector κ width) :
    (vector.absorb other).events ≤ vector.events + other.events := by
  let ids := (vector.absorb other).ids.union (vector.ids.union other.ids)
  have joined : ∀ id, 0 < (vector.absorb other).get id → id ∈ ids := fun id positive =>
    OrderedSet.mem_union.mpr (.inl (mem_ids_of_get_pos positive))
  have first : ∀ id, 0 < vector.get id → id ∈ ids := fun id positive =>
    OrderedSet.mem_union.mpr (.inr (OrderedSet.mem_union.mpr (.inl (mem_ids_of_get_pos positive))))
  have second : ∀ id, 0 < other.get id → id ∈ ids := fun id positive =>
    OrderedSet.mem_union.mpr (.inr (OrderedSet.mem_union.mpr (.inr (mem_ids_of_get_pos positive))))
  rw [← sum_get joined, ← sum_get first, ← sum_get second, ← List.sum_map_add]
  refine List.sum_le_sum fun id _ => ?_
  have bounded := get_absorb_le vector other id
  omega

end Growth

end Confluence.VersionVector

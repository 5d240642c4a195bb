import Confluence.Proofs.Causality.VectorProperties

/-!
Direct causal succession. One vector precedes another exactly if counting a single event leads from
it to the other, and exactly if the other covers it: it comes later, and nothing lies between.

Whether vectors are dotted decides which replicas a comparison looks at, so what holds of all
vectors is stated over the compared replicas. Both sides of a comparison look at the same ones.
-/

set_option autoImplicit false

namespace Confluence.VersionVector

private theorem filter_eq_singleton_iff {α : Type} {members : List α} {keep : α → Bool} {member : α}
    (distinct : members.Nodup) :
    members.filter keep = [member] ↔
      ∀ candidate, candidate ∈ members ∧ keep candidate = true ↔ candidate = member := by
  rw [← List.perm_singleton,
    List.perm_ext_iff_of_nodup (distinct.sublist List.filter_sublist) (List.pairwise_singleton _ _)]
  simp only [List.mem_filter, List.mem_singleton]

variable {κ : Type} [Ord κ] {width : Nat}

/-! ## The compared replicas -/

theorem isBehindOn_iff {vector other : VersionVector κ width} {ids : OrderedSet κ} :
    vector.isBehindOn other ids = true ↔ ∃ id ∈ ids, vector.get id < other.get id := by
  simp only [isBehindOn, List.any_eq_true, decide_eq_true_eq]
  rfl

variable [Std.TransOrd κ] [Std.LawfulEqOrd κ]

theorem mem_comparedIds {vector other : VersionVector κ width} {id : κ} :
    id ∈ vector.comparedIds other ↔
      match vector.isDotted, other.isDotted with
      | true, false => id ∈ vector.ids
      | false, true => id ∈ other.ids
      | _, _ => id ∈ vector.ids ∨ id ∈ other.ids := by
  unfold comparedIds
  cases vector.isDotted <;> cases other.isDotted <;> simp

theorem comparedIds_comm (vector other : VersionVector κ width) :
    vector.comparedIds other = other.comparedIds vector := by
  refine OrderedSet.ext fun id => ?_
  rw [mem_comparedIds, mem_comparedIds]
  cases vector.isDotted <;> cases other.isDotted <;> simp [or_comm]

theorem order_swap (vector other : VersionVector κ width) :
    other.order vector = (vector.order other).swap := by
  rw [order, order, comparedIds_comm, orderOn, orderOn, CausalOrder.swap_ofDifferences]

theorem happenedBefore_iff {vector other : VersionVector κ width} :
    vector.happenedBefore other = true ↔
      (∀ id ∈ vector.comparedIds other, vector.get id ≤ other.get id) ∧
        ∃ id ∈ vector.comparedIds other, vector.get id < other.get id := by
  rw [happenedBefore, beq_iff_eq, order, orderOn, CausalOrder.ofDifferences_eq_before_iff,
    isBehindOn_eq_false_iff, isBehindOn_iff]
  exact And.comm

theorem differing_eq_singleton_iff {vector other : VersionVector κ width} {id : κ} :
    (vector.comparedIds other).elements.filter (fun id => vector.clock id != other.clock id) =
        [id] ↔
      (id ∈ vector.comparedIds other ∧ vector.get id ≠ other.get id) ∧
        ∀ query ∈ vector.comparedIds other, query ≠ id → vector.get query = other.get query := by
  have distinct := (vector.comparedIds other).nodup_elements
  have differs : ∀ id, (vector.clock id != other.clock id) = true ↔
      vector.get id ≠ other.get id := fun id =>
    bne_iff_ne.trans (not_congr ⟨congrArg Clock.value, Clock.ext⟩)
  simp only [filter_eq_singleton_iff distinct, differs]
  constructor
  · intro alone
    refine ⟨(alone id).mpr rfl, fun query compared different => ?_⟩
    exact Classical.byContradiction fun apart => different ((alone query).mp ⟨compared, apart⟩)
  · rintro ⟨isDifferent, elsewhere⟩ query
    constructor
    · rintro ⟨compared, apart⟩
      exact Classical.byContradiction fun different => apart (elsewhere query compared different)
    · rintro rfl
      exact isDifferent

/-- The only compared replica that differs is `id`, and there `other` is one event ahead. -/
theorem precedes_iff {vector other : VersionVector κ width} :
    vector.precedes other = true ↔
      ∃ id ∈ vector.comparedIds other, other.get id = vector.get id + 1 ∧
        ∀ query ∈ vector.comparedIds other, query ≠ id → vector.get query = other.get query := by
  unfold precedes
  constructor
  · intro precedes
    split at precedes
    next id only =>
      obtain ⟨⟨compared, _⟩, elsewhere⟩ := differing_eq_singleton_iff.mp only
      exact ⟨id, compared, Clock.precedes_iff.mp precedes, elsewhere⟩
    · cases precedes
  · rintro ⟨id, compared, ahead, elsewhere⟩
    rw [differing_eq_singleton_iff.mpr ⟨⟨compared, by omega⟩, elsewhere⟩]
    exact Clock.precedes_iff.mpr ahead

/-! ## Counting one event -/

theorem precedes_increment {vector next : VersionVector κ width} {id : κ}
    (counted : vector.increment id = .ok next) : vector.precedes next = true := by
  refine precedes_iff.mpr ⟨id, ?_, get_increment_self counted, ?_⟩
  · have carried : id ∈ next.ids := (mem_ids_increment counted).mpr (.inl rfl)
    rw [mem_comparedIds, isDotted_increment counted]
    cases vector.isDotted <;> exact .inr carried
  · intro query _ different
    exact (get_increment_of_ne counted different).symm

theorem happenedBefore_of_precedes {vector other : VersionVector κ width}
    (precedes : vector.precedes other = true) : vector.happenedBefore other = true := by
  obtain ⟨id, compared, ahead, elsewhere⟩ := precedes_iff.mp precedes
  refine happenedBefore_iff.mpr ⟨fun query isCompared => ?_, id, compared, by omega⟩
  by_cases same : query = id
  · subst same
    omega
  · exact Nat.le_of_eq (elsewhere query isCompared same)

/-- Counting an event of `id` changes at most whether `id` itself is compared. -/
theorem comparedIds_increment {vector next between : VersionVector κ width} {id query : κ}
    (counted : vector.increment id = .ok next) :
    (query ∈ vector.comparedIds between → query ∈ between.comparedIds next) ∧
      (query ∈ between.comparedIds next → query = id ∨ query ∈ vector.comparedIds between) := by
  rw [mem_comparedIds, mem_comparedIds, isDotted_increment counted, mem_ids_increment counted]
  cases vector.isDotted <;> cases between.isDotted <;> simp only <;> grind

/-- Nothing lies strictly between a vector and what one more event makes of it. -/
theorem not_between_increment {vector next : VersionVector κ width} {id : κ}
    (counted : vector.increment id = .ok next) (between : VersionVector κ width) :
    ¬ (vector.happenedBefore between = true ∧ between.happenedBefore next = true) := by
  rintro ⟨later, earlier⟩
  obtain ⟨notBehind, first, firstCompared, entered⟩ := happenedBefore_iff.mp later
  obtain ⟨notAhead, last, lastCompared, remains⟩ := happenedBefore_iff.mp earlier
  have counts := get_increment_self counted
  have reached : next.get id ≤ between.get id := by
    have bounded := notAhead first ((comparedIds_increment counted).1 firstCompared)
    by_cases same : first = id
    · subst same
      omega
    · have kept := get_increment_of_ne counted same
      omega
  rcases (comparedIds_increment counted).2 lastCompared with rfl | compared
  · omega
  · have bounded := notBehind last compared
    by_cases same : last = id
    · subst same
      omega
    · have kept := get_increment_of_ne counted same
      omega

/-! ## Cumulative vectors -/

section Cumulative

variable {vector other : VersionVector κ width} (left : vector.isDotted = false)
  (right : other.isDotted = false)

include left right

theorem happenedBefore_iff_within :
    vector.happenedBefore other = true ↔ vector.Within other ∧ ¬ other.Within vector := by
  rw [happenedBefore, beq_iff_eq, order_eq_before_iff left right]

theorem mem_comparedIds_of_pos {id : κ} (positive : 0 < vector.get id ∨ 0 < other.get id) :
    id ∈ vector.comparedIds other := by
  rw [comparedIds_of_cumulative left right, OrderedSet.mem_union]
  exact positive.imp mem_ids_of_get_pos mem_ids_of_get_pos

theorem precedes_iff_increment :
    vector.precedes other = true ↔
      ∃ id next, vector.increment id = .ok next ∧ (next == other) = true := by
  constructor
  · intro precedes
    obtain ⟨id, _, ahead, elsewhere⟩ := precedes_iff.mp precedes
    have behind : vector.get id < other.get id := by omega
    obtain ⟨next, counted⟩ := exists_increment_of_lt behind
    refine ⟨id, next, counted, beq_iff_get.mpr fun query => ?_⟩
    by_cases same : query = id
    · subst same
      rw [get_increment_self counted, ahead]
    · rw [get_increment_of_ne counted same]
      refine Classical.byContradiction fun apart => apart (elsewhere query ?_ same)
      exact mem_comparedIds_of_pos left right (by omega)
  · rintro ⟨id, next, counted, same⟩
    have counts := beq_iff_get.mp same
    refine precedes_iff.mpr ⟨id, ?_, ?_, ?_⟩
    · refine mem_comparedIds_of_pos left right (.inr ?_)
      rw [← counts, get_increment_self counted]
      exact Nat.succ_pos _
    · rw [← counts, get_increment_self counted]
    · intro query _ different
      rw [← counts, get_increment_of_ne counted different]

theorem precedes_iff_covers :
    vector.precedes other = true ↔ vector.happenedBefore other = true ∧
      ∀ between : VersionVector κ width, between.isDotted = false →
        ¬ (vector.happenedBefore between = true ∧ between.happenedBefore other = true) := by
  constructor
  · intro precedes
    refine ⟨happenedBefore_of_precedes precedes, fun between cumulative => ?_⟩
    rintro ⟨later, earlier⟩
    obtain ⟨id, next, counted, same⟩ := (precedes_iff_increment left right).mp precedes
    have isCumulative := (isDotted_increment counted).trans left
    obtain ⟨below, above⟩ := beq_iff_within.mp same
    obtain ⟨within, apart⟩ := (happenedBefore_iff_within cumulative right).mp earlier
    refine not_between_increment counted between ⟨later, ?_⟩
    exact (happenedBefore_iff_within cumulative isCumulative).mpr
      ⟨within.trans above, fun back => apart (above.trans back)⟩
  · rintro ⟨before, nothingBetween⟩
    obtain ⟨_, id, _, behind⟩ := happenedBefore_iff.mp before
    obtain ⟨within, _⟩ := (happenedBefore_iff_within left right).mp before
    obtain ⟨next, counted⟩ := exists_increment_of_lt behind
    have isCumulative := (isDotted_increment counted).trans left
    have lower : next.Within other := fun query => by
      by_cases same : query = id
      · subst same
        rw [get_increment_self counted]
        exact behind
      · rw [get_increment_of_ne counted same]
        exact within query
    -- Were `next` not the other vector, it would lie between the two.
    have upper : other.Within next := Classical.byContradiction fun apart =>
      nothingBetween next isCumulative
        ⟨happenedBefore_of_precedes (precedes_increment counted),
          (happenedBefore_iff_within isCumulative right).mpr ⟨lower, apart⟩⟩
    exact (precedes_iff_increment left right).mpr
      ⟨id, next, counted, beq_iff_within.mpr ⟨lower, upper⟩⟩

end Cumulative

/-! ## The covering relation -/

/-- Direct succession is what one event makes of a vector, and it is the covering relation of causal
order. Counting an event fails only where the clock is at its end; what it gives covers the vector
that was counted on, dotted or not. -/
structure CoversByOneEvent (κ : Type) [Ord κ] [Std.TransOrd κ] [Std.LawfulEqOrd κ] (width : Nat) :
    Prop where
  precedes_iff_increment : ∀ {vector other : VersionVector κ width}, vector.isDotted = false →
    other.isDotted = false → (vector.precedes other = true ↔
      ∃ id next, vector.increment id = .ok next ∧ (next == other) = true)
  precedes_iff_covers : ∀ {vector other : VersionVector κ width}, vector.isDotted = false →
    other.isDotted = false → (vector.precedes other = true ↔ vector.happenedBefore other = true ∧
      ∀ between : VersionVector κ width, between.isDotted = false →
        ¬ (vector.happenedBefore between = true ∧ between.happenedBefore other = true))
  fails_iff : ∀ (vector : VersionVector κ width) (id : κ),
    vector.increment id = .error .clockOverflow ↔ vector.get id = Word.size width - 1
  covers : ∀ (vector : VersionVector κ width) (id : κ), vector.get id ≠ Word.size width - 1 →
    ∃ next, vector.increment id = .ok next ∧ vector.precedes next = true ∧
      vector.happenedBefore next = true ∧ ∀ between : VersionVector κ width,
        ¬ (vector.happenedBefore between = true ∧ between.happenedBefore next = true)
  before_of_precedes : ∀ vector other : VersionVector κ width, vector.precedes other = true →
    vector.order other = .before
  mirrored : ∀ vector other : VersionVector κ width,
    other.order vector = (vector.order other).swap

theorem succession_is_covering (κ : Type) [Ord κ] [Std.TransOrd κ] [Std.LawfulEqOrd κ]
    (width : Nat) : CoversByOneEvent κ width where
  precedes_iff_increment := precedes_iff_increment
  precedes_iff_covers := precedes_iff_covers
  fails_iff vector id := by simp only [increment_eq_error_iff, true_and]
  covers vector id room := by
    obtain ⟨next, counted⟩ := exists_increment room
    have precedes := precedes_increment counted
    exact ⟨next, counted, precedes, happenedBefore_of_precedes precedes,
      not_between_increment counted⟩
  before_of_precedes vector other precedes := beq_iff_eq.mp (happenedBefore_of_precedes precedes)
  mirrored := order_swap

/-- A dotted vector whose only clock is at its end counts an event of another replica, and nothing
lies between; of two vectors that are not dotted, the one with a zero entry is the successor. -/
theorem dotted_vector_is_covered_by_event_of_newcomer :
    ∃ dotted other : VersionVector Nat 8, dotted.isDotted = true ∧ dotted.ids.elements = [1] ∧
      dotted.increment 1 = .error .clockOverflow ∧
      (∃ next, dotted.increment 2 = .ok next ∧ dotted.precedes next = true ∧
        dotted.happenedBefore next = true ∧ ∀ between : VersionVector Nat 8,
          ¬ (dotted.happenedBefore between = true ∧ between.happenedBefore next = true)) ∧
      other.isDotted = false ∧ other.ids.elements = [1, 2] ∧
      ∃ id next, (∅ : VersionVector Nat 8).increment id = .ok next ∧ (next == other) = true := by
  let dotted : VersionVector Nat 8 := .ofDot ⟨1, ⟨255, by decide⟩⟩
  let other : VersionVector Nat 8 := .ofList [(1, ⟨0, by decide⟩), (2, ⟨1, by decide⟩)]
  have succession := succession_is_covering Nat 8
  exact ⟨dotted, other, rfl, rfl, (succession.fails_iff dotted 1).mpr rfl,
    succession.covers dotted 2 (by decide), rfl, rfl,
    (succession.precedes_iff_increment rfl rfl).mp (by decide)⟩

end Confluence.VersionVector

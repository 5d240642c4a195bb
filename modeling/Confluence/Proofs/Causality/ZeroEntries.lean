import Confluence.Proofs.Causality.DirectSuccession
import Confluence.Proofs.Outcome

/-!
Entries that are zero. Taking in other vectors, reading texts and listing entries may leave entries
behind that count nothing, and the same events can be counted without them. Equality looks at what
hashing looks at: the entries that are not zero, in the order of the replicas. Of two equal vectors
that are not dotted, nothing that can be asked of them, alone or beside a third, tells which of them
has such entries.

A dotted vector is compared on the replicas that it carries, and it carries those at zero as well.
So equality, which ignores dotting, does not make dotted vectors interchangeable.
-/

set_option autoImplicit false

namespace Confluence.VersionVector

/-! ## Equality and hashing -/

section Entries

variable {κ : Type} {width : Nat}

/-- Of every entry the replica and then the clock. -/
def interleaved (entries : List (κ × Clock width)) : List (κ ⊕ Clock width) :=
  entries.flatMap fun entry => [.inl entry.1, .inr entry.2]

theorem interleaved_injective {entries others : List (κ × Clock width)}
    (same : interleaved entries = interleaved others) : entries = others := by
  induction entries generalizing others with
  | nil =>
      cases others with
      | nil => rfl
      | cons first later => cases same
  | cons first later ih =>
      cases others with
      | nil => cases same
      | cons first' later' =>
          simp only [interleaved, List.flatMap_cons, List.cons_append, List.nil_append,
            List.cons.injEq, Sum.inl.injEq, Sum.inr.injEq] at same
          obtain ⟨sameId, sameClock, sameLater⟩ := same
          rw [ih sameLater, Prod.ext sameId sameClock]

end Entries

variable {κ : Type} [Ord κ] {width : Nat}

/-- What a vector feeds to a hasher. -/
def hashInput (vector : VersionVector κ width) : List (κ ⊕ Clock width) :=
  interleaved vector.significantEntries

theorem total_eq_sum_significant (vector : VersionVector κ width) :
    vector.total = vector.significantEntries.foldr (fun entry sum => entry.2.widen + sum) 0 := by
  unfold total significantEntries entries OrderedMap.values
  induction vector.clocks.entries with
  | nil => rfl
  | cons first later ih =>
      rw [List.map_cons, List.foldr_cons, ih]
      cases zero : first.2.isZero with
      | false => rw [List.filter_cons_of_pos (by rw [zero]; rfl), List.foldr_cons]
      | true =>
          have nothing : first.2.widen = 0#128 := by rw [Clock.widen, beq_iff_eq.mp zero]
          rw [List.filter_cons_of_neg (by rw [zero]; exact Bool.false_ne_true), nothing]
          exact BitVec.zero_add _

variable [Std.TransOrd κ] [Std.LawfulEqOrd κ]

theorem get?_significant (vector : VersionVector κ width) (id : κ) :
    (vector.clocks.filter fun _ clock => !clock.isZero).get? id =
      if 0 < vector.get id then some (vector.clock id) else none := by
  rw [OrderedMap.get?_filter, get, clock]
  cases vector.clocks.get? id with
  | none => rfl
  | some clock => simp [Option.filter, Clock.isZero, Nat.pos_iff_ne_zero]

theorem beq_iff_significantEntries {vector other : VersionVector κ width} :
    (vector == other) = true ↔ vector.significantEntries = other.significantEntries := by
  rw [beq_iff_get]
  constructor
  · intro same
    have sameClocks : vector.clocks.filter (fun _ clock => !clock.isZero) =
        other.clocks.filter fun _ clock => !clock.isZero := by
      refine OrderedMap.ext fun id => ?_
      have sameClock : vector.clock id = other.clock id := Clock.ext (same id)
      rw [get?_significant, get?_significant, same id, sameClock]
    exact congrArg OrderedMap.entries sameClocks
  · intro same id
    have sameClocks : vector.clocks.filter (fun _ clock => !clock.isZero) =
        other.clocks.filter fun _ clock => !clock.isZero :=
      OrderedMap.ext fun key => congrArg (OrderedMap.lookup key) same
    have sameEntry := congrArg (·.get? id) sameClocks
    simp only [get?_significant] at sameEntry
    split at sameEntry <;> split at sameEntry
    · exact congrArg Clock.value (Option.some.inj sameEntry)
    · cases sameEntry
    · cases sameEntry
    · omega

theorem beq_iff_hashInput {vector other : VersionVector κ width} :
    (vector == other) = true ↔ vector.hashInput = other.hashInput := by
  rw [beq_iff_significantEntries]
  exact ⟨congrArg interleaved, interleaved_injective⟩

theorem total_congr {vector other : VersionVector κ width} (same : (vector == other) = true) :
    vector.total = other.total := by
  rw [total_eq_sum_significant, total_eq_sum_significant, beq_iff_significantEntries.mp same]

/-! ## Equal counts in joins and increments -/

section Counts

variable {vector other : VersionVector κ width} (same : ∀ id, vector.get id = other.get id)

include same

theorem absorb_congr (left : vector.isDotted = false) (right : other.isDotted = false)
    (third : VersionVector κ width) : (vector.absorb third == other.absorb third) = true := by
  refine beq_iff_get.mpr fun id => ?_
  rw [get_absorb left, get_absorb right, same]

theorem absorbed_congr (third : VersionVector κ width) :
    (third.absorb vector == third.absorb other) = true := by
  classical
  refine beq_iff_get.mpr fun id => ?_
  cases dotted : third.isDotted with
  | false => rw [get_absorb dotted, get_absorb dotted, same]
  | true => rw [get_absorb_of_dotted dotted, get_absorb_of_dotted dotted, same]

theorem increment_congr (id : κ) :
    Outcome.Agree (fun next next' => (next == next') = true) (vector.increment id)
      (other.increment id) := by
  cases counted : vector.increment id with
  | error error =>
      have failed := increment_eq_error_iff.mp counted
      rw [same] at failed
      rw [increment_eq_error_iff.mpr failed]
      exact .failed error
  | ok next =>
      have room : other.get id ≠ Word.size width - 1 := by
        intro atEnd
        rw [← same] at atEnd
        rw [increment_eq_error_iff.mpr ⟨rfl, atEnd⟩] at counted
        cases counted
      obtain ⟨next', counted'⟩ := exists_increment room
      rw [counted']
      refine .succeeded (beq_iff_get.mpr fun query => ?_)
      by_cases isCounted : query = id
      · subst isCounted
        rw [get_increment_self counted, get_increment_self counted', same]
      · rw [get_increment_of_ne counted isCounted, get_increment_of_ne counted' isCounted, same]

end Counts

/-! ## Equal counts in comparisons -/

/-- Where a vector that is not dotted differs from another, the other alone decides whether the two
are compared. -/
theorem mem_comparedIds_of_get_ne {vector third : VersionVector κ width}
    (cumulative : vector.isDotted = false) {id : κ} (differ : vector.get id ≠ third.get id) :
    id ∈ vector.comparedIds third ↔ (third.isDotted = true → id ∈ third.ids) := by
  rw [mem_comparedIds, cumulative]
  cases third.isDotted with
  | true => exact ⟨fun carried _ => carried, fun carried => carried rfl⟩
  | false =>
      refine iff_of_true ?_ fun impossible => absurd impossible Bool.false_ne_true
      have positive : 0 < vector.get id ∨ 0 < third.get id := by omega
      exact positive.imp mem_ids_of_get_pos mem_ids_of_get_pos

/-- Of the compared replicas just one differs, and there by a step of this kind. -/
def DiffersOnce (vector third : VersionVector κ width) (steps : Nat → Nat → Prop) : Prop :=
  ∃ id ∈ vector.comparedIds third, steps (vector.get id) (third.get id) ∧
    ∀ query ∈ vector.comparedIds third, query ≠ id → vector.get query = third.get query

theorem precedes_iff_differsOnce {vector third : VersionVector κ width} :
    third.precedes vector = true ↔
      vector.DiffersOnce third fun count count' => count = count' + 1 := by
  rw [precedes_iff, comparedIds_comm, DiffersOnce]
  simp only [eq_comm (b := vector.get _)]

section Cumulative

variable {vector other : VersionVector κ width} (left : vector.isDotted = false)
  (right : other.isDotted = false) (same : ∀ id, vector.get id = other.get id)
  (third : VersionVector κ width)

include left right same

theorem mem_comparedIds_congr {id : κ} (differ : vector.get id ≠ third.get id) :
    id ∈ vector.comparedIds third ↔ id ∈ other.comparedIds third := by
  rw [mem_comparedIds_of_get_ne left differ, mem_comparedIds_of_get_ne right (same id ▸ differ)]

theorem exists_compared_congr (differs : Nat → Nat → Prop)
    (apart : ∀ {count count'}, differs count count' → count ≠ count') :
    (∃ id ∈ vector.comparedIds third, differs (vector.get id) (third.get id)) ↔
      ∃ id ∈ other.comparedIds third, differs (other.get id) (third.get id) := by
  refine exists_congr fun id => ?_
  rw [← same id]
  exact and_congr_left fun differ => mem_comparedIds_congr left right same third (apart differ)

theorem order_congr : vector.order third = other.order third := by
  have behind : vector.isBehindOn third (vector.comparedIds third) =
      other.isBehindOn third (other.comparedIds third) := by
    rw [Bool.eq_iff_iff, isBehindOn_iff, isBehindOn_iff]
    exact exists_compared_congr left right same third (· < ·) Nat.ne_of_lt
  have ahead : third.isBehindOn vector (vector.comparedIds third) =
      third.isBehindOn other (other.comparedIds third) := by
    rw [Bool.eq_iff_iff, isBehindOn_iff, isBehindOn_iff]
    exact exists_compared_congr left right same third (· > ·) Nat.ne_of_gt
  rw [order, order, orderOn, orderOn, behind, ahead]

theorem order_congr_right : third.order vector = third.order other := by
  rw [order_swap vector, order_swap other, order_congr left right same]

theorem differsOnce_of_differsOnce {steps : Nat → Nat → Prop}
    (apart : ∀ {count count'}, steps count count' → count ≠ count')
    (once : vector.DiffersOnce third steps) : other.DiffersOnce third steps := by
  obtain ⟨id, compared, stepped, elsewhere⟩ := once
  refine ⟨id, ?_, same id ▸ stepped, fun query isCompared different => ?_⟩
  · exact (mem_comparedIds_congr left right same third (apart stepped)).mp compared
  · rw [← same]
    refine Classical.byContradiction fun differ => differ (elsewhere query ?_ different)
    exact (mem_comparedIds_congr left right same third differ).mpr isCompared

theorem differsOnce_congr (steps : Nat → Nat → Prop)
    (apart : ∀ {count count'}, steps count count' → count ≠ count') :
    vector.DiffersOnce third steps ↔ other.DiffersOnce third steps :=
  ⟨differsOnce_of_differsOnce left right same third apart,
    differsOnce_of_differsOnce right left (fun id => (same id).symm) third apart⟩

theorem precedes_congr : vector.precedes third = other.precedes third ∧
    third.precedes vector = third.precedes other := by
  constructor
  · rw [Bool.eq_iff_iff, precedes_iff, precedes_iff]
    exact differsOnce_congr left right same third (fun count count' => count' = count + 1) (by omega)
  · rw [Bool.eq_iff_iff, precedes_iff_differsOnce, precedes_iff_differsOnce]
    exact differsOnce_congr left right same third (fun count count' => count = count' + 1) (by omega)

end Cumulative

/-- Without their modes, vectors are in the order that they would be in if they were not dotted. -/
theorem pointwiseOrder_eq_order (vector other : VersionVector κ width) :
    vector.pointwiseOrder other = order ⟨vector.clocks, false⟩ ⟨other.clocks, false⟩ := rfl

/-! ## Vectors that cannot be told apart -/

/-- Two vectors that answer every question alike, alone and beside any third vector, whatever the
mode of that. -/
structure Indistinguishable (vector other : VersionVector κ width) : Prop where
  get : ∀ id, vector.get id = other.get id
  total : vector.total = other.total
  order : ∀ third, vector.order third = other.order third ∧ third.order vector = third.order other
  precedes : ∀ third, vector.precedes third = other.precedes third ∧
    third.precedes vector = third.precedes other
  partialCompare? : ∀ third, vector.partialCompare? third = other.partialCompare? third ∧
    third.partialCompare? vector = third.partialCompare? other
  dominates : ∀ third, vector.dominates third = other.dominates third ∧
    third.dominates vector = third.dominates other
  absorb : ∀ third, (vector.absorb third == other.absorb third) = true ∧
    (third.absorb vector == third.absorb other) = true
  increment : ∀ id, Outcome.Agree (fun next next' => (next == next') = true)
    (vector.increment id) (other.increment id)

theorem indistinguishable_of_beq {vector other : VersionVector κ width}
    (left : vector.isDotted = false) (right : other.isDotted = false)
    (same : (vector == other) = true) : Indistinguishable vector other := by
  have counts := beq_iff_get.mp same
  refine ⟨counts, total_congr same, fun third => ?_, fun third => ?_, fun third => ?_,
    fun third => ?_, fun third => ?_, increment_congr counts⟩
  · exact ⟨order_congr left right counts third, order_congr_right left right counts third⟩
  · exact precedes_congr left right counts third
  · have plain : ∀ id, get ⟨vector.clocks, false⟩ id = get ⟨other.clocks, false⟩ id := counts
    simp only [partialCompare?, pointwiseOrder_eq_order]
    rw [order_congr rfl rfl plain, order_congr_right rfl rfl plain]
    exact ⟨rfl, rfl⟩
  · unfold dominates
    rw [order_congr left right counts, order_congr_right left right counts]
    exact ⟨rfl, rfl⟩
  · exact ⟨absorb_congr counts left right third, absorbed_congr counts third⟩

/-- Equality is an equivalence; hashing sees just what equality sees, and neither sees dotting.
Equal vectors that are not dotted cannot be told apart. -/
structure EqualityFitsHashing (κ : Type) [Ord κ] [Std.TransOrd κ] [Std.LawfulEqOrd κ]
    (width : Nat) : Prop where
  equivalence : Equivalence fun vector other : VersionVector κ width => (vector == other) = true
  beq_iff_hashInput : ∀ {vector other : VersionVector κ width},
    (vector == other) = true ↔ vector.hashInput = other.hashInput
  ignores_mode : ∀ (clocks : OrderedMap κ (Clock width)) (mode mode' : Bool),
    ((⟨clocks, mode⟩ : VersionVector κ width) == ⟨clocks, mode'⟩) = true
  indistinguishable : ∀ {vector other : VersionVector κ width}, vector.isDotted = false →
    other.isDotted = false → (vector == other) = true → Indistinguishable vector other

theorem zero_entries_are_unobservable (κ : Type) [Ord κ] [Std.TransOrd κ] [Std.LawfulEqOrd κ]
    (width : Nat) : EqualityFitsHashing κ width where
  equivalence := ⟨fun _ => BEq.rfl, BEq.symm, BEq.trans⟩
  beq_iff_hashInput := beq_iff_hashInput
  ignores_mode _ _ _ := beq_iff_hashInput.mpr rfl
  indistinguishable := indistinguishable_of_beq

/-- A zero that is spelled out changes the representation of a vector, and no answer, not even beside
a dotted vector that speaks of its replica. The same two entries in dotted vectors are told apart. -/
theorem spelled_zero_is_told_by_dotted_vectors_only :
    ∃ spelled plain third : VersionVector Nat 8, spelled.isDotted = false ∧
      plain.isDotted = false ∧ third.isDotted = true ∧ spelled.size = 2 ∧ plain.size = 1 ∧
      (spelled == plain) = true ∧ Indistinguishable spelled plain ∧ spelled.order third = .before ∧
      (let dotted : VersionVector Nat 8 := ⟨spelled.clocks, true⟩
       let dotted' : VersionVector Nat 8 := ⟨plain.clocks, true⟩
       (dotted == dotted') = true ∧ dotted.order (plain.absorb third) = .before ∧
         dotted'.order (plain.absorb third) = .equal) := by
  let spelled : VersionVector Nat 8 := .ofList [(1, ⟨2, by decide⟩), (3, ⟨0, by decide⟩)]
  let plain : VersionVector Nat 8 := .ofList [(1, ⟨2, by decide⟩)]
  have equality := zero_entries_are_unobservable Nat 8
  have same : (spelled == plain) = true := equality.beq_iff_hashInput.mpr rfl
  refine ⟨spelled, plain, .ofDot ⟨3, ⟨1, by decide⟩⟩, rfl, rfl, rfl, rfl, rfl, same,
    equality.indistinguishable rfl rfl same, rfl, ?_, rfl, rfl⟩
  exact equality.beq_iff_hashInput.mpr rfl

end Confluence.VersionVector

import Confluence.Proofs.Causality.VectorTotals
import Confluence.Proofs.Outcome
import Confluence.State.GrowCounter
import Confluence.State.SignedCounter

/-!
The values of counters. Counts are added up in words of 128 bits, differences are taken in signed
words of 128 bits, and only the result is brought into a word of 64 bits. With fewer than `2 ^ 63`
counts nothing is lost before that last step: a value is the sum, or the difference of the sums,
that was counted, or else the bound of its word that is nearest to it.

So a merge shows no less than either of its sides, and an event moves the value by one unless the
bound of the word holds it.
-/

set_option autoImplicit false

namespace Confluence

/-! ## Totals -/

/-- A vector whose events can be added up, some of them or all of them, in a word of 128 bits. -/
structure VersionVector.TotalIsExact {κ : Type} [Ord κ] (vector : VersionVector κ 64) : Prop where
  exact : vector.total.toNat = vector.events
  fits : ∀ some : List (Clock 64), some.Sublist vector.clocks.values →
    (some.map (·.value)).sum < Word.size 128

theorem VersionVector.totalIsExact {κ : Type} [Ord κ] {vector : VersionVector κ 64}
    (fits : vector.events < Word.size 128) : vector.TotalIsExact where
  exact := toNat_total fits
  fits _ isPart := Nat.lt_of_le_of_lt ((isPart.map (·.value)).sum_le_sum fun _ _ => Nat.zero_le _) fits

/-! ## Counters that grow -/

namespace GrowCounter

variable {counter left right : GrowCounter}

theorem value_eq (fits : counter.counts.events < Word.size 128) :
    counter.value = Word.saturate 64 counter.counts.events := by
  rw [value, VersionVector.toNat_total fits]

theorem value_le_of_within (within : left.counts.Within right.counts)
    (fits : right.counts.events < Word.size 128) : left.value ≤ right.value := by
  have fewer := VersionVector.events_le_of_within within
  rw [value_eq fits, value_eq (Nat.lt_of_le_of_lt fewer fits)]
  exact Word.saturate_mono fewer

theorem value_le_merge (cumulative : left.counts.isDotted = false)
    (few : left.counts.size < Word.size 63) (few' : right.counts.size < Word.size 63) :
    left.value ≤ (merge left right).value ∧ right.value ≤ (merge left right).value := by
  have joined := VersionVector.events_absorb_le left.counts right.counts
  have first := VersionVector.events_lt few
  have second := VersionVector.events_lt few'
  have room : Word.size 127 + Word.size 127 = Word.size 128 := by decide
  have fits : (left.counts.absorb right.counts).events < Word.size 128 := by omega
  exact ⟨value_le_of_within (VersionVector.within_absorb_left cumulative _) fits,
    value_le_of_within (VersionVector.within_absorb_right cumulative _) fits⟩

end GrowCounter

/-! ## Counters that go both ways -/

namespace SignedCounter

/-- What the increments exceed the decrements by. -/
def difference (counter : SignedCounter) : Int :=
  counter.increments.events - counter.decrements.events

/-- Each step on the way to the value leaves its number as it is, but for the last. -/
structure Unclipped (counter : SignedCounter) : Prop where
  increments : Word.saturateSigned 128 counter.increments.total.toNat = counter.increments.events
  decrements : Word.saturateSigned 128 counter.decrements.total.toNat = counter.decrements.events
  difference : Word.saturateSigned 128 (counter.increments.events - counter.decrements.events) =
    counter.difference

variable {counter next : SignedCounter}

theorem unclipped (increments : counter.increments.events < Word.size 127)
    (decrements : counter.decrements.events < Word.size 127) : counter.Unclipped := by
  have held : ∀ value : Int, -(Word.size 127 : Int) ≤ value → value < Word.size 127 →
      Word.saturateSigned 128 value = value :=
    fun _ lower upper => Word.saturateSigned_eq_self lower upper
  have wider : Word.size 127 < Word.size 128 := by decide
  refine ⟨?_, ?_, held _ (by omega) (by omega)⟩
  · rw [VersionVector.toNat_total (Nat.lt_trans increments wider)]
    exact held _ (by omega) (by omega)
  · rw [VersionVector.toNat_total (Nat.lt_trans decrements wider)]
    exact held _ (by omega) (by omega)

theorem Unclipped.value_eq (unclipped : counter.Unclipped) : counter.value =
    max (-(Word.size 63 : Int)) (min (Word.size 63 - 1) counter.difference) := by
  rw [value, unclipped.increments, unclipped.decrements, unclipped.difference]
  rfl

/-- A value that shows a difference beyond the bound of its word shows the bound, and goes on showing
it when the difference moves on beyond it. -/
def HeldAtBound (difference step : Int) : Prop :=
  (Word.size 63 - 1 ≤ difference ∧ Word.size 63 - 1 ≤ difference + step) ∨
    (difference ≤ -(Word.size 63 : Int) ∧ difference + step ≤ -(Word.size 63 : Int))

instance (difference step : Int) : Decidable (HeldAtBound difference step) :=
  inferInstanceAs (Decidable (_ ∨ _))

/-- What an event that moves the difference by `step` does to the value. -/
structure Moves (step : Int) (counter next : SignedCounter) : Prop where
  difference : next.difference = counter.difference + step
  free : ¬ HeldAtBound counter.difference step → next.value = counter.value + step
  held : HeldAtBound counter.difference step → next.value = counter.value ∧
    (counter.value = Word.size 63 - 1 ∨ counter.value = -(Word.size 63 : Int))

theorem moves_of_difference {step : Int} (small : step = 1 ∨ step = -1)
    (before : counter.Unclipped) (after : next.Unclipped)
    (moved : next.difference = counter.difference + step) : Moves step counter next := by
  have positive := Word.size_pos 63
  refine ⟨moved, fun free => ?_, fun held => ?_⟩
  · rw [before.value_eq, after.value_eq, moved]
    unfold HeldAtBound at free
    omega
  · rw [before.value_eq, after.value_eq, moved]
    unfold HeldAtBound at held
    omega

theorem moves_increment {replica : ReplicaId} (few : counter.increments.size < Word.size 63)
    (few' : counter.decrements.size < Word.size 63)
    (counted : counter.increment replica = .ok next) : Moves 1 counter next := by
  obtain ⟨increments, incremented, rfl⟩ := Outcome.map_eq_ok counted
  have one := VersionVector.events_increment incremented
  have fits := VersionVector.events_succ_lt few
  have fits' := VersionVector.events_lt few'
  refine moves_of_difference (.inl rfl) (unclipped (by omega) fits')
    (unclipped (one ▸ fits) fits') ?_
  simp only [difference, one]
  omega

theorem moves_decrement {replica : ReplicaId} (few : counter.increments.size < Word.size 63)
    (few' : counter.decrements.size < Word.size 63)
    (counted : counter.decrement replica = .ok next) : Moves (-1) counter next := by
  obtain ⟨decrements, decremented, rfl⟩ := Outcome.map_eq_ok counted
  have one := VersionVector.events_increment decremented
  have fits := VersionVector.events_lt few
  have fits' := VersionVector.events_succ_lt few'
  refine moves_of_difference (.inr rfl) (unclipped fits (by omega))
    (unclipped fits (one ▸ fits')) ?_
  simp only [difference, one]
  omega

end SignedCounter

/-! ## Exactness -/

/-- What the values of counters show, as long as no vector has as many as `2 ^ 63` entries. -/
structure ValuesAreExact : Prop where
  total : ∀ (κ : Type) [Ord κ] (vector : VersionVector κ 64), vector.size < Word.size 63 →
    vector.TotalIsExact
  growing : ∀ counter : GrowCounter, counter.counts.size < Word.size 63 →
    counter.value = min counter.counts.events (Word.size 64 - 1)
  signed : ∀ counter : SignedCounter, counter.increments.size < Word.size 63 →
    counter.decrements.size < Word.size 63 → counter.Unclipped ∧
      counter.value = max (-(Word.size 63 : Int)) (min (Word.size 63 - 1) counter.difference)
  merge : ∀ left right : GrowCounter, left.counts.isDotted = false →
    left.counts.size < Word.size 63 → right.counts.size < Word.size 63 →
      left.value ≤ (merge left right).value ∧ right.value ≤ (merge left right).value
  increment : ∀ (counter next : SignedCounter) (replica : ReplicaId),
    counter.increments.size < Word.size 63 → counter.decrements.size < Word.size 63 →
      counter.increment replica = .ok next → SignedCounter.Moves 1 counter next
  decrement : ∀ (counter next : SignedCounter) (replica : ReplicaId),
    counter.increments.size < Word.size 63 → counter.decrements.size < Word.size 63 →
      counter.decrement replica = .ok next → SignedCounter.Moves (-1) counter next

theorem counter_values_are_exact : ValuesAreExact where
  total _ _ _ few :=
    VersionVector.totalIsExact (Nat.lt_trans (VersionVector.events_lt few) (by decide))
  growing _ few := GrowCounter.value_eq (Nat.lt_trans (VersionVector.events_lt few) (by decide))
  signed _ few few' :=
    have unclipped := SignedCounter.unclipped (VersionVector.events_lt few)
      (VersionVector.events_lt few')
    ⟨unclipped, unclipped.value_eq⟩
  merge _ _ cumulative few few' := GrowCounter.value_le_merge cumulative few few'
  increment _ _ _ few few' counted := SignedCounter.moves_increment few few' counted
  decrement _ _ _ few few' counted := SignedCounter.moves_decrement few few' counted

/-- A counter whose difference is the greatest number of its word stays there when it is incremented,
and leaves it when it is decremented. A counter that grows shows the greatest number of its word, of
a sum beyond it. -/
theorem value_is_held_at_bound :
    ∃ (signed up down : SignedCounter) (growing : GrowCounter),
      signed.difference = Word.size 63 - 1 ∧ signed.increment ⟨2⟩ = .ok up ∧
      up.value = signed.value ∧ signed.decrement ⟨2⟩ = .ok down ∧ down.value = signed.value - 1 ∧
      growing.counts.total.toNat = Word.size 64 + 2 ∧ growing.value = Word.size 64 - 1 ∧
      growing.value ≤ (merge GrowCounter.zero growing).value := by
  let signed : SignedCounter :=
    ⟨.ofList [(⟨1⟩, ⟨Word.size 63, by decide⟩)], .ofList [(⟨1⟩, ⟨1, by decide⟩)]⟩
  let growing : GrowCounter :=
    ⟨.ofList [(⟨1⟩, ⟨Word.size 64 - 1, by decide⟩), (⟨2⟩, ⟨3, by decide⟩)]⟩
  have exactly := counter_values_are_exact
  have up := exactly.increment signed _ ⟨2⟩ (by decide) (by decide) rfl
  have down := exactly.decrement signed _ ⟨2⟩ (by decide) (by decide) rfl
  refine ⟨signed, _, _, growing, by decide, rfl, (up.held (by decide)).1, rfl,
    down.free (by decide), ?_, ?_, ?_⟩
  · exact (exactly.total ReplicaId growing.counts (by decide)).exact
  · exact exactly.growing growing (by decide)
  · exact (exactly.merge .zero growing rfl (by decide) (by decide)).2

end Confluence

import Confluence.Causality.Order
import Confluence.StateError
import Confluence.Text.Diagnostic
import Confluence.Word

/-!
Logical clocks. A clock counts the events of one replica in a fixed number of bits. It only moves
forward: at its greatest value it refuses another event, since a clock that wrapped around would
read as older.
-/

set_option autoImplicit false

namespace Confluence

structure Clock (width : Nat) where
  value : Nat
  value_lt : value < Word.size width
  deriving DecidableEq

namespace Clock

variable {width : Nat}

@[ext] theorem ext {left right : Clock width} (same : left.value = right.value) :
    left = right := by
  cases left
  cases right
  cases same
  rfl

def zero : Clock width := ⟨0, Word.size_pos width⟩

instance : Inhabited (Clock width) := ⟨zero⟩

def ofNat? (value : Nat) : Option (Clock width) :=
  if fits : value < Word.size width then some ⟨value, fits⟩ else none

@[simp] theorem value_zero : (zero : Clock width).value = 0 := rfl

@[simp] theorem ofNat?_value (clock : Clock width) : ofNat? clock.value = some clock :=
  dif_pos clock.value_lt

def isZero (clock : Clock width) : Bool := clock.value == 0

instance : Ord (Clock width) := ⟨fun left right => compare left.value right.value⟩

instance : Std.TransOrd (Clock width) where
  eq_swap := Std.OrientedOrd.eq_swap (α := Nat)
  isLE_trans := Std.TransOrd.isLE_trans (α := Nat)

instance : Std.LawfulEqOrd (Clock width) where
  eq_of_compare same := ext (Std.LawfulEqOrd.eq_of_compare same)

def next? (clock : Clock width) : Option (Clock width) := ofNat? (clock.value + 1)

def increment (clock : Clock width) : Except StateError (Clock width) :=
  match clock.next? with
  | some next => .ok next
  | none => .error .clockOverflow

def absorb (clock other : Clock width) : Clock width :=
  if clock.value < other.value then other else clock

/-- The number of events in a word of 128 bits, in which many clocks can be added. -/
def widen (clock : Clock width) : BitVec 128 := BitVec.ofNat 128 clock.value

def precedes (clock other : Clock width) : Bool := clock.next? == some other

def order (clock other : Clock width) : CausalOrder := .ofOrdering (compare clock other)

instance : ToString (Clock width) := ⟨fun clock => clock.value.repr⟩

instance : Diagnostic (Clock width) := ⟨fun clock => clock.value.repr⟩

theorem next?_eq_some_iff {clock next : Clock width} :
    clock.next? = some next ↔ next.value = clock.value + 1 := by
  unfold next? ofNat?
  constructor
  · intro found
    split at found
    · cases found
      rfl
    · cases found
  · intro ahead
    have fits : clock.value + 1 < Word.size width := ahead ▸ next.value_lt
    rw [dif_pos fits]
    exact congrArg some (ext ahead.symm)

theorem next?_eq_none_iff {clock : Clock width} :
    clock.next? = none ↔ clock.value = Word.size width - 1 := by
  have below := clock.value_lt
  unfold next? ofNat?
  split
  · simp only [reduceCtorEq, false_iff]
    omega
  · simp only [true_iff]
    omega

theorem increment_eq_ok_iff {clock next : Clock width} :
    clock.increment = .ok next ↔ next.value = clock.value + 1 := by
  rw [← next?_eq_some_iff]
  unfold increment
  cases clock.next? <;> simp

theorem increment_eq_error_iff {clock : Clock width} {error : StateError} :
    clock.increment = .error error ↔
      error = .clockOverflow ∧ clock.value = Word.size width - 1 := by
  rw [← next?_eq_none_iff]
  unfold increment
  cases clock.next? with
  | none => simp [eq_comm]
  | some next => simp

theorem precedes_iff {clock other : Clock width} :
    clock.precedes other = true ↔ other.value = clock.value + 1 := by
  rw [← next?_eq_some_iff, precedes, beq_iff_eq]

@[simp] theorem value_absorb (clock other : Clock width) :
    (clock.absorb other).value = max clock.value other.value := by
  unfold absorb
  split <;> omega

end Clock

end Confluence

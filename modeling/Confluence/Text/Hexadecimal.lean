/-!
Hexadecimal digits. Numbers are written with lower-case digits, either in a fixed count or in the
fewest that suffice, and are read in either case. Reading a fixed-width form gives back the number
modulo the width.
-/

set_option autoImplicit false

namespace Confluence.Hexadecimal

/-- The last `count` hexadecimal digits of `value`, most significant first. -/
def digits : Nat → Nat → List Char
  | 0, _ => []
  | count + 1, value => digits count (value / 16) ++ [Nat.digitChar (value % 16)]

def digitValue? (digit : Char) : Option Nat :=
  if '0' ≤ digit ∧ digit ≤ '9' then some (digit.toNat - '0'.toNat)
  else if 'a' ≤ digit ∧ digit ≤ 'f' then some (digit.toNat - 'a'.toNat + 10)
  else if 'A' ≤ digit ∧ digit ≤ 'F' then some (digit.toNat - 'A'.toNat + 10)
  else none

/-- The number that a list of hexadecimal digits writes, the first digit being the most
significant. Any other character makes it no number; the empty list writes zero. -/
def value? (text : List Char) : Option Nat :=
  text.foldlM (fun value digit => (digitValue? digit).map (16 * value + ·)) 0

@[simp] theorem length_digits (count value : Nat) : (digits count value).length = count := by
  induction count generalizing value with
  | zero => rfl
  | succ count ih => simp [digits, ih]

private theorem digitValue?_digitChar_below : ∀ value, value < 16 →
    digitValue? (Nat.digitChar value) = some value := by
  decide

theorem value?_digits (count value : Nat) :
    value? (digits count value) = some (value % Nat.pow 16 count) := by
  induction count generalizing value with
  | zero => simp [digits, value?, Nat.mod_one]
  | succ count ih =>
    have digit := digitValue?_digitChar_below (value % 16) (Nat.mod_lt _ (by decide))
    have earlier := ih (value / 16)
    simp only [value?] at earlier
    simp only [digits, value?, List.foldlM_append, earlier, List.foldlM_cons, List.foldlM_nil,
      digit, Option.map_some, Option.bind_eq_bind, Option.bind_some, Option.pure_def,
      Option.some.injEq]
    rw [Nat.pow_eq, Nat.pow_eq, Nat.pow_succ', Nat.mod_mul, Nat.add_comm]

end Confluence.Hexadecimal

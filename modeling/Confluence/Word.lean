/-!
Numbers in words of a fixed width. Saturation takes a number to the nearest one that a word holds:
one that fits stays as it is, and any other becomes the least or the greatest number of the word.
-/

set_option autoImplicit false

namespace Confluence.Word

/-- How many numbers a word of `width` bits holds. -/
def size (width : Nat) : Nat := Nat.pow 2 width

theorem size_pos (width : Nat) : 0 < size width := Nat.two_pow_pos width

/-- The nearest number that an unsigned word of `width` bits holds. -/
def saturate (width value : Nat) : Nat := min value (size width - 1)

def saturateSigned (width : Nat) (value : Int) : Int :=
  max (-(size (width - 1) : Int)) (min (size (width - 1) - 1) value)

theorem saturate_eq_self {width value : Nat} (fits : value < size width) :
    saturate width value = value := by
  unfold saturate
  omega

theorem saturate_mono {width smaller larger : Nat} (ordered : smaller ≤ larger) :
    saturate width smaller ≤ saturate width larger := by
  unfold saturate
  omega

theorem saturateSigned_eq_self {width : Nat} {value : Int}
    (lower : -(size (width - 1) : Int) ≤ value) (upper : value < size (width - 1)) :
    saturateSigned width value = value := by
  unfold saturateSigned
  omega

end Confluence.Word

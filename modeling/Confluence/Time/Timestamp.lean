import Confluence.Word

/-!
Wall-clock timestamps: milliseconds since the start of 1970 in universal time, in the range of a
signed 64-bit word. Stepping past the last timestamp stays there.
-/

set_option autoImplicit false

namespace Confluence

structure Timestamp where
  millis : Int
  lower : -(Word.size 63 : Int) ≤ millis
  upper : millis < Word.size 63
  deriving DecidableEq

namespace Timestamp

@[ext] theorem ext {left right : Timestamp} (same : left.millis = right.millis) :
    left = right := by
  cases left
  cases right
  cases same
  rfl

/-- The timestamp of something that never happened. -/
def epoch : Timestamp := ⟨0, by decide, by decide⟩

instance : Inhabited Timestamp := ⟨epoch⟩

def last : Timestamp := ⟨Word.size 63 - 1, by decide, by decide⟩

def ofMillis? (millis : Int) : Option Timestamp :=
  if bounds : -(Word.size 63 : Int) ≤ millis ∧ millis < Word.size 63 then
    some ⟨millis, bounds.1, bounds.2⟩
  else none

@[simp] theorem ofMillis?_millis (time : Timestamp) : ofMillis? time.millis = some time :=
  dif_pos ⟨time.lower, time.upper⟩

instance : Ord Timestamp := ⟨fun left right => compare left.millis right.millis⟩

instance : LE Timestamp := ⟨fun left right => left.millis ≤ right.millis⟩

instance : LT Timestamp := ⟨fun left right => left.millis < right.millis⟩

instance (left right : Timestamp) : Decidable (left ≤ right) :=
  inferInstanceAs (Decidable (left.millis ≤ right.millis))

instance (left right : Timestamp) : Decidable (left < right) :=
  inferInstanceAs (Decidable (left.millis < right.millis))

instance : Max Timestamp := ⟨fun left right => if left ≤ right then right else left⟩

/-- The following millisecond; the last timestamp is its own successor. -/
def next (time : Timestamp) : Timestamp :=
  if room : time.millis + 1 < Word.size 63 then
    ⟨time.millis + 1, Int.le_trans time.lower (Int.le_add_one (Int.le_refl _)), room⟩
  else time

/-- A stamp for an event that follows one stamped `previous`, when the clock reads `now`. A clock
that is ahead gives its reading; one that is not gives the millisecond after `previous`. -/
def following (now previous : Timestamp) : Timestamp :=
  if previous < now then now else previous.next

theorem millis_next (time : Timestamp) :
    time.next.millis = min (time.millis + 1) (Word.size 63 - 1) := by
  have upper := time.upper
  unfold next
  split
  · simp only
    omega
  · omega

theorem millis_max (left right : Timestamp) :
    (max left right).millis = max left.millis right.millis := by
  change (if left.millis ≤ right.millis then right else left).millis = _
  split <;> omega

end Timestamp

end Confluence

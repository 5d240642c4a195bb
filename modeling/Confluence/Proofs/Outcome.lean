/-!
When a computation that may fail succeeds: its parts have succeeded, one after the other. And when
two such computations come to the same.
-/

set_option autoImplicit false

namespace Confluence.Outcome

variable {ε α β : Type}

theorem map_eq_ok {computation : Except ε α} {change : α → β} {result : β}
    (succeeded : computation.map change = .ok result) :
    ∃ value, computation = .ok value ∧ change value = result := by
  cases computation with
  | error error => cases succeeded
  | ok value =>
      cases succeeded
      exact ⟨value, rfl, rfl⟩

theorem bind_eq_ok {computation : Except ε α} {next : α → Except ε β} {result : β}
    (succeeded : computation >>= next = .ok result) :
    ∃ value, computation = .ok value ∧ next value = .ok result := by
  cases computation with
  | error error => cases succeeded
  | ok value => exact ⟨value, rfl, succeeded⟩

/-- Results can be compared where failures cannot. -/
theorem eq_ok_of_toOption {computation : Except ε α} {result : α}
    (succeeded : computation.toOption = some result) : computation = .ok result := by
  cases computation with
  | error error => cases succeeded
  | ok value =>
      cases succeeded
      rfl

/-- Two computations that fail together, with one error, or succeed with results that agree. -/
inductive Agree {β : Type} (agree : α → β → Prop) : Except ε α → Except ε β → Prop where
  | failed (error : ε) : Agree agree (.error error) (.error error)
  | succeeded {result : α} {other : β} : agree result other → Agree agree (.ok result) (.ok other)

end Confluence.Outcome

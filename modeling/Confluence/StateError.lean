/-!
Why an operation on a clock or on a replicated state is refused. A refused operation produces no
new value, so the value it was asked of stays as it is.
-/

set_option autoImplicit false

namespace Confluence

inductive StateError where
  | clockOverflow
  | removalFromGrowSet
  /-- Elements that were removed for good were to be added again. Each is given by its
  diagnostic text, in the order in which the elements were listed. -/
  | insertionOfRemoved (elements : List String)
  deriving DecidableEq

def StateError.message : StateError → String
  | .clockOverflow => "logical clock overflow"
  | .removalFromGrowSet => "unsupported operation: remove on a grow-only set"
  | .insertionOfRemoved elements =>
    "cannot add permanently removed element(s): " ++ ", ".intercalate elements

end Confluence

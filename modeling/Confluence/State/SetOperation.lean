import Confluence.Text.Diagnostic

/-!
The operations that replicas of sets send to one another.
-/

set_option autoImplicit false

namespace Confluence

inductive SetOperation (α : Type) where
  | add (elements : List α)
  | remove (elements : List α)
  deriving DecidableEq

instance {α : Type} [Diagnostic α] : Diagnostic (SetOperation α) where
  diagnostic
    | .add elements => Diagnostic.tagged "Add" (diagnostic elements)
    | .remove elements => Diagnostic.tagged "Remove" (diagnostic elements)

end Confluence

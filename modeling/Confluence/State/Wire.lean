import Confluence.Causality.Wire
import Confluence.State.GrowCounter
import Confluence.State.GrowSet
import Confluence.State.Register
import Confluence.State.SignedCounter
import Confluence.State.TwoPhaseSet

/-!
The JSON forms of the replicated states and of set operations. Sets are arrays in ascending order;
on reading, order and repetition do not matter. An operation is an object with one member, whose
name tells the operation.
-/

set_option autoImplicit false

namespace Confluence

open Json

instance {α : Type} [Codec α] : Codec (SetOperation α) where
  encode
    | .add elements => .ofFields [("Add", encode elements)]
    | .remove elements => .ofFields [("Remove", encode elements)]
  decode?
    | .object [(some "Add", elements)] => (decode? elements).map .add
    | .object [(some "Remove", elements)] => (decode? elements).map .remove
    | _ => none

instance {α : Type} [Ord α] [Std.TransOrd α] [Std.LawfulEqOrd α] [Codec α] :
    Codec (OrderedSet α) where
  encode set := encode set.elements
  decode? form := (decode? form).map .ofList

instance : Codec GrowCounter where
  encode counter := .ofFields [("counts", encode counter.counts)]
  decode? form := do
    match ← form.fields? ["counts"] with
    | [counts] => some ⟨← required? counts⟩
    | _ => none

instance : Codec SignedCounter where
  encode counter :=
    .ofFields [("positive", encode counter.increments), ("negative", encode counter.decrements)]
  decode? form := do
    match ← form.fields? ["positive", "negative"] with
    | [increments, decrements] => some ⟨← required? increments, ← required? decrements⟩
    | _ => none

instance {α : Type} [Ord α] [Std.TransOrd α] [Std.LawfulEqOrd α] [Codec α] :
    Codec (GrowSet α) where
  encode set := .ofFields [("elements", encode set.elements)]
  decode? form := do
    match ← form.fields? ["elements"] with
    | [elements] => some ⟨← required? elements⟩
    | _ => none

instance {α : Type} [Ord α] [Std.TransOrd α] [Std.LawfulEqOrd α] [Codec α] :
    Codec (TwoPhaseSet α) where
  encode set := .ofFields [("added", encode set.added), ("removed", encode set.removed)]
  decode? form := do
    match ← form.fields? ["added", "removed"] with
    | [added, removed] => some ⟨← required? added, ← required? removed⟩
    | _ => none

/-- The value and the writer may be left out of an object; they are then absent. -/
instance {α : Type} [Codec α] : Codec (Register α) where
  encode register :=
    .ofFields [("value", encode register.value), ("timestamp", encode register.timestamp),
      ("writer", encode register.writer), ("version", encode register.version)]
  decode? form := do
    match ← form.fields? ["value", "timestamp", "writer", "version"] with
    | [value, timestamp, writer, version] =>
      some ⟨← defaulted? none value, ← required? timestamp, ← defaulted? none writer,
        ← required? version⟩
    | _ => none

end Confluence

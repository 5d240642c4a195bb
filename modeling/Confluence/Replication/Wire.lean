import Confluence.Replication.Message
import Confluence.State.Wire

/-!
The JSON forms of the messages between replicas.
-/

set_option autoImplicit false

namespace Confluence

open Json

instance {ω : Type} [Codec ω] : Codec (OperationMessage ω) where
  encode message :=
    .ofFields [("dot", encode message.dot), ("operation", encode message.operation)]
  decode? form := do
    match ← form.fields? ["dot", "operation"] with
    | [dot, operation] => some ⟨← required? dot, ← required? operation⟩
    | _ => none

instance {σ : Type} [Codec σ] : Codec (Snapshot σ) where
  encode message :=
    .ofFields [("origin", encode message.origin), ("version", encode message.version),
      ("state", encode message.state)]
  decode? form := do
    match ← form.fields? ["origin", "version", "state"] with
    | [origin, version, state] =>
      some ⟨← required? origin, ← required? version, ← required? state⟩
    | _ => none

end Confluence

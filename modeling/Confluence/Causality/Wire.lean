import Confluence.Causality.OwnedVector
import Confluence.Json.Codec
import Confluence.ReplicaId
import Confluence.Time.Timestamp

/-!
The JSON forms of identifiers, timestamps, clocks, dots and version vectors. Clocks and
timestamps are bare integers, identifiers bare strings. A vector is a record of its clocks, which
are an object keyed by replica, and of whether it is dotted, which may be left out.
-/

set_option autoImplicit false

namespace Confluence

open Json

instance : Spelling ReplicaId := ⟨toString, ReplicaId.parse?⟩

instance : Codec Timestamp where
  encode time := .integer time.millis
  decode?
    | .integer millis => Timestamp.ofMillis? millis
    | _ => none

instance {width : Nat} : Codec (Clock width) where
  encode clock := .integer clock.value
  decode?
    | .integer (.ofNat value) => Clock.ofNat? value
    | _ => none

namespace VersionVector

variable {κ : Type} [Ord κ] [Spelling κ] {width : Nat}

def encodeClocks (clocks : OrderedMap κ (Clock width)) : Value :=
  .ofFields (clocks.entries.map fun entry => (Spelling.spell entry.1, encode entry.2))

variable [Std.TransOrd κ] [Std.LawfulEqOrd κ]

def decodeEntry? (member : Option String × Value) : Option (κ × Clock width) := do
  let id ← member.1.bind Spelling.unspell?
  let clock ← decode? member.2
  some (id, clock)

/-- Clocks keyed by replica; of members for one replica the last counts. -/
def decodeClocks? : Value → Option (OrderedMap κ (Clock width))
  | .object members => (members.mapM decodeEntry?).map .ofList
  | _ => none

instance : Codec (VersionVector κ width) where
  encode vector :=
    .ofFields [("clocks", encodeClocks vector.clocks), ("dotted", encode vector.isDotted)]
  decode? form := do
    match ← form.fields? ["clocks", "dotted"] with
    | [some clocks, isDotted] =>
      let clocks ← decodeClocks? clocks
      let isDotted ← defaulted? false isDotted
      some ⟨clocks, isDotted⟩
    | _ => none

end VersionVector

instance {κ : Type} [Spelling κ] {width : Nat} : Codec (Dot κ width) where
  encode dot := .ofFields [("id", encode dot.id), ("version", encode dot.clock)]
  decode? form := do
    match ← form.fields? ["id", "version"] with
    | [id, clock] => some ⟨← required? id, ← required? clock⟩
    | _ => none

instance {κ : Type} [Ord κ] [Std.TransOrd κ] [Std.LawfulEqOrd κ] [Spelling κ] {width : Nat} :
    Codec (OwnedVector κ width) where
  encode history :=
    .ofFields [("owner", encode history.owner), ("vector", encode history.vector)]
  decode? form := do
    match ← form.fields? ["owner", "vector"] with
    | [owner, vector] => some ⟨← required? owner, ← required? vector⟩
    | _ => none

end Confluence

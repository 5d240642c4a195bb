import Confluence.Json.Codec
import Confluence.Causality.Wire
import Confluence.Replication.Message
import Confluence.Replication.Updatable

/-!
Notes and scripted replicas: the plainest messages and replicas that a network can have. A note
says nothing but who issued it and which of its notes it is; a scripted replica accepts every note
but those that it was told to refuse.
-/

set_option autoImplicit false

namespace Confluence

structure Note where
  origin : ReplicaId
  number : UInt64
  deriving DecidableEq

namespace Note

instance : Message Note where
  Key := ReplicaId × Nat
  origin := Note.origin
  key note := (note.origin, note.number.toNat)
  rank note := note.number.toNat

open Json

instance : Codec Note where
  encode note :=
    .ofFields [("origin", encode note.origin), ("seq", .integer note.number.toNat)]
  decode? form := do
    match ← form.fields? ["origin", "seq"] with
    | [origin, number] =>
      let origin ← required? origin
      let number : Clock 64 ← required? number
      some ⟨origin, UInt64.ofNat number.value⟩
    | _ => none

end Note

/-- A replica that refuses some notes, each a given number of times. -/
structure ScriptedReplica where
  id : ReplicaId
  refusals : List (Note × Nat)
  deriving DecidableEq

namespace ScriptedReplica

def refuse (replica : ScriptedReplica) (note : Note) (times : Nat) : ScriptedReplica :=
  { replica with refusals := replica.refusals ++ [(note, times)] }

def useRefusal? (note : Note) : List (Note × Nat) → Option (List (Note × Nat))
  | [] => none
  | (refused, times) :: later =>
    if refused = note ∧ 0 < times then some ((refused, times - 1) :: later)
    else (useRefusal? note later).map ((refused, times) :: ·)

instance : Updatable ScriptedReplica Note where
  id := ScriptedReplica.id
  update replica note :=
    match useRefusal? note replica.refusals with
    | some refusals => (.error .replicaDropped, { replica with refusals })
    | none => (.ok (), replica)

end ScriptedReplica

end Confluence

import Confluence.Causality.ReplicaVector
import Confluence.State.SetOperation
import Confluence.Word

/-!
The messages that replicas exchange. Every message has an origin, a key by which exchanges
recognise it, and a rank that tells how far along the history of its origin it is.

There are two kinds. An operation message carries one operation, stamped with the event that
issued it; a snapshot carries a whole state and the version that the state reflects.
-/

set_option autoImplicit false

namespace Confluence

class Message (μ : Type) where
  Key : Type
  [sameKey : BEq Key]
  [keyText : Diagnostic Key]
  origin : μ → ReplicaId
  key : μ → Key
  /-- The position of the message in the history of its origin. -/
  rank : μ → Nat

attribute [reducible, instance] Message.sameKey Message.keyText

structure OperationMessage (ω : Type) where
  dot : ReplicaDot
  operation : ω
  deriving DecidableEq

structure Snapshot (σ : Type) where
  origin : ReplicaId
  /-- The events that the state reflects. -/
  version : ReplicaVector
  state : σ

def OperationMessage.version {ω : Type} (message : OperationMessage ω) : ReplicaVector :=
  message.dot.toVector

instance {ω : Type} : Message (OperationMessage ω) where
  Key := ReplicaDot
  origin message := message.dot.id
  key message := message.dot
  rank message := message.dot.clock.value

instance {σ : Type} [BEq σ] : BEq (Snapshot σ) :=
  ⟨fun left right =>
    left.origin == right.origin && left.version == right.version && left.state == right.state⟩

/-- The rank of a snapshot is the number of events that it reflects. -/
instance {σ : Type} : Message (Snapshot σ) where
  Key := ReplicaId × ReplicaVector
  origin := Snapshot.origin
  key message := (message.origin, message.version)
  rank message := Word.saturate 64 message.version.total.toNat

end Confluence

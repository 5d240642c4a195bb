import Confluence.Causality.ReplicaVector
import Confluence.State.Discipline
import Confluence.Time.Timestamp

/-!
Last-writer-wins registers. A register holds the value of the winning write among all that it has
seen. Of two registers the one that has seen more has the winner; between registers that have each
seen a write the other has not, the later timestamp decides, then the lower writer.
-/

set_option autoImplicit false

namespace Confluence

/-- A register: the winning write, and every write that the register has seen. -/
structure Register (α : Type) where
  value : Option α
  timestamp : Timestamp
  writer : Option ReplicaId
  version : ReplicaVector

namespace Register

variable {α : Type}

def empty : Register α := ⟨none, .epoch, none, ∅⟩

instance : Inhabited (Register α) := ⟨empty⟩

instance [BEq α] : BEq (Register α) :=
  ⟨fun left right =>
    left.value == right.value && left.timestamp == right.timestamp &&
      left.writer == right.writer && left.version == right.version⟩

def ofWrite (value : α) (timestamp : Timestamp) (writer : ReplicaId) (version : ReplicaVector) :
    Register α :=
  ⟨some value, timestamp, some writer, version⟩

/-- Writes a value on behalf of `writer`. The write follows everything that the register has seen:
its timestamp is later than that of the present winner, whatever was asked for. -/
def assignAt (register : Register α) (value : α) (writer : ReplicaId) (timestamp : Timestamp) :
    Except StateError (Register α) :=
  (register.version.increment writer).map fun version =>
    ⟨some value, max timestamp register.timestamp.next, some writer, version⟩

def assign (register : Register α) (value : α) (writer : ReplicaId) (now : Timestamp) :
    Except StateError (Register α) :=
  register.assignAt value writer (.following now register.timestamp)

def isBeatenBy (register other : Register α) : Bool :=
  match register.version.order other.version with
  | .before => true
  | .after | .equal => false
  | .concurrent =>
    match compare other.timestamp register.timestamp with
    | .gt => true
    | .lt => false
    | .eq => compare other.writer register.writer == .lt

instance : Convergent (Register α) where
  merge register other :=
    let winner := if register.isBeatenBy other then other else register
    { winner with version := register.version.absorb other.version }

end Register

end Confluence

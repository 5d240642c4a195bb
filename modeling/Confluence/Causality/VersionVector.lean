import Confluence.Causality.Clock
import Confluence.OrderedMap

/-!
Version vectors. A vector maps replicas to the number of their events that it has seen; a replica
without an entry stands at zero. A vector may be dotted: it then speaks of single events, not of
whole histories, and comparisons with it consider only the replicas that it carries.

Equality of vectors (`==`) is equality of what they count: it ignores dotting, and an entry that
is zero counts as no entry. Equality of their representations is `=`.
-/

set_option autoImplicit false

namespace Confluence

/-- The event of a replica at which its clock reached `clock`. -/
structure Dot (κ : Type) (width : Nat) where
  id : κ
  clock : Clock width
  deriving DecidableEq

/-- Replicas with their clocks, and whether the vector speaks of single events only. -/
structure VersionVector (κ : Type) [Ord κ] (width : Nat) where
  clocks : OrderedMap κ (Clock width)
  isDotted : Bool

namespace Dot

variable {κ : Type} {width : Nat}

instance [Ord κ] : Ord (Dot κ width) :=
  ⟨fun left right => (compare left.id right.id).then (compare left.clock right.clock)⟩

def next (dot : Dot κ width) : Except StateError (Dot κ width) :=
  dot.clock.increment.map fun clock => { dot with clock }

instance [ToString κ] : ToString (Dot κ width) :=
  ⟨fun dot => toString dot.id ++ "@" ++ toString dot.clock⟩

instance [Diagnostic κ] : Diagnostic (Dot κ width) :=
  ⟨fun dot => Diagnostic.record "Dot"
    [("id", diagnostic dot.id), ("version", diagnostic dot.clock)]⟩

end Dot

namespace VersionVector

variable {κ : Type} [Ord κ] {width : Nat}

def empty : VersionVector κ width := ⟨∅, false⟩

instance : EmptyCollection (VersionVector κ width) := ⟨empty⟩

instance : Inhabited (VersionVector κ width) := ⟨empty⟩

def clock (vector : VersionVector κ width) (id : κ) : Clock width :=
  (vector.clocks.get? id).getD .zero

def get (vector : VersionVector κ width) (id : κ) : Nat := (vector.clock id).value

def dot (vector : VersionVector κ width) (id : κ) : Dot κ width := ⟨id, vector.clock id⟩

/-- The replicas that have an entry, zero or not. -/
def ids (vector : VersionVector κ width) : OrderedSet κ := vector.clocks.keys

def entries (vector : VersionVector κ width) : List (κ × Clock width) := vector.clocks.entries

def size (vector : VersionVector κ width) : Nat := vector.clocks.size

def isEmpty (vector : VersionVector κ width) : Bool := vector.clocks.isEmpty

/-- The number of all events that the vector has seen, added up in words of 128 bits. -/
def total (vector : VersionVector κ width) : BitVec 128 :=
  vector.clocks.values.foldr (fun clock sum => clock.widen + sum) 0

/-- The entries that are not zero: all that equality and hashing of vectors look at. -/
def significantEntries (vector : VersionVector κ width) : List (κ × Clock width) :=
  vector.entries.filter fun entry => !entry.2.isZero

def isBehindOn (vector other : VersionVector κ width) (ids : OrderedSet κ) : Bool :=
  ids.elements.any fun id => (vector.clock id).value < (other.clock id).value

def orderOn (vector other : VersionVector κ width) (ids : OrderedSet κ) : CausalOrder :=
  .ofDifferences (vector.isBehindOn other ids) (other.isBehindOn vector ids)

instance [ToString κ] : ToString (VersionVector κ width) :=
  ⟨fun vector => Diagnostic.mapping
    (vector.entries.map fun entry => (toString entry.1, toString entry.2))⟩

instance [Diagnostic κ] : Diagnostic (VersionVector κ width) :=
  ⟨fun vector => (if vector.isDotted then "dotted " else "") ++ Diagnostic.mapping
    (vector.entries.map fun entry => (diagnostic entry.1, diagnostic entry.2))⟩

variable [Std.TransOrd κ] [Std.LawfulEqOrd κ]

def ofDot (dot : Dot κ width) : VersionVector κ width :=
  ⟨(∅ : OrderedMap κ (Clock width)).insert dot.id dot.clock, true⟩

/-- The vector with the listed entries; of entries for one replica the last counts. -/
def ofList (entries : List (κ × Clock width)) : VersionVector κ width := ⟨.ofList entries, false⟩

def increment (vector : VersionVector κ width) (id : κ) :
    Except StateError (VersionVector κ width) :=
  (vector.clock id).increment.map fun clock =>
    { vector with clocks := vector.clocks.insert id clock }

/-- Takes in everything that `other` has seen. Each clock moves to the maximum of the two vectors;
a dotted vector moves only the clocks that it carries. -/
def absorb (vector other : VersionVector κ width) : VersionVector κ width :=
  if vector.isDotted then
    { vector with clocks := vector.clocks.mapValues fun id clock => clock.absorb (other.clock id) }
  else
    { vector with
      clocks := vector.clocks.mergeWith (fun present clock => (present.getD .zero).absorb clock)
        other.clocks }

/-- The replicas by which two vectors are compared. A dotted vector says nothing about replicas
that it does not carry, so if just one of the two is dotted its replicas alone count. -/
def comparedIds (vector other : VersionVector κ width) : OrderedSet κ :=
  match vector.isDotted, other.isDotted with
  | true, false => vector.ids
  | false, true => other.ids
  | _, _ => vector.ids.union other.ids

def order (vector other : VersionVector κ width) : CausalOrder :=
  vector.orderOn other (vector.comparedIds other)

def happenedBefore (vector other : VersionVector κ width) : Bool :=
  vector.order other == .before

def happenedAfter (vector other : VersionVector κ width) : Bool := vector.order other == .after

def isConcurrentWith (vector other : VersionVector κ width) : Bool :=
  vector.order other == .concurrent

def isIdenticalTo (vector other : VersionVector κ width) : Bool := vector.order other == .equal

def dominates (vector other : VersionVector κ width) : Bool :=
  match vector.order other with
  | .after | .equal => true
  | .before | .concurrent => false

/-- Whether `other` follows by a single event: exactly one compared replica differs, and there
`other` is one event ahead. -/
def precedes (vector other : VersionVector κ width) : Bool :=
  match (vector.comparedIds other).elements.filter fun id => vector.clock id != other.clock id with
  | [id] => (vector.clock id).precedes (other.clock id)
  | _ => false

/-- The causal order by the clocks of all replicas, whether a vector is dotted or not. -/
def pointwiseOrder (vector other : VersionVector κ width) : CausalOrder :=
  vector.orderOn other (vector.ids.union other.ids)

/-- Vectors are equal if they count the same events of every replica. -/
instance : BEq (VersionVector κ width) :=
  ⟨fun vector other => vector.pointwiseOrder other == .equal⟩

def partialCompare? (vector other : VersionVector κ width) : Option Ordering :=
  (vector.pointwiseOrder other).toOrdering?

end VersionVector

def Dot.toVector {κ : Type} [Ord κ] [Std.TransOrd κ] [Std.LawfulEqOrd κ] {width : Nat}
    (dot : Dot κ width) : VersionVector κ width :=
  .ofDot dot

end Confluence

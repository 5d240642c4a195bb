import Confluence.Text.Diagnostic
import Confluence.Text.Hexadecimal

/-!
Replica identifiers: 128-bit universally unique identifiers. They are ordered as numbers, written
as five hyphenated groups of lower-case hexadecimal digits, and read in four spellings. Main
statement: reading what is written gives back the identifier.
-/

set_option autoImplicit false

namespace Confluence

structure ReplicaId where
  bits : BitVec 128
  deriving DecidableEq

namespace ReplicaId

instance : Ord ReplicaId := ⟨fun left right => compare left.bits right.bits⟩

instance : Inhabited ReplicaId := ⟨⟨0⟩⟩

instance : Std.TransOrd ReplicaId where
  eq_swap := Std.OrientedOrd.eq_swap (α := BitVec 128)
  isLE_trans := Std.TransOrd.isLE_trans (α := BitVec 128)

instance : Std.LawfulEqOrd ReplicaId where
  eq_of_compare {left right} same := by
    have bits : left.bits = right.bits := Std.LawfulEqOrd.eq_of_compare same
    cases left
    cases right
    cases bits
    rfl

def groupSizes : List Nat := [8, 4, 4, 4, 12]

/-- Cuts digits into groups of the given sizes and sets a hyphen between them. -/
def hyphenate : List Nat → List Char → List Char
  | [], digits => digits
  | [_], digits => digits
  | size :: sizes, digits => digits.take size ++ '-' :: hyphenate sizes (digits.drop size)

def unhyphenate? : List Nat → List Char → Option (List Char)
  | [], text => if text.isEmpty then some [] else none
  | [size], text => if text.length = size then some text else none
  | size :: sizes, text =>
    match text.drop size with
    | '-' :: later => (unhyphenate? sizes later).map (text.take size ++ ·)
    | _ => none

def digits (id : ReplicaId) : List Char := Hexadecimal.digits 32 id.bits.toNat

instance : ToString ReplicaId :=
  ⟨fun id => String.ofList (hyphenate groupSizes id.digits)⟩

instance : Diagnostic ReplicaId :=
  ⟨fun id => Diagnostic.tagged "ReplicaId" (toString id)⟩

def ofDigits? (digits : List Char) : Option ReplicaId :=
  if digits.length = 32 then
    (Hexadecimal.value? digits).map fun value => ⟨BitVec.ofNat 128 value⟩
  else none

def ofHyphenated? (text : List Char) : Option ReplicaId :=
  (unhyphenate? groupSizes text).bind ofDigits?

/-- What introduces an identifier that is written as a uniform resource name. -/
def resourceNameMark : List Char := "urn:uuid:".toList

/-- Reads an identifier: hyphenated, as bare digits, hyphenated in braces, or hyphenated after
`urn:uuid:`. Letters may be of either case. -/
def parse? (text : String) : Option ReplicaId :=
  let characters := text.toList
  if characters.length = 32 then ofDigits? characters
  else if characters.length = 36 then ofHyphenated? characters
  else if characters.length = 38 then
    if characters.head? = some '{' ∧ characters.getLast? = some '}' then
      ofHyphenated? ((characters.drop 1).take 36)
    else none
  else if characters.length = 45 then
    if (characters.take 9).map Char.toLower = resourceNameMark then
      ofHyphenated? (characters.drop 9)
    else none
  else none

private theorem unhyphenate?_hyphenate (sizes : List Nat) (digits : List Char)
    (count : digits.length = sizes.foldr (· + ·) 0) :
    unhyphenate? sizes (hyphenate sizes digits) = some digits := by
  induction sizes generalizing digits with
  | nil =>
    have none : digits = [] := List.eq_nil_of_length_eq_zero (by simpa using count)
    simp [none, hyphenate, unhyphenate?]
  | cons size sizes ih =>
    cases sizes with
    | nil =>
      have exact : digits.length = size := by simpa using count
      simp [hyphenate, unhyphenate?, exact]
    | cons next later =>
      have enough : size ≤ digits.length := by
        rw [count, List.foldr_cons]
        exact Nat.le_add_right ..
      have taken : (digits.take size).length = size := by simp [enough]
      have rest := ih (digits.drop size) (by simp [count])
      have cut : (digits.take size ++ '-' :: hyphenate (next :: later) (digits.drop size)).drop
          size = '-' :: hyphenate (next :: later) (digits.drop size) :=
        List.drop_left' taken
      have kept : (digits.take size ++ '-' :: hyphenate (next :: later) (digits.drop size)).take
          size = digits.take size :=
        List.take_left' taken
      simp only [hyphenate, unhyphenate?, cut, kept, rest, Option.map_some,
        List.take_append_drop]

private theorem length_hyphenate (digits : List Char) (count : digits.length = 32) :
    (hyphenate groupSizes digits).length = 36 := by
  simp [groupSizes, hyphenate, count]

theorem parse?_toString (id : ReplicaId) : parse? (toString id) = some id := by
  have count : id.digits.length = 32 := Hexadecimal.length_digits 32 _
  have length := length_hyphenate id.digits count
  have characters : (toString id).toList = hyphenate groupSizes id.digits := String.toList_ofList
  have read : ofDigits? id.digits = some id := by
    unfold ofDigits?
    rw [if_pos count]
    simp only [digits, Hexadecimal.value?_digits, Option.map_some, Option.some.injEq]
    have below : id.bits.toNat % Nat.pow 16 32 = id.bits.toNat := Nat.mod_eq_of_lt id.bits.isLt
    rw [below]
    cases id
    simp
  simp only [parse?, characters, length, Nat.reduceEqDiff, ↓reduceIte, ofHyphenated?,
    unhyphenate?_hyphenate groupSizes _ count, Option.bind_some, read]

end ReplicaId

end Confluence

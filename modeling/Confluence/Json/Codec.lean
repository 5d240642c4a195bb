import Confluence.Json.Reader
import Confluence.Word

/-!
Types with a JSON form. A record is written as an object with its fields in order, and read from
such an object, with its members in any order, or from an array of its fields. Members that a
record does not know are skipped, whatever they hold; a known member may come only once.
-/

set_option autoImplicit false

namespace Confluence.Json

class Codec (α : Type) where
  encode : α → Value
  decode? : Value → Option α

/-- Types whose values are written as one string, so that they can name the members of an
object. -/
class Spelling (α : Type) where
  spell : α → String
  unspell? : String → Option α

export Codec (encode decode?)

def write {α : Type} [Codec α] (value : α) : String := (encode value).write

def read? {α : Type} [Codec α] (text : String) : Option α := (Value.read? text).bind decode?

/-! ## Basic types -/

instance : Spelling String := ⟨id, some⟩

instance {α : Type} [Spelling α] : Codec α where
  encode value := .text (some (Spelling.spell value))
  decode?
    | .text (some content) => Spelling.unspell? content
    | _ => none

instance : Codec Bool where
  encode := .boolean
  decode?
    | .boolean value => some value
    | _ => none

instance : Codec Unit where
  encode _ := .null
  decode?
    | .null => some ()
    | _ => none

instance : Codec Int64 where
  encode value := .integer value.toInt
  decode?
    | .integer value =>
      if -(Word.size 63 : Int) ≤ value ∧ value < Word.size 63 then some (Int64.ofInt value)
      else none
    | _ => none

instance {α : Type} [Codec α] : Codec (Option α) where
  encode
    | none => .null
    | some value => encode value
  decode?
    | .null => some none
    | form => (decode? form).map some

instance {α : Type} [Codec α] : Codec (List α) where
  encode values := .array (values.map encode)
  decode?
    | .array elements => elements.mapM decode?
    | _ => none

/-! ## Records -/

def Value.ofFields (fields : List (String × Value)) : Value :=
  .object (fields.map fun field => (some field.1, field.2))

/-- The value of the member `name`: `none` if it comes twice, `some none` if it is absent. -/
def Value.member? (name : String) (members : List (Option String × Value)) :
    Option (Option Value) :=
  match members.filter fun member => member.1 == some name with
  | [] => some none
  | [member] => some (some member.2)
  | _ => none

/-- The fields of a record, in the order of `names`. A field may be absent from an object, and
the last fields may be absent from an array. A member without a well-formed name, or a known
member that is repeated, makes it no record. -/
def Value.fields? (names : List String) : Value → Option (List (Option Value))
  | .array elements =>
    if elements.length ≤ names.length then
      some (elements.map some ++ List.replicate (names.length - elements.length) none)
    else none
  | .object members =>
    if members.all fun member => member.1.isSome then
      names.mapM fun name => member? name members
    else none
  | _ => none

def required? {α : Type} [Codec α] (field : Option Value) : Option α := field.bind decode?

def defaulted? {α : Type} [Codec α] (default : α) : Option Value → Option α
  | none => some default
  | some form => decode? form

end Confluence.Json

import Confluence.Json.Value

/-!
Reading JSON text. The reader goes through the text once and keeps the enclosing arrays and
objects that are still open on a stack, so that values may be nested to any depth. It is strict:
no trailing commas, no comments, nothing but blanks around the value.
-/

set_option autoImplicit false

namespace Confluence.Json

/-- An array or object that is still open, with what has been read of it, latest first. -/
inductive Frame where
  | array (before : List Value)
  | object (before : List (Option String × Value)) (name : Option String)

/-- What the reader has to find next, and what encloses it. -/
inductive Progress where
  | expectValue (enclosing : List Frame)
  | expectElement (enclosing : List Frame)
  | expectName (enclosing : List Frame)
  | expectLaterName (before : List (Option String × Value)) (enclosing : List Frame)
  | expectColon (before : List (Option String × Value)) (name : Option String)
      (enclosing : List Frame)
  | complete (found : Value) (enclosing : List Frame)

namespace Progress

def startValue (enclosing : List Frame) : Token → Option Progress
  | .null => some (complete .null enclosing)
  | .boolean value => some (complete (.boolean value) enclosing)
  | .integer value => some (complete (.integer value) enclosing)
  | .real => some (complete .real enclosing)
  | .text content => some (complete (.text content) enclosing)
  | .beginArray => some (expectElement enclosing)
  | .beginObject => some (expectName enclosing)
  | .endArray | .endObject | .colon | .comma => none

def afterValue (found : Value) : List Frame → Token → Option Progress
  | .array before :: enclosing, .comma =>
    some (expectValue (.array (found :: before) :: enclosing))
  | .array before :: enclosing, .endArray =>
    some (complete (.array (found :: before).reverse) enclosing)
  | .object before name :: enclosing, .comma =>
    some (expectLaterName ((name, found) :: before) enclosing)
  | .object before name :: enclosing, .endObject =>
    some (complete (.object ((name, found) :: before).reverse) enclosing)
  | _, _ => none

def step : Progress → Token → Option Progress
  | expectValue enclosing, token => startValue enclosing token
  | expectElement enclosing, .endArray => some (complete (.array []) enclosing)
  | expectElement enclosing, token => startValue (.array [] :: enclosing) token
  | expectName enclosing, .endObject => some (complete (.object []) enclosing)
  | expectName enclosing, .text name => some (expectColon [] name enclosing)
  | expectName _, _ => none
  | expectLaterName before enclosing, .text name => some (expectColon before name enclosing)
  | expectLaterName _ _, _ => none
  | expectColon before name enclosing, .colon =>
    some (expectValue (.object before name :: enclosing))
  | expectColon _ _ _, _ => none
  | complete found enclosing, token => afterValue found enclosing token

def run (progress : Progress) (text : List Char) : Option Progress :=
  match text with
  | [] => some progress
  | first :: rest =>
    if Token.isBlank first then run progress rest
    else
      match _accepted : Token.read first rest with
      | none => none
      | some (token, later) =>
        match progress.step token with
        | none => none
        | some next => run next later
termination_by text.length
decreasing_by
  · simp
  · exact Nat.lt_succ_of_le (Token.length_read _accepted)

def result? : Progress → Option Value
  | complete found [] => some found
  | _ => none

end Progress

def Value.read? (text : String) : Option Value :=
  (Progress.run (.expectValue []) text.toList).bind Progress.result?

end Confluence.Json

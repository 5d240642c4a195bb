import Confluence.Json.Token

/-!
JSON values, and the token sequences that write them. An object keeps its members in the order of
the text, repeated names included; which of them count is for the reader of a record to decide.
-/

set_option autoImplicit false

namespace Confluence.Json

inductive Value where
  | null
  | boolean (value : Bool)
  | integer (value : Int)
  | real
  | text (content : Option String)
  | array (elements : List Value)
  | object (members : List (Option String × Value))

namespace Value

mutual

def tokens : Value → List Token
  | null => [.null]
  | boolean value => [.boolean value]
  | integer value => [.integer value]
  | real => [.real]
  | text content => [.text content]
  | array elements => .beginArray :: elementTokens elements
  | object members => .beginObject :: memberTokens members

def elementTokens : List Value → List Token
  | [] => [.endArray]
  | first :: rest => first.tokens ++ laterElementTokens rest

def laterElementTokens : List Value → List Token
  | [] => [.endArray]
  | next :: rest => .comma :: (next.tokens ++ laterElementTokens rest)

def memberTokens : List (Option String × Value) → List Token
  | [] => [.endObject]
  | (name, value) :: rest =>
    .text name :: .colon :: (value.tokens ++ laterMemberTokens rest)

def laterMemberTokens : List (Option String × Value) → List Token
  | [] => [.endObject]
  | (name, value) :: rest =>
    .comma :: .text name :: .colon :: (value.tokens ++ laterMemberTokens rest)

end

def write (value : Value) : String := String.ofList (value.tokens.flatMap Token.write)

end Value

end Confluence.Json

import Confluence.Text.CodePoint

/-!
Diagnostic texts. The diagnostic text of a value shows its structure: a string stands in quotes
with every character that would not show written as an escape, a list in brackets, a pair in
parentheses, a record with its name and its fields. Error messages and message keys are shown so.
-/

set_option autoImplicit false

namespace Confluence

class Diagnostic (α : Type) where
  diagnostic : α → String

export Diagnostic (diagnostic)

namespace Diagnostic

/-- How a character stands inside quotes. Quotes and backslashes take a backslash; line feed,
carriage return, tab and the null character have short escapes; any other character that is not
plain is written by its code point. -/
def escape (character : Char) : List Char :=
  match character with
  | '"' => ['\\', '"']
  | '\\' => ['\\', '\\']
  | '\n' => ['\\', 'n']
  | '\r' => ['\\', 'r']
  | '\t' => ['\\', 't']
  | '\x00' => ['\\', '0']
  | other =>
    if CodePoint.isPlain other.toNat then [other]
    else ['\\', 'u', '{'] ++ Nat.toDigits 16 other.toNat ++ ['}']

def quoted (text : String) : String :=
  String.ofList ('"' :: text.toList.flatMap escape ++ ['"'])

def listed (texts : List String) : String := ", ".intercalate texts

def tagged (name : String) (part : String) : String := name ++ "(" ++ part ++ ")"

def record (name : String) (fields : List (String × String)) : String :=
  name ++ " \x7b " ++ listed (fields.map fun field => field.1 ++ ": " ++ field.2) ++ " \x7d"

def mapping (entries : List (String × String)) : String :=
  "\x7b" ++ listed (entries.map fun entry => entry.1 ++ ": " ++ entry.2) ++ "\x7d"

instance : Diagnostic String := ⟨quoted⟩

instance : Diagnostic Nat := ⟨Nat.repr⟩

instance : Diagnostic Int := ⟨Int.repr⟩

instance : Diagnostic Int64 := ⟨fun value => value.toInt.repr⟩

instance {α : Type} [Diagnostic α] : Diagnostic (List α) :=
  ⟨fun values => "[" ++ listed (values.map diagnostic) ++ "]"⟩

instance {α β : Type} [Diagnostic α] [Diagnostic β] : Diagnostic (α × β) :=
  ⟨fun pair => "(" ++ diagnostic pair.1 ++ ", " ++ diagnostic pair.2 ++ ")"⟩

end Diagnostic

end Confluence

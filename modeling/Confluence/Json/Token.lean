import Confluence.Text.Hexadecimal

/-!
The tokens of JSON text and how each is written and read. Tokens keep what later readers need:
a number that is written as an integer keeps its value, and a string keeps its characters. A
string whose escapes leave a surrogate unpaired is well-formed but has no characters.
-/

set_option autoImplicit false

namespace Confluence.Json

inductive Token where
  | beginObject
  | endObject
  | beginArray
  | endArray
  | colon
  | comma
  | null
  | boolean (value : Bool)
  /-- A number without fraction and exponent, other than negative zero. -/
  | integer (value : Int)
  | real
  /-- A string; `none` if it contains an unpaired surrogate. -/
  | text (content : Option String)
  deriving DecidableEq

namespace Token

/-! ## Strings -/

/-- What one step of a string literal stands for: a character, or a 16-bit unit that was written
as a numbered escape. -/
inductive Piece where
  | character (value : Char)
  | unit (value : Nat)
  deriving DecidableEq

def isHighSurrogate (unit : Nat) : Bool := 0xd800 ≤ unit && unit < 0xdc00

def isLowSurrogate (unit : Nat) : Bool := 0xdc00 ≤ unit && unit < 0xe000

/-- The characters of a string literal. Two units that form a surrogate pair are one character;
a surrogate on its own is none. -/
def characters? : List Piece → Option (List Char)
  | [] => some []
  | .character value :: rest => (characters? rest).map (value :: ·)
  | .unit high :: .unit low :: rest =>
    if isHighSurrogate high then
      if isLowSurrogate low then
        (characters? rest).map
          (Char.ofNat (0x10000 + (high - 0xd800) * 0x400 + (low - 0xdc00)) :: ·)
      else none
    else if isLowSurrogate high then none
    else (characters? (.unit low :: rest)).map (Char.ofNat high :: ·)
  | .unit value :: rest =>
    if isHighSurrogate value || isLowSurrogate value then none
    else (characters? rest).map (Char.ofNat value :: ·)

def shortEscape? : Char → Option Char
  | '"' => some '"'
  | '\\' => some '\\'
  | '/' => some '/'
  | 'b' => some '\x08'
  | 'f' => some '\x0c'
  | 'n' => some '\n'
  | 'r' => some '\r'
  | 't' => some '\t'
  | _ => none

/-- Reads a string literal after its opening quote, up to and with its closing quote. Control
characters have to be escaped. -/
def readPieces : List Char → Option (List Piece × List Char)
  | [] => none
  | '"' :: rest => some ([], rest)
  | '\\' :: 'u' :: a :: b :: c :: d :: rest => do
    let unit ← Hexadecimal.value? [a, b, c, d]
    let (pieces, later) ← readPieces rest
    some (.unit unit :: pieces, later)
  | '\\' :: sign :: rest => do
    let character ← shortEscape? sign
    let (pieces, later) ← readPieces rest
    some (.character character :: pieces, later)
  | character :: rest =>
    if character < ' ' then none
    else do
      let (pieces, later) ← readPieces rest
      some (.character character :: pieces, later)

/-- How a character is written in a string literal. Quotes and backslashes take a backslash,
control characters an escape; all else stands as it is. -/
def escape (character : Char) : List Char :=
  match character with
  | '"' => ['\\', '"']
  | '\\' => ['\\', '\\']
  | '\x08' => ['\\', 'b']
  | '\x0c' => ['\\', 'f']
  | '\n' => ['\\', 'n']
  | '\r' => ['\\', 'r']
  | '\t' => ['\\', 't']
  | other =>
    if other < ' ' then '\\' :: 'u' :: Hexadecimal.digits 4 other.toNat else [other]

/-! ## Numbers -/

def readDigits (text : List Char) : Option (List Char × List Char) :=
  let digits := text.takeWhile Char.isDigit
  if digits.isEmpty then none else some (digits, text.dropWhile Char.isDigit)

def readFraction : List Char → Option (Bool × List Char)
  | '.' :: rest => (readDigits rest).map fun read => (true, read.2)
  | other => some (false, other)

def readExponent : List Char → Option (Bool × List Char)
  | mark :: rest =>
    if mark = 'e' ∨ mark = 'E' then
      let unsigned :=
        match rest with
        | sign :: later => if sign = '+' ∨ sign = '-' then later else rest
        | [] => rest
      (readDigits unsigned).map fun read => (true, read.2)
    else some (false, mark :: rest)
  | [] => some (false, [])

/-- Reads a number after its sign. More than one digit before the fraction may not start with a
zero. -/
def readMagnitude (isNegative : Bool) (text : List Char) : Option (Token × List Char) := do
  let (digits, afterDigits) ← readDigits text
  if digits.head? = some '0' ∧ digits ≠ ['0'] then none
  else do
    let (hasFraction, afterFraction) ← readFraction afterDigits
    let (hasExponent, later) ← readExponent afterFraction
    let magnitude := Nat.ofDigitChars 10 digits 0
    let token :=
      if hasFraction || hasExponent || (isNegative && magnitude == 0) then real
      else if isNegative then integer (-magnitude)
      else integer magnitude
    some (token, later)

/-! ## All tokens -/

def isBlank (character : Char) : Bool :=
  character = ' ' || character = '\t' || character = '\n' || character = '\r'

def read (first : Char) (rest : List Char) : Option (Token × List Char) :=
  match first with
  | '\x7b' => some (beginObject, rest)
  | '\x7d' => some (endObject, rest)
  | '[' => some (beginArray, rest)
  | ']' => some (endArray, rest)
  | ':' => some (colon, rest)
  | ',' => some (comma, rest)
  | '"' => do
    let (pieces, later) ← readPieces rest
    some (text ((characters? pieces).map String.ofList), later)
  | '-' => readMagnitude true rest
  | 'n' => if rest.take 3 = ['u', 'l', 'l'] then some (null, rest.drop 3) else none
  | 't' => if rest.take 3 = ['r', 'u', 'e'] then some (boolean true, rest.drop 3) else none
  | 'f' => if rest.take 4 = ['a', 'l', 's', 'e'] then some (boolean false, rest.drop 4) else none
  | _ => if first.isDigit then readMagnitude false (first :: rest) else none

/-- The text of a token. A string without characters and a number that is no integer are never
written by this library; they come out as `null`. -/
def write : Token → List Char
  | beginObject => ['\x7b']
  | endObject => ['\x7d']
  | beginArray => ['[']
  | endArray => [']']
  | colon => [':']
  | comma => [',']
  | null => ['n', 'u', 'l', 'l']
  | boolean true => ['t', 'r', 'u', 'e']
  | boolean false => ['f', 'a', 'l', 's', 'e']
  | integer (.ofNat magnitude) => Nat.toDigits 10 magnitude
  | integer (.negSucc magnitude) => '-' :: Nat.toDigits 10 (magnitude + 1)
  | real => ['n', 'u', 'l', 'l']
  | text (some content) => '"' :: content.toList.flatMap escape ++ ['"']
  | text none => ['n', 'u', 'l', 'l']

/-! ## Reading makes progress -/

private theorem length_readPieces {text : List Char} {pieces : List Piece} {later : List Char}
    (read : readPieces text = some (pieces, later)) : later.length < text.length := by
  fun_induction readPieces text generalizing pieces later with
  | case1 => cases read
  | case2 rest =>
    cases read
    simp
  | case3 a b c d rest ih =>
    simp only [Option.bind_eq_bind, Option.bind_eq_some_iff] at read
    obtain ⟨unit, -, ⟨inner, innerLater⟩, found, same⟩ := read
    cases same
    have shorter := ih found
    simp only [List.length_cons]
    omega
  | case4 sign rest _ ih =>
    simp only [Option.bind_eq_bind, Option.bind_eq_some_iff] at read
    obtain ⟨character, -, ⟨inner, innerLater⟩, found, same⟩ := read
    cases same
    have shorter := ih found
    simp only [List.length_cons]
    omega
  | case5 => cases read
  | case6 character rest _ _ _ _ ih =>
    simp only [Option.bind_eq_bind, Option.bind_eq_some_iff] at read
    obtain ⟨⟨inner, innerLater⟩, found, same⟩ := read
    cases same
    have shorter := ih found
    simp only [List.length_cons]
    omega

private theorem length_readDigits {text digits later : List Char}
    (read : readDigits text = some (digits, later)) : later.length < text.length := by
  simp only [readDigits] at read
  split at read
  · cases read
  · next some =>
    cases read
    have all : (text.takeWhile Char.isDigit).length + (text.dropWhile Char.isDigit).length =
        text.length := by
      rw [← List.length_append, List.takeWhile_append_dropWhile]
    have some : (text.takeWhile Char.isDigit).length ≠ 0 := by
      simpa [List.isEmpty_iff] using some
    omega

private theorem length_readFraction {text later : List Char} {found : Bool}
    (read : readFraction text = some (found, later)) : later.length ≤ text.length := by
  unfold readFraction at read
  split at read
  · simp only [Option.map_eq_some_iff, Prod.mk.injEq] at read
    obtain ⟨⟨digits, rest⟩, digitsRead, -, rfl⟩ := read
    have shorter := length_readDigits digitsRead
    simp only [List.length_cons]
    omega
  · cases read
    exact Nat.le_refl _

private theorem length_readExponent {text later : List Char} {found : Bool}
    (read : readExponent text = some (found, later)) : later.length ≤ text.length := by
  unfold readExponent at read
  split at read
  · next mark rest =>
    split at read
    · simp only [Option.map_eq_some_iff, Prod.mk.injEq] at read
      obtain ⟨⟨digits, remaining⟩, digitsRead, -, rfl⟩ := read
      have shorter := length_readDigits digitsRead
      split at shorter
      · split at shorter <;> simp only [List.length_cons] at shorter ⊢ <;> omega
      · simp only [List.length_cons]
        omega
    · cases read
      exact Nat.le_refl _
  · cases read
    exact Nat.le_refl _

private theorem length_readMagnitude {isNegative : Bool} {text later : List Char} {token : Token}
    (read : readMagnitude isNegative text = some (token, later)) :
    later.length < text.length := by
  simp only [readMagnitude, Option.bind_eq_bind, Option.bind_eq_some_iff] at read
  obtain ⟨⟨digits, afterDigits⟩, digitsRead, read⟩ := read
  simp only at read
  split at read
  · cases read
  · simp only [Option.bind_eq_some_iff] at read
    obtain ⟨⟨_, afterFraction⟩, fractionRead, ⟨_, afterExponent⟩, exponentRead, same⟩ := read
    cases same
    have first := length_readDigits digitsRead
    have second := length_readFraction fractionRead
    have third := length_readExponent exponentRead
    exact Nat.lt_of_le_of_lt (Nat.le_trans third second) first

theorem length_read {first : Char} {rest later : List Char} {token : Token}
    (accepted : read first rest = some (token, later)) : later.length ≤ rest.length := by
  unfold read at accepted
  split at accepted
  iterate 6
    · cases accepted
      exact Nat.le_refl _
  · simp only [Option.bind_eq_bind, Option.bind_eq_some_iff] at accepted
    obtain ⟨⟨pieces, remaining⟩, piecesRead, same⟩ := accepted
    cases same
    exact Nat.le_of_lt (length_readPieces piecesRead)
  · exact Nat.le_of_lt (length_readMagnitude accepted)
  iterate 3
    · split at accepted
      · cases accepted
        simp
      · cases accepted
  · split at accepted
    · exact Nat.le_of_lt_succ (length_readMagnitude accepted)
    · cases accepted

end Token

end Confluence.Json

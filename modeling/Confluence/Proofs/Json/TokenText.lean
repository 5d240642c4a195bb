import Confluence.Json.Token

/-!
Tokens and their texts. Every token that this library writes is read back from its text, whatever
follows; only the text of a number does not show where it ends, and takes a character after it that
belongs to no number.
-/

set_option autoImplicit false

namespace Confluence.Json.Token

/-! ## Strings -/

theorem characters?_unit {unit : Nat} (plain : unit < 0xd800) (later : List Piece) :
    characters? (.unit unit :: later) = (characters? later).map (Char.ofNat unit :: ·) := by
  have notHigh : isHighSurrogate unit = false := by
    simp only [isHighSurrogate, Bool.and_eq_false_iff, decide_eq_false_iff_not]
    omega
  have notLow : isLowSurrogate unit = false := by
    simp only [isLowSurrogate, Bool.and_eq_false_iff, decide_eq_false_iff_not]
    omega
  cases later with
  | nil => simp [characters?, notHigh, notLow]
  | cons next rest => cases next <;> simp [characters?, notHigh, notLow]

/-- A character in a string is read in one step. Its escape may be a numbered one, which stands for
the same character. -/
theorem readPieces_escape (character : Char) (rest : List Char) :
    ∃ piece, readPieces (escape character ++ rest) =
        (readPieces rest).map (fun read => (piece :: read.1, read.2)) ∧
      ∀ later, characters? (piece :: later) = (characters? later).map (character :: ·) := by
  have bind_eq_map : ∀ piece,
      ((readPieces rest).bind fun read => some (piece :: read.1, read.2)) =
        (readPieces rest).map fun read => (piece :: read.1, read.2) := by
    intro piece
    cases readPieces rest <;> rfl
  unfold escape
  split
  iterate 7
    · exact ⟨.character _, bind_eq_map _, fun _ => rfl⟩
  next notQuote notBackslash _ _ _ _ _ =>
    split
    next isControl =>
      have small : character.toNat < 32 := isControl
      have value : Hexadecimal.value? (Hexadecimal.digits 4 character.toNat) =
          some character.toNat := by
        rw [Hexadecimal.value?_digits]
        exact congrArg some (Nat.mod_eq_of_lt (Nat.lt_trans small (by decide)))
      refine ⟨.unit character.toNat, ?_, ?_⟩
      · simp only [Hexadecimal.digits, List.nil_append, List.cons_append] at value ⊢
        rw [readPieces, value]
        exact bind_eq_map _
      · intro later
        rw [characters?_unit (Nat.lt_trans small (by decide)), Char.ofNat_toNat]
    next notControl =>
      refine ⟨.character character, ?_, fun _ => rfl⟩
      rw [List.singleton_append, readPieces, if_neg notControl]
      · exact bind_eq_map _
      · exact notQuote
      · rintro _ _ _ _ _ rfl
        exact absurd rfl notBackslash
      · rintro _ _ rfl
        exact absurd rfl notBackslash

theorem readPieces_content (content later : List Char) :
    ∃ pieces, readPieces (content.flatMap escape ++ '"' :: later) = some (pieces, later) ∧
      characters? pieces = some content := by
  induction content with
  | nil => exact ⟨[], rfl, rfl⟩
  | cons first rest ih =>
      obtain ⟨pieces, read, found⟩ := ih
      obtain ⟨piece, step, stands⟩ := readPieces_escape first (rest.flatMap escape ++ '"' :: later)
      refine ⟨piece :: pieces, ?_, ?_⟩
      · rw [List.flatMap_cons, List.append_assoc, step, read]
        rfl
      · rw [stands, found]
        rfl

/-! ## Numbers -/

/-- What may follow a number: the end of the text, or a character that continues no number. -/
def EndsNumber (later : List Char) : Prop :=
  ∀ first, later.head? = some first →
    first.isDigit = false ∧ first ≠ '.' ∧ first ≠ 'e' ∧ first ≠ 'E'

theorem endsNumber_nil : EndsNumber [] := by
  intro first absent
  cases absent

theorem readFraction_end {later : List Char} (ends : EndsNumber later) :
    readFraction later = some (false, later) := by
  unfold readFraction
  split
  · exact absurd rfl (ends '.' rfl).2.1
  · rfl

theorem readExponent_end {later : List Char} (ends : EndsNumber later) :
    readExponent later = some (false, later) := by
  unfold readExponent
  split
  next mark rest =>
    obtain ⟨_, _, notLower, notUpper⟩ := ends mark rfl
    rw [if_neg (not_or.mpr ⟨notLower, notUpper⟩)]
  next => rfl

theorem takeWhile_digits {digits later : List Char} (all : ∀ digit ∈ digits, digit.isDigit = true)
    (ends : EndsNumber later) :
    (digits ++ later).takeWhile Char.isDigit = digits ∧
      (digits ++ later).dropWhile Char.isDigit = later := by
  rw [List.takeWhile_append_of_pos all, List.dropWhile_append_of_pos all]
  cases later with
  | nil => simp
  | cons first rest => simp [(ends first rfl).1]

theorem head?_toDigits_of_pos {value : Nat} (positive : 0 < value) :
    (Nat.toDigits 10 value).head? ≠ some '0' := by
  induction value using Nat.strongRecOn with
  | ind value ih =>
      rw [Nat.toDigits_eq_if (by decide)]
      split
      next small =>
        have digits : ∀ digit, digit < 10 → 0 < digit → Nat.digitChar digit ≠ '0' := by decide
        simpa using digits value small positive
      next large =>
        have fewer := ih (value / 10) (by omega) (by omega)
        cases leading : Nat.toDigits 10 (value / 10) with
        | nil => exact absurd leading Nat.toDigits_ne_nil
        | cons first rest =>
            rw [leading] at fewer
            exact fewer

theorem readMagnitude_toDigits (isNegative : Bool) (value : Nat) {later : List Char}
    (ends : EndsNumber later) (signed : isNegative = true → 0 < value) :
    readMagnitude isNegative (Nat.toDigits 10 value ++ later) =
      some (integer (if isNegative then -value else value), later) := by
  have all : ∀ digit ∈ Nat.toDigits 10 value, digit.isDigit = true :=
    fun digit isDigit => Nat.isDigit_of_mem_toDigits (by decide) (by decide) isDigit
  obtain ⟨taken, dropped⟩ := takeWhile_digits all ends
  have nonempty : (Nat.toDigits 10 value).isEmpty = false :=
    List.isEmpty_eq_false_iff.mpr Nat.toDigits_ne_nil
  have noLeadingZero : ¬ ((Nat.toDigits 10 value).head? = some '0' ∧
      Nat.toDigits 10 value ≠ ['0']) := by
    intro ⟨leading, longer⟩
    by_cases positive : 0 < value
    · exact head?_toDigits_of_pos positive leading
    · rw [Nat.eq_zero_of_not_pos positive] at longer
      exact longer rfl
  simp only [readMagnitude, readDigits, taken, dropped, nonempty, Bool.false_eq_true, ↓reduceIte,
    Option.bind_eq_bind, Option.bind_some, readFraction_end ends, readExponent_end ends]
  rw [if_neg noLeadingZero, Nat.ofDigitChars_ten_toDigits]
  cases isNegative with
  | false => rfl
  | true =>
      have nonzero : (value == 0) = false := beq_eq_false_iff_ne.mpr (Nat.ne_of_gt (signed rfl))
      simp [nonzero]

/-! ## All tokens -/

/-- Tokens that this library writes. -/
def isWritable : Token → Bool
  | real => false
  | text content => content.isSome
  | _ => true

theorem read_digit {first : Char} (digit : first.isDigit = true) (rest : List Char) :
    read first rest = readMagnitude false (first :: rest) := by
  unfold read
  split
  iterate 11
    · cases digit
  · rw [if_pos digit]

/-- The text of a token is not empty and starts with no blank, and it reads back to the token. -/
theorem read_write {token : Token} (writable : token.isWritable = true) {later : List Char}
    (ends : ∀ value, token = integer value → EndsNumber later) :
    ∃ first rest, token.write ++ later = first :: rest ∧ isBlank first = false ∧
      read first rest = some (token, later) := by
  cases token with
  | real => cases writable
  | text content =>
      cases content with
      | none => cases writable
      | some content =>
          obtain ⟨pieces, pieced, found⟩ := readPieces_content content.toList later
          refine ⟨'"', content.toList.flatMap escape ++ '"' :: later, by simp [write], rfl, ?_⟩
          simp [read, pieced, found]
  | integer value =>
      cases value with
      | ofNat magnitude =>
          have read := readMagnitude_toDigits false magnitude (ends _ rfl) (by simp)
          cases digits : Nat.toDigits 10 magnitude with
          | nil => exact absurd digits Nat.toDigits_ne_nil
          | cons first rest =>
              have isFirst : first ∈ Nat.toDigits 10 magnitude := digits ▸ List.mem_cons_self
              have digit : first.isDigit = true :=
                Nat.isDigit_of_mem_toDigits (by decide) (by decide) isFirst
              rw [digits] at read
              refine ⟨first, rest ++ later, by simp [write, digits], ?_,
                (read_digit digit _).trans read⟩
              refine Bool.eq_false_iff.mpr fun blank => ?_
              simp only [isBlank, Bool.or_eq_true, decide_eq_true_eq] at blank
              rcases blank with ((rfl | rfl) | rfl) | rfl <;> cases digit
      | negSucc magnitude =>
          exact ⟨'-', Nat.toDigits 10 (magnitude + 1) ++ later, rfl, rfl,
            readMagnitude_toDigits true (magnitude + 1) (ends _ rfl) fun _ => Nat.succ_pos _⟩
  | boolean value => cases value <;> exact ⟨_, _, rfl, rfl, rfl⟩
  | _ => exact ⟨_, _, rfl, rfl, rfl⟩

end Confluence.Json.Token

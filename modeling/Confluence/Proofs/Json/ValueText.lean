import Confluence.Json.Reader
import Confluence.Proofs.Json.TokenText

/-!
Values and their texts. The reader comes from the text of a value back to the value, however deep
it is nested and whatever encloses it.
-/

set_option autoImplicit false

namespace Confluence.Json

/-! ## Which values have a text -/

namespace Value

/-- All strings and names in the value have characters, and all its numbers are integers. -/
def IsWritable (value : Value) : Prop := ∀ token ∈ value.tokens, token.isWritable = true

theorem laterElementTokens_writable_iff {elements : List Value} :
    (∀ token ∈ laterElementTokens elements, token.isWritable = true) ↔
      ∀ element ∈ elements, element.IsWritable := by
  induction elements with
  | nil => simp [laterElementTokens, Token.isWritable]
  | cons next rest ih =>
      simp only [laterElementTokens, List.forall_mem_cons, List.forall_mem_append, ih]
      exact and_iff_right rfl

theorem laterMemberTokens_writable_iff {members : List (Option String × Value)} :
    (∀ token ∈ laterMemberTokens members, token.isWritable = true) ↔
      ∀ member ∈ members, member.1.isSome = true ∧ member.2.IsWritable := by
  induction members with
  | nil => simp [laterMemberTokens, Token.isWritable]
  | cons next rest ih =>
      obtain ⟨name, value⟩ := next
      simp only [laterMemberTokens, List.forall_mem_cons, List.forall_mem_append, ih, and_assoc]
      exact (and_iff_right rfl).trans (and_congr_right fun _ => and_iff_right rfl)

theorem isWritable_array_iff {elements : List Value} :
    (array elements).IsWritable ↔ ∀ element ∈ elements, element.IsWritable := by
  refine List.forall_mem_cons.trans ((and_iff_right rfl).trans ?_)
  cases elements with
  | nil => simp [elementTokens, Token.isWritable]
  | cons first rest =>
      rw [elementTokens, List.forall_mem_append, laterElementTokens_writable_iff,
        List.forall_mem_cons]
      rfl

theorem isWritable_object_iff {members : List (Option String × Value)} :
    (object members).IsWritable ↔
      ∀ member ∈ members, member.1.isSome = true ∧ member.2.IsWritable := by
  refine List.forall_mem_cons.trans ((and_iff_right rfl).trans ?_)
  cases members with
  | nil => simp [memberTokens, Token.isWritable]
  | cons first rest =>
      obtain ⟨name, value⟩ := first
      simp only [memberTokens, List.forall_mem_cons, List.forall_mem_append,
        laterMemberTokens_writable_iff, and_assoc]
      exact and_congr_right fun _ => and_iff_right rfl

end Value

/-! ## Reading texts -/

namespace Progress

/-- The text of tokens that follow one another. -/
def text (tokens : List Token) : List Char := tokens.flatMap Token.write

theorem text_append (first second : List Token) :
    text (first ++ second) = text first ++ text second :=
  List.flatMap_append

theorem run_token {progress next : Progress} {token : Token} (writable : token.isWritable = true)
    {later : List Char} (ends : ∀ value, token = .integer value → Token.EndsNumber later)
    (step : progress.step token = some next) :
    run progress (token.write ++ later) = run next later := by
  obtain ⟨first, rest, written, notBlank, read⟩ := Token.read_write writable ends
  rw [written, run]
  simp only [notBlank, Bool.false_eq_true, ↓reduceIte]
  split
  next refused =>
    rw [read] at refused
    cases refused
  next found after accepted =>
    rw [read] at accepted
    cases accepted
    rw [step]

/-- Tokens other than numbers show by themselves where they end. -/
theorem run_mark {progress next : Progress} {token : Token} (writable : token.isWritable = true)
    (plain : ∀ value, token ≠ .integer value) (step : progress.step token = some next)
    (tokens : List Token) (later : List Char) :
    run progress (text (token :: tokens) ++ later) = run next (text tokens ++ later) := by
  have unfolded : text (token :: tokens) ++ later = token.write ++ (text tokens ++ later) :=
    List.append_assoc ..
  rw [unfolded]
  exact run_token writable (fun value same => absurd same (plain value)) step

theorem endsNumber_laterElements (elements : List Value) (later : List Char) :
    Token.EndsNumber (text (Value.laterElementTokens elements) ++ later) := by
  intro first isFirst
  cases elements <;> cases isFirst <;> exact ⟨rfl, by decide, by decide, by decide⟩

theorem endsNumber_laterMembers (members : List (Option String × Value)) (later : List Char) :
    Token.EndsNumber (text (Value.laterMemberTokens members) ++ later) := by
  intro first isFirst
  cases members <;> cases isFirst <;> exact ⟨rfl, by decide, by decide, by decide⟩

/-- The reader is about to read a value within `enclosing`. The end of an array, with which no value
begins, may be due as well. -/
def Expects (progress : Progress) (enclosing : List Frame) : Prop :=
  ∀ token, token ≠ .endArray → progress.step token = startValue enclosing token

theorem expects_value (enclosing : List Frame) : (expectValue enclosing).Expects enclosing :=
  fun _ _ => rfl

theorem expects_element (enclosing : List Frame) :
    (expectElement enclosing).Expects (.array [] :: enclosing) := by
  intro token different
  cases token with
  | endArray => exact absurd rfl different
  | _ => rfl

theorem run_single {progress : Progress} {enclosing : List Frame} {value : Value} {token : Token}
    (expects : progress.Expects enclosing) (writable : token.isWritable = true)
    (notEnd : token ≠ .endArray)
    (starts : startValue enclosing token = some (complete value enclosing)) {later : List Char}
    (ends : Token.EndsNumber later) :
    run progress (text [token] ++ later) = run (complete value enclosing) later := by
  rw [text, List.flatMap_singleton]
  exact run_token writable (fun _ _ => ends) ((expects token notEnd).trans starts)

mutual

theorem run_value {progress : Progress} {enclosing : List Frame} {later : List Char} :
    (value : Value) → value.IsWritable → progress.Expects enclosing → Token.EndsNumber later →
      run progress (text value.tokens ++ later) = run (complete value enclosing) later
  | .null, writable, expects, ends =>
    run_single expects (writable _ (.head _)) (by simp) rfl ends
  | .boolean _, writable, expects, ends =>
    run_single expects (writable _ (.head _)) (by simp) rfl ends
  | .integer _, writable, expects, ends =>
    run_single expects (writable _ (.head _)) (by simp) rfl ends
  | .real, writable, expects, ends =>
    run_single expects (writable _ (.head _)) (by simp) rfl ends
  | .text _, writable, expects, ends =>
    run_single expects (writable _ (.head _)) (by simp) rfl ends
  | .array [], _, expects, _ => by
    rw [Value.tokens, run_mark rfl (by simp) (expects .beginArray (by simp))]
    exact run_mark rfl (by simp) rfl [] later
  | .array (first :: rest), writable, expects, _ => by
    obtain ⟨inFirst, inRest⟩ := List.forall_mem_cons.mp (Value.isWritable_array_iff.mp writable)
    rw [Value.tokens, run_mark rfl (by simp) (expects .beginArray (by simp)), Value.elementTokens,
      text_append, List.append_assoc,
      run_value first inFirst (expects_element enclosing) (endsNumber_laterElements rest later)]
    exact run_laterElements rest [] first inRest
  | .object [], _, expects, _ => by
    rw [Value.tokens, run_mark rfl (by simp) (expects .beginObject (by simp))]
    exact run_mark rfl (by simp) rfl [] later
  | .object ((name, value) :: rest), writable, expects, _ => by
    obtain ⟨⟨named, inValue⟩, inRest⟩ :=
      List.forall_mem_cons.mp (Value.isWritable_object_iff.mp writable)
    have isName : (Token.text name).isWritable = true := named
    rw [Value.tokens, run_mark rfl (by simp) (expects .beginObject (by simp)), Value.memberTokens,
      run_mark isName (by simp) rfl, run_mark rfl (by simp) rfl, text_append, List.append_assoc,
      run_value value inValue (expects_value _) (endsNumber_laterMembers rest later)]
    exact run_laterMembers rest [] name value inRest

theorem run_laterElements {enclosing : List Frame} {later : List Char} :
    (elements before : List Value) → (found : Value) →
      (∀ element ∈ elements, element.IsWritable) →
      run (complete found (.array before :: enclosing))
          (text (Value.laterElementTokens elements) ++ later) =
        run (complete (.array ((found :: before).reverse ++ elements)) enclosing) later
  | [], before, found, _ => by
    rw [List.append_nil]
    exact run_mark rfl (by simp) rfl [] later
  | next :: rest, before, found, writable => by
    obtain ⟨inNext, inRest⟩ := List.forall_mem_cons.mp writable
    rw [Value.laterElementTokens, run_mark rfl (by simp) rfl, text_append, List.append_assoc,
      run_value next inNext (expects_value _) (endsNumber_laterElements rest later),
      run_laterElements rest (found :: before) next inRest, List.reverse_cons (a := next),
      List.append_assoc, List.singleton_append]

theorem run_laterMembers {enclosing : List Frame} {later : List Char} :
    (members before : List (Option String × Value)) → (name : Option String) → (found : Value) →
      (∀ member ∈ members, member.1.isSome = true ∧ member.2.IsWritable) →
      run (complete found (.object before name :: enclosing))
          (text (Value.laterMemberTokens members) ++ later) =
        run (complete (.object (((name, found) :: before).reverse ++ members)) enclosing) later
  | [], before, name, found, _ => by
    rw [List.append_nil]
    exact run_mark rfl (by simp) rfl [] later
  | (nextName, next) :: rest, before, name, found, writable => by
    obtain ⟨⟨named, inNext⟩, inRest⟩ := List.forall_mem_cons.mp writable
    have isName : (Token.text nextName).isWritable = true := named
    rw [Value.laterMemberTokens, run_mark rfl (by simp) rfl, run_mark isName (by simp) rfl,
      run_mark rfl (by simp) rfl, text_append, List.append_assoc,
      run_value next inNext (expects_value _) (endsNumber_laterMembers rest later),
      run_laterMembers rest ((name, found) :: before) nextName next inRest,
      List.reverse_cons (a := (nextName, next)), List.append_assoc, List.singleton_append]

end

end Progress

/-- The text of a value reads back to the value. -/
theorem Value.read?_write {value : Value} (writable : value.IsWritable) :
    Value.read? value.write = some value := by
  have ran : Progress.run _ (Progress.text value.tokens ++ []) = _ :=
    Progress.run_value value writable (Progress.expects_value []) Token.endsNumber_nil
  rw [List.append_nil] at ran
  unfold Value.read? write
  rw [String.toList_ofList]
  change ((Progress.run _ (Progress.text value.tokens)).bind _) = _
  rw [ran, Progress.run]
  rfl

end Confluence.Json

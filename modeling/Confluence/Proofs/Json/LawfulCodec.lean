import Confluence.Json.Codec
import Confluence.Proofs.Json.ValueText

/-!
Types whose values survive being written: the form of every value has a text, and is read back to
the value. So is then the text. Records keep this law if their fields do.
-/

set_option autoImplicit false

namespace Confluence.Json

class LawfulSpelling (α : Type) [Spelling α] : Prop where
  unspell?_spell : ∀ value : α, Spelling.unspell? (Spelling.spell value) = some value

class LawfulCodec (α : Type) [Codec α] : Prop where
  isWritable_encode : ∀ value : α, (encode value).IsWritable
  decode?_encode : ∀ value : α, decode? (encode value) = some value

export LawfulCodec (isWritable_encode decode?_encode)

section

variable {α : Type} [Codec α] [LawfulCodec α]

theorem read?_write (value : α) : read? (write value) = some value := by
  rw [read?, write, Value.read?_write (isWritable_encode value)]
  exact decode?_encode value

theorem write_injective {first second : α} (same : write first = write second) :
    first = second :=
  Option.some.inj ((read?_write first).symm.trans ((congrArg read? same).trans (read?_write second)))

end

theorem Value.isWritable_of_single {value : Value} {token : Token} (single : value.tokens = [token])
    (writable : token.isWritable = true) : value.IsWritable := by
  intro other isToken
  rw [single] at isToken
  rw [List.mem_singleton.mp isToken]
  exact writable

/-! ## Basic types -/

instance : LawfulSpelling String := ⟨fun _ => rfl⟩

instance {α : Type} [Spelling α] [LawfulSpelling α] : LawfulCodec α where
  isWritable_encode _ := Value.isWritable_of_single rfl rfl
  decode?_encode := LawfulSpelling.unspell?_spell

/-- A spelling is never mistaken for absence. -/
instance {α : Type} [Spelling α] [LawfulSpelling α] : LawfulCodec (Option α) where
  isWritable_encode
    | none => Value.isWritable_of_single rfl rfl
    | some _ => Value.isWritable_of_single rfl rfl
  decode?_encode
    | none => rfl
    | some value => congrArg (Option.map some) (decode?_encode value)

instance : LawfulCodec Bool where
  isWritable_encode _ := Value.isWritable_of_single rfl rfl
  decode?_encode _ := rfl

instance : LawfulCodec Unit where
  isWritable_encode _ := Value.isWritable_of_single rfl rfl
  decode?_encode _ := rfl

instance : LawfulCodec Int64 where
  isWritable_encode _ := Value.isWritable_of_single rfl rfl
  decode?_encode value := by
    have bounds : -(Word.size 63 : Int) ≤ value.toInt ∧ value.toInt < Word.size 63 :=
      ⟨value.le_toInt, value.toInt_lt⟩
    simp only [encode, decode?]
    rw [if_pos bounds, Int64.ofInt_toInt]

theorem mapM_eq_some {α β : Type} {read : α → Option β} {result : α → β} {elements : List α}
    (succeeds : ∀ element ∈ elements, read element = some (result element)) :
    elements.mapM read = some (elements.map result) := by
  induction elements with
  | nil => rfl
  | cons first rest ih =>
      obtain ⟨ofFirst, ofRest⟩ := List.forall_mem_cons.mp succeeds
      rw [List.mapM_cons, ofFirst, ih ofRest]
      rfl

instance {α : Type} [Codec α] [LawfulCodec α] : LawfulCodec (List α) where
  isWritable_encode values := by
    refine Value.isWritable_array_iff.mpr fun element isElement => ?_
    obtain ⟨value, _, rfl⟩ := List.mem_map.mp isElement
    exact isWritable_encode value
  decode?_encode values := by
    change (values.map encode).mapM decode? = some values
    have each : ∀ value ∈ values, (decode? ∘ encode) value = some value :=
      fun value _ => decode?_encode value
    rw [List.mapM_map, mapM_eq_some each, List.map_id']

/-! ## Records -/

namespace Value

theorem isWritable_ofFields {fields : List (String × Value)}
    (writable : ∀ field ∈ fields, field.2.IsWritable) : (ofFields fields).IsWritable := by
  refine isWritable_object_iff.mpr fun member isMember => ?_
  obtain ⟨field, isField, rfl⟩ := List.mem_map.mp isMember
  exact ⟨rfl, writable field isField⟩

theorem filter_named {fields : List (String × Value)} (distinct : (fields.map (·.1)).Nodup)
    {field : String × Value} (isField : field ∈ fields) :
    (fields.map fun field => (some field.1, field.2)).filter
        (fun member => member.1 == some field.1) = [(some field.1, field.2)] := by
  induction fields with
  | nil => cases isField
  | cons first rest ih =>
      obtain ⟨isFirst, restDistinct⟩ := List.nodup_cons.mp distinct
      rcases List.mem_cons.mp isField with rfl | isLater
      · have others : (rest.map fun other => (some other.1, other.2)).filter
            (fun member => member.1 == some field.1) = [] := by
          refine List.filter_eq_nil_iff.mpr fun member isMember => ?_
          obtain ⟨other, isOther, rfl⟩ := List.mem_map.mp isMember
          have apart : other.1 ≠ field.1 :=
            fun same => isFirst (List.mem_map.mpr ⟨other, isOther, same⟩)
          simpa using apart
        simp [others]
      · have apart : first.1 ≠ field.1 :=
          fun same => isFirst (List.mem_map.mpr ⟨field, isLater, same.symm⟩)
        simpa [apart] using ih restDistinct isLater

/-- The fields of a record that was written are found by their names. -/
theorem fields?_ofFields_bind {α : Type} {fields : List (String × Value)} {names : List String}
    {make : List (Option Value) → Option α} (named : fields.map (·.1) = names)
    (distinct : names.Nodup) :
    ((ofFields fields).fields? names >>= make) = make (fields.map fun field => some field.2) := by
  have allNamed : (fields.map fun field => (some field.1, field.2)).all
      (fun member => member.1.isSome) = true := by
    simp
  have found : ∀ field ∈ fields,
      member? field.1 (fields.map fun field => (some field.1, field.2)) = some (some field.2) := by
    intro field isField
    simp only [member?, filter_named (named ▸ distinct) isField]
  rw [ofFields, fields?, if_pos allNamed, ← named, List.mapM_map]
  exact congrArg (· >>= make) (mapM_eq_some found)

end Value

@[simp] theorem required?_encode {α : Type} [Codec α] [LawfulCodec α] (value : α) :
    required? (some (encode value)) = some value :=
  decode?_encode value

@[simp] theorem defaulted?_encode {α : Type} [Codec α] [LawfulCodec α] (default value : α) :
    defaulted? default (some (encode value)) = some value :=
  decode?_encode value

end Confluence.Json

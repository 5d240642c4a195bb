import Confluence.Proofs.Json.LawfulCodec
import Confluence.Replication.Wire

/-!
Messages and their texts. Every message is read back from its text as it was: with the same clocks,
those that are zero included, dotted or not as before, and with its strings character by character.
-/

set_option autoImplicit false

namespace Confluence

open Json

/-! ## Clocks and vectors -/

instance : LawfulSpelling ReplicaId := ⟨ReplicaId.parse?_toString⟩

instance : LawfulCodec Timestamp where
  isWritable_encode _ := Value.isWritable_of_single rfl rfl
  decode?_encode := Timestamp.ofMillis?_millis

instance {width : Nat} : LawfulCodec (Clock width) where
  isWritable_encode _ := Value.isWritable_of_single rfl rfl
  decode?_encode := Clock.ofNat?_value

namespace VersionVector

variable {κ : Type} [Ord κ] [Spelling κ] {width : Nat}

theorem isWritable_encodeClocks (clocks : OrderedMap κ (Clock width)) :
    (encodeClocks clocks).IsWritable := by
  refine Value.isWritable_ofFields fun field isField => ?_
  obtain ⟨entry, _, rfl⟩ := List.mem_map.mp isField
  exact isWritable_encode entry.2

variable [LawfulSpelling κ] [Std.TransOrd κ] [Std.LawfulEqOrd κ]

theorem decodeClocks?_encodeClocks (clocks : OrderedMap κ (Clock width)) :
    decodeClocks? (encodeClocks clocks) = some clocks := by
  have each : ∀ entry : κ × Clock width,
      decodeEntry? (some (Spelling.spell entry.1), encode entry.2) = some entry := by
    intro entry
    simp only [Option.bind_eq_bind, Option.bind_some, LawfulSpelling.unspell?_spell,
      decode?_encode, decodeEntry?]
  have entries : (clocks.entries.map fun entry =>
      (some (Spelling.spell entry.1), encode entry.2)).mapM decodeEntry? = some clocks.entries := by
    rw [List.mapM_map]
    exact (mapM_eq_some fun entry _ => each entry).trans (by rw [List.map_id'])
  rw [encodeClocks, Value.ofFields, List.map_map]
  exact (congrArg (Option.map OrderedMap.ofList) entries).trans
    (congrArg some clocks.ofList_entries)

instance : LawfulCodec (VersionVector κ width) where
  isWritable_encode vector := by
    refine Value.isWritable_ofFields ?_
    simp [isWritable_encodeClocks, isWritable_encode]
  decode?_encode vector := by
    refine (Value.fields?_ofFields_bind rfl (by simp)).trans ?_
    simp [decodeClocks?_encodeClocks]

end VersionVector

instance {κ : Type} [Spelling κ] [LawfulSpelling κ] {width : Nat} : LawfulCodec (Dot κ width) where
  isWritable_encode dot := Value.isWritable_ofFields (by simp [isWritable_encode])
  decode?_encode dot := (Value.fields?_ofFields_bind rfl (by simp)).trans (by simp)

/-! ## States and operations -/

instance {α : Type} [Codec α] [LawfulCodec α] : LawfulCodec (SetOperation α) where
  isWritable_encode
    | .add _ => Value.isWritable_ofFields (by simp [isWritable_encode])
    | .remove _ => Value.isWritable_ofFields (by simp [isWritable_encode])
  decode?_encode
    | .add elements => congrArg (Option.map SetOperation.add) (decode?_encode elements)
    | .remove elements => congrArg (Option.map SetOperation.remove) (decode?_encode elements)

section

variable {α : Type} [Ord α] [Std.TransOrd α] [Std.LawfulEqOrd α] [Codec α] [LawfulCodec α]

instance : LawfulCodec (OrderedSet α) where
  isWritable_encode set := isWritable_encode set.elements
  decode?_encode set :=
    (congrArg (Option.map OrderedSet.ofList) (decode?_encode set.elements)).trans
      (congrArg some set.ofList_elements)

instance : LawfulCodec (GrowSet α) where
  isWritable_encode set := Value.isWritable_ofFields (by simp [isWritable_encode])
  decode?_encode set := (Value.fields?_ofFields_bind rfl (by simp)).trans (by simp)

instance : LawfulCodec (TwoPhaseSet α) where
  isWritable_encode set := Value.isWritable_ofFields (by simp [isWritable_encode])
  decode?_encode set := (Value.fields?_ofFields_bind rfl (by simp)).trans (by simp)

end

instance : LawfulCodec GrowCounter where
  isWritable_encode counter := Value.isWritable_ofFields (by simp [isWritable_encode])
  decode?_encode counter := (Value.fields?_ofFields_bind rfl (by simp)).trans (by simp)

instance : LawfulCodec SignedCounter where
  isWritable_encode counter := Value.isWritable_ofFields (by simp [isWritable_encode])
  decode?_encode counter := (Value.fields?_ofFields_bind rfl (by simp)).trans (by simp)

instance {α : Type} [Spelling α] [LawfulSpelling α] : LawfulCodec (Register α) where
  isWritable_encode register := Value.isWritable_ofFields (by simp [isWritable_encode])
  decode?_encode register := (Value.fields?_ofFields_bind rfl (by simp)).trans (by simp)

/-! ## Messages -/

instance {ω : Type} [Codec ω] [LawfulCodec ω] : LawfulCodec (OperationMessage ω) where
  isWritable_encode message := Value.isWritable_ofFields (by simp [isWritable_encode])
  decode?_encode message := (Value.fields?_ofFields_bind rfl (by simp)).trans (by simp)

instance {σ : Type} [Codec σ] [LawfulCodec σ] : LawfulCodec (Snapshot σ) where
  isWritable_encode message := Value.isWritable_ofFields (by simp [isWritable_encode])
  decode?_encode message := (Value.fields?_ofFields_bind rfl (by simp)).trans (by simp)

/-- Messages of one kind keep everything through their text. -/
structure SurviveText (μ : Type) [Codec μ] [Message μ] : Prop where
  /-- Equality is that of representations: of clocks, zeros and dotting, and of characters. -/
  reads_back : ∀ message : μ, read? (write message) = some message
  keeps_identity : ∀ message copy : μ, read? (write message) = some copy →
    Message.origin copy = Message.origin message ∧ Message.key copy = Message.key message ∧
      Message.rank copy = Message.rank message
  unambiguous : ∀ first second : μ, write first = write second → first = second

theorem surviveText (μ : Type) [Codec μ] [LawfulCodec μ] [Message μ] : SurviveText μ where
  reads_back := read?_write
  keeps_identity message copy isRead := by
    obtain rfl : message = copy := Option.some.inj ((read?_write message).symm.trans isRead)
    exact ⟨rfl, rfl, rfl⟩
  unambiguous _ _ := write_injective

/-- The messages that speak of elements of one type. -/
structure ElementMessagesSurviveText (α : Type) [Ord α] [Std.TransOrd α] [Std.LawfulEqOrd α]
    [Codec α] : Prop where
  operations : SurviveText (OperationMessage (SetOperation α))
  growSets : SurviveText (Snapshot (GrowSet α))
  twoPhaseSets : SurviveText (Snapshot (TwoPhaseSet α))

/-- The messages of every kind survive their texts. -/
structure MessagesSurviveText : Prop where
  ofStrings : ElementMessagesSurviveText String
  ofIntegers : ElementMessagesSurviveText Int64
  units : SurviveText (Snapshot Unit)
  growCounters : SurviveText (Snapshot GrowCounter)
  signedCounters : SurviveText (Snapshot SignedCounter)
  registers : SurviveText (Snapshot (Register String))

theorem messages_survive_text : MessagesSurviveText where
  ofStrings := ⟨surviveText _, surviveText _, surviveText _⟩
  ofIntegers := ⟨surviveText _, surviveText _, surviveText _⟩
  units := surviveText _
  growCounters := surviveText _
  signedCounters := surviveText _
  registers := surviveText _

end Confluence

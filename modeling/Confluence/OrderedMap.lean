import Confluence.OrderedSet

/-!
Finite maps over a linearly ordered key type, kept as lists of entries with strictly ascending
keys. A map has exactly one representation: two maps that give every key the same value are
equal. Entries are listed in the order of the keys.
-/

set_option autoImplicit false

namespace Confluence

/-- A finite map. Its entries are listed by ascending key, one entry for each key. -/
structure OrderedMap (κ β : Type) [Ord κ] where
  entries : List (κ × β)
  ascending : entries.Pairwise fun lower higher => compare lower.1 higher.1 = .lt

namespace OrderedMap

variable {κ β : Type} [Ord κ]

def empty : OrderedMap κ β := ⟨[], .nil⟩

instance : EmptyCollection (OrderedMap κ β) := ⟨empty⟩

instance : Inhabited (OrderedMap κ β) := ⟨empty⟩

def lookup (key : κ) : List (κ × β) → Option β
  | [] => none
  | (candidate, value) :: rest =>
    if compare key candidate = .eq then some value else lookup key rest

def get? (map : OrderedMap κ β) (key : κ) : Option β := lookup key map.entries

def contains (map : OrderedMap κ β) (key : κ) : Bool := (map.get? key).isSome

def size (map : OrderedMap κ β) : Nat := map.entries.length

def isEmpty (map : OrderedMap κ β) : Bool := map.entries.isEmpty

def keys (map : OrderedMap κ β) : OrderedSet κ :=
  ⟨map.entries.map (·.1), List.pairwise_map.mpr map.ascending⟩

def values (map : OrderedMap κ β) : List β := map.entries.map (·.2)

def mapValues {γ : Type} (change : κ → β → γ) (map : OrderedMap κ β) : OrderedMap κ γ :=
  ⟨map.entries.map fun entry => (entry.1, change entry.1 entry.2),
    List.pairwise_map.mpr map.ascending⟩

def filter (keep : κ → β → Bool) (map : OrderedMap κ β) : OrderedMap κ β :=
  ⟨map.entries.filter fun entry => keep entry.1 entry.2, map.ascending.filter _⟩

def erase (map : OrderedMap κ β) (key : κ) : OrderedMap κ β :=
  map.filter fun candidate _ => compare key candidate != .eq

/-- Sets the value at `key` to what `change` makes of the present one; a key without an entry
receives one at its place. -/
def upsertEntry (key : κ) (change : Option β → β) : List (κ × β) → List (κ × β)
  | [] => [(key, change none)]
  | (candidate, value) :: rest =>
    match compare key candidate with
    | .lt => (key, change none) :: (candidate, value) :: rest
    | .eq => (candidate, change (some value)) :: rest
    | .gt => (candidate, value) :: upsertEntry key change rest

@[simp] theorem get?_empty (key : κ) : (∅ : OrderedMap κ β).get? key = none := rfl

private theorem lookup_eq_none_of_lt [Std.TransOrd κ] {key : κ} {entries : List (κ × β)}
    (below : ∀ entry ∈ entries, compare key entry.1 = .lt) : lookup key entries = none := by
  induction entries with
  | nil => rfl
  | cons entry rest ih =>
    have first := below entry List.mem_cons_self
    simp only [lookup, first, reduceCtorEq, ↓reduceIte]
    exact ih fun later isMember => below later (List.mem_cons_of_mem _ isMember)

theorem lookup_mapValues {γ : Type} (change : κ → β → γ) [Std.LawfulEqOrd κ] (key : κ)
    (entries : List (κ × β)) :
    lookup key (entries.map fun entry => (entry.1, change entry.1 entry.2)) =
      (lookup key entries).map (change key) := by
  induction entries with
  | nil => rfl
  | cons entry rest ih =>
    obtain ⟨candidate, value⟩ := entry
    by_cases order : compare key candidate = .eq
    · have same := Std.LawfulEqOrd.eq_of_compare order
      subst same
      simp [lookup]
    · simp [lookup, order, ih]

@[simp] theorem get?_mapValues {γ : Type} [Std.LawfulEqOrd κ] (change : κ → β → γ)
    (map : OrderedMap κ β) (key : κ) :
    (map.mapValues change).get? key = (map.get? key).map (change key) :=
  lookup_mapValues change key map.entries

@[simp] theorem keys_mapValues {γ : Type} (change : κ → β → γ) (map : OrderedMap κ β) :
    (map.mapValues change).keys = map.keys := by
  simp [keys, mapValues]

theorem keys_erase (map : OrderedMap κ β) (key : κ) :
    (map.erase key).keys = map.keys.erase key := by
  simp only [keys, erase, filter, OrderedSet.erase, OrderedSet.filter, List.filter_map]
  rfl

theorem isEmpty_keys (map : OrderedMap κ β) : map.keys.isEmpty = map.isEmpty := List.isEmpty_map

variable [Std.TransOrd κ] [Std.LawfulEqOrd κ]

omit [Std.TransOrd κ] [Std.LawfulEqOrd κ] in
theorem key_of_mem_upsertEntry {key : κ} {change : Option β → β} {entries : List (κ × β)}
    {entry : κ × β} (isMember : entry ∈ upsertEntry key change entries) :
    entry.1 = key ∨ ∃ present ∈ entries, present.1 = entry.1 := by
  induction entries with
  | nil =>
    simp only [upsertEntry, List.mem_singleton] at isMember
    exact .inl (by rw [isMember])
  | cons first rest ih =>
    obtain ⟨candidate, value⟩ := first
    cases order : compare key candidate with
    | lt =>
      simp only [upsertEntry, order, List.mem_cons] at isMember
      rcases isMember with rfl | rfl | later
      · exact .inl rfl
      · exact .inr ⟨_, List.mem_cons_self, rfl⟩
      · exact .inr ⟨_, List.mem_cons_of_mem _ later, rfl⟩
    | eq =>
      simp only [upsertEntry, order, List.mem_cons] at isMember
      rcases isMember with rfl | later
      · exact .inr ⟨_, List.mem_cons_self, rfl⟩
      · exact .inr ⟨_, List.mem_cons_of_mem _ later, rfl⟩
    | gt =>
      simp only [upsertEntry, order, List.mem_cons] at isMember
      rcases isMember with rfl | later
      · exact .inr ⟨_, List.mem_cons_self, rfl⟩
      · rcases ih later with same | ⟨present, found, same⟩
        · exact .inl same
        · exact .inr ⟨present, List.mem_cons_of_mem _ found, same⟩

omit [Std.LawfulEqOrd κ] in
theorem ascending_upsertEntry (key : κ) (change : Option β → β) {entries : List (κ × β)}
    (ascending : entries.Pairwise fun lower higher => compare lower.1 higher.1 = .lt) :
    (upsertEntry key change entries).Pairwise fun lower higher =>
      compare lower.1 higher.1 = .lt := by
  induction entries with
  | nil => simp [upsertEntry]
  | cons first rest ih =>
    obtain ⟨candidate, value⟩ := first
    obtain ⟨firstLeast, restAscending⟩ := List.pairwise_cons.mp ascending
    cases order : compare key candidate with
    | lt =>
      simp only [upsertEntry, order]
      refine List.pairwise_cons.mpr ⟨fun entry isMember => ?_, ascending⟩
      cases List.mem_cons.mp isMember with
      | inl same => exact same ▸ order
      | inr later => exact Std.TransCmp.lt_trans order (firstLeast entry later)
    | eq =>
      simp only [upsertEntry, order]
      exact List.pairwise_cons.mpr ⟨firstLeast, restAscending⟩
    | gt =>
      simp only [upsertEntry, order]
      refine List.pairwise_cons.mpr ⟨fun entry isMember => ?_, ih restAscending⟩
      rcases key_of_mem_upsertEntry isMember with same | ⟨present, found, same⟩
      · exact same ▸ Std.OrientedCmp.gt_iff_lt.mp order
      · exact same ▸ firstLeast present found

def upsert (map : OrderedMap κ β) (key : κ) (change : Option β → β) : OrderedMap κ β :=
  ⟨upsertEntry key change map.entries, ascending_upsertEntry key change map.ascending⟩

def insert (map : OrderedMap κ β) (key : κ) (value : β) : OrderedMap κ β :=
  map.upsert key fun _ => value

/-- The map with the listed entries; of entries with one key the last counts. -/
def ofList (entries : List (κ × β)) : OrderedMap κ β :=
  entries.foldl (fun map entry => map.insert entry.1 entry.2) ∅

private theorem lookup_upsertEntry {key query : κ} {change : Option β → β}
    {entries : List (κ × β)}
    (ascending : entries.Pairwise fun lower higher => compare lower.1 higher.1 = .lt) :
    lookup query (upsertEntry key change entries) =
      if compare query key = .eq then some (change (lookup key entries))
      else lookup query entries := by
  induction entries with
  | nil => simp [upsertEntry, lookup]
  | cons first rest ih =>
    obtain ⟨candidate, value⟩ := first
    obtain ⟨firstLeast, restAscending⟩ := List.pairwise_cons.mp ascending
    cases order : compare key candidate with
    | lt =>
      have absent : lookup key ((candidate, value) :: rest) = none := by
        refine lookup_eq_none_of_lt fun entry isMember => ?_
        cases List.mem_cons.mp isMember with
        | inl same => exact same ▸ order
        | inr later => exact Std.TransCmp.lt_trans order (firstLeast entry later)
      rw [absent]
      simp [upsertEntry, order, lookup]
    | eq =>
      have same := Std.LawfulEqOrd.eq_of_compare order
      subst same
      by_cases asked : compare query key = .eq <;>
        simp [upsertEntry, lookup, asked, Std.ReflOrd.compare_self]
    | gt =>
      have apart : ¬ compare key candidate = .eq := by simp [order]
      by_cases asked : compare query candidate = .eq
      · have same := Std.LawfulEqOrd.eq_of_compare asked
        subst same
        have less := Std.OrientedCmp.gt_iff_lt.mp order
        simp [upsertEntry, order, lookup, less, Std.ReflOrd.compare_self]
      · simp [upsertEntry, order, lookup, asked, ih restAscending]

/-- Folds the entries of `right` into `left`: each key of `right` receives what `combine` makes of
its value in `left`, if any, and its value in `right`. Other keys keep their values. -/
def mergeWith (combine : Option β → β → β) (left right : OrderedMap κ β) : OrderedMap κ β :=
  right.entries.foldl
    (fun merged entry => merged.upsert entry.1 fun present => combine present entry.2) left

theorem get?_upsert (map : OrderedMap κ β) (key query : κ) (change : Option β → β) :
    (map.upsert key change).get? query =
      if compare query key = .eq then some (change (map.get? key)) else map.get? query :=
  lookup_upsertEntry map.ascending

theorem get?_insert (map : OrderedMap κ β) (key query : κ) (value : β) :
    (map.insert key value).get? query =
      if compare query key = .eq then some value else map.get? query :=
  get?_upsert map key query _

@[simp] theorem get?_upsert_self (map : OrderedMap κ β) (key : κ) (change : Option β → β) :
    (map.upsert key change).get? key = some (change (map.get? key)) := by
  simp [get?_upsert, Std.ReflOrd.compare_self]

@[simp] theorem get?_insert_self (map : OrderedMap κ β) (key : κ) (value : β) :
    (map.insert key value).get? key = some value := by
  simp [insert]

omit [Std.TransOrd κ] in
private theorem lookup_isSome_iff {key : κ} {entries : List (κ × β)} :
    (lookup key entries).isSome = true ↔ ∃ entry ∈ entries, entry.1 = key := by
  induction entries with
  | nil => simp [lookup]
  | cons entry rest ih =>
    obtain ⟨candidate, value⟩ := entry
    by_cases order : compare key candidate = .eq
    · have same := Std.LawfulEqOrd.eq_of_compare order
      subst same
      simp [lookup, Std.ReflOrd.compare_self]
    · have different : candidate ≠ key := fun same =>
        order (same ▸ Std.ReflOrd.compare_self)
      simp [lookup, order, ih, different]

omit [Std.TransOrd κ] in
theorem mem_keys {map : OrderedMap κ β} {key : κ} :
    key ∈ map.keys ↔ (map.get? key).isSome = true := by
  unfold get?
  rw [lookup_isSome_iff]
  change key ∈ map.entries.map (·.1) ↔ _
  simp

private theorem lookup_of_mem {key : κ} {value : β} {entries : List (κ × β)}
    (ascending : entries.Pairwise fun lower higher => compare lower.1 higher.1 = .lt)
    (isMember : (key, value) ∈ entries) : lookup key entries = some value := by
  induction entries with
  | nil => simp at isMember
  | cons entry rest ih =>
    obtain ⟨firstLeast, restAscending⟩ := List.pairwise_cons.mp ascending
    rcases List.mem_cons.mp isMember with rfl | later
    · simp [lookup, Std.ReflOrd.compare_self]
    · have less := Std.OrientedCmp.gt_of_lt (firstLeast _ later)
      obtain ⟨candidate, present⟩ := entry
      simp only at less
      simp [lookup, less, ih restAscending later]

omit [Std.TransOrd κ] in
private theorem mem_of_lookup {key : κ} {value : β} {entries : List (κ × β)}
    (found : lookup key entries = some value) : (key, value) ∈ entries := by
  induction entries with
  | nil => simp [lookup] at found
  | cons entry rest ih =>
    obtain ⟨candidate, present⟩ := entry
    by_cases order : compare key candidate = .eq
    · have same := Std.LawfulEqOrd.eq_of_compare order
      subst same
      simp only [lookup, order, ↓reduceIte, Option.some.injEq] at found
      exact found ▸ List.mem_cons_self
    · simp only [lookup, order, ↓reduceIte] at found
      exact List.mem_cons_of_mem _ (ih found)

theorem get?_eq_some_iff {map : OrderedMap κ β} {key : κ} {value : β} :
    map.get? key = some value ↔ (key, value) ∈ map.entries :=
  ⟨mem_of_lookup, lookup_of_mem map.ascending⟩

theorem get?_filter (keep : κ → β → Bool) (map : OrderedMap κ β) (key : κ) :
    (map.filter keep).get? key = (map.get? key).filter (keep key) := by
  apply Option.ext
  intro value
  rw [get?_eq_some_iff, Option.filter_eq_some_iff, get?_eq_some_iff]
  exact List.mem_filter

theorem get?_erase (map : OrderedMap κ β) (key query : κ) :
    (map.erase key).get? query = if compare key query = .eq then none else map.get? query := by
  rw [erase, get?_filter]
  by_cases order : compare key query = .eq <;> cases map.get? query <;> simp [order]

private theorem get?_foldl_upsert (combine : Option β → β → β) (entries : List (κ × β))
    (ascending : entries.Pairwise fun lower higher => compare lower.1 higher.1 = .lt)
    (left : OrderedMap κ β) (key : κ) :
    (entries.foldl (fun merged entry =>
        merged.upsert entry.1 fun present => combine present entry.2) left).get? key =
      match lookup key entries with
      | some value => some (combine (left.get? key) value)
      | none => left.get? key := by
  induction entries generalizing left with
  | nil => rfl
  | cons entry rest ih =>
    obtain ⟨firstLeast, restAscending⟩ := List.pairwise_cons.mp ascending
    obtain ⟨candidate, value⟩ := entry
    rw [List.foldl_cons, ih restAscending]
    by_cases order : compare key candidate = .eq
    · have same := Std.LawfulEqOrd.eq_of_compare order
      subst same
      have absent : lookup key rest = none := lookup_eq_none_of_lt firstLeast
      simp [absent, lookup, Std.ReflOrd.compare_self]
    · simp [lookup, order, get?_upsert]

theorem get?_mergeWith (combine : Option β → β → β) (left right : OrderedMap κ β) (key : κ) :
    (left.mergeWith combine right).get? key =
      match right.get? key with
      | some value => some (combine (left.get? key) value)
      | none => left.get? key :=
  get?_foldl_upsert combine right.entries right.ascending left key

private theorem eq_of_lookup : ∀ {left right : List (κ × β)},
    (left.Pairwise fun lower higher => compare lower.1 higher.1 = .lt) →
    (right.Pairwise fun lower higher => compare lower.1 higher.1 = .lt) →
    (∀ key, lookup key left = lookup key right) → left = right
  | [], [], _, _, _ => rfl
  | [], (key, _) :: _, _, _, same => by
    simpa [lookup, Std.ReflOrd.compare_self] using same key
  | (key, _) :: _, [], _, _, same => by
    simpa [lookup, Std.ReflOrd.compare_self] using same key
  | (key, value) :: rest, (key', value') :: rest', ascending, ascending', same => by
    obtain ⟨firstLeast, restAscending⟩ := List.pairwise_cons.mp ascending
    obtain ⟨firstLeast', restAscending'⟩ := List.pairwise_cons.mp ascending'
    have heads : (key, value) = (key', value') := by
      have found : lookup key ((key', value') :: rest') = some value := by
        rw [← same key]
        simp [lookup, Std.ReflOrd.compare_self]
      have found' : lookup key' ((key, value) :: rest) = some value' := by
        rw [same key']
        simp [lookup, Std.ReflOrd.compare_self]
      rcases List.mem_cons.mp (mem_of_lookup found) with equal | later
      · exact equal
      · rcases List.mem_cons.mp (mem_of_lookup found') with equal | later'
        · exact equal.symm
        · have cycle := Std.TransCmp.lt_trans (firstLeast _ later') (firstLeast' _ later)
          simp [Std.ReflOrd.compare_self] at cycle
    cases heads
    have tails : ∀ query, lookup query rest = lookup query rest' := by
      intro query
      by_cases order : compare query key = .eq
      · have equal := Std.LawfulEqOrd.eq_of_compare order
        subst equal
        rw [lookup_eq_none_of_lt firstLeast, lookup_eq_none_of_lt firstLeast']
      · simpa [lookup, order] using same query
    rw [eq_of_lookup restAscending restAscending' tails]

@[ext] theorem ext {left right : OrderedMap κ β} (same : ∀ key, left.get? key = right.get? key) :
    left = right := by
  have entries := eq_of_lookup left.ascending right.ascending same
  cases left
  cases right
  cases entries
  rfl

/-- Entries that are in order already are listed as they are. -/
theorem ofList_entries (map : OrderedMap κ β) : ofList map.entries = map := by
  have merged : ofList map.entries = mergeWith (fun _ value => value) ∅ map := rfl
  refine ext fun key => ?_
  rw [merged, get?_mergeWith]
  cases map.get? key <;> rfl

end OrderedMap

end Confluence

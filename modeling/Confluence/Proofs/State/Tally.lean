import Confluence.Proofs.Causality.VectorProperties
import Confluence.Proofs.Outcome
import Confluence.Replication.LocalCommand

/-!
State-based types whose states are determined by the commands that they cover. A counter shows how
many commands of each kind a replica was given, a set which elements the commands named. Carrying
out a command adds that command to what the state covers, and a merge covers what either state
does: of every replica the longer run of commands.
-/

set_option autoImplicit false

namespace Confluence

/-- The commands that every replica carried out, oldest first. -/
abbrev CommandLog (κ : Type) := ReplicaId → List κ

namespace CommandLog

variable {κ : Type}

def empty : CommandLog κ := fun _ => []

def record (log : CommandLog κ) (id : ReplicaId) (command : κ) : CommandLog κ :=
  fun origin => if origin = id then log origin ++ [command] else log origin

/-- The first commands of every replica, as many as `counts` says. -/
def upTo (log : CommandLog κ) (counts : ReplicaId → Nat) : CommandLog κ :=
  fun origin => (log origin).take (counts origin)

theorem record_self (log : CommandLog κ) (id : ReplicaId) (command : κ) :
    log.record id command id = log id ++ [command] :=
  if_pos rfl

theorem record_of_ne (log : CommandLog κ) {id origin : ReplicaId} (command : κ)
    (different : origin ≠ id) : log.record id command origin = log origin :=
  if_neg different

theorem length_record_self (log : CommandLog κ) (id : ReplicaId) (command : κ) :
    (log.record id command id).length = (log id).length + 1 := by
  rw [record_self, List.length_append, List.length_singleton]

theorem length_le_length_record (log : CommandLog κ) (id origin : ReplicaId) (command : κ) :
    (log origin).length ≤ (log.record id command origin).length := by
  by_cases same : origin = id
  · subst same
    rw [length_record_self]
    exact Nat.le_succ _
  · exact Nat.le_of_eq (by rw [record_of_ne log command same])

theorem upTo_zero (log : CommandLog κ) : (log.upTo fun _ => 0) = .empty :=
  funext fun _ => List.take_zero

theorem upTo_record {log : CommandLog κ} {counts : ReplicaId → Nat}
    (bounded : ∀ origin, counts origin ≤ (log origin).length) (id : ReplicaId) (command : κ) :
    (log.record id command).upTo counts = log.upTo counts := by
  funext origin
  by_cases same : origin = id
  · subst same
    simp only [upTo, record_self, List.take_append_of_le_length (bounded origin)]
  · simp only [upTo, record_of_ne log command same]

theorem upTo_record_succ {log : CommandLog κ} {counts next : ReplicaId → Nat} {id : ReplicaId}
    (current : counts id = (log id).length) (advanced : next id = counts id + 1)
    (others : ∀ origin, origin ≠ id → next origin = counts origin) (command : κ) :
    (log.record id command).upTo next = (log.upTo counts).record id command := by
  funext origin
  by_cases same : origin = id
  · subst same
    simp only [upTo, record_self, advanced, current, List.take_length]
    exact List.take_of_length_le (by simp)
  · simp only [upTo, record_of_ne _ command same, others origin same]

theorem mem_record {log : CommandLog κ} {id origin : ReplicaId} {command member : κ} :
    member ∈ log.record id command origin ↔
      member ∈ log origin ∨ origin = id ∧ member = command := by
  by_cases same : origin = id
  · subst same
    simp [record_self]
  · simp [record_of_ne log command same, same]

theorem mem_upTo_max {log : CommandLog κ} {left right : ReplicaId → Nat} {origin : ReplicaId}
    {member : κ} :
    member ∈ log.upTo (fun id => max (left id) (right id)) origin ↔
      member ∈ log.upTo left origin ∨ member ∈ log.upTo right origin := by
  simp only [upTo]
  rcases Nat.le_total (left origin) (right origin) with ordered | ordered
  · have within := (List.take_prefix_take_left ordered (l := log origin)).subset
    rw [Nat.max_eq_right ordered]
    exact ⟨.inr, fun either => either.elim (within ·) id⟩
  · have within := (List.take_prefix_take_left ordered (l := log origin)).subset
    rw [Nat.max_eq_left ordered]
    exact ⟨.inl, fun either => either.elim id (within ·)⟩

theorem count_upTo_max [DecidableEq κ] (log : CommandLog κ) (left right : ReplicaId → Nat)
    (origin : ReplicaId) (command : κ) :
    (log.upTo (fun id => max (left id) (right id)) origin).count command =
      max ((log.upTo left origin).count command) ((log.upTo right origin).count command) := by
  simp only [upTo]
  rcases Nat.le_total (left origin) (right origin) with ordered | ordered
  · have within := (List.take_prefix_take_left ordered (l := log origin)).sublist
    rw [Nat.max_eq_right ordered, Nat.max_eq_right (within.count_le command)]
  · have within := (List.take_prefix_take_left ordered (l := log origin)).sublist
    rw [Nat.max_eq_left ordered, Nat.max_eq_left (within.count_le command)]

end CommandLog

/-- State types in which a state is what the commands it covers come to, whoever was given them and
in whichever order they were learned. -/
class Tally (σ : Type) (κ : outParam Type) [Inhabited σ] [Convergent σ] [LocalCommand σ κ] where
  Tallies : CommandLog κ → σ → Prop
  tallies_default : Tallies .empty default
  tallies_perform {log : CommandLog κ} {state changed : σ} {id : ReplicaId} {command : κ} :
    Tallies log state → LocalCommand.perform id command state = .ok changed →
    Tallies (log.record id command) changed
  tallies_merge {log : CommandLog κ} {left right : ReplicaId → Nat} {first second : σ} :
    Tallies (log.upTo left) first → Tallies (log.upTo right) second →
    Tallies (log.upTo fun id => max (left id) (right id)) (merge first second)
  eq_of_tallies {log : CommandLog κ} {first second : σ} :
    Tallies log first → Tallies log second → first = second

/-! ## Counters -/

/-- A vector that counts the occurrences of one command in the log of every replica. -/
structure CountsOf {κ : Type} [DecidableEq κ] (command : κ) (log : CommandLog κ)
    (counts : ReplicaVector) : Prop where
  canonical : counts.Canonical
  count : ∀ origin, counts.get origin = (log origin).count command

namespace CountsOf

variable {κ : Type} [DecidableEq κ] {command : κ} {log : CommandLog κ}

theorem empty : CountsOf command .empty ∅ where
  canonical := VersionVector.canonical_empty
  count _ := rfl

theorem record_self {counts next : ReplicaVector} {id : ReplicaId}
    (counted : CountsOf command log counts) (increment : counts.increment id = .ok next) :
    CountsOf command (log.record id command) next := by
  refine ⟨counted.canonical.increment increment, ?_⟩
  intro origin
  by_cases same : origin = id
  · subst same
    rw [VersionVector.get_increment_self increment, counted.count, CommandLog.record_self,
      List.count_append, List.count_singleton_self]
  · rw [VersionVector.get_increment_of_ne increment same, counted.count,
      CommandLog.record_of_ne log command same]

theorem record_of_ne {counts : ReplicaVector} {other : κ} (id : ReplicaId)
    (counted : CountsOf command log counts) (different : other ≠ command) :
    CountsOf command (log.record id other) counts := by
  refine ⟨counted.canonical, ?_⟩
  intro origin
  by_cases same : origin = id
  · subst same
    rw [counted.count, CommandLog.record_self, List.count_append,
      List.count_singleton, if_neg (by simpa using different), Nat.add_zero]
  · rw [counted.count, CommandLog.record_of_ne log other same]

theorem absorb {left right : ReplicaId → Nat} {first second : ReplicaVector}
    (leftCounted : CountsOf command (log.upTo left) first)
    (rightCounted : CountsOf command (log.upTo right) second) :
    CountsOf command (log.upTo fun id => max (left id) (right id)) (first.absorb second) := by
  refine ⟨leftCounted.canonical.absorb rightCounted.canonical.significant, ?_⟩
  intro origin
  rw [VersionVector.get_absorb leftCounted.canonical.cumulative, leftCounted.count,
    rightCounted.count, CommandLog.count_upTo_max]

theorem unique {first second : ReplicaVector} (left : CountsOf command log first)
    (right : CountsOf command log second) : first = second :=
  left.canonical.ext right.canonical fun origin => by rw [left.count, right.count]

end CountsOf

instance : Tally GrowCounter GrowCounter.Command where
  Tallies log counter := CountsOf GrowCounter.Command.increment log counter.counts
  tallies_default := .empty
  tallies_perform {log counter changed id command} tallied done := by
    cases command with
    | increment =>
        obtain ⟨counts, counted, rfl⟩ := Outcome.map_eq_ok done
        exact tallied.record_self counted
  tallies_merge left right := left.absorb right
  eq_of_tallies {log first second} left right := by
    cases first
    cases second
    exact congrArg GrowCounter.mk (left.unique right)

instance : Tally SignedCounter SignedCounter.Command where
  Tallies log counter :=
    CountsOf SignedCounter.Command.increment log counter.increments ∧
      CountsOf SignedCounter.Command.decrement log counter.decrements
  tallies_default := ⟨.empty, .empty⟩
  tallies_perform {log counter changed id command} tallied done := by
    cases command with
    | increment =>
        obtain ⟨increments, counted, rfl⟩ := Outcome.map_eq_ok done
        exact ⟨tallied.1.record_self counted, tallied.2.record_of_ne id (by decide)⟩
    | decrement =>
        obtain ⟨decrements, counted, rfl⟩ := Outcome.map_eq_ok done
        exact ⟨tallied.1.record_of_ne id (by decide), tallied.2.record_self counted⟩
  tallies_merge left right := ⟨left.1.absorb right.1, left.2.absorb right.2⟩
  eq_of_tallies {log first second} left right := by
    obtain ⟨increments, decrements⟩ := first
    obtain ⟨increments', decrements'⟩ := second
    have sameIncrements : increments = increments' := left.1.unique right.1
    have sameDecrements : decrements = decrements' := left.2.unique right.2
    rw [sameIncrements, sameDecrements]

/-! ## Sets -/

namespace SetOperation

variable {α : Type}

def additions : SetOperation α → List α
  | .add elements => elements
  | .remove _ => []

def removals : SetOperation α → List α
  | .add _ => []
  | .remove elements => elements

end SetOperation

section Sets

variable {α : Type} [Ord α]

/-- A set of exactly the elements that some command of the log names. -/
def ElementsOf (named : SetOperation α → List α) (log : CommandLog (SetOperation α))
    (elements : OrderedSet α) : Prop :=
  ∀ element, element ∈ elements ↔ ∃ origin, ∃ command ∈ log origin, element ∈ named command

namespace ElementsOf

variable {named : SetOperation α → List α} {log : CommandLog (SetOperation α)}

theorem empty : ElementsOf named .empty (∅ : OrderedSet α) := by
  intro element
  simp [CommandLog.empty]

variable [Std.TransOrd α] [Std.LawfulEqOrd α]

theorem record {elements : OrderedSet α} (id : ReplicaId) (command : SetOperation α)
    (exactly : ElementsOf named log elements) :
    ElementsOf named (log.record id command) (elements.insertAll (named command)) := by
  intro element
  rw [OrderedSet.mem_insertAll, exactly element]
  simp only [CommandLog.mem_record]
  constructor
  · rintro (⟨origin, earlier, isLogged, isNamed⟩ | isNamed)
    · exact ⟨origin, earlier, .inl isLogged, isNamed⟩
    · exact ⟨id, command, .inr ⟨rfl, rfl⟩, isNamed⟩
  · rintro ⟨origin, member, isLogged | ⟨rfl, rfl⟩, isNamed⟩
    · exact .inl ⟨origin, member, isLogged, isNamed⟩
    · exact .inr isNamed

theorem union {left right : ReplicaId → Nat} {first second : OrderedSet α}
    (leftExactly : ElementsOf named (log.upTo left) first)
    (rightExactly : ElementsOf named (log.upTo right) second) :
    ElementsOf named (log.upTo fun id => max (left id) (right id)) (first.union second) := by
  intro element
  rw [OrderedSet.mem_union, leftExactly element, rightExactly element]
  simp only [CommandLog.mem_upTo_max]
  constructor
  · rintro (⟨origin, command, isLogged, isNamed⟩ | ⟨origin, command, isLogged, isNamed⟩)
    · exact ⟨origin, command, .inl isLogged, isNamed⟩
    · exact ⟨origin, command, .inr isLogged, isNamed⟩
  · rintro ⟨origin, command, isLogged | isLogged, isNamed⟩
    · exact .inl ⟨origin, command, isLogged, isNamed⟩
    · exact .inr ⟨origin, command, isLogged, isNamed⟩

theorem unique {first second : OrderedSet α} (left : ElementsOf named log first)
    (right : ElementsOf named log second) : first = second :=
  OrderedSet.ext fun element => (left element).trans (right element).symm

end ElementsOf

variable [Std.TransOrd α] [Std.LawfulEqOrd α]

instance : Tally (GrowSet α) (SetOperation α) where
  Tallies log set := ElementsOf SetOperation.additions log set.elements
  tallies_default := .empty
  tallies_perform {log set changed id command} tallied done := by
    cases command with
    | add elements =>
        cases done
        exact tallied.record id (.add elements)
    | remove elements => cases done
  tallies_merge left right := left.union right
  eq_of_tallies {log first second} left right := by
    cases first
    cases second
    exact congrArg GrowSet.mk (left.unique right)

instance [Diagnostic α] : Tally (TwoPhaseSet α) (SetOperation α) where
  Tallies log set :=
    ElementsOf SetOperation.additions log set.added ∧
      ElementsOf SetOperation.removals log set.removed
  tallies_default := ⟨.empty, .empty⟩
  tallies_perform {log set changed id command} tallied done := by
    have added := tallied.1.record id command
    have removed := tallied.2.record id command
    cases command with
    | add elements =>
        obtain ⟨_, _, rfl⟩ := Outcome.map_eq_ok done
        exact ⟨added, removed⟩
    | remove elements =>
        cases done
        exact ⟨added, removed⟩
  tallies_merge left right := ⟨left.1.union right.1, left.2.union right.2⟩
  eq_of_tallies {log first second} left right := by
    obtain ⟨added, removed⟩ := first
    obtain ⟨added', removed'⟩ := second
    have sameAdded : added = added' := left.1.unique right.1
    have sameRemoved : removed = removed' := left.2.unique right.2
    rw [sameAdded, sameRemoved]

end Sets

end Confluence

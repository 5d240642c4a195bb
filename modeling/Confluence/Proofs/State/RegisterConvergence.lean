import Confluence.Proofs.Causality.VectorProperties
import Confluence.Proofs.Outcome
import Confluence.Proofs.Replication.Gossip
import Confluence.State.Register

/-!
Last-writer-wins registers that are written and merged in any order. The rule of a merge speaks of
two registers and not of two writes, and a register forgets at which version its winner was
written. What saves the rule is that a write is stamped later than everything that its register had
seen: the winner is always the greatest of all writes seen.
-/

set_option autoImplicit false

namespace Confluence.Register

variable {α : Type}

@[ext] theorem ext {left right : Register α} (value : left.value = right.value)
    (timestamp : left.timestamp = right.timestamp) (writer : left.writer = right.writer)
    (version : left.version = right.version) : left = right := by
  cases left
  cases right
  cases value
  cases timestamp
  cases writer
  cases version
  rfl

/-! ## Writes -/

/-- A write that took place, and the timestamp of the register just before it. -/
structure Write (α : Type) where
  dot : ReplicaDot
  value : α
  timestamp : Timestamp
  previous : Timestamp

namespace Write

def SeenBy (write : Write α) (version : ReplicaVector) : Prop :=
  write.dot.clock.value ≤ version.get write.dot.id

/-- The other write is later, or as late and by a lower writer. -/
def LosesTo (write other : Write α) : Prop :=
  write.timestamp < other.timestamp ∨
    write.timestamp = other.timestamp ∧ compare other.dot.id write.dot.id = .lt

theorem LosesTo.trans {first second third : Write α} (lower : first.LosesTo second)
    (upper : second.LosesTo third) : first.LosesTo third := by
  rcases lower with earlier | ⟨asLate, lowerWriter⟩
  · rcases upper with later | ⟨asLate, _⟩
    · exact .inl (Int.lt_trans earlier later)
    · exact .inl (asLate ▸ earlier)
  · rcases upper with later | ⟨asLate', lowerWriter'⟩
    · exact .inl (asLate ▸ later)
    · exact .inr ⟨asLate.trans asLate', Std.TransCmp.lt_trans lowerWriter' lowerWriter⟩

theorem LosesTo.asymm {write other : Write α} (loses : write.LosesTo other) :
    ¬ other.LosesTo write := by
  intro wins
  rcases loses.trans wins with earlier | ⟨_, lowerWriter⟩
  · exact Int.lt_irrefl _ earlier
  · rw [Std.ReflOrd.compare_self] at lowerWriter
    cases lowerWriter

theorem LosesTo.millis_le {write other : Write α} (loses : write.LosesTo other) :
    write.timestamp.millis ≤ other.timestamp.millis := by
  rcases loses with earlier | ⟨asLate, _⟩
  · exact Int.le_of_lt earlier
  · exact Int.le_of_eq (congrArg Timestamp.millis asLate)

end Write

/-- The writes are numbered, no two have one number, and each writer stamps every write later than
those before it. -/
structure Orderly (writes : List (Write α)) : Prop where
  counted : ∀ write ∈ writes, 0 < write.dot.clock.value
  distinct : ∀ write ∈ writes, ∀ other ∈ writes, write.dot = other.dot → write = other
  rising : ∀ write ∈ writes, ∀ other ∈ writes, write.dot.id = other.dot.id →
    write.dot.clock.value < other.dot.clock.value → write.timestamp < other.timestamp

theorem orderly_nil : Orderly ([] : List (Write α)) where
  counted := by simp
  distinct := by simp
  rising := by simp

namespace Orderly

variable {writes : List (Write α)}

theorem loses_or_wins {write other : Write α} (orderly : Orderly writes)
    (made : write ∈ writes) (otherMade : other ∈ writes) (different : write ≠ other) :
    write.LosesTo other ∨ other.LosesTo write := by
  rcases Int.lt_trichotomy write.timestamp.millis other.timestamp.millis with
    earlier | asLate | later
  · exact .inl (.inl earlier)
  · have asLate : write.timestamp = other.timestamp := Timestamp.ext asLate
    cases writers : compare write.dot.id other.dot.id with
    | lt => exact .inr (.inr ⟨asLate.symm, writers⟩)
    | gt => exact .inl (.inr ⟨asLate, Std.OrientedCmp.gt_iff_lt.mp writers⟩)
    | eq =>
        have sameWriter := Std.LawfulEqOrd.eq_of_compare writers
        exfalso
        rcases Nat.lt_trichotomy write.dot.clock.value other.dot.clock.value with
          before | same | after
        · have earlier := orderly.rising write made other otherMade sameWriter before
          rw [asLate] at earlier
          exact Int.lt_irrefl _ earlier
        · exact different (orderly.distinct write made other otherMade
            (Dot.ext sameWriter (Clock.ext same)))
        · have earlier := orderly.rising other otherMade write made sameWriter.symm after
          rw [asLate] at earlier
          exact Int.lt_irrefl _ earlier
  · exact .inr (.inl later)

theorem append {write : Write α} (orderly : Orderly writes)
    (positive : 0 < write.dot.clock.value)
    (follows : ∀ other ∈ writes, other.dot.id = write.dot.id →
      other.dot.clock.value < write.dot.clock.value ∧ other.timestamp < write.timestamp) :
    Orderly (writes ++ [write]) := by
  have split : ∀ {other}, other ∈ writes ++ [write] → other ∈ writes ∨ other = write := by
    intro other made
    simpa using made
  refine ⟨?_, ?_, ?_⟩
  · intro other made
    rcases split made with earlier | rfl
    · exact orderly.counted other earlier
    · exact positive
  · intro first firstMade second secondMade same
    rcases split firstMade with firstEarlier | rfl <;>
      rcases split secondMade with secondEarlier | rfl
    · exact orderly.distinct first firstEarlier second secondEarlier same
    · have numbers := (follows first firstEarlier (congrArg Dot.id same)).1
      rw [same] at numbers
      exact absurd numbers (Nat.lt_irrefl _)
    · have numbers := (follows second secondEarlier (congrArg Dot.id same.symm)).1
      rw [same] at numbers
      exact absurd numbers (Nat.lt_irrefl _)
    · rfl
  · intro first firstMade second secondMade sameWriter before
    rcases split firstMade with firstEarlier | rfl <;>
      rcases split secondMade with secondEarlier | rfl
    · exact orderly.rising first firstEarlier second secondEarlier sameWriter before
    · exact (follows first firstEarlier sameWriter).2
    · exact absurd (follows second secondEarlier sameWriter.symm).1 (Nat.lt_asymm before)
    · exact absurd before (Nat.lt_irrefl _)

end Orderly

/-! ## Writes that a version counts -/

/-- The version counts only writes that were made. -/
def Backed (writes : List (Write α)) (version : ReplicaVector) : Prop :=
  ∀ id number, 0 < number → number ≤ version.get id →
    ∃ write ∈ writes, write.dot.id = id ∧ write.dot.clock.value = number

theorem backed_empty (writes : List (Write α)) : Backed writes ∅ :=
  fun _ _ positive bounded => absurd positive (Nat.not_lt.mpr bounded)

namespace Backed

variable {writes : List (Write α)} {version other : ReplicaVector}

theorem append (backed : Backed writes version) (write : Write α) :
    Backed (writes ++ [write]) version := by
  intro id number positive bounded
  obtain ⟨found, made, numbered⟩ := backed id number positive bounded
  exact ⟨found, List.mem_append_left _ made, numbered⟩

theorem absorb (left : Backed writes version) (right : Backed writes other)
    (canonical : version.Canonical) : Backed writes (version.absorb other) := by
  intro id number positive bounded
  rw [VersionVector.get_absorb canonical.cumulative] at bounded
  by_cases counted : number ≤ version.get id
  · exact left id number positive counted
  · exact right id number positive (by omega)

theorem increment {write : Write α} (backed : Backed writes version)
    (counted : version.increment write.dot.id = .ok other)
    (numbered : write.dot.clock.value = other.get write.dot.id) :
    Backed (writes ++ [write]) other := by
  have advanced := VersionVector.get_increment_self counted
  intro id number positive bounded
  by_cases new : id = write.dot.id ∧ number = other.get id
  · obtain ⟨rfl, rfl⟩ := new
    exact ⟨write, List.mem_append_right _ (.head _), rfl, numbered⟩
  · have earlier : number ≤ version.get id := by
      by_cases same : id = write.dot.id
      · have different : number ≠ other.get id := fun equal => new ⟨same, equal⟩
        subst same
        omega
      · exact VersionVector.get_increment_of_ne counted same ▸ bounded
    exact backed.append write id number positive earlier

end Backed

/-! ## The winner of what was seen -/

/-- The register shows this write, which beats all others that the register has seen. -/
structure IsWinner (writes : List (Write α)) (register : Register α) (write : Write α) :
    Prop where
  made : write ∈ writes
  seen : write.SeenBy register.version
  value : register.value = some write.value
  timestamp : register.timestamp = write.timestamp
  writer : register.writer = some write.dot.id
  beats : ∀ other ∈ writes, other.SeenBy register.version → other ≠ write →
    other.LosesTo write

/-- The register shows the greatest write that it has seen; if it has seen none, it is as it was
in the beginning. -/
def ShowsWinner (writes : List (Write α)) (register : Register α) : Prop :=
  (∃ write, IsWinner writes register write) ∨
    (∀ write ∈ writes, ¬ write.SeenBy register.version) ∧
      register.value = none ∧ register.timestamp = .epoch ∧ register.writer = none

/-- The version counts only writes that were made, and the register shows the winner of them. -/
structure Settled (writes : List (Write α)) (register : Register α) : Prop where
  canonical : register.version.Canonical
  backed : ∀ id number, 0 < number → number ≤ register.version.get id →
    ∃ write ∈ writes, write.dot.id = id ∧ write.dot.clock.value = number
  winner : ShowsWinner writes register

theorem settled_empty (writes : List (Write α)) (counted : ∀ write ∈ writes,
    0 < write.dot.clock.value) : Settled writes (empty : Register α) where
  canonical := VersionVector.canonical_empty
  backed := backed_empty writes
  winner := .inr ⟨fun write made seen => absurd (counted write made) (Nat.not_lt.mpr seen),
    rfl, rfl, rfl⟩

namespace Settled

variable {writes : List (Write α)} {register other : Register α}

theorem winner_of_seen {write : Write α} (settled : Settled writes register)
    (made : write ∈ writes) (seen : write.SeenBy register.version) :
    ∃ winner, IsWinner writes register winner := by
  rcases settled.winner with found | ⟨unseen, _⟩
  · exact found
  · exact absurd seen (unseen write made)

theorem millis_le {write : Write α} (settled : Settled writes register) (made : write ∈ writes)
    (seen : write.SeenBy register.version) :
    write.timestamp.millis ≤ register.timestamp.millis := by
  obtain ⟨winner, wins⟩ := settled.winner_of_seen made seen
  rw [wins.timestamp]
  by_cases same : write = winner
  · exact Int.le_of_eq (congrArg (·.timestamp.millis) same)
  · exact (wins.beats write made seen same).millis_le

theorem extend {write : Write α} (settled : Settled writes register)
    (unseen : ¬ write.SeenBy register.version) : Settled (writes ++ [write]) register := by
  refine ⟨settled.canonical, Backed.append settled.backed write, ?_⟩
  rcases settled.winner with ⟨winner, wins⟩ | ⟨nothing, initial⟩
  · refine .inl ⟨winner, { wins with made := List.mem_append_left _ wins.made, beats := ?_ }⟩
    intro rival made seen different
    rcases List.mem_append.mp made with earlier | new
    · exact wins.beats rival earlier seen different
    · rw [List.mem_singleton.mp new] at seen
      exact absurd seen unseen
  · refine .inr ⟨?_, initial⟩
    intro rival made seen
    rcases List.mem_append.mp made with earlier | new
    · exact nothing rival earlier seen
    · rw [List.mem_singleton.mp new] at seen
      exact unseen seen

/-- Registers that have seen the same writes show the same one. -/
theorem eq_of_version (left : Settled writes register) (right : Settled writes other)
    (same : register.version = other.version) : register = other := by
  rcases left.winner with ⟨write, wins⟩ | ⟨unseen, value, timestamp, writer⟩
  · have seenByOther : write.SeenBy other.version := same ▸ wins.seen
    obtain ⟨rival, rivalWins⟩ := right.winner_of_seen wins.made seenByOther
    have seenByFirst : rival.SeenBy register.version := same ▸ rivalWins.seen
    have agree : write = rival := by
      refine Classical.byContradiction fun different => ?_
      have loses := rivalWins.beats write wins.made seenByOther different
      exact loses.asymm (wins.beats rival rivalWins.made seenByFirst (Ne.symm different))
    subst agree
    exact Register.ext (wins.value.trans rivalWins.value.symm)
      (wins.timestamp.trans rivalWins.timestamp.symm)
      (wins.writer.trans rivalWins.writer.symm) same
  · rcases right.winner with ⟨rival, wins⟩ | ⟨_, value', timestamp', writer'⟩
    · have seen : rival.SeenBy register.version := same ▸ wins.seen
      exact absurd seen (unseen rival wins.made)
    · exact Register.ext (value.trans value'.symm) (timestamp.trans timestamp'.symm)
        (writer.trans writer'.symm) same

theorem winner_of_not_within (settled : Settled writes register)
    (ahead : ¬ register.version.Within other.version) :
    ∃ winner, IsWinner writes register winner := by
  obtain ⟨id, behind⟩ := Classical.not_forall.mp ahead
  have positive : 0 < register.version.get id := by omega
  obtain ⟨write, made, writer, number⟩ := settled.backed id _ positive (Nat.le_refl _)
  have seen : write.dot.clock.value = register.version.get write.dot.id :=
    number.trans (congrArg register.version.get writer).symm
  exact settled.winner_of_seen made (Nat.le_of_eq seen)

end Settled

/-! ## Merging -/

theorem get_version_merge {register : Register α} (canonical : register.version.Canonical)
    (other : Register α) (id : ReplicaId) :
    (merge register other).version.get id =
      max (register.version.get id) (other.version.get id) :=
  VersionVector.get_absorb canonical.cumulative other.version id

theorem merge_of_beaten {register other : Register α}
    (beaten : register.isBeatenBy other = true) :
    merge register other = { other with version := register.version.absorb other.version } := by
  simp only [merge, beaten, ↓reduceIte]

theorem merge_of_not_beaten {register other : Register α}
    (kept : register.isBeatenBy other = false) :
    merge register other =
      { register with version := register.version.absorb other.version } := by
  simp only [merge, kept, Bool.false_eq_true, ↓reduceIte]

theorem seenBy_absorb_iff {version other : ReplicaVector} (canonical : version.Canonical)
    {write : Write α} :
    write.SeenBy (version.absorb other) ↔ write.SeenBy version ∨ write.SeenBy other := by
  unfold Write.SeenBy
  rw [VersionVector.get_absorb canonical.cumulative]
  omega

theorem isBeatenBy_of_concurrent {register other : Register α}
    (concurrent : register.version.order other.version = .concurrent)
    {writes : List (Write α)} {write rival : Write α} (wins : IsWinner writes register write)
    (rivalWins : IsWinner writes other rival) :
    register.isBeatenBy other = true ↔ write.LosesTo rival := by
  unfold isBeatenBy Write.LosesTo
  rw [concurrent, wins.timestamp, rivalWins.timestamp, wins.writer, rivalWins.writer]
  have stamps : compare rival.timestamp write.timestamp =
      compare rival.timestamp.millis write.timestamp.millis := rfl
  have writers : compare (some rival.dot.id) (some write.dot.id) =
      compare rival.dot.id write.dot.id := rfl
  simp only [writers]
  cases judged : compare rival.timestamp write.timestamp with
  | gt =>
      have later : write.timestamp < rival.timestamp := Int.compare_eq_gt.mp (stamps ▸ judged)
      simp [later]
  | lt =>
      have earlier : rival.timestamp < write.timestamp := Int.compare_eq_lt.mp (stamps ▸ judged)
      simp only [Bool.false_eq_true, false_iff]
      rintro (later | ⟨asLate, _⟩)
      · exact Int.lt_asymm earlier later
      · rw [asLate] at earlier
        exact Int.lt_irrefl _ earlier
  | eq =>
      have asLate : rival.timestamp = write.timestamp :=
        Timestamp.ext (Int.compare_eq_eq.mp (stamps ▸ judged))
      have notEarlier : ¬ write.timestamp < write.timestamp := Int.lt_irrefl _
      simp [asLate, notEarlier]

theorem merge_of_within {register other : Register α} (left : register.version.Canonical)
    (right : other.version.Canonical) (within : other.version.Within register.version) :
    merge register other = register := by
  have passed : register.isBeatenBy other = false := by
    unfold isBeatenBy
    cases judged : register.version.order other.version with
    | after => rfl
    | equal => rfl
    | before =>
        have behind := (VersionVector.order_eq_before_iff left.cumulative right.cumulative).mp judged
        exact absurd within behind.2
    | concurrent =>
        have apart :=
          (VersionVector.order_eq_concurrent_iff left.cumulative right.cumulative).mp judged
        exact absurd within apart.2
  rw [merge_of_not_beaten passed, left.absorb_eq_self right within]

theorem merge_of_before {register other : Register α} (left : register.version.Canonical)
    (right : other.version.Canonical)
    (judged : register.version.order other.version = .before) : merge register other = other := by
  have within := ((VersionVector.order_eq_before_iff left.cumulative right.cumulative).mp judged).1
  have beaten : register.isBeatenBy other = true := by
    unfold isBeatenBy
    rw [judged]
  have version : register.version.absorb other.version = other.version := by
    refine (left.absorb right.significant).ext right fun id => ?_
    rw [VersionVector.get_absorb left.cumulative]
    exact Nat.max_eq_right (within id)
  rw [merge_of_beaten beaten, version]

theorem IsWinner.beats_both {writes : List (Write α)} {register other : Register α}
    {write rival : Write α} (wins : IsWinner writes register write)
    (rivalWins : IsWinner writes other rival) (greater : rival ≠ write → rival.LosesTo write) :
    ∀ third ∈ writes, third.SeenBy register.version ∨ third.SeenBy other.version →
      third ≠ write → third.LosesTo write := by
  intro third made seen different
  rcases seen with seen | seen
  · exact wins.beats third made seen different
  · by_cases same : third = rival
    · subst same
      exact greater different
    · have loses := rivalWins.beats third made seen same
      by_cases tied : rival = write
      · exact tied ▸ loses
      · exact loses.trans (greater tied)

/-- Of two registers neither of which has seen all that the other has, the merge shows the greater
winner. -/
theorem winner_merge_of_concurrent {writes : List (Write α)} {register other : Register α}
    {write rival : Write α} (orderly : Orderly writes) (canonical : register.version.Canonical)
    (wins : IsWinner writes register write) (rivalWins : IsWinner writes other rival)
    (judged : register.version.order other.version = .concurrent) :
    ∃ winner, IsWinner writes (merge register other) winner := by
  have decided := isBeatenBy_of_concurrent judged wins rivalWins
  by_cases beaten : write.LosesTo rival
  · rw [merge_of_beaten (decided.mpr beaten)]
    refine ⟨rival, rivalWins.made, (seenBy_absorb_iff canonical).mpr (.inr rivalWins.seen),
      rivalWins.value, rivalWins.timestamp, rivalWins.writer, ?_⟩
    intro third made seen
    exact rivalWins.beats_both wins (fun _ => beaten) third made
      ((seenBy_absorb_iff canonical).mp seen).symm
  · have kept : register.isBeatenBy other = false :=
      Bool.eq_false_iff.mpr fun taken => beaten (decided.mp taken)
    have greater : rival ≠ write → rival.LosesTo write := by
      intro different
      rcases orderly.loses_or_wins rivalWins.made wins.made different with loses | loses
      · exact loses
      · exact absurd loses beaten
    rw [merge_of_not_beaten kept]
    refine ⟨write, wins.made, (seenBy_absorb_iff canonical).mpr (.inl wins.seen), wins.value,
      wins.timestamp, wins.writer, ?_⟩
    intro third made seen
    exact wins.beats_both rivalWins greater third made ((seenBy_absorb_iff canonical).mp seen)

namespace Settled

variable {writes : List (Write α)} {register other : Register α}

theorem merge (orderly : Orderly writes) (left : Settled writes register)
    (right : Settled writes other) : Settled writes (Confluence.merge register other) := by
  have left' := left.canonical.cumulative
  have right' := right.canonical.cumulative
  -- One of two ordered registers is the merge, and it has seen all that the other has; only
  -- concurrent ones compare their winners.
  cases judged : register.version.order other.version with
  | before =>
      rw [merge_of_before left.canonical right.canonical judged]
      exact right
  | after =>
      rw [merge_of_within left.canonical right.canonical
        ((VersionVector.order_eq_after_iff left' right').mp judged).1]
      exact left
  | equal =>
      rw [merge_of_within left.canonical right.canonical
        ((VersionVector.order_eq_equal_iff left' right').mp judged).2]
      exact left
  | concurrent =>
      obtain ⟨ahead, behind⟩ := (VersionVector.order_eq_concurrent_iff left' right').mp judged
      obtain ⟨write, wins⟩ := left.winner_of_not_within ahead
      obtain ⟨rival, rivalWins⟩ := right.winner_of_not_within behind
      exact ⟨left.canonical.absorb right.canonical.significant,
        Backed.absorb left.backed right.backed left.canonical,
        .inl (winner_merge_of_concurrent orderly left.canonical wins rivalWins judged)⟩

end Settled

/-! ## Writing -/

theorem assignAt_eq_ok {register changed : Register α} {value : α} {id : ReplicaId}
    {timestamp : Timestamp} (done : register.assignAt value id timestamp = .ok changed) :
    ∃ version, register.version.increment id = .ok version ∧
      changed = ⟨some value, max timestamp register.timestamp.next, some id, version⟩ := by
  obtain ⟨version, counted, made⟩ := Outcome.map_eq_ok done
  exact ⟨version, counted, made.symm⟩

theorem timestamp_lt_of_room {present timestamp : Timestamp}
    (room : present ≠ .last) : present < max timestamp present.next := by
  have upper := present.upper
  have notLast : present.millis ≠ Word.size 63 - 1 := fun same => room (Timestamp.ext same)
  change present.millis < (max timestamp present.next).millis
  rw [Timestamp.millis_max, Timestamp.millis_next]
  omega

/-- Counting one more write of a writer whose writes were all seen shows no other write. -/
theorem seenBy_of_increment {writes : List (Write α)} {version next : ReplicaVector}
    {id : ReplicaId}
    (current : ∀ other ∈ writes, other.dot.id = id → other.SeenBy version)
    (counted : version.increment id = .ok next) {other : Write α} (made : other ∈ writes)
    (seen : other.SeenBy next) : other.SeenBy version := by
  by_cases same : other.dot.id = id
  · exact current other made same
  · rw [Write.SeenBy, VersionVector.get_increment_of_ne counted same] at seen
    exact seen

theorem Settled.assign {writes : List (Write α)} {register : Register α}
    {version : ReplicaVector} {write : Write α} (settled : Settled writes register)
    (current : ∀ other ∈ writes, other.dot.id = write.dot.id → other.SeenBy register.version)
    (counted : register.version.increment write.dot.id = .ok version)
    (numbered : write.dot.clock.value = version.get write.dot.id)
    (later : register.timestamp < write.timestamp) :
    Settled (writes ++ [write])
      ⟨some write.value, write.timestamp, some write.dot.id, version⟩ := by
  refine ⟨settled.canonical.increment counted, Backed.increment settled.backed counted numbered,
    .inl ⟨write, ?_⟩⟩
  refine ⟨List.mem_append_right _ (.head _), Nat.le_of_eq numbered, rfl, rfl, rfl, ?_⟩
  intro other made seen different
  rcases List.mem_append.mp made with earlier | new
  · have seenBefore := seenBy_of_increment current counted earlier seen
    exact .inl (Int.lt_of_le_of_lt (settled.millis_le earlier seenBefore) later)
  · exact absurd (List.mem_singleton.mp new) different

/-! ## Runs -/

/-- A moment of a run of registers: the registers with every state that any of them ever had, and
the writes that were made. -/
structure Run (α : Type) where
  gossip : Gossip (Register α) (Register α)
  writes : List (Write α)

/-- What registers do: each is written on behalf of its own writer, with any timestamp, and merged
with any state that ever was. A write that is refused changes nothing. -/
inductive Step : Run α → Run α → Prop where
  | assign {run register changed} (id : ReplicaId) (value : α) (timestamp : Timestamp) :
      run.gossip.participants.get? id = some register →
      register.assignAt value id timestamp = .ok changed →
      Step run ⟨run.gossip.advance id changed [changed],
        run.writes ++ [⟨changed.version.dot id, value, changed.timestamp, register.timestamp⟩]⟩
  | merge {run register} (id : ReplicaId) (other : Register α) :
      run.gossip.participants.get? id = some register →
      other ∈ run.gossip.said →
      Step run ⟨run.gossip.advance id (merge register other) [merge register other], run.writes⟩

inductive Reachable : Run α → Prop where
  | fresh (ids : List ReplicaId) : Reachable ⟨Gossip.fresh ids (fun _ => empty) [empty], []⟩
  | step {run next} : Reachable run → Step run next → Reachable next

/-- Every register has seen all writes of its writer. -/
def Run.KnowsOwn (run : Run α) : Prop :=
  ∀ id register, run.gossip.participants.get? id = some register →
    ∀ write ∈ run.writes, write.dot.id = id → write.SeenBy register.version

namespace Run.KnowsOwn

variable {run : Run α} {register : Register α} {id : ReplicaId}

theorem assign {changed : Register α} {value : α} {timestamp : Timestamp} (knows : run.KnowsOwn)
    (found : run.gossip.participants.get? id = some register)
    (done : register.assignAt value id timestamp = .ok changed) :
    Run.KnowsOwn ⟨run.gossip.advance id changed [changed],
      run.writes ++ [⟨changed.version.dot id, value, changed.timestamp, register.timestamp⟩]⟩ := by
  obtain ⟨version, counted, rfl⟩ := assignAt_eq_ok done
  intro query other present write made writer
  rcases Gossip.participant_of_advance present with ⟨rfl, rfl⟩ | ⟨different, earlier⟩
  · rcases List.mem_append.mp made with before | new
    · have seen := knows query register found write before writer
      rw [Write.SeenBy, writer] at seen ⊢
      exact Nat.le_trans seen (VersionVector.within_increment counted query)
    · rw [List.mem_singleton.mp new]
      exact Nat.le_refl _
  · rcases List.mem_append.mp made with before | new
    · exact knows query other earlier write before writer
    · rw [List.mem_singleton.mp new] at writer
      exact absurd writer.symm different

theorem merge {other : Register α} (knows : run.KnowsOwn)
    (found : run.gossip.participants.get? id = some register)
    (canonical : register.version.Canonical) :
    Run.KnowsOwn ⟨run.gossip.advance id (merge register other) [merge register other],
      run.writes⟩ := by
  intro query present held write made writer
  rcases Gossip.participant_of_advance held with ⟨rfl, rfl⟩ | ⟨_, earlier⟩
  · exact (seenBy_absorb_iff canonical).mpr (.inl (knows query register found write made writer))
  · exact knows query present earlier write made writer

/-- Nobody can have seen the next write of a register. -/
theorem get_lt_increment {version other : ReplicaVector} (knows : run.KnowsOwn)
    (found : run.gossip.participants.get? id = some register)
    (counted : register.version.increment id = .ok version) (backed : Backed run.writes other) :
    other.get id < version.get id := by
  have advanced := VersionVector.get_increment_self counted
  refine Nat.lt_of_not_le fun seen => ?_
  obtain ⟨write, made, writer, number⟩ := backed id (version.get id) (by omega) seen
  have bounded := knows id register found write made writer
  rw [Write.SeenBy, writer, number] at bounded
  omega

end Run.KnowsOwn

/-- No register was written that showed the last timestamp there is. -/
def Run.HadRoom (run : Run α) : Prop :=
  ∀ write ∈ run.writes, write.previous ≠ .last

/-- Every register has seen all writes of its writer, and every state that ever was shows the
winner of what it had seen. -/
structure Consistent (run : Run α) : Prop where
  orderly : Orderly run.writes
  recorded : ∀ id register, run.gossip.participants.get? id = some register →
    register ∈ run.gossip.said
  current : run.KnowsOwn
  settled : ∀ register ∈ run.gossip.said, Settled run.writes register

theorem consistent_fresh (ids : List ReplicaId) :
    Consistent (⟨Gossip.fresh ids (fun _ => empty) [empty], []⟩ : Run α) where
  orderly := orderly_nil
  recorded id register found := by
    rw [Gossip.participant_of_fresh found]
    exact .head _
  current _ _ _ write made := by cases made
  settled register said := by
    rw [List.mem_singleton.mp said]
    exact settled_empty [] orderly_nil.counted

namespace Consistent

variable {run : Run α} {register : Register α} {id : ReplicaId}

theorem assign {changed : Register α} {value : α} {timestamp : Timestamp}
    (consistent : Consistent run) (found : run.gossip.participants.get? id = some register)
    (done : register.assignAt value id timestamp = .ok changed)
    (room : register.timestamp ≠ .last) :
    Consistent ⟨run.gossip.advance id changed [changed],
      run.writes ++ [⟨changed.version.dot id, value, changed.timestamp, register.timestamp⟩]⟩ := by
  have known := consistent.recorded id register found
  have settled := consistent.settled register known
  have current := consistent.current id register found
  obtain ⟨version, counted, rfl⟩ := assignAt_eq_ok done
  have advanced := VersionVector.get_increment_self counted
  -- Raised above the present timestamp, the write beats all that its register has seen.
  have later : register.timestamp < max timestamp register.timestamp.next :=
    timestamp_lt_of_room room
  refine ⟨?_, ?_, ?_, ?_⟩
  · refine consistent.orderly.append (Nat.lt_of_lt_of_eq (Nat.succ_pos _) advanced.symm) ?_
    intro other made sameWriter
    have seen := current other made sameWriter
    refine ⟨?_, Int.lt_of_le_of_lt (settled.millis_le made seen) later⟩
    rw [Write.SeenBy, sameWriter] at seen
    exact Nat.lt_of_le_of_lt seen (Nat.lt_of_lt_of_eq (Nat.lt_succ_self _) advanced.symm)
  · exact fun query other => Gossip.mem_said_of_advance consistent.recorded
  · exact consistent.current.assign found done
  · intro other said
    rcases List.mem_append.mp said with earlier | new
    · have past := consistent.settled other earlier
      exact past.extend (Nat.not_le_of_lt
        (consistent.current.get_lt_increment found counted past.backed))
    · rw [List.mem_singleton.mp new]
      exact settled.assign current counted rfl later

theorem merge {other : Register α} (consistent : Consistent run)
    (found : run.gossip.participants.get? id = some register)
    (said : other ∈ run.gossip.said) :
    Consistent ⟨run.gossip.advance id (merge register other) [merge register other],
      run.writes⟩ := by
  have settled := consistent.settled register (consistent.recorded id register found)
  refine ⟨consistent.orderly, ?_, ?_, ?_⟩
  · exact fun query present => Gossip.mem_said_of_advance consistent.recorded
  · exact consistent.current.merge found settled.canonical
  · intro present known
    rcases List.mem_append.mp known with earlier | new
    · exact consistent.settled present earlier
    · rw [List.mem_singleton.mp new]
      exact settled.merge consistent.orderly (consistent.settled other said)

end Consistent

theorem Step.hadRoom {run next : Run α} (step : Step run next) (room : next.HadRoom) :
    run.HadRoom := by
  cases step with
  | assign id value timestamp found done =>
      exact fun write made => room write (List.mem_append_left _ made)
  | merge id other found said => exact room

theorem Consistent.step {run next : Run α} (consistent : Consistent run) (step : Step run next)
    (room : next.HadRoom) : Consistent next := by
  cases step with
  | assign id value timestamp found done =>
      exact consistent.assign found done (room _ (List.mem_append_right _ (.head _)))
  | merge id other found said => exact consistent.merge found said

theorem Reachable.consistent {run : Run α} (reached : Reachable run) (room : run.HadRoom) :
    Consistent run := by
  induction reached with
  | fresh ids => exact consistent_fresh ids
  | step _ step ih => exact (ih (step.hadRoom room)).step step room

/-! ## Convergence -/

theorem Settled.merge_comm {writes : List (Write α)} {first second : Register α}
    (orderly : Orderly writes) (left : Settled writes first) (right : Settled writes second) :
    Confluence.merge first second = Confluence.merge second first := by
  refine (left.merge orderly right).eq_of_version (right.merge orderly left) ?_
  refine (left.merge orderly right).canonical.ext (right.merge orderly left).canonical fun id => ?_
  rw [get_version_merge left.canonical, get_version_merge right.canonical]
  exact Nat.max_comm _ _

theorem Settled.merge_assoc {writes : List (Write α)} {first second third : Register α}
    (orderly : Orderly writes) (left : Settled writes first) (middle : Settled writes second)
    (right : Settled writes third) :
    Confluence.merge (Confluence.merge first second) third =
      Confluence.merge first (Confluence.merge second third) := by
  have leftFirst := (left.merge orderly middle).merge orderly right
  have rightFirst := left.merge orderly (middle.merge orderly right)
  refine leftFirst.eq_of_version rightFirst ?_
  refine leftFirst.canonical.ext rightFirst.canonical fun id => ?_
  rw [get_version_merge (left.merge orderly middle).canonical, get_version_merge left.canonical,
    get_version_merge left.canonical, get_version_merge middle.canonical]
  exact Nat.max_assoc _ _ _

/-- The registers of a run converge: the states that ever were show the greatest of the writes that
their versions count, so that equal versions stand beside equal winners, and on these states the
order, grouping and repetition of merges does not matter. -/
structure Converges (run : Run α) : Prop where
  recorded : ∀ id register, run.gossip.participants.get? id = some register →
    register ∈ run.gossip.said
  distinct : ∀ write ∈ run.writes, ∀ other ∈ run.writes, write.dot = other.dot → write = other
  counted : ∀ register ∈ run.gossip.said, ∀ id number,
    (∃ write ∈ run.writes, write.dot.id = id ∧ write.dot.clock.value = number ∧
      write.SeenBy register.version) ↔ 1 ≤ number ∧ number ≤ register.version.get id
  winner : ∀ register ∈ run.gossip.said, ShowsWinner run.writes register
  determined : ∀ register ∈ run.gossip.said, ∀ other ∈ run.gossip.said,
    (register.version == other.version) = true → register.value = other.value ∧
      register.timestamp = other.timestamp ∧ register.writer = other.writer
  merge_comm : ∀ first ∈ run.gossip.said, ∀ second ∈ run.gossip.said,
    merge first second = merge second first
  merge_assoc : ∀ first ∈ run.gossip.said, ∀ second ∈ run.gossip.said,
    ∀ third ∈ run.gossip.said, merge (merge first second) third = merge first (merge second third)
  merge_self : ∀ register ∈ run.gossip.said, merge register register = register

/-- Registers converge unless one is written that shows the last timestamp already: such a write
cannot be stamped later than what it replaces. -/
theorem Reachable.converges {run : Run α} (reached : Reachable run) (room : run.HadRoom) :
    Converges run := by
  obtain ⟨orderly, recorded, _, settled⟩ := reached.consistent room
  refine ⟨recorded, orderly.distinct, ?_, fun register said => (settled register said).winner,
    ?_, ?_, ?_, ?_⟩
  · intro register said id number
    constructor
    · rintro ⟨write, made, rfl, rfl, seen⟩
      exact ⟨orderly.counted write made, seen⟩
    · rintro ⟨positive, bounded⟩
      obtain ⟨write, made, rfl, rfl⟩ := (settled register said).backed id number positive bounded
      exact ⟨write, made, rfl, rfl, bounded⟩
  · intro register said other otherSaid same
    have left := settled register said
    have right := settled other otherSaid
    obtain ⟨lower, upper⟩ := VersionVector.beq_iff_within.mp same
    have version : register.version = other.version :=
      left.canonical.ext right.canonical fun id => Nat.le_antisymm (lower id) (upper id)
    have equal := left.eq_of_version right version
    exact ⟨congrArg value equal, congrArg timestamp equal, congrArg writer equal⟩
  · intro first firstSaid second secondSaid
    exact (settled first firstSaid).merge_comm orderly (settled second secondSaid)
  · intro first firstSaid second secondSaid third thirdSaid
    exact (settled first firstSaid).merge_assoc orderly (settled second secondSaid)
      (settled third thirdSaid)
  · intro register said
    have canonical := (settled register said).canonical
    exact merge_of_within canonical canonical (.refl _)

/-- Two registers are written at one time and one of them is merged into the other: the lower
writer wins. -/
theorem lower_writer_wins_tie :
    ∃ (run : Run Nat) (register : Register Nat), Reachable run ∧ run.HadRoom ∧
      run.gossip.participants.get? ⟨2⟩ = some register ∧ register.value = some 10 ∧
      Converges run := by
  have run : ∃ (run : Run Nat) (register : Register Nat), Reachable run ∧ run.HadRoom ∧
      run.gossip.participants.get? ⟨2⟩ = some register ∧ register.value = some 10 := by
    have begun : Reachable (_ : Run Nat) := .fresh [⟨1⟩, ⟨2⟩]
    have first := begun.step (.assign ⟨1⟩ 10 ⟨5, by decide, by decide⟩ rfl rfl)
    have second := first.step (.assign ⟨2⟩ 20 ⟨5, by decide, by decide⟩ rfl rfl)
    have reached := second.step (.merge ⟨2⟩ _ rfl (.tail _ (.head _)))
    exact ⟨_, _, reached, by unfold Run.HadRoom; decide, rfl, rfl⟩
  obtain ⟨run, register, reached, room, found, shown⟩ := run
  exact ⟨run, register, reached, room, found, shown, reached.converges room⟩

end Confluence.Register

import Confluence.Proofs.State.RegisterConvergence

/-!
Writes that are made in view of others. A register stamps a write later than what it shows, and so
later than all that it has seen; wherever the write is known, what it was made over cannot show any
more, through whichever merges it comes. This holds with any timestamps, and of registers that do
not converge, but for one case: nothing is later than the last timestamp, so a write that bears it
can come to show again in place of a write that was made over it.
-/

set_option autoImplicit false

namespace Confluence.Register

variable {α : Type}

/-- The register shows this write. -/
def Shows (register : Register α) (write : Write α) : Prop :=
  register.value = some write.value ∧ register.timestamp = write.timestamp ∧
    register.writer = some write.dot.id

/-- In the run so far, the write `later` was made on a register that had seen `earlier`. -/
inductive WrittenOver (earlier later : Write α) : Run α → Prop where
  | assign {run register changed} (id : ReplicaId) (value : α) (timestamp : Timestamp) :
      Reachable run → run.gossip.participants.get? id = some register →
      earlier ∈ run.writes → earlier.SeenBy register.version →
      register.assignAt value id timestamp = .ok changed →
      later = ⟨changed.version.dot id, value, changed.timestamp, register.timestamp⟩ →
      WrittenOver earlier later
        ⟨run.gossip.advance id changed [changed], run.writes ++ [later]⟩
  | step {run next} : WrittenOver earlier later run → Step run next →
      WrittenOver earlier later next

theorem WrittenOver.reachable {earlier later : Write α} {run : Run α}
    (overwritten : WrittenOver earlier later run) : Reachable run := by
  induction overwritten with
  | assign id value timestamp reached found _ _ done same =>
      rw [same]
      exact reached.step (.assign id value timestamp found done)
  | step _ step ih => exact ih.step step

theorem WrittenOver.made {earlier later : Write α} {run : Run α}
    (overwritten : WrittenOver earlier later run) : later ∈ run.writes := by
  induction overwritten with
  | assign => exact List.mem_append_right _ (.head _)
  | step _ step ih =>
      cases step with
      | assign => exact List.mem_append_left _ ih
      | merge => exact ih

/-! ## Timestamps of what was seen -/

/-- The version counts only writes that were made, and of those none is stamped later than what the
register shows. -/
structure Dated (writes : List (Write α)) (register : Register α) : Prop where
  canonical : register.version.Canonical
  backed : Backed writes register.version
  latest : ∀ write ∈ writes, write.SeenBy register.version →
    write.timestamp.millis ≤ register.timestamp.millis

theorem dated_empty : Dated [] (empty : Register α) where
  canonical := VersionVector.canonical_empty
  backed := backed_empty []
  latest write made := by cases made

namespace Dated

variable {writes : List (Write α)} {register other : Register α}

theorem extend {write : Write α} (dated : Dated writes register)
    (unseen : ¬ write.SeenBy register.version) : Dated (writes ++ [write]) register := by
  refine ⟨dated.canonical, dated.backed.append write, ?_⟩
  intro rival made seen
  rcases List.mem_append.mp made with earlier | new
  · exact dated.latest rival earlier seen
  · rw [List.mem_singleton.mp new] at seen
    exact absurd seen unseen

theorem assign {version : ReplicaVector} {write : Write α} (dated : Dated writes register)
    (current : ∀ other ∈ writes, other.dot.id = write.dot.id → other.SeenBy register.version)
    (counted : register.version.increment write.dot.id = .ok version)
    (numbered : write.dot.clock.value = version.get write.dot.id)
    (notBack : register.timestamp.millis ≤ write.timestamp.millis) :
    Dated (writes ++ [write])
      ⟨some write.value, write.timestamp, some write.dot.id, version⟩ := by
  refine ⟨dated.canonical.increment counted, dated.backed.increment counted numbered, ?_⟩
  intro rival made seen
  rcases List.mem_append.mp made with earlier | new
  · have seenBefore := seenBy_of_increment current counted earlier seen
    exact Int.le_trans (dated.latest rival earlier seenBefore) notBack
  · exact Int.le_of_eq (congrArg (·.timestamp.millis) (List.mem_singleton.mp new))

end Dated

/-- The merge of two registers that have not seen all of each other shows the later timestamp. -/
theorem millis_merge_of_concurrent {register other : Register α}
    (concurrent : register.version.order other.version = .concurrent) :
    (merge register other).timestamp.millis =
      max register.timestamp.millis other.timestamp.millis := by
  cases beaten : register.isBeatenBy other with
  | true =>
      have notEarlier : ¬ other.timestamp.millis < register.timestamp.millis := by
        intro earlier
        have judged : compare other.timestamp register.timestamp = .lt :=
          Int.compare_eq_lt.mpr earlier
        simp [isBeatenBy, concurrent, judged] at beaten
      rw [merge_of_beaten beaten]
      exact (Int.max_eq_right (Int.not_lt.mp notEarlier)).symm
  | false =>
      have notLater : ¬ register.timestamp.millis < other.timestamp.millis := by
        intro later
        have judged : compare other.timestamp register.timestamp = .gt :=
          Int.compare_eq_gt.mpr later
        simp [isBeatenBy, concurrent, judged] at beaten
      rw [merge_of_not_beaten beaten]
      exact (Int.max_eq_left (Int.not_lt.mp notLater)).symm

theorem Dated.merge {writes : List (Write α)} {register other : Register α}
    (left : Dated writes register) (right : Dated writes other) :
    Dated writes (Confluence.merge register other) := by
  have left' := left.canonical.cumulative
  have right' := right.canonical.cumulative
  cases judged : register.version.order other.version with
  | before =>
      rw [merge_of_before left.canonical right.canonical judged]
      exact right
  | after =>
      rw [merge_of_within left.canonical right.canonical
        ((VersionVector.order_eq_after_iff left' right').mp judged).1]
      exact left
  | equal =>
      rw [merge_of_within left.canonical right.canonical
        ((VersionVector.order_eq_equal_iff left' right').mp judged).2]
      exact left
  | concurrent =>
      refine ⟨left.canonical.absorb right.canonical.significant,
        left.backed.absorb right.backed left.canonical, ?_⟩
      intro write made seen
      rw [millis_merge_of_concurrent judged]
      rcases (seenBy_absorb_iff left.canonical).mp seen with seenLeft | seenRight
      · exact Int.le_trans (left.latest write made seenLeft) (Int.le_max_left _ _)
      · exact Int.le_trans (right.latest write made seenRight) (Int.le_max_right _ _)

/-! ## Runs with any timestamps -/

/-- Every state that ever was shows the latest timestamp of what it had seen. Nothing is asked of
the timestamps, so this holds where registers do not converge. -/
structure InOrder (run : Run α) : Prop where
  recorded : ∀ id register, run.gossip.participants.get? id = some register →
    register ∈ run.gossip.said
  knowsOwn : run.KnowsOwn
  dated : ∀ register ∈ run.gossip.said, Dated run.writes register

theorem inOrder_fresh (ids : List ReplicaId) :
    InOrder (⟨Gossip.fresh ids (fun _ => empty) [empty], []⟩ : Run α) where
  recorded id register found := by
    rw [Gossip.participant_of_fresh found]
    exact .head _
  knowsOwn _ _ _ write made := by cases made
  dated register said := by
    rw [List.mem_singleton.mp said]
    exact dated_empty

namespace InOrder

variable {run : Run α} {register : Register α} {id : ReplicaId}

theorem assign {changed : Register α} {value : α} {timestamp : Timestamp} (inOrder : InOrder run)
    (found : run.gossip.participants.get? id = some register)
    (done : register.assignAt value id timestamp = .ok changed) :
    InOrder ⟨run.gossip.advance id changed [changed],
      run.writes ++ [⟨changed.version.dot id, value, changed.timestamp, register.timestamp⟩]⟩ := by
  have dated := inOrder.dated register (inOrder.recorded id register found)
  refine ⟨fun query other => Gossip.mem_said_of_advance inOrder.recorded,
    inOrder.knowsOwn.assign found done, ?_⟩
  obtain ⟨version, counted, rfl⟩ := assignAt_eq_ok done
  have upper := register.timestamp.upper
  intro other said
  rcases List.mem_append.mp said with earlier | new
  · have past := inOrder.dated other earlier
    exact past.extend
      (Nat.not_le_of_lt (inOrder.knowsOwn.get_lt_increment found counted past.backed))
  · rw [List.mem_singleton.mp new]
    refine dated.assign (inOrder.knowsOwn id register found) counted rfl ?_
    rw [Timestamp.millis_max, Timestamp.millis_next]
    omega

theorem merge {other : Register α} (inOrder : InOrder run)
    (found : run.gossip.participants.get? id = some register) (said : other ∈ run.gossip.said) :
    InOrder ⟨run.gossip.advance id (merge register other) [merge register other],
      run.writes⟩ := by
  have dated := inOrder.dated register (inOrder.recorded id register found)
  refine ⟨fun query present => Gossip.mem_said_of_advance inOrder.recorded,
    inOrder.knowsOwn.merge found dated.canonical, ?_⟩
  intro present known
  rcases List.mem_append.mp known with earlier | new
  · exact inOrder.dated present earlier
  · rw [List.mem_singleton.mp new]
    exact dated.merge (inOrder.dated other said)

theorem step {next : Run α} (inOrder : InOrder run) (step : Step run next) : InOrder next := by
  cases step with
  | assign id value timestamp found done => exact inOrder.assign found done
  | merge id other found said => exact inOrder.merge found said

end InOrder

theorem Reachable.inOrder {run : Run α} (reached : Reachable run) : InOrder run := by
  induction reached with
  | fresh ids => exact inOrder_fresh ids
  | step _ step ih => exact ih.step step

/-! ## What was written over -/

/-- A write is stamped later than everything its register had seen, unless that is as late as can
be. -/
theorem WrittenOver.timestamp_lt {earlier later : Write α} {run : Run α}
    (overwritten : WrittenOver earlier later run) (room : earlier.timestamp ≠ .last) :
    earlier.timestamp < later.timestamp := by
  induction overwritten with
  | @assign run register changed id value timestamp reached found made seen done same =>
      have recorded := reached.inOrder.recorded id register found
      have latest := (reached.inOrder.dated register recorded).latest earlier made seen
      obtain ⟨version, _, rfl⟩ := assignAt_eq_ok done
      have notLast : earlier.timestamp.millis ≠ Word.size 63 - 1 :=
        fun equal => room (Timestamp.ext equal)
      have upper := earlier.timestamp.upper
      rw [same]
      change earlier.timestamp.millis < (max timestamp register.timestamp.next).millis
      rw [Timestamp.millis_max, Timestamp.millis_next]
      omega
  | step _ _ ih => exact ih

/-- A write that was made in view of another one never loses to it: no state that has seen the later
one shows the earlier one, unless that bears the last timestamp there is. -/
theorem WrittenOver.not_shows {earlier later : Write α} {run : Run α}
    (overwritten : WrittenOver earlier later run) (room : earlier.timestamp ≠ .last)
    {register : Register α} (said : register ∈ run.gossip.said)
    (seen : later.SeenBy register.version) : ¬ register.Shows earlier := by
  have outstamped := overwritten.timestamp_lt room
  have dated := overwritten.reachable.inOrder.dated register said
  have latest := dated.latest later overwritten.made seen
  intro shown
  have asLate : register.timestamp.millis = earlier.timestamp.millis :=
    congrArg Timestamp.millis shown.2.1
  rw [asLate] at latest
  exact Int.lt_irrefl _ (Int.lt_of_lt_of_le outstamped latest)

/-- The later write asks for an earlier timestamp and has the higher writer. It reaches a third
register that shows the earlier write, and takes its place. -/
theorem later_write_replaces_what_it_saw :
    ∃ (run : Run Nat) (earlier later : Write Nat) (register : Register Nat),
      WrittenOver earlier later run ∧ earlier.timestamp ≠ .last ∧ register ∈ run.gossip.said ∧
        earlier.SeenBy register.version ∧ later.SeenBy register.version ∧
        register.value = some later.value ∧ ¬ register.Shows earlier := by
  have run : ∃ (run : Run Nat) (earlier later : Write Nat) (register : Register Nat),
      WrittenOver earlier later run ∧ earlier.timestamp ≠ .last ∧ register ∈ run.gossip.said ∧
        earlier.SeenBy register.version ∧ later.SeenBy register.version ∧
        register.value = some later.value := by
    have begun : Reachable (_ : Run Nat) := .fresh [⟨1⟩, ⟨2⟩, ⟨3⟩]
    have first := begun.step (.assign ⟨1⟩ 10 ⟨50, by decide, by decide⟩ rfl rfl)
    have read := first.step (.merge ⟨2⟩ _ rfl (.tail _ (.head _)))
    have overwritten := WrittenOver.assign ⟨2⟩ 20 ⟨5, by decide, by decide⟩ read rfl (.head _)
      (by unfold Write.SeenBy; decide) rfl rfl
    have apart := overwritten.step (.assign ⟨3⟩ 30 ⟨7, by decide, by decide⟩ rfl rfl)
    have shown := apart.step (.merge ⟨3⟩ _ rfl (.tail _ (.head _)))
    have reached := shown.step (.merge ⟨3⟩ _ rfl (.tail _ (.tail _ (.tail _ (.head _)))))
    exact ⟨_, _, _, _, reached, by decide,
      .tail _ (.tail _ (.tail _ (.tail _ (.tail _ (.tail _ (.head _)))))),
      by unfold Write.SeenBy; decide, by unfold Write.SeenBy; decide, rfl⟩
  obtain ⟨run, earlier, later, register, overwritten, room, said, seenEarlier, seenLater,
    value⟩ := run
  exact ⟨run, earlier, later, register, overwritten, room, said, seenEarlier, seenLater, value,
    overwritten.not_shows room said seenLater⟩

/-- A write that bears the last timestamp loses no tie to a higher writer that wrote over it: a
third register that shows it keeps it when it hears of the other. -/
theorem last_timestamp_shows_after_being_written_over :
    ∃ (run : Run Nat) (earlier later : Write Nat) (register : Register Nat),
      WrittenOver earlier later run ∧ register ∈ run.gossip.said ∧
        earlier.SeenBy register.version ∧ later.SeenBy register.version ∧
        register.value ≠ some later.value ∧ register.Shows earlier := by
  have begun : Reachable (_ : Run Nat) := .fresh [⟨1⟩, ⟨2⟩, ⟨3⟩]
  have first := begun.step (.assign ⟨1⟩ 10 .last rfl rfl)
  have read := first.step (.merge ⟨2⟩ _ rfl (.tail _ (.head _)))
  have overwritten := WrittenOver.assign ⟨2⟩ 20 .epoch read rfl (.head _)
    (by unfold Write.SeenBy; decide) rfl rfl
  have apart := overwritten.step (.assign ⟨3⟩ 30 .epoch rfl rfl)
  have shown := apart.step (.merge ⟨3⟩ _ rfl (.tail _ (.head _)))
  have reached := shown.step (.merge ⟨3⟩ _ rfl (.tail _ (.tail _ (.tail _ (.head _)))))
  exact ⟨_, _, _, _, reached, .tail _ (.tail _ (.tail _ (.tail _ (.tail _ (.tail _ (.head _)))))),
    by unfold Write.SeenBy; decide, by unfold Write.SeenBy; decide, by decide, rfl, rfl, rfl⟩

end Confluence.Register

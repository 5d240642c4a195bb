import Confluence.Proofs.Replication.Gossip
import Confluence.Proofs.State.Tally

/-!
State-based replicas over a medium that reorders, repeats, relays and loses snapshots. The version
of a replica, and of a snapshot, tells which commands the state beside it reflects, and with them
the state itself. So a snapshot whose version was seen has nothing to add, and passing over it
loses nothing.
-/

set_option autoImplicit false

namespace Confluence.StateReplica

variable {σ κ : Type} [LocalCommand σ κ]

/-! ## What one call does -/

omit [LocalCommand σ κ] in
theorem mutate_eq_ok {replica changed : StateReplica σ} {change : σ → Except StateError σ}
    {snapshot : Snapshot σ} (done : replica.mutate change = .ok (changed, snapshot)) :
    ∃ vector state, replica.version.increment replica.history.owner = .ok vector ∧
      change replica.state = .ok state ∧
      changed = { replica with state, history := ⟨replica.history.owner, vector⟩ } ∧
      snapshot = changed.snapshot := by
  obtain ⟨history, counted, rest⟩ := Outcome.bind_eq_ok done
  obtain ⟨vector, incremented, rfl⟩ := Outcome.map_eq_ok counted
  obtain ⟨state, accepted, finished⟩ := Outcome.bind_eq_ok rest
  cases finished
  exact ⟨vector, state, incremented, accepted, rfl, rfl⟩

/-! ## Runs -/

/-- A moment of a run of state-based replicas: the replicas with all snapshots that were taken, and
the commands that every replica has carried out. -/
structure Run (σ κ : Type) where
  gossip : Gossip (StateReplica σ) (Snapshot σ)
  log : CommandLog κ

variable [Convergent σ]

/-- What state-based replicas do: one carries out a command and sends its snapshot, one shows a
snapshot of how it is, or one is offered any snapshot that was ever taken. A command that is
refused changes nothing. -/
inductive Step : Run σ κ → Run σ κ → Prop where
  | issue {run replica changed snapshot} (id : ReplicaId) (command : κ) :
      run.gossip.participants.get? id = some replica →
      replica.issue command = .ok (changed, snapshot) →
      Step run ⟨run.gossip.advance id changed [snapshot], run.log.record id command⟩
  | observe {run replica} (id : ReplicaId) :
      run.gossip.participants.get? id = some replica →
      Step run ⟨run.gossip.advance id replica [replica.snapshot], run.log⟩
  | update {run replica} (id : ReplicaId) (snapshot : Snapshot σ) :
      run.gossip.participants.get? id = some replica →
      snapshot ∈ run.gossip.said →
      Step run ⟨run.gossip.advance id (replica.update snapshot) [], run.log⟩

variable [Inhabited σ]

inductive Reachable : Run σ κ → Prop where
  | fresh (ids : List ReplicaId) :
      Reachable ⟨Gossip.fresh ids (fun id => ofState id ∅ default) [], .empty⟩
  | step {run next} : Reachable run → Step run next → Reachable next

/-! ## What a version tells -/

variable [Tally σ κ]

/-- The version covers commands that were carried out, and the state is what those come to. -/
structure Informed (log : CommandLog κ) (version : ReplicaVector) (state : σ) : Prop where
  canonical : version.Canonical
  covered : ∀ origin, version.get origin ≤ (log origin).length
  tallied : Tally.Tallies (log.upTo version.get) state

theorem informed_default (log : CommandLog κ) : Informed log ∅ (default : σ) where
  canonical := VersionVector.canonical_empty
  covered _ := Nat.zero_le _
  tallied := by
    have nothing : log.upTo (∅ : ReplicaVector).get = .empty := log.upTo_zero
    rw [nothing]
    exact Tally.tallies_default

namespace Informed

variable {log : CommandLog κ} {version other : ReplicaVector} {state second : σ}

theorem record (informed : Informed log version state) (id : ReplicaId) (command : κ) :
    Informed (log.record id command) version state where
  canonical := informed.canonical
  covered origin :=
    Nat.le_trans (informed.covered origin) (log.length_le_length_record id origin command)
  tallied := by
    rw [CommandLog.upTo_record informed.covered]
    exact informed.tallied

theorem perform {next : ReplicaVector} {changed : σ} {id : ReplicaId} {command : κ}
    (informed : Informed log version state) (current : version.get id = (log id).length)
    (counted : version.increment id = .ok next)
    (done : LocalCommand.perform id command state = .ok changed) :
    Informed (log.record id command) next changed := by
  have advanced := VersionVector.get_increment_self counted
  have others : ∀ origin, origin ≠ id → next.get origin = version.get origin :=
    fun origin different => VersionVector.get_increment_of_ne counted different
  refine ⟨informed.canonical.increment counted, ?_, ?_⟩
  · intro origin
    by_cases same : origin = id
    · subst same
      rw [CommandLog.length_record_self, ← current]
      exact Nat.le_of_eq advanced
    · rw [others origin same, CommandLog.record_of_ne log command same]
      exact informed.covered origin
  · rw [CommandLog.upTo_record_succ current advanced others]
    exact Tally.tallies_perform informed.tallied done

theorem merge (left : Informed log version state) (right : Informed log other second) :
    Informed log (version.absorb other) (Confluence.merge state second) := by
  have counts : (version.absorb other).get = fun id => max (version.get id) (other.get id) :=
    funext fun id => VersionVector.get_absorb left.canonical.cumulative other id
  refine ⟨left.canonical.absorb right.canonical.significant, ?_, ?_⟩
  · intro origin
    rw [counts]
    exact Nat.max_le.mpr ⟨left.covered origin, right.covered origin⟩
  · rw [counts]
    exact Tally.tallies_merge left.tallied right.tallied

/-- What is covered already has nothing to add. -/
theorem merge_eq_self (left : Informed log version state) (right : Informed log other second)
    (within : other.Within version) : Confluence.merge state second = state := by
  have merged := (left.merge right).tallied
  rw [left.canonical.absorb_eq_self right.canonical within] at merged
  exact Tally.eq_of_tallies merged left.tallied

theorem state_eq (left : Informed log version state) (right : Informed log other second)
    (same : (version == other) = true) : state = second := by
  obtain ⟨lower, upper⟩ := VersionVector.beq_iff_within.mp same
  have counts : version = other :=
    left.canonical.ext right.canonical fun id => Nat.le_antisymm (lower id) (upper id)
  subst counts
  exact Tally.eq_of_tallies left.tallied right.tallied

end Informed

/-! ## What a run keeps -/

/-- Replicas keep their identifiers and know all their own commands, and every state that is held
or was sent is what its version tells. -/
structure Consistent (run : Run σ κ) : Prop where
  owned : ∀ id replica, run.gossip.participants.get? id = some replica →
    replica.id = id ∧ replica.history.owner = id
  current : ∀ id replica, run.gossip.participants.get? id = some replica →
    replica.version.get id = (run.log id).length
  held : ∀ id replica, run.gossip.participants.get? id = some replica →
    Informed run.log replica.version replica.state
  sent : ∀ snapshot ∈ run.gossip.said, Informed run.log snapshot.version snapshot.state

theorem consistent_fresh (ids : List ReplicaId) :
    Consistent (⟨Gossip.fresh ids (fun id => ofState id ∅ default) [], .empty⟩ : Run σ κ) where
  owned id replica found := by rw [Gossip.participant_of_fresh found]; exact ⟨rfl, rfl⟩
  current id replica found := by rw [Gossip.participant_of_fresh found]; rfl
  held id replica found := by
    rw [Gossip.participant_of_fresh found]
    exact informed_default _
  sent snapshot isSent := by cases isSent

omit [LocalCommand σ κ] [Inhabited σ] [Tally σ κ] in
theorem update_cases {replica : StateReplica σ} {snapshot : Snapshot σ}
    (left : replica.version.isDotted = false) (right : snapshot.version.isDotted = false) :
    (snapshot.version.Within replica.version ∧ replica.update snapshot = replica) ∨
      (¬ snapshot.version.Within replica.version ∧ replica.update snapshot = { replica with
        state := Confluence.merge replica.state snapshot.state
        history := replica.history.absorb snapshot.version }) := by
  unfold update
  cases judged : replica.version.order snapshot.version with
  | after => exact .inl ⟨((VersionVector.order_eq_after_iff left right).mp judged).1, rfl⟩
  | equal => exact .inl ⟨((VersionVector.order_eq_equal_iff left right).mp judged).2, rfl⟩
  | before => exact .inr ⟨((VersionVector.order_eq_before_iff left right).mp judged).2, rfl⟩
  | concurrent =>
      exact .inr ⟨((VersionVector.order_eq_concurrent_iff left right).mp judged).2, rfl⟩

/-- Whether a snapshot is passed over or merged, the result is that of merging it. -/
theorem Informed.update_eq_merge {log : CommandLog κ} {replica : StateReplica σ}
    {snapshot : Snapshot σ} (held : Informed log replica.version replica.state)
    (sent : Informed log snapshot.version snapshot.state) :
    replica.update snapshot = { replica with
      state := Confluence.merge replica.state snapshot.state
      history := replica.history.absorb snapshot.version } := by
  rcases update_cases held.canonical.cumulative sent.canonical.cumulative with
    ⟨within, passed⟩ | ⟨_, merged⟩
  · have sameState := held.merge_eq_self sent within
    have sameVector := held.canonical.absorb_eq_self sent.canonical within
    have sameHistory : replica.history.absorb snapshot.version = replica.history :=
      congrArg (OwnedVector.mk replica.history.owner) sameVector
    rw [passed, sameState, sameHistory]
  · exact merged

/-! ## What one replica keeps -/

/-- A replica that has kept its identifier, knows all its own commands, and holds the state that its
version tells. -/
structure Faithful (log : CommandLog κ) (id : ReplicaId) (replica : StateReplica σ) : Prop where
  named : replica.id = id
  owned : replica.history.owner = id
  current : replica.version.get id = (log id).length
  informed : Informed log replica.version replica.state

theorem faithful_ofState (id : ReplicaId) :
    Faithful .empty id (ofState id ∅ (default : σ)) where
  named := rfl
  owned := rfl
  current := rfl
  informed := informed_default _

namespace Faithful

variable {log : CommandLog κ} {id : ReplicaId} {replica : StateReplica σ} {command : κ}

theorem issue {changed : StateReplica σ} {snapshot : Snapshot σ}
    (faithful : Faithful log id replica) (done : replica.issue command = .ok (changed, snapshot)) :
    Faithful (log.record id command) id changed ∧ snapshot = changed.snapshot ∧
      replica.version.Within changed.version := by
  obtain ⟨vector, state, counted, accepted, rfl, rfl⟩ := mutate_eq_ok done
  rw [faithful.owned] at counted
  rw [faithful.named] at accepted
  refine ⟨⟨faithful.named, faithful.owned, ?_, ?_⟩, rfl, VersionVector.within_increment counted⟩
  · rw [CommandLog.length_record_self, ← faithful.current]
    exact VersionVector.get_increment_self counted
  · exact faithful.informed.perform faithful.current counted accepted

theorem record {other : ReplicaId} (faithful : Faithful log id replica) (different : id ≠ other)
    (command : κ) : Faithful (log.record other command) id replica := by
  refine ⟨faithful.named, faithful.owned, ?_, faithful.informed.record other command⟩
  rw [CommandLog.record_of_ne log command different]
  exact faithful.current

theorem update {snapshot : Snapshot σ} (faithful : Faithful log id replica)
    (sent : Informed log snapshot.version snapshot.state) :
    Faithful log id (replica.update snapshot) := by
  have informed := faithful.informed
  rw [informed.update_eq_merge sent]
  refine ⟨faithful.named, faithful.owned, ?_, informed.merge sent⟩
  have bounded : snapshot.version.get id ≤ replica.version.get id :=
    faithful.current ▸ sent.covered id
  have absorbed := VersionVector.get_absorb informed.canonical.cumulative snapshot.version id
  exact (absorbed.trans (Nat.max_eq_left bounded)).trans faithful.current

end Faithful

namespace Consistent

variable {run : Run σ κ} {replica : StateReplica σ} {id : ReplicaId}

theorem faithful (consistent : Consistent run)
    (found : run.gossip.participants.get? id = some replica) : Faithful run.log id replica where
  named := (consistent.owned id replica found).1
  owned := (consistent.owned id replica found).2
  current := consistent.current id replica found
  informed := consistent.held id replica found

theorem of_faithful (faithful : ∀ id replica, run.gossip.participants.get? id = some replica →
      Faithful run.log id replica)
    (sent : ∀ snapshot ∈ run.gossip.said, Informed run.log snapshot.version snapshot.state) :
    Consistent run where
  owned id replica found := ⟨(faithful id replica found).named, (faithful id replica found).owned⟩
  current id replica found := (faithful id replica found).current
  held id replica found := (faithful id replica found).informed
  sent := sent

theorem issue {changed : StateReplica σ} {snapshot : Snapshot σ} {command : κ}
    (consistent : Consistent run) (found : run.gossip.participants.get? id = some replica)
    (done : replica.issue command = .ok (changed, snapshot)) :
    Consistent ⟨run.gossip.advance id changed [snapshot], run.log.record id command⟩ := by
  obtain ⟨next, rfl, _⟩ := (consistent.faithful found).issue done
  refine of_faithful ?_ ?_
  · intro query other present
    rcases Gossip.participant_of_advance present with ⟨rfl, rfl⟩ | ⟨different, earlier⟩
    · exact next
    · exact (consistent.faithful earlier).record different command
  · intro other isSent
    rcases List.mem_append.mp isSent with earlier | new
    · exact (consistent.sent other earlier).record id command
    · rw [List.mem_singleton.mp new]
      exact next.informed

theorem observe (consistent : Consistent run)
    (found : run.gossip.participants.get? id = some replica) :
    Consistent ⟨run.gossip.advance id replica [replica.snapshot], run.log⟩ := by
  refine of_faithful ?_ ?_
  · intro query other present
    rcases Gossip.participant_of_advance present with ⟨rfl, rfl⟩ | ⟨_, earlier⟩
    · exact consistent.faithful found
    · exact consistent.faithful earlier
  · intro other isSent
    rcases List.mem_append.mp isSent with earlier | new
    · exact consistent.sent other earlier
    · rw [List.mem_singleton.mp new]
      exact consistent.held id replica found

theorem update {snapshot : Snapshot σ} (consistent : Consistent run)
    (found : run.gossip.participants.get? id = some replica)
    (isSent : snapshot ∈ run.gossip.said) :
    Consistent ⟨run.gossip.advance id (replica.update snapshot) [], run.log⟩ := by
  refine of_faithful ?_ ?_
  · intro query other present
    rcases Gossip.participant_of_advance present with ⟨rfl, rfl⟩ | ⟨_, earlier⟩
    · exact (consistent.faithful found).update (consistent.sent snapshot isSent)
    · exact consistent.faithful earlier
  · intro other earlier
    rw [Gossip.said_advance, List.append_nil] at earlier
    exact consistent.sent other earlier

theorem step {next : Run σ κ} (consistent : Consistent run) (step : Step run next) :
    Consistent next := by
  cases step with
  | issue id command found done => exact consistent.issue found done
  | observe id found => exact consistent.observe found
  | update id snapshot found isSent => exact consistent.update found isSent

end Consistent

theorem Reachable.consistent {run : Run σ κ} (reached : Reachable run) : Consistent run := by
  induction reached with
  | fresh ids => exact consistent_fresh ids
  | step _ step ih => exact ih.step step

/-! ## The gate -/

/-- A replica of the run, or a snapshot that was taken in it, shows this state with this version. -/
def Run.Shows (run : Run σ κ) (version : ReplicaVector) (state : σ) : Prop :=
  (∃ id replica, run.gossip.participants.get? id = some replica ∧
    replica.version = version ∧ replica.state = state) ∨
  ∃ snapshot ∈ run.gossip.said, snapshot.version = version ∧ snapshot.state = state

theorem Consistent.informed_of_shows {run : Run σ κ} (consistent : Consistent run)
    {version : ReplicaVector} {state : σ} (shown : run.Shows version state) :
    Informed run.log version state := by
  rcases shown with ⟨id, replica, found, rfl, rfl⟩ | ⟨snapshot, isSent, rfl, rfl⟩
  · exact consistent.held id replica found
  · exact consistent.sent snapshot isSent

end Confluence.StateReplica

namespace Confluence

open StateReplica

/-- In no run of replicas of this type that began empty does the version gate lose anything:
wherever it passes over a snapshot, merging the snapshot would have left the state as it was, so
that an update is the same as a merge without a gate; and equal versions stand beside equal
states. -/
structure GateLosesNothing (σ : Type) {κ : Type} [LocalCommand σ κ] [Convergent σ]
    [Inhabited σ] : Prop where
  passed_over : ∀ {run : Run σ κ}, Reachable run → ∀ {id replica},
    run.gossip.participants.get? id = some replica → ∀ {snapshot}, snapshot ∈ run.gossip.said →
      replica.version.order snapshot.version = .after ∨
        replica.version.order snapshot.version = .equal →
      merge replica.state snapshot.state = replica.state
  ungated : ∀ {run : Run σ κ}, Reachable run → ∀ {id replica},
    run.gossip.participants.get? id = some replica → ∀ {snapshot}, snapshot ∈ run.gossip.said →
      replica.update snapshot = { replica with
        state := merge replica.state snapshot.state
        history := replica.history.absorb snapshot.version }
  determined : ∀ {run : Run σ κ}, Reachable run → ∀ {version version' state state'},
    run.Shows version state → run.Shows version' state' →
      (version == version') = true → state = state'

theorem gateLosesNothing_of_tally (σ : Type) {κ : Type} [LocalCommand σ κ] [Convergent σ]
    [Inhabited σ] [Tally σ κ] : GateLosesNothing σ := by
  refine ⟨?_, ?_, ?_⟩
  · intro run reached id replica found snapshot isSent judged
    have held := reached.consistent.held id replica found
    have sent := reached.consistent.sent snapshot isSent
    have left := held.canonical.cumulative
    have right := sent.canonical.cumulative
    refine held.merge_eq_self sent ?_
    rcases judged with after | equal
    · exact ((VersionVector.order_eq_after_iff left right).mp after).1
    · exact ((VersionVector.order_eq_equal_iff left right).mp equal).2
  · intro run reached id replica found snapshot isSent
    exact (reached.consistent.held id replica found).update_eq_merge
      (reached.consistent.sent snapshot isSent)
  · intro run reached version version' state state' shown shown' same
    exact (reached.consistent.informed_of_shows shown).state_eq
      (reached.consistent.informed_of_shows shown') same

/-- Counters and sets that are replicated by snapshots lose nothing to the version gate. -/
theorem counters_and_sets_lose_nothing_to_gate (α : Type) [Ord α] [Std.TransOrd α]
    [Std.LawfulEqOrd α] [Diagnostic α] :
    GateLosesNothing GrowCounter ∧ GateLosesNothing SignedCounter ∧
      GateLosesNothing (GrowSet α) ∧ GateLosesNothing (TwoPhaseSet α) :=
  ⟨gateLosesNothing_of_tally _, gateLosesNothing_of_tally _, gateLosesNothing_of_tally _,
    gateLosesNothing_of_tally _⟩

/-- A removal reaches a third replica ahead of the addition that it followed; the addition is then
passed over. -/
theorem relayed_removal_passes_over_addition :
    ∃ (run : Run (TwoPhaseSet Nat) (SetOperation Nat))
      (replica : StateReplica (TwoPhaseSet Nat)) (snapshot : Snapshot (TwoPhaseSet Nat)),
      Reachable run ∧ run.gossip.participants.get? ⟨3⟩ = some replica ∧
        snapshot ∈ run.gossip.said ∧ replica.version.order snapshot.version = .after ∧
        merge replica.state snapshot.state = replica.state := by
  have run : ∃ (run : Run (TwoPhaseSet Nat) (SetOperation Nat))
      (replica : StateReplica (TwoPhaseSet Nat)) (snapshot : Snapshot (TwoPhaseSet Nat)),
      Reachable run ∧ run.gossip.participants.get? ⟨3⟩ = some replica ∧
        snapshot ∈ run.gossip.said ∧ replica.version.order snapshot.version = .after := by
    have begun : Reachable (_ : Run (TwoPhaseSet Nat) (SetOperation Nat)) :=
      .fresh [⟨1⟩, ⟨2⟩, ⟨3⟩]
    have added := begun.step (.issue ⟨1⟩ (.add [7]) rfl rfl)
    have relayed := added.step (.update ⟨2⟩ _ rfl (.head _))
    have removed := relayed.step (.issue ⟨2⟩ (.remove [7]) rfl rfl)
    have reached := removed.step (.update ⟨3⟩ _ rfl (.tail _ (.head _)))
    exact ⟨_, _, _, reached, rfl, .head _, rfl⟩
  obtain ⟨run, replica, snapshot, reached, found, isSent, after⟩ := run
  exact ⟨run, replica, snapshot, reached, found, isSent, after,
    (counters_and_sets_lose_nothing_to_gate Nat).2.2.2.passed_over reached found isSent
      (.inl after)⟩

end Confluence

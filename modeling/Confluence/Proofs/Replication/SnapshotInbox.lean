import Confluence.Proofs.Causality.DirectSuccession
import Confluence.Proofs.Causality.VectorLattice
import Confluence.Proofs.Causality.VectorTotals
import Confluence.Proofs.Replication.ApplyCycles
import Confluence.Proofs.Replication.ApplyPasses
import Confluence.Proofs.Replication.VersionGate

/-!
Snapshots that wait in the inbox of a replica. The newest is applied first: a snapshot that reflects
more events has the higher rank, so it comes before every snapshot that happened before it. When one
of those has its turn the replica has seen its version already and passes over it.

Nothing is asked of the states, nor of the replica but that its version is not dotted. The ranks tell
snapshots apart only as long as a word of 64 bits can count their events.
-/

set_option autoImplicit false

namespace Confluence

/-! ## Ranks -/

namespace Snapshot

variable {σ : Type} {older newer : Snapshot σ}

/-- The rank of such a snapshot is the number of the events that it reflects. -/
structure Countable (snapshot : Snapshot σ) : Prop where
  cumulative : snapshot.version.isDotted = false
  fits : snapshot.version.events < Word.size 64

theorem Countable.rank_eq {snapshot : Snapshot σ} (countable : snapshot.Countable) :
    Message.rank snapshot = snapshot.version.events := by
  have wider : Word.size 64 < Word.size 128 := by decide
  have total := VersionVector.toNat_total (Nat.lt_trans countable.fits wider)
  exact (congrArg (Word.saturate 64) total).trans (Word.saturate_eq_self countable.fits)

theorem rank_lt_of_happenedBefore (countable : older.Countable) (countable' : newer.Countable)
    (before : older.version.happenedBefore newer.version = true) :
    Message.rank older < Message.rank newer := by
  obtain ⟨within, apart⟩ := (VersionVector.happenedBefore_iff_within countable.cumulative
    countable'.cumulative).mp before
  rw [countable.rank_eq, countable'.rank_eq]
  exact VersionVector.events_lt_of_within within apart

end Snapshot

namespace StateReplica

variable {σ : Type} [Convergent σ] {replica : StateReplica σ} {snapshot : Snapshot σ}

/-! ## One update -/

theorem update_eq_self_of_within (left : replica.version.isDotted = false)
    (right : snapshot.version.isDotted = false)
    (within : snapshot.version.Within replica.version) : replica.update snapshot = replica := by
  rcases update_cases left right with ⟨_, passed⟩ | ⟨apart, _⟩
  · exact passed
  · exact absurd within apart

theorem isDotted_version_update (left : replica.version.isDotted = false)
    (right : snapshot.version.isDotted = false) :
    (replica.update snapshot).version.isDotted = false := by
  rcases update_cases left right with ⟨_, passed⟩ | ⟨_, merged⟩
  · rw [passed, left]
  · rw [merged]
    exact (VersionVector.isDotted_absorb replica.version snapshot.version).trans left

/-- Whether a snapshot is passed over or merged, its events are counted from then on. -/
theorem get_version_update (left : replica.version.isDotted = false)
    (right : snapshot.version.isDotted = false) (id : ReplicaId) :
    (replica.update snapshot).version.get id =
      max (replica.version.get id) (snapshot.version.get id) := by
  rcases update_cases left right with ⟨within, passed⟩ | ⟨_, merged⟩
  · rw [passed]
    exact (Nat.max_eq_left (within id)).symm
  · rw [merged]
    exact VersionVector.get_absorb left snapshot.version id

theorem within_version_update (left : replica.version.isDotted = false)
    (right : snapshot.version.isDotted = false) :
    replica.version.Within (replica.update snapshot).version ∧
      snapshot.version.Within (replica.update snapshot).version := by
  constructor
  · intro id
    rw [get_version_update left right]
    exact Nat.le_max_left _ _
  · intro id
    rw [get_version_update left right]
    exact Nat.le_max_right _ _

/-! ## One pass -/

section Pass

variable {queue : List (Queued (Snapshot σ))}

/-- Each call finds a replica that is not dotted and has seen what the pass began with. -/
theorem found_of_attempt (left : replica.version.isDotted = false)
    (right : ∀ queued ∈ queue, queued.message.version.isDotted = false)
    {attempt : Attempt (Snapshot σ) (StateReplica σ)}
    (isCall : attempt ∈ Inbox.attempts Updatable.update queue replica) :
    attempt.replica.version.isDotted = false ∧
      replica.version.Within attempt.replica.version := by
  induction queue generalizing replica with
  | nil => cases isCall
  | cons first later ih =>
      have firstPlain := right first (.head _)
      rcases List.mem_cons.mp isCall with rfl | isLater
      · exact ⟨left, .refl _⟩
      · obtain ⟨cumulative, within⟩ := ih (isDotted_version_update left firstPlain)
          (fun queued inLater => right queued (.tail _ inLater)) isLater
        exact ⟨cumulative, (within_version_update left firstPlain).1.trans within⟩

/-- What one call offers, every later call finds seen. -/
theorem pairwise_seen (left : replica.version.isDotted = false)
    (right : ∀ queued ∈ queue, queued.message.version.isDotted = false) :
    (Inbox.attempts Updatable.update queue replica).Pairwise fun earlier later =>
      earlier.queued.message.version.Within later.replica.version := by
  induction queue generalizing replica with
  | nil => exact .nil
  | cons first later ih =>
      have firstPlain := right first (.head _)
      have laterPlain : ∀ queued ∈ later, queued.message.version.isDotted = false :=
        fun queued inLater => right queued (.tail _ inLater)
      have next := isDotted_version_update left firstPlain
      refine .cons (fun attempt isLater => ?_) (ih next laterPlain)
      exact (within_version_update left firstPlain).2.trans
        (found_of_attempt next laterPlain isLater).2

/-- After a pass the replica has seen what it had seen before and what was offered, and no more. -/
theorem pass_version (left : replica.version.isDotted = false)
    (right : ∀ queued ∈ queue, queued.message.version.isDotted = false) :
    let final := (Inbox.pass Updatable.update queue replica).1
    final.version.isDotted = false ∧
      (replica.version.Within final.version ∧
        ∀ queued ∈ queue, queued.message.version.Within final.version) ∧
      ∀ bound : ReplicaVector, replica.version.Within bound →
        (∀ queued ∈ queue, queued.message.version.Within bound) → final.version.Within bound := by
  induction queue generalizing replica with
  | nil =>
      exact ⟨left, ⟨.refl _, fun _ absent => by cases absent⟩, fun _ within _ => within⟩
  | cons first later ih =>
      have firstPlain := right first (.head _)
      obtain ⟨cumulative, ⟨kept, offered⟩, least⟩ := ih (isDotted_version_update left firstPlain)
        fun queued inLater => right queued (.tail _ inLater)
      obtain ⟨grown, seen⟩ := within_version_update left firstPlain
      rw [Inbox.pass_cons_of_accepted (accepts replica first.message)]
      refine ⟨cumulative, ⟨grown.trans kept, ?_⟩, fun bound within offeredWithin => ?_⟩
      · exact List.forall_mem_cons.mpr ⟨seen.trans kept, offered⟩
      · refine least bound (fun id => ?_) fun queued inLater => offeredWithin queued (.tail _ inLater)
        rw [get_version_update left firstPlain]
        exact Nat.max_le.mpr ⟨within id, offeredWithin first (.head _) id⟩

end Pass

/-! ## One cycle -/

/-- The updates of an apply cycle in their order, each with the replica as the update finds it. -/
def updates (replica : StateReplica σ) (inbox : Inbox (Snapshot σ)) :
    List (StateReplica σ × Snapshot σ) :=
  (inbox.applyPending (Inbox.recording Updatable.update) (replica, [])).replica.2

theorem attemptsByPass_eq (replica : StateReplica σ) (inbox : Inbox (Snapshot σ)) :
    Inbox.attemptsByPass Updatable.update replica inbox =
      [Inbox.attempts Updatable.update inbox.due replica] := by
  have refused := Inbox.refused_of_accepting accepts inbox.due replica
  refine Inbox.attemptsByPass_of_pass rfl fun progress => ?_
  exact progress.1 refused

theorem updates_eq (replica : StateReplica σ) (inbox : Inbox (Snapshot σ)) :
    updates replica inbox =
      (Inbox.attempts Updatable.update inbox.due replica).map Attempt.call := by
  rw [updates, Inbox.applyPending_recording, attemptsByPass_eq]
  simp only [List.flatten_singleton, List.nil_append]

theorem map_snd_updates (replica : StateReplica σ) (inbox : Inbox (Snapshot σ)) :
    (updates replica inbox).map (·.2) = inbox.due.map (·.message) := by
  have offered := Inbox.map_queued_attempts Updatable.update inbox.due replica
  rw [updates_eq, List.map_map, ← congrArg (List.map (·.message)) offered, List.map_map]
  rfl

theorem applyPending_eq_pass (replica : StateReplica σ) (inbox : Inbox (Snapshot σ)) :
    (inbox.applyPending Updatable.update replica).replica =
      (Inbox.pass Updatable.update inbox.due replica).1 := by
  have refused := Inbox.refused_of_accepting accepts inbox.due replica
  exact (Inbox.applyPending_of_pass rfl fun progress => progress.1 refused).1

/-- The least of the vectors that are not dotted and dominate all of these. -/
structure LeastBound (vectors : List ReplicaVector) (bound : ReplicaVector) : Prop where
  cumulative : bound.isDotted = false
  dominates : ∀ vector ∈ vectors, bound.dominates vector = true
  least : ∀ other : ReplicaVector, other.isDotted = false →
    (∀ vector ∈ vectors, other.dominates vector = true) → other.dominates bound = true

/-- What an apply cycle does with snapshots: it offers each of them once, a newer one before all that
happened before it, and the replica stays as it is when one of those is offered. -/
structure SparesOlder (replica : StateReplica σ) (inbox : Inbox (Snapshot σ)) : Prop where
  offered : ((updates replica inbox).map (·.2)).Perm inbox.messages
  superseded : ∀ {first second : Nat} {found found' : StateReplica σ} {older newer : Snapshot σ},
    (updates replica inbox)[first]? = some (found, older) →
    (updates replica inbox)[second]? = some (found', newer) →
    older.version.happenedBefore newer.version = true →
      second < first ∧ found.update older = found
  emptied : (inbox.applyPending Updatable.update replica).inbox.queue = [] ∧
    (inbox.applyPending Updatable.update replica).inbox.hasPending = false
  version : LeastBound (replica.version :: inbox.messages.map (·.version))
    (inbox.applyPending Updatable.update replica).replica.version

variable {inbox : Inbox (Snapshot σ)}

theorem leastBound_applyPending (left : replica.version.isDotted = false)
    (right : ∀ snapshot ∈ inbox.messages, snapshot.version.isDotted = false) :
    LeastBound (replica.version :: inbox.messages.map (·.version))
      (inbox.applyPending Updatable.update replica).replica.version := by
  have plain : ∀ queued ∈ inbox.due, queued.message.version.isDotted = false := fun queued isDue =>
    right queued.message (List.mem_map_of_mem (Inbox.mem_due.mp isDue))
  rw [applyPending_eq_pass]
  obtain ⟨cumulative, ⟨kept, offered⟩, least⟩ := pass_version left plain
  refine ⟨cumulative, List.forall_mem_cons.mpr ⟨?_, fun vector isVersion => ?_⟩, ?_⟩
  · exact (VersionVector.dominates_iff_within cumulative left).mpr kept
  · obtain ⟨snapshot, isMessage, rfl⟩ := List.mem_map.mp isVersion
    obtain ⟨queued, isQueued, rfl⟩ := List.mem_map.mp isMessage
    exact (VersionVector.dominates_iff_within cumulative (right _ isMessage)).mpr
      (offered queued (Inbox.mem_due.mpr isQueued))
  · intro other otherCumulative above
    obtain ⟨aboveReplica, aboveSnapshots⟩ := List.forall_mem_cons.mp above
    refine (VersionVector.dominates_iff_within otherCumulative cumulative).mpr (least other ?_ ?_)
    · exact (VersionVector.dominates_iff_within otherCumulative left).mp aboveReplica
    · intro queued isDue
      have isMessage : queued.message ∈ inbox.messages :=
        List.mem_map_of_mem (Inbox.mem_due.mp isDue)
      exact (VersionVector.dominates_iff_within otherCumulative (right _ isMessage)).mp
        (aboveSnapshots _ (List.mem_map_of_mem isMessage))

theorem mem_due_of_attempt {attempt : Attempt (Snapshot σ) (StateReplica σ)}
    (isCall : attempt ∈ Inbox.attempts Updatable.update inbox.due replica) :
    attempt.queued ∈ inbox.due :=
  Inbox.map_queued_attempts Updatable.update inbox.due replica ▸ List.mem_map_of_mem isCall

section Lived

variable {received : List (Snapshot σ)}
  (lived : Inbox.Lived .newestFirst (Updatable.update (ρ := StateReplica σ)) received inbox)
  (countable : ∀ queued ∈ inbox.due, queued.message.Countable)

include lived countable

/-- No snapshot is offered before another that it happened before. -/
theorem pairwise_newest_first (replica : StateReplica σ) :
    (Inbox.attempts Updatable.update inbox.due replica).Pairwise fun earlier later =>
      ¬ earlier.queued.message.version.happenedBefore later.queued.message.version = true := by
  have byRank := (lived.servedInTurn replica).byRank
    (Inbox.attempts Updatable.update inbox.due replica) (by rw [attemptsByPass_eq]; exact .head _)
  refine byRank.imp_of_mem fun {earlier later} isEarlier isLater served before => ?_
  have lower := Snapshot.rank_lt_of_happenedBefore (countable _ (mem_due_of_attempt isEarlier))
    (countable _ (mem_due_of_attempt isLater)) before
  simp only [InboxOrder.ServesFirst] at served
  omega

theorem superseded_of_lived (left : replica.version.isDotted = false)
    {first second : Nat} {found found' : StateReplica σ} {older newer : Snapshot σ}
    (atFirst : (updates replica inbox)[first]? = some (found, older))
    (atSecond : (updates replica inbox)[second]? = some (found', newer))
    (before : older.version.happenedBefore newer.version = true) :
    second < first ∧ found.update older = found := by
  have plain : ∀ queued ∈ inbox.due, queued.message.version.isDotted = false :=
    fun queued isDue => (countable queued isDue).cumulative
  -- Each call finds seen what came before it: all depends on the newer one coming first.
  have newestFirst := pairwise_newest_first lived countable replica
  have seen := pairwise_seen left plain
  rw [List.pairwise_iff_getElem] at newestFirst seen
  rw [updates_eq, List.getElem?_map, Option.map_eq_some_iff] at atFirst atSecond
  obtain ⟨call, atFirst, isFirst⟩ := atFirst
  obtain ⟨call', atSecond, isSecond⟩ := atSecond
  obtain ⟨rfl, rfl⟩ := Prod.mk.inj isFirst
  obtain ⟨rfl, rfl⟩ := Prod.mk.inj isSecond
  obtain ⟨firstInRange, rfl⟩ := List.getElem?_eq_some_iff.mp atFirst
  obtain ⟨secondInRange, rfl⟩ := List.getElem?_eq_some_iff.mp atSecond
  have firstCountable := countable _ (mem_due_of_attempt (List.getElem_mem firstInRange))
  have secondCountable := countable _ (mem_due_of_attempt (List.getElem_mem secondInRange))
  have later : second < first := by
    rcases Nat.lt_trichotomy second first with less | rfl | greater
    · exact less
    · have lower := Snapshot.rank_lt_of_happenedBefore firstCountable secondCountable before
      exact absurd lower (Nat.lt_irrefl _)
    · exact absurd before (newestFirst first second firstInRange secondInRange greater)
  have found := found_of_attempt left plain (List.getElem_mem firstInRange)
  have within := ((VersionVector.happenedBefore_iff_within firstCountable.cumulative
    secondCountable.cumulative).mp before).1
  exact ⟨later, update_eq_self_of_within found.1 firstCountable.cumulative
    (within.trans (seen second first secondInRange firstInRange later))⟩

end Lived

/-- Whatever snapshots a replica has received, and in whatever order: if none of the versions is
dotted and the events of each can be counted in a word of 64 bits, then one apply cycle passes over
all that happened before another, and brings the replica just as far as the snapshots tell. -/
theorem newest_snapshot_spares_older {received : List (Snapshot σ)}
    (lived : Inbox.Lived .newestFirst (Updatable.update (ρ := StateReplica σ)) received inbox)
    (cumulative : replica.version.isDotted = false)
    (countable : ∀ snapshot ∈ inbox.messages, snapshot.Countable) : SparesOlder replica inbox where
  offered := by
    rw [map_snd_updates]
    exact inbox.perm_due
  superseded atFirst atSecond before :=
    superseded_of_lived lived
      (fun _ isDue => countable _ (List.mem_map_of_mem (Inbox.mem_due.mp isDue))) cumulative atFirst
      atSecond before
  emptied := by
    have emptied : (inbox.applyPending Updatable.update replica).inbox.queue = [] :=
      Inbox.queue_applyPending_of_pass (Inbox.refused_of_accepting accepts inbox.due replica)
    have settled : (inbox.applyPending Updatable.update replica).inbox.applying = 0 := by
      rw [Inbox.inbox_applyPending]
      exact (lived.servedInTurn replica).idle
    refine ⟨emptied, ?_⟩
    rw [Inbox.hasPending, emptied, settled]
    rfl
  version := leastBound_applyPending cumulative fun snapshot isMessage =>
    (countable snapshot isMessage).cumulative

/-- Two snapshots of one replica arrive in the order in which they were made, and between them one of
another replica. The newer is applied first, and the older is passed over. -/
theorem newer_snapshot_is_applied_first :
    let snapshot (id : ReplicaId) (clock : Clock 64) : Snapshot GrowCounter :=
      ⟨id, .ofList [(id, clock)], ⟨.ofList [(id, clock)]⟩⟩
    let older := snapshot ⟨1⟩ ⟨1, by decide⟩
    let newer := snapshot ⟨1⟩ ⟨2, by decide⟩
    let elsewhere := snapshot ⟨2⟩ ⟨1, by decide⟩
    ∃ (replica : StateReplica GrowCounter) (inbox : Inbox (Snapshot GrowCounter)),
      Inbox.Lived .newestFirst (Updatable.update (ρ := StateReplica GrowCounter))
        [older, elsewhere, newer] inbox ∧
      (updates replica inbox).map (·.2) = [newer, older, elsewhere] ∧
      (∀ found found', (updates replica inbox)[1]? = some (found, older) →
        (updates replica inbox)[0]? = some (found', newer) → found.update older = found) ∧
      (inbox.applyPending Updatable.update replica).replica.version.dominates
        newer.version = true := by
  intro snapshot older newer elsewhere
  let replica : StateReplica GrowCounter := .ofState ⟨3⟩ ∅ default
  let inbox : Inbox (Snapshot GrowCounter) :=
    ⟨[⟨1, 0, older⟩, ⟨1, 1, elsewhere⟩, ⟨2, 2, newer⟩], 3, 0⟩
  have lived : Inbox.Lived .newestFirst (Updatable.update (ρ := StateReplica GrowCounter))
      [older, elsewhere, newer] inbox :=
    ((Inbox.Lived.empty.receive older).receive elsewhere).receive newer
  have due : inbox.due = [⟨2, 2, newer⟩, ⟨1, 0, older⟩, ⟨1, 1, elsewhere⟩] := by cbv
  have offered : (updates replica inbox).map (·.2) = [newer, older, elsewhere] := by
    rw [map_snd_updates, due]
    rfl
  have countable : ∀ snapshot ∈ inbox.messages, snapshot.Countable := by
    intro message isMessage
    simp only [inbox, Inbox.messages, List.map_cons, List.map_nil, List.mem_cons,
      List.not_mem_nil, or_false] at isMessage
    rcases isMessage with rfl | rfl | rfl <;> exact ⟨rfl, by decide⟩
  have spares : SparesOlder replica inbox := newest_snapshot_spares_older lived rfl countable
  refine ⟨replica, inbox, lived, offered, fun found found' atFirst atSecond => ?_, ?_⟩
  · exact (spares.superseded atFirst atSecond (by decide)).2
  · exact spares.version.dominates _ (.tail _ (.tail _ (.tail _ (.head _))))

end StateReplica

end Confluence

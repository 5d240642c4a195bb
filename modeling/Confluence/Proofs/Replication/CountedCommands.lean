import Confluence.Proofs.Replication.VersionGate
import Confluence.Proofs.State.CounterValues

/-!
Replicated counters count every command once. The vectors of a counter and the version of its
replica are merged apart from each other, each by maxima, which do not preserve sums. Yet all of
them tell of one history: the version says how many commands of each replica are covered, and the
counter how many of these were increments, and how many decrements.
-/

set_option autoImplicit false

namespace Confluence

namespace CommandLog

variable {κ : Type}

/-- The commands that a version covers: of every replica the first, as many as it counts. -/
def covered (log : CommandLog κ) (version : ReplicaVector) : List κ :=
  version.ids.elements.flatMap (log.upTo version.get)

variable {log : CommandLog κ} {version : ReplicaVector}

theorem length_upTo (within : ∀ id, version.get id ≤ (log id).length) (id : ReplicaId) :
    (log.upTo version.get id).length = version.get id :=
  List.length_take_of_le (within id)

theorem length_covered (within : ∀ id, version.get id ≤ (log id).length) :
    (log.covered version).length = version.events := by
  rw [covered, List.length_flatMap, ← version.sum_get_ids]
  exact congrArg List.sum (List.map_congr_left fun id _ => length_upTo within id)

end CommandLog

namespace CountsOf

variable {κ : Type} [DecidableEq κ] {command : κ} {log : CommandLog κ}
  {version counts : ReplicaVector}

theorem events_eq (counted : CountsOf command (log.upTo version.get) counts) :
    counts.events = (log.covered version).count command := by
  have covers : ∀ id, 0 < counts.get id → id ∈ version.ids := by
    intro id positive
    rw [counted.count, List.count_pos_iff] at positive
    have within := List.length_take_le (version.get id) (log id)
    exact VersionVector.mem_ids_of_get_pos
      (Nat.lt_of_lt_of_le (List.length_pos_of_mem positive) within)
  rw [← VersionVector.sum_get covers, CommandLog.covered, List.count_flatMap]
  exact congrArg List.sum (List.map_congr_left fun id _ => counted.count id)

/-- What is counted is among the covered commands. -/
theorem events_lt (counted : CountsOf command (log.upTo version.get) counts)
    (within : ∀ id, version.get id ≤ (log id).length) (few : version.size < Word.size 63) :
    counts.events < Word.size 127 := by
  have atMost : (log.covered version).count command ≤ (log.covered version).length :=
    List.count_le_length
  rw [CommandLog.length_covered within, ← counted.events_eq] at atMost
  exact Nat.lt_of_le_of_lt atMost (VersionVector.events_lt few)

end CountsOf

/-! ## What a counter shows beside a version -/

/-- The counter counts every command that the version covers once. Its value can be held against
that only as long as memory can hold the version: fewer than `2 ^ 63` entries. -/
structure GrowCounter.CountsOnce (log : CommandLog GrowCounter.Command) (version : ReplicaVector)
    (counter : GrowCounter) : Prop where
  carriedOut : ∀ id, version.get id ≤ (log id).length
  increments : ∀ id,
    counter.counts.get id = ((log id).take (version.get id)).count .increment
  all : ∀ id, counter.counts.get id = version.get id
  value : version.size < Word.size 63 →
    counter.value = Word.saturate 64 ((log.covered version).count .increment)

/-- The counter counts every command that the version covers once, among the increments or among
the decrements. Its value can be held against that only as long as memory can hold the version:
fewer than `2 ^ 63` entries. -/
structure SignedCounter.CountsOnce (log : CommandLog SignedCounter.Command)
    (version : ReplicaVector) (counter : SignedCounter) : Prop where
  carriedOut : ∀ id, version.get id ≤ (log id).length
  increments : ∀ id,
    counter.increments.get id = ((log id).take (version.get id)).count .increment
  decrements : ∀ id,
    counter.decrements.get id = ((log id).take (version.get id)).count .decrement
  all : ∀ id, counter.increments.get id + counter.decrements.get id = version.get id
  value : version.size < Word.size 63 → counter.value = Word.saturateSigned 64
    ((log.covered version).count .increment - (log.covered version).count .decrement)

theorem GrowCounter.Command.count_eq_length (commands : List GrowCounter.Command) :
    commands.count .increment = commands.length := by
  refine List.count_eq_length.mpr ?_
  intro command _
  cases command with
  | increment => rfl

theorem SignedCounter.Command.count_add_count (commands : List SignedCounter.Command) :
    commands.count .increment + commands.count .decrement = commands.length := by
  induction commands with
  | nil => rfl
  | cons first later ih =>
      cases first with
      | increment =>
          rw [List.count_cons_self, List.count_cons_of_ne (by decide), List.length_cons]
          omega
      | decrement =>
          rw [List.count_cons_self, List.count_cons_of_ne (by decide), List.length_cons]
          omega

theorem GrowCounter.countsOnce_of_tallies {log : CommandLog GrowCounter.Command}
    {version : ReplicaVector} {counter : GrowCounter}
    (within : ∀ id, version.get id ≤ (log id).length)
    (tallied : Tally.Tallies (log.upTo version.get) counter) :
    counter.CountsOnce log version := by
  have counted : CountsOf GrowCounter.Command.increment (log.upTo version.get) counter.counts :=
    tallied
  refine ⟨within, counted.count, ?_, ?_⟩
  · intro id
    rw [counted.count, GrowCounter.Command.count_eq_length, CommandLog.length_upTo within]
  · intro few
    have wider : Word.size 127 < Word.size 128 := by decide
    have fits := Nat.lt_trans (counted.events_lt within few) wider
    rw [GrowCounter.value_eq fits, counted.events_eq]

theorem SignedCounter.countsOnce_of_tallies {log : CommandLog SignedCounter.Command}
    {version : ReplicaVector} {counter : SignedCounter}
    (within : ∀ id, version.get id ≤ (log id).length)
    (tallied : Tally.Tallies (log.upTo version.get) counter) :
    counter.CountsOnce log version := by
  obtain ⟨increments, decrements⟩ :
      CountsOf SignedCounter.Command.increment (log.upTo version.get) counter.increments ∧
        CountsOf SignedCounter.Command.decrement (log.upTo version.get) counter.decrements :=
    tallied
  refine ⟨within, increments.count, decrements.count, ?_, ?_⟩
  · intro id
    rw [increments.count, decrements.count, SignedCounter.Command.count_add_count,
      CommandLog.length_upTo within]
  · intro few
    have unclipped := SignedCounter.unclipped (increments.events_lt within few)
      (decrements.events_lt within few)
    rw [unclipped.value_eq, SignedCounter.difference, increments.events_eq, decrements.events_eq]
    rfl

/-! ## Runs -/

open StateReplica

/-- In every run of replicated counters, whichever snapshots they hear of and how often, each
replica counts every command that its version covers once. -/
theorem replicated_counters_count_every_command_once :
    (∀ {run : Run GrowCounter GrowCounter.Command}, Reachable run → ∀ {id replica},
      run.gossip.participants.get? id = some replica →
        replica.state.CountsOnce run.log replica.version) ∧
    (∀ {run : Run SignedCounter SignedCounter.Command}, Reachable run → ∀ {id replica},
      run.gossip.participants.get? id = some replica →
        replica.state.CountsOnce run.log replica.version) := by
  constructor
  · intro run reached id replica found
    have held := reached.consistent.held id replica found
    exact GrowCounter.countsOnce_of_tallies held.covered held.tallied
  · intro run reached id replica found
    have held := reached.consistent.held id replica found
    exact SignedCounter.countsOnce_of_tallies held.covered held.tallied

/-- Two replicas count up and down; a third hears of one of them twice, late, and of the other only
through it. -/
theorem relayed_counts_are_exact :
    (∃ (run : Run GrowCounter GrowCounter.Command) (replica : StateReplica GrowCounter),
      Reachable run ∧ run.gossip.participants.get? ⟨2⟩ = some replica ∧
        replica.version.size < Word.size 63 ∧ replica.state.value = 2 ∧
        replica.state.CountsOnce run.log replica.version) ∧
    ∃ (run : Run SignedCounter SignedCounter.Command) (replica : StateReplica SignedCounter),
      Reachable run ∧ run.gossip.participants.get? ⟨3⟩ = some replica ∧
        replica.version.size < Word.size 63 ∧ replica.state.value = -1 ∧
        (run.log.covered replica.version).count .increment = 1 ∧
        (run.log.covered replica.version).count .decrement = 2 ∧
        replica.state.CountsOnce run.log replica.version := by
  constructor
  · have run : ∃ (run : Run GrowCounter GrowCounter.Command) (replica : StateReplica GrowCounter),
        Reachable run ∧ run.gossip.participants.get? ⟨2⟩ = some replica ∧
          replica.version.size < Word.size 63 ∧ replica.state.value = 2 := by
      have begun : Reachable (_ : Run GrowCounter GrowCounter.Command) := .fresh [⟨1⟩, ⟨2⟩]
      have counted := begun.step (.issue ⟨1⟩ .increment rfl rfl)
      have apart := counted.step (.issue ⟨2⟩ .increment rfl rfl)
      have reached := apart.step (.update ⟨2⟩ _ rfl (.head _))
      exact ⟨_, _, reached, rfl, by decide, rfl⟩
    obtain ⟨run, replica, reached, found, few, value⟩ := run
    exact ⟨run, replica, reached, found, few, value,
      replicated_counters_count_every_command_once.1 reached found⟩
  · have run : ∃ (run : Run SignedCounter SignedCounter.Command)
        (replica : StateReplica SignedCounter),
        Reachable run ∧ run.gossip.participants.get? ⟨3⟩ = some replica ∧
          replica.version.size < Word.size 63 ∧ replica.state.value = -1 ∧
          (run.log.covered replica.version).count .increment = 1 ∧
          (run.log.covered replica.version).count .decrement = 2 := by
      have begun : Reachable (_ : Run SignedCounter SignedCounter.Command) :=
        .fresh [⟨1⟩, ⟨2⟩, ⟨3⟩]
      have up := begun.step (.issue ⟨1⟩ .increment rfl rfl)
      have down := up.step (.issue ⟨1⟩ .decrement rfl rfl)
      have relayed := down.step (.update ⟨2⟩ _ rfl (.tail _ (.head _)))
      have further := relayed.step (.issue ⟨2⟩ .decrement rfl rfl)
      have heard := further.step (.update ⟨3⟩ _ rfl (.tail _ (.tail _ (.head _))))
      have stale := heard.step (.update ⟨3⟩ _ rfl (.head _))
      have reached := stale.step (.update ⟨3⟩ _ rfl (.tail _ (.head _)))
      exact ⟨_, _, reached, rfl, by decide, rfl, rfl, rfl⟩
    obtain ⟨run, replica, reached, found, few, value, increments, decrements⟩ := run
    exact ⟨run, replica, reached, found, few, value, increments, decrements,
      replicated_counters_count_every_command_once.2 reached found⟩

end Confluence

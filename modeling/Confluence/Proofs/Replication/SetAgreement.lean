import Confluence.Proofs.Replication.ExactlyOnce
import Confluence.Proofs.Replication.VersionGate

/-!
The two disciplines of replicated sets. One replica applies a stream of operations, the other merges
whole states, and neither has to hear of operations in an order that respects their causes. Yet what
a replica holds depends only on the accepted operations that its version covers: the elements that
they added, and the elements that they removed, which win.
-/

set_option autoImplicit false

namespace Confluence

/-- What the state of a set tells about elements: which were added, which were removed, and which
are live. -/
structure SetView (σ α : Type) [Ord α] where
  added : σ → OrderedSet α
  removed : σ → OrderedSet α
  live : σ → OrderedSet α
  contains : σ → α → Bool

namespace SetView

section Insertion

variable {σ α : Type} [Ord α] [Diagnostic α] (view : SetView σ α)

/-- Refuses to add elements of which some were removed, and names all of those. -/
def checkInsertable (state : σ) (elements : List α) : Except StateError Unit :=
  match elements.filter (view.removed state).contains with
  | [] => .ok ()
  | rejected => .error (.insertionOfRemoved (rejected.map diagnostic))

variable [Std.LawfulEqOrd α]

theorem checkInsertable_eq_error_iff {state : σ} {elements : List α} {cause : StateError} :
    view.checkInsertable state elements = .error cause ↔
      (∃ element ∈ elements, element ∈ view.removed state) ∧ cause = .insertionOfRemoved
        ((elements.filter (view.removed state).contains).map diagnostic) := by
  unfold checkInsertable
  cases rejected : elements.filter (view.removed state).contains with
  | nil =>
      have nothing := List.filter_eq_nil_iff.mp rejected
      constructor
      · intro absent
        cases absent
      · rintro ⟨⟨element, isListed, isRemoved⟩, _⟩
        exact absurd (OrderedSet.contains_iff.mpr isRemoved) (nothing element isListed)
  | cons first later =>
      have isRejected : first ∈ elements.filter (view.removed state).contains :=
        rejected ▸ List.mem_cons_self
      obtain ⟨isListed, isRemoved⟩ := List.mem_filter.mp isRejected
      constructor
      · intro same
        cases same
        exact ⟨⟨first, isListed, OrderedSet.contains_iff.mp isRemoved⟩, rfl⟩
      · rintro ⟨_, rfl⟩
        rfl

end Insertion

variable {σ α : Type} [Ord α] [Diagnostic α] [Inhabited σ] [Convergent σ]
  [LocalCommand σ (SetOperation α)] [Operational σ (SetOperation α)] [Tally σ (SetOperation α)]

/-- Both disciplines of a type of sets, one operation at a time. An operation is performed where it
is prepared and applied; elsewhere it is applied without being prepared, and recorded all the
same. -/
structure Lawful (view : SetView σ α) : Prop where
  perform_eq : ∀ id operation (state : σ), LocalCommand.perform id operation state =
    (Operational.prepare state operation).map fun _ => Operational.apply state operation
  prepare_add : ∀ (state : σ) elements,
    Operational.prepare state (.add elements) = view.checkInsertable state elements
  tallies_apply : ∀ {log : CommandLog (SetOperation α)} {state : σ}, Tally.Tallies log state →
    ∀ id operation, Tally.Tallies (log.record id operation) (Operational.apply state operation)
  added_of : ∀ {log : CommandLog (SetOperation α)} {state : σ}, Tally.Tallies log state →
    ElementsOf SetOperation.additions log (view.added state)
  removed_of : ∀ {log : CommandLog (SetOperation α)} {state : σ}, Tally.Tallies log state →
    (∀ origin, ∀ operation ∈ log origin, ∃ earlier : σ,
      Operational.prepare earlier operation = .ok ()) →
    ElementsOf SetOperation.removals log (view.removed state)
  ext : ∀ {left right : σ}, view.added left = view.added right →
    view.removed left = view.removed right → left = right
  mem_live : ∀ {state : σ} {element : α}, element ∈ view.live state ↔
    element ∈ view.added state ∧ element ∉ view.removed state
  contains_iff : ∀ {state : σ} {element : α}, view.contains state element = true ↔
    element ∈ view.live state

end SetView

section Views

variable (α : Type) [Ord α] [Std.TransOrd α] [Std.LawfulEqOrd α] [Diagnostic α]

/-- Nothing is ever removed from a grow-only set. -/
def GrowSet.view : SetView (GrowSet α) α :=
  ⟨GrowSet.elements, fun _ => ∅, GrowSet.elements, GrowSet.contains⟩

def TwoPhaseSet.view : SetView (TwoPhaseSet α) α :=
  ⟨TwoPhaseSet.added, TwoPhaseSet.removed, TwoPhaseSet.live, TwoPhaseSet.contains⟩

theorem GrowSet.lawful_view : (GrowSet.view α).Lawful where
  perform_eq id operation set := by
    cases operation with
    | add elements => rfl
    | remove elements => rfl
  prepare_add set elements := by
    have nothing : elements.filter (∅ : OrderedSet α).contains = [] :=
      List.filter_eq_nil_iff.mpr fun element _ contained =>
        OrderedSet.not_mem_empty element (OrderedSet.contains_iff.mp contained)
    simp only [SetView.checkInsertable, view, nothing]
    rfl
  tallies_apply {log set} tallied id operation := by
    have added := tallied.record id operation
    cases operation with
    | add elements => exact added
    | remove elements => exact added
  added_of tallied := tallied
  removed_of {log set} _ accepted element := by
    constructor
    · intro absent
      exact absurd absent (OrderedSet.not_mem_empty element)
    · rintro ⟨origin, operation, isLogged, isNamed⟩
      obtain ⟨earlier, prepared⟩ := accepted origin operation isLogged
      cases operation with
      | add elements => cases isNamed
      | remove elements => cases prepared
  ext {left right} sameAdded _ := by
    cases left
    cases right
    exact congrArg GrowSet.mk sameAdded
  mem_live {set element} := (and_iff_left (OrderedSet.not_mem_empty element)).symm
  contains_iff := OrderedSet.contains_iff

theorem TwoPhaseSet.lawful_view : (TwoPhaseSet.view α).Lawful where
  perform_eq id operation set := by
    cases operation with
    | add elements => rfl
    | remove elements => rfl
  prepare_add set elements := rfl
  tallies_apply {log set} tallied id operation := by
    have added := tallied.1.record id operation
    have removed := tallied.2.record id operation
    cases operation with
    | add elements => exact ⟨added, removed⟩
    | remove elements => exact ⟨added, removed⟩
  added_of tallied := tallied.1
  removed_of tallied _ := tallied.2
  ext {left right} sameAdded sameRemoved := by
    obtain ⟨added, removed⟩ := left
    obtain ⟨added', removed'⟩ := right
    cases sameAdded
    cases sameRemoved
    rfl
  mem_live := OrderedSet.mem_difference
  contains_iff {set element} := by
    refine Iff.trans ?_ OrderedSet.mem_difference.symm
    change (set.added.contains element && !set.removed.contains element) = true ↔ _
    rw [Bool.and_eq_true, Bool.not_eq_true', Bool.eq_false_iff, Ne, OrderedSet.contains_iff,
      OrderedSet.contains_iff]

end Views

/-! ## Runs of operation-based replicas -/

section Operations

variable {ω : Type}

/-- The operations that every replica has issued, oldest first. -/
def operationLog (messages : List (OperationMessage ω)) : CommandLog ω :=
  fun origin => (messagesFrom origin messages).map (·.operation)

theorem operationLog_append (messages : List (OperationMessage ω)) (message : OperationMessage ω) :
    operationLog (messages ++ [message]) =
      (operationLog messages).record message.dot.id message.operation := by
  funext origin
  by_cases same : origin = message.dot.id
  · subst same
    rw [CommandLog.record_self, operationLog, messagesFrom_append_self, List.map_append]
    rfl
  · rw [CommandLog.record_of_ne _ _ same, operationLog, messagesFrom_append_of_ne _ same]
    rfl

/-- The operation numbered `k` of an origin is among its first `n` operations if `k ≤ n`. -/
theorem mem_operationLog_upTo_iff {issued : List (OperationMessage ω)} (numbered : Numbered issued)
    {counts : ReplicaId → Nat} {origin : ReplicaId} {operation : ω} :
    operation ∈ (operationLog issued).upTo counts origin ↔
      ∃ message ∈ issued, message.dot.id = origin ∧
        message.dot.clock.value ≤ counts origin ∧ message.operation = operation := by
  rw [CommandLog.upTo, operationLog, ← List.map_take, List.mem_map]
  constructor
  · rintro ⟨message, isTaken, same⟩
    obtain ⟨isIssued, from_origin⟩ := mem_messagesFrom.mp (List.mem_of_mem_take isTaken)
    obtain ⟨place, found⟩ := List.mem_iff_getElem?.mp isTaken
    rw [List.getElem?_take] at found
    split at found
    next inside =>
      have number := numbered.clock_of_getElem? found
      exact ⟨message, isIssued, from_origin, by omega, same⟩
    next => cases found
  · rintro ⟨message, isIssued, rfl, within, same⟩
    obtain ⟨place, found, number⟩ := numbered.getElem?_of_mem isIssued
    have inside : place < counts message.dot.id := by omega
    refine ⟨message, List.mem_iff_getElem?.mpr ⟨place, ?_⟩, same⟩
    rw [List.getElem?_take_of_lt inside, found]

namespace OperationReplica

variable {σ : Type} [Operational σ ω] {start : σ} {replica : OperationReplica σ}

/-- Why a submission is refused: the operation is, or all events of the replica are used up. -/
theorem submit_eq_error_iff {operation : ω} {cause : StateError} :
    replica.submit operation = .error cause ↔
      Operational.prepare replica.state operation = .error cause ∨
        Operational.prepare replica.state operation = .ok () ∧ cause = .clockOverflow ∧
          replica.version.get replica.history.owner = Word.size 64 - 1 := by
  rw [VersionVector.get, ← Clock.increment_eq_error_iff]
  unfold submit OwnedVector.increment VersionVector.increment version
  cases Operational.prepare replica.state operation with
  | error refusal => simp [bind, Except.bind]
  | ok _ =>
      cases (replica.history.vector.clock replica.history.owner).increment <;>
        simp [bind, Except.bind, Except.map]

/-- A replica can use up its events with an operation that leaves its state as it is. -/
theorem Reachable.spend {gossip : Gossip (OperationReplica σ) (OperationMessage ω)} {count : Nat}
    (reached : Reachable start gossip) (id : ReplicaId) (operation : ω)
    (found : gossip.participants.get? id = some replica)
    (accepted : Operational.prepare replica.state operation = .ok ())
    (same : Operational.apply replica.state operation = replica.state)
    (behind : replica.version.get id ≤ count) (fits : count < Word.size 64) :
    ∃ later spent, Reachable start later ∧ later.participants.get? id = some spent ∧
      spent.state = replica.state ∧ spent.version.get id = count := by
  induction behind with
  | refl => exact ⟨gossip, replica, reached, found, rfl, rfl⟩
  | @step count _ ih =>
      obtain ⟨later, spent, reachedLater, present, sameState, counted⟩ :=
        ih (Nat.lt_of_succ_lt fits)
      have faithful := reachedLater.consistent.faithful id spent present
      have owner : spent.history.owner = id := faithful.reflects.owned.trans faithful.named
      cases done : spent.submit operation with
      | error cause =>
          rcases submit_eq_error_iff.mp done with refused | ⟨_, _, full⟩
          · rw [sameState, accepted] at refused
            cases refused
          · rw [owner, counted] at full
            omega
      | ok result =>
          obtain ⟨vector, advanced, changed, _⟩ := submit_eq_ok done
          refine ⟨_, result.1, reachedLater.step (.submit id operation present done), ?_, ?_, ?_⟩
          · rw [Gossip.advance, OrderedMap.get?_insert_self]
          · rw [changed, ← same, ← sameState]
          · rw [owner] at advanced
            rw [changed, version, VersionVector.get_increment_self advanced, counted]

/-- What was sent had been accepted by the replica that sent it. -/
theorem Reachable.accepted {gossip : Gossip (OperationReplica σ) (OperationMessage ω)}
    (reached : Reachable start gossip) :
    ∀ message ∈ gossip.said, ∃ state : σ, Operational.prepare state message.operation = .ok () := by
  induction reached with
  | fresh ids => exact fun message absent => by cases absent
  | step _ step ih =>
      intro message isSaid
      cases step with
      | submit id operation found done =>
          rcases List.mem_append.mp isSaid with earlier | new
          · exact ih message earlier
          · obtain ⟨_, _, _, rfl⟩ := submit_eq_ok done
            obtain ⟨_, prepared, _⟩ := Outcome.bind_eq_ok done
            rw [List.mem_singleton.mp new]
            exact ⟨_, prepared⟩
      | update id sent found isSent =>
          rcases List.mem_append.mp isSaid with earlier | absent
          · exact ih message earlier
          · cases absent

end OperationReplica

end Operations

/-! ## Runs of state-based replicas -/

namespace StateReplica

variable {σ κ : Type} [LocalCommand σ κ] {replica : StateReplica σ}

theorem issue_eq_error_iff {command : κ} {cause : StateError} :
    replica.issue command = .error cause ↔
      (cause = .clockOverflow ∧
        replica.version.get replica.history.owner = Word.size 64 - 1) ∨
      replica.version.get replica.history.owner ≠ Word.size 64 - 1 ∧
        LocalCommand.perform replica.id command replica.state = .error cause := by
  unfold issue mutate OwnedVector.increment VersionVector.increment version
  cases counted : (replica.history.vector.clock replica.history.owner).increment with
  | error overflow =>
      obtain ⟨rfl, full⟩ := Clock.increment_eq_error_iff.mp counted
      rw [VersionVector.get, full]
      simp [bind, Except.bind, Except.map, eq_comm]
  | ok clock =>
      have room : replica.history.vector.get replica.history.owner ≠ Word.size 64 - 1 := by
        intro full
        rw [Clock.increment_eq_error_iff.mpr ⟨rfl, full⟩] at counted
        cases counted
      cases LocalCommand.perform replica.id command replica.state <;>
        simp [bind, Except.bind, Except.map, room]

/-- A replica can use up its events with a command that leaves its state as it is. -/
theorem Reachable.spend [Convergent σ] [Inhabited σ] [Tally σ κ] {run : Run σ κ} {count : Nat}
    (reached : Reachable run) (id : ReplicaId) (command : κ)
    (found : run.gossip.participants.get? id = some replica)
    (same : LocalCommand.perform id command replica.state = .ok replica.state)
    (behind : replica.version.get id ≤ count) (fits : count < Word.size 64) :
    ∃ later spent, Reachable later ∧ later.gossip.participants.get? id = some spent ∧
      spent.state = replica.state ∧ spent.version.get id = count := by
  induction behind with
  | refl => exact ⟨run, replica, reached, found, rfl, rfl⟩
  | @step count _ ih =>
      obtain ⟨later, spent, reachedLater, present, sameState, counted⟩ :=
        ih (Nat.lt_of_succ_lt fits)
      obtain ⟨named, owner⟩ := reachedLater.consistent.owned id spent present
      cases done : spent.issue command with
      | error cause =>
          rcases issue_eq_error_iff.mp done with ⟨_, full⟩ | ⟨_, refused⟩
          · rw [owner, counted] at full
            omega
          · rw [named, sameState, same] at refused
            cases refused
      | ok result =>
          obtain ⟨vector, state, advanced, performed, changed, _⟩ := mutate_eq_ok done
          refine ⟨_, result.1, reachedLater.step (.issue id command present done), ?_, ?_, ?_⟩
          · rw [Gossip.advance, OrderedMap.get?_insert_self]
          · rw [named, sameState, same] at performed
            cases performed
            rw [changed]
          · rw [owner] at advanced
            rw [changed, version, VersionVector.get_increment_self advanced, counted]

/-- What is on record had been performed by the replica that was given it. -/
theorem Reachable.performed [Convergent σ] [Inhabited σ] {run : Run σ κ}
    (reached : Reachable run) : ∀ origin, ∀ command ∈ run.log origin,
      ∃ id, ∃ state changed : σ, LocalCommand.perform id command state = .ok changed := by
  induction reached with
  | fresh ids => exact fun origin command absent => by cases absent
  | step _ step ih =>
      intro origin member isLogged
      cases step with
      | issue id command found done =>
          rcases CommandLog.mem_record.mp isLogged with earlier | ⟨_, rfl⟩
          · exact ih origin member earlier
          · obtain ⟨_, _, _, accepted, _⟩ := mutate_eq_ok done
            exact ⟨_, _, _, accepted⟩
      | observe id found => exact ih origin member isLogged
      | update id snapshot found isSent => exact ih origin member isLogged

end StateReplica

/-! ## What replicas of either discipline hold -/

section Held

variable {σ α : Type} [Ord α] [Diagnostic α] [Inhabited σ] [Convergent σ]
  [LocalCommand σ (SetOperation α)] [Operational σ (SetOperation α)]

/-- A state that a replica holds at some moment of a run that began with empty replicas, beside the
accepted operations that the version of the replica covers: of each origin as many as the version
counts. -/
inductive Held : CommandLog (SetOperation α) → σ → Prop where
  | byOperations {gossip id replica} : OperationReplica.Reachable (default : σ) gossip →
      gossip.participants.get? id = some replica →
      Held ((operationLog gossip.said).upTo replica.version.get) replica.state
  | bySnapshots {run id replica} : StateReplica.Reachable run →
      run.gossip.participants.get? id = some replica →
      Held (run.log.upTo replica.version.get) replica.state

variable [Tally σ (SetOperation α)] {view : SetView σ α}
  {covered : CommandLog (SetOperation α)} {state : σ}

namespace SetView.Lawful

theorem tallies_replay (lawful : view.Lawful)
    {earlier : List (OperationMessage (SetOperation α))}
    (tallied : Tally.Tallies (operationLog earlier) state)
    (later : List (OperationMessage (SetOperation α))) :
    Tally.Tallies (operationLog (earlier ++ later)) (replay state later) := by
  induction later generalizing earlier state with
  | nil =>
      rw [List.append_nil]
      exact tallied
  | cons message later ih =>
      have next := lawful.tallies_apply tallied message.dot.id message.operation
      rw [← operationLog_append] at next
      rw [List.append_cons]
      exact ih next

theorem tallied (lawful : view.Lawful) (held : Held covered state) :
    Tally.Tallies covered state := by
  cases held with
  | @byOperations gossip id replica reached found =>
      have faithful := reached.consistent.faithful id replica found
      obtain ⟨applied, replayed, taken⟩ := faithful.reflects.applied
      have same : operationLog applied = (operationLog gossip.said).upTo replica.version.get := by
        funext origin
        rw [operationLog, taken origin, List.map_take]
        rfl
      have begun : Tally.Tallies (operationLog []) (default : σ) := Tally.tallies_default
      rw [replayed, ← same]
      exact lawful.tallies_replay begun applied
  | bySnapshots reached found => exact (reached.consistent.held _ _ found).tallied

theorem accepted (lawful : view.Lawful) (held : Held covered state) :
    ∀ origin, ∀ operation ∈ covered origin,
      ∃ earlier : σ, Operational.prepare earlier operation = .ok () := by
  intro origin operation isCovered
  cases held with
  | byOperations reached found =>
      obtain ⟨message, isMessage, rfl⟩ := List.mem_map.mp (List.mem_of_mem_take isCovered)
      exact reached.accepted message (mem_messagesFrom.mp isMessage).1
  | bySnapshots reached found =>
      obtain ⟨id, earlier, changed, performed⟩ :=
        reached.performed origin operation (List.mem_of_mem_take isCovered)
      rw [lawful.perform_eq] at performed
      obtain ⟨_, prepared, _⟩ := Outcome.map_eq_ok performed
      exact ⟨earlier, prepared⟩

end SetView.Lawful

/-- Some operation of the log names the element. -/
def CommandLog.Names (named : SetOperation α → List α) (log : CommandLog (SetOperation α))
    (element : α) : Prop :=
  ∃ origin, ∃ operation ∈ log origin, element ∈ named operation

omit [Ord α] [Diagnostic α] in
theorem CommandLog.names_congr {first second : CommandLog (SetOperation α)}
    (same : ∀ operation, (∃ origin, operation ∈ first origin) ↔
      ∃ origin, operation ∈ second origin)
    (named : SetOperation α → List α) (element : α) :
    first.Names named element ↔ second.Names named element := by
  constructor
  · rintro ⟨origin, operation, isLogged, isNamed⟩
    obtain ⟨other, isLogged⟩ := (same operation).mp ⟨origin, isLogged⟩
    exact ⟨other, operation, isLogged, isNamed⟩
  · rintro ⟨origin, operation, isLogged, isNamed⟩
    obtain ⟨other, isLogged⟩ := (same operation).mpr ⟨origin, isLogged⟩
    exact ⟨other, operation, isLogged, isNamed⟩

/-- The disciplines implement the same sets, in which removals win. What was added and removed is
what the covered operations name, so states that cover the same operations are equal, whatever the
discipline. An operation is covered if its number is within the version. Where it is issued, an
operation is refused alike by both disciplines: an addition if it names an element that some covered
operation has removed, and anything at all if the replica has used up its events, which only the
order of the two checks tells apart. -/
structure DisciplinesAgree (view : SetView σ α) : Prop where
  numbered : ∀ {gossip : Gossip (OperationReplica σ) (OperationMessage (SetOperation α))},
    OperationReplica.Reachable (default : σ) gossip → ∀ {counts origin operation},
      operation ∈ (operationLog gossip.said).upTo counts origin ↔
        ∃ message ∈ gossip.said, message.dot.id = origin ∧
          message.dot.clock.value ≤ counts origin ∧ message.operation = operation
  added : ∀ {covered} {state : σ}, Held covered state → ∀ element,
    element ∈ view.added state ↔ covered.Names SetOperation.additions element
  removed : ∀ {covered} {state : σ}, Held covered state → ∀ element,
    element ∈ view.removed state ↔ covered.Names SetOperation.removals element
  live : ∀ {covered} {state : σ}, Held covered state → ∀ element,
    element ∈ view.live state ↔ covered.Names SetOperation.additions element ∧
      ¬ covered.Names SetOperation.removals element
  contains_iff : ∀ {state : σ} {element}, view.contains state element = true ↔
    element ∈ view.live state
  equal : ∀ {first second} {left right : σ}, Held first left → Held second right →
    (∀ operation, (∃ origin, operation ∈ first origin) ↔ ∃ origin, operation ∈ second origin) →
      left = right
  refused : ∀ {covered} {state : σ}, Held covered state → ∀ elements cause,
    Operational.prepare state (.add elements) = .error cause ↔
      (∃ element ∈ elements, covered.Names SetOperation.removals element) ∧
        cause = .insertionOfRemoved
          ((elements.filter (view.removed state).contains).map diagnostic)
  performed : ∀ id operation (state : σ), LocalCommand.perform id operation state =
    (Operational.prepare state operation).map fun _ => Operational.apply state operation
  submitted : ∀ {gossip id} {replica : OperationReplica σ},
    OperationReplica.Reachable (default : σ) gossip →
    gossip.participants.get? id = some replica → ∀ operation cause,
      replica.submit operation = .error cause ↔
        Operational.prepare replica.state operation = .error cause ∨
          Operational.prepare replica.state operation = .ok () ∧ cause = .clockOverflow ∧
            replica.version.get id = Word.size 64 - 1
  issued : ∀ {run : StateReplica.Run σ (SetOperation α)} {id} {replica : StateReplica σ},
    StateReplica.Reachable run → run.gossip.participants.get? id = some replica →
      ∀ operation cause, replica.issue operation = .error cause ↔
        (cause = .clockOverflow ∧ replica.version.get id = Word.size 64 - 1) ∨
          replica.version.get id ≠ Word.size 64 - 1 ∧
            Operational.prepare replica.state operation = .error cause

variable [Std.TransOrd α] [Std.LawfulEqOrd α]

theorem SetView.Lawful.disciplinesAgree (lawful : view.Lawful) : DisciplinesAgree view := by
  have added : ∀ {covered} {state : σ}, Held covered state → ∀ element,
      element ∈ view.added state ↔ covered.Names SetOperation.additions element :=
    fun held => lawful.added_of (lawful.tallied held)
  have removed : ∀ {covered} {state : σ}, Held covered state → ∀ element,
      element ∈ view.removed state ↔ covered.Names SetOperation.removals element :=
    fun held => lawful.removed_of (lawful.tallied held) (lawful.accepted held)
  refine ⟨?_, added, removed, ?_, lawful.contains_iff, ?_, ?_, lawful.perform_eq, ?_, ?_⟩
  · intro gossip reached counts origin operation
    exact mem_operationLog_upTo_iff reached.consistent.numbered
  · intro covered state held element
    rw [lawful.mem_live, added held, removed held]
  · intro first second left right leftHeld rightHeld same
    apply lawful.ext
    · exact OrderedSet.ext fun element => (added leftHeld element).trans
        ((CommandLog.names_congr same _ element).trans (added rightHeld element).symm)
    · exact OrderedSet.ext fun element => (removed leftHeld element).trans
        ((CommandLog.names_congr same _ element).trans (removed rightHeld element).symm)
  · intro covered state held elements cause
    rw [lawful.prepare_add, view.checkInsertable_eq_error_iff]
    simp only [removed held]
  · intro gossip id replica reached found operation cause
    have faithful := reached.consistent.faithful id replica found
    rw [OperationReplica.submit_eq_error_iff, faithful.reflects.owned, faithful.named]
  · intro run id replica reached found operation cause
    obtain ⟨named, owned⟩ := reached.consistent.owned id replica found
    rw [StateReplica.issue_eq_error_iff, owned, lawful.perform_eq]
    cases Operational.prepare replica.state operation <;> simp [Except.map]

end Held

end Confluence

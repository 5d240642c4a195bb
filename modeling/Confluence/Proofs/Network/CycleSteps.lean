import Confluence.Network.Cycles
import Confluence.Proofs.Replication.InboxProperties
import Mathlib.Logic.Basic

/-!
An apply cycle step by step. The inbox of a channel is locked only while messages are taken out or
put back, and the replica only while it takes one message; in between anybody else may act. Two may
be at work on one inbox at a time: the apply task of the channel, and whoever closes the channel,
who applies the inbox a last time.

Whatever else happens, a message that was taken out is applied, put back, or in somebody's hands.
When nobody comes between, the steps of a cycle come to what a cycle does at one go.
-/

set_option autoImplicit false

namespace Confluence

/-- Who applies the inbox of a channel. -/
inductive Worker where
  | task
  | closing
  deriving DecidableEq

/-- How far a worker has come with an apply cycle. -/
inductive Work (μ : Type) where
  | idle
  /-- About to take out what is queued. -/
  | poised
  /-- In a pass over as many messages as were taken. Those ahead are not offered to the replica yet,
  those it has refused are to be put back. -/
  | passing (ahead refused : List (Queued μ)) (taken : Nat)

/-- The messages that a worker has in hand. -/
def Work.inHand {μ : Type} : Work μ → List (Queued μ)
  | passing ahead refused _ => ahead ++ refused
  | _ => []

def Work.isIdle {μ : Type} : Work μ → Bool
  | idle => true
  | _ => false

theorem Work.isIdle_iff {μ : Type} {work : Work μ} : work.isIdle = true ↔ work = .idle := by
  cases work <;> simp [isIdle]

/-- How far the closing of a channel has come. -/
inductive Stage where
  /-- It has not begun. -/
  | running
  /-- The flag is flipped. -/
  | draining
  /-- The last apply cycle has begun; it is over when the one who closes is idle again. -/
  | applying
  /-- The channel is detached. -/
  | finished
  /-- The apply task has ended, and so has the closing. -/
  | stopped
  deriving DecidableEq

def Stage.rank : Stage → Nat
  | running => 0
  | draining => 1
  | applying => 2
  | finished => 3
  | stopped => 4

theorem Stage.eq_stopped_of_rank {stage : Stage} (late : 4 ≤ stage.rank) : stage = .stopped := by
  cases stage with
  | stopped => rfl
  | _ => exact absurd late (by decide)

theorem Stage.ne_running_of_rank {stage : Stage} (begun : 1 ≤ stage.rank) : stage ≠ .running := by
  rintro rfl
  exact absurd begun (by decide)

/-- What is noted of a channel beside its inbox. -/
structure Notes (μ : Type) where
  stage : Stage
  /-- The messages of calls that found the channel open and have not enqueued them yet. -/
  entering : List μ
  /-- The messages of calls that found the channel open and have not published them yet. -/
  leaving : List μ
  work : Worker → Work μ
  accepted : List μ
  applied : List μ
  /-- The arrival numbers of messages that the replica has refused, once for every time. -/
  refused : List Nat
  /-- How many messages had arrived when the flag was flipped. -/
  mark : Nat

namespace Notes

variable {μ : Type}

def blank : Notes μ := ⟨.running, [], [], fun _ => .idle, [], [], [], 0⟩

def setWork (notes : Notes μ) (worker : Worker) (work : Work μ) : Notes μ :=
  { notes with work := fun query => if query = worker then work else notes.work query }

def inHand (notes : Notes μ) : List (Queued μ) :=
  (notes.work .task).inHand ++ (notes.work .closing).inHand

@[simp] theorem work_setWork (notes : Notes μ) (worker : Worker) (work : Work μ) :
    (notes.setWork worker work).work worker = work := if_pos rfl

theorem work_setWork_of_ne (notes : Notes μ) {worker other : Worker} (work : Work μ)
    (different : other ≠ worker) : (notes.setWork worker work).work other = notes.work other :=
  if_neg different

theorem inHand_of_idle {notes : Notes μ} (resting : ∀ worker, notes.work worker = .idle) :
    notes.inHand = [] := by
  rw [inHand, resting .task, resting .closing]
  rfl

/-- What a worker has in hand is apart from what the other has. -/
theorem perm_inHand (notes : Notes μ) (worker : Worker) :
    ∃ others, ∀ work, (notes.setWork worker work).inHand.Perm (work.inHand ++ others) := by
  cases worker with
  | task => exact ⟨(notes.work .closing).inHand, fun _ => .refl _⟩
  | closing => exact ⟨(notes.work .task).inHand, fun _ => List.perm_append_comm⟩

theorem setWork_self (notes : Notes μ) (worker : Worker) :
    notes.setWork worker (notes.work worker) = notes := by
  have same : (fun query => if query = worker then notes.work worker else notes.work query) =
      notes.work := by
    funext query
    split
    next here => rw [here]
    next => rfl
  rw [setWork, same]

/-- If a worker trades messages with a queue, then all that is queued or in hand stays the same. -/
theorem perm_setWork (notes : Notes μ) (worker : Worker) {work : Work μ}
    {queue left : List (Queued μ)}
    (traded : (queue ++ (notes.work worker).inHand).Perm (left ++ work.inHand)) :
    (queue ++ notes.inHand).Perm (left ++ (notes.setWork worker work).inHand) := by
  obtain ⟨others, split⟩ := notes.perm_inHand worker
  have now := split (notes.work worker)
  rw [notes.setWork_self worker] at now
  have before : (queue ++ notes.inHand).Perm
      (queue ++ (notes.work worker).inHand ++ others) := by
    rw [List.append_assoc]
    exact now.append_left queue
  have after : (left ++ (notes.setWork worker work).inHand).Perm
      (left ++ work.inHand ++ others) := by
    rw [List.append_assoc]
    exact (split work).append_left left
  exact before.trans ((traded.append_right others).trans after.symm)

end Notes

/-! ## Steps -/

/-- What a worker has before it: the inbox, the replica, the log, and what is noted of the
channel. -/
structure Bench (ρ μ : Type) where
  inbox : Inbox μ
  replica : ρ
  log : List (Event μ)
  notes : Notes μ

namespace Bench

variable {ρ μ : Type}

/-- Everything that was accepted and is not applied. -/
def unapplied (bench : Bench ρ μ) : List (Queued μ) := bench.inbox.queue ++ bench.notes.inHand

variable [Updatable ρ μ]

/-- The next step of a worker. A cycle ends when nothing is found in the inbox, or with a pass that
takes nothing or leaves nothing. -/
def work (id : ReplicaId) (worker : Worker) (bench : Bench ρ μ) : Bench ρ μ :=
  match bench.notes.work worker with
  | .idle => bench
  | .poised =>
    if bench.inbox.queue.isEmpty then { bench with notes := bench.notes.setWork worker .idle }
    else
      { bench with
        inbox := bench.inbox.takeOut
        notes := bench.notes.setWork worker
          (.passing bench.inbox.due [] bench.inbox.queue.length) }
  | .passing (next :: ahead) refused taken =>
    let (outcome, replica, log) := Network.loggedUpdate id (bench.replica, bench.log) next.message
    match outcome with
    | .ok () =>
      { bench with
        replica
        log
        notes := { bench.notes.setWork worker (.passing ahead refused taken) with
          applied := bench.notes.applied ++ [next.message] } }
    | .error _ =>
      { bench with
        replica
        log
        notes := { bench.notes.setWork worker (.passing ahead (refused ++ [next]) taken) with
          refused := bench.notes.refused ++ [next.arrival] } }
  | .passing [] refused taken =>
    { bench with
      inbox := bench.inbox.putBack refused taken
      notes := bench.notes.setWork worker
        (if refused ≠ [] ∧ refused.length < taken then .poised else .idle) }

/-- What a step of a worker can be. -/
inductive Step (worker : Worker) : Bench ρ μ → Bench ρ μ → Prop where
  | rests {bench : Bench ρ μ} : bench.notes.work worker = .idle → Step worker bench bench
  | finds {bench : Bench ρ μ} : bench.notes.work worker = .poised → bench.inbox.queue = [] →
      Step worker bench { bench with notes := bench.notes.setWork worker .idle }
  | takes {bench : Bench ρ μ} : bench.notes.work worker = .poised → bench.inbox.queue ≠ [] →
      Step worker bench { bench with
        inbox := bench.inbox.takeOut
        notes := bench.notes.setWork worker
          (.passing bench.inbox.due [] bench.inbox.queue.length) }
  | applies {bench : Bench ρ μ} {next : Queued μ} {ahead refused : List (Queued μ)} {taken : Nat}
      {log : List (Event μ)} :
      bench.notes.work worker = .passing (next :: ahead) refused taken →
      (Updatable.update bench.replica next.message).1 = .ok () →
      Step worker bench { bench with
        replica := (Updatable.update bench.replica next.message).2
        log
        notes := { bench.notes.setWork worker (.passing ahead refused taken) with
          applied := bench.notes.applied ++ [next.message] } }
  | isRefused {bench : Bench ρ μ} {next : Queued μ} {ahead refused : List (Queued μ)} {taken : Nat}
      {log : List (Event μ)} {error : ReplicationError} :
      bench.notes.work worker = .passing (next :: ahead) refused taken →
      (Updatable.update bench.replica next.message).1 = .error error →
      Step worker bench { bench with
        replica := (Updatable.update bench.replica next.message).2
        log
        notes := { bench.notes.setWork worker (.passing ahead (refused ++ [next]) taken) with
          refused := bench.notes.refused ++ [next.arrival] } }
  | putsBack {bench : Bench ρ μ} {refused : List (Queued μ)} {taken : Nat} :
      bench.notes.work worker = .passing [] refused taken →
      Step worker bench { bench with
        inbox := bench.inbox.putBack refused taken
        notes := bench.notes.setWork worker
          (if refused ≠ [] ∧ refused.length < taken then .poised else .idle) }

theorem step_work (id : ReplicaId) (worker : Worker) (bench : Bench ρ μ) :
    Step worker bench (bench.work id worker) := by
  unfold work
  split
  next resting => exact .rests resting
  next poised =>
    split
    next empty => exact .finds poised (List.isEmpty_iff.mp empty)
    next full => exact .takes poised fun empty => full (List.isEmpty_iff.mpr empty)
  next next ahead refused taken passing =>
    simp only [Network.loggedUpdate]
    split
    next applied => exact .applies passing applied
    next error isRefused => exact .isRefused passing isRefused
  next refused taken passing => exact .putsBack passing

/-- What the steps of a worker leave alone, and where the messages go: whatever was not applied is
applied now, or not applied still. -/
structure Continues (worker : Worker) (before after : Bench ρ μ) : Prop where
  stage : after.notes.stage = before.notes.stage
  entering : after.notes.entering = before.notes.entering
  leaving : after.notes.leaving = before.notes.leaving
  accepted : after.notes.accepted = before.notes.accepted
  mark : after.notes.mark = before.notes.mark
  arrivals : after.inbox.nextArrival = before.inbox.nextArrival
  others : ∀ other, other ≠ worker → after.notes.work other = before.notes.work other
  unapplied : ∃ taken : List (Queued μ),
    after.notes.applied = before.notes.applied ++ taken.map (·.message) ∧
      before.unapplied.Perm (taken ++ after.unapplied)

variable {worker : Worker} {before after : Bench ρ μ}

omit [Updatable ρ μ] in
theorem Continues.refl (worker : Worker) (bench : Bench ρ μ) : Continues worker bench bench :=
  ⟨rfl, rfl, rfl, rfl, rfl, rfl, fun _ _ => rfl, [], (List.append_nil _).symm, .refl _⟩

omit [Updatable ρ μ] in
theorem Continues.trans {middle : Bench ρ μ} (first : Continues worker before middle)
    (second : Continues worker middle after) : Continues worker before after := by
  obtain ⟨taken, applied, split⟩ := first.unapplied
  obtain ⟨later, appliedLater, splitLater⟩ := second.unapplied
  refine ⟨second.stage.trans first.stage, second.entering.trans first.entering,
    second.leaving.trans first.leaving, second.accepted.trans first.accepted,
    second.mark.trans first.mark, second.arrivals.trans first.arrivals,
    fun other different => (second.others other different).trans (first.others other different),
    taken ++ later, ?_, ?_⟩
  · rw [appliedLater, applied, List.map_append, List.append_assoc]
  · rw [List.append_assoc]
    exact split.trans (splitLater.append_left taken)

theorem Step.continues (step : Step worker before after) : Continues worker before after := by
  have alone : ∀ (work : Work μ) other, other ≠ worker →
      (before.notes.setWork worker work).work other = before.notes.work other :=
    fun work other different => before.notes.work_setWork_of_ne work different
  cases step with
  | rests => exact .refl worker before
  | finds poised empty =>
      refine ⟨rfl, rfl, rfl, rfl, rfl, rfl, alone _, [], (List.append_nil _).symm, ?_⟩
      refine before.notes.perm_setWork worker ?_
      rw [poised]
      exact .refl _
  | takes poised _ =>
      refine ⟨rfl, rfl, rfl, rfl, rfl, rfl, alone _, [], (List.append_nil _).symm, ?_⟩
      refine before.notes.perm_setWork worker ?_
      simp only [poised, Work.inHand, List.append_nil, List.nil_append]
      exact before.inbox.due_perm.symm
  | @applies next ahead refused taken log passing _ =>
      have traded : (before.inbox.queue ++ (before.notes.work worker).inHand).Perm
          (next :: before.inbox.queue ++ (Work.passing ahead refused taken).inHand) := by
        rw [passing]
        exact List.perm_middle
      exact ⟨rfl, rfl, rfl, rfl, rfl, rfl, alone _, [next], rfl,
        before.notes.perm_setWork worker traded⟩
  | @isRefused next ahead refused taken log error passing _ =>
      refine ⟨rfl, rfl, rfl, rfl, rfl, rfl, alone _, [], (List.append_nil _).symm, ?_⟩
      refine before.notes.perm_setWork worker ?_
      rw [passing]
      refine List.Perm.append_left _ ?_
      simp only [Work.inHand, List.cons_append, ← List.append_assoc]
      exact (List.perm_append_singleton next (ahead ++ refused)).symm
  | @putsBack refused taken passing =>
      refine ⟨rfl, rfl, rfl, rfl, rfl, rfl, alone _, [], (List.append_nil _).symm, ?_⟩
      refine before.notes.perm_setWork worker ?_
      rw [passing]
      split <;> exact .of_eq (List.append_nil _).symm

/-- Who is idle does nothing. -/
theorem Step.eq_of_idle (step : Step worker before after)
    (resting : before.notes.work worker = .idle) : after = before := by
  cases step with
  | rests => rfl
  | finds poised _ =>
      rw [resting] at poised
      cases poised
  | takes poised _ =>
      rw [resting] at poised
      cases poised
  | applies passing _ =>
      rw [resting] at passing
      cases passing
  | isRefused passing _ =>
      rw [resting] at passing
      cases passing
  | putsBack passing =>
      rw [resting] at passing
      cases passing

theorem Step.idle (step : Step worker before after) {other : Worker}
    (resting : before.notes.work other = .idle) : after.notes.work other = .idle := by
  by_cases same : other = worker
  · subst same
    rw [step.eq_of_idle resting]
    exact resting
  · exact (step.continues.others other same).trans resting

/-! ## Refusals -/

/-- What is to be put back is known to have been refused. -/
def HeldAreRefused (notes : Notes μ) : Prop :=
  ∀ worker ahead refused taken, notes.work worker = .passing ahead refused taken →
    ∀ queued ∈ refused, queued.arrival ∈ notes.refused

theorem Step.refused_subset (step : Step worker before after) :
    before.notes.refused ⊆ after.notes.refused := by
  cases step with
  | isRefused _ _ => exact List.subset_append_left _ _
  | _ => exact fun _ => id

theorem Step.heldAreRefused (step : Step worker before after)
    (held : HeldAreRefused before.notes) : HeldAreRefused after.notes := by
  intro other ahead refused taken passing queued isHeld
  by_cases same : other = worker
  · subst same
    cases step with
    | rests => exact held other ahead refused taken passing queued isHeld
    | finds => rw [Notes.work_setWork] at passing; cases passing
    | takes =>
        rw [Notes.work_setWork] at passing
        cases passing
        cases isHeld
    | applies wasPassing _ =>
        cases (Notes.work_setWork _ _ _).symm.trans passing
        exact held other _ refused taken wasPassing queued isHeld
    | @isRefused next _ earlier _ _ _ wasPassing _ =>
        cases (Notes.work_setWork _ _ _).symm.trans passing
        rcases List.mem_append.mp isHeld with wasHeld | new
        · exact List.mem_append_left _ (held other _ earlier taken wasPassing queued wasHeld)
        · rw [List.mem_singleton.mp new]
          exact List.mem_append_right _ (.head _)
    | putsBack _ =>
        rw [Notes.work_setWork] at passing
        split at passing <;> cases passing
  · rw [step.continues.others other same] at passing
    exact step.refused_subset (held other ahead refused taken passing queued isHeld)

/-- A step that leaves something in the queue adds only what was refused. -/
theorem Step.queue (step : Step worker before after) (held : HeldAreRefused before.notes) :
    after.inbox.queue = [] ∨ before.notes.work worker ≠ .poised ∧
      ∀ queued ∈ after.inbox.queue,
        queued ∈ before.inbox.queue ∨ queued.arrival ∈ after.notes.refused := by
  cases step with
  | rests resting => exact .inr ⟨resting.trans_ne nofun, fun _ => .inl⟩
  | finds _ empty => exact .inl empty
  | takes _ _ => exact .inl rfl
  | applies passing _ => exact .inr ⟨passing.trans_ne nofun, fun _ => .inl⟩
  | isRefused passing _ => exact .inr ⟨passing.trans_ne nofun, fun _ => .inl⟩
  | @putsBack refused taken passing =>
      refine .inr ⟨passing.trans_ne nofun, fun queued isQueued => ?_⟩
      exact (List.mem_append.mp isQueued).imp_right (held worker [] refused taken passing queued)

/-- A replica that accepts everything refuses nothing. -/
theorem Step.refused_of_accepting (step : Step worker before after)
    (accepts : ∀ (replica : ρ) message, (Updatable.update replica message).1 = .ok ()) :
    after.notes.refused = before.notes.refused := by
  cases step with
  | isRefused _ refusal =>
      rw [accepts] at refusal
      cases refusal
  | _ => rfl

/-! ## Cycles at one go -/

/-- A worker comes from one moment to another with nobody else at work. -/
inductive Reaches (id : ReplicaId) (worker : Worker) : Bench ρ μ → Bench ρ μ → Prop where
  | here (bench : Bench ρ μ) : Reaches id worker bench bench
  | next {bench later : Bench ρ μ} : Reaches id worker (bench.work id worker) later →
      Reaches id worker bench later

theorem Reaches.trans {id : ReplicaId} {middle : Bench ρ μ} (first : Reaches id worker before middle)
    (second : Reaches id worker middle after) : Reaches id worker before after := by
  induction first with
  | here => exact second
  | next _ ih => exact .next (ih second)

theorem Reaches.continues {id : ReplicaId} (reaches : Reaches id worker before after) :
    Continues worker before after := by
  induction reaches with
  | here bench => exact .refl worker bench
  | @next bench later _ ih => exact (bench.step_work id worker).continues.trans ih

theorem reaches_pass (id : ReplicaId) (bench : Bench ρ μ) {ahead refused : List (Queued μ)}
    {taken : Nat} (passing : bench.notes.work worker = .passing ahead refused taken) :
    ∃ notes, Reaches id worker bench
        ⟨bench.inbox,
          (Inbox.pass (Network.loggedUpdate id) ahead (bench.replica, bench.log)).1.1,
          (Inbox.pass (Network.loggedUpdate id) ahead (bench.replica, bench.log)).1.2, notes⟩ ∧
      notes.work worker = .passing []
        (refused ++ (Inbox.pass (Network.loggedUpdate id) ahead (bench.replica, bench.log)).2)
        taken := by
  induction ahead generalizing bench refused with
  | nil =>
      refine ⟨bench.notes, .here bench, ?_⟩
      simp only [Inbox.pass, List.append_nil]
      exact passing
  | cons first later ih =>
      cases outcome : (Network.loggedUpdate id (bench.replica, bench.log) first.message).1 with
      | ok _ =>
          have worked : ∃ notes, bench.work id worker = ⟨bench.inbox,
              (Network.loggedUpdate id (bench.replica, bench.log) first.message).2.1,
              (Network.loggedUpdate id (bench.replica, bench.log) first.message).2.2, notes⟩ ∧
              notes.work worker = .passing later refused taken := by
            simp only [work, passing, outcome]
            exact ⟨_, rfl, Notes.work_setWork _ _ _⟩
          obtain ⟨notes, worked, passingOn⟩ := worked
          rw [Inbox.pass_cons_of_accepted outcome]
          obtain ⟨final, reaches, left⟩ := ih ⟨_, _, _, notes⟩ passingOn
          refine ⟨final, .next ?_, left⟩
          rw [worked]
          exact reaches
      | error _ =>
          have worked : ∃ notes, bench.work id worker = ⟨bench.inbox,
              (Network.loggedUpdate id (bench.replica, bench.log) first.message).2.1,
              (Network.loggedUpdate id (bench.replica, bench.log) first.message).2.2, notes⟩ ∧
              notes.work worker = .passing later (refused ++ [first]) taken := by
            simp only [work, passing, outcome]
            exact ⟨_, rfl, Notes.work_setWork _ _ _⟩
          obtain ⟨notes, worked, passingOn⟩ := worked
          rw [Inbox.pass_cons_of_refused outcome]
          obtain ⟨final, reaches, left⟩ := ih ⟨_, _, _, notes⟩ passingOn
          refine ⟨final, .next ?_, ?_⟩
          · rw [worked]
            exact reaches
          · rw [left, List.append_assoc]
            rfl

/-- A pass, from what is taken out to what is put back. -/
theorem reaches_round (id : ReplicaId) (bench : Bench ρ μ) {next : ρ × List (Event μ)}
    {refused : List (Queued μ)} (poised : bench.notes.work worker = .poised) (full : bench.inbox.queue ≠ [])
    (passed : Inbox.pass (Network.loggedUpdate id) bench.inbox.due (bench.replica, bench.log) =
      (next, refused)) :
    ∃ notes, Reaches id worker bench
        ⟨{ bench.inbox with queue := refused }, next.1, next.2, notes⟩ ∧
      notes.work worker =
        if refused ≠ [] ∧ refused.length < bench.inbox.queue.length then .poised else .idle := by
  have taken : ∃ notes, bench.work id worker =
      ⟨bench.inbox.takeOut, bench.replica, bench.log, notes⟩ ∧
      notes.work worker = .passing bench.inbox.due [] bench.inbox.queue.length := by
    simp only [work, poised, List.isEmpty_eq_false_iff.mpr full]
    exact ⟨_, rfl, Notes.work_setWork _ _ _⟩
  obtain ⟨notes, taken, passing⟩ := taken
  obtain ⟨later, reaches, ended⟩ :=
    reaches_pass id ⟨bench.inbox.takeOut, bench.replica, bench.log, notes⟩ passing
  rw [passed, List.nil_append] at ended
  rw [passed] at reaches
  have putBack : ∃ final, (⟨bench.inbox.takeOut, next.1, next.2, later⟩ : Bench ρ μ).work id worker =
      ⟨{ bench.inbox with queue := refused }, next.1, next.2, final⟩ ∧ final.work worker =
        if refused ≠ [] ∧ refused.length < bench.inbox.queue.length then .poised else .idle := by
    simp only [work, ended, Inbox.takeOut_putBack]
    exact ⟨_, rfl, Notes.work_setWork _ _ _⟩
  obtain ⟨final, putBack, isOver⟩ := putBack
  refine ⟨final, .next ?_, isOver⟩
  rw [taken]
  refine reaches.trans (.next ?_)
  rw [putBack]
  exact .here _

/-- Undisturbed, the steps of a cycle come to the cycle as a whole. -/
theorem reaches_applyPending (id : ReplicaId) (state : ρ × List (Event μ)) (inbox : Inbox μ)
    {notes : Notes μ} (poised : notes.work worker = .poised) :
    ∃ final, Reaches id worker ⟨inbox, state.1, state.2, notes⟩
        ⟨(Inbox.applyPending (Network.loggedUpdate id) state inbox).inbox,
          (Inbox.applyPending (Network.loggedUpdate id) state inbox).replica.1,
          (Inbox.applyPending (Network.loggedUpdate id) state inbox).replica.2, final⟩ ∧
      final.work worker = .idle := by
  induction state, inbox using Inbox.cycle_induction (@Network.loggedUpdate ρ μ _ id)
    generalizing notes with
  | @last state next inbox refused passed finished =>
      obtain ⟨sameReplica, sameInbox⟩ := Inbox.applyPending_of_pass passed finished
      rw [sameReplica, sameInbox]
      by_cases empty : inbox.queue = []
      · have nothing : inbox.due = [] := List.Perm.eq_nil (empty ▸ inbox.due_perm)
        rw [nothing] at passed
        cases passed
        have found : (⟨inbox, state.1, state.2, notes⟩ : Bench ρ μ).work id worker =
            ⟨{ inbox with queue := [] }, state.1, state.2, notes.setWork worker .idle⟩ := by
          simp only [work, poised, empty, List.isEmpty_nil, ↓reduceIte]
          rw [← empty]
        refine ⟨notes.setWork worker .idle, .next ?_, notes.work_setWork worker .idle⟩
        rw [found]
        exact .here _
      · obtain ⟨final, reaches, isOver⟩ :=
          reaches_round id ⟨inbox, state.1, state.2, notes⟩ poised empty passed
        exact ⟨final, reaches, isOver.trans (if_neg finished)⟩
  | @again state next inbox refused passed progress ih =>
      obtain ⟨sameReplica, sameInbox⟩ := Inbox.applyPending_again passed progress
      rw [sameReplica, sameInbox]
      have full : inbox.queue ≠ [] :=
        List.ne_nil_of_length_pos (Nat.lt_of_le_of_lt (Nat.zero_le _) progress.2)
      obtain ⟨middle, reaches, goesOn⟩ :=
        reaches_round id ⟨inbox, state.1, state.2, notes⟩ poised full passed
      obtain ⟨final, reachesOn, isOver⟩ := ih (goesOn.trans (if_pos progress))
      exact ⟨final, reaches.trans reachesOn, isOver⟩

end Bench

end Confluence

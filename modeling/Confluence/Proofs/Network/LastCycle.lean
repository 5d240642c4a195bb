import Confluence.Proofs.Network.ChannelMessages
import Confluence.Proofs.Replication.ApplyCycles

/-!
The last apply cycle of a channel. Replicas are considered here that stay as they are when they
refuse a message. If nobody else is at work on the channel while the cycle runs, then it ends with a
replica that refuses whatever is left: it ends only with a pass that leaves nothing or takes
nothing. From then on apply cycles do nothing, and the replica rests unless somebody alters it past
its channel.

If the apply task is in the middle of a cycle of its own, it may put back what it was refused
before the last cycle applied something else, and the replica may accept by now what is left.
-/

set_option autoImplicit false

namespace Confluence

section Refusal

variable {ρ μ : Type} [Updatable ρ μ]

def Refuses (replica : ρ) (queued : Queued μ) : Prop :=
  ∃ error, (Updatable.update replica queued.message).1 = .error error

variable [Steady ρ]

/-- On messages that the replica refuses a worker changes nothing but where they are. -/
theorem Bench.Step.of_refuses {worker : Worker} {before after : Bench ρ μ}
    (step : Step worker before after)
    (refuses : ∀ queued ∈ before.unapplied, Refuses before.replica queued) :
    after.replica = before.replica ∧ after.notes.applied = before.notes.applied ∧
      before.unapplied.Perm after.unapplied := by
  obtain ⟨taken, applied, split⟩ := step.continues.unapplied
  have unchanged : after.replica = before.replica ∧
      after.notes.applied = before.notes.applied := by
    cases step with
    | @applies next ahead refused taken log passing accepted =>
        obtain ⟨others, inHand⟩ := before.notes.perm_inHand worker
        have now := inHand (before.notes.work worker)
        rw [before.notes.setWork_self worker, passing] at now
        have isNext : next ∈ before.unapplied :=
          List.mem_append_right _ (now.symm.subset (.head _))
        obtain ⟨error, refusal⟩ := refuses next isNext
        rw [accepted] at refusal
        cases refusal
    | isRefused passing refusal => exact ⟨Steady.refusal _ _ _ refusal, rfl⟩
    | _ => exact ⟨rfl, rfl⟩
  have nothing : taken.map (·.message) = [] := List.append_cancel_left
    ((applied.symm.trans unchanged.2).trans (List.append_nil _).symm)
  rw [List.map_eq_nil_iff.mp nothing] at split
  exact ⟨unchanged.1, unchanged.2, split⟩

end Refusal

namespace Account

variable {ρ μ : Type} [Updatable ρ μ] {before after : Account ρ μ}

/-- The replica, if it is there, refuses everything that is not applied. -/
def Settled (account : Account ρ μ) : Prop :=
  ∀ replica, account.replica? = some replica → ∀ queued ∈ account.unapplied, Refuses replica queued

theorem settled_of_gone (gone : before.replica? = none) : before.Settled := by
  intro replica isThere
  rw [gone] at isThere
  cases isThere

/-- How far the last cycle has come with nobody beside it. While a pass has taken nothing, the
replica is as it was when the pass began. -/
inductive Settling (account : Account ρ μ) : Prop where
  | waits : account.notes.stage = .draining → Settling account
  | poised : account.notes.work .closing = .poised → Settling account
  | passing {ahead refused : List (Queued μ)} {taken : Nat} :
      account.notes.work .closing = .passing ahead refused taken → account.queue = [] →
      ahead.length + refused.length ≤ taken →
      (ahead.length + refused.length = taken → ∀ replica, account.replica? = some replica →
        ∀ queued ∈ refused, Refuses replica queued) →
      Settling account
  | isOver : 2 ≤ account.notes.stage.rank → account.notes.work .closing = .idle →
      account.Settled → Settling account

theorem Settling.of_passing {ahead refused : List (Queued μ)} {taken : Nat}
    (settling : before.Settling) (applying : before.notes.stage = .applying)
    (passing : before.notes.work .closing = .passing ahead refused taken) :
    before.queue = [] ∧ ahead.length + refused.length ≤ taken ∧
      (ahead.length + refused.length = taken → ∀ replica, before.replica? = some replica →
        ∀ queued ∈ refused, Refuses replica queued) := by
  cases settling with
  | waits draining =>
      rw [applying] at draining
      cases draining
  | poised poised =>
      rw [passing] at poised
      cases poised
  | passing same empty within refuses =>
      rw [passing] at same
      cases same
      exact ⟨empty, within, refuses⟩
  | isOver _ resting _ =>
      rw [passing] at resting
      cases resting

/-- A channel that is closed with nobody else at work on it: no call is about to enqueue a message,
and the apply task is idle. -/
structure Undisturbed (account : Account ρ μ) : Prop where
  staged : account.Staged
  begun : 1 ≤ account.notes.stage.rank
  nobody : account.notes.entering = []
  resting : account.notes.work .task = .idle
  settling : account.Settling

/-- A channel that is detached, and whose replica refuses whatever is left. -/
structure Done (account : Account ρ μ) : Prop where
  staged : account.Staged
  late : 3 ≤ account.notes.stage.rank
  nobody : account.notes.entering = []
  settled : account.Settled

theorem Done.of_undisturbed (undisturbed : before.Undisturbed)
    (late : 3 ≤ before.notes.stage.rank) : before.Done := by
  refine ⟨undisturbed.staged, late, undisturbed.nobody, ?_⟩
  have notApplying : before.notes.stage ≠ .applying := by
    intro applying
    rw [applying] at late
    exact absurd late (by decide)
  have resting := undisturbed.staged.closing notApplying
  cases undisturbed.settling with
  | waits draining =>
      rw [draining] at late
      exact absurd late (by decide)
  | poised poised =>
      rw [resting] at poised
      cases poised
  | passing passing =>
      rw [resting] at passing
      cases passing
  | isOver _ _ settled => exact settled

section Course

variable [Message μ] [Steady ρ] {manner : Manner}

omit [Message μ] in
/-- A pass that leaves something goes on if it took anything; if it took nothing, then the replica
is still the one that has refused it all. -/
theorem Settling.step {id : ReplicaId} {order : InboxOrder} {connection : Connection μ}
    {replica : ρ} {notes : Notes μ} {log : List (Event μ)} {bench : Bench ρ μ}
    (settling : (⟨some ⟨id, ⟨order, some connection⟩, some replica⟩, notes⟩ :
      Account ρ μ).Settling)
    (applying : notes.work .closing ≠ .idle → notes.stage = .applying)
    (resting : notes.work .task = .idle)
    (step : Bench.Step .closing ⟨connection.inbox, replica, log, notes⟩ bench) :
    (⟨some ⟨id, ⟨order, some { connection with inbox := bench.inbox }⟩, some bench.replica⟩,
      bench.notes⟩ : Account ρ μ).Settling := by
  have late : notes.work .closing ≠ .idle → 2 ≤ notes.stage.rank := fun busy =>
    Nat.le_of_eq (congrArg Stage.rank (applying busy)).symm
  have idle : ∀ work, work = .idle → ∀ worker, (notes.setWork .closing work).work worker = .idle := by
    rintro _ rfl worker
    cases worker with
    | task => exact resting
    | closing => exact notes.work_setWork .closing .idle
  cases step with
  | rests _ => exact settling
  | finds poised empty =>
      refine .isOver (late (poised.trans_ne nofun)) (notes.work_setWork _ _) ?_
      intro present _ queued isLeft
      rw [unapplied_of_idle (idle .idle rfl)] at isLeft
      have isQueued : queued ∈ connection.inbox.queue := isLeft
      rw [empty] at isQueued
      cases isQueued
  | takes poised _ =>
      refine .passing (notes.work_setWork _ _) rfl ?_ fun _ _ _ _ absent => by cases absent
      exact Nat.le_of_eq (List.length_mergeSort _)
  | @applies next ahead refused taken log passing accepted =>
      have isApplying := applying (passing.trans_ne nofun)
      obtain ⟨empty, within, _⟩ := settling.of_passing isApplying passing
      rw [List.length_cons] at within
      refine .passing (notes.work_setWork .closing (.passing ahead refused taken)) empty ?_ ?_
      · omega
      · omega
  | @isRefused next ahead refused taken log error passing refusal =>
      have isApplying := applying (passing.trans_ne nofun)
      obtain ⟨empty, within, refuses⟩ := settling.of_passing isApplying passing
      have sameReplica : (Updatable.update replica next.message).2 = replica :=
        Steady.refusal replica next.message error refusal
      have sameLength : ahead.length + (refused ++ [next]).length =
          (next :: ahead).length + refused.length := by
        simp only [List.length_append, List.length_cons, List.length_nil]
        omega
      refine .passing (notes.work_setWork .closing (.passing ahead (refused ++ [next]) taken)) empty
        (sameLength ▸ within) ?_
      rw [sameLength]
      intro nothing present isThere queued isHeld
      cases isThere
      simp only [sameReplica]
      rcases List.mem_append.mp isHeld with wasHeld | new
      · exact refuses nothing replica rfl queued wasHeld
      · rw [List.mem_singleton.mp new]
        exact ⟨error, refusal⟩
  | @putsBack refused taken passing =>
      have busy : notes.work .closing ≠ .idle := passing.trans_ne nofun
      obtain ⟨empty, within, refuses⟩ := settling.of_passing (applying busy) passing
      rw [List.length_nil, Nat.zero_add] at within refuses
      by_cases progress : refused ≠ [] ∧ refused.length < taken
      · exact .poised ((notes.work_setWork _ _).trans (if_pos progress))
      · refine .isOver (late busy) ((notes.work_setWork _ _).trans (if_neg progress)) ?_
        intro present isThere queued isLeft
        cases isThere
        rw [unapplied_of_idle (idle _ (if_neg progress))] at isLeft
        have isHeld : queued ∈ refused := by
          have isQueued : queued ∈ connection.inbox.queue ++ refused := isLeft
          have noQueue : connection.inbox.queue = [] := empty
          rw [noQueue] at isQueued
          exact isQueued
        have notEmpty : refused ≠ [] := fun nothing => by
          rw [nothing] at isHeld
          cases isHeld
        have all : refused.length = taken :=
          Nat.le_antisymm within (Nat.le_of_not_lt fun fewer => progress ⟨notEmpty, fewer⟩)
        exact refuses all replica rfl queued isHeld

omit [Message μ] [Steady ρ] in
/-- Without its replica a channel settles with whatever it has. -/
theorem Settling.of_gone (settling : before.Settling) (gone : after.replica? = none)
    (queue : before.queue = [] → after.queue = [])
    (sameNotes : after.notes = before.notes) : after.Settling := by
  cases settling with
  | waits draining => exact .waits (sameNotes ▸ draining)
  | poised poised => exact .poised (sameNotes ▸ poised)
  | passing passing empty within _ =>
      refine .passing (sameNotes ▸ passing) (queue empty) within fun _ replica isThere => ?_
      rw [gone] at isThere
      cases isThere
  | isOver late resting _ =>
      exact .isOver (sameNotes ▸ late) (sameNotes ▸ resting) (settled_of_gone gone)

theorem Undisturbed.moves (undisturbed : before.Undisturbed)
    (moves : Moves .ordinary before after) : after.Undisturbed := by
  obtain ⟨staged, begun, nobody, resting, settling⟩ := undisturbed
  have shut := staged.shut_of_rank begun
  have stagedAfter := staged.moves moves
  have begunAfter := Nat.le_trans begun (moves.rank_le staged)
  have restingAfter := moves.idle_task (nomatch ·) resting
  cases moves with
  | stay => exact ⟨staged, begun, nobody, resting, settling⟩
  | register unconnected => exact absurd unconnected shut.connected
  | forget =>
      exact ⟨stagedAfter, begunAfter, nobody, restingAfter, settling.of_gone rfl id rfl⟩
  | beginReceive isOpen => exact absurd isOpen shut.not_opened
  | beginPublish isOpen => exact absurd isOpen shut.not_opened
  | enqueue entering =>
      rw [nobody] at entering
      cases entering
  | transmit _ =>
      refine ⟨stagedAfter, begunAfter, nobody, restingAfter, ?_⟩
      cases settling with
      | waits draining => exact .waits draining
      | poised poised => exact .poised poised
      | passing passing empty within refuses => exact .passing passing empty within refuses
      | isOver late isIdle settled => exact .isOver late isIdle settled
  | @work id order connection replica notes log bench worker step =>
      refine ⟨stagedAfter, begunAfter, step.continues.entering.trans nobody, restingAfter, ?_⟩
      cases worker with
      | task =>
          cases step.eq_of_idle resting
          exact settling
      | closing =>
          refine settling.step (fun busy => ?_) resting step
          exact Classical.not_not.mp fun notApplying => busy (staged.closing notApplying)
  | beginClosing begins =>
      obtain ⟨id, wasOpen, _⟩ := Channel.phase_beginClosing begins
      exact absurd wasOpen shut.not_opened
  | @beginLastCycle _ work draining begins =>
      refine ⟨stagedAfter, begunAfter, nobody, restingAfter, ?_⟩
      rcases begins with rfl | ⟨rfl, gone⟩
      · exact .poised (before.notes.work_setWork .closing .poised)
      · exact .isOver (Nat.le_refl 2) (before.notes.work_setWork .closing .idle)
          (settled_of_gone gone)
  | finish applying isIdle =>
      refine ⟨stagedAfter, begunAfter, nobody, restingAfter, ?_⟩
      cases settling with
      | waits draining =>
          rw [applying] at draining
          cases draining
      | poised poised =>
          rw [isIdle] at poised
          cases poised
      | passing passing =>
          rw [isIdle] at passing
          cases passing
      | isOver _ _ settled => exact .isOver (Nat.le_succ 2) isIdle settled
  | stop finished isIdle =>
      refine ⟨stagedAfter, begunAfter, nobody, restingAfter, ?_⟩
      have done := Done.of_undisturbed ⟨staged, begun, nobody, resting, settling⟩
        (Nat.le_of_eq (congrArg Stage.rank finished).symm)
      refine .isOver (Nat.le_add_left 2 2) (staged.closing ?_) done.settled
      exact finished.trans_ne (by decide)
  | drop =>
      exact ⟨stagedAfter, begunAfter, nobody, restingAfter, settling.of_gone rfl (fun _ => rfl) rfl⟩

/-! ## After the last cycle -/

/-- What is so of a channel since it was done with. -/
structure DoneSince (before account : Account ρ μ) : Prop where
  done : account.Done
  rests : Rests before account

theorem Done.moves (done : before.Done) (moves : Moves manner before after)
    (notAltered : manner ≠ .alters) : after.Done ∧ Rests before after := by
  obtain ⟨staged, late, nobody, settled⟩ := done
  have shut := staged.shut_of_rank (Nat.le_trans (Nat.le_add_left 1 2) late)
  have stagedAfter := staged.moves moves
  have lateAfter := Nat.le_trans late (moves.rank_le staged)
  cases moves with
  | stay => exact ⟨⟨staged, late, nobody, settled⟩, .refl _⟩
  | register unconnected => exact absurd unconnected shut.connected
  | alter => exact absurd rfl notAltered
  | forget => exact ⟨⟨stagedAfter, lateAfter, nobody, settled_of_gone rfl⟩, rfl, .inl rfl⟩
  | beginReceive isOpen => exact absurd isOpen shut.not_opened
  | beginPublish isOpen => exact absurd isOpen shut.not_opened
  | enqueue entering =>
      rw [nobody] at entering
      cases entering
  | transmit _ => exact ⟨⟨stagedAfter, lateAfter, nobody, settled⟩, rfl, .inr rfl⟩
  | @beginCycle member notes _ isIdle _ =>
      refine ⟨⟨stagedAfter, lateAfter, nobody, fun replica isThere queued isLeft => ?_⟩,
        rfl, .inr rfl⟩
      refine settled replica isThere queued ?_
      have traded : (member.channel.queue ++ (notes.work .task).inHand).Perm
          (member.channel.queue ++ (Work.poised : Work μ).inHand) := by
        rw [isIdle]
        exact .refl _
      exact (notes.perm_setWork .task traded).symm.subset isLeft
  | @work id order connection replica notes log bench worker step =>
      obtain ⟨sameReplica, sameApplied, split⟩ := step.of_refuses (settled replica rfl)
      refine ⟨⟨stagedAfter, lateAfter, step.continues.entering.trans nobody, ?_⟩, sameApplied,
        .inr (congrArg some sameReplica)⟩
      intro present isThere queued isLeft
      cases isThere
      rw [sameReplica]
      exact settled replica rfl queued (split.symm.subset isLeft)
  | beginClosing begins =>
      obtain ⟨id, wasOpen, _⟩ := Channel.phase_beginClosing begins
      exact absurd wasOpen shut.not_opened
  | beginLastCycle draining _ =>
      rw [draining] at late
      exact absurd late (by decide)
  | finish applying _ =>
      rw [applying] at late
      exact absurd late (by decide)
  | stop _ _ => exact ⟨⟨stagedAfter, lateAfter, nobody, settled⟩, rfl, .inr rfl⟩
  | drop => exact ⟨⟨stagedAfter, lateAfter, nobody, settled_of_gone rfl⟩, rfl, .inl rfl⟩

theorem DoneSince.moves {middle : Account ρ μ} (since : DoneSince before middle)
    (moves : Moves manner middle after) (notAltered : manner ≠ .alters) :
    DoneSince before after := by
  obtain ⟨done, rests⟩ := since.done.moves moves notAltered
  exact ⟨done, since.rests.trans rests⟩

end Course

end Account

end Confluence

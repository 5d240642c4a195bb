import Confluence.Proofs.Network.ChannelAccounts
import Mathlib.Data.List.Perm.Basic

/-!
What becomes of the messages of one channel. Whatever it has accepted is applied, or it is queued or
in somebody's hands, each message under an arrival number of its own. When the flag is flipped, the
only messages that may still come are those of calls which had found the channel open; and when the
closing is over, the replica has refused whatever is left, unless it came in this way.
-/

set_option autoImplicit false

namespace Confluence.Account

variable {ρ μ : Type} {before after : Account ρ μ}

/-! ## Coming and going -/

/-- What a move makes of the messages that are not applied: it leaves them as they are but for some
that are applied, or it adds one with the next arrival number, or the channel goes. -/
inductive Flow (before after : Account ρ μ) : Prop where
  | keeps (taken : List (Queued μ)) : after.notes.accepted = before.notes.accepted →
      after.notes.applied = before.notes.applied ++ taken.map (·.message) →
      before.unapplied.Perm (taken ++ after.unapplied) → after.arrivals = before.arrivals →
      Flow before after
  | comes (queued : Queued μ) :
      after.notes.accepted = before.notes.accepted ++ [queued.message] →
      after.notes.applied = before.notes.applied →
      after.unapplied.Perm (queued :: before.unapplied) → queued.arrival = before.arrivals →
      after.arrivals = before.arrivals + 1 → Flow before after
  | leaves : after.member = none → after.notes = before.notes → Flow before after

theorem Flow.same (accepted : after.notes.accepted = before.notes.accepted)
    (applied : after.notes.applied = before.notes.applied)
    (unapplied : before.unapplied.Perm after.unapplied)
    (arrivals : after.arrivals = before.arrivals) : Flow before after :=
  .keeps [] accepted (applied.trans (List.append_nil _).symm) unapplied arrivals

/-! ## Every message is accounted for -/

/-- What the channel has accepted is applied or not, and what is not applied has arrival numbers of
its own. -/
structure Accounted (account : Account ρ μ) : Prop where
  accounted : account.member ≠ none → account.notes.accepted.Perm
    (account.notes.applied ++ account.unapplied.map (·.message))
  numbered : (account.unapplied.map (·.arrival)).Nodup
  below : ∀ queued ∈ account.unapplied, queued.arrival < account.arrivals

theorem accounted_blank (id : ReplicaId) (order : InboxOrder) (replica : Option ρ) :
    (⟨some ⟨id, .unregistered order, replica⟩, .blank⟩ : Account ρ μ).Accounted where
  accounted _ := .nil
  numbered := .nil
  below queued absent := by cases absent

theorem accounted_absent {notes : Notes μ} : (⟨none, notes⟩ : Account ρ μ).Accounted where
  accounted isThere := absurd rfl isThere
  numbered := .nil
  below queued absent := by cases absent

/-! ## Every message is tried -/

/-- When the last cycle is over, or has taken out what was queued when it began, then everything in
the queue was refused by the replica or has come since the flag was flipped; if the replica is gone,
nothing is said. -/
structure Tried (account : Account ρ μ) : Prop where
  held : Bench.HeldAreRefused account.notes
  marked : account.notes.stage ≠ .running → account.member ≠ none →
    account.notes.mark ≤ account.arrivals
  left : account.notes.stage = .applying ∧ account.notes.work .closing ≠ .poised ∨
      3 ≤ account.notes.stage.rank →
    account.replica? = none ∨ ∀ queued ∈ account.queue,
      queued.arrival ∈ account.notes.refused ∨ account.notes.mark ≤ queued.arrival

theorem tried_running {notes : Notes μ} {member : Option (Member ρ μ)}
    (resting : ∀ worker, notes.work worker = .idle) (running : notes.stage = .running) :
    (⟨member, notes⟩ : Account ρ μ).Tried where
  held worker ahead refused taken passing := by
    rw [resting] at passing
    cases passing
  marked notRunning := absurd running notRunning
  left begun := by
    simp only [running] at begun
    rcases begun with ⟨isApplying, _⟩ | late
    · cases isApplying
    · exact absurd late (by decide)

section Moves

variable [Message μ] [Updatable ρ μ] {manner : Manner}

theorem Moves.flow (moves : Moves manner before after) (staged : before.Staged) :
    Flow before after := by
  cases moves with
  | @register member notes unconnected =>
      refine .same rfl rfl (.of_eq ?_) ?_
      · simp only [unapplied, Channel.queue, Channel.connect, unconnected]
        rfl
      · simp only [arrivals, Channel.arrivals, Channel.connect, unconnected]
        rfl
  | @enqueue id order connection replica notes index message entering =>
      refine .comes ⟨order.priority (Message.rank message), connection.inbox.nextArrival, message⟩
        rfl rfl ?_ rfl rfl
      simp only [unapplied, Channel.queue, Inbox.enqueue, List.append_assoc, List.singleton_append]
      exact List.perm_middle
  | @beginCycle member notes connected resting notStopped =>
      refine .same rfl rfl ?_ rfl
      refine notes.perm_setWork .task ?_
      rw [resting]
      exact .refl _
  | work worker step =>
      obtain ⟨taken, applied, split⟩ := step.continues.unapplied
      exact .keeps taken step.continues.accepted applied split step.continues.arrivals
  | beginClosing begun =>
      obtain ⟨sameQueue, sameArrivals⟩ := Channel.inbox_beginClosing begun
      refine .same rfl rfl (.of_eq ?_) sameArrivals
      exact congrArg (· ++ _) sameQueue.symm
  | @beginLastCycle _ work draining begins =>
      obtain ⟨member, notes⟩ := before
      have resting : notes.work .closing = .idle :=
        staged.closing (by rw [draining]; decide)
      have nothing : work.inHand = [] := by
        rcases begins with rfl | ⟨rfl, _⟩
        · rfl
        · rfl
      refine .same rfl rfl ?_ rfl
      cases member with
      | none => exact .refl _
      | some member =>
          have traded : (member.channel.queue ++ (notes.work .closing).inHand).Perm
              (member.channel.queue ++ work.inHand) := by
            rw [resting, nothing]
            exact .refl _
          exact notes.perm_setWork .closing traded
  | drop => exact .leaves rfl rfl
  | _ => exact .same rfl rfl (.refl _) rfl

theorem Accounted.moves (accounted : before.Accounted) (staged : before.Staged)
    (moves : Moves manner before after) : after.Accounted := by
  have wasThere : after.member ≠ none → before.member ≠ none := by
    cases moves with
    | drop => exact fun isThere => absurd rfl isThere
    | beginLastCycle => exact id
    | finish => exact id
    | stop => exact id
    | _ => exact fun isThere => by simp_all
  cases moves.flow staged with
  | keeps taken accepted applied split arrivals =>
      refine ⟨fun isThere => ?_, ?_, fun queued isLeft => ?_⟩
      · rw [accepted, applied, List.append_assoc, ← List.map_append]
        exact (accounted.accounted (wasThere isThere)).trans ((split.map _).append_left _)
      · have apart := (split.map (·.arrival)).nodup accounted.numbered
        rw [List.map_append] at apart
        exact (List.nodup_append.mp apart).2.1
      · rw [arrivals]
        exact accounted.below queued (split.symm.subset (List.mem_append_right _ isLeft))
  | comes queued accepted applied split number arrivals =>
      refine ⟨fun isThere => ?_, ?_, fun other isLeft => ?_⟩
      · rw [accepted, applied]
        refine ((accounted.accounted (wasThere isThere)).append_right _).trans ?_
        rw [List.append_assoc]
        refine List.Perm.append_left _ ?_
        exact List.perm_append_comm.trans (split.symm.map _)
      · refine (split.map (·.arrival)).symm.nodup ?_
        refine List.nodup_cons.mpr ⟨fun isKnown => ?_, accounted.numbered⟩
        obtain ⟨other, isOther, same⟩ := List.mem_map.mp isKnown
        exact absurd (same.trans number) (Nat.ne_of_lt (accounted.below other isOther))
      · rw [arrivals]
        rcases List.mem_cons.mp (split.subset isLeft) with rfl | earlier
        · exact Nat.lt_succ_of_le (Nat.le_of_eq number)
        · exact Nat.lt_succ_of_lt (accounted.below other earlier)
  | leaves gone _ =>
      obtain ⟨member, notes⟩ := after
      cases gone
      exact accounted_absent

omit [Message μ] in
theorem Tried.work {id : ReplicaId} {order : InboxOrder} {connection : Connection μ} {replica : ρ}
    {notes : Notes μ} {log : List (Event μ)} {bench : Bench ρ μ} {worker : Worker}
    (tried : (⟨some ⟨id, ⟨order, some connection⟩, some replica⟩, notes⟩ : Account ρ μ).Tried)
    (step : Bench.Step worker ⟨connection.inbox, replica, log, notes⟩ bench) :
    (⟨some ⟨id, ⟨order, some { connection with inbox := bench.inbox }⟩, some bench.replica⟩,
      bench.notes⟩ : Account ρ μ).Tried := by
  have continues := step.continues
  have sameStage : bench.notes.stage = notes.stage := continues.stage
  have sameMark : bench.notes.mark = notes.mark := continues.mark
  have sameArrivals : bench.inbox.nextArrival = connection.inbox.nextArrival := continues.arrivals
  refine ⟨step.heldAreRefused tried.held, ?_, ?_⟩
  · simp only [sameStage, sameMark]
    intro notRunning _
    have marked := tried.marked notRunning (Option.some_ne_none _)
    exact Nat.le_trans marked (Nat.le_of_eq sameArrivals.symm)
  · simp only [sameStage, sameMark]
    intro begun
    refine .inr ?_
    rcases step.queue tried.held with empty | ⟨notPoised, comes⟩
    · intro queued isQueued
      have isThere : queued ∈ bench.inbox.queue := isQueued
      rw [empty] at isThere
      cases isThere
    · have wasBegun : notes.stage = .applying ∧ notes.work .closing ≠ .poised ∨
          3 ≤ notes.stage.rank := by
        refine begun.imp_left fun ⟨applying, stillNotPoised⟩ => ⟨applying, ?_⟩
        by_cases same : .closing = worker
        · exact same ▸ notPoised
        · rw [← continues.others .closing same]
          exact stillNotPoised
      have left := (tried.left wasBegun).resolve_left fun gone => by cases gone
      intro queued isQueued
      rcases comes queued isQueued with earlier | isRefused
      · exact (left queued earlier).imp_left (step.refused_subset ·)
      · exact .inl isRefused

theorem Tried.moves (tried : before.Tried) (staged : before.Staged)
    (moves : Moves manner before after) : after.Tried := by
  cases moves with
  | stay => exact tried
  | @register member notes unconnected =>
      have blank : notes = .blank := staged.unregistered
        (congrArg some (Channel.phase_eq_unregistered_iff.mpr unconnected))
      subst blank
      exact tried_running (fun _ => rfl) rfl
  | alter =>
      refine ⟨tried.held, fun notRunning _ => tried.marked notRunning (Option.some_ne_none _),
        fun begun => .inr ?_⟩
      exact (tried.left begun).resolve_left fun gone => by cases gone
  | forget =>
      exact ⟨tried.held, fun notRunning _ => tried.marked notRunning (Option.some_ne_none _),
        fun _ => .inl rfl⟩
  | beginReceive _ => exact ⟨tried.held, tried.marked, tried.left⟩
  | beginPublish _ => exact ⟨tried.held, tried.marked, tried.left⟩
  | transmit _ => exact ⟨tried.held, tried.marked, tried.left⟩
  | @enqueue id order connection replica notes index message entering =>
      have marked : notes.stage ≠ .running → notes.mark ≤ connection.inbox.nextArrival :=
        fun notRunning => tried.marked notRunning (Option.some_ne_none _)
      refine ⟨tried.held, fun notRunning _ => Nat.le_succ_of_le (marked notRunning), fun begun => ?_⟩
      refine (tried.left begun).imp_right fun left queued isQueued => ?_
      rcases List.mem_append.mp isQueued with earlier | new
      · exact left queued earlier
      · rw [List.mem_singleton.mp new]
        refine .inr (marked fun running => ?_)
        simp only [running] at begun
        rcases begun with ⟨isApplying, _⟩ | late
        · cases isApplying
        · exact absurd late (by decide)
  | @beginCycle member notes connected resting notStopped =>
      refine ⟨fun worker ahead refused taken passing => ?_, tried.marked, tried.left⟩
      cases worker with
      | task => cases passing
      | closing => exact tried.held .closing ahead refused taken passing
  | work worker step => exact tried.work step
  | @beginClosing member channel notes begun =>
      obtain ⟨_, sameArrivals⟩ := Channel.inbox_beginClosing begun
      refine ⟨tried.held, fun _ _ => Nat.le_of_eq sameArrivals.symm, fun begun => ?_⟩
      rcases begun with ⟨isApplying, _⟩ | late
      · cases isApplying
      · exact absurd late (show ¬ 3 ≤ Stage.draining.rank by decide)
  | @beginLastCycle _ work draining begins =>
      refine ⟨fun worker ahead refused taken passing => ?_, fun _ => ?_, fun begun => .inl ?_⟩
      · cases worker with
        | task => exact tried.held .task ahead refused taken passing
        | closing =>
            rcases begins with rfl | ⟨rfl, _⟩
            · cases passing
            · cases passing
      · refine tried.marked ?_
        exact draining.trans_ne (by decide)
      · rcases begun with ⟨_, notPoised⟩ | late
        · rcases begins with rfl | ⟨_, gone⟩
          · exact absurd rfl notPoised
          · exact gone
        · exact absurd late (show ¬ 3 ≤ Stage.applying.rank by decide)
  | finish applying resting =>
      refine ⟨tried.held, fun _ => tried.marked ?_, fun _ => tried.left (.inl ⟨applying, ?_⟩)⟩
      · exact applying.trans_ne (by decide)
      · exact resting.trans_ne nofun
  | stop finished resting =>
      refine ⟨tried.held, fun _ => tried.marked ?_, fun _ => tried.left (.inr ?_)⟩
      · exact finished.trans_ne (by decide)
      · rw [finished]
        exact Nat.le_refl 3
  | drop => exact ⟨tried.held, fun _ isThere => absurd rfl isThere, fun _ => .inl rfl⟩

/-- What holds of a channel at all times. -/
structure Sound (account : Account ρ μ) : Prop where
  staged : account.Staged
  accounted : account.Accounted
  tried : account.Tried

omit [Message μ] [Updatable ρ μ] in
theorem sound_blank (id : ReplicaId) (order : InboxOrder) (replica : Option ρ) :
    (⟨some ⟨id, .unregistered order, replica⟩, .blank⟩ : Account ρ μ).Sound :=
  ⟨staged_blank id order replica, accounted_blank id order replica,
    tried_running (fun _ => rfl) rfl⟩

omit [Message μ] [Updatable ρ μ] in
theorem sound_absent : (⟨none, .blank⟩ : Account ρ μ).Sound :=
  ⟨staged_absent, accounted_absent, tried_running (fun _ => rfl) rfl⟩

theorem Sound.moves (sound : before.Sound) (moves : Moves manner before after) : after.Sound :=
  ⟨sound.staged.moves moves, sound.accounted.moves sound.staged moves,
    sound.tried.moves sound.staged moves⟩

omit [Message μ] [Updatable ρ μ] in
theorem Staged.idle_of_stopped (staged : before.Staged) (stopped : before.notes.stage = .stopped)
    (worker : Worker) : before.notes.work worker = .idle := by
  cases worker with
  | task => exact staged.ended stopped
  | closing => exact staged.closing (stopped.trans_ne (by decide))

omit [Message μ] [Updatable ρ μ] in
theorem unapplied_of_idle (resting : ∀ worker, before.notes.work worker = .idle) :
    before.unapplied = before.queue := by
  unfold unapplied queue
  rw [Notes.inHand_of_idle resting]
  cases before.member with
  | none => rfl
  | some member => exact List.append_nil _

/-! ## Channels that are shut -/

omit [Message μ] [Updatable ρ μ] in
/-- Nothing more can begin to enter or to leave a channel that is shut. What enters it had found it
open, and so had what leaves it. -/
structure Closes (before after : Account ρ μ) : Prop where
  shut : after.IsShut
  entered : ∃ late, after.notes.accepted = before.notes.accepted ++ late ∧
    before.notes.entering.Perm (late ++ after.notes.entering) ∧
    ∃ gone, (before.unapplied.map (·.message) ++ late).Perm
      (gone ++ after.unapplied.map (·.message))
  left : ∃ sent, before.notes.leaving.Perm (sent ++ after.notes.leaving)

omit [Message μ] [Updatable ρ μ] in
theorem Closes.refl (shut : before.IsShut) : Closes before before :=
  ⟨shut, ⟨[], (List.append_nil _).symm, .refl _, [], .of_eq (List.append_nil _)⟩, [], .refl _⟩

omit [Message μ] [Updatable ρ μ] in
theorem Closes.trans {middle : Account ρ μ} (first : Closes before middle)
    (second : Closes middle after) : Closes before after := by
  obtain ⟨late, accepted, entering, gone, split⟩ := first.entered
  obtain ⟨later, acceptedLater, enteringLater, goneLater, splitLater⟩ := second.entered
  obtain ⟨sent, leaving⟩ := first.left
  obtain ⟨sentLater, leavingLater⟩ := second.left
  refine ⟨second.shut, ⟨late ++ later, ?_, ?_, gone ++ goneLater, ?_⟩, sent ++ sentLater, ?_⟩
  · rw [acceptedLater, accepted, List.append_assoc]
  · rw [List.append_assoc]
    exact entering.trans (enteringLater.append_left late)
  · rw [← List.append_assoc]
    refine (split.append_right later).trans ?_
    rw [List.append_assoc, List.append_assoc]
    exact splitLater.append_left gone
  · rw [List.append_assoc]
    exact leaving.trans (leavingLater.append_left sent)

/-- A call that has found a channel open enqueues or publishes, and no other finds it open. -/
theorem Moves.calls (moves : Moves manner before after) (shut : before.IsShut) :
    (∃ late, after.notes.accepted = before.notes.accepted ++ late ∧
      before.notes.entering.Perm (late ++ after.notes.entering)) ∧
    ∃ sent, before.notes.leaving.Perm (sent ++ after.notes.leaving) := by
  cases moves with
  | register unconnected => exact absurd unconnected shut.connected
  | beginReceive isOpen => exact absurd isOpen shut.not_opened
  | beginPublish isOpen => exact absurd isOpen shut.not_opened
  | enqueue entering =>
      obtain ⟨inside, rfl⟩ := List.getElem?_eq_some_iff.mp entering
      exact ⟨⟨[_], rfl, (List.getElem_cons_eraseIdx_perm inside).symm⟩, [], .refl _⟩
  | transmit leaving =>
      obtain ⟨inside, rfl⟩ := List.getElem?_eq_some_iff.mp leaving
      exact ⟨⟨[], (List.append_nil _).symm, .refl _⟩, [_],
        (List.getElem_cons_eraseIdx_perm inside).symm⟩
  | work worker step =>
      refine ⟨⟨[], ?_, .of_eq step.continues.entering.symm⟩, [],
        .of_eq step.continues.leaving.symm⟩
      exact step.continues.accepted.trans (List.append_nil _).symm
  | _ => exact ⟨⟨[], (List.append_nil _).symm, .refl _⟩, [], .refl _⟩

theorem Moves.closes (moves : Moves manner before after) (staged : before.Staged)
    (shut : before.IsShut) : Closes before after := by
  obtain ⟨⟨late, accepted, entering⟩, left⟩ := moves.calls shut
  refine ⟨shut.follows moves.follows, ⟨late, accepted, entering, ?_⟩, left⟩
  cases moves.flow staged with
  | keeps taken sameAccepted _ split _ =>
      have nothing : late = [] := List.append_cancel_left
        ((accepted.symm.trans sameAccepted).trans (List.append_nil _).symm)
      refine ⟨taken.map (·.message), ?_⟩
      rw [nothing, List.append_nil, ← List.map_append]
      exact split.map _
  | comes queued nextAccepted _ split _ _ =>
      have one : late = [queued.message] := List.append_cancel_left
        (accepted.symm.trans nextAccepted)
      refine ⟨[], ?_⟩
      rw [one]
      exact List.perm_append_comm.trans (split.symm.map _)
  | leaves gone sameNotes =>
      refine ⟨before.unapplied.map (·.message) ++ late, ?_⟩
      rw [unapplied, unapplied, gone]
      exact .of_eq (List.append_nil _).symm

/-! ## Channels at rest -/

/-- Nothing more is applied, and the replica stays as it is until it goes. -/
structure Rests (before after : Account ρ μ) : Prop where
  applied : after.notes.applied = before.notes.applied
  replica : after.replica? = none ∨ after.replica? = before.replica?

omit [Message μ] [Updatable ρ μ] in
theorem Rests.refl (account : Account ρ μ) : Rests account account := ⟨rfl, .inr rfl⟩

omit [Message μ] [Updatable ρ μ] in
theorem Rests.trans {middle : Account ρ μ} (first : Rests before middle)
    (second : Rests middle after) : Rests before after := by
  refine ⟨second.applied.trans first.applied, ?_⟩
  rcases second.replica with gone | same
  · exact .inl gone
  · rw [same]
    exact first.replica

/-- While nobody is at work on it, a channel rests unless somebody alters its replica. -/
theorem Moves.rests (moves : Moves manner before after) (notAltered : manner ≠ .alters)
    (resting : ∀ worker, before.notes.work worker = .idle) : Rests before after := by
  cases moves with
  | alter => exact absurd rfl notAltered
  | forget => exact ⟨rfl, .inl rfl⟩
  | work worker step =>
      cases step.eq_of_idle (resting worker)
      exact .refl _
  | drop => exact ⟨rfl, .inl rfl⟩
  | _ => exact ⟨rfl, .inr rfl⟩

omit [Message μ] [Updatable ρ μ] in
/-- What is so of a channel since its closing was over. -/
structure StoppedSince (before account : Account ρ μ) : Prop where
  staged : account.Staged
  stopped : account.notes.stage = .stopped
  rests : Rests before account

theorem StoppedSince.moves {middle : Account ρ μ} (since : StoppedSince before middle)
    (moves : Moves manner middle after) (notAltered : manner ≠ .alters) :
    StoppedSince before after := by
  have late := moves.rank_le since.staged
  rw [since.stopped] at late
  exact ⟨since.staged.moves moves, Stage.eq_stopped_of_rank late,
    since.rests.trans (moves.rests notAltered (since.staged.idle_of_stopped since.stopped))⟩

/-- An apply task that is idle stays so until it begins a cycle. -/
theorem Moves.idle_task (moves : Moves manner before after) (notBegun : manner ≠ .begins)
    (resting : before.notes.work .task = .idle) : after.notes.work .task = .idle := by
  cases moves with
  | beginCycle _ _ _ => exact absurd rfl notBegun
  | work worker step => exact step.idle resting
  | _ => exact resting

/-- A replica that accepts everything has refused nothing. -/
theorem Moves.refused_of_accepting (moves : Moves manner before after)
    (accepts : ∀ (replica : ρ) message, (Updatable.update replica message).1 = .ok ()) :
    after.notes.refused = before.notes.refused := by
  cases moves with
  | work worker step => exact step.refused_of_accepting accepts
  | _ => rfl

end Moves

end Confluence.Account

import Confluence.Proofs.Network.CycleSteps
import Confluence.Proofs.Network.Phases

/-!
One channel by itself: the member to which it belongs, how far its closing has come, who is at work
on it, and what it has accepted and applied so far. Whatever happens in a network is one of a few
moves for each channel, and the properties of a single channel follow from those moves alone.

A call that receives or publishes first tests whether the channel is open and then, at some later
moment, enqueues or publishes; the flag may be flipped in between. The closing of a channel goes from
the flip of the flag over the draining of outbound messages, which moves nothing here, to a last
apply cycle; then the channel is detached, and its apply task ends when it is idle. What a cycle
still does after its channel was dropped is not followed.
-/

set_option autoImplicit false

namespace Confluence

/-! ## Phases in the course of time -/

/-- How a channel may go on at once: it is opened, or closed under the identifier under which it was
opened, and it may be dropped at any time. -/
inductive Phase.Follows : Option Phase → Option Phase → Prop where
  | stays (phase : Option Phase) : Follows phase phase
  | opens (id : ReplicaId) : Follows (some .unregistered) (some (.opened id))
  | closes (id : ReplicaId) : Follows (some (.opened id)) (some (.closed id))
  | leaves (phase : Option Phase) : Follows phase none

/-- How a channel may go on in the long run. -/
inductive Phase.Leads : Option Phase → Option Phase → Prop where
  | follows {before after : Option Phase} : Follows before after → Leads before after
  | opensAndCloses (id : ReplicaId) : Leads (some .unregistered) (some (.closed id))

theorem Phase.Leads.trans {first second third : Option Phase} (before : Leads first second)
    (after : Follows second third) : Leads first third := by
  cases before with
  | follows earlier =>
      cases earlier with
      | stays => exact .follows after
      | opens id =>
          cases after with
          | stays => exact .follows (.opens id)
          | closes => exact .opensAndCloses id
          | leaves => exact .follows (.leaves _)
      | closes id =>
          cases after with
          | stays => exact .follows (.closes id)
          | leaves => exact .follows (.leaves _)
      | leaves =>
          cases after with
          | stays => exact .follows (.leaves _)
          | leaves => exact .follows (.leaves _)
  | opensAndCloses id =>
      cases after with
      | stays => exact .opensAndCloses id
      | leaves => exact .follows (.leaves _)

theorem Phase.Follows.closed {id : ReplicaId} {later : Option Phase}
    (follows : Follows (some (.closed id)) later) : later = none ∨ later = some (.closed id) := by
  cases follows with
  | stays => exact .inr rfl
  | leaves => exact .inl rfl

theorem Phase.Leads.closed {id : ReplicaId} {later : Option Phase}
    (leads : Leads (some (.closed id)) later) : later = none ∨ later = some (.closed id) := by
  cases leads with
  | follows follows => exact follows.closed

namespace Channel

variable {μ : Type} {channel next : Channel μ}

/-- The messages that wait in the inbox, in the order in which they were put there. -/
def queue (channel : Channel μ) : List (Queued μ) :=
  match channel.connection with
  | some connection => connection.inbox.queue
  | none => []

/-- How many messages have arrived. -/
def arrivals (channel : Channel μ) : Nat :=
  match channel.connection with
  | some connection => connection.inbox.nextArrival
  | none => 0

theorem inbox_beginClosing (begun : channel.beginClosing = .ok next) :
    next.queue = channel.queue ∧ next.arrivals = channel.arrivals := by
  unfold beginClosing at begun
  split at begun
  · cases begun
  next connection connected =>
    split at begun
    next isOpen =>
      cases begun
      simp only [queue, arrivals, connected, and_self]
    next => cases begun

end Channel

/-! ## Accounts -/

structure Account (ρ μ : Type) where
  member : Option (Member ρ μ)
  notes : Notes μ

namespace Account

variable {ρ μ : Type}

def phase? (account : Account ρ μ) : Option Phase :=
  account.member.map fun member => member.channel.phase

def replica? (account : Account ρ μ) : Option ρ := account.member.bind (·.replica)

def queue (account : Account ρ μ) : List (Queued μ) :=
  match account.member with
  | some member => member.channel.queue
  | none => []

def arrivals (account : Account ρ μ) : Nat :=
  match account.member with
  | some member => member.channel.arrivals
  | none => 0

/-- Everything that the channel has accepted and its replica has not taken, be it queued or in
somebody's hands. -/
def unapplied (account : Account ρ μ) : List (Queued μ) :=
  match account.member with
  | some member => member.channel.queue ++ account.notes.inHand
  | none => []

/-- The flag is flipped, or the channel is gone. -/
def IsShut (account : Account ρ μ) : Prop :=
  account.phase? = none ∨ ∃ id, account.phase? = some (.closed id)

variable {before after : Account ρ μ}

theorem IsShut.follows (shut : before.IsShut)
    (follows : Phase.Follows before.phase? after.phase?) : after.IsShut := by
  rcases shut with gone | ⟨id, isClosed⟩
  · rw [gone] at follows
    cases later : after.phase? with
    | none => exact .inl later
    | some phase =>
        rw [later] at follows
        cases follows
  · rw [isClosed] at follows
    exact follows.closed.imp_right fun stays => ⟨id, stays⟩

theorem IsShut.closed {member : Member ρ μ} {notes : Notes μ}
    (shut : IsShut ⟨some member, notes⟩) : ∃ id, member.channel.phase = .closed id := by
  rcases shut with gone | ⟨id, isClosed⟩
  · cases gone
  · exact ⟨id, Option.some.inj isClosed⟩

theorem IsShut.not_opened {member : Member ρ μ} {notes : Notes μ} {id : ReplicaId}
    (shut : IsShut ⟨some member, notes⟩) : member.channel.phase ≠ .opened id := by
  obtain ⟨other, isClosed⟩ := shut.closed
  exact isClosed.trans_ne nofun

theorem IsShut.connected {member : Member ρ μ} {notes : Notes μ}
    (shut : IsShut ⟨some member, notes⟩) : member.channel.connection ≠ none := by
  obtain ⟨id, isClosed⟩ := shut.closed
  intro unconnected
  rw [Channel.phase_eq_unregistered_iff.mpr unconnected] at isClosed
  cases isClosed

/-! ## Stages -/

/-- The stage of a channel agrees with its phase, and nobody is at work who should not be. -/
structure Staged (account : Account ρ μ) : Prop where
  unregistered : account.phase? = some .unregistered → account.notes = .blank
  running : account.notes.stage = .running → ∀ id, account.phase? ≠ some (.closed id)
  shut : account.notes.stage ≠ .running → account.IsShut
  closing : account.notes.stage ≠ .applying → account.notes.work .closing = .idle
  ended : account.notes.stage = .stopped → account.notes.work .task = .idle

theorem staged_blank (id : ReplicaId) (order : InboxOrder) (replica : Option ρ) :
    (⟨some ⟨id, .unregistered order, replica⟩, .blank⟩ : Account ρ μ).Staged where
  unregistered _ := rfl
  running _ id isClosed := by cases isClosed
  shut notRunning := absurd rfl notRunning
  closing _ := rfl
  ended _ := rfl

theorem staged_absent : (⟨none, .blank⟩ : Account ρ μ).Staged where
  unregistered unregistered := by cases unregistered
  running _ id isClosed := by cases isClosed
  shut notRunning := absurd rfl notRunning
  closing _ := rfl
  ended _ := rfl

namespace Staged

theorem running_of_phase {member : Member ρ μ} {notes : Notes μ} {phase : Phase}
    (staged : (⟨some member, notes⟩ : Account ρ μ).Staged) (shown : member.channel.phase = phase)
    (notClosed : ∀ id, phase ≠ .closed id) : notes.stage = .running := by
  refine Classical.byContradiction fun notRunning => ?_
  rcases staged.shut notRunning with gone | ⟨id, isClosed⟩
  · cases gone
  · exact notClosed id (shown.symm.trans (Option.some.inj isClosed))

/-- What neither opens nor closes a channel. -/
theorem of_same (staged : before.Staged) (phase : after.phase? = before.phase?)
    (stage : after.notes.stage = before.notes.stage)
    (registered : before.phase? = some .unregistered → after.notes = before.notes)
    (idle : ∀ worker, before.notes.work worker = .idle → after.notes.work worker = .idle) :
    after.Staged where
  unregistered unregistered := by
    rw [phase] at unregistered
    exact (registered unregistered).trans (staged.unregistered unregistered)
  running := by
    rw [stage, phase]
    exact staged.running
  shut notRunning := by
    rw [stage] at notRunning
    unfold IsShut
    rw [phase]
    exact staged.shut notRunning
  closing notApplying := by
    rw [stage] at notApplying
    exact idle .closing (staged.closing notApplying)
  ended stopped := by
    rw [stage] at stopped
    exact idle .task (staged.ended stopped)

theorem shut_of_rank (staged : before.Staged) (begun : 1 ≤ before.notes.stage.rank) :
    before.IsShut := staged.shut (Stage.ne_running_of_rank begun)

end Staged

/-! ## Moves -/

/-- What matters of an act for one channel: whether somebody changes the replica past the channel,
or whether the apply task begins a cycle. -/
inductive Manner where
  | ordinary
  | alters
  | begins
  deriving DecidableEq

/-- What may happen to a channel that is there, or was once. -/
inductive Moves [Message μ] [Updatable ρ μ] : Manner → Account ρ μ → Account ρ μ → Prop where
  | stay {manner : Manner} (account : Account ρ μ) : Moves manner account account
  | register {member : Member ρ μ} {notes : Notes μ} :
      member.channel.connection = none →
      Moves .ordinary ⟨some member, notes⟩
        ⟨some { member with channel := member.channel.connect member.id }, notes⟩
  | alter {id : ReplicaId} {channel : Channel μ} {replica changed : ρ} {notes : Notes μ} :
      Moves .alters ⟨some ⟨id, channel, some replica⟩, notes⟩
        ⟨some ⟨id, channel, some changed⟩, notes⟩
  | forget {member : Member ρ μ} {notes : Notes μ} :
      Moves .ordinary ⟨some member, notes⟩ ⟨some { member with replica := none }, notes⟩
  | beginReceive {member : Member ρ μ} {notes : Notes μ} {address : ReplicaId} {message : μ} :
      member.channel.phase = .opened address →
      Moves .ordinary ⟨some member, notes⟩
        ⟨some member, { notes with entering := notes.entering ++ [message] }⟩
  | beginPublish {member : Member ρ μ} {notes : Notes μ} {address : ReplicaId} {message : μ} :
      member.channel.phase = .opened address →
      Moves .ordinary ⟨some member, notes⟩
        ⟨some member, { notes with leaving := notes.leaving ++ [message] }⟩
  | enqueue {id : ReplicaId} {order : InboxOrder} {connection : Connection μ} {replica : Option ρ}
      {notes : Notes μ} {index : Nat} {message : μ} :
      notes.entering[index]? = some message →
      Moves .ordinary ⟨some ⟨id, ⟨order, some connection⟩, replica⟩, notes⟩
        ⟨some ⟨id, ⟨order, some
            { connection with inbox := connection.inbox.enqueue order message }⟩, replica⟩,
          { notes with
            entering := notes.entering.eraseIdx index
            accepted := notes.accepted ++ [message] }⟩
  | transmit {member : Option (Member ρ μ)} {notes : Notes μ} {index : Nat} {message : μ} :
      notes.leaving[index]? = some message →
      Moves .ordinary ⟨member, notes⟩ ⟨member, { notes with leaving := notes.leaving.eraseIdx index }⟩
  | beginCycle {member : Member ρ μ} {notes : Notes μ} :
      member.channel.connection ≠ none → notes.work .task = .idle → notes.stage ≠ .stopped →
      Moves .begins ⟨some member, notes⟩ ⟨some member, notes.setWork .task .poised⟩
  | work {id : ReplicaId} {order : InboxOrder} {connection : Connection μ} {replica : ρ}
      {notes : Notes μ} {log : List (Event μ)} {bench : Bench ρ μ} (worker : Worker) :
      Bench.Step worker ⟨connection.inbox, replica, log, notes⟩ bench →
      Moves .ordinary ⟨some ⟨id, ⟨order, some connection⟩, some replica⟩, notes⟩
        ⟨some ⟨id, ⟨order, some { connection with inbox := bench.inbox }⟩, some bench.replica⟩,
          bench.notes⟩
  | beginClosing {member : Member ρ μ} {channel : Channel μ} {notes : Notes μ} :
      member.channel.beginClosing = .ok channel →
      Moves .ordinary ⟨some member, notes⟩
        ⟨some { member with channel },
          { notes with stage := .draining, mark := member.channel.arrivals }⟩
  | beginLastCycle {account : Account ρ μ} {work : Work μ} :
      account.notes.stage = .draining →
      (work = .poised ∨ work = .idle ∧ account.replica? = none) →
      Moves .ordinary account
        ⟨account.member, { account.notes.setWork .closing work with stage := .applying }⟩
  | finish {account : Account ρ μ} :
      account.notes.stage = .applying → account.notes.work .closing = .idle →
      Moves .ordinary account ⟨account.member, { account.notes with stage := .finished }⟩
  | stop {account : Account ρ μ} :
      account.notes.stage = .finished → account.notes.work .task = .idle →
      Moves .ordinary account ⟨account.member, { account.notes with stage := .stopped }⟩
  | drop {member : Option (Member ρ μ)} {notes : Notes μ} :
      Moves .ordinary ⟨member, notes⟩ ⟨none, notes⟩

section Course

variable [Message μ] [Updatable ρ μ] {manner : Manner}

theorem Moves.follows (moves : Moves manner before after) :
    Phase.Follows before.phase? after.phase? := by
  cases moves with
  | @register member notes unconnected =>
      have unregistered : member.channel.phase = .unregistered :=
        Channel.phase_eq_unregistered_iff.mpr unconnected
      simp only [phase?, Option.map_some, unregistered]
      exact .opens member.id
  | beginClosing begun =>
      obtain ⟨id, wasOpen, isClosed⟩ := Channel.phase_beginClosing begun
      simp only [phase?, Option.map_some, wasOpen, isClosed]
      exact .closes id
  | drop => exact .leaves _
  | _ => exact .stays _

theorem Staged.moves (staged : before.Staged) (moves : Moves manner before after) : after.Staged := by
  cases moves with
  | stay => exact staged
  | @register member notes unconnected =>
      have blank : notes = .blank := staged.unregistered
        (congrArg some (Channel.phase_eq_unregistered_iff.mpr unconnected))
      subst blank
      exact ⟨fun unregistered => (nomatch unregistered), fun _ id isClosed => (nomatch isClosed),
        fun notRunning => absurd rfl notRunning, fun _ => rfl, fun _ => rfl⟩
  | alter => exact staged.of_same rfl rfl (fun _ => rfl) fun _ => id
  | forget => exact staged.of_same rfl rfl (fun _ => rfl) fun _ => id
  | beginReceive isOpen =>
      refine staged.of_same rfl rfl (fun unregistered => ?_) fun _ => id
      rw [phase?, Option.map_some, isOpen] at unregistered
      cases unregistered
  | beginPublish isOpen =>
      refine staged.of_same rfl rfl (fun unregistered => ?_) fun _ => id
      rw [phase?, Option.map_some, isOpen] at unregistered
      cases unregistered
  | enqueue entering =>
      refine staged.of_same rfl rfl (fun unregistered => ?_) fun _ => id
      cases Channel.phase_eq_unregistered_iff.mp (Option.some.inj unregistered)
  | transmit leaving =>
      refine staged.of_same rfl rfl (fun unregistered => ?_) fun _ => id
      have blank := staged.unregistered unregistered
      simp only at blank
      rw [blank] at leaving
      cases leaving
  | @beginCycle member notes connected resting notStopped =>
      refine ⟨fun unregistered => ?_, staged.running, staged.shut, staged.closing,
        fun stopped => absurd stopped notStopped⟩
      exact absurd (Channel.phase_eq_unregistered_iff.mp (Option.some.inj unregistered)) connected
  | work worker step =>
      refine staged.of_same rfl step.continues.stage (fun unregistered => ?_) fun _ => step.idle
      cases Channel.phase_eq_unregistered_iff.mp (Option.some.inj unregistered)
  | @beginClosing member channel notes begun =>
      obtain ⟨id, wasOpen, isClosed⟩ := Channel.phase_beginClosing begun
      have isRunning : notes.stage = .running :=
        staged.running_of_phase wasOpen fun _ => (nomatch ·)
      refine ⟨fun unregistered => ?_, (nomatch ·), fun _ => .inr ⟨id, congrArg some isClosed⟩,
        fun _ => ?_, (nomatch ·)⟩
      · rw [phase?, Option.map_some, isClosed] at unregistered
        cases unregistered
      · refine staged.closing ?_
        exact isRunning.trans_ne (by decide)
  | beginLastCycle draining _ =>
      refine ⟨fun unregistered => ?_, (nomatch ·), fun _ => ?_, fun notApplying => ?_, (nomatch ·)⟩
      · have blank := staged.unregistered unregistered
        rw [blank] at draining
        cases draining
      · exact staged.shut (draining.trans_ne (by decide))
      · exact absurd rfl notApplying
  | finish applying resting =>
      refine ⟨fun unregistered => ?_, (nomatch ·), fun _ => ?_, fun _ => resting, (nomatch ·)⟩
      · have blank := staged.unregistered unregistered
        rw [blank] at applying
        cases applying
      · exact staged.shut (applying.trans_ne (by decide))
  | stop finished resting =>
      refine ⟨fun unregistered => ?_, (nomatch ·), fun _ => ?_, fun _ => ?_, fun _ => resting⟩
      · have blank := staged.unregistered unregistered
        rw [blank] at finished
        cases finished
      · exact staged.shut (finished.trans_ne (by decide))
      · exact staged.closing (finished.trans_ne (by decide))
  | drop =>
      exact ⟨(nomatch ·), fun _ _ => (nomatch ·), fun _ => .inl rfl, staged.closing, staged.ended⟩

/-- The steps of a closing come in their order. -/
theorem Moves.rank_le (moves : Moves manner before after) (staged : before.Staged) :
    before.notes.stage.rank ≤ after.notes.stage.rank := by
  cases moves with
  | work worker step => exact Nat.le_of_eq (congrArg Stage.rank step.continues.stage.symm)
  | @beginClosing member channel notes begun =>
      obtain ⟨id, wasOpen, _⟩ := Channel.phase_beginClosing begun
      have isRunning : notes.stage = .running :=
        staged.running_of_phase wasOpen fun _ => (nomatch ·)
      rw [isRunning]
      exact Nat.zero_le _
  | beginLastCycle draining _ =>
      rw [draining]
      exact Nat.le_succ 1
  | finish applying _ =>
      rw [applying]
      exact Nat.le_succ 2
  | stop finished _ =>
      rw [finished]
      exact Nat.le_succ 3
  | _ => exact Nat.le_refl _

/-- A handle that was never given is not moved. -/
theorem Moves.of_blank (moves : Moves manner ⟨none, .blank⟩ after) : after = ⟨none, .blank⟩ := by
  cases moves with
  | stay => rfl
  | transmit leaving => cases leaving
  | beginLastCycle draining _ => cases draining
  | finish applying _ => cases applying
  | stop finished _ => cases finished
  | drop => rfl

end Course

/-! ## Channels that may be attached -/

/-- A channel that may be attached under an identifier: it is open under it, or its closing has not
come to the end of the last cycle. -/
def Holds (account : Account ρ μ) (id : ReplicaId) : Prop :=
  account.phase? = some (.opened id) ∨
    account.phase? = some (.closed id) ∧ account.notes.stage.rank ≤ 2

theorem not_holds_of_absent {id : ReplicaId} {notes : Notes μ} :
    ¬ (⟨none, notes⟩ : Account ρ μ).Holds id := by
  rintro (isOpen | ⟨isClosed, _⟩)
  · cases isOpen
  · cases isClosed

theorem Holds.registered {id : ReplicaId} (holds : before.Holds id) :
    before.phase? ≠ some .unregistered := by
  intro unregistered
  rcases holds with isOpen | ⟨isClosed, _⟩
  · rw [unregistered] at isOpen
    cases isOpen
  · rw [unregistered] at isClosed
    cases isClosed

theorem Holds.shut {id : ReplicaId} (holds : before.Holds id) (shut : before.IsShut) :
    before.phase? = some (.closed id) ∧ before.notes.stage.rank ≤ 2 := by
  rcases holds with isOpen | closed
  · rcases shut with gone | ⟨other, isClosed⟩
    · rw [gone] at isOpen
      cases isOpen
    · rw [isClosed] at isOpen
      cases isOpen
  · exact closed

end Account

end Confluence

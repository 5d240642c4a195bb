import Confluence.Proofs.Network.OperationConvergence
import Confluence.Proofs.Replication.ApplyCycles

/-!
Operations that reach a replica through its inbox, with gaps and repetitions, in any order, and with
apply cycles at any moments. What a cycle leaves behind can be told from the received operations
alone: of every origin those are applied that follow on what the replica had seen before, up to the
first that is missing, and all operations beyond that are queued.

Only the last part, that the state is the same after any order of arrival, needs operations that
commute and dots that name one operation each.
-/

set_option autoImplicit false

namespace Confluence.OperationReplica

variable {σ ω : Type} [Operational σ ω]

/-- The replica and the inbox after the listed messages were received in this order, with apply
cycles in between. -/
inductive Served (order : InboxOrder) (start : OperationReplica σ) :
    List (OperationMessage ω) → OperationReplica σ → Inbox (OperationMessage ω) → Prop where
  | fresh : Served order start [] start .empty
  | receive {received replica inbox} (message : OperationMessage ω) :
      Served order start received replica inbox →
      Served order start (received ++ [message]) replica (inbox.enqueue order message)
  | apply {received replica inbox} : Served order start received replica inbox →
      Served order start received (inbox.applyPending Updatable.update replica).replica
        (inbox.applyPending Updatable.update replica).inbox

/-- All events of the origin that follow on what `start` has seen, up to this number, were
received. -/
def Unbroken (start : OperationReplica σ) (received : List (OperationMessage ω))
    (origin : ReplicaId) (number : Nat) : Prop :=
  start.version.get origin ≤ number ∧
    ∀ earlier, start.version.get origin < earlier → earlier ≤ number →
      ∃ message ∈ received, message.dot.id = origin ∧ message.dot.clock.value = earlier

/-- How far a replica has come from `start` by received messages: to the state of `start` it has
applied, of every origin, the operations with the numbers that its version has gained, each once and
in their order. -/
structure Progress (start : OperationReplica σ) (received : List (OperationMessage ω))
    (replica : OperationReplica σ) : Prop where
  named : replica.id = start.id
  owned : replica.history.owner = start.history.owner
  raised : start.version.Raised replica.version
  applied : ∃ applied, applied ⊆ received ∧ replica.state = replay start.state applied ∧
    ∀ origin, (messagesFrom origin applied).map (·.dot.clock.value) =
      List.range' (start.version.get origin + 1)
        (replica.version.get origin - start.version.get origin)

variable {start replica : OperationReplica σ} {received : List (OperationMessage ω)}
  {order : InboxOrder} {inbox : Inbox (OperationMessage ω)}

theorem progress_start (start : OperationReplica σ) : Progress start [] start where
  named := rfl
  owned := rfl
  raised := .refl _
  applied := ⟨[], List.nil_subset _, rfl, fun origin => by simp [messagesFrom]⟩

namespace Progress

theorem receive (progress : Progress start received replica) (message : OperationMessage ω) :
    Progress start (received ++ [message]) replica := by
  obtain ⟨applied, isReceived, state, numbers⟩ := progress.applied
  exact ⟨progress.named, progress.owned, progress.raised, applied,
    fun _ isApplied => List.mem_append_left _ (isReceived isApplied), state, numbers⟩

/-- The next event of an origin is applied. -/
theorem advance (progress : Progress start received replica)
    (cumulative : replica.version.isDotted = false) {message : OperationMessage ω}
    (isReceived : message ∈ received)
    (next : message.dot.clock.value = replica.version.get message.dot.id + 1) :
    Progress start received { replica with
      state := Operational.apply replica.state message.operation
      history := replica.history.absorb message.version } := by
  obtain ⟨applied, areReceived, state, numbers⟩ := progress.applied
  refine ⟨progress.named, progress.owned,
    progress.raised.absorb_toVector cumulative (by omega), applied ++ [message], ?_, ?_, ?_⟩
  · refine List.append_subset.mpr ⟨areReceived, ?_⟩
    exact List.cons_subset.mpr ⟨isReceived, List.nil_subset _⟩
  · rw [replay_append_singleton, ← state]
  · intro origin
    change _ = List.range' (start.version.get origin + 1)
      ((replica.version.absorb message.dot.toVector).get origin - start.version.get origin)
    by_cases same : origin = message.dot.id
    · subst same
      have grown : (replica.version.absorb message.dot.toVector).get message.dot.id =
          replica.version.get message.dot.id + 1 := by
        rw [VersionVector.get_absorb_toVector_self cumulative]
        omega
      have lower := progress.raised.within message.dot.id
      have gained : replica.version.get message.dot.id + 1 - start.version.get message.dot.id =
          replica.version.get message.dot.id - start.version.get message.dot.id + 1 :=
        Nat.succ_sub lower
      have number : message.dot.clock.value = start.version.get message.dot.id + 1 +
          1 * (replica.version.get message.dot.id - start.version.get message.dot.id) := by omega
      rw [messagesFrom_append_self, List.map_append, numbers, grown, gained, List.range'_concat,
        List.map_singleton, number]
    · have kept : (replica.version.absorb message.dot.toVector).get origin =
          replica.version.get origin := VersionVector.get_absorb_toVector_of_ne cumulative same
      rw [messagesFrom_append_of_ne _ same, kept, numbers]

theorem update (progress : Progress start received replica)
    (cumulative : replica.version.isDotted = false) {message : OperationMessage ω}
    (isReceived : message ∈ received) :
    Progress start received (Updatable.update replica message).2 := by
  rcases update_cases cumulative message with ⟨_, kept⟩ | ⟨next, applied⟩ | ⟨_, kept⟩
  · rw [kept]
    exact progress
  · rw [applied]
    exact progress.advance cumulative isReceived next
  · rw [kept]
    exact progress

theorem unbroken (progress : Progress start received replica) (origin : ReplicaId) :
    Unbroken start received origin (replica.version.get origin) := by
  refine ⟨progress.raised.within origin, fun number above below => ?_⟩
  obtain ⟨applied, areReceived, _, numbers⟩ := progress.applied
  have isNumber : number ∈ (messagesFrom origin applied).map (·.dot.clock.value) := by
    rw [numbers, List.mem_range'_1]
    omega
  obtain ⟨message, own, same⟩ := List.mem_map.mp isNumber
  obtain ⟨isApplied, from_origin⟩ := mem_messagesFrom.mp own
  exact ⟨message, areReceived isApplied, from_origin, same⟩

end Progress

theorem teaches_received (cumulative : start.version.isDotted = false) :
    Inbox.Teaches Updatable.update (· ∈ received) (Progress start received) HasSeen where
  keeps_sound progress isReceived :=
    progress.update (progress.raised.sameMode.trans cumulative) isReceived
  learns progress _ accepted :=
    hasSeen_of_accepted (progress.raised.sameMode.trans cumulative) accepted
  remembers progress _ seen := Nat.le_trans seen
    (version_within_update (progress.raised.sameMode.trans cumulative) _ _)

/-- At every moment the replica has seen what was received, or it is queued. -/
theorem Served.progress (served : Served order start received replica inbox)
    (cumulative : start.version.isDotted = false) :
    Progress start received replica ∧ ∃ seen, received.Perm (seen ++ inbox.messages) ∧
      ∀ message ∈ seen, replica.HasSeen message := by
  induction served with
  | fresh => exact ⟨progress_start start, [], .nil, fun _ absent => by cases absent⟩
  | receive message _ ih =>
      obtain ⟨progress, seen, split, areSeen⟩ := ih
      refine ⟨progress.receive message, seen, ?_, areSeen⟩
      rw [Inbox.messages_enqueue, ← List.append_assoc]
      exact split.append_right [message]
  | @apply received replica inbox _ ih =>
      obtain ⟨progress, seen, split, areSeen⟩ := ih
      have isOffered : ∀ queued ∈ inbox.queue, queued.message ∈ received := fun queued isQueued =>
        split.mem_iff.mpr (List.mem_append_right _ (List.mem_map_of_mem isQueued))
      obtain ⟨progressed, remembered, gone, left, known⟩ :=
        (Inbox.passes_applyPending Updatable.update replica inbox).teach
          (teaches_received cumulative) isOffered progress
      refine ⟨progressed, seen ++ gone.map (·.message), ?_, ?_⟩
      · have messages := left.map (·.message)
        rw [List.map_append] at messages
        rw [List.append_assoc]
        exact split.trans (messages.append_left seen)
      · exact List.forall_mem_append.mpr ⟨fun message isSeen => remembered _ (areSeen _ isSeen),
          List.forall_mem_map.mpr known⟩

/-! ## After a cycle -/

/-- What a cycle leaves behind, told from the received messages. -/
structure CaughtUp (start : OperationReplica σ) (received : List (OperationMessage ω))
    (replica : OperationReplica σ) (inbox : Inbox (OperationMessage ω)) : Prop
    extends Progress start received replica where
  reached : ∀ origin, Unbroken start received origin (replica.version.get origin)
  furthest : ∀ origin number, Unbroken start received origin number →
    number ≤ replica.version.get origin
  queued : inbox.messages.Perm (received.filter fun message =>
    replica.version.get message.dot.id < message.dot.clock.value)
  apart : ∀ message ∈ inbox.messages,
    replica.version.get message.dot.id + 2 ≤ message.dot.clock.value

theorem early_of_stuck (cumulative : replica.version.isDotted = false)
    (stuck : inbox.Stuck Updatable.update replica) :
    ∀ message ∈ inbox.messages,
      replica.version.get message.dot.id + 2 ≤ message.dot.clock.value := by
  intro message isQueued
  obtain ⟨queued, present, rfl⟩ := List.mem_map.mp isQueued
  obtain ⟨error, refused⟩ := stuck queued present
  rcases update_cases cumulative queued.message with ⟨_, kept⟩ | ⟨_, applied⟩ | ⟨early, _⟩
  · rw [kept] at refused
    cases refused
  · rw [applied] at refused
    cases refused
  · exact early

omit [Operational σ ω] in
/-- If all that is queued comes too early and all the rest was seen, then the queue is what was not
seen. -/
theorem queued_of_split {seen queued : List (OperationMessage ω)}
    (split : received.Perm (seen ++ queued)) (areSeen : ∀ message ∈ seen, replica.HasSeen message)
    (apart : ∀ message ∈ queued,
      replica.version.get message.dot.id + 2 ≤ message.dot.clock.value) :
    queued.Perm (received.filter fun message =>
      replica.version.get message.dot.id < message.dot.clock.value) := by
  let isUnseen (message : OperationMessage ω) : Bool :=
    replica.version.get message.dot.id < message.dot.clock.value
  have noneUnseen : seen.filter isUnseen = [] := List.filter_eq_nil_iff.mpr fun message isSeen =>
    by simpa [isUnseen, HasSeen] using areSeen message isSeen
  have allUnseen : queued.filter isUnseen = queued :=
    List.filter_eq_self.mpr fun message isQueued => by
      have early := apart message isQueued
      simp only [isUnseen, decide_eq_true_eq]
      omega
  have unseen := split.filter isUnseen
  rw [List.filter_append, noneUnseen, allUnseen, List.nil_append] at unseen
  exact unseen.symm

theorem Served.caughtUp (served : Served order start received replica inbox)
    (cumulative : start.version.isDotted = false) :
    CaughtUp start received (inbox.applyPending Updatable.update replica).replica
      (inbox.applyPending Updatable.update replica).inbox := by
  obtain ⟨progress, seen, split, areSeen⟩ := served.apply.progress cumulative
  have apart := early_of_stuck (progress.raised.sameMode.trans cumulative)
    (Inbox.stuck_applyPending Steady.refusal replica inbox)
  have queued := queued_of_split split areSeen apart
  generalize (inbox.applyPending Updatable.update replica).replica = settled at *
  refine ⟨progress, progress.unbroken, fun origin number unbroken => ?_, queued, apart⟩
  -- The first number that was not reached would be queued, with nothing before it missing.
  refine Nat.le_of_not_lt fun beyond => ?_
  have lower := progress.raised.within origin
  obtain ⟨message, isReceived, rfl, first⟩ :=
    unbroken.2 (settled.version.get origin + 1) (by omega) beyond
  have isQueued := queued.mem_iff.mpr (List.mem_filter.mpr ⟨isReceived, by simp [first]⟩)
  have early := apart message isQueued
  omega

/-! ## Any order of arrival -/

/-- Messages that bear one dot carry one operation. -/
def Coherent (received : List (OperationMessage ω)) : Prop :=
  ∀ first ∈ received, ∀ second ∈ received,
    first.dot = second.dot → first.operation = second.operation

theorem eq_of_map_eq {α β : Type} {number : α → β} {left right : List α}
    (told : ∀ first ∈ left, ∀ second ∈ right, number first = number second → first = second)
    (same : left.map number = right.map number) : left = right := by
  induction left generalizing right with
  | nil => exact (List.map_eq_nil_iff.mp same.symm).symm
  | cons first later ih =>
      cases right with
      | nil => cases same
      | cons second rest =>
          obtain ⟨sameFirst, sameLater⟩ := List.cons.inj same
          have laterTold : ∀ third ∈ later, ∀ fourth ∈ rest, number third = number fourth →
              third = fourth := fun third isLater fourth inRest =>
            told third (.tail _ isLater) fourth (.tail _ inRest)
          rw [told first (.head _) second (.head _) sameFirst, ih laterTold sameLater]

/-- Of one origin, coherent messages are told by their numbers. -/
theorem Coherent.messagesFrom_eq (coherent : Coherent received)
    {left right : List (OperationMessage ω)} (leftReceived : left ⊆ received)
    (rightReceived : right ⊆ received) {origin : ReplicaId}
    (numbers : (messagesFrom origin left).map (·.dot.clock.value) =
      (messagesFrom origin right).map (·.dot.clock.value)) :
    messagesFrom origin left = messagesFrom origin right := by
  refine eq_of_map_eq (fun first isLeft second isRight sameNumber => ?_) numbers
  obtain ⟨inLeft, firstOrigin⟩ := mem_messagesFrom.mp isLeft
  obtain ⟨inRight, secondOrigin⟩ := mem_messagesFrom.mp isRight
  have sameDot : first.dot = second.dot :=
    Dot.ext (firstOrigin.trans secondOrigin.symm) (Clock.ext sameNumber)
  have sameOperation := coherent first (leftReceived inLeft) second (rightReceived inRight) sameDot
  cases first
  cases second
  cases sameDot
  cases sameOperation
  rfl

theorem Progress.state_eq (commutes : Commutes σ) (coherent : Coherent received)
    {other : OperationReplica σ} (left : Progress start received replica)
    (right : Progress start received other)
    (same : ∀ origin, replica.version.get origin = other.version.get origin) :
    replica.state = other.state := by
  obtain ⟨applied, leftReceived, leftState, leftNumbers⟩ := left.applied
  obtain ⟨applied', rightReceived, rightState, rightNumbers⟩ := right.applied
  have perm : applied.Perm applied' := perm_of_messagesFrom fun origin =>
    coherent.messagesFrom_eq leftReceived rightReceived
      (by rw [leftNumbers, rightNumbers, same origin])
  rw [leftState, rightState, replay_eq_of_perm commutes _ perm]

namespace CaughtUp

variable {rearranged : List (OperationMessage ω)} {other : OperationReplica σ}
  {otherInbox : Inbox (OperationMessage ω)}

theorem rearrange (caughtUp : CaughtUp start received replica inbox)
    (perm : received.Perm rearranged) : CaughtUp start rearranged replica inbox := by
  have unbroken_iff (origin : ReplicaId) (number : Nat) :
      Unbroken start received origin number ↔ Unbroken start rearranged origin number := by
    simp only [Unbroken, perm.mem_iff]
  obtain ⟨applied, areReceived, rest⟩ := caughtUp.applied
  exact {
    named := caughtUp.named
    owned := caughtUp.owned
    raised := caughtUp.raised
    applied := ⟨applied, fun _ isApplied => perm.mem_iff.mp (areReceived isApplied), rest⟩
    reached := fun origin => (unbroken_iff origin _).mp (caughtUp.reached origin)
    furthest := fun origin number unbroken =>
      caughtUp.furthest origin number ((unbroken_iff origin number).mpr unbroken)
    queued := caughtUp.queued.trans (perm.filter _)
    apart := caughtUp.apart }

/-- The received messages determine the replica, and the queue but for its order. -/
theorem agree (left : CaughtUp start received replica inbox)
    (right : CaughtUp start received other otherInbox) (commutes : Commutes σ)
    (coherent : Coherent received) :
    replica = other ∧ inbox.messages.Perm otherInbox.messages := by
  have counts (origin : ReplicaId) : replica.version.get origin = other.version.get origin :=
    Nat.le_antisymm (right.furthest origin _ (left.reached origin))
      (left.furthest origin _ (right.reached origin))
  have sameVersion : replica.version = other.version := left.raised.eq_of_get right.raised counts
  have sameState := left.toProgress.state_eq commutes coherent right.toProgress counts
  have sameId := left.named.trans right.named.symm
  have sameOwner := left.owned.trans right.owned.symm
  have queued := left.queued
  rw [sameVersion] at queued
  refine ⟨?_, queued.trans right.queued.symm⟩
  obtain ⟨id, state, owner, vector⟩ := replica
  obtain ⟨id', state', owner', vector'⟩ := other
  cases sameId
  cases sameState
  cases sameOwner
  cases sameVersion
  rfl

end CaughtUp

/-- What an apply cycle leaves behind is told by the received messages, whatever their origins and
numbers, and whatever cycles went before; and for coherent messages it is the same replica, and
the same queue but for its order, after every order of arrival. -/
structure IgnoresArrivalOrder (σ : Type) {ω : Type} [Operational σ ω] : Prop where
  catchesUp : ∀ {order : InboxOrder} {start replica : OperationReplica σ}
    {received : List (OperationMessage ω)} {inbox : Inbox (OperationMessage ω)},
    start.version.isDotted = false → Served order start received replica inbox →
    CaughtUp start received (inbox.applyPending Updatable.update replica).replica
      (inbox.applyPending Updatable.update replica).inbox
  agrees : ∀ {order order' : InboxOrder} {start replica other : OperationReplica σ}
    {received rearranged : List (OperationMessage ω)}
    {inbox otherInbox : Inbox (OperationMessage ω)},
    start.version.isDotted = false → Coherent received → received.Perm rearranged →
    Served order start received replica inbox →
    Served order' start rearranged other otherInbox →
    (inbox.applyPending Updatable.update replica).replica =
        (otherInbox.applyPending Updatable.update other).replica ∧
      (inbox.applyPending Updatable.update replica).inbox.messages.Perm
        (otherInbox.applyPending Updatable.update other).inbox.messages

theorem ignoresArrivalOrder_of_commutes (commutes : Commutes σ) : IgnoresArrivalOrder σ where
  catchesUp cumulative served := served.caughtUp cumulative
  agrees cumulative coherent perm served otherServed :=
    (served.caughtUp cumulative).agree ((otherServed.caughtUp cumulative).rearrange perm.symm)
      commutes coherent

theorem replicated_sets_ignore_arrival_order (α : Type) [Ord α] [Std.TransOrd α]
    [Std.LawfulEqOrd α] [Diagnostic α] :
    IgnoresArrivalOrder (GrowSet α) ∧ IgnoresArrivalOrder (TwoPhaseSet α) :=
  ⟨ignoresArrivalOrder_of_commutes (GrowSet.commutes α),
    ignoresArrivalOrder_of_commutes (TwoPhaseSet.commutes α)⟩

/-- A replica that has seen one event of an origin receives the second of them twice, the third, the
fifth and the last that there can be, and an event without a number. Without the fourth it comes as
far as the third, in whatever order the messages come and whenever a cycle is run. -/
theorem missing_event_holds_back_later_ones :
    let start : OperationReplica (GrowSet Nat) :=
      .ofState ⟨9⟩ (.ofList [(⟨1⟩, ⟨1, by decide⟩)]) default
    let message (clock : Clock 64) : OperationMessage (SetOperation Nat) :=
      ⟨⟨⟨1⟩, clock⟩, .add [clock.value]⟩
    let received := [⟨5, by decide⟩, ⟨3, by decide⟩, ⟨Word.size 64 - 1, by decide⟩,
      ⟨2, by decide⟩, .zero, ⟨2, by decide⟩].map message
    ∃ (replica other : OperationReplica (GrowSet Nat))
      (inbox otherInbox : Inbox (OperationMessage (SetOperation Nat))),
      Served .oldestFirst start received replica inbox ∧
      Served .oldestFirst start received.reverse other otherInbox ∧
      let settled := inbox.applyPending Updatable.update replica
      settled.replica.version.get ⟨1⟩ = 3 ∧
      (settled.inbox.messages.map (·.dot.clock.value)).Perm [5, Word.size 64 - 1] ∧
      settled.replica = (otherInbox.applyPending Updatable.update other).replica := by
  intro start message received
  have served : Served .oldestFirst start received _ _ :=
    (((((Served.fresh.receive _).receive _).apply.receive _).receive _).receive _).receive _
  have otherServed : Served .oldestFirst start received.reverse _ _ :=
    ((((((Served.fresh.receive _).apply.receive _).receive _).receive _).apply.receive
      _).apply.receive _).apply
  have coherent : Coherent received := by
    intro first isFirst second isSecond sameDot
    obtain ⟨clock, _, rfl⟩ := List.mem_map.mp isFirst
    obtain ⟨other, _, rfl⟩ := List.mem_map.mp isSecond
    exact congrArg (fun dot => SetOperation.add [dot.clock.value]) sameDot
  -- No cycle is evaluated: the version and the queue are told by the received messages.
  have told {replica : OperationReplica (GrowSet Nat)}
      {inbox : Inbox (OperationMessage (SetOperation Nat))}
      (caughtUp : CaughtUp start received replica inbox) : replica.version.get ⟨1⟩ = 3 ∧
        (inbox.messages.map (·.dot.clock.value)).Perm [5, Word.size 64 - 1] := by
    have third : replica.version.get ⟨1⟩ = 3 := by
      refine Nat.le_antisymm (Nat.le_of_not_lt fun beyond => ?_)
        (caughtUp.furthest ⟨1⟩ 3 ⟨by decide, fun earlier above below => ?_⟩)
      · exact absurd ((caughtUp.reached ⟨1⟩).2 4 (by decide) beyond) (by decide)
      · have began : start.version.get ⟨1⟩ = 1 := rfl
        obtain rfl | rfl : earlier = 2 ∨ earlier = 3 := by omega
        · decide
        · decide
    have beyond : received.filter (fun message => replica.version.get message.dot.id <
        message.dot.clock.value) = received.filter fun message => 3 < message.dot.clock.value := by
      refine List.filter_congr fun message isReceived => ?_
      obtain ⟨clock, _, rfl⟩ := List.mem_map.mp isReceived
      rw [third]
    have queued := caughtUp.queued.map (·.dot.clock.value)
    rw [beyond] at queued
    exact ⟨third, queued⟩
  have ignores := (replicated_sets_ignore_arrival_order Nat).1
  have agreed := ignores.agrees rfl coherent (List.reverse_perm received).symm served otherServed
  obtain ⟨third, queued⟩ := told (ignores.catchesUp rfl served)
  exact ⟨_, _, _, _, served, otherServed, third, queued, agreed.1⟩

end Confluence.OperationReplica

import Mathlib
import Confluence.Proofs.Replication.InboxProperties

/-!
The passes of an apply cycle, call by call. The calls that a cycle makes are those that its passes
list: an update function that keeps a record of its calls sees exactly them. From the list it can be
read what becomes of every message, how often a cycle goes through the queue, and in which order.

Nothing is assumed of the update function. Whether it accepts a message may depend on the replica in
any way, and the replica may change even when it refuses.
-/

set_option autoImplicit false

namespace Confluence

/-- One call of an update function: the message that is offered and the replica as the call finds
it. -/
structure Attempt (μ ρ : Type) where
  queued : Queued μ
  replica : ρ

namespace Attempt

variable {μ ρ : Type}

def call (attempt : Attempt μ ρ) : ρ × μ := (attempt.replica, attempt.queued.message)

def succeeded (update : ρ → μ → Except ReplicationError Unit × ρ) (attempt : Attempt μ ρ) : Bool :=
  (update attempt.replica attempt.queued.message).1.isOk

end Attempt

/-- Which of two messages an inbox of this order serves first: the one of the lower or of the higher
rank, and of equal ranks the one that arrived first. -/
def InboxOrder.ServesFirst {μ : Type} [Message μ] (first second : Queued μ) : InboxOrder → Prop
  | .oldestFirst => Message.rank first.message < Message.rank second.message ∨
      Message.rank first.message = Message.rank second.message ∧ first.arrival < second.arrival
  | .newestFirst => Message.rank second.message < Message.rank first.message ∨
      Message.rank first.message = Message.rank second.message ∧ first.arrival < second.arrival

namespace Inbox

variable {μ ρ : Type}

/-- The calls of one pass, in their order. -/
def attempts (update : ρ → μ → Except ReplicationError Unit × ρ) :
    List (Queued μ) → ρ → List (Attempt μ ρ)
  | [], _ => []
  | queued :: later, replica =>
    ⟨queued, replica⟩ :: attempts update later (update replica queued.message).2

/-- The passes of an apply cycle, each as the list of its calls. -/
def attemptsByPass (update : ρ → μ → Except ReplicationError Unit × ρ) (replica : ρ)
    (inbox : Inbox μ) : List (List (Attempt μ ρ)) :=
  let (next, refused) := pass update inbox.due replica
  let calls := attempts update inbox.due replica
  if _progress : refused ≠ [] ∧ refused.length < inbox.queue.length then
    calls :: attemptsByPass update next { inbox with queue := refused }
  else [calls]
termination_by inbox.queue.length

/-- The calls of a cycle that accepted their message. -/
def successes (update : ρ → μ → Except ReplicationError Unit × ρ) (replica : ρ)
    (inbox : Inbox μ) : List (Attempt μ ρ) :=
  (attemptsByPass update replica inbox).flatten.filter (·.succeeded update)

variable {update : ρ → μ → Except ReplicationError Unit × ρ}

/-! ## One pass -/

@[simp] theorem map_queued_attempts (update : ρ → μ → Except ReplicationError Unit × ρ)
    (queue : List (Queued μ)) (replica : ρ) :
    (attempts update queue replica).map (·.queued) = queue := by
  induction queue generalizing replica with
  | nil => rfl
  | cons first later ih => exact congrArg (first :: ·) (ih _)

theorem refused_eq_filter (queue : List (Queued μ)) (replica : ρ) :
    (pass update queue replica).2 =
      ((attempts update queue replica).filter (!·.succeeded update)).map (·.queued) := by
  induction queue generalizing replica with
  | nil => rfl
  | cons first later ih =>
      cases outcome : (update replica first.message).1 with
      | ok _ =>
          rw [pass_cons_of_accepted outcome, ih]
          simp [attempts, Attempt.succeeded, outcome, Except.isOk, Except.toBool]
      | error _ =>
          rw [pass_cons_of_refused outcome, ih]
          simp [attempts, Attempt.succeeded, outcome, Except.isOk, Except.toBool]

/-- Every message of a pass is either accepted or put back. -/
theorem perm_pass (update : ρ → μ → Except ReplicationError Unit × ρ)
    (queue : List (Queued μ)) (replica : ρ) :
    queue.Perm (((attempts update queue replica).filter (·.succeeded update)).map (·.queued) ++
      (pass update queue replica).2) := by
  have split := (List.filter_append_perm (·.succeeded update)
    (attempts update queue replica)).map (·.queued)
  rw [map_queued_attempts, List.map_append] at split
  rw [refused_eq_filter]
  exact split.symm

/-- A pass that puts back as many messages as it took has accepted none. -/
theorem all_refused_of_length_le {queue : List (Queued μ)} {replica : ρ}
    (whole : queue.length ≤ (pass update queue replica).2.length) :
    (∀ attempt ∈ attempts update queue replica, attempt.succeeded update = false) ∧
      (pass update queue replica).2 = queue := by
  have offered := congrArg List.length (map_queued_attempts update queue replica)
  rw [refused_eq_filter, List.length_map] at whole
  rw [List.length_map] at offered
  have all := List.length_filter_eq_length_iff.mp
    (Nat.le_antisymm (List.length_filter_le _ _) (Nat.le_trans (Nat.le_of_eq offered) whole))
  refine ⟨fun attempt isCall => ?_, ?_⟩
  · simpa using all attempt isCall
  · rw [refused_eq_filter, List.filter_eq_self.mpr all, map_queued_attempts]

/-! ## Cycles -/

theorem attemptsByPass_of_pass {replica next : ρ} {inbox : Inbox μ} {refused : List (Queued μ)}
    (passed : pass update inbox.due replica = (next, refused))
    (finished : ¬ (refused ≠ [] ∧ refused.length < inbox.queue.length)) :
    attemptsByPass update replica inbox = [attempts update inbox.due replica] := by
  rw [attemptsByPass]
  simp only [passed]
  rw [dif_neg finished]

theorem attemptsByPass_again {replica next : ρ} {inbox : Inbox μ} {refused : List (Queued μ)}
    (passed : pass update inbox.due replica = (next, refused))
    (progress : refused ≠ [] ∧ refused.length < inbox.queue.length) :
    attemptsByPass update replica inbox = attempts update inbox.due replica ::
      attemptsByPass update next { inbox with queue := refused } := by
  rw [attemptsByPass]
  simp only [passed]
  rw [dif_pos progress]

theorem length_attemptsByPass_le (replica : ρ) (inbox : Inbox μ) :
    (attemptsByPass update replica inbox).length ≤ inbox.queue.length + 1 := by
  induction replica, inbox using cycle_induction update with
  | last passed finished =>
      rw [attemptsByPass_of_pass passed finished]
      exact Nat.succ_le_succ (Nat.zero_le _)
  | again passed progress ih =>
      rw [attemptsByPass_again passed progress, List.length_cons]
      exact Nat.succ_le_succ (Nat.le_trans ih progress.2)

theorem successes_of_pass {replica next : ρ} {inbox : Inbox μ} {refused : List (Queued μ)}
    (passed : pass update inbox.due replica = (next, refused))
    (finished : ¬ (refused ≠ [] ∧ refused.length < inbox.queue.length)) :
    successes update replica inbox =
      (attempts update inbox.due replica).filter (·.succeeded update) := by
  rw [successes, attemptsByPass_of_pass passed finished, List.flatten_singleton]

theorem successes_again {replica next : ρ} {inbox : Inbox μ} {refused : List (Queued μ)}
    (passed : pass update inbox.due replica = (next, refused))
    (progress : refused ≠ [] ∧ refused.length < inbox.queue.length) :
    successes update replica inbox =
      (attempts update inbox.due replica).filter (·.succeeded update) ++
        successes update next { inbox with queue := refused } := by
  rw [successes, attemptsByPass_again passed progress, List.flatten_cons, List.filter_append,
    successes]

/-- The first pass of a cycle takes every message, and puts back what is refused. -/
theorem perm_first_pass {replica next : ρ} {inbox : Inbox μ} {refused : List (Queued μ)}
    (passed : pass update inbox.due replica = (next, refused)) :
    inbox.queue.Perm
      (((attempts update inbox.due replica).filter (·.succeeded update)).map (·.queued) ++
        refused) := by
  have split := perm_pass update inbox.due replica
  rw [passed] at split
  exact inbox.due_perm.symm.trans split

/-- Every message of a queue is either accepted in one call or queued still, as it was. -/
theorem perm_applyPending (replica : ρ) (inbox : Inbox μ) :
    inbox.queue.Perm ((successes update replica inbox).map (·.queued) ++
      (applyPending update replica inbox).inbox.queue) := by
  induction replica, inbox using cycle_induction update with
  | last passed finished =>
      rw [successes_of_pass passed finished, (applyPending_of_pass passed finished).2]
      exact perm_first_pass passed
  | again passed progress ih =>
      rw [successes_again passed progress, (applyPending_again passed progress).2,
        List.map_append, List.append_assoc]
      exact (perm_first_pass passed).trans (ih.append_left _)

theorem count_applyPending (replica : ρ) (inbox : Inbox μ) :
    (applyPending update replica inbox).count = (successes update replica inbox).length := by
  induction replica, inbox using cycle_induction update with
  | @last replica next inbox refused passed finished =>
      have length := (perm_first_pass passed).length_eq
      rw [List.length_append, List.length_map] at length
      rw [successes_of_pass passed finished, applyPending]
      simp only [passed]
      rw [dif_neg finished]
      exact Nat.sub_eq_of_eq_add length
  | @again replica next inbox refused passed progress ih =>
      have length := (perm_first_pass passed).length_eq
      rw [List.length_append, List.length_map] at length
      rw [successes_again passed progress, List.length_append, ← ih, applyPending]
      simp only [passed, takeOut_putBack]
      rw [dif_pos progress]
      simp only
      omega

/-- Every pass goes through messages that were queued when the cycle began, each at most once, in
the order in which they are due. -/
theorem pass_of_cycle {replica : ρ} {inbox : Inbox μ} {calls : List (Attempt μ ρ)}
    (isPass : calls ∈ attemptsByPass update replica inbox) :
    (∃ gone, inbox.queue.Perm (gone ++ calls.map (·.queued))) ∧
      calls.Pairwise fun first second => first.queued.isDueBefore second.queued = true := by
  have firstPass : ∀ (replica : ρ) (inbox : Inbox μ),
      (∃ gone, inbox.queue.Perm (gone ++ (attempts update inbox.due replica).map (·.queued))) ∧
        (attempts update inbox.due replica).Pairwise fun first second =>
          first.queued.isDueBefore second.queued = true := by
    intro replica inbox
    have inOrder := inbox.pairwise_due
    rw [← map_queued_attempts update inbox.due replica, List.pairwise_map] at inOrder
    refine ⟨⟨[], ?_⟩, inOrder⟩
    rw [map_queued_attempts]
    exact inbox.due_perm.symm
  induction replica, inbox using cycle_induction update with
  | last passed finished =>
      rw [attemptsByPass_of_pass passed finished] at isPass
      obtain rfl := List.mem_singleton.mp isPass
      exact firstPass _ _
  | again passed progress ih =>
      rw [attemptsByPass_again passed progress] at isPass
      rcases List.mem_cons.mp isPass with rfl | isLater
      · exact firstPass _ _
      · obtain ⟨⟨gone, left⟩, inOrder⟩ := ih isLater
        have gather := (perm_first_pass passed).trans (left.append_left _)
        rw [← List.append_assoc] at gather
        exact ⟨⟨_, gather⟩, inOrder⟩

/-- A cycle ends with an empty queue, or with a pass that goes through all of what is queued in the
end and accepts nothing. -/
theorem last_pass (replica : ρ) (inbox : Inbox μ) :
    (applyPending update replica inbox).inbox.queue = [] ∨
      ∃ calls, (attemptsByPass update replica inbox).getLast? = some calls ∧
        (∀ attempt ∈ calls, attempt.succeeded update = false) ∧
        calls.map (·.queued) = (applyPending update replica inbox).inbox.queue := by
  induction replica, inbox using cycle_induction update with
  | @last replica next inbox refused passed finished =>
      rw [(applyPending_of_pass passed finished).2]
      by_cases empty : refused = []
      · exact .inl empty
      · have whole : inbox.due.length ≤ (pass update inbox.due replica).2.length := by
          rw [passed, due, List.length_mergeSort]
          exact Nat.le_of_not_lt fun less => finished ⟨empty, less⟩
        obtain ⟨noSuccess, same⟩ := all_refused_of_length_le whole
        refine .inr ⟨attempts update inbox.due replica, ?_, noSuccess, ?_⟩
        · rw [attemptsByPass_of_pass passed finished, List.getLast?_singleton]
        · rw [map_queued_attempts, ← same, passed]
  | again passed progress ih =>
      rw [attemptsByPass_again passed progress, (applyPending_again passed progress).2]
      rcases ih with empty | ⟨calls, isLast, rest⟩
      · exact .inl empty
      · refine .inr ⟨calls, ?_, rest⟩
        rw [List.getLast?_cons, isLast, Option.getD_some]

/-- A cycle changes nothing of an inbox but its queue. -/
theorem inbox_applyPending (replica : ρ) (inbox : Inbox μ) :
    (applyPending update replica inbox).inbox =
      { inbox with queue := (applyPending update replica inbox).inbox.queue } := by
  induction replica, inbox using cycle_induction update with
  | last passed finished => rw [(applyPending_of_pass passed finished).2]
  | again passed progress ih => rw [(applyPending_again passed progress).2, ih]

/-! ## The record of an update function -/

/-- The update function that keeps a record of its calls beside the replica. -/
def recording (update : ρ → μ → Except ReplicationError Unit × ρ) (state : ρ × List (ρ × μ))
    (message : μ) : Except ReplicationError Unit × (ρ × List (ρ × μ)) :=
  ((update state.1 message).1, (update state.1 message).2, state.2 ++ [(state.1, message)])

theorem pass_recording (update : ρ → μ → Except ReplicationError Unit × ρ)
    (queue : List (Queued μ)) (replica : ρ) (calls : List (ρ × μ)) :
    pass (recording update) queue (replica, calls) =
      (((pass update queue replica).1, calls ++ (attempts update queue replica).map Attempt.call),
        (pass update queue replica).2) := by
  induction queue generalizing replica calls with
  | nil => simp [pass, attempts]
  | cons first later ih =>
      have recorded : recording update (replica, calls) first.message =
        ((update replica first.message).1, (update replica first.message).2,
          calls ++ [(replica, first.message)]) := rfl
      cases outcome : (update replica first.message).1 with
      | ok _ => simp [pass, recorded, outcome, ih, attempts, Attempt.call]
      | error _ => simp [pass, recorded, outcome, ih, attempts, Attempt.call]

theorem applyPending_recording (replica : ρ) (inbox : Inbox μ) (calls : List (ρ × μ)) :
    (applyPending (recording update) (replica, calls) inbox).replica =
      ((applyPending update replica inbox).replica,
        calls ++ (attemptsByPass update replica inbox).flatten.map Attempt.call) := by
  induction replica, inbox using cycle_induction update generalizing calls with
  | @last replica next inbox refused passed finished =>
      have recorded := pass_recording update inbox.due replica calls
      rw [passed] at recorded
      rw [(applyPending_of_pass recorded finished).1, (applyPending_of_pass passed finished).1,
        attemptsByPass_of_pass passed finished, List.flatten_singleton]
  | @again replica next inbox refused passed progress ih =>
      have recorded := pass_recording update inbox.due replica calls
      rw [passed] at recorded
      rw [(applyPending_again recorded progress).1, (applyPending_again passed progress).1, ih,
        attemptsByPass_again passed progress, List.flatten_cons, List.map_append, List.append_assoc]

/-! ## Inboxes of channels -/

section Arrivals

variable [Message μ] {order : InboxOrder} {received : List μ} {queue left : List (Queued μ)}

/-- What a queue holds of the messages received so far: each under the number of its arrival, with
the priority of its rank, and none twice. -/
structure Filed (order : InboxOrder) (received : List μ) (queue : List (Queued μ)) : Prop where
  arrived : ∀ queued ∈ queue, received[queued.arrival]? = some queued.message
  ranked : ∀ queued ∈ queue, queued.priority = order.priority (Message.rank queued.message)
  distinct : (queue.map (·.arrival)).Nodup

namespace Filed

theorem of_perm (filed : Filed order received queue) {gone : List (Queued μ)}
    (split : queue.Perm (gone ++ left)) : Filed order received left := by
  have isQueued : ∀ queued ∈ left, queued ∈ queue := fun queued stays =>
    split.mem_iff.mpr (List.mem_append_right _ stays)
  have distinct := (split.map (·.arrival)).nodup_iff.mp filed.distinct
  rw [List.map_append] at distinct
  exact ⟨fun queued stays => filed.arrived queued (isQueued queued stays),
    fun queued stays => filed.ranked queued (isQueued queued stays),
    distinct.sublist (List.sublist_append_right _ _)⟩

theorem receive (filed : Filed order received queue) (message : μ) :
    Filed order (received ++ [message]) (queue ++
      [⟨order.priority (Message.rank message), received.length, message⟩]) := by
  have early : ∀ queued ∈ queue, queued.arrival < received.length := fun queued isQueued =>
    (List.getElem?_eq_some_iff.mp (filed.arrived queued isQueued)).1
  refine ⟨?_, ?_, ?_⟩
  · refine List.forall_mem_append.mpr ⟨fun queued isQueued => ?_, ?_⟩
    · rw [List.getElem?_append_left (early queued isQueued)]
      exact filed.arrived queued isQueued
    · exact List.forall_mem_singleton.mpr List.getElem?_concat_length
  · exact List.forall_mem_append.mpr ⟨filed.ranked, List.forall_mem_singleton.mpr rfl⟩
  · rw [List.map_append, List.nodup_append]
    refine ⟨filed.distinct, List.pairwise_singleton _ _, ?_⟩
    rintro arrival earlier other isNew rfl
    obtain ⟨queued, isQueued, rfl⟩ := List.mem_map.mp earlier
    have same := List.mem_singleton.mp isNew
    exact Nat.ne_of_lt (early queued isQueued) same

/-- Equal priorities are equal ranks, and no two messages arrived at once. -/
theorem servesFirst (filed : Filed order received queue) {first second : Queued μ}
    (isFirst : first ∈ queue) (isSecond : second ∈ queue) (apart : first.arrival ≠ second.arrival)
    (due : first.isDueBefore second = true) : order.ServesFirst first second := by
  rw [Queued.isDueBefore_iff, filed.ranked first isFirst, filed.ranked second isSecond] at due
  cases order with
  | oldestFirst =>
      simp only [InboxOrder.priority, InboxOrder.ServesFirst] at due ⊢
      omega
  | newestFirst =>
      simp only [InboxOrder.priority, InboxOrder.ServesFirst] at due ⊢
      omega

theorem eq_of_arrival (filed : Filed order received queue) {first second : Queued μ}
    (isFirst : first ∈ queue) (isSecond : second ∈ queue)
    (same : first.arrival = second.arrival) : first = second := by
  have arrived := filed.arrived first isFirst
  rw [same, filed.arrived second isSecond] at arrived
  have message : second.message = first.message := Option.some.inj arrived
  have priority := filed.ranked first isFirst
  rw [← message, ← filed.ranked second isSecond] at priority
  cases first
  cases second
  cases same
  cases message
  cases priority
  rfl

/-- A message of which the number is found in one part of a divided queue is in that part. -/
theorem mem_of_arrival (filed : Filed order received queue) {gone : List (Queued μ)}
    (split : queue.Perm (gone ++ left)) {queued : Queued μ} (isQueued : queued ∈ queue)
    (stays : queued.arrival ∈ left.map (·.arrival)) : queued ∈ left := by
  obtain ⟨other, isLeft, same⟩ := List.mem_map.mp stays
  have otherQueued := split.mem_iff.mpr (List.mem_append_right _ isLeft)
  exact filed.eq_of_arrival otherQueued isQueued same ▸ isLeft

/-- Of a queue that is divided, every message is in one of the two parts, and there once. -/
theorem count_of_perm (filed : Filed order received queue) {gone : List (Queued μ)}
    (split : queue.Perm (gone ++ left)) {queued : Queued μ} (isQueued : queued ∈ queue) :
    (queued ∉ left ∧ gone.countP (·.arrival == queued.arrival) = 1) ∨
      (queued ∈ left ∧ gone.countP (·.arrival == queued.arrival) = 0) := by
  have total : (queue.map (·.arrival)).count queued.arrival = 1 :=
    List.count_eq_one_of_mem filed.distinct (List.mem_map_of_mem isQueued)
  rw [(split.map (·.arrival)).count_eq, List.map_append, List.count_append] at total
  have served : (gone.map (·.arrival)).count queued.arrival =
      gone.countP (·.arrival == queued.arrival) := List.countP_map
  rw [served] at total
  by_cases stays : queued ∈ left
  · have counted : 0 < (left.map (·.arrival)).count queued.arrival :=
      List.count_pos_iff.mpr (List.mem_map_of_mem stays)
    exact .inr ⟨stays, by omega⟩
  · have absent : (left.map (·.arrival)).count queued.arrival = 0 :=
      List.count_eq_zero.mpr fun found => stays (filed.mem_of_arrival split isQueued found)
    exact .inl ⟨stays, by omega⟩

end Filed

/-- An inbox with the messages that it has received so far, in the order of their arrival. Between
two cycles the replica may change in any way. -/
inductive Lived (order : InboxOrder) (update : ρ → μ → Except ReplicationError Unit × ρ) :
    List μ → Inbox μ → Prop where
  | empty : Lived order update [] .empty
  | receive {received inbox} (message : μ) : Lived order update received inbox →
      Lived order update (received ++ [message]) (inbox.enqueue order message)
  | apply {received inbox} (replica : ρ) : Lived order update received inbox →
      Lived order update received (applyPending update replica inbox).inbox

theorem Lived.filed {inbox : Inbox μ} (lived : Lived order update received inbox) :
    Filed order received inbox.queue ∧ inbox.nextArrival = received.length ∧
      inbox.applying = 0 := by
  induction lived with
  | empty =>
      refine ⟨⟨?_, ?_, List.nodup_nil⟩, rfl, rfl⟩
      · exact fun _ absent => absurd absent List.not_mem_nil
      · exact fun _ absent => absurd absent List.not_mem_nil
  | receive message _ ih =>
      obtain ⟨filed, next, idle⟩ := ih
      refine ⟨?_, ?_, idle⟩
      · simp only [enqueue, next]
        exact filed.receive message
      · simp only [enqueue, next, List.length_append, List.length_singleton]
  | apply replica _ ih =>
      obtain ⟨filed, next, idle⟩ := ih
      rw [inbox_applyPending]
      exact ⟨filed.of_perm (perm_applyPending replica _), next, idle⟩

end Arrivals

/-! ## The account of a cycle -/

/-- What an apply cycle does with any queue, by the calls that it makes. -/
structure Accounted (update : ρ → μ → Except ReplicationError Unit × ρ) (replica : ρ)
    (inbox : Inbox μ) : Prop where
  /-- A record of the calls lists those of the passes. -/
  observed : (applyPending (recording update) (replica, []) inbox).replica =
    ((applyPending update replica inbox).replica,
      (attemptsByPass update replica inbox).flatten.map Attempt.call)
  bounded : (attemptsByPass update replica inbox).length ≤ inbox.queue.length + 1
  /-- What leaves the queue was accepted in one call; the rest stays as it was. -/
  conserved : inbox.queue.Perm ((successes update replica inbox).map (·.queued) ++
    (applyPending update replica inbox).inbox.queue)
  counted : (applyPending update replica inbox).count = (successes update replica inbox).length
  settled : (applyPending update replica inbox).inbox.applying = inbox.applying
  pending_iff : inbox.applying = 0 → ((applyPending update replica inbox).inbox.hasPending = true ↔
    (applyPending update replica inbox).inbox.queue ≠ [])
  inTurn : ∀ calls ∈ attemptsByPass update replica inbox, calls.Pairwise fun first second =>
    first.queued.isDueBefore second.queued = true
  exhausted : (applyPending update replica inbox).inbox.queue = [] ∨
    ∃ calls, (attemptsByPass update replica inbox).getLast? = some calls ∧
      (∀ attempt ∈ calls, attempt.succeeded update = false) ∧
      calls.map (·.queued) = (applyPending update replica inbox).inbox.queue

/-- What holds besides of an inbox that was filled by messages as they arrived, and emptied by
earlier cycles only. -/
structure ServedInTurn [Message μ] (order : InboxOrder)
    (update : ρ → μ → Except ReplicationError Unit × ρ) (received : List μ) (replica : ρ)
    (inbox : Inbox μ) : Prop where
  filed : Filed order received inbox.queue
  idle : inbox.applying = 0
  once : ∀ queued ∈ inbox.queue,
    (queued ∉ (applyPending update replica inbox).inbox.queue ∧
      ((successes update replica inbox).map (·.queued)).countP
        (·.arrival == queued.arrival) = 1) ∨
    (queued ∈ (applyPending update replica inbox).inbox.queue ∧
      ((successes update replica inbox).map (·.queued)).countP
        (·.arrival == queued.arrival) = 0)
  byRank : ∀ calls ∈ attemptsByPass update replica inbox, calls.Pairwise fun first second =>
    order.ServesFirst first.queued second.queued

theorem accounted (update : ρ → μ → Except ReplicationError Unit × ρ) (replica : ρ)
    (inbox : Inbox μ) : Accounted update replica inbox where
  observed := applyPending_recording replica inbox []
  bounded := length_attemptsByPass_le replica inbox
  conserved := perm_applyPending replica inbox
  counted := count_applyPending replica inbox
  settled := by rw [inbox_applyPending]
  pending_iff idle := by
    have settled : (applyPending update replica inbox).inbox.applying = 0 := by
      rw [inbox_applyPending]
      exact idle
    simp [hasPending, settled]
  inTurn _ isPass := (pass_of_cycle isPass).2
  exhausted := last_pass replica inbox

theorem Lived.servedInTurn [Message μ] {order : InboxOrder} {received : List μ} {inbox : Inbox μ}
    (lived : Lived order update received inbox) (replica : ρ) :
    ServedInTurn order update received replica inbox := by
  obtain ⟨filed, _, idle⟩ := lived.filed
  refine ⟨filed, idle, ?_, ?_⟩
  · exact fun queued isQueued => filed.count_of_perm (perm_applyPending replica inbox) isQueued
  · intro calls isPass
    obtain ⟨⟨gone, split⟩, inTurn⟩ := pass_of_cycle isPass
    have offered := filed.of_perm split
    have distinct := offered.distinct
    rw [List.map_map, List.Nodup, List.pairwise_map] at distinct
    refine (inTurn.and distinct).imp_of_mem fun isFirst isSecond both => ?_
    exact offered.servesFirst (List.mem_map_of_mem isFirst) (List.mem_map_of_mem isSecond)
      both.2 both.1

/-- Every apply cycle, whatever the replica does with the messages, keeps account of the queue, and
serves an inbox that is filled as messages arrive in the order of their ranks and arrivals. -/
theorem apply_cycles_keep_account (update : ρ → μ → Except ReplicationError Unit × ρ) :
    (∀ replica inbox, Accounted update replica inbox) ∧
      ∀ [Message μ] (order : InboxOrder) (received : List μ) (inbox : Inbox μ),
        Lived order update received inbox →
          ∀ replica, ServedInTurn order update received replica inbox :=
  ⟨accounted update, fun _ _ _ lived => lived.servedInTurn⟩

/-- A replica that applies operations by their numbers gets them last first, and its inbox serves
the newest first. Every pass applies one of them; the fifth, of which the predecessor is missing, is
offered in every pass and stays. -/
theorem newest_first_applies_one_a_pass :
    let update (next : Nat) (message : OperationMessage Unit) :
        Except ReplicationError Unit × Nat :=
      if Message.rank message = next then (.ok (), next + 1)
      else (.error (.outOfOrder message.dot.id next (Message.rank message)), next)
    ∃ (received : List (OperationMessage Unit)) (inbox : Inbox (OperationMessage Unit)),
      received.map Message.rank = [5, 2, 1, 3] ∧ Lived .newestFirst update received inbox ∧
      (attemptsByPass update 1 inbox).map (·.map fun attempt =>
        Message.rank attempt.queued.message) = [[5, 3, 2, 1], [5, 3, 2], [5, 3], [5]] ∧
      (applyPending update 1 inbox).count = 3 ∧
      (applyPending update 1 inbox).inbox.hasPending = true ∧
      Accounted update 1 inbox ∧ ServedInTurn .newestFirst update received 1 inbox := by
  intro update
  let message (number : Fin 6) : OperationMessage Unit :=
    ⟨⟨⟨1⟩, number, Nat.lt_trans number.isLt (by decide)⟩, ()⟩
  have lived : Lived .newestFirst update _ _ :=
    (((Lived.empty.receive (message 5)).receive (message 2)).receive (message 1)).receive
      (message 3)
  have account := apply_cycles_keep_account update
  exact ⟨_, _, rfl, lived, by cbv, by cbv, by cbv,
    account.1 1 _, account.2 .newestFirst _ _ lived 1⟩

end Inbox

end Confluence

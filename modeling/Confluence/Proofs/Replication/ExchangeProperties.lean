import Confluence.Replication.Exchange

/-!
The books of an exchange: what a publication enters and what a fan-out cycle strikes off. A cycle in
which all destinations accept everything leaves nothing pending.
-/

set_option autoImplicit false

namespace Confluence.Exchange

variable {μ ε : Type} [Message μ] {exchange next : Exchange μ ε} {message : μ}
  {error : ReplicationError}

/-! ## Attaching -/

theorem attach_eq_ok {id : ReplicaId} {endpoint : ε}
    (done : exchange.attach id endpoint = .ok next) :
    exchange.isClosed = false ∧ exchange.endpoints.get? id = none ∧
      next = { exchange with endpoints := exchange.endpoints.insert id endpoint } := by
  unfold attach at done
  split at done
  · cases done
  next isOpen =>
    split at done
    · cases done
    next free =>
      cases done
      exact ⟨Bool.eq_false_iff.mpr isOpen, Option.not_isSome_iff_eq_none.mp free, rfl⟩

theorem endpoints_detach (exchange : Exchange μ ε) (id query : ReplicaId) :
    (exchange.detach id).endpoints.get? query =
      if query = id then none else exchange.endpoints.get? query := by
  unfold Exchange.detach
  split
  next attached =>
    simp only [release, OrderedMap.get?_erase]
    by_cases same : query = id
    · simp [same]
    · have different : id ≠ query := fun equal => same equal.symm
      simp [same, different]
  next free =>
    split
    next same =>
      rw [same]
      exact Option.not_isSome_iff_eq_none.mp free
    next => rfl

/-! ## Publishing -/

theorem publish_ok (isOpen : exchange.isClosed = false)
    (unreserved : ∀ key ∈ exchange.reserved, (key == Message.key message) = false) :
    ∃ next, exchange.publish message = .ok next := by
  have free : (exchange.reserved.any fun key => key == Message.key message) = false :=
    List.any_eq_false.mpr fun key reserved => by simp [unreserved key reserved]
  unfold publish
  rw [isOpen, free]
  simp only [Bool.false_eq_true, ↓reduceIte]
  split
  · exact ⟨exchange, rfl⟩
  · exact ⟨_, rfl⟩

/-- An exchange that takes a message is open, and has it pending if there is anyone to address. -/
theorem publish_eq_ok (done : exchange.publish message = .ok next) :
    exchange.isClosed = false ∧
      ((∀ id ∈ exchange.endpoints.keys, id = Message.origin message) ∧ next = exchange ∨
        (∃ id, id ∈ exchange.endpoints.keys.erase (Message.origin message)) ∧
          next = { exchange with
            pending := exchange.pending ++ [⟨exchange.nextNumber, message,
              exchange.endpoints.keys.erase (Message.origin message)⟩]
            reserved := Message.key message :: exchange.reserved
            nextNumber := exchange.nextNumber + 1 }) := by
  unfold publish at done
  split at done
  · cases done
  next isOpen =>
    refine ⟨Bool.eq_false_iff.mpr isOpen, ?_⟩
    split at done
    · cases done
    · simp only at done
      split at done
      next nobody =>
        cases done
        refine .inl ⟨?_, rfl⟩
        intro id attached
        refine Classical.byContradiction fun other => ?_
        exact OrderedSet.isEmpty_iff.mp nobody id
          (OrderedSet.mem_erase.mpr ⟨attached, Ne.symm other⟩)
      next somebody =>
        cases done
        rw [OrderedSet.isEmpty_iff] at somebody
        exact .inr ⟨Classical.not_forall_not.mp somebody, rfl⟩

/-- Why an exchange does not take a message. -/
inductive Refuses (exchange : Exchange μ ε) (message : μ) : ReplicationError → Prop where
  | closed : exchange.isClosed = true → Refuses exchange message .channelClosed
  | pending {key : Message.Key μ} : exchange.isClosed = false → key ∈ exchange.reserved →
      (key == Message.key message) = true →
      Refuses exchange message (.duplicateMessage (diagnostic (Message.key message)))

theorem publish_eq_error_iff :
    exchange.publish message = .error error ↔ exchange.Refuses message error := by
  unfold publish
  constructor
  · intro failed
    cases shut : exchange.isClosed with
    | true =>
        rw [shut] at failed
        cases failed
        exact .closed shut
    | false =>
        rw [shut, if_neg Bool.false_ne_true] at failed
        split at failed
        next taken =>
          cases failed
          obtain ⟨key, isReserved, same⟩ := List.any_eq_true.mp taken
          exact .pending shut isReserved same
        next =>
          simp only at failed
          split at failed
          · cases failed
          · cases failed
  · intro refuses
    cases refuses with
    | closed shut => rw [shut, if_pos rfl]
    | pending isOpen isReserved same =>
        rw [isOpen, if_neg Bool.false_ne_true, if_pos (List.any_eq_true.mpr ⟨_, isReserved, same⟩)]

/-- The message is pending for every endpoint but its origin, beside what was pending before. -/
theorem pending_of_publish (done : exchange.publish message = .ok next) :
    (next.pending.map (·.message)).Sublist (exchange.pending.map (·.message) ++ [message]) ∧
      (∀ pending ∈ exchange.pending, pending ∈ next.pending) ∧
      ∀ id ∈ exchange.endpoints.keys, id = Message.origin message ∨
        ∃ pending ∈ next.pending, pending.message = message ∧ id ∈ pending.remaining := by
  rcases (publish_eq_ok done).2 with ⟨nobody, rfl⟩ | ⟨_, rfl⟩
  · exact ⟨List.sublist_append_left _ _, fun _ stays => stays, fun id isAttached =>
      .inl (nobody id isAttached)⟩
  · refine ⟨by simp, fun pending stays => List.mem_append_left _ stays, ?_⟩
    intro id isAttached
    by_cases same : id = Message.origin message
    · exact .inl same
    · exact .inr ⟨_, List.mem_append_right _ (.head _), rfl,
        OrderedSet.mem_erase.mpr ⟨isAttached, Ne.symm same⟩⟩

/-! ## Fan-out -/

omit [Message μ] in
theorem foldl_strike (accepted : List (Nat × ReplicaId)) (pending : Pending μ) :
    (accepted.foldl (fun pending acceptance => strike acceptance.1 acceptance.2 pending)
        pending).message = pending.message ∧
      ∀ id, id ∈ (accepted.foldl
          (fun pending acceptance => strike acceptance.1 acceptance.2 pending) pending).remaining ↔
        id ∈ pending.remaining ∧ (pending.number, id) ∉ accepted := by
  induction accepted generalizing pending with
  | nil => simp
  | cons first later ih =>
      obtain ⟨message, remaining⟩ := ih (strike first.1 first.2 pending)
      rw [List.foldl_cons]
      by_cases same : pending.number = first.1
      · have struck : strike first.1 first.2 pending =
            { pending with remaining := pending.remaining.erase first.2 } := if_pos same
        rw [struck] at message remaining ⊢
        refine ⟨message, fun id => ?_⟩
        rw [remaining, OrderedSet.mem_erase]
        obtain ⟨number, destination⟩ := first
        subst same
        simp only [List.mem_cons, Prod.mk.injEq, true_and, not_or]
        rw [and_assoc, ne_comm]
      · have kept : strike first.1 first.2 pending = pending := if_neg same
        rw [kept] at message remaining ⊢
        refine ⟨message, fun id => ?_⟩
        rw [remaining]
        obtain ⟨number, destination⟩ := first
        simp only [List.mem_cons, Prod.mk.injEq, same, false_and, false_or]

omit [Message μ] in
theorem number_foldl_strike (accepted : List (Nat × ReplicaId)) (pending : Pending μ) :
    (accepted.foldl (fun pending acceptance => strike acceptance.1 acceptance.2 pending)
      pending).number = pending.number := by
  induction accepted generalizing pending with
  | nil => rfl
  | cons first later ih =>
      rw [List.foldl_cons, ih]
      unfold strike
      split <;> rfl

theorem mem_deliveries {delivery : Delivery μ ε} :
    delivery ∈ exchange.deliveries ↔ ∃ pending ∈ exchange.pending, ∃ id ∈ pending.remaining,
      ∃ endpoint, exchange.endpoints.get? id = some endpoint ∧
        delivery = ⟨pending.number, pending.message, id, endpoint⟩ := by
  unfold deliveries
  constructor
  · intro isDue
    obtain ⟨pending, isPending, addressed⟩ := List.mem_flatMap.mp isDue
    obtain ⟨id, awaits, attached⟩ := List.mem_filterMap.mp addressed
    obtain ⟨endpoint, found, same⟩ := Option.map_eq_some_iff.mp attached
    exact ⟨pending, isPending, id, awaits, endpoint, found, same.symm⟩
  · rintro ⟨pending, isPending, id, awaits, endpoint, found, rfl⟩
    refine List.mem_flatMap.mpr ⟨pending, isPending, List.mem_filterMap.mpr ⟨id, awaits, ?_⟩⟩
    rw [found]
    rfl

/-- After a cycle in which every destination is there and accepts everything, nothing is pending
and all keys are free. -/
theorem acknowledge_deliveries [ReflBEq (Message.Key μ)]
    (attached : ∀ pending ∈ exchange.pending, ∀ id ∈ pending.remaining,
      ∃ endpoint, exchange.endpoints.get? id = some endpoint)
    (reserved : ∀ key ∈ exchange.reserved, ∃ pending ∈ exchange.pending,
      key = Message.key pending.message) :
    exchange.acknowledge (exchange.deliveries.map fun delivery =>
        (delivery.number, delivery.destination)) =
      { exchange with pending := [], reserved := [] } := by
  have struck : ∀ pending ∈ exchange.pending,
      ((exchange.deliveries.map fun delivery => (delivery.number, delivery.destination)).foldl
        (fun pending acceptance => strike acceptance.1 acceptance.2 pending)
          pending).remaining.isEmpty = true := by
    intro pending isPending
    refine OrderedSet.isEmpty_iff.mpr fun id awaits => ?_
    obtain ⟨awaited, notAccepted⟩ := ((foldl_strike _ pending).2 id).mp awaits
    obtain ⟨endpoint, found⟩ := attached pending isPending id awaited
    exact notAccepted (List.mem_map.mpr ⟨⟨pending.number, pending.message, id, endpoint⟩,
      mem_deliveries.mpr ⟨pending, isPending, id, awaited, endpoint, found, rfl⟩, rfl⟩)
  simp only [acknowledge, release]
  congr 1
  · refine List.filter_eq_nil_iff.mpr fun pending isStruck => ?_
    obtain ⟨before, isPending, rfl⟩ := List.mem_map.mp isStruck
    simp [struck before isPending]
  · refine List.filter_eq_nil_iff.mpr fun key isReserved => ?_
    obtain ⟨pending, isPending, rfl⟩ := reserved key isReserved
    simp only [Bool.not_eq_true', Bool.not_eq_false, List.any_eq_true]
    refine ⟨_, List.mem_filter.mpr ⟨List.mem_map.mpr ⟨pending, isPending, rfl⟩,
      struck pending isPending⟩, ?_⟩
    rw [(foldl_strike _ pending).1]
    exact ReflBEq.rfl (a := Message.key pending.message)

end Confluence.Exchange

import Confluence.Proofs.Replication.ExchangeBooks

/-!
The messages that still await one identifier, in the order of publishing. Each operation of an
exchange has one equation that says what it does to them, and none of them depends on what other
identifiers do. What a fan-out cycle hands out to an identifier is just what awaits it.
-/

set_option autoImplicit false

namespace Confluence.Exchange

variable {μ ε : Type} [Message μ] {exchange next : Exchange μ ε} {message : μ} {id : ReplicaId}

/-- The messages that await an identifier, with their numbers. -/
def awaiting (exchange : Exchange μ ε) (id : ReplicaId) : List (Nat × μ) :=
  (exchange.pending.filter fun pending => pending.remaining.contains id).map fun pending =>
    (pending.number, pending.message)

theorem mem_awaiting {number : Nat} :
    (number, message) ∈ exchange.awaiting id ↔ exchange.Awaits number message id := by
  unfold awaiting Awaits
  simp only [List.mem_map, List.mem_filter, OrderedSet.contains_iff, Prod.mk.injEq]
  constructor
  · rintro ⟨pending, ⟨isPending, awaits⟩, numbered, same⟩
    exact ⟨pending, isPending, numbered, same, awaits⟩
  · rintro ⟨pending, isPending, numbered, same, awaits⟩
    exact ⟨pending, ⟨isPending, awaits⟩, numbered, same⟩

theorem Coherent.rising_awaiting (coherent : exchange.Coherent) (id : ReplicaId) :
    (exchange.awaiting id).Pairwise fun earlier later => earlier.1 < later.1 :=
  List.pairwise_map.mpr (coherent.numbered.filter _)

theorem Coherent.awaiting_below (coherent : exchange.Coherent) {id : ReplicaId} :
    ∀ entry ∈ exchange.awaiting id, entry.1 < exchange.nextNumber := by
  intro entry awaits
  obtain ⟨pending, isPending, numbered, _⟩ := mem_awaiting.mp awaits
  rw [← numbered]
  exact coherent.below pending isPending

/-! ## Operations -/

theorem awaiting_release : exchange.release.awaiting id = exchange.awaiting id := by
  refine congrArg (List.map _) ((List.filter_filter ..).trans (List.filter_congr ?_))
  intro pending _
  cases awaits : pending.remaining.contains id with
  | false => rfl
  | true =>
      have somebody : pending.remaining.isEmpty = false := Bool.eq_false_iff.mpr fun nobody =>
        OrderedSet.isEmpty_iff.mp nobody id (OrderedSet.contains_iff.mp awaits)
      rw [somebody]
      rfl

/-- When destinations are struck off, what still awaits an identifier stays in order. -/
theorem awaiting_strikeOff {change : Pending μ → Pending μ} {stays : Nat × μ → Bool}
    (struck : next.pending = exchange.pending.map change)
    (same : ∀ pending, (change pending).number = pending.number ∧
      (change pending).message = pending.message)
    (fewer : ∀ pending, (change pending).remaining.contains id =
      (pending.remaining.contains id && stays (pending.number, pending.message))) :
    next.awaiting id = (exchange.awaiting id).filter stays := by
  unfold awaiting
  rw [struck, List.filter_map, List.map_map, List.filter_map, List.filter_filter]
  refine (List.map_congr_left ?_).trans (congrArg (List.map _) (List.filter_congr ?_))
  · intro pending _
    exact Prod.ext (same pending).1 (same pending).2
  · intro pending _
    rw [Bool.and_comm]
    exact fewer pending

theorem awaiting_acknowledge (accepted : List (Nat × ReplicaId)) :
    (exchange.acknowledge accepted).awaiting id =
      (exchange.awaiting id).filter fun entry => !accepted.contains (entry.1, id) := by
  refine awaiting_release.trans (awaiting_strikeOff rfl ?_ ?_)
  · exact fun pending => ⟨number_foldl_strike accepted pending, (foldl_strike accepted pending).1⟩
  · intro pending
    rw [Bool.eq_iff_iff, OrderedSet.contains_iff, (foldl_strike accepted pending).2 id]
    simp

theorem Coherent.awaiting_detach (coherent : exchange.Coherent) (other : ReplicaId) :
    (exchange.detach other).awaiting id = if other = id then [] else exchange.awaiting id := by
  have struck : (exchange.detach other).awaiting id =
      (exchange.awaiting id).filter fun _ => other != id := by
    unfold detach
    split
    · refine awaiting_release.trans (awaiting_strikeOff rfl (fun _ => ⟨rfl, rfl⟩) ?_)
      intro pending
      rw [Bool.eq_iff_iff, OrderedSet.contains_iff, OrderedSet.mem_erase]
      simp
    next absent =>
      -- What is not attached is not awaited.
      refine (List.filter_eq_self.mpr fun entry awaits => ?_).symm
      obtain ⟨pending, isPending, _, _, awaited⟩ := mem_awaiting.mp awaits
      refine bne_iff_ne.mpr fun same => ?_
      rw [← same] at awaited
      exact absent (OrderedMap.mem_keys.mp (coherent.attached pending isPending other awaited).1)
  rw [struck]
  split
  next same => simp [same]
  next different => simp [different]

theorem awaiting_publish (done : exchange.publish message = .ok next) :
    next.awaiting id = exchange.awaiting id ++
      if exchange.endpoints.contains id && id != Message.origin message
        then [(exchange.nextNumber, message)] else [] := by
  rcases (publish_eq_ok done).2 with ⟨nobody, rfl⟩ | ⟨_, rfl⟩
  · rw [if_neg, List.append_nil]
    intro isFor
    obtain ⟨isAttached, notOrigin⟩ := Bool.and_eq_true_iff.mp isFor
    exact bne_iff_ne.mp notOrigin (nobody id (OrderedMap.mem_keys.mpr isAttached))
  · have isFor : (exchange.endpoints.keys.erase (Message.origin message)).contains id =
        (exchange.endpoints.contains id && id != Message.origin message) := by
      rw [Bool.eq_iff_iff, OrderedSet.contains_iff, OrderedSet.mem_erase, OrderedMap.mem_keys]
      simp [OrderedMap.contains, ne_comm]
    unfold awaiting
    rw [List.filter_append, List.map_append, List.filter_cons, isFor]
    split <;> rfl

/-- Taking a message leaves everything else as it was. -/
theorem publish_keeps (done : exchange.publish message = .ok next) :
    next.endpoints = exchange.endpoints ∧ next.isClosed = exchange.isClosed ∧
      exchange.nextNumber ≤ next.nextNumber ∧
      ∀ pending ∈ next.pending, pending ∈ exchange.pending ∨ pending.message = message := by
  rcases (publish_eq_ok done).2 with ⟨_, rfl⟩ | ⟨_, rfl⟩
  · exact ⟨rfl, rfl, Nat.le_refl _, fun _ isPending => .inl isPending⟩
  · refine ⟨rfl, rfl, Nat.le_succ _, fun pending isPending => ?_⟩
    refine (List.mem_append.mp isPending).imp_right fun isNew => ?_
    rw [List.mem_singleton.mp isNew]

/-! ## Fan-out -/

/-- The messages that are handed out to an identifier, with their numbers. -/
def addressedTo (id : ReplicaId) (deliveries : List (Delivery μ ε)) : List (Nat × μ) :=
  (deliveries.filter fun delivery => delivery.destination == id).map fun delivery =>
    (delivery.number, delivery.message)

omit [Message μ] in
theorem addressedTo_cons (delivery : Delivery μ ε) (later : List (Delivery μ ε)) :
    addressedTo id (delivery :: later) =
      if delivery.destination = id
        then (delivery.number, delivery.message) :: addressedTo id later
        else addressedTo id later := by
  simp only [addressedTo, List.filter_cons, beq_iff_eq]
  split <;> rfl

omit [Message μ] in
theorem addressedTo_append (earlier later : List (Delivery μ ε)) :
    addressedTo id (earlier ++ later) = addressedTo id earlier ++ addressedTo id later := by
  simp only [addressedTo, List.filter_append, List.map_append]

omit [Message μ] in
/-- Of the deliveries of one message just one goes to an identifier that awaits it. -/
theorem addressedTo_destinations {endpoints : OrderedMap ReplicaId ε} {number : Nat}
    {destinations : List ReplicaId} (distinct : destinations.Nodup)
    (attached : ∀ destination ∈ destinations, destination ∈ endpoints.keys) :
    addressedTo id (destinations.filterMap fun destination =>
        (endpoints.get? destination).map fun endpoint =>
          (⟨number, message, destination, endpoint⟩ : Delivery μ ε)) =
      if id ∈ destinations then [(number, message)] else [] := by
  induction destinations with
  | nil => rfl
  | cons first later ih =>
      obtain ⟨isFirst, laterDistinct⟩ := List.nodup_cons.mp distinct
      obtain ⟨firstAttached, laterAttached⟩ := List.forall_mem_cons.mp attached
      obtain ⟨endpoint, found⟩ := Option.isSome_iff_exists.mp (OrderedMap.mem_keys.mp firstAttached)
      rw [List.filterMap_cons_some (by rw [found]; rfl), addressedTo_cons,
        ih laterDistinct laterAttached]
      by_cases same : first = id
      · rw [same] at isFirst
        simp [same, isFirst]
      · simp [same, Ne.symm same]

theorem Coherent.addressedTo_deliveries (coherent : exchange.Coherent) (id : ReplicaId) :
    addressedTo id exchange.deliveries = exchange.awaiting id := by
  have attached : ∀ pending ∈ exchange.pending, ∀ destination ∈ pending.remaining,
      destination ∈ exchange.endpoints.keys :=
    fun pending isPending destination awaits =>
      (coherent.attached pending isPending destination awaits).1
  unfold deliveries awaiting
  generalize exchange.pending = queue at attached
  induction queue with
  | nil => rfl
  | cons first later ih =>
      obtain ⟨ofFirst, ofLater⟩ := List.forall_mem_cons.mp attached
      have distinct := first.remaining.nodup_elements
      rw [List.flatMap_cons, addressedTo_append, addressedTo_destinations distinct ofFirst,
        ih ofLater, List.filter_cons]
      simp only [OrderedSet.mem_elements, ← OrderedSet.contains_iff]
      split <;> rfl

end Confluence.Exchange

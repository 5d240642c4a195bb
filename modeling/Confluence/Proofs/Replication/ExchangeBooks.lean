import Confluence.Proofs.Causality.VectorProperties
import Confluence.Proofs.Replication.ExchangeProperties

/-!
The books of an exchange: what is pending, whom it awaits, which keys are taken, and how messages
are numbered. Several operations strike destinations off many messages at once and release what
nobody awaits any more; the books must agree with each other after each of them.

All that an exchange still has to do is told by which messages await which identifiers. Every
operation has one equation that says what it does to that.
-/

set_option autoImplicit false

namespace Confluence

/-- Exchanges recognise snapshots by origin and version, and versions are the same if they know the
same events. -/
instance {σ : Type} : EquivBEq (Message.Key (Snapshot σ)) where
  rfl := Bool.and_eq_true_iff.mpr ⟨ReflBEq.rfl, ReflBEq.rfl⟩
  symm same := by
    obtain ⟨sameId, sameVersion⟩ := Bool.and_eq_true_iff.mp same
    exact Bool.and_eq_true_iff.mpr ⟨PartialEquivBEq.symm sameId, PartialEquivBEq.symm sameVersion⟩
  trans first second := by
    obtain ⟨firstId, firstVersion⟩ := Bool.and_eq_true_iff.mp first
    obtain ⟨secondId, secondVersion⟩ := Bool.and_eq_true_iff.mp second
    exact Bool.and_eq_true_iff.mpr
      ⟨PartialEquivBEq.trans firstId secondId, PartialEquivBEq.trans firstVersion secondVersion⟩

namespace Exchange

variable {μ ε : Type} [Message μ] {exchange next : Exchange μ ε} {message : μ} {id : ReplicaId}

/-! ## Books that agree -/

/-- The taken keys are those of the pending messages, no two of which have the same key; what is
pending awaits only what is attached, and never its origin; and messages are numbered in the order
of publishing. -/
structure Coherent (exchange : Exchange μ ε) : Prop where
  reserved : exchange.reserved.Perm
    (exchange.pending.map fun pending => Message.key pending.message)
  distinct : ∀ first ∈ exchange.pending, ∀ second ∈ exchange.pending,
    (Message.key first.message == Message.key second.message) = true → first = second
  attached : ∀ pending ∈ exchange.pending, ∀ id ∈ pending.remaining,
    id ∈ exchange.endpoints.keys ∧ id ≠ Message.origin pending.message
  numbered : exchange.pending.Pairwise fun first second => first.number < second.number
  below : ∀ pending ∈ exchange.pending, pending.number < exchange.nextNumber

/-- The books agree, and every pending message still awaits somebody. -/
structure Balanced (exchange : Exchange μ ε) : Prop extends Coherent exchange where
  awaited : ∀ pending ∈ exchange.pending, ∃ id, id ∈ pending.remaining

theorem balanced_empty : (empty : Exchange μ ε).Balanced where
  reserved := .nil
  distinct first absent := by cases absent
  attached pending absent := by cases absent
  numbered := .nil
  below pending absent := by cases absent
  awaited pending absent := by cases absent

/-- Members of a list that a measure ascends are told apart by it. -/
theorem eq_of_measure_eq {α : Type} {measure : α → Nat} {members : List α}
    (rising : members.Pairwise fun first second => measure first < measure second)
    {first second : α} (isFirst : first ∈ members) (isSecond : second ∈ members)
    (same : measure first = measure second) : first = second := by
  induction members with
  | nil => cases isFirst
  | cons least later ih =>
      obtain ⟨leastBelow, laterRising⟩ := List.pairwise_cons.mp rising
      cases isFirst with
      | head =>
          cases isSecond with
          | head => rfl
          | tail _ isLater => exact absurd same (Nat.ne_of_lt (leastBelow second isLater))
      | tail _ isLater =>
          cases isSecond with
          | head => exact absurd same.symm (Nat.ne_of_lt (leastBelow first isLater))
          | tail _ isLater' => exact ih laterRising isLater isLater'

/-- A key is taken exactly if a pending message has it. -/
theorem Coherent.reserved_iff (coherent : exchange.Coherent) (key : Message.Key μ) :
    (∃ taken ∈ exchange.reserved, (taken == key) = true) ↔
      ∃ pending ∈ exchange.pending, (Message.key pending.message == key) = true := by
  constructor
  · intro ⟨taken, isReserved, same⟩
    obtain ⟨pending, isPending, rfl⟩ := List.mem_map.mp (coherent.reserved.mem_iff.mp isReserved)
    exact ⟨pending, isPending, same⟩
  · intro ⟨pending, isPending, same⟩
    exact ⟨_, coherent.reserved.mem_iff.mpr (List.mem_map.mpr ⟨pending, isPending, rfl⟩), same⟩

/-- What a cycle hands out is told apart by number and destination. -/
theorem Coherent.nodup_deliveries (coherent : exchange.Coherent) :
    (exchange.deliveries.map fun delivery => (delivery.number, delivery.destination)).Nodup := by
  unfold deliveries
  refine List.pairwise_map.mpr (List.pairwise_flatMap.mpr ⟨?_, coherent.numbered.imp ?_⟩)
  · intro pending isPending
    refine List.pairwise_filterMap.mpr (pending.remaining.nodup_elements.imp ?_)
    intro _ _ different first isFirst second isSecond same
    obtain ⟨_, _, rfl⟩ := Option.map_eq_some_iff.mp isFirst
    obtain ⟨_, _, rfl⟩ := Option.map_eq_some_iff.mp isSecond
    exact different (Prod.mk.inj same).2
  · intro earlier later lower first isFirst second isSecond same
    obtain ⟨_, _, attached⟩ := List.mem_filterMap.mp isFirst
    obtain ⟨_, _, rfl⟩ := Option.map_eq_some_iff.mp attached
    obtain ⟨_, _, attached'⟩ := List.mem_filterMap.mp isSecond
    obtain ⟨_, _, rfl⟩ := Option.map_eq_some_iff.mp attached'
    exact Nat.ne_of_lt lower (Prod.mk.inj same).1

/-! ## Striking off and releasing -/

/-- Destinations may be struck off any messages, as long as those that stay are attached. -/
theorem Coherent.strikeOff (coherent : exchange.Coherent) {endpoints : OrderedMap ReplicaId ε}
    {change : Pending μ → Pending μ}
    (same : ∀ pending, (change pending).number = pending.number ∧
      (change pending).message = pending.message)
    (fewer : ∀ pending ∈ exchange.pending, ∀ id ∈ (change pending).remaining,
      id ∈ pending.remaining ∧ id ∈ endpoints.keys) :
    Coherent { exchange with endpoints, pending := exchange.pending.map change } := by
  refine ⟨?_, ?_, ?_, ?_, ?_⟩
  · have sameKeys : (exchange.pending.map change).map (fun pending => Message.key pending.message) =
        exchange.pending.map fun pending => Message.key pending.message := by
      rw [List.map_map]
      exact List.map_congr_left fun pending _ => congrArg Message.key (same pending).2
    exact sameKeys ▸ coherent.reserved
  · intro first isFirst second isSecond sameKey
    obtain ⟨left, isLeft, rfl⟩ := List.mem_map.mp isFirst
    obtain ⟨right, isRight, rfl⟩ := List.mem_map.mp isSecond
    rw [(same left).2, (same right).2] at sameKey
    rw [coherent.distinct left isLeft right isRight sameKey]
  · intro changed isChanged id awaits
    obtain ⟨pending, isPending, rfl⟩ := List.mem_map.mp isChanged
    obtain ⟨awaited, isAttached⟩ := fewer pending isPending id awaits
    rw [(same pending).2]
    exact ⟨isAttached, (coherent.attached pending isPending id awaited).2⟩
  · refine List.pairwise_map.mpr (coherent.numbered.imp ?_)
    intro first second lower
    rw [(same first).1, (same second).1]
    exact lower
  · intro changed isChanged
    obtain ⟨pending, isPending, rfl⟩ := List.mem_map.mp isChanged
    rw [(same pending).1]
    exact coherent.below pending isPending

theorem mem_release {pending : Pending μ} :
    pending ∈ exchange.release.pending ↔
      pending ∈ exchange.pending ∧ ∃ id, id ∈ pending.remaining := by
  have awaited : (∃ id, id ∈ pending.remaining) ↔ pending.remaining.isEmpty = false := by
    rw [← Bool.not_eq_true, OrderedSet.isEmpty_iff]
    exact Classical.not_forall_not.symm
  rw [awaited]
  simp only [release, List.mem_filter, Bool.not_eq_true']

/-- Releasing a message frees its key and no other. -/
theorem Coherent.release [EquivBEq (Message.Key μ)] (coherent : exchange.Coherent) :
    exchange.release.Balanced := by
  have kept : ∀ {pending}, pending ∈ exchange.release.pending → pending ∈ exchange.pending :=
    fun isKept => (mem_release.mp isKept).1
  refine ⟨⟨?_, ?_, ?_, coherent.numbered.filter _, ?_⟩, ?_⟩
  · have freed : ∀ pending ∈ exchange.pending,
        (!(exchange.pending.filter fun released => released.remaining.isEmpty).any fun released =>
          Message.key pending.message == Message.key released.message) =
        !pending.remaining.isEmpty := by
      intro pending isPending
      refine congrArg not (Bool.eq_iff_iff.mpr ?_)
      rw [List.any_eq_true]
      constructor
      · intro ⟨released, isReleased, sameKey⟩
        obtain ⟨wasPending, isEmpty⟩ := List.mem_filter.mp isReleased
        rw [coherent.distinct pending isPending released wasPending sameKey]
        exact isEmpty
      · intro isEmpty
        exact ⟨pending, List.mem_filter.mpr ⟨isPending, isEmpty⟩, ReflBEq.rfl⟩
    refine (coherent.reserved.filter _).trans (List.Perm.of_eq ?_)
    rw [List.filter_map]
    exact congrArg (List.map fun pending => Message.key pending.message) (List.filter_congr freed)
  · exact fun first isFirst second isSecond =>
      coherent.distinct first (kept isFirst) second (kept isSecond)
  · exact fun pending isPending => coherent.attached pending (kept isPending)
  · exact fun pending isPending => coherent.below pending (kept isPending)
  · exact fun pending isPending => (mem_release.mp isPending).2

/-! ## Books after each operation -/

namespace Balanced

theorem attach {endpoint : ε} (balanced : exchange.Balanced)
    (done : exchange.attach id endpoint = .ok next) : next.Balanced := by
  obtain ⟨_, _, rfl⟩ := attach_eq_ok done
  refine { balanced with attached := ?_ }
  intro pending isPending destination awaits
  obtain ⟨isAttached, notOrigin⟩ := balanced.attached pending isPending destination awaits
  refine ⟨?_, notOrigin⟩
  rw [OrderedMap.mem_keys] at isAttached ⊢
  rw [OrderedMap.get?_insert]
  split
  · rfl
  · exact isAttached

theorem close (balanced : exchange.Balanced) : exchange.close.Balanced :=
  ⟨⟨balanced.reserved, balanced.distinct, balanced.attached, balanced.numbered, balanced.below⟩,
    balanced.awaited⟩

theorem detach [EquivBEq (Message.Key μ)] (balanced : exchange.Balanced) (id : ReplicaId) :
    (exchange.detach id).Balanced := by
  unfold Exchange.detach
  split
  · refine (balanced.strikeOff ?_ ?_).release
    · exact fun pending => ⟨rfl, rfl⟩
    · intro pending isPending destination awaits
      obtain ⟨awaited, different⟩ := OrderedSet.mem_erase.mp awaits
      refine ⟨awaited, ?_⟩
      have isAttached := (balanced.attached pending isPending destination awaited).1
      rw [OrderedMap.mem_keys] at isAttached ⊢
      rw [OrderedMap.get?_erase, if_neg (by simpa using different)]
      exact isAttached
  · exact balanced

theorem acknowledge [EquivBEq (Message.Key μ)] (balanced : exchange.Balanced)
    (accepted : List (Nat × ReplicaId)) : (exchange.acknowledge accepted).Balanced := by
  refine (balanced.strikeOff ?_ ?_).release
  · exact fun pending => ⟨number_foldl_strike accepted pending, (foldl_strike accepted pending).1⟩
  · intro pending isPending destination awaits
    have awaited := (((foldl_strike accepted pending).2 destination).mp awaits).1
    exact ⟨awaited, (balanced.attached pending isPending destination awaited).1⟩

theorem publish [EquivBEq (Message.Key μ)] (balanced : exchange.Balanced)
    (done : exchange.publish message = .ok next) : next.Balanced := by
  have unreserved : ∀ pending ∈ exchange.pending,
      (Message.key pending.message == Message.key message) = false := by
    intro pending isPending
    refine Bool.eq_false_iff.mpr fun same => ?_
    obtain ⟨key, isReserved, sameKey⟩ :=
      (balanced.reserved_iff (Message.key message)).mpr ⟨pending, isPending, same⟩
    obtain ⟨error, refused⟩ : ∃ error, exchange.Refuses message error := by
      cases shut : exchange.isClosed with
      | true => exact ⟨_, .closed shut⟩
      | false => exact ⟨_, .pending shut isReserved sameKey⟩
    rw [publish_eq_error_iff.mpr refused] at done
    cases done
  rcases (publish_eq_ok done).2 with ⟨_, rfl⟩ | ⟨addressed, rfl⟩
  · exact balanced
  · refine ⟨⟨?_, ?_, ?_, ?_, ?_⟩, ?_⟩
    · rw [List.map_append]
      exact (balanced.reserved.cons _).trans (List.perm_append_singleton _ _).symm
    · intro first isFirst second isSecond same
      rcases List.mem_append.mp isFirst with earlier | new
      · rcases List.mem_append.mp isSecond with earlier' | new'
        · exact balanced.distinct first earlier second earlier' same
        · rw [List.mem_singleton.mp new', unreserved first earlier] at same
          cases same
      · rcases List.mem_append.mp isSecond with earlier' | new'
        · have swapped := PartialEquivBEq.symm same
          rw [List.mem_singleton.mp new, unreserved second earlier'] at swapped
          cases swapped
        · rw [List.mem_singleton.mp new, List.mem_singleton.mp new']
    · intro pending isPending destination awaits
      rcases List.mem_append.mp isPending with earlier | new
      · exact balanced.attached pending earlier destination awaits
      · rw [List.mem_singleton.mp new] at awaits ⊢
        obtain ⟨isAttached, different⟩ := OrderedSet.mem_erase.mp awaits
        exact ⟨isAttached, Ne.symm different⟩
    · refine List.pairwise_append.mpr ⟨balanced.numbered, List.pairwise_singleton _ _, ?_⟩
      intro first isFirst second isSecond
      rw [List.mem_singleton.mp isSecond]
      exact balanced.below first isFirst
    · intro pending isPending
      rcases List.mem_append.mp isPending with earlier | new
      · exact Nat.lt_succ_of_lt (balanced.below pending earlier)
      · rw [List.mem_singleton.mp new]
        exact Nat.lt_succ_self _
    · intro pending isPending
      rcases List.mem_append.mp isPending with earlier | new
      · exact balanced.awaited pending earlier
      · rw [List.mem_singleton.mp new]
        exact addressed

end Balanced

/-! ## Who is awaited -/

/-- The message of this number still awaits this identifier. -/
def Awaits (exchange : Exchange μ ε) (number : Nat) (message : μ) (id : ReplicaId) : Prop :=
  ∃ pending ∈ exchange.pending, pending.number = number ∧ pending.message = message ∧
    id ∈ pending.remaining

variable {number : Nat} {destination : ReplicaId}

theorem awaits_release :
    exchange.release.Awaits number message destination ↔
      exchange.Awaits number message destination := by
  constructor
  · intro ⟨pending, isPending, numbered, same, awaits⟩
    exact ⟨pending, (mem_release.mp isPending).1, numbered, same, awaits⟩
  · intro ⟨pending, isPending, numbered, same, awaits⟩
    exact ⟨pending, mem_release.mpr ⟨isPending, _, awaits⟩, numbered, same, awaits⟩

theorem awaits_acknowledge (accepted : List (Nat × ReplicaId)) :
    (exchange.acknowledge accepted).Awaits number message destination ↔
      exchange.Awaits number message destination ∧ (number, destination) ∉ accepted := by
  unfold acknowledge
  rw [awaits_release]
  constructor
  · intro ⟨changed, isChanged, numbered, same, awaits⟩
    obtain ⟨pending, isPending, rfl⟩ := List.mem_map.mp isChanged
    rw [number_foldl_strike] at numbered
    rw [(foldl_strike accepted pending).1] at same
    obtain ⟨awaited, notAccepted⟩ := ((foldl_strike accepted pending).2 destination).mp awaits
    exact ⟨⟨pending, isPending, numbered, same, awaited⟩, numbered ▸ notAccepted⟩
  · intro ⟨⟨pending, isPending, numbered, same, awaited⟩, notAccepted⟩
    refine ⟨_, List.mem_map.mpr ⟨pending, isPending, rfl⟩, ?_, ?_, ?_⟩
    · rw [number_foldl_strike]
      exact numbered
    · rw [(foldl_strike accepted pending).1]
      exact same
    · exact ((foldl_strike accepted pending).2 destination).mpr ⟨awaited, numbered ▸ notAccepted⟩

theorem Coherent.awaits_detach (coherent : exchange.Coherent) (id : ReplicaId) :
    (exchange.detach id).Awaits number message destination ↔
      exchange.Awaits number message destination ∧ destination ≠ id := by
  unfold Exchange.detach
  split
  · rw [awaits_release]
    constructor
    · intro ⟨changed, isChanged, numbered, same, awaits⟩
      obtain ⟨pending, isPending, rfl⟩ := List.mem_map.mp isChanged
      obtain ⟨awaited, different⟩ := OrderedSet.mem_erase.mp awaits
      exact ⟨⟨pending, isPending, numbered, same, awaited⟩, Ne.symm different⟩
    · intro ⟨⟨pending, isPending, numbered, same, awaited⟩, different⟩
      exact ⟨_, List.mem_map.mpr ⟨pending, isPending, rfl⟩, numbered, same,
        OrderedSet.mem_erase.mpr ⟨awaited, Ne.symm different⟩⟩
  next absent =>
    -- What is not attached is not awaited, so that there is nothing to strike off.
    refine (and_iff_left_of_imp ?_).symm
    intro ⟨pending, isPending, _, _, awaited⟩ same
    rw [same] at awaited
    exact absent (OrderedMap.mem_keys.mp (coherent.attached pending isPending id awaited).1)

theorem awaits_publish (done : exchange.publish message = .ok next) {other : μ} :
    next.Awaits number other destination ↔ exchange.Awaits number other destination ∨
      number = exchange.nextNumber ∧ other = message ∧
        destination ∈ exchange.endpoints.keys ∧ destination ≠ Message.origin message := by
  rcases (publish_eq_ok done).2 with ⟨nobody, rfl⟩ | ⟨_, rfl⟩
  · refine (or_iff_left ?_).symm
    intro ⟨_, _, isAttached, notOrigin⟩
    exact notOrigin (nobody destination isAttached)
  · constructor
    · intro ⟨pending, isPending, numbered, same, awaits⟩
      rcases List.mem_append.mp isPending with earlier | new
      · exact .inl ⟨pending, earlier, numbered, same, awaits⟩
      · rw [List.mem_singleton.mp new] at numbered same awaits
        obtain ⟨isAttached, different⟩ := OrderedSet.mem_erase.mp awaits
        exact .inr ⟨numbered.symm, same.symm, isAttached, Ne.symm different⟩
    · intro either
      cases either with
      | inl earlier =>
          obtain ⟨pending, isPending, rest⟩ := earlier
          exact ⟨pending, List.mem_append_left _ isPending, rest⟩
      | inr new =>
          obtain ⟨numbered, same, isAttached, notOrigin⟩ := new
          exact ⟨_, List.mem_append_right _ (.head _), numbered.symm, same.symm,
            OrderedSet.mem_erase.mpr ⟨isAttached, Ne.symm notOrigin⟩⟩

end Exchange

end Confluence

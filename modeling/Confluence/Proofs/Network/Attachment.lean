import Confluence.Proofs.Network.ClosingSteps
import Confluence.Proofs.Network.Phases

/-!
Which channel is attached under an identifier while members come, close and are dropped. A channel
is detached by its identifier, at the end of its closing and once more when it is dropped. The
second time is harmless unless the identifier has been taken by a new channel meanwhile: then it is
that channel which loses its attachment, and goes on to call itself open.

Main statement: as long as no channel is dropped after it was replaced in this way, every open
channel is attached as itself, and what others publish awaits it. The condition is one on each
identifier by itself, and it cannot be left out.
-/

set_option autoImplicit false

namespace Confluence

namespace Network

variable {ρ μ : Type} [Message μ] {network next : Network ρ μ} {handle : Nat} {id : ReplicaId}

/-! ## What coming and going does -/

theorem register_eq_ok {bound : Nat} (done : network.register handle bound = .ok next) :
    ∃ id, network.phase? handle = some .unregistered ∧
      network.exchange.endpoints.get? id = none ∧ next.nextHandle = network.nextHandle ∧
      (∀ query, next.phase? query =
        if query = handle then some (.opened id) else network.phase? query) ∧
      ∀ query, next.exchange.endpoints.get? query =
        if query = id then some (.member handle) else network.exchange.endpoints.get? query := by
  obtain ⟨member, exchange, present, unconnected, attached, rfl⟩ := register_cases done
  obtain ⟨_, free, rfl⟩ := Exchange.attach_eq_ok attached
  refine ⟨member.id, ?_, free, rfl, ?_, ?_⟩
  · rw [phase?_of_member present, Channel.phase_eq_unregistered_iff.mpr unconnected]
  · exact fun query => phase?_setMember network handle query _
  · intro query
    simp only [OrderedMap.get?_insert]
    by_cases same : query = member.id <;> simp [same]

theorem beginClosing_eq_ok (done : network.beginClosing handle = .ok next) :
    ∃ id, network.phase? handle = some (.opened id) ∧
      next.exchange.endpoints = network.exchange.endpoints ∧
      next.nextHandle = network.nextHandle ∧
      ∀ query, next.phase? query =
        if query = handle then some (.closed id) else network.phase? query := by
  obtain ⟨member, channel, present, begun, rfl⟩ := beginClosing_cases done
  obtain ⟨id, before, after⟩ := Channel.phase_beginClosing begun
  refine ⟨id, ?_, rfl, rfl, ?_⟩
  · rw [phase?_of_member present, before]
  · intro query
    rw [phase?_setMember, after]

/-- The end of closing is an apply cycle, after which the identifier of the channel is detached. -/
theorem finishClosing_cases [Updatable ρ μ] (network : Network ρ μ) (handle : Nat) :
    network.finishClosing handle = network.applyAt handle ∧
        (∀ id, network.phase? handle ≠ some (.closed id)) ∨
      ∃ id, (network.phase? handle = some (.opened id) ∨ network.phase? handle = some (.closed id)) ∧
        network.finishClosing handle = (network.applyAt handle).detach id := by
  have phase := (Keeps.applyAt network handle).phases handle
  unfold finishClosing
  rw [← phase]
  cases found : (network.applyAt handle).members.get? handle with
  | none =>
      refine .inl ⟨?_, fun id isClosed => ?_⟩
      · simp only [channel, found]
      · rw [phase?, found] at isClosed
        cases isClosed
  | some member =>
      rw [phase?_of_member found]
      simp only [channel, found]
      cases named : member.channel.id? with
      | none =>
          refine .inl ⟨rfl, fun id isClosed => ?_⟩
          rw [Channel.id?_eq_some_iff.mpr (.inr (Option.some.inj isClosed))] at named
          cases named
      | some id =>
          refine .inr ⟨id, ?_, rfl⟩
          exact (Channel.id?_eq_some_iff.mp named).imp (congrArg some) (congrArg some)

/-- The end of closing detaches whatever is attached under the identifier of the channel. -/
theorem finishClosing_of_closed [Updatable ρ μ]
    (isClosed : network.phase? handle = some (.closed id)) :
    (network.finishClosing handle).nextHandle = network.nextHandle ∧
      (∀ query, (network.finishClosing handle).phase? query = network.phase? query) ∧
      ∀ query, (network.finishClosing handle).exchange.endpoints.get? query =
        if query = id then none else network.exchange.endpoints.get? query := by
  have applied := Keeps.applyAt network handle
  have finished : network.finishClosing handle = (network.applyAt handle).detach id := by
    rcases network.finishClosing_cases handle with ⟨_, notClosed⟩ | ⟨other, phase, finished⟩
    · exact absurd isClosed (notClosed id)
    · rw [isClosed] at phase
      rcases phase with isOpen | same
      · cases isOpen
      · cases same
        exact finished
  rw [finished]
  refine ⟨applied.nextHandle, applied.phases, ?_⟩
  intro query
  rw [← applied.endpoints]
  exact Exchange.endpoints_detach _ id query

theorem members_drop (network : Network ρ μ) (handle query : Nat) :
    (network.drop handle).members.get? query =
      if query = handle then none else network.members.get? query := by
  have erased : (network.members.erase handle).get? query =
      if query = handle then none else network.members.get? query := by
    rw [OrderedMap.get?_erase]
    by_cases same : query = handle
    · simp [same]
    · have different : handle ≠ query := fun equal => same equal.symm
      simp [same, different]
  unfold drop
  split
  next member present =>
    cases member.channel.id? with
    | none => exact erased
    | some id => exact erased
  next absent =>
    split
    next same => rw [same, absent]
    next => rfl

theorem phase?_drop (network : Network ρ μ) (handle query : Nat) :
    (network.drop handle).phase? query =
      if query = handle then none else network.phase? query := by
  rw [phase?, members_drop]
  split <;> rfl

theorem nextHandle_drop (network : Network ρ μ) (handle : Nat) :
    (network.drop handle).nextHandle = network.nextHandle := by
  unfold drop
  split
  next member present => cases member.channel.id? <;> rfl
  next => rfl

/-- A channel that was never registered can be dropped without notice. -/
theorem drop_of_unregistered (unregistered : network.phase? handle = some .unregistered) :
    (network.drop handle).exchange = network.exchange := by
  obtain ⟨member, present, phase⟩ := member_of_phase? unregistered
  have unconnected := Channel.phase_eq_unregistered_iff.mp phase
  simp only [drop, present, Channel.id?, unconnected, Option.map_none]

/-- Dropping a channel detaches its identifier if it ever had one. -/
theorem endpoints_drop (network : Network ρ μ) (handle : Nat) :
    (network.drop handle).exchange.endpoints = network.exchange.endpoints ∨
      ∃ id, (network.phase? handle = some (.opened id) ∨
          network.phase? handle = some (.closed id)) ∧
        ∀ query, (network.drop handle).exchange.endpoints.get? query =
          if query = id then none else network.exchange.endpoints.get? query := by
  unfold drop
  split
  next member present =>
    cases named : member.channel.id? with
    | none => exact .inl rfl
    | some id =>
        refine .inr ⟨id, ?_, fun query => Exchange.endpoints_detach network.exchange id query⟩
        rw [phase?_of_member present, Option.some.injEq, Option.some.injEq]
        exact Channel.id?_eq_some_iff.mp named
  next => exact .inl rfl

/-- The channel was closed, and by now another endpoint is attached under its identifier. -/
def Replaced (network : Network ρ μ) (handle : Nat) (id : ReplicaId) : Prop :=
  network.phase? handle = some (.closed id) ∧
    ∃ endpoint, network.exchange.endpoints.get? id = some endpoint ∧ endpoint ≠ .member handle

end Network

/-! ## Runs -/

/-- A moment of a run: the network, and the members whose closing has begun and is not
finished. -/
structure Lifecycle (ρ μ : Type) [Message μ] where
  network : Network ρ μ
  closing : List Nat

namespace Lifecycle

variable {ρ μ : Type} [Message μ]

/-- Members come, close and are dropped, with any traffic in between. Of identifiers that are
`guarded` no replaced channel is dropped. -/
inductive Step [Updatable ρ μ] (guarded : ReplicaId → Prop) :
    Lifecycle ρ μ → Lifecycle ρ μ → Prop where
  | traffic {run : Lifecycle ρ μ} {next : Network ρ μ} :
      Network.Traffic run.network next → Step guarded run ⟨next, run.closing⟩
  | addMember {run : Lifecycle ρ μ} (id : ReplicaId) (order : InboxOrder) (replica : Option ρ) :
      Step guarded run ⟨(run.network.addMember id order replica).2, run.closing⟩
  | register {run : Lifecycle ρ μ} {next : Network ρ μ} (handle bound : Nat) :
      run.network.register handle bound = .ok next → Step guarded run ⟨next, run.closing⟩
  | beginClosing {run : Lifecycle ρ μ} {next : Network ρ μ} (handle : Nat) :
      run.network.beginClosing handle = .ok next →
      Step guarded run ⟨next, run.closing ++ [handle]⟩
  | finishClosing {run : Lifecycle ρ μ} (handle : Nat) :
      handle ∈ run.closing →
      Step guarded run ⟨run.network.finishClosing handle, run.closing.erase handle⟩
  | abandonClosing {run : Lifecycle ρ μ} (handle : Nat) :
      Step guarded run ⟨run.network, run.closing.erase handle⟩
  | drop {run : Lifecycle ρ μ} (handle : Nat) :
      (∀ id, guarded id → ¬ run.network.Replaced handle id) →
      Step guarded run ⟨run.network.drop handle, run.closing.erase handle⟩

inductive Reachable [Updatable ρ μ] (guarded : ReplicaId → Prop) : Lifecycle ρ μ → Prop where
  | empty (identifiers : List ReplicaId) : Reachable guarded ⟨.empty identifiers, []⟩
  | step {run next : Lifecycle ρ μ} :
      Reachable guarded run → Step guarded run next → Reachable guarded next

variable {guarded : ReplicaId → Prop} {run : Lifecycle ρ μ}

/-- A channel that is open, or whose closing is not finished, is attached as itself. -/
structure Anchored (guarded : ReplicaId → Prop) (run : Lifecycle ρ μ) : Prop where
  opened : ∀ handle id, guarded id → run.network.phase? handle = some (.opened id) →
    run.network.exchange.endpoints.get? id = some (.member handle)
  closing : ∀ handle ∈ run.closing, ∃ id, run.network.phase? handle = some (.closed id) ∧
    (guarded id → run.network.exchange.endpoints.get? id = some (.member handle))
  distinct : run.closing.Nodup
  unused : ∀ handle, run.network.nextHandle ≤ handle → run.network.phase? handle = none

namespace Anchored

theorem empty (identifiers : List ReplicaId) :
    Anchored guarded (⟨.empty identifiers, []⟩ : Lifecycle ρ μ) where
  opened handle id _ isOpen := by cases isOpen
  closing handle absent := by cases absent
  distinct := List.nodup_nil
  unused _ _ := rfl

theorem keep {next : Network ρ μ} (anchored : Anchored guarded run)
    (keeps : Network.Keeps run.network next) : Anchored guarded ⟨next, run.closing⟩ := by
  refine ⟨?_, ?_, anchored.distinct, ?_⟩
  · intro handle id isGuarded isOpen
    rw [keeps.endpoints]
    exact anchored.opened handle id isGuarded ((keeps.phases handle).symm.trans isOpen)
  · intro handle isClosing
    rw [keeps.phases, keeps.endpoints]
    exact anchored.closing handle isClosing
  · intro handle later
    rw [keeps.phases]
    exact anchored.unused handle (keeps.nextHandle ▸ later)

theorem addMember (anchored : Anchored guarded run) (id : ReplicaId) (order : InboxOrder)
    (replica : Option ρ) :
    Anchored guarded ⟨(run.network.addMember id order replica).2, run.closing⟩ := by
  have phases : ∀ query, (run.network.addMember id order replica).2.phase? query =
      if query = run.network.nextHandle then some .unregistered
      else run.network.phase? query :=
    fun query => Network.phase?_insert run.network run.network.nextHandle query
      ⟨id, .unregistered order, replica⟩
  refine ⟨?_, ?_, anchored.distinct, ?_⟩
  · intro handle other isGuarded isOpen
    rw [phases] at isOpen
    split at isOpen
    · cases isOpen
    · exact anchored.opened handle other isGuarded isOpen
  · intro handle isClosing
    obtain ⟨other, isClosed, attached⟩ := anchored.closing handle isClosing
    refine ⟨other, ?_, attached⟩
    rw [phases, if_neg]
    · exact isClosed
    · rintro rfl
      rw [anchored.unused _ (Nat.le_refl _)] at isClosed
      cases isClosed
  · intro handle later
    rw [phases, if_neg (Nat.ne_of_gt later)]
    exact anchored.unused handle (Nat.le_of_lt later)

/-- A new channel only takes an identifier that is free, so it takes none from another. -/
theorem register {next : Network ρ μ} {handle bound : Nat} (anchored : Anchored guarded run)
    (done : run.network.register handle bound = .ok next) :
    Anchored guarded ⟨next, run.closing⟩ := by
  obtain ⟨id, unregistered, free, sameNext, phases, endpoints⟩ := Network.register_eq_ok done
  have untouched : ∀ {other query}, run.network.exchange.endpoints.get? other =
      some (.member query) → next.exchange.endpoints.get? other = some (.member query) := by
    intro other query attached
    rw [endpoints, if_neg]
    · exact attached
    · rintro rfl
      rw [free] at attached
      cases attached
  refine ⟨?_, ?_, anchored.distinct, ?_⟩
  · intro query other isGuarded isOpen
    rw [phases] at isOpen
    split at isOpen
    next here =>
      cases isOpen
      rw [endpoints, if_pos rfl, here]
    next => exact untouched (anchored.opened query other isGuarded isOpen)
  · intro query isClosing
    obtain ⟨other, isClosed, attached⟩ := anchored.closing query isClosing
    refine ⟨other, ?_, fun isGuarded => untouched (attached isGuarded)⟩
    rw [phases, if_neg]
    · exact isClosed
    · rintro rfl
      rw [unregistered] at isClosed
      cases isClosed
  · intro query later
    have absent := anchored.unused query (sameNext ▸ later)
    rw [phases, if_neg]
    · exact absent
    · rintro rfl
      rw [unregistered] at absent
      cases absent

theorem beginClosing {next : Network ρ μ} {handle : Nat} (anchored : Anchored guarded run)
    (done : run.network.beginClosing handle = .ok next) :
    Anchored guarded ⟨next, run.closing ++ [handle]⟩ := by
  obtain ⟨id, wasOpen, endpoints, sameNext, phases⟩ := Network.beginClosing_eq_ok done
  have notClosing : handle ∉ run.closing := by
    intro isClosing
    obtain ⟨other, isClosed, _⟩ := anchored.closing handle isClosing
    rw [wasOpen] at isClosed
    cases isClosed
  refine ⟨?_, ?_, ?_, ?_⟩
  · intro query other isGuarded isOpen
    rw [phases] at isOpen
    split at isOpen
    · cases isOpen
    · rw [endpoints]
      exact anchored.opened query other isGuarded isOpen
  · intro query isClosing
    rw [phases, endpoints]
    rcases List.mem_append.mp isClosing with earlier | new
    · have elsewhere : query ≠ handle := fun same => notClosing (same ▸ earlier)
      rw [if_neg elsewhere]
      exact anchored.closing query earlier
    · rw [List.mem_singleton.mp new, if_pos rfl]
      exact ⟨id, rfl, fun isGuarded => anchored.opened handle id isGuarded wasOpen⟩
  · rw [List.nodup_append]
    refine ⟨anchored.distinct, by simp, ?_⟩
    rintro query isClosing other isNew rfl
    exact notClosing (List.mem_singleton.mp isNew ▸ isClosing)
  · intro query later
    have absent := anchored.unused query (sameNext ▸ later)
    rw [phases, if_neg]
    · exact absent
    · rintro rfl
      rw [wasOpen] at absent
      cases absent

/-- A channel that goes leaves all others as they are, provided that no attachment of another goes
with it. -/
theorem leave {next : Network ρ μ} {handle : Nat} (anchored : Anchored guarded run)
    (sameNext : next.nextHandle = run.network.nextHandle)
    (phases : ∀ query, query ≠ handle → next.phase? query = run.network.phase? query)
    (gone : ∀ id, next.phase? handle ≠ some (.opened id))
    (unused : run.network.phase? handle = none → next.phase? handle = none)
    (kept : ∀ id query, guarded id → query ≠ handle →
      run.network.exchange.endpoints.get? id = some (.member query) →
        next.exchange.endpoints.get? id = some (.member query)) :
    Anchored guarded ⟨next, run.closing.erase handle⟩ := by
  refine ⟨?_, ?_, anchored.distinct.erase handle, ?_⟩
  · intro query id isGuarded isOpen
    by_cases here : query = handle
    · rw [here] at isOpen
      exact absurd isOpen (gone id)
    · rw [phases query here] at isOpen
      exact kept id query isGuarded here (anchored.opened query id isGuarded isOpen)
  · intro query isClosing
    obtain ⟨elsewhere, wasClosing⟩ := (List.Nodup.mem_erase_iff anchored.distinct).mp isClosing
    obtain ⟨id, isClosed, attached⟩ := anchored.closing query wasClosing
    refine ⟨id, (phases query elsewhere).trans isClosed, ?_⟩
    exact fun isGuarded => kept id query isGuarded elsewhere (attached isGuarded)
  · intro query later
    have absent := anchored.unused query (sameNext ▸ later)
    by_cases here : query = handle
    · subst here
      exact unused absent
    · exact (phases query here).trans absent

/-- Detaching an identifier that stands for one channel at most costs no other its attachment. -/
theorem kept_of_detached {network next : Network ρ μ} {handle : Nat} {id : ReplicaId}
    (own : guarded id → ∀ query, network.exchange.endpoints.get? id = some (.member query) →
      query = handle)
    (endpoints : ∀ other, next.exchange.endpoints.get? other =
      if other = id then none else network.exchange.endpoints.get? other)
    (other : ReplicaId) (query : Nat) (isGuarded : guarded other) (elsewhere : query ≠ handle)
    (attached : network.exchange.endpoints.get? other = some (.member query)) :
    next.exchange.endpoints.get? other = some (.member query) := by
  rw [endpoints, if_neg]
  · exact attached
  · rintro rfl
    exact elsewhere (own isGuarded query attached)

theorem finishClosing [Updatable ρ μ] {handle : Nat} (anchored : Anchored guarded run)
    (isClosing : handle ∈ run.closing) :
    Anchored guarded ⟨run.network.finishClosing handle, run.closing.erase handle⟩ := by
  obtain ⟨id, isClosed, attached⟩ := anchored.closing handle isClosing
  obtain ⟨sameNext, phases, endpoints⟩ := Network.finishClosing_of_closed isClosed
  refine anchored.leave sameNext (fun query _ => phases query) ?_ ?_
    (kept_of_detached ?_ endpoints)
  · intro other isOpen
    rw [phases, isClosed] at isOpen
    cases isOpen
  · intro absent
    rw [isClosed] at absent
    cases absent
  · intro isGuarded query other
    rw [attached isGuarded] at other
    cases other
    rfl

theorem abandonClosing (anchored : Anchored guarded run) (handle : Nat) :
    Anchored guarded ⟨run.network, run.closing.erase handle⟩ where
  opened := anchored.opened
  closing query isClosing := anchored.closing query (List.mem_of_mem_erase isClosing)
  distinct := anchored.distinct.erase handle
  unused := anchored.unused

theorem drop {handle : Nat} (anchored : Anchored guarded run)
    (notReplaced : ∀ id, guarded id → ¬ run.network.Replaced handle id) :
    Anchored guarded ⟨run.network.drop handle, run.closing.erase handle⟩ := by
  have phases := Network.phase?_drop run.network handle
  have gone : (run.network.drop handle).phase? handle = none := by rw [phases, if_pos rfl]
  refine anchored.leave (Network.nextHandle_drop run.network handle) ?_ ?_ (fun _ => gone) ?_
  · intro query elsewhere
    rw [phases, if_neg elsewhere]
  · intro id isOpen
    rw [gone] at isOpen
    cases isOpen
  · rcases Network.endpoints_drop run.network handle with same | ⟨id, named, endpoints⟩
    · intro id query _ _ attached
      rw [same]
      exact attached
    · refine kept_of_detached ?_ endpoints
      intro isGuarded query attached
      rcases named with wasOpen | wasClosed
      · rw [anchored.opened handle id isGuarded wasOpen] at attached
        cases attached
        rfl
      · by_cases here : query = handle
        · exact here
        · refine absurd ⟨wasClosed, _, attached, ?_⟩ (notReplaced id isGuarded)
          exact fun same => here (Endpoint.member.inj same)

theorem step [Updatable ρ μ] {next : Lifecycle ρ μ} (anchored : Anchored guarded run)
    (step : Step guarded run next) : Anchored guarded next := by
  cases step with
  | traffic traffic => exact anchored.keep traffic.keeps
  | addMember id order replica => exact anchored.addMember id order replica
  | register handle bound done => exact anchored.register done
  | beginClosing handle done => exact anchored.beginClosing done
  | finishClosing handle isClosing => exact anchored.finishClosing isClosing
  | abandonClosing handle => exact anchored.abandonClosing handle
  | drop handle notReplaced => exact anchored.drop notReplaced

end Anchored

namespace Reachable

variable [Updatable ρ μ]

theorem anchored (reached : Reachable guarded run) : Anchored guarded run := by
  induction reached with
  | empty identifiers => exact .empty identifiers
  | step _ step ih => exact ih.step step

/-! ## Joining and closing are such runs -/

theorem join {id : ReplicaId} {order : InboxOrder} {replica : ρ} {handle : Nat}
    {next : Network ρ μ} (reached : Reachable guarded run)
    (done : run.network.join id order replica = .ok (handle, next)) :
    Reachable guarded ⟨next, run.closing⟩ := by
  obtain ⟨joined, registered, finished⟩ := Outcome.bind_eq_ok done
  cases finished
  exact (reached.step (.addMember id order (some replica))).step (.register _ _ registered)

theorem keptWhileClosing : Network.KeptWhileClosing fun (network : Network ρ μ) waiting =>
    Reachable guarded ⟨network, waiting⟩ where
  deliver reached := reached.step (.traffic (.deliver _))
  finish reached isWaiting := reached.step (.finishClosing _ isWaiting)

theorem closeAll {network : Network ρ μ} (reached : Reachable guarded ⟨network, []⟩)
    (handles : List Nat) : Reachable guarded ⟨(network.closeAll handles).2, []⟩ :=
  keptWhileClosing.closeAll
    (keptWhileClosing.beginClosingAll (fun reached begun => reached.step (.beginClosing _ begun))
      reached handles)

theorem close {network : Network ρ μ} (reached : Reachable guarded ⟨network, []⟩)
    (handle : Nat) : Reachable guarded ⟨(network.close handle).2, []⟩ :=
  reached.closeAll [handle]

/-! ## Open channels -/

/-- In a run in which no replaced channel is dropped that bore the identifier, a channel that is
open under it is attached as itself, and every message that another publishes awaits it. -/
theorem open_channel_is_attached (reached : Reachable guarded run) {id : ReplicaId}
    (isGuarded : guarded id) {handle : Nat}
    (isOpen : run.network.phase? handle = some (.opened id)) :
    run.network.exchange.endpoints.get? id = some (.member handle) ∧
      ∀ message exchange, Message.origin message ≠ id →
        run.network.exchange.publish message = .ok exchange →
          ∃ pending ∈ exchange.pending, pending.message = message ∧ id ∈ pending.remaining := by
  have attached := reached.anchored.opened handle id isGuarded isOpen
  refine ⟨attached, ?_⟩
  intro message exchange elsewhere published
  have isKey : id ∈ run.network.exchange.endpoints.keys := by
    rw [OrderedMap.mem_keys, attached]
    rfl
  rcases (Exchange.pending_of_publish published).2.2 id isKey with own | awaits
  · exact absurd own.symm elsewhere
  · exact awaits

end Reachable

/-! ## A channel that is replaced -/

/-- A member closes, a second one joins under the identifier of the first, and a third one under its
own. -/
def succession : Except ReplicationError
    (Network (OperationReplica (GrowSet Nat)) (OperationMessage (SetOperation Nat))) := do
  let (first, joined) ← (Network.empty []).join ⟨1⟩ .oldestFirst (.ofState ⟨1⟩ ∅ .empty)
  let (_, replaced) ← (joined.close first).2.join ⟨1⟩ .oldestFirst (.ofState ⟨1⟩ ∅ .empty)
  let (_, accompanied) ← replaced.join ⟨2⟩ .oldestFirst (.ofState ⟨2⟩ ∅ .empty)
  .ok accompanied

theorem reachable_succession
    {network : Network (OperationReplica (GrowSet Nat)) (OperationMessage (SetOperation Nat))}
    (done : succession = .ok network) : Reachable guarded ⟨network, []⟩ := by
  obtain ⟨⟨first, joined⟩, joins, rest⟩ := Outcome.bind_eq_ok done
  obtain ⟨⟨second, replaced⟩, replaces, last⟩ := Outcome.bind_eq_ok rest
  obtain ⟨⟨third, accompanied⟩, accompanies, finished⟩ := Outcome.bind_eq_ok last
  cases finished
  have begun : Reachable guarded (⟨.empty [], []⟩ : Lifecycle (OperationReplica (GrowSet Nat)) _) :=
    .empty []
  exact (((begun.join joins).close first).join replaces).join accompanies

theorem successor_of_closed_channel_is_attached :
    ∃ network, succession = .ok network ∧
      Reachable (fun _ => True) ⟨network, []⟩ ∧
      network.phase? 0 = some (.closed ⟨1⟩) ∧ network.phase? 1 = some (.opened ⟨1⟩) ∧
      network.exchange.endpoints.get? ⟨1⟩ = some (.member 1) ∧
      ∀ message exchange, Message.origin message ≠ ⟨1⟩ →
        network.exchange.publish message = .ok exchange →
          ∃ pending ∈ exchange.pending, pending.message = message ∧ ⟨1⟩ ∈ pending.remaining := by
  have run : (succession.map fun network => (network.phase? 0, network.phase? 1)).toOption =
      some (some (.closed ⟨1⟩), some (.opened ⟨1⟩)) := by decide +kernel
  obtain ⟨network, done, phases⟩ := Outcome.map_eq_ok (Outcome.eq_ok_of_toOption run)
  obtain ⟨isClosed, isOpen⟩ := Prod.mk.inj phases
  have reached : Reachable (fun _ => True) ⟨network, []⟩ := reachable_succession done
  exact ⟨network, done, reached, isClosed, isOpen, reached.open_channel_is_attached trivial isOpen⟩

/-- If the replaced channel is dropped, its successor stays open, but it is attached no more, and
what others publish passes it by. -/
theorem dropping_replaced_channel_detaches_successor :
    ∃ network, succession = .ok network ∧
      Reachable (fun _ => False) ⟨network.drop 0, []⟩ ∧
      (network.drop 0).phase? 1 = some (.opened ⟨1⟩) ∧
      (network.drop 0).exchange.endpoints.get? ⟨1⟩ = none ∧
      ((network.drop 0).exchange.publish ⟨⟨⟨2⟩, 1, by decide⟩, .add [7]⟩).map
        (·.pending.length) = .ok 0 := by
  have run : (succession.map fun network => ((network.drop 0).phase? 1,
      (network.drop 0).exchange.endpoints.get? ⟨1⟩,
      (((network.drop 0).exchange.publish ⟨⟨⟨2⟩, 1, by decide⟩, .add [7]⟩).map
        (·.pending.length)).toOption)).toOption = some (some (.opened ⟨1⟩), none, some 0) := by
    decide +kernel
  obtain ⟨network, done, outcome⟩ := Outcome.map_eq_ok (Outcome.eq_ok_of_toOption run)
  obtain ⟨isOpen, rest⟩ := Prod.mk.inj outcome
  obtain ⟨detached, passesBy⟩ := Prod.mk.inj rest
  have reached : Reachable (fun _ => False) ⟨network, []⟩ := reachable_succession done
  exact ⟨network, done, reached.step (.drop 0 fun _ absurdity => absurdity.elim), isOpen, detached,
    Outcome.eq_ok_of_toOption passesBy⟩

end Lifecycle

end Confluence

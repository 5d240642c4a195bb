import Confluence.Proofs.Network.Stations
import Confluence.Proofs.Replication.ExchangeProperties

/-!
Networks whose members are exactly what is attached to the exchange. In such a network a fan-out
cycle brings every pending message to all its destinations, and no publication is refused for want
of an open channel.
-/

set_option autoImplicit false

namespace Confluence.Network

variable {ρ μ : Type} [Message μ] {network : Network ρ μ} {handle : Nat} {station : Station ρ μ}

def address? (network : Network ρ μ) (handle : Nat) : Option ReplicaId :=
  (network.station? handle).map fun station => station.id

theorem address?_of_station (present : network.station? handle = some station) :
    network.address? handle = some station.id := by
  rw [address?, present]
  rfl

theorem address?_eq_some_iff {id : ReplicaId} :
    network.address? handle = some id ↔
      ∃ station, network.station? handle = some station ∧ station.id = id :=
  Option.map_eq_some_iff

/-- The exchange works, every member takes part and is attached under its identifier, nothing else
is attached, and what is pending awaits only what is attached. -/
structure Wired (network : Network ρ μ) : Prop where
  isOpen : network.exchange.isClosed = false
  fansOut : network.isFanningOut = true
  manned : network.Manned
  attached : ∀ id endpoint, network.exchange.endpoints.get? id = some endpoint ↔
    ∃ handle, endpoint = .member handle ∧ network.address? handle = some id
  addressed : ∀ pending ∈ network.exchange.pending, ∀ id ∈ pending.remaining,
    ∃ endpoint, network.exchange.endpoints.get? id = some endpoint
  reserved : ∀ key ∈ network.exchange.reserved, ∃ pending ∈ network.exchange.pending,
    key = Message.key pending.message

namespace Wired

theorem setMember (wired : network.Wired) (present : network.station? handle = some station)
    {changed : Station ρ μ} (sameId : changed.id = station.id) (address : ReplicaId) :
    (network.setMember handle (changed.member address)).Wired := by
  refine ⟨wired.isOpen, wired.fansOut, wired.manned.setMember handle changed address, ?_,
    wired.addressed, wired.reserved⟩
  intro id endpoint
  have same : ∀ query, (network.setMember handle (changed.member address)).address? query =
      network.address? query := by
    intro query
    by_cases here : query = handle
    · subst here
      rw [address?_of_station present, address?, station?_setMember, if_pos rfl, Option.map_some,
        sameId]
    · rw [address?, station?_setMember, if_neg here]
      rfl
  simp only [same]
  exact wired.attached id endpoint

theorem applyAt [Updatable ρ μ] (wired : network.Wired) (handle : Nat) :
    (network.applyAt handle).Wired := by
  cases present : network.station? handle with
  | none =>
      rw [applyAt_of_absent (wired.manned.station?_eq_none_iff.mp present)]
      exact wired
  | some station =>
      obtain ⟨address, log, applied⟩ := applyAt_of_station present
      obtain ⟨isOpen, fansOut, manned, attached, addressed, reserved⟩ :=
        wired.setMember present (rfl : station.applyPending.id = station.id) address
      rw [applied]
      exact ⟨isOpen, fansOut, manned, attached, addressed, reserved⟩

theorem address?_applyAt [Updatable ρ μ] (wired : network.Wired) (handle query : Nat) :
    (network.applyAt handle).address? query = network.address? query := by
  cases present : network.station? handle with
  | none => rw [applyAt_of_absent (wired.manned.station?_eq_none_iff.mp present)]
  | some station =>
      rw [address?, station?_applyAt present]
      by_cases here : query = handle
      · rw [if_pos here, here, address?_of_station present]
        rfl
      · rw [if_neg here]
        rfl

theorem handle_unique (wired : network.Wired) {other : Nat} {id : ReplicaId}
    (first : network.address? handle = some id) (second : network.address? other = some id) :
    handle = other := by
  have left := (wired.attached id (.member handle)).mpr ⟨handle, rfl, first⟩
  have right := (wired.attached id (.member other)).mpr ⟨other, rfl, second⟩
  exact Endpoint.member.inj (Option.some.inj (left.symm.trans right))

theorem ids_differ (wired : network.Wired) {query : Nat} {other : Station ρ μ}
    (found : network.station? query = some other) (present : network.station? handle = some station)
    (elsewhere : query ≠ handle) : other.id ≠ station.id := by
  intro same
  refine elsewhere (wired.handle_unique (address?_of_station found) ?_)
  rw [same]
  exact address?_of_station present

theorem id_mem_keys (wired : network.Wired) (present : network.station? handle = some station) :
    station.id ∈ network.exchange.endpoints.keys := by
  have found := (wired.attached station.id (.member handle)).mpr
    ⟨handle, rfl, address?_of_station present⟩
  rw [OrderedMap.mem_keys, found]
  rfl

theorem send {exchange : Exchange μ Endpoint} {message : μ} (wired : network.Wired)
    (done : network.exchange.publish message = .ok exchange) :
    ({ network with exchange }).Wired := by
  rcases (Exchange.publish_eq_ok done).2 with ⟨_, rfl⟩ | ⟨_, rfl⟩
  · exact wired
  · refine ⟨wired.isOpen, wired.fansOut, wired.manned, wired.attached, ?_, ?_⟩
    · intro pending isPending id awaits
      rcases List.mem_append.mp isPending with earlier | new
      · exact wired.addressed pending earlier id awaits
      · rw [List.mem_singleton.mp new] at awaits
        have attached := (OrderedSet.mem_erase.mp awaits).1
        rw [OrderedMap.mem_keys] at attached
        exact Option.isSome_iff_exists.mp attached
    · intro key isReserved
      rcases List.mem_cons.mp isReserved with rfl | earlier
      · exact ⟨_, List.mem_append_right _ (.head _), rfl⟩
      · obtain ⟨pending, isPending, same⟩ := wired.reserved key earlier
        exact ⟨pending, List.mem_append_left _ isPending, same⟩

/-- The mail of a station is what awaits its identifier. -/
theorem mem_mailFor_iff (wired : network.Wired)
    (present : network.station? handle = some station) {message : μ} :
    message ∈ mailFor handle network.exchange.deliveries ↔
      ∃ pending ∈ network.exchange.pending, pending.message = message ∧
        station.id ∈ pending.remaining := by
  have attached := (wired.attached station.id (.member handle)).mpr
    ⟨handle, rfl, address?_of_station present⟩
  rw [mem_mailFor]
  constructor
  · rintro ⟨delivery, isDue, addressed, same⟩
    obtain ⟨pending, isPending, id, awaits, endpoint, found, rfl⟩ :=
      Exchange.mem_deliveries.mp isDue
    simp only at addressed same
    subst addressed
    obtain ⟨other, isHandle, sameId⟩ := (wired.attached id (.member handle)).mp found
    cases isHandle
    rw [address?_of_station present] at sameId
    cases sameId
    exact ⟨pending, isPending, same, awaits⟩
  · rintro ⟨pending, isPending, same, awaits⟩
    exact ⟨_, Exchange.mem_deliveries.mpr ⟨pending, isPending, _, awaits, _, attached, rfl⟩, rfl,
      same⟩

/-- A fan-out cycle leaves nothing pending and brings every station its mail. -/
theorem deliver [ReflBEq (Message.Key μ)] (wired : network.Wired) :
    network.deliver.Wired ∧ network.deliver.exchange.pending = [] ∧
      ∀ query, network.deliver.station? query = (network.station? query).map
        (·.receiveAll (mailFor query network.exchange.deliveries)) := by
  have reached : ∀ delivery ∈ network.exchange.deliveries, ∃ handle station,
      delivery.endpoint = .member handle ∧ network.station? handle = some station := by
    intro delivery isDue
    obtain ⟨pending, isPending, id, awaits, endpoint, found, rfl⟩ :=
      Exchange.mem_deliveries.mp isDue
    obtain ⟨handle, isHandle, sameId⟩ := (wired.attached id endpoint).mp found
    obtain ⟨station, present, _⟩ := address?_eq_some_iff.mp sameId
    exact ⟨handle, station, isHandle, present⟩
  obtain ⟨members, offered, manned, stations⟩ :=
    offerAll_of_stations network.exchange.deliveries wired.manned reached
  have delivered : network.deliver =
      { network with members, exchange := { network.exchange with pending := [], reserved := [] } } := by
    simp only [Network.deliver, wired.fansOut, ↓reduceIte, offered]
    rw [Exchange.acknowledge_deliveries wired.addressed wired.reserved]
  rw [delivered]
  refine ⟨⟨wired.isOpen, wired.fansOut, manned, ?_, ?_, ?_⟩, rfl, stations⟩
  · intro id endpoint
    have same : ∀ query, ({ network with members }).address? query = network.address? query := by
      intro query
      rw [address?, stations query, Option.map_map]
      rfl
    refine (wired.attached id endpoint).trans (exists_congr fun query => ?_)
    rw [← same query]
    exact Iff.rfl
  · exact fun pending absent => by cases absent
  · exact fun key absent => by cases absent

end Wired

/-! ## Apply cycles at all members -/

/-- Moments from which one apply cycle at every member is enough: it empties the inbox of the
member, and what follows it is such a moment again. -/
structure Settles [Updatable ρ μ] (calm : Network ρ μ → Prop) : Prop where
  wired : ∀ {network}, calm network → network.Wired
  stays : ∀ {network}, calm network → ∀ handle, calm (network.applyAt handle)
  empties : ∀ {network handle station}, calm network →
    network.station? handle = some station → station.applyPending.inbox.queue = []

namespace Settles

variable [Updatable ρ μ] {calm : Network ρ μ → Prop}

theorem applyAll (settles : Settles calm) (handles emptied : List Nat) (isCalm : calm network)
    (empty : ∀ handle ∈ emptied, ∀ station, network.station? handle = some station →
      station.inbox.queue = []) :
    calm (handles.foldl Network.applyAt network) ∧
      (∀ query, (handles.foldl Network.applyAt network).address? query =
        network.address? query) ∧
      ∀ handle, handle ∈ emptied ∨ handle ∈ handles → ∀ station,
        (handles.foldl Network.applyAt network).station? handle = some station →
          station.inbox.queue = [] := by
  -- Later cycles must not fill an inbox again, so those that are empty already are carried along.
  induction handles generalizing network emptied with
  | nil =>
      refine ⟨isCalm, fun _ => rfl, ?_⟩
      rintro handle (isEmptied | absent)
      · exact empty handle isEmptied
      · cases absent
  | cons first later ih =>
      have stillEmpty : ∀ handle ∈ first :: emptied, ∀ station,
          (network.applyAt first).station? handle = some station →
            station.inbox.queue = [] := by
        intro handle isEmptied other found
        cases present : network.station? first with
        | none =>
            have absent := (settles.wired isCalm).manned.station?_eq_none_iff.mp present
            rw [applyAt_of_absent absent] at found
            rcases List.mem_cons.mp isEmptied with rfl | earlier
            · rw [present] at found
              cases found
            · exact empty handle earlier other found
        | some station =>
            rcases station_of_applyAt present found with ⟨_, rfl⟩ | ⟨elsewhere, unchanged⟩
            · exact settles.empties isCalm present
            · rcases List.mem_cons.mp isEmptied with rfl | earlier
              · exact absurd rfl elsewhere
              · exact empty handle earlier other unchanged
      obtain ⟨settled, addresses, nothing⟩ :=
        ih (first :: emptied) (settles.stays isCalm first) stillEmpty
      refine ⟨settled, fun query => (addresses query).trans
        ((settles.wired isCalm).address?_applyAt first query), ?_⟩
      rintro handle (isEmptied | isApplied)
      · exact nothing handle (.inl (.tail _ isEmptied))
      · rcases List.mem_cons.mp isApplied with rfl | isLater
        · exact nothing handle (.inl (.head _))
        · exact nothing handle (.inr isLater)

theorem exists_settled (settles : Settles calm) (isCalm : calm network) {handles : List Nat}
    {member : Member ρ μ} (isApplied : handle ∈ handles)
    (present : network.members.get? handle = some member) :
    ∃ station, (handles.foldl Network.applyAt network).station? handle = some station ∧
      station.inbox.queue = [] ∧ station.id = member.id := by
  obtain ⟨before, address, rfl⟩ := (settles.wired isCalm).manned handle member present
  have isStation := station?_eq_some_iff.mpr ⟨address, present⟩
  obtain ⟨_, addresses, nothing⟩ :=
    settles.applyAll handles [] isCalm (fun _ absent => by cases absent)
  have sameAddress := (addresses handle).trans (address?_of_station isStation)
  obtain ⟨station, found, sameId⟩ := address?_eq_some_iff.mp sameAddress
  exact ⟨station, found, nothing handle (.inr isApplied) station found, sameId⟩

/-- If stations with empty inboxes look alike, all members do after an apply cycle at each. -/
theorem exists_common {α : Type} [Inhabited α] (view : ρ → α) (settles : Settles calm)
    (alike : ∀ {network : Network ρ μ} {first second left right}, calm network →
      network.station? first = some left → left.inbox.queue = [] →
      network.station? second = some right → right.inbox.queue = [] →
      view left.replica = view right.replica)
    (isCalm : calm network) {handles : List Nat}
    (everyone : ∀ handle member, network.members.get? handle = some member → handle ∈ handles) :
    ∃ common, ∀ handle member, network.members.get? handle = some member →
      ∃ station, (handles.foldl Network.applyAt network).station? handle = some station ∧
        station.inbox.queue = [] ∧ station.id = member.id ∧ view station.replica = common := by
  rcases Classical.em (∃ handle member, network.members.get? handle = some member) with
    ⟨first, member, present⟩ | nobody
  · obtain ⟨reference, referenceFound, referenceEmpty, _⟩ :=
      settles.exists_settled isCalm (everyone first member present) present
    have settled := (settles.applyAll handles [] isCalm (fun _ absent => by cases absent)).1
    refine ⟨view reference.replica, fun handle member present => ?_⟩
    obtain ⟨station, found, empty, sameId⟩ :=
      settles.exists_settled isCalm (everyone handle member present) present
    exact ⟨station, found, empty, sameId,
      alike settled found empty referenceFound referenceEmpty⟩
  · exact ⟨default, fun handle member present => absurd ⟨handle, member, present⟩ nobody⟩

end Settles

/-! ## Assembling -/

def assemble (order : InboxOrder) (begin : ReplicaId → ρ) :
    List ReplicaId → Network ρ μ → Except ReplicationError (Network ρ μ)
  | [], network => .ok network
  | id :: later, network =>
    match network.join id order (begin id) with
    | .error error => .error error
    | .ok (_, joined) => assemble order begin later joined

/-- A wired network in which nothing has happened yet, and whose next handle is free. -/
structure Fresh (order : InboxOrder) (begin : ReplicaId → ρ) (network : Network ρ μ) : Prop where
  wired : network.Wired
  unused : ∀ handle, network.nextHandle ≤ handle → network.members.get? handle = none
  idle : network.exchange.pending = []
  initial : ∀ handle station, network.station? handle = some station →
    station = ⟨station.id, order, .empty, begin station.id⟩

theorem fresh_empty (order : InboxOrder) (begin : ReplicaId → ρ) (identifiers : List ReplicaId) :
    (empty identifiers : Network ρ μ).Fresh order begin := by
  refine ⟨⟨rfl, rfl, ?_, ?_, ?_, ?_⟩, fun _ _ => rfl, rfl, ?_⟩
  · exact fun handle member absent => by cases absent
  · intro id endpoint
    constructor
    · intro absent
      cases absent
    · rintro ⟨handle, _, absent⟩
      cases absent
  · exact fun pending absent => by cases absent
  · exact fun key absent => by cases absent
  · exact fun handle station absent => by cases absent

def joined (network : Network ρ μ) (id : ReplicaId) (order : InboxOrder) (replica : ρ) :
    Network ρ μ :=
  { network with
    exchange := { network.exchange with
      endpoints := network.exchange.endpoints.insert id (.member network.nextHandle) }
    members := (network.members.insert network.nextHandle
      ⟨id, .unregistered order, some replica⟩).insert network.nextHandle
        (Station.member ⟨id, order, .empty, replica⟩ id)
    nextHandle := network.nextHandle + 1 }

theorem join_eq (isOpen : network.exchange.isClosed = false) (id : ReplicaId)
    (order : InboxOrder) (replica : ρ) :
    network.join id order replica =
      if network.exchange.endpoints.contains id then .error (.duplicateReplica id)
      else .ok (network.nextHandle, network.joined id order replica) := by
  have attached : network.exchange.attach id (.member network.nextHandle) =
      if network.exchange.endpoints.contains id then .error (.duplicateReplica id)
      else .ok { network.exchange with
        endpoints := network.exchange.endpoints.insert id (.member network.nextHandle) } := by
    unfold Exchange.attach
    rw [if_neg (by simp [isOpen])]
  unfold join addMember register
  simp only [OrderedMap.get?_insert_self, Channel.unregistered, Option.isSome_none,
    Bool.false_eq_true, ne_eq, not_true_eq_false, ↓reduceIte, attached]
  cases network.exchange.endpoints.contains id <;> rfl

section Joined

variable {id : ReplicaId} {order : InboxOrder} {replica : ρ}

theorem members_joined (query : Nat) :
    (network.joined id order replica).members.get? query =
      if query = network.nextHandle then some (Station.member ⟨id, order, .empty, replica⟩ id)
      else network.members.get? query := by
  simp only [joined, OrderedMap.get?_insert]
  by_cases same : query = network.nextHandle <;> simp [same]

theorem station?_joined (query : Nat) :
    (network.joined id order replica).station? query =
      if query = network.nextHandle then some ⟨id, order, .empty, replica⟩
      else network.station? query := by
  rw [station?, members_joined]
  split <;> rfl

theorem address?_joined (query : Nat) :
    (network.joined id order replica).address? query =
      if query = network.nextHandle then some id else network.address? query := by
  rw [address?, station?_joined]
  split <;> rfl

theorem endpoints_joined (query : ReplicaId) :
    (network.joined id order replica).exchange.endpoints.get? query =
      if query = id then some (.member network.nextHandle)
      else network.exchange.endpoints.get? query := by
  simp only [joined, OrderedMap.get?_insert]
  by_cases same : query = id <;> simp [same]

end Joined

namespace Fresh

variable {order : InboxOrder} {begin : ReplicaId → ρ} {id : ReplicaId}

theorem attached_joined (fresh : network.Fresh order begin)
    (free : network.exchange.endpoints.get? id = none) (replica : ρ) (query : ReplicaId)
    (endpoint : Endpoint) :
    (network.joined id order replica).exchange.endpoints.get? query = some endpoint ↔
      ∃ handle, endpoint = .member handle ∧
        (network.joined id order replica).address? handle = some query := by
  have unaddressed : network.address? network.nextHandle = none := by
    rw [address?, station?, fresh.unused _ (Nat.le_refl _)]
    rfl
  rw [endpoints_joined]
  constructor
  · intro found
    split at found
    next same =>
      cases found
      exact ⟨network.nextHandle, rfl, by rw [address?_joined, if_pos rfl, same]⟩
    next =>
      obtain ⟨handle, isHandle, isAddress⟩ := (fresh.wired.attached query endpoint).mp found
      refine ⟨handle, isHandle, ?_⟩
      rw [address?_joined, if_neg]
      · exact isAddress
      · rintro rfl
        rw [unaddressed] at isAddress
        cases isAddress
  · rintro ⟨handle, rfl, isAddress⟩
    rw [address?_joined] at isAddress
    split at isAddress
    next same =>
      cases isAddress
      rw [if_pos rfl, same]
    next =>
      have found := (fresh.wired.attached query (.member handle)).mpr ⟨handle, rfl, isAddress⟩
      rw [if_neg, found]
      rintro rfl
      rw [free] at found
      cases found

theorem joined (fresh : network.Fresh order begin)
    (free : network.exchange.endpoints.get? id = none) :
    (network.joined id order (begin id)).Fresh order begin := by
  refine ⟨⟨fresh.wired.isOpen, fresh.wired.fansOut, ?_, fresh.attached_joined free (begin id), ?_,
    fresh.wired.reserved⟩, ?_, fresh.idle, ?_⟩
  · intro query member present
    rw [members_joined] at present
    split at present
    · cases present
      exact ⟨_, _, rfl⟩
    · exact fresh.wired.manned query member present
  · intro pending isPending
    have nothing : pending ∈ ([] : List (Pending μ)) := fresh.idle ▸ isPending
    cases nothing
  · intro query later
    rw [members_joined, if_neg (Nat.ne_of_gt later)]
    exact fresh.unused query (Nat.le_of_lt later)
  · intro query station present
    rw [station?_joined] at present
    split at present
    · cases present
      rfl
    · exact fresh.initial query station present

theorem assemble {ids : List ReplicaId} {assembled : Network ρ μ}
    (fresh : network.Fresh order begin)
    (done : Network.assemble order begin ids network = .ok assembled) :
    assembled.Fresh order begin := by
  induction ids generalizing network with
  | nil =>
      cases done
      exact fresh
  | cons id later ih =>
      rw [Network.assemble, join_eq fresh.wired.isOpen] at done
      cases taken : network.exchange.endpoints.contains id with
      | true =>
          rw [taken] at done
          cases done
      | false =>
          rw [taken] at done
          have free : network.exchange.endpoints.get? id = none :=
            Option.isSome_eq_false_iff.mp taken |> Option.isNone_iff_eq_none.mp
          exact ih (fresh.joined free) done

end Fresh

theorem assemble_ok {order : InboxOrder} {begin : ReplicaId → ρ} {ids : List ReplicaId}
    (isOpen : network.exchange.isClosed = false) (distinct : ids.Nodup)
    (free : ∀ id ∈ ids, network.exchange.endpoints.get? id = none) :
    ∃ assembled, assemble order begin ids network = .ok assembled := by
  induction ids generalizing network with
  | nil => exact ⟨network, rfl⟩
  | cons id later ih =>
      obtain ⟨absent, laterDistinct⟩ := List.nodup_cons.mp distinct
      have untaken : network.exchange.endpoints.contains id = false := by
        rw [OrderedMap.contains, free id (.head _)]
        rfl
      rw [assemble, join_eq isOpen, untaken]
      refine ih isOpen laterDistinct fun other isLater => ?_
      rw [endpoints_joined, if_neg]
      · exact free other (.tail _ isLater)
      · rintro rfl
        exact absent isLater

end Confluence.Network

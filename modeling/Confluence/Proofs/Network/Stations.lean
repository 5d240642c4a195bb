import Confluence.Network.Cycles
import Confluence.Proofs.Outcome
import Confluence.Proofs.Replication.InboxProperties

/-!
The members of a network that take part in all its work: those whose channel is open and whose
replica is there. What each operation of the network does to them is stated here; while no member
leaves, nothing else needs to be known of the members.
-/

set_option autoImplicit false

namespace Confluence

/-- A member that takes part. -/
structure Station (ρ μ : Type) where
  id : ReplicaId
  order : InboxOrder
  inbox : Inbox μ
  replica : ρ

namespace Station

variable {ρ μ : Type}

def member (station : Station ρ μ) (address : ReplicaId) : Member ρ μ :=
  ⟨station.id, ⟨station.order, some ⟨address, station.inbox, true⟩⟩, some station.replica⟩

def receiveAll [Message μ] (station : Station ρ μ) (messages : List μ) : Station ρ μ :=
  { station with inbox := station.inbox.enqueueAll station.order messages }

def applyPending [Updatable ρ μ] (station : Station ρ μ) : Station ρ μ :=
  { station with
    inbox := (station.inbox.applyPending Updatable.update station.replica).inbox
    replica := (station.inbox.applyPending Updatable.update station.replica).replica }

end Station

def Member.station? {ρ μ : Type} : Member ρ μ → Option (Station ρ μ)
  | { id, channel := ⟨order, some ⟨_, inbox, true⟩⟩, replica := some replica } =>
    some ⟨id, order, inbox, replica⟩
  | _ => none

namespace Network

variable {ρ μ : Type} [Message μ] {network : Network ρ μ} {handle : Nat} {station : Station ρ μ}

def station? (network : Network ρ μ) (handle : Nat) : Option (Station ρ μ) :=
  (network.members.get? handle).bind Member.station?

def Manned (network : Network ρ μ) : Prop :=
  ∀ handle member, network.members.get? handle = some member →
    ∃ station address, member = Station.member station address

theorem station?_eq_some_iff :
    network.station? handle = some station ↔
      ∃ address, network.members.get? handle = some (station.member address) := by
  unfold station?
  constructor
  · intro found
    obtain ⟨member, present, shown⟩ := Option.bind_eq_some_iff.mp found
    unfold Member.station? at shown
    split at shown
    · cases shown
      exact ⟨_, present⟩
    · cases shown
  · rintro ⟨address, present⟩
    rw [present]
    rfl

theorem Manned.station?_eq_none_iff (manned : network.Manned) :
    network.station? handle = none ↔ network.members.get? handle = none := by
  unfold station?
  cases present : network.members.get? handle with
  | none => simp
  | some member =>
      obtain ⟨station, address, rfl⟩ := manned handle member present
      simp [Station.member, Member.station?]

theorem members_setMember (network : Network ρ μ) (handle query : Nat) (member : Member ρ μ) :
    (network.setMember handle member).members.get? query =
      if query = handle then some member else network.members.get? query := by
  unfold setMember
  rw [OrderedMap.get?_insert]
  simp

theorem station?_setMember (network : Network ρ μ) (handle query : Nat)
    (station : Station ρ μ) (address : ReplicaId) :
    (network.setMember handle (station.member address)).station? query =
      if query = handle then some station else network.station? query := by
  unfold station?
  rw [members_setMember]
  split <;> rfl

theorem station?_setMember_self (network : Network ρ μ) (handle : Nat) (station : Station ρ μ)
    (address : ReplicaId) :
    (network.setMember handle (station.member address)).station? handle = some station := by
  rw [station?_setMember, if_pos rfl]

theorem station_of_setMember {query : Nat} {changed other : Station ρ μ} {address : ReplicaId}
    (found : (network.setMember handle (changed.member address)).station? query = some other) :
    query = handle ∧ other = changed ∨
      query ≠ handle ∧ network.station? query = some other := by
  rw [station?_setMember] at found
  split at found
  next here =>
    cases found
    exact .inl ⟨here, rfl⟩
  next elsewhere => exact .inr ⟨elsewhere, found⟩

theorem Manned.setMember (manned : network.Manned) (handle : Nat) (station : Station ρ μ)
    (address : ReplicaId) : (network.setMember handle (station.member address)).Manned := by
  intro query member present
  rw [members_setMember] at present
  split at present
  · cases present
    exact ⟨station, address, rfl⟩
  · exact manned query member present

/-! ## Local changes -/

theorem change_eq_ok {next : Network ρ μ} {act : ρ → Except StateError (ρ × μ)} {message : μ}
    (done : network.change handle act = .ok (next, message)) :
    ∃ station replica address, network.station? handle = some station ∧
      act station.replica = .ok (replica, message) ∧
      next = network.setMember handle ({ station with replica }.member address) := by
  unfold change at done
  split at done
  next id channel replica present =>
    cases passable : channel.ensureOpen with
    | error error =>
        rw [passable] at done
        cases done
    | ok _ =>
        rw [passable] at done
        cases acted : act replica with
        | error error =>
            rw [acted] at done
            cases done
        | ok result =>
            rw [acted] at done
            cases done
            obtain ⟨order, connection⟩ := channel
            cases connection with
            | none => cases passable
            | some connection =>
                obtain ⟨address, inbox, isOpen⟩ := connection
                cases isOpen with
                | false => cases passable
                | true =>
                    exact ⟨⟨id, order, inbox, replica⟩, result.1, address,
                      station?_eq_some_iff.mpr ⟨address, present⟩, acted, rfl⟩
  next => cases done

theorem Manned.change_eq_error {act : ρ → Except StateError (ρ × μ)} {error : ReplicationError}
    (manned : network.Manned) (failed : network.change handle act = .error error) :
    network.members.get? handle = none ∨ ∃ cause, error = .refused cause := by
  cases present : network.members.get? handle with
  | none => exact .inl rfl
  | some member =>
      obtain ⟨station, address, rfl⟩ := manned handle member present
      simp only [change, present, Station.member, Channel.ensureOpen, ↓reduceIte] at failed
      cases acted : act station.replica with
      | error cause =>
          rw [acted] at failed
          cases failed
          exact .inr ⟨cause, rfl⟩
      | ok result =>
          rw [acted] at failed
          cases failed

/-! ## Publishing -/

theorem perform_eq_ok {next : Network ρ μ} {act : ρ → Except StateError (ρ × μ)}
    (done : network.perform handle act = (.ok (), next)) :
    ∃ changed message, network.change handle act = .ok (changed, message) ∧
      changed.publish handle message = .ok next := by
  unfold perform at done
  cases attempted : network.change handle act with
  | error cause =>
      rw [attempted] at done
      cases done
  | ok result =>
      obtain ⟨changed, message⟩ := result
      simp only [attempted] at done
      cases sent : changed.publish handle message with
      | error cause =>
          rw [sent] at done
          cases done
      | ok published =>
          rw [sent] at done
          cases done
          exact ⟨changed, message, rfl, sent⟩

theorem publish_eq (present : network.station? handle = some station) (message : μ) :
    network.publish handle message = network.send message := by
  obtain ⟨address, found⟩ := station?_eq_some_iff.mp present
  simp only [publish, ensureOpen, channel, found]
  rfl

/-! ## Application -/

theorem applyAt_of_station [Updatable ρ μ] (present : network.station? handle = some station) :
    ∃ address log, network.applyAt handle =
      { network.setMember handle (station.applyPending.member address) with log } := by
  obtain ⟨address, found⟩ := station?_eq_some_iff.mp present
  obtain ⟨sameReplica, sameInbox⟩ := Inbox.applyPending_view Updatable.update
    (loggedUpdate station.id) Prod.fst (fun _ _ => rfl) (fun _ _ => rfl)
    (station.replica, network.log) station.inbox
  unfold applyAt
  rw [found]
  simp only [Station.member, Station.applyPending, sameReplica, sameInbox]
  exact ⟨address, _, rfl⟩

theorem station_of_applyAt [Updatable ρ μ] {query : Nat} {other : Station ρ μ}
    (present : network.station? handle = some station)
    (found : (network.applyAt handle).station? query = some other) :
    query = handle ∧ other = station.applyPending ∨
      query ≠ handle ∧ network.station? query = some other := by
  obtain ⟨address, log, applied⟩ := applyAt_of_station present
  rw [applied] at found
  exact station_of_setMember found

theorem station?_applyAt [Updatable ρ μ] (present : network.station? handle = some station)
    (query : Nat) : (network.applyAt handle).station? query =
      if query = handle then some station.applyPending else network.station? query := by
  obtain ⟨address, log, applied⟩ := applyAt_of_station present
  rw [applied]
  exact station?_setMember network handle query station.applyPending address

theorem applyAt_of_absent [Updatable ρ μ] (absent : network.members.get? handle = none) :
    network.applyAt handle = network := by
  unfold applyAt
  rw [absent]

theorem exchange_applyAt [Updatable ρ μ] (network : Network ρ μ) (handle : Nat) :
    (network.applyAt handle).exchange = network.exchange := by
  unfold applyAt
  split <;> rfl

/-! ## Fan-out -/

/-- The messages of a fan-out cycle for one member, in the order in which they are offered. -/
def mailFor (handle : Nat) (deliveries : List (Delivery μ Endpoint)) : List μ :=
  (deliveries.filter fun delivery => delivery.endpoint = .member handle).map (·.message)

omit [Message μ] in
theorem mem_mailFor {deliveries : List (Delivery μ Endpoint)} {message : μ} :
    message ∈ mailFor handle deliveries ↔
      ∃ delivery ∈ deliveries, delivery.endpoint = .member handle ∧
        delivery.message = message := by
  simp [mailFor, and_assoc]

omit [Message μ] in
theorem mailFor_cons_self {first : Delivery μ Endpoint} {later : List (Delivery μ Endpoint)}
    (addressed : first.endpoint = .member handle) :
    mailFor handle (first :: later) = first.message :: mailFor handle later := by
  simp [mailFor, addressed]

omit [Message μ] in
theorem mailFor_cons_of_ne {first : Delivery μ Endpoint} {later : List (Delivery μ Endpoint)}
    (elsewhere : first.endpoint ≠ .member handle) :
    mailFor handle (first :: later) = mailFor handle later := by
  simp [mailFor, elsewhere]

theorem offer_of_station (delivery : Delivery μ Endpoint)
    (addressed : delivery.endpoint = .member handle)
    (present : network.station? handle = some station) :
    ∃ address, offer delivery network = (true, network.setMember handle
      ((station.receiveAll [delivery.message]).member address)) := by
  obtain ⟨address, found⟩ := station?_eq_some_iff.mp present
  refine ⟨address, ?_⟩
  simp only [offer, addressed, receive, found]
  rfl

/-- Stations accept whatever they are offered and queue it. -/
theorem offerAll_of_stations (deliveries : List (Delivery μ Endpoint)) (manned : network.Manned)
    (attached : ∀ delivery ∈ deliveries, ∃ handle station,
      delivery.endpoint = .member handle ∧ network.station? handle = some station) :
    ∃ members, Exchange.offerAll offer deliveries network =
        (deliveries.map fun delivery => (delivery.number, delivery.destination),
          { network with members }) ∧
      Manned { network with members } ∧
      ∀ query, ({ network with members }).station? query =
        (network.station? query).map (·.receiveAll (mailFor query deliveries)) := by
  -- A delivery changes no more than one member, and that one remains a station.
  induction deliveries generalizing network with
  | nil =>
      refine ⟨network.members, rfl, manned, fun query => ?_⟩
      cases network.station? query <;> rfl
  | cons first later ih =>
      obtain ⟨handle, station, addressed, present⟩ := attached first (.head _)
      obtain ⟨address, accepted⟩ := offer_of_station first addressed present
      have shown := fun query => station?_setMember network handle query
        (station.receiveAll [first.message]) address
      have stillAttached : ∀ delivery ∈ later, ∃ target station',
          delivery.endpoint = .member target ∧ (network.setMember handle
            ((station.receiveAll [first.message]).member address)).station? target =
              some station' := by
        intro delivery isLater
        obtain ⟨target, station', endpoint, found⟩ := attached delivery (.tail _ isLater)
        by_cases same : target = handle
        · exact ⟨target, _, endpoint, (shown target).trans (if_pos same)⟩
        · exact ⟨target, station', endpoint, ((shown target).trans (if_neg same)).trans found⟩
      obtain ⟨members, offered, stillManned, stations⟩ :=
        ih (manned.setMember handle (station.receiveAll [first.message]) address) stillAttached
      refine ⟨members, ?_, stillManned, ?_⟩
      · simp only [Exchange.offerAll, accepted, offered]
        rfl
      · intro query
        refine (stations query).trans ?_
        rw [shown query]
        by_cases same : query = handle
        · subst same
          rw [if_pos rfl, present, mailFor_cons_self addressed]
          rfl
        · have elsewhere : first.endpoint ≠ .member query := by
            rw [addressed]
            exact fun equal => same (Endpoint.member.inj equal).symm
          rw [if_neg same, mailFor_cons_of_ne elsewhere]

end Network

end Confluence

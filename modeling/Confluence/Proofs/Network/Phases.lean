import Confluence.Network.Cycles
import Confluence.Network.Local
import Confluence.Proofs.Outcome
import Confluence.Proofs.Replication.ExchangeProperties

/-!
The phases of the channels of a network. Whatever is sent, changed, delivered or applied, every
channel stays in its phase and nothing is attached or detached; only the coming, closing and
dropping of members does that.
-/

set_option autoImplicit false

namespace Confluence

/-- How far a channel has come, with the identifier under which it was registered. -/
inductive Phase where
  | unregistered
  | opened (id : ReplicaId)
  | closed (id : ReplicaId)
  deriving DecidableEq

namespace Channel

variable {μ : Type} {channel next : Channel μ}

def phase (channel : Channel μ) : Phase :=
  match channel.connection with
  | none => .unregistered
  | some connection =>
    if connection.isOpen then .opened connection.id else .closed connection.id

theorem phase_eq_unregistered_iff :
    channel.phase = .unregistered ↔ channel.connection = none := by
  unfold phase
  cases channel.connection with
  | none => simp
  | some connection => cases isOpen : connection.isOpen <;> simp [isOpen]

theorem id?_eq_some_iff {id : ReplicaId} :
    channel.id? = some id ↔ channel.phase = .opened id ∨ channel.phase = .closed id := by
  unfold id? phase
  cases channel.connection with
  | none => simp
  | some connection => cases isOpen : connection.isOpen <;> simp [isOpen]

theorem phase_receive [Message μ] {message : μ} (done : channel.receive message = .ok next) :
    next.phase = channel.phase := by
  unfold receive at done
  split at done
  · cases done
  next connection connected =>
    split at done
    next isOpen =>
      cases done
      simp [phase, connected]
    next => cases done

theorem ensureOpen_eq_ok_iff :
    channel.ensureOpen = .ok () ↔ ∃ id, channel.phase = .opened id := by
  unfold ensureOpen phase
  cases channel.connection with
  | none => simp
  | some connection => cases isOpen : connection.isOpen <;> simp [isOpen]

theorem opened_of_receive [Message μ] {message : μ} (received : channel.receive message = .ok next) :
    ∃ id, channel.phase = .opened id := by
  unfold receive at received
  split at received
  · cases received
  next connection connected =>
    split at received
    next isOpen => exact ⟨connection.id, by simp only [phase, connected, isOpen, ↓reduceIte]⟩
    next => cases received

theorem phase_beginClosing (done : channel.beginClosing = .ok next) :
    ∃ id, channel.phase = .opened id ∧ next.phase = .closed id := by
  unfold beginClosing at done
  split at done
  · cases done
  next connection connected =>
    split at done
    next isOpen =>
      cases done
      exact ⟨connection.id, by simp [phase, connected, isOpen], rfl⟩
    next => cases done

end Channel

namespace Network

variable {ρ μ : Type} [Message μ] {network next : Network ρ μ} {handle : Nat}

/-- The phase of the channel of a member that is there. -/
def phase? (network : Network ρ μ) (handle : Nat) : Option Phase :=
  (network.members.get? handle).map fun member => member.channel.phase

theorem phase?_of_member {member : Member ρ μ}
    (present : network.members.get? handle = some member) :
    network.phase? handle = some member.channel.phase := by
  rw [phase?, present]
  rfl

theorem phase?_insert (network : Network ρ μ) (handle query : Nat) (member : Member ρ μ) :
    ((network.members.insert handle member).get? query).map (fun member => member.channel.phase) =
      if query = handle then some member.channel.phase else network.phase? query := by
  rw [OrderedMap.get?_insert, phase?]
  by_cases same : query = handle
  · subst same
    simp
  · simp [same]

theorem phase?_setMember (network : Network ρ μ) (handle query : Nat) (member : Member ρ μ) :
    (network.setMember handle member).phase? query =
      if query = handle then some member.channel.phase else network.phase? query :=
  phase?_insert network handle query member

/-! ## What an operation makes of a member -/

theorem register_cases {bound : Nat} (done : network.register handle bound = .ok next) :
    ∃ member exchange, network.members.get? handle = some member ∧
      member.channel.connection = none ∧
      network.exchange.attach member.id (.member handle) = .ok exchange ∧
      next = { network.setMember handle
        { member with channel := member.channel.connect member.id } with exchange } := by
  unfold register at done
  split at done
  · cases done
  next member present =>
    split at done
    · cases done
    next unconnected =>
      split at done
      · cases done
      · obtain ⟨exchange, attached, finished⟩ := Outcome.bind_eq_ok done
        cases finished
        exact ⟨member, exchange, present, by simpa using unconnected, attached, rfl⟩

theorem receive_cases {message : μ} (done : network.receive handle message = .ok next) :
    ∃ member channel, network.members.get? handle = some member ∧
      member.channel.receive message = .ok channel ∧
      next = network.setMember handle { member with channel } := by
  unfold receive at done
  split at done
  · cases done
  next member present =>
    obtain ⟨channel, received, finished⟩ := Outcome.bind_eq_ok done
    cases finished
    exact ⟨member, channel, present, received, rfl⟩

theorem change_cases {change : ρ → Except StateError (ρ × μ)} {message : μ}
    (done : network.change handle change = .ok (next, message)) :
    ∃ id channel replica changed, network.members.get? handle = some ⟨id, channel, some replica⟩ ∧
      channel.ensureOpen = .ok () ∧ next = network.setMember handle ⟨id, channel, some changed⟩ := by
  unfold Network.change at done
  split at done
  next id channel replica present =>
    split at done
    · cases done
    next isOpen =>
      split at done
      · cases done
      next changed _ _ =>
        cases done
        exact ⟨id, channel, replica, changed, present, isOpen, rfl⟩
  next => cases done

theorem beginClosing_cases (done : network.beginClosing handle = .ok next) :
    ∃ member channel, network.members.get? handle = some member ∧
      member.channel.beginClosing = .ok channel ∧
      next = network.setMember handle { member with channel } := by
  unfold beginClosing at done
  split at done
  · cases done
  next member present =>
    obtain ⟨channel, begun, finished⟩ := Outcome.bind_eq_ok done
    cases finished
    exact ⟨member, channel, present, begun, rfl⟩

/-! ## What channels refuse -/

/-- Why a channel is not registered. -/
inductive RefusesChannel (network : Network ρ μ) (handle bound : Nat) : ReplicationError → Prop where
  | absent : network.phase? handle = none → RefusesChannel network handle bound .replicaDropped
  | registered {phase : Phase} : network.phase? handle = some phase → phase ≠ .unregistered →
      RefusesChannel network handle bound .alreadyRegistered
  | foreign : network.phase? handle = some .unregistered → handle ≠ bound →
      RefusesChannel network handle bound .foreignChannel
  | closed : network.phase? handle = some .unregistered → handle = bound →
      network.exchange.isClosed = true → RefusesChannel network handle bound .channelClosed
  | duplicate {member : Member ρ μ} {endpoint : Endpoint} :
      network.members.get? handle = some member → member.channel.phase = .unregistered →
      handle = bound → network.exchange.isClosed = false →
      network.exchange.endpoints.get? member.id = some endpoint →
      RefusesChannel network handle bound (.duplicateReplica member.id)

theorem member_of_phase? {phase : Phase} (shown : network.phase? handle = some phase) :
    ∃ member, network.members.get? handle = some member ∧ member.channel.phase = phase :=
  Option.map_eq_some_iff.mp shown

theorem register_eq_error_iff {bound : Nat} {error : ReplicationError} :
    network.register handle bound = .error error ↔ network.RefusesChannel handle bound error := by
  constructor
  · intro failed
    unfold register at failed
    split at failed
    next absent =>
      cases failed
      exact .absent (by rw [phase?, absent]; rfl)
    next member present =>
      split at failed
      next connected =>
        cases failed
        refine .registered (phase?_of_member present) fun unregistered => ?_
        rw [Channel.phase_eq_unregistered_iff.mp unregistered] at connected
        cases connected
      next unconnected =>
        have unregistered : member.channel.phase = .unregistered :=
          Channel.phase_eq_unregistered_iff.mpr (by simpa using unconnected)
        have phase := (phase?_of_member present).trans (congrArg some unregistered)
        split at failed
        next foreign =>
          cases failed
          exact .foreign phase foreign
        next own =>
          have isBound := Classical.not_not.mp own
          unfold Exchange.attach at failed
          split at failed
          next closed =>
            cases failed
            exact .closed phase isBound closed
          next isOpen =>
            split at failed
            next taken =>
              cases failed
              obtain ⟨endpoint, attached⟩ := Option.isSome_iff_exists.mp taken
              exact .duplicate present unregistered isBound (Bool.eq_false_iff.mpr isOpen) attached
            next => cases failed
  · intro refuses
    cases refuses with
    | absent gone =>
        rw [register, Option.map_eq_none_iff.mp gone]
    | registered shown notUnregistered =>
        obtain ⟨member, present, rfl⟩ := member_of_phase? shown
        have connected : member.channel.connection.isSome = true := by
          refine Option.isSome_iff_ne_none.mpr fun unconnected => notUnregistered ?_
          exact Channel.phase_eq_unregistered_iff.mpr unconnected
        simp only [register, present, connected, ↓reduceIte]
    | foreign shown foreign =>
        obtain ⟨member, present, unregistered⟩ := member_of_phase? shown
        have unconnected := Channel.phase_eq_unregistered_iff.mp unregistered
        simp [register, present, unconnected, foreign]
    | closed shown own closed =>
        subst own
        obtain ⟨member, present, unregistered⟩ := member_of_phase? shown
        have unconnected := Channel.phase_eq_unregistered_iff.mp unregistered
        simp [register, present, unconnected, Exchange.attach, closed]
        rfl
    | @duplicate member endpoint present unregistered own isOpen attached =>
        subst own
        have unconnected := Channel.phase_eq_unregistered_iff.mp unregistered
        simp [register, present, unconnected, Exchange.attach, isOpen, OrderedMap.contains,
          attached]
        rfl

theorem opened_of_publish {message : μ} (done : network.publish handle message = .ok next) :
    ∃ id, network.phase? handle = some (.opened id) := by
  obtain ⟨_, isOpen, _⟩ := Outcome.bind_eq_ok done
  obtain ⟨channel, found, ensured⟩ := Outcome.bind_eq_ok isOpen
  obtain ⟨id, opened⟩ := Channel.ensureOpen_eq_ok_iff.mp ensured
  unfold Network.channel at found
  split at found
  next member present =>
    cases found
    exact ⟨id, (phase?_of_member present).trans (congrArg some opened)⟩
  next => cases found

theorem opened_of_receive {message : μ} (done : network.receive handle message = .ok next) :
    ∃ id, network.phase? handle = some (.opened id) := by
  obtain ⟨member, channel, present, received, _⟩ := receive_cases done
  obtain ⟨id, isOpen⟩ := Channel.opened_of_receive received
  exact ⟨id, (phase?_of_member present).trans (congrArg some isOpen)⟩

theorem refuses_of_closed {id : ReplicaId} (isClosed : network.phase? handle = some (.closed id)) :
    (∀ message, network.publish handle message = .error .channelClosed) ∧
      (∀ message, network.receive handle message = .error .channelClosed) ∧
      network.beginClosing handle = .error .channelClosed := by
  obtain ⟨member, present, phase⟩ := member_of_phase? isClosed
  obtain ⟨memberId, ⟨order, connection⟩, replica⟩ := member
  cases connection with
  | none => cases phase
  | some connection =>
      have notOpen : connection.isOpen = false := by
        refine Bool.eq_false_iff.mpr fun isOpen => ?_
        simp only [Channel.phase, isOpen, ↓reduceIte] at phase
        cases phase
      refine ⟨fun message => ?_, fun message => ?_, ?_⟩
      · simp only [publish, ensureOpen, channel, present]
        simp only [bind, Except.bind, Channel.ensureOpen, notOpen]
        rfl
      · simp only [receive, present, Channel.receive, notOpen]
        rfl
      · simp only [beginClosing, present, Channel.beginClosing, notOpen]
        rfl

/-! ## What leaves every channel where it is -/

/-- Every channel is in the phase in which it was, and nothing was attached or detached. -/
structure Keeps (before after : Network ρ μ) : Prop where
  phases : ∀ handle, after.phase? handle = before.phase? handle
  endpoints : after.exchange.endpoints = before.exchange.endpoints
  nextHandle : after.nextHandle = before.nextHandle

namespace Keeps

theorem refl (network : Network ρ μ) : Keeps network network where
  phases _ := rfl
  endpoints := rfl
  nextHandle := rfl

theorem trans {third : Network ρ μ} (first : Keeps network next) (second : Keeps next third) :
    Keeps network third where
  phases handle := (second.phases handle).trans (first.phases handle)
  endpoints := second.endpoints.trans first.endpoints
  nextHandle := second.nextHandle.trans first.nextHandle

theorem setMember {member changed : Member ρ μ}
    (present : network.members.get? handle = some member)
    (same : changed.channel.phase = member.channel.phase) :
    Keeps network (network.setMember handle changed) := by
  refine ⟨?_, rfl, rfl⟩
  intro query
  rw [phase?_setMember]
  split
  next here => rw [here, phase?_of_member present, same]
  next => rfl

theorem receive {message : μ} (done : network.receive handle message = .ok next) :
    Keeps network next := by
  obtain ⟨member, channel, present, received, rfl⟩ := receive_cases done
  exact setMember present (Channel.phase_receive received)

theorem change {act : ρ → Except StateError (ρ × μ)} {message : μ}
    (done : network.change handle act = .ok (next, message)) : Keeps network next := by
  obtain ⟨id, channel, replica, changed, present, _, rfl⟩ := change_cases done
  exact setMember present rfl

theorem send {message : μ} (done : network.send message = .ok next) : Keeps network next := by
  obtain ⟨exchange, published, finished⟩ := Outcome.bind_eq_ok done
  cases finished
  rcases (Exchange.publish_eq_ok published).2 with ⟨_, rfl⟩ | ⟨_, rfl⟩
  · exact refl network
  · exact ⟨fun _ => rfl, rfl, rfl⟩

theorem publish {message : μ} (done : network.publish handle message = .ok next) :
    Keeps network next := by
  obtain ⟨_, _, sent⟩ := Outcome.bind_eq_ok done
  exact send sent

theorem perform (network : Network ρ μ) (handle : Nat) (act : ρ → Except StateError (ρ × μ)) :
    Keeps network (network.perform handle act).2 := by
  unfold Network.perform
  cases changed : network.change handle act with
  | error error => exact refl network
  | ok result =>
      obtain ⟨middle, message⟩ := result
      cases published : middle.publish handle message with
      | error error => simpa only [published] using change changed
      | ok next => simpa only [published] using (change changed).trans (publish published)

theorem update [Updatable ρ μ] (network : Network ρ μ) (handle : Nat) (message : μ) :
    Keeps network (network.update handle message).2 := by
  unfold Network.update
  split
  next id channel replica present => exact setMember present rfl
  next => exact refl network

theorem forgetReplica (network : Network ρ μ) (handle : Nat) :
    Keeps network (network.forgetReplica handle) := by
  unfold Network.forgetReplica
  cases present : network.members.get? handle with
  | none => exact refl network
  | some member => exact setMember present rfl

theorem offer (delivery : Delivery μ Endpoint) (network : Network ρ μ) :
    Keeps network (offer delivery network).2 := by
  unfold Network.offer
  cases delivery.endpoint with
  | probe probe => exact ⟨fun _ => rfl, rfl, rfl⟩
  | member handle =>
      cases received : network.receive handle delivery.message with
      | error error => simpa only [received] using refl network
      | ok next => simpa only [received] using receive received

theorem offerAll (deliveries : List (Delivery μ Endpoint)) (network : Network ρ μ) :
    Keeps network (Exchange.offerAll Network.offer deliveries network).2 := by
  induction deliveries generalizing network with
  | nil => exact refl network
  | cons first later ih => exact (offer first network).trans (ih _)

theorem deliver (network : Network ρ μ) : Keeps network network.deliver := by
  unfold Network.deliver
  split
  · obtain ⟨phases, endpoints, nextHandle⟩ := offerAll network.exchange.deliveries network
    exact ⟨phases, endpoints, nextHandle⟩
  · exact refl network

theorem applyAt [Updatable ρ μ] (network : Network ρ μ) (handle : Nat) :
    Keeps network (network.applyAt handle) := by
  unfold Network.applyAt
  split
  next id order connection replica present =>
    have kept : Keeps network (network.setMember handle
        { id
          channel := ⟨order, some { connection with
            inbox := (connection.inbox.applyPending (loggedUpdate id) (replica, network.log)).inbox }⟩
          replica := some (connection.inbox.applyPending (loggedUpdate id)
            (replica, network.log)).replica.1 }) := setMember present rfl
    exact ⟨kept.phases, kept.endpoints, kept.nextHandle⟩
  next => exact refl network

theorem drainExchange (cycles : Nat) (network : Network ρ μ) :
    Keeps network (drainExchange cycles network) := by
  induction cycles generalizing network with
  | zero => exact refl network
  | succ cycles ih =>
      unfold Network.drainExchange
      split
      · exact refl network
      · exact (deliver network).trans (ih network.deliver)

theorem shutdown (network : Network ρ μ) : Keeps network network.shutdown := by
  unfold Network.shutdown
  split
  · exact refl network
  · obtain ⟨phases, endpoints, nextHandle⟩ :=
      drainExchange drainCycles { network with exchange := network.exchange.close }
    exact ⟨phases, endpoints, nextHandle⟩

end Keeps

/-- What may happen beside the coming and going of members. -/
inductive Traffic [Updatable ρ μ] : Network ρ μ → Network ρ μ → Prop where
  | mint (network : Network ρ μ) : Traffic network network.mint.2
  | forgetReplica (network : Network ρ μ) (handle : Nat) :
      Traffic network (network.forgetReplica handle)
  | send {network next : Network ρ μ} (message : μ) :
      network.send message = .ok next → Traffic network next
  | publish {network next : Network ρ μ} (handle : Nat) (message : μ) :
      network.publish handle message = .ok next → Traffic network next
  | receive {network next : Network ρ μ} (handle : Nat) (message : μ) :
      network.receive handle message = .ok next → Traffic network next
  | update (network : Network ρ μ) (handle : Nat) (message : μ) :
      Traffic network (network.update handle message).2
  | change {network next : Network ρ μ} {message : μ} (handle : Nat)
      (act : ρ → Except StateError (ρ × μ)) :
      network.change handle act = .ok (next, message) → Traffic network next
  | perform (network : Network ρ μ) (handle : Nat) (act : ρ → Except StateError (ρ × μ)) :
      Traffic network (network.perform handle act).2
  | deliver (network : Network ρ μ) : Traffic network network.deliver
  | applyAt (network : Network ρ μ) (handle : Nat) : Traffic network (network.applyAt handle)
  | shutdown (network : Network ρ μ) : Traffic network network.shutdown

theorem Traffic.keeps [Updatable ρ μ] (traffic : Traffic network next) : Keeps network next := by
  cases traffic with
  | mint => exact ⟨fun _ => rfl, rfl, rfl⟩
  | forgetReplica handle => exact .forgetReplica network handle
  | send message done => exact .send done
  | publish handle message done => exact .publish done
  | receive handle message done => exact .receive done
  | update handle message => exact .update network handle message
  | change handle act done => exact .change done
  | perform handle act => exact .perform network handle act
  | deliver => exact .deliver network
  | applyAt handle => exact .applyAt network handle
  | shutdown => exact .shutdown network

end Network

end Confluence

import Confluence.OrderedMap
import Confluence.Replication.Error
import Confluence.Replication.Message

/-!
The exchange: a hub that hands every message to all endpoints that were attached when it was
published, its origin excepted. A message stays pending until each of them has accepted it or was
detached. Delivery is at least once: an endpoint that refuses a message is offered it again in the
next fan-out cycle, and does not hold up the others.

A fan-out cycle has three phases. `deliveries` collects what is to be handed out; the endpoints are
then offered the messages in that order; `acknowledge` records at once what they accepted.
-/

set_option autoImplicit false

namespace Confluence

structure Pending (μ : Type) where
  number : Nat
  message : μ
  remaining : OrderedSet ReplicaId

structure Delivery (μ ε : Type) where
  number : Nat
  message : μ
  destination : ReplicaId
  endpoint : ε

/-- The state of an exchange. Endpoints of type `ε` are attached under identifiers. -/
structure Exchange (μ ε : Type) [Message μ] where
  endpoints : OrderedMap ReplicaId ε
  pending : List (Pending μ)
  /-- The keys of the pending messages, which may not be published again. -/
  reserved : List (Message.Key μ)
  nextNumber : Nat
  isClosed : Bool

namespace Exchange

variable {μ ε : Type} [Message μ]

def empty : Exchange μ ε := ⟨∅, [], [], 0, false⟩

instance : Inhabited (Exchange μ ε) := ⟨empty⟩

def hasPendingFrom (exchange : Exchange μ ε) (origin : ReplicaId) : Bool :=
  exchange.pending.any fun pending => Message.origin pending.message == origin

def attach (exchange : Exchange μ ε) (id : ReplicaId) (endpoint : ε) :
    Except ReplicationError (Exchange μ ε) :=
  if exchange.isClosed then .error .channelClosed
  else if exchange.endpoints.contains id then .error (.duplicateReplica id)
  else .ok { exchange with endpoints := exchange.endpoints.insert id endpoint }

/-- Drops the messages that no destination awaits any more, and frees their keys. -/
def release (exchange : Exchange μ ε) : Exchange μ ε :=
  let released := exchange.pending.filter fun pending => pending.remaining.isEmpty
  { exchange with
    pending := exchange.pending.filter fun pending => !pending.remaining.isEmpty
    reserved := exchange.reserved.filter fun key =>
      !released.any fun pending => key == Message.key pending.message }

def detach (exchange : Exchange μ ε) (id : ReplicaId) : Exchange μ ε :=
  if exchange.endpoints.contains id then
    release
      { exchange with
        endpoints := exchange.endpoints.erase id
        pending := exchange.pending.map fun pending =>
          { pending with remaining := pending.remaining.erase id } }
  else exchange

/-- Accepts a message for every attached endpoint but its origin. Without any such endpoint the
message is done with at once. A key may be published again when it is not pending any more. -/
def publish (exchange : Exchange μ ε) (message : μ) :
    Except ReplicationError (Exchange μ ε) :=
  if exchange.isClosed then .error .channelClosed
  else if exchange.reserved.any fun key => key == Message.key message then
    .error (.duplicateMessage (diagnostic (Message.key message)))
  else
    let remaining := exchange.endpoints.keys.erase (Message.origin message)
    if remaining.isEmpty then .ok exchange
    else
      .ok { exchange with
        pending := exchange.pending ++ [⟨exchange.nextNumber, message, remaining⟩]
        reserved := Message.key message :: exchange.reserved
        nextNumber := exchange.nextNumber + 1 }

/-- What a fan-out cycle has to hand out: the pending messages in the order of publishing, each to
its destinations in the order of their identifiers. -/
def deliveries (exchange : Exchange μ ε) : List (Delivery μ ε) :=
  exchange.pending.flatMap fun pending =>
    pending.remaining.elements.filterMap fun id =>
      (exchange.endpoints.get? id).map fun endpoint =>
        ⟨pending.number, pending.message, id, endpoint⟩

def strike (number : Nat) (id : ReplicaId) (pending : Pending μ) : Pending μ :=
  if pending.number = number then { pending with remaining := pending.remaining.erase id }
  else pending

def acknowledge (exchange : Exchange μ ε) (accepted : List (Nat × ReplicaId)) : Exchange μ ε :=
  release
    { exchange with
      pending := exchange.pending.map fun pending =>
        accepted.foldl (fun pending acceptance => strike acceptance.1 acceptance.2 pending)
          pending }

/-- Accepts no more endpoints and messages. What is pending stays pending. -/
def close (exchange : Exchange μ ε) : Exchange μ ε := { exchange with isClosed := true }

/-- Offers deliveries in order, threading a state through. The result tells which were
accepted. -/
def offerAll {σ : Type} (offer : Delivery μ ε → σ → Bool × σ) :
    List (Delivery μ ε) → σ → List (Nat × ReplicaId) × σ
  | [], state => ([], state)
  | delivery :: later, state =>
    let (isAccepted, state) := offer delivery state
    let (accepted, state) := offerAll offer later state
    (if isAccepted then (delivery.number, delivery.destination) :: accepted else accepted, state)

end Exchange

end Confluence

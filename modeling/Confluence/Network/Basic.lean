import Confluence.Replication.Channel
import Confluence.Replication.Exchange
import Confluence.Replication.Updatable

/-!
A network: one exchange with the replicas that are connected to it. Its participants are members,
each of them a replica with its channel, and probes, which record what they are offered and refuse
the first few messages.

Participants have handles, which are never used again. A channel is attached to the exchange under
the identifier of its replica, and it is by identifier, not by handle, that it is detached when it
closes or is dropped.
-/

set_option autoImplicit false

namespace Confluence

/-- Identifiers for replicas that are created without one: a list that starts over at its end.
Without any identifier all replicas get the one whose bits are zero. -/
structure IdentifierCycle where
  identifiers : List ReplicaId
  used : Nat
  deriving DecidableEq

def IdentifierCycle.next (cycle : IdentifierCycle) : ReplicaId × IdentifierCycle :=
  (cycle.identifiers.getD (cycle.used % cycle.identifiers.length) default,
    { cycle with used := cycle.used + 1 })

inductive Endpoint where
  | probe (handle : Nat)
  | member (handle : Nat)
  deriving DecidableEq

structure Member (ρ μ : Type) where
  id : ReplicaId
  channel : Channel μ
  /-- The replica, unless it is gone and only its channel is left. -/
  replica : Option ρ

inductive Event (μ : Type) where
  | offered (probe : ReplicaId) (message : μ) (isAccepted : Bool)
  | applied (replica : ReplicaId) (message : μ) (isAccepted : Bool)

def Event.participant {μ : Type} : Event μ → ReplicaId
  | offered probe _ _ => probe
  | applied replica _ _ => replica

structure Network (ρ μ : Type) [Message μ] where
  exchange : Exchange μ Endpoint
  members : OrderedMap Nat (Member ρ μ)
  /-- How many messages each probe will refuse yet, by handle. -/
  probes : OrderedMap Nat Nat
  nextHandle : Nat
  identifiers : IdentifierCycle
  isFanningOut : Bool
  log : List (Event μ)

namespace Network

variable {ρ μ : Type} [Message μ]

def empty (identifiers : List ReplicaId) : Network ρ μ :=
  ⟨.empty, ∅, ∅, 0, ⟨identifiers, 0⟩, true, []⟩

/-! ## Identifiers and members -/

def mint (network : Network ρ μ) : ReplicaId × Network ρ μ :=
  let (id, identifiers) := network.identifiers.next
  (id, { network with identifiers })

def resolveId (network : Network ρ μ) : Option ReplicaId → ReplicaId × Network ρ μ
  | some id => (id, network)
  | none => network.mint

/-- Brings in a replica with a channel that is not registered. The result tells its handle. -/
def addMember (network : Network ρ μ) (id : ReplicaId) (order : InboxOrder)
    (replica : Option ρ) : Nat × Network ρ μ :=
  (network.nextHandle,
    { network with
      members := network.members.insert network.nextHandle ⟨id, .unregistered order, replica⟩
      nextHandle := network.nextHandle + 1 })

def setMember (network : Network ρ μ) (handle : Nat) (member : Member ρ μ) : Network ρ μ :=
  { network with members := network.members.insert handle member }

def channel (network : Network ρ μ) (handle : Nat) : Except ReplicationError (Channel μ) :=
  match network.members.get? handle with
  | some member => .ok member.channel
  | none => .error .replicaDropped

def replica (network : Network ρ μ) (handle : Nat) : Except ReplicationError ρ :=
  match network.members.get? handle with
  | some { replica := some replica, .. } => .ok replica
  | _ => .error .replicaDropped

def register (network : Network ρ μ) (handle bound : Nat) :
    Except ReplicationError (Network ρ μ) :=
  match network.members.get? handle with
  | none => .error .replicaDropped
  | some member =>
    if member.channel.connection.isSome then .error .alreadyRegistered
    else if handle ≠ bound then .error .foreignChannel
    else do
      let exchange ← network.exchange.attach member.id (.member handle)
      .ok { network.setMember handle
          { member with channel := member.channel.connect member.id } with exchange }

/-- Brings in a replica and registers its channel. A replica that cannot be registered is not
brought in. -/
def join (network : Network ρ μ) (id : ReplicaId) (order : InboxOrder) (replica : ρ) :
    Except ReplicationError (Nat × Network ρ μ) := do
  let (handle, extended) := network.addMember id order (some replica)
  let joined ← extended.register handle handle
  .ok (handle, joined)

/-- Drops a replica and keeps its channel, whose messages then stay queued. -/
def forgetReplica (network : Network ρ μ) (handle : Nat) : Network ρ μ :=
  match network.members.get? handle with
  | some member => network.setMember handle { member with replica := none }
  | none => network

def detach (network : Network ρ μ) (id : ReplicaId) : Network ρ μ :=
  { network with exchange := network.exchange.detach id }

/-- Drops a replica with its channel. A channel that was ever registered detaches its
identifier. -/
def drop (network : Network ρ μ) (handle : Nat) : Network ρ μ :=
  match network.members.get? handle with
  | some member =>
    let rest := { network with members := network.members.erase handle }
    match member.channel.id? with
    | some id => rest.detach id
    | none => rest
  | none => network

/-! ## Probes -/

def attachProbe (network : Network ρ μ) (id : ReplicaId) (refusals : Nat) :
    Except ReplicationError (Network ρ μ) := do
  let exchange ← network.exchange.attach id (.probe network.nextHandle)
  .ok { network with
    exchange
    probes := network.probes.insert network.nextHandle refusals
    nextHandle := network.nextHandle + 1 }

/-! ## Messages -/

def send (network : Network ρ μ) (message : μ) : Except ReplicationError (Network ρ μ) := do
  let exchange ← network.exchange.publish message
  .ok { network with exchange }

def ensureOpen (network : Network ρ μ) (handle : Nat) : Except ReplicationError Unit := do
  (← network.channel handle).ensureOpen

def publish (network : Network ρ μ) (handle : Nat) (message : μ) :
    Except ReplicationError (Network ρ μ) := do
  network.ensureOpen handle
  network.send message

def receive (network : Network ρ μ) (handle : Nat) (message : μ) :
    Except ReplicationError (Network ρ μ) :=
  match network.members.get? handle with
  | none => .error .replicaDropped
  | some member => do
    let channel ← member.channel.receive message
    .ok (network.setMember handle { member with channel })

def update [Updatable ρ μ] (network : Network ρ μ) (handle : Nat) (message : μ) :
    Except ReplicationError Unit × Network ρ μ :=
  match network.members.get? handle with
  | some { replica := some replica, id, channel } =>
    let (outcome, replica) := Updatable.update replica message
    (outcome, network.setMember handle ⟨id, channel, some replica⟩)
  | _ => (.error .replicaDropped, network)

/-- Changes a replica locally. The channel has to be open. The result holds the message that tells
of the change, which is not published yet; a change that is refused leaves everything as it is. -/
def change (network : Network ρ μ) (handle : Nat) (change : ρ → Except StateError (ρ × μ)) :
    Except ReplicationError (Network ρ μ × μ) :=
  match network.members.get? handle with
  | some { replica := some replica, id, channel } =>
    match channel.ensureOpen with
    | .error error => .error error
    | .ok () =>
      match change replica with
      | .error cause => .error (.refused cause)
      | .ok (changed, message) =>
        .ok (network.setMember handle ⟨id, channel, some changed⟩, message)
  | _ => .error .replicaDropped

/-- Changes a replica locally and publishes the message that tells of the change. If only the
message cannot be published, the change stays. -/
def perform (network : Network ρ μ) (handle : Nat)
    (change : ρ → Except StateError (ρ × μ)) : Except ReplicationError Unit × Network ρ μ :=
  match network.change handle change with
  | .error error => (.error error, network)
  | .ok (changed, message) =>
    match changed.publish handle message with
    | .error error => (.error error, changed)
    | .ok published => (.ok (), published)

/-! ## Observation -/

def hasPendingDeliveries (network : Network ρ μ) (handle : Nat) : Bool :=
  match network.channel handle with
  | .ok channel =>
    match channel.id? with
    | some id => network.exchange.hasPendingFrom id
    | none => false
  | .error _ => false

def hasPendingUpdates (network : Network ρ μ) (handle : Nat) : Bool :=
  match network.channel handle with
  | .ok channel => channel.hasPendingUpdates
  | .error _ => false

def takeLog (network : Network ρ μ) : List (Event μ) × Network ρ μ :=
  (network.log, { network with log := [] })

/-- Events grouped by participant, in the order of the identifiers; the events of one participant
stay in their order. -/
def byParticipant (events : List (Event μ)) : List (Event μ) :=
  events.mergeSort fun first second =>
    (compare first.participant second.participant).isLE

end Network

end Confluence

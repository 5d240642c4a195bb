import Confluence.Replication.Inbox

/-!
Delivery channels. A channel connects one replica to an exchange and passes through three phases,
each entered once: unregistered, open, closed. While it is open, incoming messages queue in its
inbox.
-/

set_option autoImplicit false

namespace Confluence

/-- What a channel holds from the moment at which it is registered. -/
structure Connection (μ : Type) where
  id : ReplicaId
  inbox : Inbox μ
  isOpen : Bool

/-- A channel; it has a connection unless it is unregistered. -/
structure Channel (μ : Type) where
  order : InboxOrder
  connection : Option (Connection μ)

namespace Channel

variable {μ : Type}

def unregistered (order : InboxOrder) : Channel μ := ⟨order, none⟩

def id? (channel : Channel μ) : Option ReplicaId := channel.connection.map (·.id)

def isOpen (channel : Channel μ) : Bool :=
  match channel.connection with
  | some connection => connection.isOpen
  | none => false

def ensureOpen (channel : Channel μ) : Except ReplicationError Unit :=
  match channel.connection with
  | none => .error .notRegistered
  | some connection => if connection.isOpen then .ok () else .error .channelClosed

def hasPendingUpdates (channel : Channel μ) : Bool :=
  match channel.connection with
  | some connection => connection.inbox.hasPending
  | none => false

def connect (channel : Channel μ) (id : ReplicaId) : Channel μ :=
  { channel with connection := some ⟨id, .empty, true⟩ }

def receive [Message μ] (channel : Channel μ) (message : μ) :
    Except ReplicationError (Channel μ) :=
  match channel.connection with
  | none => .error .notRegistered
  | some connection =>
    if connection.isOpen then
      .ok { channel with
        connection := some
          { connection with inbox := connection.inbox.enqueue channel.order message } }
    else .error .channelClosed

def beginClosing (channel : Channel μ) : Except ReplicationError (Channel μ) :=
  match channel.connection with
  | none => .error .notRegistered
  | some connection =>
    if connection.isOpen then
      .ok { channel with connection := some { connection with isOpen := false } }
    else .error .channelClosed

end Channel

end Confluence

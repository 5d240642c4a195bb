import Confluence.Network.Basic

/-!
The periodic work of a network on a virtual clock. Time stands still except while a cycle runs. A
fan-out cycle offers every pending message to the endpoints that await it; an apply cycle empties
the inbox of a member as far as its replica takes the messages. Closing a member, and shutting the
exchange down, wait for pending messages for at most three fan-out cycles.
-/

set_option autoImplicit false

namespace Confluence.Network

variable {ρ μ : Type} [Message μ]

/-! ## Fan-out -/

def offer (delivery : Delivery μ Endpoint) (network : Network ρ μ) : Bool × Network ρ μ :=
  match delivery.endpoint with
  | .probe handle =>
    let refusals := (network.probes.get? handle).getD 0
    let isAccepted := refusals == 0
    (isAccepted,
      { network with
        probes := network.probes.insert handle (refusals - 1)
        log := network.log ++ [.offered delivery.destination delivery.message isAccepted] })
  | .member handle =>
    match network.receive handle delivery.message with
    | .ok network => (true, network)
    | .error _ => (false, network)

/-- One fan-out cycle. After a shutdown it does nothing. -/
def deliver (network : Network ρ μ) : Network ρ μ :=
  if network.isFanningOut then
    let (accepted, network) := Exchange.offerAll offer network.exchange.deliveries network
    { network with exchange := network.exchange.acknowledge accepted }
  else network

/-! ## Application -/

def loggedUpdate [Updatable ρ μ] (id : ReplicaId) (state : ρ × List (Event μ)) (message : μ) :
    Except ReplicationError Unit × (ρ × List (Event μ)) :=
  let (outcome, replica) := Updatable.update state.1 message
  (outcome, (replica, state.2 ++ [.applied id message outcome.isOk]))

/-- One apply cycle of a member. A member without a channel that was registered, or without its
replica, is left as it is. -/
def applyAt [Updatable ρ μ] (network : Network ρ μ) (handle : Nat) : Network ρ μ :=
  match network.members.get? handle with
  | some { id, channel := ⟨order, some connection⟩, replica := some replica } =>
    let applied := connection.inbox.applyPending (loggedUpdate id) (replica, network.log)
    { network.setMember handle
        { id
          channel := ⟨order, some { connection with inbox := applied.inbox }⟩
          replica := some applied.replica.1 } with
      log := applied.replica.2 }
  | _ => network

def openHandles (network : Network ρ μ) : List Nat :=
  (network.members.entries.filter fun entry => entry.2.channel.isOpen).map (·.1)

def applyAll [Updatable ρ μ] (network : Network ρ μ) : Network ρ μ :=
  network.openHandles.foldl applyAt network

/-- A round of all periodic work: what is delivered in the first fan-out cycle is applied, and what
is still pending is offered once more. -/
def tick [Updatable ρ μ] (network : Network ρ μ) : Network ρ μ :=
  network.deliver.applyAll.deliver

/-! ## Waiting -/

/-- Waits for one fan-out cycle until no message of `origin` is pending, and tells whether that
came about. -/
def waitForDeliveriesFrom (network : Network ρ μ) (origin : ReplicaId) : Bool × Network ρ μ :=
  let later := network.deliver
  (!network.exchange.hasPendingFrom origin || !later.exchange.hasPendingFrom origin, later)

/-- Waits for one fan-out cycle until what a member published is delivered. A member whose channel
is not registered has nothing to wait for. -/
def waitForDeliveries (network : Network ρ μ) (handle : Nat) : Bool × Network ρ μ :=
  let later := network.deliver
  (!network.hasPendingDeliveries handle || !later.hasPendingDeliveries handle, later)

def waitForUpdates [Updatable ρ μ] (network : Network ρ μ) (handle : Nat) :
    Bool × Network ρ μ :=
  let later := network.tick
  (!network.hasPendingUpdates handle || !later.hasPendingUpdates handle, later)

/-! ## Closing -/

def drainCycles : Nat := 3

def beginClosing (network : Network ρ μ) (handle : Nat) :
    Except ReplicationError (Network ρ μ) :=
  match network.members.get? handle with
  | none => .error .replicaDropped
  | some member => do
    let channel ← member.channel.beginClosing
    .ok (network.setMember handle { member with channel })

/-- Applies the inbox of a closing member a last time and detaches it. -/
def finishClosing [Updatable ρ μ] (network : Network ρ μ) (handle : Nat) : Network ρ μ :=
  let network := network.applyAt handle
  match network.channel handle with
  | .ok channel =>
    match channel.id? with
    | some id => network.detach id
    | none => network
  | .error _ => network

/-- Finishes the closing members that have nothing pending, in order, over and over: detaching one
may release what another waits for. The result tells which still wait. -/
def settle [Updatable ρ μ] (network : Network ρ μ) (waiting : List Nat) :
    Network ρ μ × List Nat :=
  match _found : waiting.find? fun handle => !network.hasPendingDeliveries handle with
  | none => (network, waiting)
  | some handle => settle (network.finishClosing handle) (waiting.erase handle)
termination_by waiting.length
decreasing_by
  have isMember := List.mem_of_find?_eq_some _found
  rw [List.length_erase_of_mem isMember]
  exact Nat.sub_lt (List.length_pos_of_mem isMember) Nat.one_pos

/-- Has members begin to close, one after the other; one with nothing pending finishes at once. The
result holds the outcome of each and the members that wait for their messages to be delivered. -/
def beginClosingAll [Updatable ρ μ] :
    List Nat → List Nat → Network ρ μ →
      List (Except ReplicationError Unit) × List Nat × Network ρ μ
  | [], waiting, network => ([], waiting, network)
  | handle :: later, waiting, network =>
    match network.beginClosing handle with
    | .error error =>
      let (outcomes, waiting, network) := beginClosingAll later waiting network
      (.error error :: outcomes, waiting, network)
    | .ok network =>
      let (network, waiting) := network.settle (waiting ++ [handle])
      let (outcomes, waiting, network) := beginClosingAll later waiting network
      (.ok () :: outcomes, waiting, network)

def drain [Updatable ρ μ] : Nat → Network ρ μ → List Nat → Network ρ μ × List Nat
  | 0, network, waiting => (network, waiting)
  | cycles + 1, network, waiting =>
    if waiting.isEmpty then (network, waiting)
    else
      let (network, waiting) := network.deliver.settle waiting
      drain cycles network waiting

/-- Closes members together. Those that still wait when draining is given up are closed all the
same, in order, and the messages that are left get one more fan-out cycle. -/
def closeAll [Updatable ρ μ] (network : Network ρ μ) (handles : List Nat) :
    List (Except ReplicationError Unit) × Network ρ μ :=
  let (outcomes, waiting, network) := beginClosingAll handles [] network
  let (network, waiting) := drain drainCycles network waiting
  if waiting.isEmpty then (outcomes, network)
  else (outcomes, (waiting.foldl finishClosing network).deliver)

def close [Updatable ρ μ] (network : Network ρ μ) (handle : Nat) :
    Except ReplicationError Unit × Network ρ μ :=
  let (outcomes, network) := network.closeAll [handle]
  (outcomes.headD (.ok ()), network)

/-! ## Shutdown -/

def drainExchange : Nat → Network ρ μ → Network ρ μ
  | 0, network => network
  | cycles + 1, network =>
    if network.exchange.pending.isEmpty then network else drainExchange cycles network.deliver

/-- Shuts the exchange down: it accepts nothing more, drains what is pending, and then stops
fanning out for good. A second shutdown does nothing. -/
def shutdown (network : Network ρ μ) : Network ρ μ :=
  if network.exchange.isClosed then network
  else
    let drained :=
      drainExchange drainCycles { network with exchange := network.exchange.close }
    { drained with isFanningOut := false }

end Confluence.Network

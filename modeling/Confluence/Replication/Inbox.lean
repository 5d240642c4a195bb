import Confluence.Replication.Error
import Confluence.Replication.Message

/-!
The inbox of a channel: messages that were received and not applied yet.

An apply cycle works in passes. A pass takes all queued messages out, offers each to the replica in
the order of the inbox, and puts back those that the replica refused. Passes are repeated as long
as a pass makes progress and leaves something, so that a message which had to wait for another is
applied in the same cycle once that other has come. The number of passes is bounded, since each
but the last makes the queue shorter.
-/

set_option autoImplicit false

namespace Confluence

inductive InboxOrder where
  /-- Lowest rank first: operations, which build on earlier ones. -/
  | oldestFirst
  /-- Highest rank first: snapshots, of which the newest makes the older ones superfluous. -/
  | newestFirst
  deriving DecidableEq

/-- The priority of a message by its rank; the highest priority comes first. -/
def InboxOrder.priority : InboxOrder → Nat → Int
  | .oldestFirst, rank => -(rank : Int)
  | .newestFirst, rank => rank

structure Queued (μ : Type) where
  priority : Int
  arrival : Nat
  message : μ

/-- Whether the first message is due no later than the second: higher priorities come first, and
equal ones in the order of arrival. -/
def Queued.isDueBefore {μ : Type} (first second : Queued μ) : Bool :=
  second.priority < first.priority ||
    (first.priority == second.priority && first.arrival ≤ second.arrival)

structure Inbox (μ : Type) where
  queue : List (Queued μ)
  nextArrival : Nat
  /-- How many messages were taken out and are neither applied nor put back. -/
  applying : Nat

namespace Inbox

variable {μ ρ : Type}

def empty : Inbox μ := ⟨[], 0, 0⟩

instance : Inhabited (Inbox μ) := ⟨empty⟩

def hasPending (inbox : Inbox μ) : Bool := !inbox.queue.isEmpty || 0 < inbox.applying

def enqueue [Message μ] (order : InboxOrder) (inbox : Inbox μ) (message : μ) : Inbox μ :=
  { inbox with
    queue := inbox.queue ++
      [⟨order.priority (Message.rank message), inbox.nextArrival, message⟩]
    nextArrival := inbox.nextArrival + 1 }

def due (inbox : Inbox μ) : List (Queued μ) := inbox.queue.mergeSort Queued.isDueBefore

def takeOut (inbox : Inbox μ) : Inbox μ :=
  { inbox with queue := [], applying := inbox.applying + inbox.queue.length }

/-- The inbox after a pass over `taken` messages of which `refused` come back. -/
def putBack (inbox : Inbox μ) (refused : List (Queued μ)) (taken : Nat) : Inbox μ :=
  { inbox with queue := inbox.queue ++ refused, applying := inbox.applying - taken }

def pass (update : ρ → μ → Except ReplicationError Unit × ρ) :
    List (Queued μ) → ρ → ρ × List (Queued μ)
  | [], replica => (replica, [])
  | queued :: later, replica =>
    let (outcome, replica) := update replica queued.message
    let (replica, refused) := pass update later replica
    match outcome with
    | .ok () => (replica, refused)
    | .error _ => (replica, queued :: refused)

structure Applied (μ ρ : Type) where
  replica : ρ
  inbox : Inbox μ
  count : Nat

def applyPending (update : ρ → μ → Except ReplicationError Unit × ρ) (replica : ρ)
    (inbox : Inbox μ) : Applied μ ρ :=
  let taken := inbox.queue.length
  let (replica, refused) := pass update inbox.due replica
  let after := inbox.takeOut.putBack refused taken
  let count := taken - refused.length
  if _progress : refused ≠ [] ∧ refused.length < taken then
    let rest := applyPending update replica after
    { rest with count := count + rest.count }
  else ⟨replica, after, count⟩
termination_by inbox.queue.length
decreasing_by
  simpa [takeOut, putBack] using _progress.2

end Inbox

end Confluence

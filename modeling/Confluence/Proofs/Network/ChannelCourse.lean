import Confluence.Proofs.Network.Attachment
import Confluence.Proofs.Network.ChannelMessages
import Confluence.Proofs.Network.Stations
import Confluence.Proofs.Replication.ExchangeRuns

/-!
The course of a network in small acts. An act is what runs while nobody else can: a look at a flag,
or what is done under one lock. So a call that receives a message finds the channel open in one act
and enqueues the message in another, a call that publishes does so likewise, an apply cycle takes
messages out, offers each to the replica and puts back what was refused in as many acts, and a
closing is flagged, applies the inbox a last time, and detaches the channel. Between any two of
these acts anything else may happen. A fan-out cycle may offer late what it has collected early; here
anything may be offered and acknowledged at any time.

A journal keeps beside the network what is noted of each channel: the calls that are under way, the
messages that are in somebody's hands, what was accepted, applied and refused, and how far the
closing has come. What one act makes of one channel is a move of its account, and that is all that
has to be known of the acts.
-/

set_option autoImplicit false

namespace Confluence

namespace Network

variable {ρ μ : Type} [Message μ]

/-- Changes the replica of a member past its channel. -/
def alter (network : Network ρ μ) (handle : Nat) (change : ρ → ρ) : Network ρ μ :=
  match network.members.get? handle with
  | some { id, channel, replica := some replica } =>
    network.setMember handle ⟨id, channel, some (change replica)⟩
  | _ => network

/-- Detaches the identifier of a member whose channel was ever registered. -/
def detachMember (network : Network ρ μ) (handle : Nat) : Network ρ μ :=
  match network.channel handle with
  | .ok channel =>
    match channel.id? with
    | some id => network.detach id
    | none => network
  | .error _ => network

/-- What a channel that is dropped makes of the exchange is what its closing makes of it. -/
theorem exchange_drop (network : Network ρ μ) (handle : Nat) :
    (network.drop handle).exchange = (network.detachMember handle).exchange := by
  unfold drop detachMember channel
  cases network.members.get? handle with
  | none => rfl
  | some member =>
      simp only
      cases member.channel.id? with
      | none => rfl
      | some id => rfl

/-- The network as whoever was at work on the inbox of a member leaves it. -/
def setBench (network : Network ρ μ) (handle : Nat) (id : ReplicaId) (order : InboxOrder)
    (connection : Connection μ) (bench : Bench ρ μ) : Network ρ μ :=
  { network.setMember handle
      { id
        channel := ⟨order, some { connection with inbox := bench.inbox }⟩
        replica := some bench.replica } with
    log := bench.log }

theorem Keeps.setBench {network : Network ρ μ} {handle : Nat} {id : ReplicaId} {order : InboxOrder}
    {connection : Connection μ} {replica : ρ}
    (present : network.members.get? handle = some ⟨id, ⟨order, some connection⟩, some replica⟩)
    (bench : Bench ρ μ) : Keeps network (network.setBench handle id order connection bench) := by
  have kept : Keeps network (network.setMember handle
      ⟨id, ⟨order, some { connection with inbox := bench.inbox }⟩, some bench.replica⟩) :=
    .setMember present rfl
  exact ⟨kept.phases, kept.endpoints, kept.nextHandle⟩

end Network

/-! ## Journals -/

structure Journal (ρ μ : Type) [Message μ] where
  network : Network ρ μ
  notes : Nat → Notes μ

namespace Journal

/-- What may happen. The calls of a channel that are under way are told by their place among those
that wait. -/
inductive Act (ρ μ : Type) where
  | addMember (id : ReplicaId) (order : InboxOrder) (replica : Option ρ)
  | register (handle bound : Nat)
  | forgetReplica (handle : Nat)
  | attachProbe (id : ReplicaId) (refusals : Nat)
  | detach (id : ReplicaId)
  | alter (handle : Nat) (change : ρ → ρ)
  | beginPublish (handle : Nat) (message : μ)
  | transmit (handle index : Nat)
  | send (message : μ)
  | beginReceive (handle : Nat) (message : μ)
  | enqueue (handle index : Nat)
  | offer (delivery : Delivery μ Endpoint)
  | acknowledge (accepted : List (Nat × ReplicaId))
  | beginCycle (handle : Nat)
  | work (handle : Nat) (worker : Worker)
  | shutExchange
  | stopFanOut
  | mint
  | takeLog
  | beginClosing (handle : Nat)
  | beginLastCycle (handle : Nat)
  | finish (handle : Nat)
  | stop (handle : Nat)
  | drop (handle : Nat)

variable {ρ μ : Type} [Message μ]

def start (identifiers : List ReplicaId) : Journal ρ μ := ⟨.empty identifiers, fun _ => .blank⟩

def account (journal : Journal ρ μ) (handle : Nat) : Account ρ μ :=
  ⟨journal.network.members.get? handle, journal.notes handle⟩

def note (journal : Journal ρ μ) (handle : Nat) (change : Notes μ → Notes μ) : Journal ρ μ :=
  { journal with
    notes := fun query =>
      if query = handle then change (journal.notes query) else journal.notes query }

/-- What is refused leaves everything as it is. -/
def attempt (journal : Journal ρ μ) (outcome : Except ReplicationError (Network ρ μ)) :
    Journal ρ μ :=
  match outcome with
  | .ok network => { journal with network }
  | .error _ => journal

/-- What a call notes that finds the channel open; any other call fails at once. -/
def whenOpen (journal : Journal ρ μ) (handle : Nat) (change : Notes μ → Notes μ) : Journal ρ μ :=
  match journal.network.ensureOpen handle with
  | .ok () => journal.note handle change
  | .error _ => journal

def beginReceive (journal : Journal ρ μ) (handle : Nat) (message : μ) : Journal ρ μ :=
  journal.whenOpen handle fun notes => { notes with entering := notes.entering ++ [message] }

def beginPublish (journal : Journal ρ μ) (handle : Nat) (message : μ) : Journal ρ μ :=
  journal.whenOpen handle fun notes => { notes with leaving := notes.leaving ++ [message] }

/-- A call that had found the channel open enqueues its message, whether it is open still or not. -/
def enqueue (journal : Journal ρ μ) (handle index : Nat) : Journal ρ μ :=
  match journal.network.members.get? handle, (journal.notes handle).entering[index]? with
  | some { id, channel := ⟨order, some connection⟩, replica }, some message =>
    note
      { journal with
        network := journal.network.setMember handle
          { id
            channel := ⟨order, some
              { connection with inbox := connection.inbox.enqueue order message }⟩
            replica } }
      handle fun notes =>
        { notes with
          entering := notes.entering.eraseIdx index
          accepted := notes.accepted ++ [message] }
  | _, _ => journal

/-- A call that had found the channel open hands its message to the exchange, which may refuse it. -/
def transmit (journal : Journal ρ μ) (handle index : Nat) : Journal ρ μ :=
  match (journal.notes handle).leaving[index]? with
  | some message =>
    (journal.attempt (journal.network.send message)).note handle fun notes =>
      { notes with leaving := notes.leaving.eraseIdx index }
  | none => journal

/-- The apply task begins a cycle if the replica is there. It begins none when it has ended. -/
def beginCycle (journal : Journal ρ μ) (handle : Nat) : Journal ρ μ :=
  match journal.network.members.get? handle with
  | some { channel := ⟨_, some _⟩, replica := some _, .. } =>
    if ((journal.notes handle).work .task).isIdle ∧ (journal.notes handle).stage ≠ .stopped then
      journal.note handle fun notes => notes.setWork .task .poised
    else journal
  | _ => journal

/-- The one who closes begins the last apply cycle; there is none if the replica is gone. -/
def beginLastCycle (journal : Journal ρ μ) (handle : Nat) : Journal ρ μ :=
  if (journal.notes handle).stage = .draining then
    journal.note handle fun notes =>
      { notes.setWork .closing (if (journal.network.replica handle).isOk then .poised else .idle) with
        stage := .applying }
  else journal

variable {journal next : Journal ρ μ} {handle : Nat}

/-! ## Accounts -/

theorem account_note (journal : Journal ρ μ) (handle query : Nat) (change : Notes μ → Notes μ) :
    (journal.note handle change).account query =
      if query = handle then
        { journal.account query with notes := change (journal.account query).notes }
      else journal.account query := by
  unfold note account
  by_cases same : query = handle <;> simp only [same, ↓reduceIte]

theorem account_setMember (journal : Journal ρ μ) (handle query : Nat) (member : Member ρ μ) :
    account { journal with network := journal.network.setMember handle member } query =
      if query = handle then ⟨some member, journal.notes query⟩ else journal.account query := by
  unfold account
  rw [Network.members_setMember]
  split <;> rfl

theorem account_of_member {member : Member ρ μ}
    (present : journal.network.members.get? handle = some member) :
    journal.account handle = ⟨some member, journal.notes handle⟩ := by
  rw [account, present]

theorem account_send (journal : Journal ρ μ) (message : μ) (handle : Nat) :
    (journal.attempt (journal.network.send message)).account handle = journal.account handle := by
  cases sent : journal.network.send message with
  | error error => rfl
  | ok network =>
      obtain ⟨exchange, _, finished⟩ := Outcome.bind_eq_ok sent
      cases finished
      rfl

theorem opened_of_ensureOpen (isOpen : journal.network.ensureOpen handle = .ok ()) :
    ∃ member id, journal.network.members.get? handle = some member ∧
      member.channel.phase = .opened id := by
  obtain ⟨channel, found, ensured⟩ := Outcome.bind_eq_ok isOpen
  obtain ⟨id, opened⟩ := Channel.ensureOpen_eq_ok_iff.mp ensured
  unfold Network.channel at found
  split at found
  next member present =>
    cases found
    exact ⟨member, id, present, opened⟩
  next => cases found

theorem replica?_of_absent (absent : (journal.network.replica handle).isOk = false) :
    (journal.account handle).replica? = none := by
  unfold Network.replica at absent
  unfold Account.replica? account
  cases present : journal.network.members.get? handle with
  | none => rfl
  | some member =>
      obtain ⟨id, channel, replica⟩ := member
      cases replica with
      | none => rfl
      | some replica =>
          rw [present] at absent
          cases absent

theorem exchange_whenOpen (journal : Journal ρ μ) (handle : Nat) (change : Notes μ → Notes μ) :
    (journal.whenOpen handle change).network.exchange = journal.network.exchange := by
  unfold whenOpen
  split <;> rfl

theorem exchange_attempt {outcome : Except ReplicationError (Network ρ μ)}
    (moves : ∀ network, outcome = .ok network →
      Exchange.Run.Moves journal.network.exchange network.exchange) :
    Exchange.Run.Moves journal.network.exchange (journal.attempt outcome).network.exchange := by
  cases outcome with
  | error error => exact .stay
  | ok network => exact moves network rfl

theorem exchange_send {message : μ} {network : Network ρ μ}
    (sent : journal.network.send message = .ok network) :
    Exchange.Run.Moves journal.network.exchange network.exchange := by
  obtain ⟨exchange, taken, finished⟩ := Outcome.bind_eq_ok sent
  cases finished
  exact .publish taken

theorem members_detachMember (network : Network ρ μ) (handle : Nat) :
    (network.detachMember handle).members = network.members := by
  unfold Network.detachMember
  split
  · split <;> rfl
  · rfl

theorem exchange_detachMember (network : Network ρ μ) (handle : Nat) :
    Exchange.Run.Moves network.exchange (network.detachMember handle).exchange := by
  unfold Network.detachMember
  split
  · split
    next id _ => exact .detach id
    next => exact .stay
  · exact .stay

/-! ## What stays in place -/

/-- Whether an act may attach or detach, or bring a channel on. -/
def Act.rewires : Act ρ μ → Bool
  | .addMember .. | .register .. | .attachProbe .. | .detach _ | .beginClosing _
  | .beginLastCycle _ | .finish _ | .stop _ | .drop _ => true
  | _ => false

/-- All channels stay in their phases and stages, and nothing is attached or detached. -/
structure Keeps (before after : Journal ρ μ) : Prop where
  network : Network.Keeps before.network after.network
  stages : ∀ handle, (after.notes handle).stage = (before.notes handle).stage

theorem Keeps.network_only {network : Network ρ μ} (kept : Network.Keeps journal.network network) :
    Keeps journal { journal with network } :=
  ⟨kept, fun _ => rfl⟩

theorem Keeps.refl (journal : Journal ρ μ) : Keeps journal journal := .network_only (.refl _)

theorem Keeps.attempt {outcome : Except ReplicationError (Network ρ μ)}
    (kept : ∀ network, outcome = .ok network → Network.Keeps journal.network network) :
    Keeps journal (journal.attempt outcome) := by
  cases outcome with
  | error error => exact .refl journal
  | ok network => exact .network_only (kept network rfl)

theorem Keeps.note {change : Notes μ → Notes μ} (kept : Keeps journal next)
    (sameStage : (change (next.notes handle)).stage = (next.notes handle).stage) :
    Keeps journal (next.note handle change) := by
  refine ⟨kept.network, fun query => ?_⟩
  simp only [Journal.note]
  split
  next here =>
    subst here
    exact sameStage.trans (kept.stages query)
  next => exact kept.stages query

theorem Keeps.whenOpen (journal : Journal ρ μ) (handle : Nat) {change : Notes μ → Notes μ}
    (sameStage : (change (journal.notes handle)).stage = (journal.notes handle).stage) :
    Keeps journal (journal.whenOpen handle change) := by
  unfold Journal.whenOpen
  split
  · exact (Keeps.refl journal).note sameStage
  · exact .refl journal

theorem Keeps.enqueue (journal : Journal ρ μ) (handle index : Nat) :
    Keeps journal (journal.enqueue handle index) := by
  unfold Journal.enqueue
  split
  next present _ =>
    refine .note ?_ rfl
    exact .network_only (.setMember present rfl)
  next => exact .refl journal

/-- An act of a fan-out cycle. -/
def Act.fansOut : Act ρ μ → Bool
  | .offer _ | .enqueue .. | .acknowledge _ => true
  | _ => false

omit [Message μ] in
theorem Act.rewires_of_fansOut {act : Act ρ μ} (fansOut : act.fansOut = true) :
    act.rewires = false := by
  cases act with
  | offer delivery => rfl
  | enqueue handle index => rfl
  | acknowledge accepted => rfl
  | _ => cases fansOut

/-- What an act is for the channel of a handle. -/
def Act.manner (handle : Nat) : Act ρ μ → Account.Manner
  | .alter other _ => if other = handle then .alters else .ordinary
  | .beginCycle other => if other = handle then .begins else .ordinary
  | _ => .ordinary

omit [Message μ] in
theorem Act.manner_of_fansOut {act : Act ρ μ} (fansOut : act.fansOut = true) :
    act.manner handle = .ordinary := by
  cases act with
  | alter other change => cases fansOut
  | beginCycle other => cases fansOut
  | _ => rfl

/-! ## Acts -/

variable [Updatable ρ μ]

/-- The next step of whoever applies the inbox of a member. -/
def work (journal : Journal ρ μ) (handle : Nat) (worker : Worker) : Journal ρ μ :=
  match journal.network.members.get? handle with
  | some { id, channel := ⟨order, some connection⟩, replica := some replica } =>
    let bench :=
      Bench.work id worker ⟨connection.inbox, replica, journal.network.log, journal.notes handle⟩
    note { journal with network := journal.network.setBench handle id order connection bench } handle
      fun _ => bench.notes
  | _ => journal

/-- The moment after an act. What is not due changes nothing: the steps of a closing come in their
order, a channel is detached when its last apply cycle is over, its apply task ends between two
cycles, and a replica does not go while somebody is at work on it. -/
def act (journal : Journal ρ μ) : Act ρ μ → Journal ρ μ
  | .addMember id order replica =>
    { journal with network := (journal.network.addMember id order replica).2 }
  | .register handle bound => journal.attempt (journal.network.register handle bound)
  | .forgetReplica handle =>
    if ((journal.notes handle).work .task).isIdle ∧ ((journal.notes handle).work .closing).isIdle then
      { journal with network := journal.network.forgetReplica handle }
    else journal
  | .attachProbe id refusals => journal.attempt (journal.network.attachProbe id refusals)
  | .detach id => { journal with network := journal.network.detach id }
  | .alter handle change => { journal with network := journal.network.alter handle change }
  | .beginPublish handle message => journal.beginPublish handle message
  | .transmit handle index => journal.transmit handle index
  | .send message => journal.attempt (journal.network.send message)
  | .beginReceive handle message => journal.beginReceive handle message
  | .enqueue handle index => journal.enqueue handle index
  | .offer delivery =>
    match delivery.endpoint with
    | .member handle => journal.beginReceive handle delivery.message
    | .probe _ => { journal with network := (Network.offer delivery journal.network).2 }
  | .acknowledge accepted =>
    { journal with
      network := { journal.network with
        exchange := journal.network.exchange.acknowledge accepted } }
  | .beginCycle handle => journal.beginCycle handle
  | .work handle worker => journal.work handle worker
  | .shutExchange =>
    { journal with
      network := { journal.network with exchange := journal.network.exchange.close } }
  | .stopFanOut => { journal with network := { journal.network with isFanningOut := false } }
  | .mint => { journal with network := journal.network.mint.2 }
  | .takeLog => { journal with network := journal.network.takeLog.2 }
  | .beginClosing handle =>
    match journal.network.beginClosing handle with
    | .ok network =>
      note { journal with network } handle fun notes =>
        { notes with stage := .draining, mark := (journal.account handle).arrivals }
    | .error _ => journal
  | .beginLastCycle handle => journal.beginLastCycle handle
  | .finish handle =>
    if (journal.notes handle).stage = .applying ∧
        ((journal.notes handle).work .closing).isIdle then
      note { journal with network := journal.network.detachMember handle } handle fun notes =>
        { notes with stage := .finished }
    else journal
  | .stop handle =>
    if (journal.notes handle).stage = .finished ∧ ((journal.notes handle).work .task).isIdle then
      journal.note handle fun notes => { notes with stage := .stopped }
    else journal
  | .drop handle => { journal with network := journal.network.drop handle }

def perform (journal : Journal ρ μ) (acts : List (Act ρ μ)) : Journal ρ μ := acts.foldl act journal

theorem perform_append (journal : Journal ρ μ) (first second : List (Act ρ μ)) :
    journal.perform (first ++ second) = (journal.perform first).perform second :=
  List.foldl_append

/-! ## What an act makes of a channel -/

variable {manner : Account.Manner}

/-- If nothing changes but the account of one channel, then that one moves and no other. -/
theorem moves_where {query : Nat} {changed : Account ρ μ}
    (shown : next.account query = if query = handle then changed else journal.account query)
    (moves : query = handle → Account.Moves manner (journal.account query) changed) :
    Account.Moves manner (journal.account query) (next.account query) := by
  rw [shown]
  split
  next here => exact moves here
  next => exact .stay _

theorem moves_setMember {query : Nat} {member changed : Member ρ μ}
    (present : journal.network.members.get? handle = some member)
    (moves : query = handle → Account.Moves manner ⟨some member, journal.notes handle⟩
      ⟨some changed, journal.notes handle⟩) :
    Account.Moves manner (journal.account query)
      (account { journal with network := journal.network.setMember handle changed } query) := by
  refine moves_where (journal.account_setMember handle query changed) fun here => ?_
  subst here
  rw [account_of_member present]
  exact moves rfl

theorem moves_note {query : Nat} {change : Notes μ → Notes μ}
    (moves : query = handle → Account.Moves manner (journal.account handle)
      ⟨journal.network.members.get? handle, change (journal.notes handle)⟩) :
    Account.Moves manner (journal.account query) ((journal.note handle change).account query) := by
  refine moves_where (journal.account_note handle query change) fun here => ?_
  subst here
  exact moves rfl

theorem moves_setMember_note {query : Nat} {member changed : Member ρ μ}
    (change : Notes μ → Notes μ) (present : journal.network.members.get? handle = some member)
    (moves : Account.Moves manner ⟨some member, journal.notes handle⟩
      ⟨some changed, change (journal.notes handle)⟩) :
    Account.Moves manner (journal.account query)
      ((note { journal with network := journal.network.setMember handle changed } handle
        change).account query) := by
  have shown : (note { journal with network := journal.network.setMember handle changed } handle
      change).account query =
        if query = handle then ⟨some changed, change (journal.notes query)⟩
        else journal.account query := by
    simp only [account_note, account_setMember]
    split <;> rfl
  refine moves_where shown fun here => ?_
  subst here
  rw [account_of_member present]
  exact moves

theorem moves_attempt {outcome : Except ReplicationError (Network ρ μ)}
    (moves : ∀ network, outcome = .ok network →
      Account.Moves manner (journal.account handle) (account { journal with network } handle)) :
    Account.Moves manner (journal.account handle) ((journal.attempt outcome).account handle) := by
  cases outcome with
  | error error => exact .stay _
  | ok network => exact moves network rfl

theorem moves_whenOpen (journal : Journal ρ μ) {query : Nat} {change : Notes μ → Notes μ}
    (moves : ∀ {member : Member ρ μ} {address : ReplicaId},
      member.channel.phase = .opened address → Account.Moves manner ⟨some member, journal.notes handle⟩
        ⟨some member, change (journal.notes handle)⟩) :
    Account.Moves manner (journal.account query)
      ((journal.whenOpen handle change).account query) := by
  unfold whenOpen
  split
  next isOpen =>
    refine moves_note fun _ => ?_
    obtain ⟨member, id, present, opened⟩ := opened_of_ensureOpen isOpen
    rw [account_of_member present, present]
    exact moves opened
  next => exact .stay _

theorem moves_enqueue (journal : Journal ρ μ) (handle index query : Nat) :
    Account.Moves .ordinary (journal.account query)
      ((journal.enqueue handle index).account query) := by
  unfold enqueue
  split
  next present entering => exact moves_setMember_note _ present (.enqueue entering)
  next => exact .stay _

theorem moves_transmit (journal : Journal ρ μ) (handle index query : Nat) :
    Account.Moves .ordinary (journal.account query)
      ((journal.transmit handle index).account query) := by
  unfold transmit
  split
  next message leaving =>
    have shown := (journal.attempt (journal.network.send message)).account_note handle query
      fun notes => { notes with leaving := notes.leaving.eraseIdx index }
    rw [account_send] at shown
    refine moves_where shown fun here => ?_
    subst here
    exact .transmit leaving
  next => exact .stay _

theorem moves_beginCycle (journal : Journal ρ μ) (handle query : Nat) :
    Account.Moves ((Act.beginCycle handle : Act ρ μ).manner query) (journal.account query)
      ((journal.beginCycle handle).account query) := by
  unfold beginCycle
  split
  next id order connection replica present =>
    split
    next due =>
      refine moves_note fun here => ?_
      subst here
      rw [Act.manner, if_pos rfl, account_of_member present, present]
      exact .beginCycle (Option.some_ne_none _) (Work.isIdle_iff.mp due.1) due.2
    next => exact .stay _
  next => exact .stay _

theorem moves_work (journal : Journal ρ μ) (handle : Nat) (worker : Worker) (query : Nat) :
    Account.Moves .ordinary (journal.account query)
      ((journal.work handle worker).account query) := by
  unfold work
  split
  next id order connection replica present =>
    exact moves_setMember_note (fun _ => (Bench.work id worker
      ⟨connection.inbox, replica, journal.network.log, journal.notes handle⟩).notes) present
      (.work worker (Bench.step_work id worker _))
  next => exact .stay _

theorem moves_beginLastCycle (journal : Journal ρ μ) (handle query : Nat) :
    Account.Moves .ordinary (journal.account query)
      ((journal.beginLastCycle handle).account query) := by
  unfold beginLastCycle
  split
  next draining =>
    refine moves_note fun _ => .beginLastCycle draining ?_
    split
    · exact .inl rfl
    next absent => exact .inr ⟨rfl, replica?_of_absent (Bool.eq_false_iff.mpr absent)⟩
  next => exact .stay _

/-- What an act is for a channel: it comes, or its account moves. -/
inductive Effect (journal : Journal ρ μ) (act : Act ρ μ) (handle : Nat) : Prop where
  | comes (id : ReplicaId) (order : InboxOrder) (replica : Option ρ) :
      act = .addMember id order replica → handle = journal.network.nextHandle →
      (journal.act act).account handle =
        ⟨some ⟨id, .unregistered order, replica⟩, journal.notes handle⟩ → Effect journal act handle
  | moves : Account.Moves (act.manner handle) (journal.account handle)
      ((journal.act act).account handle) → Effect journal act handle

theorem effect (journal : Journal ρ μ) (act : Act ρ μ) (handle : Nat) :
    Effect journal act handle := by
  cases act with
  | addMember id order replica =>
      have shown : (journal.act (.addMember id order replica)).account handle =
          if handle = journal.network.nextHandle then
            ⟨some ⟨id, .unregistered order, replica⟩, journal.notes handle⟩
          else journal.account handle :=
        journal.account_setMember journal.network.nextHandle handle
          ⟨id, .unregistered order, replica⟩
      by_cases here : handle = journal.network.nextHandle
      · exact .comes id order replica rfl here (shown.trans (if_pos here))
      · exact .moves (moves_where shown fun same => absurd same here)
  | register target bound =>
      refine .moves (moves_attempt fun network registered => ?_)
      obtain ⟨member, exchange, present, unconnected, _, rfl⟩ := Network.register_cases registered
      exact moves_setMember present fun _ => .register unconnected
  | forgetReplica target =>
      refine .moves ?_
      simp only [act, Network.forgetReplica]
      split
      · split
        next member present => exact moves_setMember present fun _ => .forget
        next => exact .stay _
      · exact .stay _
  | attachProbe id refusals =>
      refine .moves (moves_attempt fun network attached => ?_)
      obtain ⟨exchange, _, finished⟩ := Outcome.bind_eq_ok attached
      cases finished
      exact .stay _
  | detach id => exact .moves (.stay _)
  | alter target change =>
      refine .moves ?_
      simp only [act, Network.alter]
      split
      next present =>
        refine moves_setMember present fun here => ?_
        rw [Act.manner, if_pos here.symm]
        exact .alter
      next => exact .stay _
  | beginPublish target message => exact .moves (journal.moves_whenOpen .beginPublish)
  | transmit target index => exact .moves (journal.moves_transmit target index handle)
  | send message =>
      refine .moves ?_
      rw [act, account_send]
      exact .stay _
  | beginReceive target message => exact .moves (journal.moves_whenOpen .beginReceive)
  | enqueue target index => exact .moves (journal.moves_enqueue target index handle)
  | offer delivery =>
      refine .moves ?_
      simp only [act]
      split
      next target addressed => exact journal.moves_whenOpen .beginReceive
      next probe addressed =>
        simp only [Network.offer, addressed]
        exact .stay _
  | acknowledge accepted => exact .moves (.stay _)
  | beginCycle target => exact .moves (journal.moves_beginCycle target handle)
  | work target worker => exact .moves (journal.moves_work target worker handle)
  | shutExchange => exact .moves (.stay _)
  | stopFanOut => exact .moves (.stay _)
  | mint => exact .moves (.stay _)
  | takeLog => exact .moves (.stay _)
  | beginClosing target =>
      refine .moves ?_
      simp only [act]
      cases begun : journal.network.beginClosing target with
      | error error => exact .stay _
      | ok network =>
          obtain ⟨member, channel, present, flipped, rfl⟩ := Network.beginClosing_cases begun
          rw [account_of_member present]
          exact moves_setMember_note _ present (.beginClosing flipped)
  | beginLastCycle target => exact .moves (journal.moves_beginLastCycle target handle)
  | finish target =>
      refine .moves ?_
      simp only [act]
      split
      next due =>
        have sameAccount : account
            { journal with network := journal.network.detachMember target } handle =
              journal.account handle := by
          simp only [account, members_detachMember]
        have shown := account_note { journal with network := journal.network.detachMember target }
          target handle fun notes => { notes with stage := .finished }
        rw [sameAccount] at shown
        refine moves_where shown fun here => ?_
        subst here
        exact .finish due.1 (Work.isIdle_iff.mp due.2)
      next => exact .stay _
  | stop target =>
      refine .moves ?_
      simp only [act]
      split
      next due => exact moves_note fun _ => .stop due.1 (Work.isIdle_iff.mp due.2)
      next => exact .stay _
  | drop target =>
      refine .moves ?_
      simp only [act, account, Network.members_drop]
      split
      · exact .drop
      · exact .stay _

/-! ## What an act makes of the exchange -/

theorem exchange_act (journal : Journal ρ μ) (act : Act ρ μ) :
    Exchange.Run.Moves journal.network.exchange (journal.act act).network.exchange := by
  cases act with
  | addMember id order replica => exact .stay
  | register handle bound =>
      refine exchange_attempt fun network registered => ?_
      obtain ⟨member, exchange, _, _, attached, rfl⟩ := Network.register_cases registered
      exact .attach attached
  | forgetReplica handle =>
      simp only [act, Network.forgetReplica]
      split
      · split <;> exact .stay
      · exact .stay
  | attachProbe id refusals =>
      refine exchange_attempt fun network done => ?_
      obtain ⟨exchange, attached, finished⟩ := Outcome.bind_eq_ok done
      cases finished
      exact .attach attached
  | detach id => exact .detach id
  | alter handle change =>
      simp only [act, Network.alter]
      split <;> exact .stay
  | beginPublish handle message =>
      simp only [act, beginPublish, exchange_whenOpen]
      exact .stay
  | transmit handle index =>
      simp only [act, transmit]
      split
      · exact exchange_attempt fun network sent => exchange_send sent
      · exact .stay
  | send message => exact exchange_attempt fun network sent => exchange_send sent
  | beginReceive handle message =>
      simp only [act, beginReceive, exchange_whenOpen]
      exact .stay
  | enqueue handle index =>
      simp only [act, enqueue]
      split <;> exact .stay
  | offer delivery =>
      simp only [act]
      split
      · rw [beginReceive, exchange_whenOpen]
        exact .stay
      · rw [Network.exchange_offer]
        exact .stay
  | acknowledge accepted => exact .acknowledge accepted
  | beginCycle handle =>
      simp only [act, beginCycle]
      split
      · split <;> exact .stay
      · exact .stay
  | work handle worker =>
      simp only [act, work]
      split <;> exact .stay
  | shutExchange => exact .close
  | stopFanOut => exact .stay
  | mint => exact .stay
  | takeLog => exact .stay
  | beginClosing handle =>
      simp only [act]
      cases begun : journal.network.beginClosing handle with
      | error error => exact .stay
      | ok network =>
          obtain ⟨_, _, _, _, rfl⟩ := Network.beginClosing_cases begun
          exact .stay
  | beginLastCycle handle =>
      simp only [act, beginLastCycle]
      split <;> exact .stay
  | finish handle =>
      simp only [act]
      split
      · exact exchange_detachMember journal.network handle
      · exact .stay
  | stop handle =>
      simp only [act]
      split <;> exact .stay
  | drop handle =>
      simp only [act, Network.exchange_drop]
      exact exchange_detachMember journal.network handle

/-! ## What an act leaves in place -/

theorem Keeps.work (journal : Journal ρ μ) (handle : Nat) (worker : Worker) :
    Keeps journal (journal.work handle worker) := by
  unfold Journal.work
  split
  next id order connection replica present =>
    have continues := (Bench.step_work id worker
      ⟨connection.inbox, replica, journal.network.log, journal.notes handle⟩).continues
    exact .note (.network_only (.setBench present _)) continues.stage
  next => exact .refl journal

theorem Keeps.act (journal : Journal ρ μ) {act : Act ρ μ} (ordinary : act.rewires = false) :
    Keeps journal (journal.act act) := by
  cases act with
  | forgetReplica handle =>
      simp only [Journal.act]
      split
      · exact .network_only (.forgetReplica _ handle)
      · exact .refl journal
  | alter handle change =>
      simp only [Journal.act, Network.alter]
      split
      next present => exact .network_only (.setMember present rfl)
      next => exact .refl journal
  | beginPublish handle message => exact .whenOpen journal handle rfl
  | transmit handle index =>
      simp only [Journal.act, transmit]
      split
      · exact (Keeps.attempt fun network sent => .send sent).note rfl
      · exact .refl journal
  | send message => exact .attempt fun network sent => .send sent
  | beginReceive handle message => exact .whenOpen journal handle rfl
  | enqueue handle index => exact .enqueue journal handle index
  | offer delivery =>
      simp only [Journal.act]
      split
      · exact .whenOpen journal _ rfl
      · exact .network_only (.offer delivery _)
  | acknowledge accepted => exact .network_only ⟨fun _ => rfl, rfl, rfl⟩
  | beginCycle handle =>
      simp only [Journal.act, beginCycle]
      split
      · split
        · exact (Keeps.refl journal).note rfl
        · exact .refl journal
      · exact .refl journal
  | work handle worker => exact .work journal handle worker
  | shutExchange => exact .network_only ⟨fun _ => rfl, rfl, rfl⟩
  | stopFanOut => exact .network_only ⟨fun _ => rfl, rfl, rfl⟩
  | mint => exact .network_only ⟨fun _ => rfl, rfl, rfl⟩
  | takeLog => exact .network_only ⟨fun _ => rfl, rfl, rfl⟩
  | _ => cases ordinary

theorem nextHandle_act (journal : Journal ρ μ) (act : Act ρ μ) :
    journal.network.nextHandle ≤ (journal.act act).network.nextHandle := by
  cases act with
  | addMember id order replica => exact Nat.le_succ _
  | register handle bound =>
      simp only [act, attempt]
      cases registered : journal.network.register handle bound with
      | error error => exact Nat.le_refl _
      | ok network =>
          obtain ⟨_, _, _, _, _, rfl⟩ := Network.register_cases registered
          exact Nat.le_refl _
  | attachProbe id refusals =>
      simp only [act, attempt]
      cases done : journal.network.attachProbe id refusals with
      | error error => exact Nat.le_refl _
      | ok network =>
          obtain ⟨exchange, attached, finished⟩ := Outcome.bind_eq_ok done
          cases finished
          exact Nat.le_succ _
  | detach id => exact Nat.le_refl _
  | beginClosing handle =>
      simp only [act]
      cases begun : journal.network.beginClosing handle with
      | error error => exact Nat.le_refl _
      | ok network =>
          obtain ⟨_, _, _, _, rfl⟩ := Network.beginClosing_cases begun
          exact Nat.le_refl _
  | beginLastCycle handle =>
      simp only [act, beginLastCycle]
      split <;> exact Nat.le_refl _
  | finish handle =>
      simp only [act, Network.detachMember]
      split
      · simp only [note]
        split
        · split <;> exact Nat.le_refl _
        · exact Nat.le_refl _
      · exact Nat.le_refl _
  | stop handle =>
      simp only [act]
      split <;> exact Nat.le_refl _
  | drop handle => exact Nat.le_of_eq (Network.nextHandle_drop _ handle).symm
  | _ => exact Nat.le_of_eq (Keeps.act journal rfl).network.nextHandle.symm

/-! ## Runs -/

/-- What holds of a channel that is there, or was once, holds later too if the moves keep it that
the acts may make. -/
theorem account_perform (holds : Account ρ μ → Prop) {allowed : Account.Manner → Prop}
    (moved : ∀ {manner before after}, allowed manner → Account.Moves manner before after →
      holds before → holds after)
    (known : handle < journal.network.nextHandle) (now : holds (journal.account handle))
    {acts : List (Act ρ μ)} (inManner : ∀ act ∈ acts, allowed (act.manner handle)) :
    holds ((journal.perform acts).account handle) := by
  induction acts generalizing journal with
  | nil => exact now
  | cons first later ih =>
      obtain ⟨isAllowed, areAllowed⟩ := List.forall_mem_cons.mp inManner
      have next := Nat.lt_of_lt_of_le known (journal.nextHandle_act first)
      cases journal.effect first handle with
      | comes _ _ _ _ isNew _ => exact absurd isNew (Nat.ne_of_lt known)
      | moves moves => exact ih next (moved isAllowed moves now) areAllowed

theorem stage_perform {acts : List (Act ρ μ)} (ordinary : ∀ act ∈ acts, act.rewires = false) :
    ((journal.perform acts).notes handle).stage = (journal.notes handle).stage := by
  induction acts generalizing journal with
  | nil => rfl
  | cons first later ih =>
      obtain ⟨isFirst, areLater⟩ := List.forall_mem_cons.mp ordinary
      exact (ih areLater).trans ((Keeps.act journal isFirst).stages handle)

end Journal

end Confluence

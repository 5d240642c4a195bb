import Confluence.Proofs.Network.ChannelCourse

/-!
What small acts come to when nobody else acts between them: receiving a message is to find the
channel open and to enqueue the message, a fan-out cycle is offers, what follows from them, and an
acknowledgement, and an apply cycle is its steps. So each operation of a network, which is done at
one go, is one of the courses that the acts may take. How often it comes to such a course is not
said.
-/

set_option autoImplicit false

namespace Confluence

namespace Network

variable {ρ μ : Type} [Message μ] {network : Network ρ μ} {handle : Nat}

theorem setMember_self {member : Member ρ μ}
    (present : network.members.get? handle = some member) :
    network.setMember handle member = network := by
  have same : network.members.insert handle member = network.members := by
    refine OrderedMap.ext fun query => ?_
    rw [OrderedMap.get?_insert]
    split
    next here =>
      rw [Std.LawfulEqCmp.eq_of_compare here]
      exact present.symm
    next => rfl
  rw [setMember, same]

theorem setMember_setMember (network : Network ρ μ) (handle : Nat) (first second : Member ρ μ) :
    (network.setMember handle first).setMember handle second = network.setMember handle second := by
  have same : (network.members.insert handle first).insert handle second =
      network.members.insert handle second := by
    refine OrderedMap.ext fun query => ?_
    simp only [OrderedMap.get?_insert]
    split <;> rfl
  simp only [setMember, same]

theorem setBench_self {id : ReplicaId} {order : InboxOrder} {connection : Connection μ} {replica : ρ}
    {notes : Notes μ}
    (present : network.members.get? handle = some ⟨id, ⟨order, some connection⟩, some replica⟩) :
    network.setBench handle id order connection
      ⟨connection.inbox, replica, network.log, notes⟩ = network := by
  simp only [setBench, setMember_self present]

theorem setBench_setBench (network : Network ρ μ) (handle : Nat) (id : ReplicaId)
    (order : InboxOrder) (connection : Connection μ) (first second : Bench ρ μ) :
    (network.setBench handle id order connection first).setBench handle id order
        { connection with inbox := first.inbox } second =
      network.setBench handle id order connection second := by
  have same := setMember_setMember network handle
    ⟨id, ⟨order, some { connection with inbox := first.inbox }⟩, some first.replica⟩
    ⟨id, ⟨order, some { connection with inbox := second.inbox }⟩, some second.replica⟩
  simp only [setMember, Network.mk.injEq, true_and, and_true] at same
  simp only [setBench, setMember, same]

theorem finishClosing_eq [Updatable ρ μ] (network : Network ρ μ) (handle : Nat) :
    network.finishClosing handle = (network.applyAt handle).detachMember handle := rfl

end Network

namespace Journal

variable {ρ μ : Type} [Message μ] [Updatable ρ μ] {journal : Journal ρ μ} {handle : Nat}

/-- What the operations of a network come to. An apply cycle at one go needs its worker idle; the
last one belongs to a closing that has just begun. -/
structure Uninterrupted (journal : Journal ρ μ) : Prop where
  receives : ∀ handle message received, journal.network.receive handle message = .ok received →
    ∃ index, (journal.perform [.beginReceive handle message, .enqueue handle index]).network =
      received
  publishes : ∀ handle message published,
    journal.network.publish handle message = .ok published →
      ∃ index, (journal.perform [.beginPublish handle message, .transmit handle index]).network =
        published
  updates : ∀ handle message, ∃ change,
    (journal.act (.alter handle change)).network = (journal.network.update handle message).2
  changes : ∀ handle change changed message,
    journal.network.change handle change = .ok (changed, message) →
      ∃ alteration, (journal.act (.alter handle alteration)).network = changed
  delivers : ∃ acts : List (Act ρ μ), (∀ act ∈ acts, act.fansOut = true) ∧
    (journal.perform acts).network = journal.network.deliver
  applies : ∀ handle, (journal.notes handle).work .task = .idle →
    (journal.notes handle).stage ≠ .stopped →
      ∃ acts : List (Act ρ μ),
        (∀ act ∈ acts, act = .beginCycle handle ∨ act = .work handle .task) ∧
        (journal.perform acts).network = journal.network.applyAt handle ∧
        ((journal.perform acts).notes handle).work .task = .idle
  finishes : ∀ handle, (journal.notes handle).stage = .draining →
    ∃ acts : List (Act ρ μ),
      (∀ act ∈ acts, act = .beginLastCycle handle ∨ act = .work handle .closing ∨
        act = .finish handle) ∧
      (journal.perform acts).network = journal.network.finishClosing handle ∧
      ((journal.perform acts).notes handle).stage = .finished

/-! ## Calls -/

omit [Updatable ρ μ] in
theorem whenOpen_eq (isOpen : journal.network.ensureOpen handle = .ok ())
    (change : Notes μ → Notes μ) : journal.whenOpen handle change = journal.note handle change := by
  simp only [whenOpen, isOpen]

omit [Updatable ρ μ] in
theorem network_enqueue {id : ReplicaId} {order : InboxOrder} {connection : Connection μ}
    {replica : Option ρ} {index : Nat} {message : μ}
    (present : journal.network.members.get? handle =
      some ⟨id, ⟨order, some connection⟩, replica⟩)
    (waits : (journal.notes handle).entering[index]? = some message) :
    (journal.enqueue handle index).network = journal.network.setMember handle
      ⟨id, ⟨order, some { connection with inbox := connection.inbox.enqueue order message }⟩,
        replica⟩ := by
  simp only [enqueue, present, waits, note]

omit [Updatable ρ μ] in
theorem network_transmit {index : Nat} {message : μ} {sent : Network ρ μ}
    (waits : (journal.notes handle).leaving[index]? = some message)
    (done : journal.network.send message = .ok sent) :
    (journal.transmit handle index).network = sent := by
  simp only [transmit, waits, done, attempt, note]

omit [Updatable ρ μ] in
theorem notes_note (journal : Journal ρ μ) (handle : Nat) (change : Notes μ → Notes μ) :
    (journal.note handle change).notes handle = change (journal.notes handle) := if_pos rfl

theorem perform_receive {message : μ} {received : Network ρ μ}
    (done : journal.network.receive handle message = .ok received) :
    (journal.perform [.beginReceive handle message,
      .enqueue handle (journal.notes handle).entering.length]).network = received := by
  obtain ⟨member, channel, present, queued, rfl⟩ := Network.receive_cases done
  obtain ⟨id, ⟨order, connection⟩, replica⟩ := member
  unfold Channel.receive at queued
  split at queued
  · cases queued
  next connected isConnected =>
    cases isConnected
    split at queued
    next isOpen =>
      cases queued
      have found : journal.network.ensureOpen handle = .ok () := by
        simp only [Network.ensureOpen, Network.channel, present]
        exact if_pos isOpen
      simp only [perform, List.foldl_cons, List.foldl_nil, act, beginReceive, whenOpen_eq found]
      refine network_enqueue present ?_
      rw [notes_note]
      exact List.getElem?_concat_length
    next => cases queued

theorem perform_publish {message : μ} {published : Network ρ μ}
    (done : journal.network.publish handle message = .ok published) :
    (journal.perform [.beginPublish handle message,
      .transmit handle (journal.notes handle).leaving.length]).network = published := by
  obtain ⟨_, isOpen, sent⟩ := Outcome.bind_eq_ok done
  simp only [perform, List.foldl_cons, List.foldl_nil, act, beginPublish, whenOpen_eq isOpen]
  refine network_transmit ?_ sent
  rw [notes_note]
  exact List.getElem?_concat_length

/-! ## Local changes -/

theorem alter_of_update (journal : Journal ρ μ) (handle : Nat) (message : μ) :
    (journal.act (.alter handle fun replica => (Updatable.update replica message).2)).network =
      (journal.network.update handle message).2 := by
  simp only [act, Network.alter, Network.update]
  cases journal.network.members.get? handle with
  | none => rfl
  | some member =>
      obtain ⟨id, channel, replica⟩ := member
      cases replica with
      | none => rfl
      | some replica => rfl

theorem alter_of_change {change : ρ → Except StateError (ρ × μ)} {changed : Network ρ μ}
    {message : μ} (done : journal.network.change handle change = .ok (changed, message)) :
    ∃ alteration, (journal.act (.alter handle alteration)).network = changed := by
  obtain ⟨id, channel, replica, altered, present, _, rfl⟩ := Network.change_cases done
  refine ⟨fun _ => altered, ?_⟩
  simp only [act, Network.alter, present]

/-! ## Fan-out cycles -/

theorem exists_offer (journal : Journal ρ μ) (delivery : Delivery μ Endpoint) :
    ∃ acts : List (Act ρ μ), (∀ act ∈ acts, act.fansOut = true) ∧
      (journal.perform acts).network = (Network.offer delivery journal.network).2 := by
  cases addressed : delivery.endpoint with
  | probe probe =>
      refine ⟨[.offer delivery], List.forall_mem_singleton.mpr rfl, ?_⟩
      simp only [perform, List.foldl_cons, List.foldl_nil, act, addressed]
  | member handle =>
      simp only [Network.offer, addressed]
      cases done : journal.network.receive handle delivery.message with
      | error error => exact ⟨[], List.forall_mem_nil _, rfl⟩
      | ok received =>
          refine ⟨[.offer delivery, .enqueue handle (journal.notes handle).entering.length], ?_, ?_⟩
          · exact List.forall_mem_cons.mpr ⟨rfl, List.forall_mem_singleton.mpr rfl⟩
          · rw [← perform_receive done]
            simp only [perform, List.foldl_cons, List.foldl_nil, act, addressed]

theorem exists_offers (journal : Journal ρ μ) (deliveries : List (Delivery μ Endpoint)) :
    ∃ acts : List (Act ρ μ), (∀ act ∈ acts, act.fansOut = true) ∧
      (journal.perform acts).network =
        (Exchange.offerAll Network.offer deliveries journal.network).2 := by
  induction deliveries generalizing journal with
  | nil => exact ⟨[], List.forall_mem_nil _, rfl⟩
  | cons first later ih =>
      obtain ⟨acts, fansOut, offered⟩ := journal.exists_offer first
      obtain ⟨more, fansOutToo, offeredAll⟩ := ih (journal.perform acts)
      refine ⟨acts ++ more, List.forall_mem_append.mpr ⟨fansOut, fansOutToo⟩, ?_⟩
      rw [perform_append, offeredAll, offered]
      rfl

theorem exists_deliver (journal : Journal ρ μ) :
    ∃ acts : List (Act ρ μ), (∀ act ∈ acts, act.fansOut = true) ∧
      (journal.perform acts).network = journal.network.deliver := by
  unfold Network.deliver
  split
  · obtain ⟨acts, fansOut, offered⟩ := journal.exists_offers journal.network.exchange.deliveries
    refine ⟨acts ++ [.acknowledge (Exchange.offerAll Network.offer
      journal.network.exchange.deliveries journal.network).1], ?_, ?_⟩
    · exact List.forall_mem_append.mpr ⟨fansOut, List.forall_mem_singleton.mpr rfl⟩
    · have acknowledged : ∀ (offered : Journal ρ μ) accepted,
          (offered.perform [.acknowledge accepted]).network =
            { offered.network with exchange := offered.network.exchange.acknowledge accepted } :=
        fun _ _ => rfl
      rw [perform_append, acknowledged, offered]
  · exact ⟨[], List.forall_mem_nil _, rfl⟩

/-! ## Apply cycles -/

theorem work_of_present {id : ReplicaId} {order : InboxOrder} {connection : Connection μ}
    {replica : ρ} (worker : Worker)
    (present : journal.network.members.get? handle =
      some ⟨id, ⟨order, some connection⟩, some replica⟩) {bench : Bench ρ μ}
    (isBench : bench = ⟨connection.inbox, replica, journal.network.log, journal.notes handle⟩) :
    (journal.act (.work handle worker)).network =
        journal.network.setBench handle id order connection (bench.work id worker) ∧
      (journal.act (.work handle worker)).notes handle = (bench.work id worker).notes := by
  subst isBench
  simp only [act, work, present]
  exact ⟨rfl, notes_note _ handle _⟩

/-- A worker that comes from one moment to another does so by its acts. -/
theorem exists_works {id : ReplicaId} {order : InboxOrder} {connection : Connection μ} {replica : ρ}
    {worker : Worker} {begun bench : Bench ρ μ} (reaches : Bench.Reaches id worker begun bench)
    (isBegun : begun = ⟨connection.inbox, replica, journal.network.log, journal.notes handle⟩)
    (present : journal.network.members.get? handle =
      some ⟨id, ⟨order, some connection⟩, some replica⟩) :
    ∃ acts : List (Act ρ μ), (∀ act ∈ acts, act = .work handle worker) ∧
      (journal.perform acts).network = journal.network.setBench handle id order connection bench ∧
      (journal.perform acts).notes handle = bench.notes := by
  induction reaches generalizing journal connection replica with
  | here =>
      subst isBegun
      exact ⟨[], List.forall_mem_nil _, (Network.setBench_self present).symm, rfl⟩
  | @next first later _ ih =>
      obtain ⟨network, notes⟩ := work_of_present worker present isBegun
      have now : (journal.act (.work handle worker)).network.members.get? handle =
          some ⟨id, ⟨order, some { connection with inbox := (first.work id worker).inbox }⟩,
            some (first.work id worker).replica⟩ := by
        rw [network]
        exact OrderedMap.get?_insert_self _ _ _
      have isNext : first.work id worker = ⟨(first.work id worker).inbox,
          (first.work id worker).replica, (journal.act (.work handle worker)).network.log,
          (journal.act (.work handle worker)).notes handle⟩ := by
        rw [network, notes]
        rfl
      obtain ⟨acts, areWork, networkThen, notesThen⟩ := ih isNext now
      refine ⟨.work handle worker :: acts, List.forall_mem_cons.mpr ⟨rfl, areWork⟩, ?_, notesThen⟩
      rw [network, Network.setBench_setBench] at networkThen
      exact networkThen

theorem exists_cycle {id : ReplicaId} {order : InboxOrder} {connection : Connection μ} {replica : ρ}
    {worker : Worker}
    (present : journal.network.members.get? handle =
      some ⟨id, ⟨order, some connection⟩, some replica⟩)
    (poised : (journal.notes handle).work worker = .poised) :
    ∃ acts : List (Act ρ μ), (∀ act ∈ acts, act = .work handle worker) ∧
      (journal.perform acts).network = journal.network.applyAt handle ∧
      ((journal.perform acts).notes handle).work worker = .idle := by
  obtain ⟨final, reaches, isOver⟩ :=
    Bench.reaches_applyPending id (replica, journal.network.log) connection.inbox poised
  obtain ⟨acts, areWork, network, notes⟩ := exists_works reaches rfl present
  refine ⟨acts, areWork, network.trans ?_, ?_⟩
  · simp only [Network.applyAt, present, Network.setBench]
  · rw [notes]
    exact isOver

theorem exists_applyAt (resting : (journal.notes handle).work .task = .idle)
    (notStopped : (journal.notes handle).stage ≠ .stopped) :
    ∃ acts : List (Act ρ μ),
      (∀ act ∈ acts, act = .beginCycle handle ∨ act = .work handle .task) ∧
      (journal.perform acts).network = journal.network.applyAt handle ∧
      ((journal.perform acts).notes handle).work .task = .idle := by
  unfold Network.applyAt
  split
  next id order connection replica present =>
    have begun : journal.act (.beginCycle handle) =
        journal.note handle fun notes => notes.setWork .task .poised := by
      simp only [act, beginCycle, present]
      exact if_pos ⟨Work.isIdle_iff.mpr resting, notStopped⟩
    have poised : ((journal.act (.beginCycle handle)).notes handle).work .task = .poised := by
      rw [begun, notes_note]
      exact Notes.work_setWork _ _ _
    have stillPresent : (journal.act (.beginCycle handle)).network.members.get? handle =
        some ⟨id, ⟨order, some connection⟩, some replica⟩ := by
      rw [begun]
      exact present
    obtain ⟨acts, areWork, network, isOver⟩ := exists_cycle stillPresent poised
    refine ⟨.beginCycle handle :: acts, ?_, ?_, isOver⟩
    · exact List.forall_mem_cons.mpr ⟨.inl rfl, fun act isAct => .inr (areWork act isAct)⟩
    · refine network.trans ?_
      rw [begun]
      simp only [Network.applyAt, note, present]
  next => exact ⟨[], List.forall_mem_nil _, rfl, resting⟩

/-! ## Closing -/

theorem beginLastCycle_eq (draining : (journal.notes handle).stage = .draining) :
    journal.act (.beginLastCycle handle) = journal.note handle fun notes =>
      { notes.setWork .closing
          (if (journal.network.replica handle).isOk then .poised else .idle) with
        stage := .applying } := if_pos draining

theorem finish_eq (applying : (journal.notes handle).stage = .applying)
    (resting : (journal.notes handle).work .closing = .idle) :
    journal.act (.finish handle) =
      note { journal with network := journal.network.detachMember handle } handle fun notes =>
        { notes with stage := .finished } := if_pos ⟨applying, Work.isIdle_iff.mpr resting⟩

/-- The last cycle of a channel that is closed, or of one that is gone. -/
theorem exists_lastCycle (shut : (journal.account handle).IsShut)
    (draining : (journal.notes handle).stage = .draining) :
    ∃ acts : List (Act ρ μ),
      (∀ act ∈ acts, act = .beginLastCycle handle ∨ act = .work handle .closing) ∧
      (journal.perform acts).network = journal.network.applyAt handle ∧
      ((journal.perform acts).notes handle).stage = .applying ∧
      ((journal.perform acts).notes handle).work .closing = .idle := by
  have begun := beginLastCycle_eq draining
  have sameNetwork : (journal.act (.beginLastCycle handle)).network = journal.network := by
    rw [begun]
    rfl
  have applying : ((journal.act (.beginLastCycle handle)).notes handle).stage = .applying := by
    rw [begun, notes_note]
  have working : ((journal.act (.beginLastCycle handle)).notes handle).work .closing =
      if (journal.network.replica handle).isOk then .poised else .idle := by
    rw [begun, notes_note]
    exact (journal.notes handle).work_setWork .closing _
  cases found : journal.network.replica handle with
  | error error =>
      rw [found] at working
      refine ⟨[.beginLastCycle handle], List.forall_mem_singleton.mpr (.inl rfl), ?_, applying,
        working⟩
      refine sameNetwork.trans ?_
      unfold Network.applyAt
      split
      next present =>
        simp only [Network.replica, present] at found
        cases found
      next => rfl
  | ok replica =>
      rw [found] at working
      unfold Network.replica at found
      split at found
      next id channel _ present =>
        cases found
        obtain ⟨order, connection⟩ := channel
        rw [account_of_member present] at shut
        obtain ⟨connection, rfl⟩ := Option.ne_none_iff_exists'.mp shut.connected
        rw [← sameNetwork] at present
        obtain ⟨acts, areWork, network, isOver⟩ := exists_cycle present working
        have sameStage : ((journal.perform (.beginLastCycle handle :: acts)).notes handle).stage =
            ((journal.act (.beginLastCycle handle)).notes handle).stage :=
          stage_perform fun act isAct => by rw [areWork act isAct]; rfl
        refine ⟨.beginLastCycle handle :: acts, ?_, ?_, sameStage.trans applying, isOver⟩
        · exact List.forall_mem_cons.mpr ⟨.inl rfl, fun act isAct => .inr (areWork act isAct)⟩
        · refine network.trans ?_
          rw [sameNetwork]
      next => cases found

theorem exists_finish (shut : (journal.account handle).IsShut)
    (draining : (journal.notes handle).stage = .draining) :
    ∃ acts : List (Act ρ μ),
      (∀ act ∈ acts, act = .beginLastCycle handle ∨ act = .work handle .closing ∨
        act = .finish handle) ∧
      (journal.perform acts).network = journal.network.finishClosing handle ∧
      ((journal.perform acts).notes handle).stage = .finished := by
  obtain ⟨acts, areSteps, network, applying, resting⟩ := exists_lastCycle shut draining
  refine ⟨acts ++ [.finish handle], ?_, ?_, ?_⟩
  · refine List.forall_mem_append.mpr ⟨fun act isAct => ?_, List.forall_mem_singleton.mpr ?_⟩
    · exact (areSteps act isAct).imp_right .inl
    · exact .inr (.inr rfl)
  · rw [perform_append]
    refine (congrArg Journal.network (finish_eq applying resting)).trans ?_
    rw [Network.finishClosing_eq, ← network]
    rfl
  · rw [perform_append]
    refine (congrArg (fun journal => (journal.notes handle).stage)
      (finish_eq applying resting)).trans ?_
    rw [notes_note]

theorem uninterrupted (staged : ∀ handle, (journal.account handle).Staged) :
    Uninterrupted journal where
  receives _ _ _ done := ⟨_, perform_receive done⟩
  publishes _ _ _ done := ⟨_, perform_publish done⟩
  updates handle message := ⟨_, journal.alter_of_update handle message⟩
  changes _ _ _ _ done := alter_of_change done
  delivers := journal.exists_deliver
  applies _ resting notStopped := exists_applyAt resting notStopped
  finishes handle draining := by
    refine exists_finish ((staged handle).shut_of_rank ?_) draining
    exact Nat.le_of_eq (congrArg Stage.rank draining).symm

end Journal

end Confluence

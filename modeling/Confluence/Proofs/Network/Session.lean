import Confluence.Proofs.Network.Wiring

/-!
Sessions of a network of which no member leaves. A local change and the publication of its message
are two events, between which anything may happen; fan-out and apply cycles may come at any time.
No message is lost on its way: whatever a replica does not know yet is unpublished, pending for it
at the exchange, or in its inbox.
-/

set_option autoImplicit false

namespace Confluence

/-- A moment of a session: the network, the messages that are not published yet with the handles of
the members that made them, and all messages that were made, oldest first. -/
structure Session (ρ μ : Type) [Message μ] where
  network : Network ρ μ
  unpublished : List (Nat × μ)
  issued : List μ

namespace Session

variable {ρ μ κ : Type} [Message μ]

/-- What happens in a session in which `act` carries out commands. A message whose publication fails
is given up. -/
inductive Step [Updatable ρ μ] (act : κ → ρ → Except StateError (ρ × μ)) :
    Session ρ μ → Session ρ μ → Prop where
  | change {session network message} (handle : Nat) (command : κ) :
      session.network.change handle (act command) = .ok (network, message) →
      Step act session
        ⟨network, session.unpublished ++ [(handle, message)], session.issued ++ [message]⟩
  | publish {session network rest handle message} :
      session.unpublished.Perm ((handle, message) :: rest) →
      session.network.publish handle message = .ok network →
      Step act session ⟨network, rest, session.issued⟩
  | giveUp {session error rest handle message} :
      session.unpublished.Perm ((handle, message) :: rest) →
      session.network.publish handle message = .error error →
      Step act session ⟨session.network, rest, session.issued⟩
  | deliver {session} :
      Step act session ⟨session.network.deliver, session.unpublished, session.issued⟩
  | apply {session} (handle : Nat) :
      Step act session ⟨session.network.applyAt handle, session.unpublished, session.issued⟩

/-- The moments of a session that begins when all replicas have joined an empty network. -/
inductive Reachable [Updatable ρ μ] (act : κ → ρ → Except StateError (ρ × μ))
    (order : InboxOrder) (begin : ReplicaId → ρ) : Session ρ μ → Prop where
  | assembled {identifiers ids network} :
      Network.assemble order begin ids (.empty identifiers) = .ok network →
      Reachable act order begin ⟨network, [], []⟩
  | step {session next} : Reachable act order begin session → Step act session next →
      Reachable act order begin next

def underway (session : Session ρ μ) : List μ :=
  session.unpublished.map (·.2) ++ session.network.exchange.pending.map (·.message)

def Apart (left right : μ) : Prop :=
  (Message.key left == Message.key right) = false ∧
    (Message.key right == Message.key left) = false

theorem Apart.symm {left right : μ} (apart : Apart left right) : Apart right left :=
  ⟨apart.2, apart.1⟩

/-- Where a message is that was made for the station: it is known there or still underway. -/
def Arrives (knows : ρ → μ → Prop) (session : Session ρ μ) (station : Station ρ μ)
    (message : μ) : Prop :=
  knows station.replica message ∨ message ∈ session.unpublished.map (·.2) ∨
    (∃ pending ∈ session.network.exchange.pending, pending.message = message ∧
      station.id ∈ pending.remaining) ∨
    ∃ queued ∈ station.inbox.queue, queued.message = message

/-- What a session keeps: the network stays wired, messages that are underway have different keys,
inboxes hold messages that were made, and every message arrives. -/
structure Carries (order : InboxOrder) (knows : ρ → μ → Prop) (session : Session ρ μ) : Prop where
  wired : session.network.Wired
  apart : session.underway.Pairwise Apart
  made : ∀ message ∈ session.underway, message ∈ session.issued
  homed : ∀ entry ∈ session.unpublished, ∃ station,
    session.network.station? entry.1 = some station
  ordered : ∀ handle station, session.network.station? handle = some station →
    station.order = order ∧ station.inbox.applying = 0
  queued : ∀ handle station, session.network.station? handle = some station →
    ∀ queued ∈ station.inbox.queue, queued.message ∈ session.issued ∧
      queued.priority = order.priority (Message.rank queued.message)
  arrives : ∀ handle station, session.network.station? handle = some station →
    ∀ message ∈ session.issued, session.Arrives knows station message

variable {order : InboxOrder} {knows : ρ → μ → Prop} {session : Session ρ μ}

theorem carries_assembled {begin : ReplicaId → ρ} {network : Network ρ μ}
    (fresh : network.Fresh order begin) : Carries order knows ⟨network, [], []⟩ where
  wired := fresh.wired
  apart := by simp [underway, fresh.idle]
  made := by simp [underway, fresh.idle]
  homed entry absent := by cases absent
  ordered handle station present := by
    rw [fresh.initial handle station present]
    exact ⟨rfl, rfl⟩
  queued handle station present queued isQueued := by
    rw [fresh.initial handle station present] at isQueued
    cases isQueued
  arrives handle station present message absent := by cases absent

namespace Carries

theorem publish_ok (carries : Carries order knows session) {handle : Nat} {message : μ}
    (unpublished : (handle, message) ∈ session.unpublished) :
    ∃ network, session.network.publish handle message = .ok network := by
  obtain ⟨station, present⟩ := carries.homed _ unpublished
  have free : ∀ key ∈ session.network.exchange.reserved,
      (key == Message.key message) = false := by
    intro key isReserved
    obtain ⟨pending, isPending, rfl⟩ := carries.wired.reserved key isReserved
    exact ((List.pairwise_append.mp carries.apart).2.2 message
      (List.mem_map_of_mem unpublished) pending.message (List.mem_map_of_mem isPending)).2
  obtain ⟨exchange, taken⟩ := Exchange.publish_ok carries.wired.isOpen free
  refine ⟨{ session.network with exchange }, ?_⟩
  rw [Network.publish_eq present, Network.send, taken]
  rfl

theorem publish {network : Network ρ μ} {rest : List (Nat × μ)} {handle : Nat} {message : μ}
    (carries : Carries order knows session)
    (split : session.unpublished.Perm ((handle, message) :: rest))
    (done : session.network.publish handle message = .ok network)
    (own : ∀ query station, session.network.station? query = some station →
      station.id = Message.origin message → knows station.replica message) :
    Carries order knows ⟨network, rest, session.issued⟩ := by
  have isUnpublished : (handle, message) ∈ session.unpublished := split.mem_iff.mpr (.head _)
  obtain ⟨_, present⟩ := carries.homed _ isUnpublished
  rw [Network.publish_eq present] at done
  obtain ⟨exchange, taken, finished⟩ := Outcome.bind_eq_ok done
  cases finished
  have wired := carries.wired.send taken
  have homed : ∀ entry ∈ rest, ∃ station, session.network.station? entry.1 = some station :=
    fun entry stays => carries.homed entry (split.mem_iff.mpr (.tail _ stays))
  have kept : ∀ other ∈ session.unpublished.map (·.2),
      other = message ∨ other ∈ rest.map (·.2) := by
    intro other waits
    simpa using (split.map (·.2)).mem_iff.mp waits
  have reordered : session.underway.Perm
      (rest.map (·.2) ++ (session.network.exchange.pending.map (·.message) ++ [message])) := by
    refine ((split.map (·.2)).append_right _).trans ?_
    rw [← List.append_assoc]
    exact (List.perm_append_singleton message _).symm
  obtain ⟨fewer, stays, reaches⟩ := Exchange.pending_of_publish taken
  have sublist := (List.Sublist.refl (rest.map (·.2))).append fewer
  refine ⟨wired, ?_, ?_, homed, carries.ordered, carries.queued, ?_⟩
  · exact ((reordered.pairwise_iff Apart.symm).mp carries.apart).sublist sublist
  · exact fun other waits => carries.made other (reordered.mem_iff.mpr (sublist.subset waits))
  · intro query station found other otherIssued
    rcases carries.arrives query station found other otherIssued with
      isKnown | waits | ⟨pending, isPending, addressed⟩ | isQueued
    · exact .inl isKnown
    · rcases kept other waits with rfl | waits
      · rcases reaches station.id (carries.wired.id_mem_keys found) with isOrigin | isPending
        · exact .inl (own query station found isOrigin)
        · exact .inr (.inr (.inl isPending))
      · exact .inr (.inl waits)
    · exact .inr (.inr (.inl ⟨pending, stays pending isPending, addressed⟩))
    · exact .inr (.inr (.inr isQueued))

/-- A local change makes a message whose key is new, and the replica that made it knows it. -/
theorem change {handle : Nat} {station changed : Station ρ μ} {address : ReplicaId}
    {message : μ} (carries : Carries order knows session)
    (present : session.network.station? handle = some station)
    (sameId : changed.id = station.id) (sameOrder : changed.order = station.order)
    (sameInbox : changed.inbox = station.inbox)
    (fresh : ∀ earlier ∈ session.issued, Apart earlier message)
    (learns : knows changed.replica message)
    (remembers : ∀ earlier ∈ session.issued, knows station.replica earlier →
      knows changed.replica earlier) :
    Carries order knows ⟨session.network.setMember handle (changed.member address),
      session.unpublished ++ [(handle, message)], session.issued ++ [message]⟩ := by
  have reordered : ((session.unpublished ++ [(handle, message)]).map (·.2) ++
      session.network.exchange.pending.map (·.message)).Perm (message :: session.underway) := by
    simp only [underway, List.map_append, List.map_singleton, List.append_assoc]
    exact List.perm_middle
  -- Every station comes from one that differs from it at most in its replica.
  have before : ∀ {query other},
      (session.network.setMember handle (changed.member address)).station? query = some other →
      ∃ earlier, session.network.station? query = some earlier ∧ other.id = earlier.id ∧
        other.order = earlier.order ∧ other.inbox = earlier.inbox ∧
        ∀ message ∈ session.issued, knows earlier.replica message →
          knows other.replica message := by
    intro query other found
    rcases Network.station_of_setMember found with ⟨rfl, rfl⟩ | ⟨_, unchanged⟩
    · exact ⟨station, present, sameId, sameOrder, sameInbox, remembers⟩
    · exact ⟨other, unchanged, rfl, rfl, rfl, fun _ _ isKnown => isKnown⟩
  refine ⟨carries.wired.setMember present sameId address, ?_, ?_, ?_, ?_, ?_, ?_⟩
  · refine (reordered.pairwise_iff Apart.symm).mpr (List.pairwise_cons.mpr ⟨?_, carries.apart⟩)
    exact fun other waits => (fresh other (carries.made other waits)).symm
  · intro other waits
    rcases List.mem_cons.mp (reordered.mem_iff.mp waits) with rfl | earlier
    · exact List.mem_append_right _ (.head _)
    · exact List.mem_append_left _ (carries.made other earlier)
  · intro entry waits
    by_cases here : entry.1 = handle
    · exact ⟨changed, (Network.station?_setMember _ _ _ _ _).trans (if_pos here)⟩
    · rcases List.mem_append.mp waits with earlier | new
      · obtain ⟨other, found⟩ := carries.homed entry earlier
        exact ⟨other, ((Network.station?_setMember _ _ _ _ _).trans (if_neg here)).trans found⟩
      · exact absurd (congrArg Prod.fst (List.mem_singleton.mp new)) here
  · intro query other found
    obtain ⟨station, present, _, sameOrder, sameInbox, _⟩ := before found
    rw [sameOrder, sameInbox]
    exact carries.ordered query station present
  · intro query other found queued isQueued
    obtain ⟨station, present, _, _, sameInbox, _⟩ := before found
    have earlier := carries.queued query station present queued (sameInbox ▸ isQueued)
    exact ⟨List.mem_append_left _ earlier.1, earlier.2⟩
  · intro query other found known isIssued
    rcases List.mem_append.mp isIssued with earlier | new
    · obtain ⟨station, present, sameId, _, sameInbox, remembers⟩ := before found
      rcases carries.arrives query station present known earlier with
        isKnown | waits | isPending | isQueued
      · exact .inl (remembers known earlier isKnown)
      · refine .inr (.inl ?_)
        rw [List.map_append]
        exact List.mem_append_left _ waits
      · exact .inr (.inr (.inl (sameId ▸ isPending)))
      · exact .inr (.inr (.inr (sameInbox ▸ isQueued)))
    · rw [List.mem_singleton.mp new]
      exact .inr (.inl (by simp))

/-- What was pending is queued at every station that it was pending for. -/
theorem deliver [ReflBEq (Message.Key μ)] (carries : Carries order knows session) :
    Carries order knows ⟨session.network.deliver, session.unpublished, session.issued⟩ := by
  obtain ⟨wired, nothing, stations⟩ := carries.wired.deliver
  have received : ∀ {query other}, session.network.deliver.station? query = some other →
      ∃ station, session.network.station? query = some station ∧ other =
        station.receiveAll (Network.mailFor query session.network.exchange.deliveries) := by
    intro query other found
    obtain ⟨station, present, same⟩ := Option.map_eq_some_iff.mp ((stations query).symm.trans found)
    exact ⟨station, present, same.symm⟩
  refine ⟨wired, ?_, ?_, ?_, ?_, ?_, ?_⟩
  · simp only [underway, nothing, List.map_nil, List.append_nil]
    exact (List.pairwise_append.mp carries.apart).1
  · simp only [underway, nothing, List.map_nil, List.append_nil]
    exact fun other waits => carries.made other (List.mem_append_left _ waits)
  · intro entry waits
    obtain ⟨station, present⟩ := carries.homed entry waits
    exact ⟨_, (stations entry.1).trans (congrArg _ present)⟩
  · intro query other found
    obtain ⟨station, present, rfl⟩ := received found
    obtain ⟨inOrder, idle⟩ := carries.ordered query station present
    exact ⟨inOrder, Inbox.applying_enqueueAll.trans idle⟩
  · intro query other found queued isQueued
    obtain ⟨station, present, rfl⟩ := received found
    rcases Inbox.of_mem_enqueueAll isQueued with earlier | ⟨isMail, priority⟩
    · exact carries.queued query station present queued earlier
    · obtain ⟨pending, isPending, same, _⟩ := (carries.wired.mem_mailFor_iff present).mp isMail
      refine ⟨carries.made _ (List.mem_append_right _ ?_), ?_⟩
      · rw [← same]
        exact List.mem_map_of_mem isPending
      · rw [priority, (carries.ordered query station present).1]
  · intro query other found message isIssued
    obtain ⟨station, present, rfl⟩ := received found
    rcases carries.arrives query station present message isIssued with
      isKnown | waits | isPending | ⟨queued, isQueued, same⟩
    · exact .inl isKnown
    · exact .inr (.inl waits)
    · have isMail := (carries.wired.mem_mailFor_iff present).mpr isPending
      exact .inr (.inr (.inr (Inbox.exists_mem_enqueueAll isMail)))
    · exact .inr (.inr (.inr ⟨queued, Inbox.mem_enqueueAll_of_mem isQueued _, same⟩))

/-- An apply cycle loses nothing at any station: what was queued is known or stays queued. -/
theorem earlier_of_applyAt [Updatable ρ μ] {handle query : Nat} {station later : Station ρ μ}
    (carries : Carries order knows session)
    (present : session.network.station? handle = some station) {sound : ρ → Prop}
    (teaches : Inbox.Teaches Updatable.update (· ∈ session.issued) sound knows)
    (isSound : sound station.replica)
    (found : (session.network.applyAt handle).station? query = some later) :
    ∃ earlier, session.network.station? query = some earlier ∧ later.id = earlier.id ∧
      later.order = earlier.order ∧ later.inbox.applying = earlier.inbox.applying ∧
      (∀ queued ∈ later.inbox.queue, queued ∈ earlier.inbox.queue) ∧
      (∀ message, knows earlier.replica message → knows later.replica message) ∧
      ∀ queued ∈ earlier.inbox.queue,
        queued ∈ later.inbox.queue ∨ knows later.replica queued.message := by
  rcases Network.station_of_applyAt present found with ⟨rfl, rfl⟩ | ⟨_, unchanged⟩
  · have passes := Inbox.passes_applyPending Updatable.update station.replica station.inbox
    obtain ⟨_, remembers, gone, split, known⟩ := passes.teach teaches
      (fun queued isQueued => (carries.queued query station present queued isQueued).1) isSound
    refine ⟨station, present, rfl, rfl, passes.applying_eq, passes.mem_of_mem, remembers, ?_⟩
    intro queued isQueued
    exact (List.mem_append.mp (split.mem_iff.mp isQueued)).symm.imp id (known queued)
  · exact ⟨later, unchanged, rfl, rfl, rfl, fun _ isQueued => isQueued,
      fun _ isKnown => isKnown, fun _ isQueued => .inl isQueued⟩

theorem apply [Updatable ρ μ] {handle : Nat} (carries : Carries order knows session)
    (teaches : ∀ station, session.network.station? handle = some station → ∃ sound,
      Inbox.Teaches Updatable.update (· ∈ session.issued) sound knows ∧ sound station.replica) :
    Carries order knows ⟨session.network.applyAt handle, session.unpublished, session.issued⟩ := by
  cases present : session.network.station? handle with
  | none =>
      rw [Network.applyAt_of_absent (carries.wired.manned.station?_eq_none_iff.mp present)]
      exact carries
  | some station =>
      obtain ⟨_, teaches, isSound⟩ := teaches station present
      have exchange := session.network.exchange_applyAt handle
      refine ⟨carries.wired.applyAt handle, ?_, ?_, ?_, ?_, ?_, ?_⟩
      · simp only [underway, exchange]
        exact carries.apart
      · simp only [underway, exchange]
        exact carries.made
      · intro entry waits
        obtain ⟨other, found⟩ := carries.homed entry waits
        rw [Network.station?_applyAt present]
        split
        · exact ⟨_, rfl⟩
        · exact ⟨other, found⟩
      · intro query other found
        obtain ⟨earlier, isStation, _, sameOrder, sameApplying, _⟩ :=
          carries.earlier_of_applyAt present teaches isSound found
        rw [sameOrder, sameApplying]
        exact carries.ordered query earlier isStation
      · intro query other found queued isQueued
        obtain ⟨earlier, isStation, _, _, _, wasQueued, _⟩ :=
          carries.earlier_of_applyAt present teaches isSound found
        exact carries.queued query earlier isStation queued (wasQueued queued isQueued)
      · intro query other found message isIssued
        obtain ⟨earlier, isStation, sameId, _, _, _, remembers, settles⟩ :=
          carries.earlier_of_applyAt present teaches isSound found
        unfold Arrives
        simp only [exchange]
        rcases carries.arrives query earlier isStation message isIssued with
          isKnown | waits | isPending | ⟨queued, isQueued, rfl⟩
        · exact .inl (remembers message isKnown)
        · exact .inr (.inl waits)
        · exact .inr (.inr (.inl (sameId ▸ isPending)))
        · rcases settles queued isQueued with stays | isKnown
          · exact .inr (.inr (.inr ⟨queued, stays, rfl⟩))
          · exact .inl isKnown

end Carries

/-! ## Sound replicas -/

/-- A session that carries its messages and whose replicas are all sound. -/
structure Tended (order : InboxOrder) (knows : ρ → μ → Prop) (sound : ReplicaId → ρ → Prop)
    (session : Session ρ μ) : Prop where
  carries : Carries order knows session
  sound : ∀ handle station, session.network.station? handle = some station →
    sound station.id station.replica

namespace Tended

variable {sound : ReplicaId → ρ → Prop}

theorem publish {network : Network ρ μ} {rest : List (Nat × μ)} {handle : Nat} {message : μ}
    (tended : Tended order knows sound session)
    (split : session.unpublished.Perm ((handle, message) :: rest))
    (done : session.network.publish handle message = .ok network)
    (own : ∀ {replica}, message ∈ session.issued → sound (Message.origin message) replica →
      knows replica message) :
    Tended order knows sound ⟨network, rest, session.issued⟩ := by
  have isUnpublished : (handle, message) ∈ session.unpublished := split.mem_iff.mpr (.head _)
  have isIssued : message ∈ session.issued :=
    tended.carries.made message (List.mem_append_left _ (List.mem_map_of_mem isUnpublished))
  refine ⟨tended.carries.publish split done fun query station found isOrigin => ?_, ?_⟩
  · exact own isIssued (isOrigin ▸ tended.sound query station found)
  · obtain ⟨_, present⟩ := tended.carries.homed _ isUnpublished
    rw [Network.publish_eq present] at done
    obtain ⟨exchange, _, finished⟩ := Outcome.bind_eq_ok done
    cases finished
    exact tended.sound

theorem deliver [ReflBEq (Message.Key μ)] (tended : Tended order knows sound session) :
    Tended order knows sound ⟨session.network.deliver, session.unpublished, session.issued⟩ := by
  refine ⟨tended.carries.deliver, ?_⟩
  intro query other found
  have stations := tended.carries.wired.deliver.2.2 query
  obtain ⟨station, present, rfl⟩ := Option.map_eq_some_iff.mp (stations.symm.trans found)
  exact tended.sound query station present

theorem apply [Updatable ρ μ] (tended : Tended order knows sound session)
    (teaches : ∀ id, Inbox.Teaches Updatable.update (· ∈ session.issued) (sound id) knows)
    (handle : Nat) : Tended order knows sound
      ⟨session.network.applyAt handle, session.unpublished, session.issued⟩ := by
  cases present : session.network.station? handle with
  | none =>
      have absent := tended.carries.wired.manned.station?_eq_none_iff.mp present
      rw [Network.applyAt_of_absent absent]
      exact tended
  | some station =>
      have isSound := tended.sound handle station present
      refine ⟨tended.carries.apply fun other found => ?_, ?_⟩
      · cases present.symm.trans found
        exact ⟨_, teaches station.id, isSound⟩
      · intro query other found
        rcases Network.station_of_applyAt present found with ⟨_, rfl⟩ | ⟨_, unchanged⟩
        · exact ((Inbox.passes_applyPending _ _ _).teach (teaches station.id)
            (fun queued isQueued =>
              (tended.carries.queued handle station present queued isQueued).1) isSound).1
        · exact tended.sound query other unchanged

end Tended

end Session

end Confluence

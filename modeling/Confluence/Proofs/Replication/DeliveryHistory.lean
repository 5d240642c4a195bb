import Confluence.Proofs.Replication.ExchangeRuns

/-!
What becomes of the messages that an exchange has taken. A history is kept beside the exchange: who
was attached when a message was published, what was offered to whom and whether it was accepted,
which acceptances were recorded, and who has left since.

Main statement: a message is offered to nobody but the endpoints that it was published for, each of
them accepts it at most once, and it is pending exactly as long as it is owed to one of them. This
needs no assumption on when endpoints come and go. What a cycle hands out was collected before, and
may go to endpoints that have left meanwhile; what they accept is recorded against numbers that are
never used again.
-/

set_option autoImplicit false

namespace Confluence.Exchange

/-! ## Histories -/

/-- An endpoint with the number of its attachment. Attached again, it has another number. -/
structure Attachment (ε : Type) where
  number : Nat
  endpoint : ε

/-- A message that an exchange has taken for somebody: who was attached then, its origin excepted,
and how many attachments there had been. -/
structure Publication (μ ε : Type) where
  number : Nat
  message : μ
  destinations : OrderedMap ReplicaId (Attachment ε)
  attachments : Nat

structure History (μ ε : Type) where
  /-- The number of the next attachment. One that the exchange refuses has used its number up. -/
  attachments : Nat
  publications : List (Publication μ ε)
  /-- What was handed out, and whether it was accepted. -/
  offers : List (Delivery μ (Attachment ε) × Bool)
  /-- Acceptances that were recorded, by the number of the message. -/
  recorded : List (Nat × ReplicaId)
  /-- Who has left, with the number of each message that was published before. -/
  departed : List (Nat × ReplicaId)

def Act.numbered {μ ε : Type} (number : Nat) : Act μ ε → Act μ (Attachment ε)
  | .attach id endpoint => .attach id ⟨number, endpoint⟩
  | .detach id => .detach id
  | .publish message => .publish message
  | .shutDown => .shutDown
  | .collect => .collect
  | .offer isAccepted => .offer isAccepted
  | .record => .record

namespace History

variable {μ ε : Type}

def empty : History μ ε := ⟨0, [], [], [], []⟩

def accepted (history : History μ ε) : List (Nat × ReplicaId) :=
  (history.offers.filter (·.2)).map fun offer => (offer.1.number, offer.1.destination)

theorem accepted_offer (history : History μ ε) (delivery : Delivery μ (Attachment ε))
    (isAccepted : Bool) :
    accepted { history with offers := history.offers ++ [(delivery, isAccepted)] } =
      if isAccepted then history.accepted ++ [(delivery.number, delivery.destination)]
      else history.accepted := by
  cases isAccepted <;> simp [accepted]

/-- The message is for this identifier, which has neither been recorded to have accepted it nor
left. -/
def Owed (history : History μ ε) (publication : Publication μ ε) (id : ReplicaId) : Prop :=
  id ∈ publication.destinations.keys ∧ (publication.number, id) ∉ history.recorded ∧
    (publication.number, id) ∉ history.departed

def Outstanding (history : History μ ε) (publication : Publication μ ε) : Prop :=
  ∃ id, history.Owed publication id

/-- A delivery is of a message that was published for the very endpoint that it goes to. -/
def Covers (history : History μ ε) (delivery : Delivery μ (Attachment ε)) : Prop :=
  ∃ publication ∈ history.publications, publication.number = delivery.number ∧
    publication.message = delivery.message ∧
    publication.destinations.get? delivery.destination = some delivery.endpoint

/-- The history after an identifier has left the exchange. -/
def leave (history : History μ ε) (id : ReplicaId) : History μ ε :=
  { history with
    departed := history.departed ++
      history.publications.map fun publication => (publication.number, id) }

/-- The history after a cycle has recorded what was accepted. -/
def record (history : History μ ε) (accepted : List (Nat × ReplicaId)) : History μ ε :=
  { history with recorded := history.recorded ++ accepted }

theorem owed_leave {history : History μ ε} {publication : Publication μ ε} {id other : ReplicaId}
    (isPublished : publication ∈ history.publications) :
    (history.leave id).Owed publication other ↔
      history.Owed publication other ∧ other ≠ id := by
  have leaves : (publication.number, other) ∈ (history.leave id).departed ↔
      (publication.number, other) ∈ history.departed ∨ other = id := by
    refine List.mem_append.trans (or_congr_right ?_)
    constructor
    · intro leaving
      obtain ⟨_, _, same⟩ := List.mem_map.mp leaving
      exact (Prod.mk.inj same).2.symm
    · intro same
      exact List.mem_map.mpr ⟨publication, isPublished, same ▸ rfl⟩
  unfold Owed
  rw [leaves, not_or, and_assoc, and_assoc]
  rfl

theorem owed_record {history : History μ ε} {publication : Publication μ ε} {id : ReplicaId}
    {accepted : List (Nat × ReplicaId)} :
    (history.record accepted).Owed publication id ↔
      history.Owed publication id ∧ (publication.number, id) ∉ accepted := by
  have records : (publication.number, id) ∈ (history.record accepted).recorded ↔
      (publication.number, id) ∈ history.recorded ∨ (publication.number, id) ∈ accepted :=
    List.mem_append
  constructor
  · intro ⟨isFor, notRecorded, stayed⟩
    rw [records, not_or] at notRecorded
    exact ⟨⟨isFor, notRecorded.1, stayed⟩, notRecorded.2⟩
  · intro ⟨⟨isFor, notRecorded, stayed⟩, notAccepted⟩
    refine ⟨isFor, ?_, stayed⟩
    rw [records, not_or]
    exact ⟨notRecorded, notAccepted⟩

theorem Covers.append {history : History μ ε} {delivery : Delivery μ (Attachment ε)}
    (covers : history.Covers delivery) (publications : List (Publication μ ε)) :
    Covers { history with publications := history.publications ++ publications } delivery := by
  obtain ⟨publication, isPublished, rest⟩ := covers
  exact ⟨publication, List.mem_append_left _ isPublished, rest⟩

variable [Message μ]

/-- The history after an exchange has taken a message. What is for nobody does not become pending,
and is left out. -/
def enter (history : History μ ε) (exchange : Exchange μ (Attachment ε)) (message : μ) :
    History μ ε :=
  let destinations := exchange.endpoints.erase (Message.origin message)
  if destinations.isEmpty then history
  else
    { history with
      publications := history.publications ++
        [⟨exchange.nextNumber, message, destinations, history.attachments⟩] }

/-- The history after an act that is done in a run. -/
def note (history : History μ ε) (run : Run μ (Attachment ε)) : Act μ ε → History μ ε
  | .attach _ _ => { history with attachments := history.attachments + 1 }
  | .detach id =>
    if run.exchange.endpoints.contains id then history.leave id else history
  | .publish message =>
    match run.exchange.publish message with
    | .ok _ => history.enter run.exchange message
    | .error _ => history
  | .offer isAccepted =>
    match run.cycle with
    | some ⟨delivery :: _, _⟩ =>
      { history with offers := history.offers ++ [(delivery, isAccepted)] }
    | _ => history
  | .record =>
    match run.cycle with
    | some ⟨[], accepted⟩ => history.record accepted
    | _ => history
  | .shutDown => history
  | .collect => history

/-- An act settles what is outstanding or publishes, but never both. -/
theorem note_cases (history : History μ ε) (run : Run μ (Attachment ε)) (act : Act μ ε) :
    ((history.note run act).publications = history.publications ∧
      ∀ publication, (history.note run act).Outstanding publication →
        history.Outstanding publication) ∨
    ∀ publication, history.Outstanding publication →
      (history.note run act).Outstanding publication := by
  cases act with
  | attach id endpoint => exact .inr fun _ outstanding => outstanding
  | detach id =>
      simp only [note]
      split
      · refine .inl ⟨rfl, fun publication outstanding => ?_⟩
        obtain ⟨other, isFor, notRecorded, stayed⟩ := outstanding
        exact ⟨other, isFor, notRecorded, fun left => stayed (List.mem_append_left _ left)⟩
      · exact .inr fun _ outstanding => outstanding
  | publish message =>
      simp only [note, enter]
      split
      · split <;> exact .inr fun _ outstanding => outstanding
      · exact .inr fun _ outstanding => outstanding
  | shutDown => exact .inr fun _ outstanding => outstanding
  | collect => exact .inr fun _ outstanding => outstanding
  | offer isAccepted =>
      simp only [note]
      split <;> exact .inr fun _ outstanding => outstanding
  | record =>
      simp only [note]
      split
      · refine .inl ⟨rfl, fun publication outstanding => ?_⟩
        obtain ⟨id, owed⟩ := outstanding
        exact ⟨id, (owed_record.mp owed).1⟩
      · exact .inr fun _ outstanding => outstanding

end History

/-- An exchange in use, with its history. -/
structure Chronicle (μ ε : Type) [Message μ] where
  run : Run μ (Attachment ε)
  history : History μ ε

namespace Chronicle

variable {μ ε : Type} [Message μ]

def act (chronicle : Chronicle μ ε) (act : Act μ ε) : Chronicle μ ε :=
  ⟨chronicle.run.act (act.numbered chronicle.history.attachments),
    chronicle.history.note chronicle.run act⟩

/-- A new exchange after some acts. -/
def after (acts : List (Act μ ε)) : Chronicle μ ε := acts.foldl act ⟨⟨.empty, none⟩, .empty⟩

end Chronicle

/-! ## Histories and books -/

namespace History

variable {μ ε : Type} [Message μ] {history : History μ ε}
  {exchange next : Exchange μ (Attachment ε)}

theorem enter_eq_self {message : μ}
    (nobody : ∀ id ∈ exchange.endpoints.keys, id = Message.origin message) :
    history.enter exchange message = history := by
  refine if_pos ?_
  rw [← OrderedMap.isEmpty_keys, OrderedMap.keys_erase, OrderedSet.isEmpty_iff]
  intro id isFor
  obtain ⟨present, different⟩ := OrderedSet.mem_erase.mp isFor
  exact different (nobody id present).symm

theorem enter_eq_append {message : μ} {id : ReplicaId}
    (isFor : id ∈ exchange.endpoints.keys.erase (Message.origin message)) :
    history.enter exchange message =
      { history with
        publications := history.publications ++ [⟨exchange.nextNumber, message,
          exchange.endpoints.erase (Message.origin message), history.attachments⟩] } := by
  refine if_neg ?_
  rw [← OrderedMap.isEmpty_keys, OrderedMap.keys_erase, OrderedSet.isEmpty_iff]
  exact fun nobody => nobody id isFor

/-- The books of the exchange say what the history says: exactly what is still owed is awaited, and
endpoints that a message was published for are attached unless they have left. -/
structure Tallies (history : History μ ε) (exchange : Exchange μ (Attachment ε)) : Prop where
  balanced : exchange.Balanced
  numbered : history.publications.Pairwise fun earlier later => earlier.number < later.number
  below : ∀ publication ∈ history.publications, publication.number < exchange.nextNumber
  settled : ∀ entry ∈ history.recorded ++ history.departed,
    ∃ publication ∈ history.publications, publication.number = entry.1
  attached : ∀ id attachment, exchange.endpoints.get? id = some attachment →
    attachment.number < history.attachments
  earlier : ∀ publication ∈ history.publications, ∀ id attachment,
    publication.destinations.get? id = some attachment →
      attachment.number < publication.attachments
  since : ∀ publication ∈ history.publications, publication.attachments ≤ history.attachments
  stays : ∀ publication ∈ history.publications, ∀ id attachment,
    publication.destinations.get? id = some attachment →
      (publication.number, id) ∈ history.departed ∨
        exchange.endpoints.get? id = some attachment
  awaits : ∀ number message id, exchange.Awaits number message id ↔
    ∃ publication ∈ history.publications, publication.number = number ∧
      publication.message = message ∧ history.Owed publication id

theorem tallies_empty : Tallies (empty : History μ ε) .empty where
  balanced := balanced_empty
  numbered := .nil
  below publication absent := by cases absent
  settled entry absent := by cases absent
  attached id attachment absent := by cases absent
  earlier publication absent := by cases absent
  since publication absent := by cases absent
  stays publication absent := by cases absent
  awaits number message id := by
    constructor
    · intro ⟨pending, absent, _⟩
      cases absent
    · intro ⟨publication, absent, _⟩
      cases absent

namespace Tallies

theorem skip (tallies : Tallies history exchange) :
    Tallies { history with attachments := history.attachments + 1 } exchange :=
  { tallies with
    attached := fun id attachment present =>
      Nat.lt_succ_of_lt (tallies.attached id attachment present)
    since := fun publication isPublished =>
      Nat.le_succ_of_le (tallies.since publication isPublished) }

theorem attach {id : ReplicaId} {endpoint : ε} (tallies : Tallies history exchange)
    (done : exchange.attach id ⟨history.attachments, endpoint⟩ = .ok next) :
    Tallies { history with attachments := history.attachments + 1 } next := by
  have balanced := tallies.balanced.attach done
  obtain ⟨_, free, rfl⟩ := attach_eq_ok done
  refine { tallies.skip with balanced, attached := ?_, stays := ?_ }
  · intro query attachment present
    rw [OrderedMap.get?_insert] at present
    split at present
    · cases present
      exact Nat.lt_succ_self _
    · exact Nat.lt_succ_of_lt (tallies.attached query attachment present)
  · intro publication isPublished query attachment present
    refine (tallies.stays publication isPublished query attachment present).imp_right ?_
    intro stays
    rw [OrderedMap.get?_insert]
    split
    next same =>
      rw [Std.LawfulEqOrd.eq_of_compare same, free] at stays
      cases stays
    next => exact stays

theorem close (tallies : Tallies history exchange) : Tallies history exchange.close :=
  { tallies with balanced := tallies.balanced.close }

theorem detach [EquivBEq (Message.Key μ)] (tallies : Tallies history exchange) (id : ReplicaId) :
    Tallies (history.leave id) (exchange.detach id) := by
  have sameNumber : (exchange.detach id).nextNumber = exchange.nextNumber := by
    unfold Exchange.detach
    split <;> rfl
  refine { tallies with
    balanced := tallies.balanced.detach id, below := ?_, settled := ?_, attached := ?_
    stays := ?_, awaits := ?_ }
  · intro publication isPublished
    rw [sameNumber]
    exact tallies.below publication isPublished
  · intro entry isSettled
    rcases List.mem_append.mp isSettled with recorded | left
    · exact tallies.settled entry (List.mem_append_left _ recorded)
    · rcases List.mem_append.mp left with earlier | now
      · exact tallies.settled entry (List.mem_append_right _ earlier)
      · obtain ⟨publication, isPublished, rfl⟩ := List.mem_map.mp now
        exact ⟨publication, isPublished, rfl⟩
  · intro query attachment present
    rw [endpoints_detach] at present
    split at present
    · cases present
    · exact tallies.attached query attachment present
  · intro publication isPublished query attachment present
    rw [endpoints_detach]
    split
    next same =>
      rw [same]
      exact .inl (List.mem_append_right _ (List.mem_map.mpr ⟨publication, isPublished, rfl⟩))
    next =>
      exact (tallies.stays publication isPublished query attachment present).imp_left
        (List.mem_append_left _)
  · intro number message destination
    rw [tallies.balanced.awaits_detach, tallies.awaits]
    constructor
    · intro ⟨⟨publication, isPublished, numbered, same, owed⟩, different⟩
      exact ⟨publication, isPublished, numbered, same,
        (owed_leave isPublished).mpr ⟨owed, different⟩⟩
    · intro ⟨publication, isPublished, numbered, same, owed⟩
      have wasPublished : publication ∈ history.publications := isPublished
      obtain ⟨wasOwed, different⟩ := (owed_leave wasPublished).mp owed
      exact ⟨⟨publication, isPublished, numbered, same, wasOwed⟩, different⟩

theorem acknowledge [EquivBEq (Message.Key μ)] (tallies : Tallies history exchange)
    {accepted : List (Nat × ReplicaId)}
    (published : ∀ acceptance ∈ accepted,
      ∃ publication ∈ history.publications, publication.number = acceptance.1) :
    Tallies (history.record accepted) (exchange.acknowledge accepted) := by
  refine { tallies with
    balanced := tallies.balanced.acknowledge accepted, settled := ?_, awaits := ?_ }
  · intro entry isSettled
    rcases List.mem_append.mp isSettled with recorded | left
    · rcases List.mem_append.mp recorded with earlier | now
      · exact tallies.settled entry (List.mem_append_left _ earlier)
      · exact published entry now
    · exact tallies.settled entry (List.mem_append_right _ left)
  · intro number message destination
    rw [awaits_acknowledge, tallies.awaits]
    constructor
    · intro ⟨⟨publication, isPublished, numbered, same, owed⟩, notAccepted⟩
      exact ⟨publication, isPublished, numbered, same,
        owed_record.mpr ⟨owed, numbered ▸ notAccepted⟩⟩
    · intro ⟨publication, isPublished, numbered, same, owed⟩
      obtain ⟨wasOwed, notAccepted⟩ := owed_record.mp owed
      exact ⟨⟨publication, isPublished, numbered, same, wasOwed⟩, numbered ▸ notAccepted⟩

/-- A new message is owed to everybody that it is for: nothing is settled of its number yet. -/
theorem owed_new (tallies : Tallies history exchange) {message : μ} {id : ReplicaId} :
    history.Owed ⟨exchange.nextNumber, message, exchange.endpoints.erase (Message.origin message),
        history.attachments⟩ id ↔
      id ∈ exchange.endpoints.keys ∧ id ≠ Message.origin message := by
  have unsettled : (exchange.nextNumber, id) ∉ history.recorded ++ history.departed := by
    intro isSettled
    obtain ⟨publication, isPublished, numbered⟩ := tallies.settled _ isSettled
    exact Nat.ne_of_lt (tallies.below publication isPublished) numbered
  unfold Owed
  rw [OrderedMap.keys_erase, OrderedSet.mem_erase]
  constructor
  · intro ⟨⟨attached, different⟩, _⟩
    exact ⟨attached, Ne.symm different⟩
  · intro ⟨attached, notOrigin⟩
    exact ⟨⟨attached, Ne.symm notOrigin⟩,
      fun recorded => unsettled (List.mem_append_left _ recorded),
      fun left => unsettled (List.mem_append_right _ left)⟩

theorem publish [EquivBEq (Message.Key μ)] {message : μ} (tallies : Tallies history exchange)
    (done : exchange.publish message = .ok next) :
    Tallies (history.enter exchange message) next := by
  have balanced := tallies.balanced.publish done
  rcases (publish_eq_ok done).2 with ⟨nobody, same⟩ | ⟨⟨somebody, isFor⟩, rfl⟩
  · rw [same, enter_eq_self nobody]
    exact tallies
  · rw [enter_eq_append isFor]
    have present : ∀ id attachment,
        (exchange.endpoints.erase (Message.origin message)).get? id = some attachment →
          exchange.endpoints.get? id = some attachment := by
      intro id attachment found
      rw [OrderedMap.get?_erase] at found
      split at found
      · cases found
      · exact found
    refine { tallies with
      balanced, numbered := ?_, below := ?_, settled := ?_, earlier := ?_, since := ?_
      stays := ?_, awaits := ?_ }
    · refine List.pairwise_append.mpr ⟨tallies.numbered, List.pairwise_singleton _ _, ?_⟩
      intro earlier isEarlier later isLater
      rw [List.mem_singleton.mp isLater]
      exact tallies.below earlier isEarlier
    · intro publication isPublished
      rcases List.mem_append.mp isPublished with earlier | now
      · exact Nat.lt_succ_of_lt (tallies.below publication earlier)
      · rw [List.mem_singleton.mp now]
        exact Nat.lt_succ_self _
    · intro entry isSettled
      obtain ⟨publication, isPublished, numbered⟩ := tallies.settled entry isSettled
      exact ⟨publication, List.mem_append_left _ isPublished, numbered⟩
    · intro publication isPublished id attachment found
      rcases List.mem_append.mp isPublished with earlier | now
      · exact tallies.earlier publication earlier id attachment found
      · rw [List.mem_singleton.mp now] at found ⊢
        exact tallies.attached id attachment (present id attachment found)
    · intro publication isPublished
      rcases List.mem_append.mp isPublished with earlier | now
      · exact tallies.since publication earlier
      · exact Nat.le_of_eq (congrArg Publication.attachments (List.mem_singleton.mp now))
    · intro publication isPublished id attachment found
      rcases List.mem_append.mp isPublished with earlier | now
      · exact tallies.stays publication earlier id attachment found
      · rw [List.mem_singleton.mp now] at found
        exact .inr (present id attachment found)
    · intro number other id
      rw [awaits_publish done, tallies.awaits]
      constructor
      · intro either
        cases either with
        | inl earlier =>
            obtain ⟨publication, isPublished, owed⟩ := earlier
            exact ⟨publication, List.mem_append_left _ isPublished, owed⟩
        | inr now =>
            obtain ⟨rfl, rfl, isAddressed⟩ := now
            exact ⟨_, List.mem_append_right _ (.head _), rfl, rfl,
              tallies.owed_new.mpr isAddressed⟩
      · intro ⟨publication, isPublished, numbered, same, owed⟩
        rcases List.mem_append.mp isPublished with earlier | now
        · exact .inl ⟨publication, earlier, numbered, same, owed⟩
        · rw [List.mem_singleton.mp now] at numbered same owed
          exact .inr ⟨numbered.symm, same.symm, tallies.owed_new.mp owed⟩

/-- A message is pending exactly as long as it is owed to somebody. -/
theorem pending_iff (tallies : Tallies history exchange) {number : Nat} {message : μ} :
    (∃ pending ∈ exchange.pending, pending.number = number ∧ pending.message = message) ↔
      ∃ publication ∈ history.publications, publication.number = number ∧
        publication.message = message ∧ history.Outstanding publication := by
  constructor
  · intro ⟨pending, isPending, numbered, same⟩
    obtain ⟨id, awaits⟩ := tallies.balanced.awaited pending isPending
    obtain ⟨publication, isPublished, numbered', same', owed⟩ :=
      (tallies.awaits number message id).mp ⟨pending, isPending, numbered, same, awaits⟩
    exact ⟨publication, isPublished, numbered', same', id, owed⟩
  · intro ⟨publication, isPublished, numbered, same, id, owed⟩
    obtain ⟨pending, isPending, numbered', same', _⟩ :=
      (tallies.awaits number message id).mpr ⟨publication, isPublished, numbered, same, owed⟩
    exact ⟨pending, isPending, numbered', same'⟩

theorem reserved_iff (tallies : Tallies history exchange) (key : Message.Key μ) :
    (∃ taken ∈ exchange.reserved, (taken == key) = true) ↔
      ∃ publication ∈ history.publications, history.Outstanding publication ∧
        (Message.key publication.message == key) = true := by
  rw [tallies.balanced.reserved_iff]
  constructor
  · intro ⟨pending, isPending, sameKey⟩
    obtain ⟨publication, isPublished, _, same, outstanding⟩ :=
      tallies.pending_iff.mp ⟨pending, isPending, rfl, rfl⟩
    rw [← same] at sameKey
    exact ⟨publication, isPublished, outstanding, sameKey⟩
  · intro ⟨publication, isPublished, outstanding, sameKey⟩
    obtain ⟨pending, isPending, _, same⟩ :=
      tallies.pending_iff.mpr ⟨publication, isPublished, rfl, rfl, outstanding⟩
    rw [← same] at sameKey
    exact ⟨pending, isPending, sameKey⟩

theorem hasPendingFrom_iff (tallies : Tallies history exchange) (origin : ReplicaId) :
    exchange.hasPendingFrom origin = true ↔
      ∃ publication ∈ history.publications, history.Outstanding publication ∧
        Message.origin publication.message = origin := by
  unfold hasPendingFrom
  rw [List.any_eq_true]
  constructor
  · intro ⟨pending, isPending, sameOrigin⟩
    obtain ⟨publication, isPublished, _, same, outstanding⟩ :=
      tallies.pending_iff.mp ⟨pending, isPending, rfl, rfl⟩
    rw [← same] at sameOrigin
    exact ⟨publication, isPublished, outstanding, eq_of_beq sameOrigin⟩
  · intro ⟨publication, isPublished, outstanding, sameOrigin⟩
    obtain ⟨pending, isPending, _, same⟩ :=
      tallies.pending_iff.mpr ⟨publication, isPublished, rfl, rfl, outstanding⟩
    rw [← same] at sameOrigin
    exact ⟨pending, isPending, beq_iff_eq.mpr sameOrigin⟩

/-- No two messages with one key are outstanding together. -/
theorem eq_of_key (tallies : Tallies history exchange) {first second : Publication μ ε}
    (isFirst : first ∈ history.publications) (firstOutstanding : history.Outstanding first)
    (isSecond : second ∈ history.publications) (secondOutstanding : history.Outstanding second)
    (sameKey : (Message.key first.message == Message.key second.message) = true) :
    first = second := by
  obtain ⟨pending, isPending, numbered, same⟩ :=
    tallies.pending_iff.mpr ⟨first, isFirst, rfl, rfl, firstOutstanding⟩
  obtain ⟨pending', isPending', numbered', same'⟩ :=
    tallies.pending_iff.mpr ⟨second, isSecond, rfl, rfl, secondOutstanding⟩
  rw [← same, ← same'] at sameKey
  have samePending := tallies.balanced.distinct pending isPending pending' isPending' sameKey
  rw [← samePending] at numbered'
  exact eq_of_measure_eq tallies.numbered isFirst isSecond (numbered.symm.trans numbered')

end Tallies

/-- What a cycle under way has still to hand out, and what was accepted of it, goes with the
history: everything accepted is recorded or will be at the end of the cycle, and nothing is accepted
or to be handed out twice. -/
structure Follows (history : History μ ε) (work : List (Delivery μ (Attachment ε)))
    (accepted : List (Nat × ReplicaId)) : Prop where
  accounted : history.accepted = history.recorded ++ accepted
  once : (history.accepted ++
    work.map fun delivery => (delivery.number, delivery.destination)).Nodup
  covered : ∀ offer ∈ history.offers, history.Covers offer.1
  due : ∀ delivery ∈ work, history.Covers delivery

omit [Message μ] in
theorem follows_empty : Follows (empty : History μ ε) [] [] where
  accounted := rfl
  once := .nil
  covered offer absent := by cases absent
  due delivery absent := by cases absent

variable {work : List (Delivery μ (Attachment ε))} {accepted : List (Nat × ReplicaId)}

theorem Tallies.covers (tallies : Tallies history exchange)
    {delivery : Delivery μ (Attachment ε)} (isDue : delivery ∈ exchange.deliveries) :
    history.Covers delivery ∧ (delivery.number, delivery.destination) ∉ history.recorded := by
  obtain ⟨pending, isPending, id, awaits, attachment, attached, rfl⟩ := mem_deliveries.mp isDue
  obtain ⟨publication, isPublished, numbered, same, isFor, notRecorded, stayed⟩ :=
    (tallies.awaits _ _ id).mp ⟨pending, isPending, rfl, rfl, awaits⟩
  obtain ⟨addressee, found⟩ := Option.isSome_iff_exists.mp (OrderedMap.mem_keys.mp isFor)
  refine ⟨⟨publication, isPublished, numbered, same, ?_⟩, numbered ▸ notRecorded⟩
  rcases tallies.stays publication isPublished id addressee found with left | stays
  · exact absurd left stayed
  · rw [found]
    exact stays.symm.trans attached

namespace Follows

theorem collect (follows : Follows history [] []) (tallies : Tallies history exchange) :
    Follows history exchange.deliveries [] where
  accounted := follows.accounted
  once := by
    refine List.nodup_append.mpr
      ⟨(List.nodup_append.mp follows.once).1, tallies.balanced.nodup_deliveries, ?_⟩
    intro acceptance wasAccepted entry isDue same
    obtain ⟨delivery, isDelivery, rfl⟩ := List.mem_map.mp isDue
    rw [same, follows.accounted, List.append_nil] at wasAccepted
    exact (tallies.covers isDelivery).2 wasAccepted
  covered := follows.covered
  due delivery isDue := (tallies.covers isDue).1

omit [Message μ] in
theorem offer {delivery : Delivery μ (Attachment ε)}
    (follows : Follows history (delivery :: work) accepted) (isAccepted : Bool) :
    Follows { history with offers := history.offers ++ [(delivery, isAccepted)] } work
      (if isAccepted then accepted ++ [(delivery.number, delivery.destination)]
        else accepted) where
  accounted := by
    rw [accepted_offer]
    cases isAccepted with
    | false => exact follows.accounted
    | true => simp only [↓reduceIte, follows.accounted, List.append_assoc]
  once := by
    rw [accepted_offer]
    have once := follows.once
    rw [List.map_cons] at once
    cases isAccepted with
    | false => exact once.sublist (List.Sublist.append_left (List.sublist_cons_self _ _) _)
    | true => simpa only [↓reduceIte, List.append_assoc, List.singleton_append] using once
  covered offer isOffer := by
    rcases List.mem_append.mp isOffer with earlier | now
    · exact follows.covered offer earlier
    · rw [List.mem_singleton.mp now]
      exact follows.due delivery (.head _)
  due later isLater := follows.due later (.tail _ isLater)

omit [Message μ] in
theorem record (follows : Follows history [] accepted) :
    Follows (history.record accepted) [] [] where
  accounted := by
    rw [List.append_nil]
    exact follows.accounted
  once := follows.once
  covered := follows.covered
  due := follows.due

omit [Message μ] in
/-- Whatever was accepted is of a message that was published. -/
theorem published (follows : Follows history work accepted) :
    ∀ acceptance ∈ accepted,
      ∃ publication ∈ history.publications, publication.number = acceptance.1 := by
  intro acceptance isAccepted
  have wasAccepted : acceptance ∈ history.accepted := by
    rw [follows.accounted]
    exact List.mem_append_right _ isAccepted
  obtain ⟨offer, isOffer, rfl⟩ := List.mem_map.mp wasAccepted
  obtain ⟨publication, isPublished, numbered, _⟩ :=
    follows.covered offer (List.mem_filter.mp isOffer).1
  exact ⟨publication, isPublished, numbered⟩

theorem enter (follows : Follows history work accepted) (exchange : Exchange μ (Attachment ε))
    (message : μ) : Follows (history.enter exchange message) work accepted := by
  simp only [History.enter]
  split
  · exact follows
  · exact ⟨follows.accounted, follows.once,
      fun offer isOffer => (follows.covered offer isOffer).append _,
      fun delivery isDue => (follows.due delivery isDue).append _⟩

omit [Message μ] in
theorem skip (follows : Follows history work accepted) :
    Follows { history with attachments := history.attachments + 1 } work accepted :=
  ⟨follows.accounted, follows.once, follows.covered, follows.due⟩

omit [Message μ] in
theorem leave (follows : Follows history work accepted) (id : ReplicaId) :
    Follows (history.leave id) work accepted :=
  ⟨follows.accounted, follows.once, follows.covered, follows.due⟩

end Follows

end History

/-! ## Chronicles -/

namespace Run

variable {μ ε : Type} [Message μ]

def work (run : Run μ ε) : List (Delivery μ ε) := run.cycle.elim [] Cycle.work

def accepted (run : Run μ ε) : List (Nat × ReplicaId) := run.cycle.elim [] Cycle.accepted

end Run

namespace Chronicle

variable {μ ε : Type} [Message μ] {chronicle : Chronicle μ ε}

/-- The history is kept: the exchange goes with it, and so does the cycle under way. -/
structure Kept (chronicle : Chronicle μ ε) : Prop where
  tallies : chronicle.history.Tallies chronicle.run.exchange
  follows : chronicle.history.Follows chronicle.run.work chronicle.run.accepted

theorem Kept.act [EquivBEq (Message.Key μ)] (kept : chronicle.Kept) (act : Act μ ε) :
    (chronicle.act act).Kept := by
  obtain ⟨⟨exchange, cycle⟩, history⟩ := chronicle
  obtain ⟨tallies, follows⟩ := kept
  cases act with
  | attach id endpoint =>
      simp only [Chronicle.act, Act.numbered, Run.act, History.note]
      split
      next exchange attached => exact ⟨tallies.attach attached, follows.skip⟩
      next => exact ⟨tallies.skip, follows.skip⟩
  | detach id =>
      simp only [Chronicle.act, Act.numbered, Run.act, History.note]
      split
      next => exact ⟨tallies.detach id, follows.leave id⟩
      next absent =>
        simp only [Exchange.detach, absent]
        exact ⟨tallies, follows⟩
  | publish message =>
      cases published : exchange.publish message with
      | ok next =>
          simp only [Chronicle.act, Act.numbered, Run.act, History.note, published]
          exact ⟨tallies.publish published, follows.enter exchange message⟩
      | error error =>
          simp only [Chronicle.act, Act.numbered, Run.act, History.note, published]
          exact ⟨tallies, follows⟩
  | shutDown => exact ⟨tallies.close, follows⟩
  | collect =>
      cases cycle with
      | none => exact ⟨tallies, follows.collect tallies⟩
      | some cycle => exact ⟨tallies, follows⟩
  | offer isAccepted =>
      cases cycle with
      | none => exact ⟨tallies, follows⟩
      | some cycle =>
          obtain ⟨work, accepted⟩ := cycle
          cases work with
          | nil => exact ⟨tallies, follows⟩
          | cons delivery later =>
              -- The books say nothing of offers, but for those that are recorded.
              exact ⟨{ tallies with }, follows.offer isAccepted⟩
  | record =>
      cases cycle with
      | none => exact ⟨tallies, follows⟩
      | some cycle =>
          obtain ⟨work, accepted⟩ := cycle
          cases work with
          | nil => exact ⟨tallies.acknowledge follows.published, follows.record⟩
          | cons delivery later => exact ⟨tallies, follows⟩

theorem Kept.foldl [EquivBEq (Message.Key μ)] (kept : chronicle.Kept) (acts : List (Act μ ε)) :
    (acts.foldl Chronicle.act chronicle).Kept := by
  induction acts generalizing chronicle with
  | nil => exact kept
  | cons first later ih => exact ih (kept.act first)

theorem kept_after [EquivBEq (Message.Key μ)] (acts : List (Act μ ε)) : (after acts).Kept :=
  Kept.foldl ⟨History.tallies_empty, History.follows_empty⟩ acts

/-- What settles the last that a message is owed releases it, and frees its key. -/
theorem Kept.released [EquivBEq (Message.Key μ)] (kept : chronicle.Kept) (act : Act μ ε)
    {publication : Publication μ ε} (isPublished : publication ∈ chronicle.history.publications)
    (outstanding : chronicle.history.Outstanding publication)
    (settled : ¬ (chronicle.act act).history.Outstanding publication) :
    (∀ pending ∈ (chronicle.act act).run.exchange.pending,
        pending.number ≠ publication.number) ∧
      ∀ taken ∈ (chronicle.act act).run.exchange.reserved,
        (taken == Message.key publication.message) = false := by
  have later := (kept.act act).tallies
  rcases chronicle.history.note_cases chronicle.run act with ⟨same, fewer⟩ | more
  · constructor
    · intro pending isPending sameNumber
      obtain ⟨other, isOther, numbered, _, stays⟩ :=
        later.pending_iff.mp ⟨pending, isPending, rfl, rfl⟩
      have isEarlier : other ∈ chronicle.history.publications := same ▸ isOther
      have equal : other = publication := eq_of_measure_eq kept.tallies.numbered isEarlier
        isPublished (numbered.trans sameNumber)
      exact settled (equal ▸ stays)
    · intro taken isTaken
      refine Bool.eq_false_iff.mpr fun sameKey => ?_
      obtain ⟨other, isOther, stays, otherKey⟩ :=
        (later.reserved_iff _).mp ⟨taken, isTaken, sameKey⟩
      have isEarlier : other ∈ chronicle.history.publications := same ▸ isOther
      have equal : other = publication := kept.tallies.eq_of_key isEarlier (fewer other stays)
        isPublished outstanding otherKey
      exact settled (equal ▸ stays)
  · exact absurd (more publication outstanding) settled

end Chronicle

/-! ## Exactly once -/

/-- Messages are told apart by number. Every offer is of a message to an endpoint that was attached
when it was published, and so never to one that has been attached since, whose number is higher.
Each destination accepts a message at most once, and what is accepted is recorded at the end of the
cycle. A message is pending, and its key is taken, exactly as long as it is owed to somebody; the
act that settles the last of it releases it. -/
structure DeliversOnce {μ ε : Type} [Message μ] (chronicle : Chronicle μ ε) : Prop where
  numbered : chronicle.history.publications.Pairwise fun earlier later =>
    earlier.number < later.number
  addressed : ∀ offer ∈ chronicle.history.offers,
    ∃ publication ∈ chronicle.history.publications, publication.number = offer.1.number ∧
      publication.message = offer.1.message ∧
      publication.destinations.get? offer.1.destination = some offer.1.endpoint ∧
      offer.1.endpoint.number < publication.attachments
  since : ∀ publication ∈ chronicle.history.publications,
    publication.attachments ≤ chronicle.history.attachments
  once : chronicle.history.accepted.Nodup
  accounted : chronicle.history.accepted = chronicle.history.recorded ++ chronicle.run.accepted
  pending : ∀ number message,
    (∃ pending ∈ chronicle.run.exchange.pending,
        pending.number = number ∧ pending.message = message) ↔
      ∃ publication ∈ chronicle.history.publications, publication.number = number ∧
        publication.message = message ∧ chronicle.history.Outstanding publication
  reserved : ∀ key, (∃ taken ∈ chronicle.run.exchange.reserved, (taken == key) = true) ↔
    ∃ publication ∈ chronicle.history.publications,
      chronicle.history.Outstanding publication ∧
        (Message.key publication.message == key) = true
  hasPendingFrom : ∀ origin, chronicle.run.exchange.hasPendingFrom origin = true ↔
    ∃ publication ∈ chronicle.history.publications,
      chronicle.history.Outstanding publication ∧ Message.origin publication.message = origin
  released : ∀ act, ∀ publication ∈ chronicle.history.publications,
    chronicle.history.Outstanding publication →
      ¬ (chronicle.act act).history.Outstanding publication →
        (∀ pending ∈ (chronicle.act act).run.exchange.pending,
            pending.number ≠ publication.number) ∧
          ∀ taken ∈ (chronicle.act act).run.exchange.reserved,
            (taken == Message.key publication.message) = false

/-- However an exchange is used, and whatever its endpoints accept, it delivers once. -/
theorem Chronicle.deliversOnce {μ ε : Type} [Message μ] [EquivBEq (Message.Key μ)]
    (acts : List (Act μ ε)) : DeliversOnce (Chronicle.after acts) := by
  have kept : (Chronicle.after acts).Kept := Chronicle.kept_after acts
  have ⟨tallies, follows⟩ := kept
  refine ⟨tallies.numbered, ?_, tallies.since, (List.nodup_append.mp follows.once).1,
    follows.accounted, fun _ _ => tallies.pending_iff, tallies.reserved_iff,
    tallies.hasPendingFrom_iff, fun act _ => kept.released act⟩
  intro offer isOffer
  obtain ⟨publication, isPublished, numbered, same, isFor⟩ := follows.covered offer isOffer
  exact ⟨publication, isPublished, numbered, same, isFor,
    tallies.earlier publication isPublished _ _ isFor⟩

/-- One destination leaves during a cycle, and another endpoint takes its identifier. What was
collected before is accepted by the endpoint that has left; the message is then released, although
the newcomer was offered nothing. -/
theorem newcomer_is_passed_over :
    ∃ chronicle : Chronicle (Snapshot Nat) Unit,
      chronicle.history.offers.map (fun offer => (offer.1.destination, offer.1.endpoint.number)) =
          [(⟨1⟩, 0), (⟨2⟩, 1)] ∧
        (chronicle.run.exchange.endpoints.get? ⟨2⟩).map Attachment.number = some 3 ∧
        chronicle.run.exchange.pending.length = 0 ∧ DeliversOnce chronicle :=
  ⟨Chronicle.after [.attach ⟨1⟩ (), .attach ⟨2⟩ (), .attach ⟨3⟩ (), .publish ⟨⟨3⟩, .empty, 7⟩,
    .collect, .offer true, .detach ⟨2⟩, .attach ⟨2⟩ (), .detach ⟨3⟩, .offer true, .record],
    rfl, rfl, rfl, Chronicle.deliversOnce _⟩

end Confluence.Exchange

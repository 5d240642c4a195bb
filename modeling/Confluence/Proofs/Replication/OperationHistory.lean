import Confluence.Proofs.Causality.VectorProperties
import Confluence.Replication.OperationReplica

/-!
Operation-based replicas against the list of all messages that were ever issued. Each origin
numbers its messages without gaps, and the version of a replica tells how many messages of each
origin its state reflects: the first so many, in their order. Both facts survive local submission
and any update with an issued message, whatever the operations do to the state.
-/

set_option autoImplicit false

namespace Confluence

variable {σ ω : Type}

def messagesFrom (origin : ReplicaId) (messages : List (OperationMessage ω)) :
    List (OperationMessage ω) :=
  messages.filter fun message => message.dot.id = origin

def replay [Operational σ ω] (start : σ) (messages : List (OperationMessage ω)) : σ :=
  messages.foldl (fun state message => Operational.apply state message.operation) start

theorem replay_append_singleton [Operational σ ω] (start : σ)
    (messages : List (OperationMessage ω)) (message : OperationMessage ω) :
    replay start (messages ++ [message]) =
      Operational.apply (replay start messages) message.operation := by
  simp [replay]

theorem messagesFrom_append_self (messages : List (OperationMessage ω))
    (message : OperationMessage ω) :
    messagesFrom message.dot.id (messages ++ [message]) =
      messagesFrom message.dot.id messages ++ [message] := by
  simp [messagesFrom]

theorem messagesFrom_append_of_ne (messages : List (OperationMessage ω))
    {message : OperationMessage ω} {origin : ReplicaId} (different : origin ≠ message.dot.id) :
    messagesFrom origin (messages ++ [message]) = messagesFrom origin messages := by
  simp [messagesFrom, different.symm]

theorem mem_messagesFrom {origin : ReplicaId} {messages : List (OperationMessage ω)}
    {message : OperationMessage ω} :
    message ∈ messagesFrom origin messages ↔ message ∈ messages ∧ message.dot.id = origin := by
  simp [messagesFrom]

/-- Every origin has numbered its messages from one without gaps, so no dot occurs twice. -/
structure Numbered (issued : List (OperationMessage ω)) : Prop where
  consecutive : ∀ origin, (messagesFrom origin issued).map (·.dot.clock.value) =
    List.range' 1 (messagesFrom origin issued).length
  distinct : (issued.map (·.dot)).Nodup

theorem numbered_nil : Numbered ([] : List (OperationMessage ω)) where
  consecutive _ := rfl
  distinct := List.nodup_nil

theorem Numbered.clock_of_getElem? {issued : List (OperationMessage ω)}
    (numbered : Numbered issued) {origin : ReplicaId} {place : Nat} {message : OperationMessage ω}
    (found : (messagesFrom origin issued)[place]? = some message) :
    message.dot.clock.value = place + 1 := by
  obtain ⟨bound, _⟩ := List.getElem?_eq_some_iff.mp found
  have numbers := congrArg (·[place]?) (numbered.consecutive origin)
  simp only [List.getElem?_map, found, Option.map_some, List.getElem?_range' bound,
    Option.some.injEq] at numbers
  omega

theorem Numbered.getElem?_of_mem {issued : List (OperationMessage ω)}
    (numbered : Numbered issued) {message : OperationMessage ω} (isIssued : message ∈ issued) :
    ∃ place, (messagesFrom message.dot.id issued)[place]? = some message ∧
      message.dot.clock.value = place + 1 := by
  have own : message ∈ messagesFrom message.dot.id issued := mem_messagesFrom.mpr ⟨isIssued, rfl⟩
  obtain ⟨place, found⟩ := List.mem_iff_getElem?.mp own
  exact ⟨place, found, numbered.clock_of_getElem? found⟩

theorem Numbered.clock_le {issued : List (OperationMessage ω)} (numbered : Numbered issued)
    {message : OperationMessage ω} (isIssued : message ∈ issued) :
    message.dot.clock.value ≤ (messagesFrom message.dot.id issued).length := by
  obtain ⟨place, found, number⟩ := numbered.getElem?_of_mem isIssued
  obtain ⟨inside, _⟩ := List.getElem?_eq_some_iff.mp found
  omega

theorem Numbered.clock_pos {issued : List (OperationMessage ω)} (numbered : Numbered issued)
    {message : OperationMessage ω} (isIssued : message ∈ issued) :
    0 < message.dot.clock.value := by
  obtain ⟨place, _, number⟩ := numbered.getElem?_of_mem isIssued
  omega

theorem Numbered.exists_of_le {issued : List (OperationMessage ω)} (numbered : Numbered issued)
    {origin : ReplicaId} {number : Nat} (positive : 0 < number)
    (bounded : number ≤ (messagesFrom origin issued).length) :
    ∃ message ∈ issued, message.dot.id = origin ∧ message.dot.clock.value = number := by
  have isNumber : number ∈ (messagesFrom origin issued).map (·.dot.clock.value) := by
    rw [numbered.consecutive origin, List.mem_range'_1]
    omega
  obtain ⟨message, own, same⟩ := List.mem_map.mp isNumber
  obtain ⟨isIssued, from_origin⟩ := mem_messagesFrom.mp own
  exact ⟨message, isIssued, from_origin, same⟩

theorem Numbered.append {issued : List (OperationMessage ω)} (numbered : Numbered issued)
    {message : OperationMessage ω}
    (next : message.dot.clock.value = (messagesFrom message.dot.id issued).length + 1) :
    Numbered (issued ++ [message]) := by
  constructor
  · intro origin
    by_cases same : origin = message.dot.id
    · subst same
      rw [messagesFrom_append_self, List.map_append, numbered.consecutive]
      simp only [List.length_append, List.length_singleton, List.map_singleton, next,
        List.range'_concat]
      simp [Nat.add_comm]
    · rw [messagesFrom_append_of_ne _ same]
      exact numbered.consecutive origin
  · rw [List.map_append, List.map_singleton, List.nodup_append]
    refine ⟨numbered.distinct, by simp, ?_⟩
    rintro dot present added isNew rfl
    obtain ⟨earlier, isIssued, same⟩ := List.mem_map.mp present
    have earlierDot : earlier.dot = message.dot := same.trans (List.mem_singleton.mp isNew)
    have bounded := numbered.clock_le isIssued
    rw [earlierDot] at bounded
    omega

namespace OperationReplica

variable [Operational σ ω]

/-! ## What one call does -/

theorem submit_eq_ok {replica changed : OperationReplica σ} {operation : ω}
    {message : OperationMessage ω} (done : replica.submit operation = .ok (changed, message)) :
    ∃ vector, replica.version.increment replica.history.owner = .ok vector ∧
      changed = { replica with
        state := Operational.apply replica.state operation
        history := ⟨replica.history.owner, vector⟩ } ∧
      message = ⟨vector.dot replica.history.owner, operation⟩ := by
  unfold submit at done
  cases prepared : Operational.prepare replica.state operation with
  | error error =>
      rw [prepared] at done
      cases done
  | ok checked =>
      cases counted : replica.history.vector.increment replica.history.owner with
      | error error =>
          simp [prepared, OwnedVector.increment, counted, bind, Except.bind, Except.map] at done
      | ok vector =>
          simp only [prepared, OwnedVector.increment, counted, bind, Except.bind, Except.map,
            Except.ok.injEq, Prod.mk.injEq] at done
          obtain ⟨rfl, rfl⟩ := done
          exact ⟨vector, counted, rfl, rfl⟩

variable {replica : OperationReplica σ} {message : OperationMessage ω}

theorem update_of_next (cumulative : replica.version.isDotted = false)
    (next : message.dot.clock.value = replica.version.get message.dot.id + 1) :
    replica.update message = .ok { replica with
      state := Operational.apply replica.state message.operation
      history := replica.history.absorb message.version } := by
  unfold update
  rw [OperationMessage.version, if_pos ((VersionVector.precedes_toVector_iff cumulative _).mpr next)]

theorem update_of_seen (cumulative : replica.version.isDotted = false)
    (seen : message.dot.clock.value ≤ replica.version.get message.dot.id) :
    replica.update message = .ok replica := by
  unfold update
  rw [OperationMessage.version, if_neg, if_pos]
  · exact (VersionVector.dominates_toVector_iff cumulative _).mpr seen
  · rw [VersionVector.precedes_toVector_iff cumulative]
    omega

theorem update_of_early (cumulative : replica.version.isDotted = false)
    (early : replica.version.get message.dot.id + 1 < message.dot.clock.value) :
    replica.update message = .error (.outOfOrder message.dot.id
      (replica.version.get message.dot.id + 1) message.dot.clock.value) := by
  have fits : replica.version.get message.dot.id + 1 < Word.size 64 :=
    Nat.lt_trans early message.dot.clock.value_lt
  unfold update
  rw [OperationMessage.version, if_neg, if_neg]
  · simp only [Message.origin, Message.rank, Word.saturate_eq_self fits]
  · rw [VersionVector.dominates_toVector_iff cumulative]
    omega
  · rw [VersionVector.precedes_toVector_iff cumulative]
    omega

theorem update_cases (cumulative : replica.version.isDotted = false)
    (message : OperationMessage ω) :
    (message.dot.clock.value ≤ replica.version.get message.dot.id ∧
      Updatable.update replica message = (.ok (), replica)) ∨
    (message.dot.clock.value = replica.version.get message.dot.id + 1 ∧
      Updatable.update replica message = (.ok (), { replica with
        state := Operational.apply replica.state message.operation
        history := replica.history.absorb message.version })) ∨
    (replica.version.get message.dot.id + 1 < message.dot.clock.value ∧
      Updatable.update replica message = (.error (.outOfOrder message.dot.id
        (replica.version.get message.dot.id + 1) message.dot.clock.value), replica)) := by
  rcases Nat.lt_trichotomy message.dot.clock.value (replica.version.get message.dot.id + 1) with
    seen | next | early
  · refine .inl ⟨Nat.le_of_lt_succ seen, ?_⟩
    simp only [Updatable.update, update_of_seen cumulative (Nat.le_of_lt_succ seen)]
  · refine .inr (.inl ⟨next, ?_⟩)
    simp only [Updatable.update, update_of_next cumulative next]
  · refine .inr (.inr ⟨early, ?_⟩)
    simp only [Updatable.update, update_of_early cumulative early]

theorem update_id (cumulative : replica.version.isDotted = false)
    (message : OperationMessage ω) : (Updatable.update replica message).2.id = replica.id := by
  rcases update_cases cumulative message with ⟨_, kept⟩ | ⟨_, applied⟩ | ⟨_, kept⟩
  · rw [kept]
  · rw [applied]
  · rw [kept]

theorem get_version_update_of_ne (cumulative : replica.version.isDotted = false)
    {message : OperationMessage ω} {origin : ReplicaId} (different : origin ≠ message.dot.id) :
    (Updatable.update replica message).2.version.get origin = replica.version.get origin := by
  rcases update_cases cumulative message with ⟨_, kept⟩ | ⟨_, applied⟩ | ⟨_, kept⟩
  · rw [kept]
  · rw [applied]
    exact VersionVector.get_absorb_toVector_of_ne cumulative different
  · rw [kept]

/-! ## What a replica reflects -/

/-- The state of the replica is what the first messages of every origin make of `start`, as many
of each origin as the version says. Between origins they may stand in any order. -/
structure Reflects (start : σ) (issued : List (OperationMessage ω))
    (replica : OperationReplica σ) : Prop where
  owned : replica.history.owner = replica.id
  canonical : replica.version.Canonical
  covered : ∀ origin, replica.version.get origin ≤ (messagesFrom origin issued).length
  applied : ∃ applied, replica.state = replay start applied ∧
    ∀ origin, messagesFrom origin applied =
      (messagesFrom origin issued).take (replica.version.get origin)

theorem reflects_ofState (id : ReplicaId) (start : σ)
    (issued : List (OperationMessage ω)) : Reflects start issued (ofState id ∅ start) where
  owned := rfl
  canonical := VersionVector.canonical_empty
  covered _ := Nat.zero_le _
  applied := ⟨[], rfl, fun _ => by simp [messagesFrom, version, ofState]⟩

variable {start : σ} {issued : List (OperationMessage ω)}

theorem Reflects.issue (reflects : Reflects start issued replica)
    (message : OperationMessage ω) : Reflects start (issued ++ [message]) replica := by
  obtain ⟨applied, state, taken⟩ := reflects.applied
  refine ⟨reflects.owned, reflects.canonical, ?_, applied, state, ?_⟩
  · intro origin
    by_cases same : origin = message.dot.id
    · subst same
      rw [messagesFrom_append_self, List.length_append]
      exact Nat.le_add_right_of_le (reflects.covered _)
    · rw [messagesFrom_append_of_ne _ same]
      exact reflects.covered origin
  · intro origin
    rw [taken origin]
    by_cases same : origin = message.dot.id
    · subst same
      rw [messagesFrom_append_self, List.take_append_of_le_length (reflects.covered _)]
    · rw [messagesFrom_append_of_ne _ same]

theorem Reflects.apply {changed : OperationReplica σ} (reflects : Reflects start issued replica)
    (message : OperationMessage ω) (owned : changed.history.owner = changed.id)
    (canonical : changed.version.Canonical)
    (next : (messagesFrom message.dot.id issued)[replica.version.get message.dot.id]? =
      some message)
    (state : changed.state = Operational.apply replica.state message.operation)
    (advanced : changed.version.get message.dot.id = replica.version.get message.dot.id + 1)
    (others : ∀ origin, origin ≠ message.dot.id →
      changed.version.get origin = replica.version.get origin) :
    Reflects start issued changed := by
  obtain ⟨applied, replayed, taken⟩ := reflects.applied
  refine ⟨owned, canonical, ?_, applied ++ [message], ?_, ?_⟩
  · intro origin
    by_cases same : origin = message.dot.id
    · subst same
      obtain ⟨inside, _⟩ := List.getElem?_eq_some_iff.mp next
      rw [advanced]
      exact inside
    · rw [others origin same]
      exact reflects.covered origin
  · rw [state, replayed, replay_append_singleton]
  · intro origin
    by_cases same : origin = message.dot.id
    · subst same
      rw [messagesFrom_append_self, taken, advanced, List.take_add_one, next, Option.toList_some]
    · rw [messagesFrom_append_of_ne _ same, taken, others origin same]

theorem Reflects.update (reflects : Reflects start issued replica) (numbered : Numbered issued)
    (isIssued : message ∈ issued) :
    Reflects start issued (Updatable.update replica message).2 := by
  have cumulative := reflects.canonical.cumulative
  rcases update_cases cumulative message with ⟨_, kept⟩ | ⟨next, applied⟩ | ⟨_, kept⟩
  · rw [kept]
    exact reflects
  · rw [applied]
    -- Messages of one origin stand in the history in the order of their numbers.
    obtain ⟨place, found, number⟩ := numbered.getElem?_of_mem isIssued
    have samePlace : place = replica.version.get message.dot.id := by omega
    refine reflects.apply message reflects.owned
      (reflects.canonical.absorb_toVector (numbered.clock_pos isIssued))
      (samePlace ▸ found) rfl ?_ ?_
    · refine (VersionVector.get_absorb_toVector_self cumulative message.dot).trans ?_
      omega
    · intro origin different
      exact VersionVector.get_absorb_toVector_of_ne cumulative different
  · rw [kept]
    exact reflects

/-- A replica that has issued all messages that bear its identifier numbers the next one right, and
reflects it. -/
theorem Reflects.submit {changed : OperationReplica σ} {operation : ω}
    (reflects : Reflects start issued replica) (numbered : Numbered issued)
    (current : replica.version.get replica.id = (messagesFrom replica.id issued).length)
    (done : replica.submit operation = .ok (changed, message)) :
    Numbered (issued ++ [message]) ∧ Reflects start (issued ++ [message]) changed ∧
      message.dot.id = replica.id ∧ changed.id = replica.id ∧
      changed.version.get changed.id =
        (messagesFrom changed.id (issued ++ [message])).length := by
  obtain ⟨vector, counted, rfl, rfl⟩ := submit_eq_ok done
  rw [reflects.owned] at counted ⊢
  have advanced : vector.get replica.id = replica.version.get replica.id + 1 :=
    VersionVector.get_increment_self counted
  have following : (vector.dot replica.id).clock.value =
      (messagesFrom replica.id issued).length + 1 := advanced.trans (by rw [current])
  refine ⟨numbered.append following, ?_, rfl, rfl, ?_⟩
  · refine (reflects.issue _).apply ⟨vector.dot replica.id, operation⟩ rfl
      (reflects.canonical.increment counted) ?_ rfl advanced ?_
    · have place := messagesFrom_append_self issued ⟨vector.dot replica.id, operation⟩
      simp only [VersionVector.dot] at place ⊢
      rw [place, current, List.getElem?_append_right (Nat.le_refl _), Nat.sub_self,
        List.getElem?_cons_zero]
    · intro origin different
      exact VersionVector.get_increment_of_ne counted different
  · have place := messagesFrom_append_self issued ⟨vector.dot replica.id, operation⟩
    simp only [VersionVector.dot] at place ⊢
    rw [place, List.length_append, List.length_singleton, ← current]
    exact advanced

/-! ## Replicas that account for their own messages -/

/-- The replica bears the identifier `id`, has itself issued all messages of that origin, and
reflects what its version covers. -/
structure Faithful (start : σ) (id : ReplicaId) (issued : List (OperationMessage ω))
    (replica : OperationReplica σ) : Prop where
  named : replica.id = id
  current : replica.version.get id = (messagesFrom id issued).length
  reflects : Reflects start issued replica

theorem faithful_ofState (id : ReplicaId) (start : σ) :
    Faithful start id [] (ofState id ∅ start) where
  named := rfl
  current := rfl
  reflects := reflects_ofState id start []

namespace Faithful

variable {id : ReplicaId}

theorem issue (faithful : Faithful start id issued replica) (elsewhere : id ≠ message.dot.id) :
    Faithful start id (issued ++ [message]) replica := by
  refine ⟨faithful.named, ?_, faithful.reflects.issue message⟩
  rw [messagesFrom_append_of_ne _ elsewhere]
  exact faithful.current

theorem submit {changed : OperationReplica σ} {operation : ω}
    (faithful : Faithful start id issued replica) (numbered : Numbered issued)
    (done : replica.submit operation = .ok (changed, message)) :
    Numbered (issued ++ [message]) ∧ message.dot.id = id ∧
      Faithful start id (issued ++ [message]) changed := by
  have named := faithful.named
  subst named
  obtain ⟨stillNumbered, reflects, origin, sameId, current⟩ :=
    faithful.reflects.submit numbered faithful.current done
  rw [sameId] at current
  exact ⟨stillNumbered, origin, sameId, current, reflects⟩

/-- A replica has seen all its own messages, so none of them changes it. -/
theorem update (faithful : Faithful start id issued replica) (numbered : Numbered issued)
    (isIssued : message ∈ issued) :
    Faithful start id issued (Updatable.update replica message).2 := by
  have cumulative := faithful.reflects.canonical.cumulative
  refine ⟨(update_id cumulative message).trans faithful.named, ?_,
    faithful.reflects.update numbered isIssued⟩
  have current := faithful.current
  by_cases own : id = message.dot.id
  · subst own
    have seen := numbered.clock_le isIssued
    rw [← current] at seen
    simp only [Updatable.update, update_of_seen cumulative seen]
    exact current
  · rw [get_version_update_of_ne cumulative own]
    exact current

end Faithful

end OperationReplica

end Confluence

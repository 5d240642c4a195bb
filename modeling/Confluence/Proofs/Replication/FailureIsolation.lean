import Confluence.Proofs.Replication.DeliveryHistory
import Confluence.Proofs.Replication.EndpointView

/-!
What an identifier is offered does not depend on its neighbours: whatever else is pending, for whom,
and under which numbers, the exchange offers it what its view says, in that order.

Main statement: of two runs that are the same in what concerns an identifier, and in which it gives
the same answers, it accepts the same messages in the same order; and if it never refuses, it has
accepted, after a cycle, just what was published for it before that cycle began.
-/

set_option autoImplicit false

namespace Confluence.Exchange

/-! ## Runs -/

namespace Chronicle

variable {μ ε : Type} [Message μ]

/-- What an identifier was offered, and how it answered. -/
def offersTo (chronicle : Chronicle μ ε) (id : ReplicaId) : List (μ × Bool) :=
  (chronicle.history.offers.filter fun offer => offer.1.destination == id).map fun offer =>
    (offer.1.message, offer.2)

def acceptedBy (chronicle : Chronicle μ ε) (id : ReplicaId) : List μ :=
  acceptedOf (chronicle.offersTo id)

/-- What an act is for an identifier, if anything. A cycle begins only when none is under way, and
ends only when it has handed out everything. -/
def mark? (chronicle : Chronicle μ ε) (id : ReplicaId) : Act μ ε → Option (Mark μ)
  | .attach other _ => if other = id then some .attach else none
  | .detach other => if other = id then some .detach else none
  | .publish message => some (.publish message)
  | .collect =>
    match chronicle.run.cycle with
    | none => some .start
    | some _ => none
  | .record =>
    match chronicle.run.cycle with
    | some ⟨[], _⟩ => some .finish
    | _ => none
  | .offer _ => none
  | .shutDown => none

/-- The exchange is not shut down, and the identifier answers as its policy tells. -/
def admits (chronicle : Chronicle μ ε) (id : ReplicaId) (policy : Policy μ) : Act μ ε → Bool
  | .shutDown => false
  | .offer isAccepted =>
    match chronicle.run.work with
    | delivery :: _ =>
      delivery.destination != id || isAccepted == policy (chronicle.offersTo id) delivery.message
    | [] => true
  | _ => true

end Chronicle

/-- The runs of an exchange that is not shut down, and in which an identifier answers by a policy,
with what concerns the identifier. All other endpoints come, go and answer as they like. -/
inductive Course {μ ε : Type} [Message μ] (id : ReplicaId) (policy : Policy μ) :
    Chronicle μ ε → List (Mark μ) → Prop where
  | start : Course id policy (.after []) []
  | step {chronicle schedule} (act : Act μ ε) : Course id policy chronicle schedule →
      chronicle.admits id policy act = true →
      Course id policy (chronicle.act act) (schedule ++ (chronicle.mark? id act).toList)

namespace Chronicle

variable {μ ε : Type} [Message μ]

/-- What acts are for an identifier. -/
def schedule (id : ReplicaId) : Chronicle μ ε → List (Act μ ε) → List (Mark μ)
  | _, [] => []
  | chronicle, act :: later =>
    (chronicle.mark? id act).toList ++ (chronicle.act act).schedule id later

def admitsAll (id : ReplicaId) (policy : Policy μ) : Chronicle μ ε → List (Act μ ε) → Bool
  | _, [] => true
  | chronicle, act :: later =>
    chronicle.admits id policy act && (chronicle.act act).admitsAll id policy later

end Chronicle

theorem Course.perform {μ ε : Type} [Message μ] {id : ReplicaId} {policy : Policy μ}
    {chronicle : Chronicle μ ε} {schedule : List (Mark μ)}
    (course : Course id policy chronicle schedule) (acts : List (Act μ ε))
    (admitted : chronicle.admitsAll id policy acts = true) :
    Course id policy (acts.foldl Chronicle.act chronicle)
      (schedule ++ chronicle.schedule id acts) := by
  induction acts generalizing chronicle schedule with
  | nil => exact (List.append_nil schedule).symm ▸ course
  | cons first later ih =>
      obtain ⟨isFirst, areLater⟩ := Bool.and_eq_true_iff.mp admitted
      have performed := ih (course.step first isFirst) areLater
      rw [List.append_assoc] at performed
      exact performed

/-! ## The exchange shows the view -/

variable {μ ε : Type} [Message μ]

def Chronicle.outlook (chronicle : Chronicle μ ε) (id : ReplicaId) :
    Outlook μ (Attachment ε) :=
  ⟨chronicle.run.exchange.awaiting id, chronicle.run.exchange.nextNumber, chronicle.run.cycle,
    chronicle.offersTo id⟩

/-- No two publications have the same key. -/
def DistinctKeys (schedule : List (Mark μ)) : Prop :=
  (published schedule).Pairwise fun earlier later =>
    (Message.key earlier == Message.key later) = false

instance (schedule : List (Mark μ)) : Decidable (DistinctKeys schedule) :=
  inferInstanceAs (Decidable (List.Pairwise _ _))

/-- The books of the exchange agree, nothing is pending but what was published, and the view that
is computed from what concerns the identifier shows what there is for it. -/
structure Sound (id : ReplicaId) (policy : Policy μ) (chronicle : Chronicle μ ε)
    (schedule : List (Mark μ)) : Prop where
  balanced : chronicle.run.exchange.Balanced
  isOpen : chronicle.run.exchange.isClosed = false
  published : ∀ pending ∈ chronicle.run.exchange.pending, pending.message ∈ published schedule
  isAttached : (chronicle.run.exchange.endpoints.get? id).isSome =
    (View.after id policy schedule).isAttached
  mirrors : Mirrors id policy (View.after id policy schedule) (chronicle.outlook id)

/-- While an exchange is open, whoever attaches is attached afterwards. -/
theorem Run.act_attach {run : Run μ ε} (isOpen : run.exchange.isClosed = false) (id : ReplicaId)
    (endpoint : ε) :
    ∃ endpoints, run.act (.attach id endpoint) =
        { run with exchange := { run.exchange with endpoints } } ∧
      ∀ query, (endpoints.get? query).isSome =
        (decide (query = id) || (run.exchange.endpoints.get? query).isSome) := by
  unfold Run.act Exchange.attach
  rw [isOpen]
  cases present : run.exchange.endpoints.contains id with
  | true =>
      refine ⟨run.exchange.endpoints, by simp [present], fun query => ?_⟩
      by_cases same : query = id
      · rw [same]
        simpa [OrderedMap.contains] using present
      · simp [same]
  | false =>
      refine ⟨run.exchange.endpoints.insert id endpoint, by simp [present, isOpen],
        fun query => ?_⟩
      rw [OrderedMap.get?_insert]
      by_cases same : query = id
      · simp [same]
      · simp [same]

/-- Only offers add to what was offered. -/
theorem Chronicle.offersTo_act {chronicle : Chronicle μ ε} {id : ReplicaId} {act : Act μ ε}
    (noOffer : ∀ isAccepted, act ≠ .offer isAccepted) :
    (chronicle.act act).offersTo id = chronicle.offersTo id := by
  have same : (chronicle.history.note chronicle.run act).offers = chronicle.history.offers := by
    cases act with
    | attach => rfl
    | detach =>
        simp only [History.note]
        split <;> rfl
    | publish =>
        simp only [History.note, History.enter]
        split
        · split <;> rfl
        · rfl
    | shutDown => rfl
    | collect => rfl
    | offer isAccepted => exact absurd rfl (noOffer isAccepted)
    | record =>
        simp only [History.note]
        split <;> rfl
  exact congrArg (fun offers : List (Delivery μ (Attachment ε) × Bool) =>
    (offers.filter fun offer => offer.1.destination == id).map fun offer =>
      (offer.1.message, offer.2)) same

namespace Sound

variable [EquivBEq (Message.Key μ)] {id : ReplicaId} {policy : Policy μ}
  {chronicle : Chronicle μ ε} {schedule : List (Mark μ)}

omit [EquivBEq (Message.Key μ)] in
/-- What was published stays published. -/
theorem published_later (sound : Sound id policy chronicle schedule) (marks : List (Mark μ)) :
    ∀ pending ∈ chronicle.run.exchange.pending,
      pending.message ∈ Exchange.published (schedule ++ marks) := by
  intro pending isPending
  rw [published_append]
  exact List.mem_append_left _ (sound.published pending isPending)

theorem attach (sound : Sound id policy chronicle schedule) (other : ReplicaId) (endpoint : ε) :
    Sound id policy (chronicle.act (.attach other endpoint))
      (schedule ++ if other = id then [.attach] else []) := by
  have balanced := (Run.moves_act chronicle.run
    (.attach other ⟨chronicle.history.attachments, endpoint⟩)).balanced sound.balanced
  obtain ⟨endpoints, acted, attached⟩ :=
    Run.act_attach sound.isOpen other ⟨chronicle.history.attachments, endpoint⟩
  have acted' : chronicle.act (.attach other endpoint) =
      ⟨{ chronicle.run with exchange := { chronicle.run.exchange with endpoints } },
        { chronicle.history with attachments := chronicle.history.attachments + 1 }⟩ :=
    congrArg (Chronicle.mk · _) acted
  rw [acted] at balanced
  rw [acted']
  by_cases same : other = id
  · rw [if_pos same]
    refine ⟨balanced, sound.isOpen, sound.published_later _, ?_, ?_⟩
    · simp [View.after_append_singleton, attached, same, View.advance]
    · rw [View.after_append_singleton]
      exact sound.mirrors.attach
  · rw [if_neg same, List.append_nil]
    refine { sound with balanced, isAttached := ?_ }
    have elsewhere : decide (id = other) = false := decide_eq_false (Ne.symm same)
    rw [attached, elsewhere, Bool.false_or]
    exact sound.isAttached

theorem detach (sound : Sound id policy chronicle schedule) (other : ReplicaId) :
    Sound id policy (chronicle.act (.detach other) : Chronicle μ ε)
      (schedule ++ if other = id then [.detach] else []) := by
  have balanced := sound.balanced.detach other
  have isOpen : (chronicle.run.exchange.detach other).isClosed = false := by
    unfold Exchange.detach
    split <;> exact sound.isOpen
  have sameNumber : (chronicle.run.exchange.detach other).nextNumber =
      chronicle.run.exchange.nextNumber := by
    unfold Exchange.detach
    split <;> rfl
  have published : ∀ marks, ∀ pending ∈ (chronicle.run.exchange.detach other).pending,
      pending.message ∈ Exchange.published (schedule ++ marks) := by
    intro marks pending isPending
    obtain ⟨somebody, awaits⟩ := balanced.awaited pending isPending
    obtain ⟨⟨earlier, wasPending, _, sameMessage, _⟩, _⟩ :=
      (sound.balanced.awaits_detach other).mp ⟨pending, isPending, rfl, rfl, awaits⟩
    exact sameMessage ▸ sound.published_later marks earlier wasPending
  have outlook : (chronicle.act (.detach other)).outlook id =
      { chronicle.outlook id with
        awaiting := if other = id then [] else (chronicle.outlook id).awaiting } := by
    have offers : (chronicle.act (.detach other)).offersTo id = chronicle.offersTo id :=
      Chronicle.offersTo_act (by simp)
    simp only [Chronicle.outlook, offers, ← sound.balanced.awaiting_detach, ← sameNumber]
    rfl
  have attached : ((chronicle.act (.detach other)).run.exchange.endpoints.get? id).isSome =
      if id = other then false else (View.after id policy schedule).isAttached := by
    refine (congrArg Option.isSome (endpoints_detach chronicle.run.exchange other id)).trans ?_
    split
    · rfl
    · exact sound.isAttached
  by_cases same : other = id
  · rw [if_pos same]
    refine ⟨balanced, isOpen, published _, ?_, ?_⟩
    · rw [attached, if_pos same.symm, View.after_append_singleton]
      rfl
    · rw [View.after_append_singleton, outlook, if_pos same]
      exact sound.mirrors.detach
  · rw [if_neg same]
    refine ⟨balanced, isOpen, published [], ?_, ?_⟩
    · rw [attached, if_neg (Ne.symm same), List.append_nil]
    · rw [List.append_nil, outlook, if_neg same]
      exact sound.mirrors

omit [EquivBEq (Message.Key μ)] in
/-- The exchange takes a message whose key is new. -/
theorem publish_ok (sound : Sound id policy chronicle schedule) {message : μ}
    (distinct : DistinctKeys (schedule ++ [.publish message])) :
    ∃ next, chronicle.run.exchange.publish message = .ok next := by
  refine Exchange.publish_ok sound.isOpen fun key isReserved => ?_
  obtain ⟨pending, isPending, rfl⟩ :=
    List.mem_map.mp (sound.balanced.reserved.mem_iff.mp isReserved)
  rw [DistinctKeys, published_append] at distinct
  exact (List.pairwise_append.mp distinct).2.2 _ (sound.published pending isPending) message
    (.head _)

theorem publish (sound : Sound id policy chronicle schedule) {message : μ}
    (distinct : DistinctKeys (schedule ++ [.publish message])) :
    Sound id policy (chronicle.act (.publish message) : Chronicle μ ε)
      (schedule ++ [.publish message]) := by
  obtain ⟨next, done⟩ := sound.publish_ok distinct
  have acted : (chronicle.act (.publish message)).run =
      { chronicle.run with exchange := next } := by
    simp only [Chronicle.act, Act.numbered, Run.act, done]
  have offers : (chronicle.act (.publish message)).offersTo id = chronicle.offersTo id :=
    Chronicle.offersTo_act (by simp)
  have balanced := sound.balanced.publish done
  have awaiting : next.awaiting id = _ := awaiting_publish done
  obtain ⟨sameEndpoints, sameClosed, grows, isPublished⟩ := publish_keeps done
  have attached : chronicle.run.exchange.endpoints.contains id =
      (View.after id policy schedule).isAttached := sound.isAttached
  rw [attached] at awaiting
  refine ⟨?_, ?_, ?_, ?_, ?_⟩
  · rw [acted]
    exact balanced
  · rw [acted]
    exact sameClosed.trans sound.isOpen
  · rw [acted]
    intro pending isPending
    rcases isPublished pending isPending with wasPending | same
    · exact sound.published_later _ pending wasPending
    · rw [published_append, same]
      exact List.mem_append_right _ (.head _)
  · rw [acted, View.after_append_singleton]
    simp only [sameEndpoints]
    exact sound.isAttached.trans (View.isAttached_advance _ _ (by simp) (by simp)).symm
  · rw [View.after_append_singleton, View.advance_publish]
    simp only [Chronicle.outlook, acted, offers, awaiting]
    refine sound.mirrors.publish grows fun isFor => ?_
    have isNew : (chronicle.run.exchange.nextNumber, message) ∈ next.awaiting id := by
      rw [awaiting, if_pos isFor]
      exact List.mem_append_right _ (.head _)
    exact balanced.awaiting_below _ isNew

omit [EquivBEq (Message.Key μ)] in
theorem collect (sound : Sound id policy chronicle schedule) (idle : chronicle.run.cycle = none) :
    Sound id policy (chronicle.act .collect : Chronicle μ ε) (schedule ++ [.start]) := by
  have acted : chronicle.act .collect =
      ⟨{ chronicle.run with cycle := some ⟨chronicle.run.exchange.deliveries, []⟩ },
        chronicle.history⟩ := by
    simp only [Chronicle.act, Act.numbered, Run.act, idle, History.note]
  have begun := sound.mirrors.start idle (sound.balanced.addressedTo_deliveries id)
    (sound.balanced.rising_awaiting id) sound.balanced.awaiting_below
  rw [acted]
  refine ⟨sound.balanced, sound.isOpen, sound.published_later _, ?_, ?_⟩
  · rw [View.after_append_singleton]
    exact sound.isAttached.trans (View.isAttached_advance _ _ (by simp) (by simp)).symm
  · rw [View.after_append_singleton]
    exact begun

omit [EquivBEq (Message.Key μ)] in
theorem offer (sound : Sound id policy chronicle schedule) {isAccepted : Bool}
    (admitted : chronicle.admits id policy (.offer isAccepted) = true) :
    Sound id policy (chronicle.act (.offer isAccepted)) schedule := by
  obtain ⟨⟨exchange, cycle⟩, history⟩ := chronicle
  match cycle with
  | none => exact sound
  | some ⟨[], accepted⟩ => exact sound
  | some ⟨delivery :: work, accepted⟩ =>
    have answers : delivery.destination = id → isAccepted =
        policy (Chronicle.offersTo ⟨⟨exchange, some ⟨delivery :: work, accepted⟩⟩, history⟩ id)
          delivery.message := by
      intro same
      simpa [Chronicle.admits, Run.work, same] using admitted
    have offered := sound.mirrors.offer rfl answers
    refine { sound with mirrors := ?_ }
    have offers : (Chronicle.act ⟨⟨exchange, some ⟨delivery :: work, accepted⟩⟩, history⟩
          (.offer isAccepted)).offersTo id =
        Chronicle.offersTo ⟨⟨exchange, some ⟨delivery :: work, accepted⟩⟩, history⟩ id ++
          if delivery.destination = id then [(delivery.message, isAccepted)] else [] := by
      simp only [Chronicle.offersTo, Chronicle.act, History.note, List.filter_append,
        List.map_append, List.filter_cons, List.filter_nil, beq_iff_eq]
      split <;> rfl
    simp only [Chronicle.outlook, offers]
    exact offered

theorem record (sound : Sound id policy chronicle schedule) {accepted : List (Nat × ReplicaId)}
    (done : chronicle.run.cycle = some ⟨[], accepted⟩) :
    Sound id policy (chronicle.act .record : Chronicle μ ε) (schedule ++ [.finish]) := by
  have acted : (chronicle.act .record).run =
      ⟨chronicle.run.exchange.acknowledge accepted, none⟩ := by
    simp only [Chronicle.act, Act.numbered, Run.act, done]
  have offers : (chronicle.act .record).offersTo id = chronicle.offersTo id :=
    Chronicle.offersTo_act (by simp)
  have balanced := sound.balanced.acknowledge accepted
  refine ⟨?_, ?_, ?_, ?_, ?_⟩
  · rw [acted]
    exact balanced
  · rw [acted]
    exact sound.isOpen
  · rw [acted]
    intro pending isPending
    obtain ⟨somebody, awaits⟩ := balanced.awaited pending isPending
    obtain ⟨⟨earlier, wasPending, _, sameMessage, _⟩, _⟩ :=
      (awaits_acknowledge accepted).mp ⟨pending, isPending, rfl, rfl, awaits⟩
    exact sameMessage ▸ sound.published_later _ earlier wasPending
  · rw [acted, View.after_append_singleton]
    exact sound.isAttached.trans (View.isAttached_advance _ _ (by simp) (by simp)).symm
  · rw [View.after_append_singleton]
    simp only [Chronicle.outlook, acted, offers, awaiting_acknowledge]
    exact sound.mirrors.finish done

theorem step (sound : Sound id policy chronicle schedule)
    {act : Act μ ε} (admitted : chronicle.admits id policy act = true)
    (distinct : DistinctKeys (schedule ++ (chronicle.mark? id act).toList)) :
    Sound id policy (chronicle.act act) (schedule ++ (chronicle.mark? id act).toList) := by
  have unmarked : ∀ {chronicle : Chronicle μ ε}, Sound id policy chronicle schedule →
      Sound id policy chronicle (schedule ++ []) :=
    fun sound => (List.append_nil schedule).symm ▸ sound
  cases act with
  | attach other endpoint =>
      have attached := sound.attach other endpoint
      simp only [Chronicle.mark?]
      split
      next same => simpa [same] using attached
      next different => simpa [different] using attached
  | detach other =>
      have detached := sound.detach other
      simp only [Chronicle.mark?]
      split
      next same => simpa [same] using detached
      next different => simpa [different] using detached
  | publish message => exact sound.publish distinct
  | shutDown => cases admitted
  | collect =>
      obtain ⟨⟨exchange, cycle⟩, history⟩ := chronicle
      match cycle with
      | none => exact sound.collect rfl
      | some cycle => exact unmarked sound
  | offer isAccepted => exact unmarked (sound.offer admitted)
  | record =>
      obtain ⟨⟨exchange, cycle⟩, history⟩ := chronicle
      match cycle with
      | none => exact unmarked sound
      | some ⟨delivery :: work, accepted⟩ => exact unmarked sound
      | some ⟨[], accepted⟩ => exact sound.record rfl

end Sound

theorem Course.sound [EquivBEq (Message.Key μ)] {id : ReplicaId} {policy : Policy μ}
    {chronicle : Chronicle μ ε} {schedule : List (Mark μ)}
    (course : Course id policy chronicle schedule) (distinct : DistinctKeys schedule) :
    Sound id policy chronicle schedule := by
  induction course with
  | start => exact ⟨balanced_empty, rfl, nofun, rfl, .idle rfl rfl rfl rfl⟩
  | step act course admitted ih =>
      have earlier : DistinctKeys _ := distinct.sublist
        ((List.sublist_append_left _ _).filterMap Mark.message?)
      exact (ih earlier).step admitted distinct

/-! ## Two runs -/

namespace Sound

variable {id : ReplicaId} {policy : Policy μ} {chronicle : Chronicle μ ε}
  {schedule : List (Mark μ)}

theorem round_eq_none_iff (sound : Sound id policy chronicle schedule) :
    chronicle.run.cycle = none ↔ (View.after id policy schedule).round = none := by
  cases sound.mirrors with
  | idle noRound noCycle _ _ => exact ⟨fun _ => noRound, fun _ => noCycle⟩
  | handing isRound isCycle _ =>
      have underway : chronicle.run.cycle ≠ none := fun idle => by cases idle.symm.trans isCycle
      have underway' : (View.after id policy schedule).round ≠ none :=
        fun idle => by cases idle.symm.trans isRound
      exact iff_of_false underway underway'

theorem offersTo_eq (sound : Sound id policy chronicle schedule)
    (idle : chronicle.run.cycle = none) :
    chronicle.offersTo id = (View.after id policy schedule).offers := by
  cases sound.mirrors with
  | idle _ _ _ offers => exact offers
  | handing _ isCycle _ => cases idle.symm.trans isCycle

theorem offersTo_prefix (sound : Sound id policy chronicle schedule) :
    chronicle.offersTo id <+: (View.after id policy schedule).foreseen policy := by
  cases sound.mirrors with
  | idle _ _ _ offers => exact ⟨_, congrArg (· ++ _) offers⟩
  | @handing round cycle answered newer isRound _ handing =>
      have due : (View.after id policy schedule).due =
          (answered.map fun answer => answer.1.2) ++ (addressedTo id cycle.work).map (·.2) := by
        have due := handing.due
        rw [List.map_append, List.map_map] at due
        rw [View.due, isRound]
        exact due
      rw [View.foreseen, due, Policy.answer_append, ← List.append_assoc, ← handing.answers]
      exact ⟨_, congrArg (· ++ _) handing.offers⟩

end Sound

/-- An identifier cannot tell two runs apart: it has accepted the same messages in the same order
whenever no cycle is under way, and otherwise in one run the first of those of the other. -/
structure Alike {ε ε' : Type} (id : ReplicaId) (first : Chronicle μ ε) (second : Chronicle μ ε') :
    Prop where
  together : first.run.cycle = none ↔ second.run.cycle = none
  same : first.run.cycle = none → first.acceptedBy id = second.acceptedBy id
  comparable : first.acceptedBy id <+: second.acceptedBy id ∨
    second.acceptedBy id <+: first.acceptedBy id

theorem Sound.alike {ε' : Type} {id : ReplicaId} {policy : Policy μ} {first : Chronicle μ ε}
    {second : Chronicle μ ε'} {schedule : List (Mark μ)} (one : Sound id policy first schedule)
    (other : Sound id policy second schedule) : Alike id first second where
  together := one.round_eq_none_iff.trans other.round_eq_none_iff.symm
  same idle := by
    have idle' := other.round_eq_none_iff.mpr (one.round_eq_none_iff.mp idle)
    exact congrArg acceptedOf ((one.offersTo_eq idle).trans (other.offersTo_eq idle').symm)
  comparable := by
    have accepts : ∀ {offers : List (μ × Bool)},
        offers <+: (View.after id policy schedule).foreseen policy →
          acceptedOf offers <+: acceptedOf ((View.after id policy schedule).foreseen policy) :=
      fun earlier => (earlier.filter _).map _
    exact List.prefix_or_prefix_of_prefix (accepts one.offersTo_prefix)
      (accepts other.offersTo_prefix)

/-! ## The order of publishing -/

theorem Chronicle.idle_of_start {chronicle : Chronicle μ ε} {id : ReplicaId} {act : Act μ ε}
    (marked : chronicle.mark? id act = some .start) : chronicle.run.cycle = none := by
  cases act with
  | attach other endpoint =>
      simp only [Chronicle.mark?] at marked
      split at marked <;> cases marked
  | detach other =>
      simp only [Chronicle.mark?] at marked
      split at marked <;> cases marked
  | publish message => cases marked
  | shutDown => cases marked
  | collect =>
      simp only [Chronicle.mark?] at marked
      split at marked
      next idle => exact idle
      next => cases marked
  | offer isAccepted => cases marked
  | record =>
      simp only [Chronicle.mark?] at marked
      split at marked <;> cases marked

/-- A cycle begins only when none is under way. -/
theorem Course.round_of_start [EquivBEq (Message.Key μ)] {id : ReplicaId} {policy : Policy μ}
    {chronicle : Chronicle μ ε} {schedule before later : List (Mark μ)}
    (course : Course id policy chronicle schedule) (distinct : DistinctKeys schedule)
    (begins : schedule = before ++ .start :: later) :
    (View.after id policy before).round = none := by
  induction course generalizing later with
  | start => cases before <;> cases begins
  | @step chronicle schedule act course admitted ih =>
      have earlier : DistinctKeys schedule := distinct.sublist
        ((List.sublist_append_left _ _).filterMap Mark.message?)
      cases marked : chronicle.mark? id act with
      | none =>
          rw [marked, Option.toList_none, List.append_nil] at begins
          exact ih earlier begins
      | some mark =>
          rw [marked, Option.toList_some] at begins
          rcases later.eq_nil_or_concat with rfl | ⟨before', last, rfl⟩
          · obtain ⟨rfl, same⟩ := List.append_inj' begins rfl
            rw [List.singleton_inj.mp same] at marked
            exact (course.sound earlier).round_eq_none_iff.mp (Chronicle.idle_of_start marked)
          · rw [List.concat_eq_append, ← List.cons_append, ← List.append_assoc] at begins
            exact ih earlier (List.append_inj' begins rfl).1

/-- If an identifier never refuses and stays attached, it has accepted, after each cycle and until
the next one begins, just what others published since it was attached and before that cycle
began. -/
def InOrder (id : ReplicaId) (policy : Policy μ) (schedule : List (Mark μ))
    (chronicle : Chronicle μ ε) : Prop :=
  (∀ past message, policy past message = true) → ∀ before since during later : List (Mark μ),
    schedule = before ++ .attach :: since ++ .start :: during ++ .finish :: later →
      .attach ∉ before → .detach ∉ since → .start ∉ during → .start ∉ later →
        chronicle.run.cycle = none ∧ chronicle.acceptedBy id = sentTo id since

theorem Course.inOrder [EquivBEq (Message.Key μ)] {id : ReplicaId} {policy : Policy μ}
    {chronicle : Chronicle μ ε} {schedule : List (Mark μ)}
    (course : Course id policy chronicle schedule) (distinct : DistinctKeys schedule) :
    InOrder id policy schedule chronicle := by
  intro accepting before since during later same noAttach noDetach noStart noStart'
  have sound := course.sound distinct
  have split : schedule =
      (before ++ .attach :: since) ++ .start :: (during ++ .finish :: later) := by
    rw [same, List.append_assoc]
    rfl
  have begins := course.round_of_start distinct split
  obtain ⟨noRound, accepted⟩ :=
    View.acceptedOf_after accepting noAttach noDetach begins noStart noStart'
  rw [← same] at noRound accepted
  have idle := sound.round_eq_none_iff.mpr noRound
  refine ⟨idle, ?_⟩
  rw [Chronicle.acceptedBy, sound.offersTo_eq idle]
  exact accepted

/-- Two runs may differ in everything but what concerns one identifier and how it answers. It then
accepts the same messages in the same order, and those of a cycle in the order of publishing. -/
theorem Course.isolated [EquivBEq (Message.Key μ)] {ε' : Type} {id : ReplicaId}
    {policy : Policy μ} {first : Chronicle μ ε} {second : Chronicle μ ε'}
    {schedule : List (Mark μ)} (one : Course id policy first schedule)
    (other : Course id policy second schedule) (distinct : DistinctKeys schedule) :
    Alike id first second ∧ InOrder id policy schedule first ∧ InOrder id policy schedule second :=
  ⟨(one.sound distinct).alike (other.sound distinct), one.inOrder distinct, other.inOrder distinct⟩

/-- An early message of the first replica. -/
def note (number : Fin 3) : OperationMessage Nat :=
  ⟨⟨⟨1⟩, ⟨number, Nat.lt_trans number.isLt (by decide)⟩⟩, number⟩

/-- A neighbour refuses everything in one run, and comes late in the other one. -/
theorem refusing_neighbour_is_not_noticed :
    ∃ first second : Chronicle (OperationMessage Nat) Unit,
      first.run.exchange.pending.length = 2 ∧ second.run.exchange.pending.length = 0 ∧
        Alike ⟨2⟩ first second ∧ first.acceptedBy ⟨2⟩ = [note 1, note 2] := by
  have one : Course ⟨2⟩ (fun _ _ => true)
      (Chronicle.after [.attach ⟨2⟩ (), .attach ⟨3⟩ (), .publish (note 1), .collect, .offer true,
        .offer false, .record, .publish (note 2), .collect, .offer false, .offer true,
        .offer false, .record])
      [.attach, .publish (note 1), .start, .finish, .publish (note 2), .start, .finish] :=
    Course.start.perform _ (by decide)
  have other : Course ⟨2⟩ (fun _ _ => true)
      (Chronicle.after [.attach ⟨2⟩ (), .publish (note 1), .collect, .offer true, .record,
        .publish (note 2), .attach ⟨3⟩ (), .collect, .offer true, .record])
      [.attach, .publish (note 1), .start, .finish, .publish (note 2), .start, .finish] :=
    Course.start.perform _ (by decide)
  obtain ⟨alike, inOrder, _⟩ := one.isolated other (by decide)
  obtain ⟨_, accepted⟩ := inOrder (fun _ _ => rfl) []
    [.publish (note 1), .start, .finish, .publish (note 2)] [] [] rfl nofun nofun nofun nofun
  exact ⟨_, _, rfl, rfl, alike, accepted⟩

end Confluence.Exchange

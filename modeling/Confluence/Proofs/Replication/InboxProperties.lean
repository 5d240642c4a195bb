import Confluence.Replication.Inbox

/-!
What becomes of queued messages. A message that leaves the queue was accepted, whatever the replica
does with messages, and an apply cycle ends with an empty queue if its first pass refuses nothing.
-/

set_option autoImplicit false

namespace Confluence

theorem Queued.isDueBefore_iff {μ : Type} {first second : Queued μ} :
    first.isDueBefore second = true ↔ second.priority < first.priority ∨
      first.priority = second.priority ∧ first.arrival ≤ second.arrival := by
  simp [isDueBefore]

namespace Inbox

variable {μ ρ : Type} {update : ρ → μ → Except ReplicationError Unit × ρ}

/-! ## The queue -/

@[simp] theorem mem_due {inbox : Inbox μ} {queued : Queued μ} :
    queued ∈ inbox.due ↔ queued ∈ inbox.queue :=
  List.mem_mergeSort

theorem due_perm (inbox : Inbox μ) : inbox.due.Perm inbox.queue :=
  List.mergeSort_perm inbox.queue Queued.isDueBefore

theorem pairwise_due (inbox : Inbox μ) :
    inbox.due.Pairwise fun first second => first.isDueBefore second = true := by
  refine List.pairwise_mergeSort ?_ ?_ inbox.queue
  · intro first second third earlier later
    rw [Queued.isDueBefore_iff] at earlier later ⊢
    omega
  · intro first second
    rw [Bool.or_eq_true, Queued.isDueBefore_iff, Queued.isDueBefore_iff]
    omega

/-- While messages are out they are counted, and a pass over all of them settles the count. -/
theorem takeOut_putBack (inbox : Inbox μ) (refused : List (Queued μ)) :
    inbox.takeOut.putBack refused inbox.queue.length = { inbox with queue := refused } := by
  simp [takeOut, putBack]

def enqueueAll [Message μ] (order : InboxOrder) (inbox : Inbox μ) (messages : List μ) : Inbox μ :=
  messages.foldl (enqueue order) inbox

section Arrival

variable [Message μ] {order : InboxOrder} {inbox : Inbox μ} {messages : List μ}

theorem applying_enqueueAll : (inbox.enqueueAll order messages).applying = inbox.applying := by
  induction messages generalizing inbox with
  | nil => rfl
  | cons message later ih => exact ih

theorem mem_enqueueAll_of_mem {queued : Queued μ} (present : queued ∈ inbox.queue)
    (messages : List μ) : queued ∈ (inbox.enqueueAll order messages).queue := by
  induction messages generalizing inbox with
  | nil => exact present
  | cons message later ih => exact ih (List.mem_append_left _ present)

theorem exists_mem_enqueueAll {message : μ} (arrived : message ∈ messages) :
    ∃ queued ∈ (inbox.enqueueAll order messages).queue, queued.message = message := by
  induction messages generalizing inbox with
  | nil => cases arrived
  | cons first later ih =>
      rcases List.mem_cons.mp arrived with rfl | arrived
      · have queued : ⟨order.priority (Message.rank message), inbox.nextArrival, message⟩ ∈
            (enqueue order inbox message).queue := List.mem_append_right _ (.head _)
        exact ⟨_, mem_enqueueAll_of_mem queued later, rfl⟩
      · exact ih arrived

theorem of_mem_enqueueAll {queued : Queued μ}
    (present : queued ∈ (inbox.enqueueAll order messages).queue) :
    queued ∈ inbox.queue ∨ queued.message ∈ messages ∧
      queued.priority = order.priority (Message.rank queued.message) := by
  induction messages generalizing inbox with
  | nil => exact .inl present
  | cons message later ih =>
      rcases ih present with earlier | ⟨arrived, priority⟩
      · rcases List.mem_append.mp earlier with earlier | new
        · exact .inl earlier
        · rw [List.mem_singleton.mp new]
          exact .inr ⟨.head _, rfl⟩
      · exact .inr ⟨.tail _ arrived, priority⟩

end Arrival

/-! ## Passes -/

theorem pass_cons_of_accepted {first : Queued μ} {later : List (Queued μ)} {replica : ρ}
    (accepted : (update replica first.message).1 = .ok ()) :
    pass update (first :: later) replica = pass update later (update replica first.message).2 := by
  simp only [pass, accepted]

theorem pass_cons_of_refused {first : Queued μ} {later : List (Queued μ)} {replica : ρ}
    {error : ReplicationError} (refused : (update replica first.message).1 = .error error) :
    pass update (first :: later) replica =
      ((pass update later (update replica first.message).2).1,
        first :: (pass update later (update replica first.message).2).2) := by
  simp only [pass, refused]

theorem mem_of_refused {queue : List (Queued μ)} {replica : ρ} {queued : Queued μ}
    (refused : queued ∈ (pass update queue replica).2) : queued ∈ queue := by
  induction queue generalizing replica with
  | nil => exact refused
  | cons first later ih =>
      cases outcome : (update replica first.message).1 with
      | ok _ =>
          rw [pass_cons_of_accepted outcome] at refused
          exact .tail _ (ih refused)
      | error _ =>
          rw [pass_cons_of_refused outcome] at refused
          rcases List.mem_cons.mp refused with rfl | refused
          · exact .head _
          · exact .tail _ (ih refused)

/-- A replica that refuses nothing goes through its inbox in one pass. -/
theorem refused_of_accepting (accepts : ∀ replica message, (update replica message).1 = .ok ())
    (queue : List (Queued μ)) (replica : ρ) : (pass update queue replica).2 = [] := by
  induction queue generalizing replica with
  | nil => rfl
  | cons first later ih =>
      rw [pass_cons_of_accepted (accepts replica first.message)]
      exact ih _

/-- Offering messages keeps replicas sound, and a sound replica knows what it has accepted from
then on. -/
structure Teaches (update : ρ → μ → Except ReplicationError Unit × ρ) (offered : μ → Prop)
    (sound : ρ → Prop) (knows : ρ → μ → Prop) : Prop where
  keeps_sound : ∀ {replica message}, sound replica → offered message →
    sound (update replica message).2
  learns : ∀ {replica message}, sound replica → offered message →
    (update replica message).1 = .ok () → knows (update replica message).2 message
  remembers : ∀ {replica message known}, sound replica → offered message →
    knows replica known → knows (update replica message).2 known

namespace Teaches

variable {offered : μ → Prop} {sound : ρ → Prop} {knows : ρ → μ → Prop}

theorem pass (teaches : Teaches update offered sound knows) {queue : List (Queued μ)}
    {replica : ρ} (isOffered : ∀ queued ∈ queue, offered queued.message)
    (isSound : sound replica) :
    sound (Inbox.pass update queue replica).1 ∧
      (∀ known, knows replica known → knows (Inbox.pass update queue replica).1 known) ∧
      ∃ gone, queue.Perm (gone ++ (Inbox.pass update queue replica).2) ∧
        ∀ queued ∈ gone, knows (Inbox.pass update queue replica).1 queued.message := by
  induction queue generalizing replica with
  | nil => exact ⟨isSound, fun _ known => known, [], .nil, fun _ absent => by cases absent⟩
  | cons first later ih =>
      have firstOffered := isOffered first (.head _)
      have next := teaches.keeps_sound isSound firstOffered
      obtain ⟨finallySound, remembered, gone, split, known⟩ :=
        ih (fun queued inLater => isOffered queued (.tail _ inLater)) next
      have stillKnown (known : μ) (wasKnown : knows replica known) :
          knows (Inbox.pass update later (update replica first.message).2).1 known :=
        remembered known (teaches.remembers isSound firstOffered wasKnown)
      cases outcome : (update replica first.message).1 with
      | ok _ =>
          rw [pass_cons_of_accepted outcome]
          have learned := remembered _ (teaches.learns isSound firstOffered outcome)
          exact ⟨finallySound, stillKnown, first :: gone, split.cons first,
            List.forall_mem_cons.mpr ⟨learned, known⟩⟩
      | error _ =>
          rw [pass_cons_of_refused outcome]
          exact ⟨finallySound, stillKnown, gone, (split.cons first).trans List.perm_middle.symm,
            known⟩

end Teaches

/-! ## Apply cycles -/

theorem applyPending_of_pass {replica next : ρ} {inbox : Inbox μ} {refused : List (Queued μ)}
    (passed : Inbox.pass update inbox.due replica = (next, refused))
    (finished : ¬ (refused ≠ [] ∧ refused.length < inbox.queue.length)) :
    (applyPending update replica inbox).replica = next ∧
      (applyPending update replica inbox).inbox = { inbox with queue := refused } := by
  rw [applyPending]
  simp only [passed, takeOut_putBack]
  rw [dif_neg finished]
  exact ⟨rfl, rfl⟩

theorem applyPending_again {replica next : ρ} {inbox : Inbox μ} {refused : List (Queued μ)}
    (passed : Inbox.pass update inbox.due replica = (next, refused))
    (progress : refused ≠ [] ∧ refused.length < inbox.queue.length) :
    (applyPending update replica inbox).replica =
        (applyPending update next { inbox with queue := refused }).replica ∧
      (applyPending update replica inbox).inbox =
        (applyPending update next { inbox with queue := refused }).inbox := by
  rw [applyPending]
  simp only [passed, takeOut_putBack]
  rw [dif_pos progress]
  exact ⟨rfl, rfl⟩

/-- What holds of every last pass, and of a cycle if it holds of the cycle that follows its first
pass, holds of all cycles. -/
theorem cycle_induction (update : ρ → μ → Except ReplicationError Unit × ρ)
    {motive : ρ → Inbox μ → Prop}
    (last : ∀ {replica next inbox refused}, pass update inbox.due replica = (next, refused) →
      ¬ (refused ≠ [] ∧ refused.length < inbox.queue.length) → motive replica inbox)
    (again : ∀ {replica next inbox refused}, pass update inbox.due replica = (next, refused) →
      refused ≠ [] ∧ refused.length < inbox.queue.length →
      motive next { inbox with queue := refused } → motive replica inbox)
    (replica : ρ) (inbox : Inbox μ) : motive replica inbox := by
  induction replica, inbox using applyPending.induct update with
  | case1 replica inbox taken next refused passed after progress ih =>
      have left : after = { inbox with queue := refused } := takeOut_putBack inbox refused
      exact again passed progress (left ▸ ih)
  | case2 replica inbox taken next refused passed finished => exact last passed finished

/-- One pass after the other, each over what the one before it refused. -/
inductive Passes (update : ρ → μ → Except ReplicationError Unit × ρ) :
    ρ → Inbox μ → ρ → Inbox μ → Prop where
  | last (replica : ρ) (inbox : Inbox μ) :
      Passes update replica inbox (Inbox.pass update inbox.due replica).1
        { inbox with queue := (Inbox.pass update inbox.due replica).2 }
  | again {replica : ρ} {inbox : Inbox μ} {finalReplica : ρ} {finalInbox : Inbox μ} :
      Passes update (Inbox.pass update inbox.due replica).1
        { inbox with queue := (Inbox.pass update inbox.due replica).2 } finalReplica finalInbox →
      Passes update replica inbox finalReplica finalInbox

theorem passes_applyPending (update : ρ → μ → Except ReplicationError Unit × ρ) (replica : ρ)
    (inbox : Inbox μ) :
    Passes update replica inbox (applyPending update replica inbox).replica
      (applyPending update replica inbox).inbox := by
  induction replica, inbox using cycle_induction update with
  | @last replica next inbox refused passed finished =>
      obtain ⟨sameReplica, sameInbox⟩ := applyPending_of_pass passed finished
      have final : Passes update replica inbox _ _ := .last replica inbox
      rw [passed] at final
      rw [sameReplica, sameInbox]
      exact final
  | again passed progress ih =>
      obtain ⟨sameReplica, sameInbox⟩ := applyPending_again passed progress
      rw [sameReplica, sameInbox]
      refine .again ?_
      rw [passed]
      exact ih

namespace Passes

variable {replica final : ρ} {inbox left : Inbox μ}

theorem mem_of_mem (passes : Passes update replica inbox final left) :
    ∀ queued ∈ left.queue, queued ∈ inbox.queue := by
  induction passes with
  | last replica inbox => exact fun queued refused => mem_due.mp (mem_of_refused refused)
  | again _ ih => exact fun queued stays => mem_due.mp (mem_of_refused (ih queued stays))

theorem applying_eq (passes : Passes update replica inbox final left) :
    left.applying = inbox.applying := by
  induction passes with
  | last replica inbox => rfl
  | again _ ih => exact ih

theorem teach {offered : μ → Prop} {sound : ρ → Prop} {knows : ρ → μ → Prop}
    (passes : Passes update replica inbox final left)
    (teaches : Teaches update offered sound knows)
    (isOffered : ∀ queued ∈ inbox.queue, offered queued.message) (isSound : sound replica) :
    sound final ∧ (∀ known, knows replica known → knows final known) ∧
      ∃ gone, inbox.queue.Perm (gone ++ left.queue) ∧
        ∀ queued ∈ gone, knows final queued.message := by
  induction passes with
  | last replica inbox =>
      obtain ⟨nextSound, remembered, gone, split, known⟩ :=
        teaches.pass (fun queued isDue => isOffered queued (mem_due.mp isDue)) isSound
      exact ⟨nextSound, remembered, gone, inbox.due_perm.symm.trans split, known⟩
  | @again replica inbox final left _ ih =>
      obtain ⟨nextSound, remembered, gone, split, known⟩ :=
        teaches.pass (fun queued isDue => isOffered queued (mem_due.mp isDue)) isSound
      obtain ⟨finalSound, rememberedAgain, goneLater, splitLater, knownLater⟩ :=
        ih (fun queued refused => isOffered queued (mem_due.mp (mem_of_refused refused))) nextSound
      refine ⟨finalSound, fun known wasKnown => rememberedAgain known (remembered known wasKnown),
        gone ++ goneLater, ?_, ?_⟩
      · rw [List.append_assoc]
        exact inbox.due_perm.symm.trans (split.trans (splitLater.append_left gone))
      · exact List.forall_mem_append.mpr
          ⟨fun queued isGone => rememberedAgain _ (known queued isGone), knownLater⟩

end Passes

theorem queue_applyPending_of_pass {replica : ρ} {inbox : Inbox μ}
    (accepted : (Inbox.pass update inbox.due replica).2 = []) :
    (applyPending update replica inbox).inbox.queue = [] := by
  have passed : Inbox.pass update inbox.due replica =
      ((Inbox.pass update inbox.due replica).1, []) := by rw [← accepted]
  rw [(applyPending_of_pass passed fun progress => progress.1 rfl).2]

/-! ## Observers -/

section Observer

variable {τ : Type} {observed : τ → μ → Except ReplicationError Unit × τ} {view : τ → ρ}

/-- Whatever else is kept beside a replica, a pass does to the replica what it does without it. -/
theorem pass_view (outcome : ∀ state message,
      (observed state message).1 = (update (view state) message).1)
    (next : ∀ state message,
      view (observed state message).2 = (update (view state) message).2)
    (queue : List (Queued μ)) (state : τ) :
    Inbox.pass update queue (view state) =
      (view (Inbox.pass observed queue state).1, (Inbox.pass observed queue state).2) := by
  induction queue generalizing state with
  | nil => rfl
  | cons first later ih =>
      cases accepted : (observed state first.message).1 with
      | ok _ =>
          have same := (outcome state first.message).symm.trans accepted
          rw [pass_cons_of_accepted accepted, pass_cons_of_accepted same, ← next, ih]
      | error _ =>
          have same := (outcome state first.message).symm.trans accepted
          rw [pass_cons_of_refused accepted, pass_cons_of_refused same, ← next, ih]

theorem applyPending_view (update : ρ → μ → Except ReplicationError Unit × ρ)
    (observed : τ → μ → Except ReplicationError Unit × τ) (view : τ → ρ)
    (outcome : ∀ state message,
      (observed state message).1 = (update (view state) message).1)
    (next : ∀ state message,
      view (observed state message).2 = (update (view state) message).2)
    (state : τ) (inbox : Inbox μ) :
    (applyPending update (view state) inbox).replica =
        view (applyPending observed state inbox).replica ∧
      (applyPending update (view state) inbox).inbox =
        (applyPending observed state inbox).inbox := by
  induction state, inbox using cycle_induction observed with
  | @last state after inbox refused passed finished =>
      have seen := pass_view outcome next inbox.due state
      rw [passed] at seen
      obtain ⟨sameReplica, sameInbox⟩ := applyPending_of_pass passed finished
      obtain ⟨sameReplica', sameInbox'⟩ := applyPending_of_pass seen finished
      rw [sameReplica, sameInbox, sameReplica', sameInbox']
      exact ⟨rfl, rfl⟩
  | @again state after inbox refused passed progress ih =>
      have seen := pass_view outcome next inbox.due state
      rw [passed] at seen
      obtain ⟨sameReplica, sameInbox⟩ := applyPending_again passed progress
      obtain ⟨sameReplica', sameInbox'⟩ := applyPending_again seen progress
      rw [sameReplica, sameInbox, sameReplica', sameInbox']
      exact ih

end Observer

end Inbox

end Confluence

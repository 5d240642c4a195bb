import Confluence.Proofs.Replication.AwaitedMessages
import Confluence.Proofs.Replication.ExchangeRuns

/-!
What an exchange looks like to one identifier. Only a few things concern it: its own attachments,
the publications, and when fan-out cycles begin and end. They determine a view, which is computed
from them alone, by a machine that knows neither numbers nor other identifiers. The view shows what
awaits the identifier and what a cycle under way has still to hand out to it, in order.
-/

set_option autoImplicit false

namespace Confluence.Exchange

/-! ## What concerns an identifier -/

/-- What happens at an exchange, as far as it concerns one identifier. -/
inductive Mark (μ : Type) where
  | attach
  | detach
  | publish (message : μ)
  | start
  | finish

def Mark.message? {μ : Type} : Mark μ → Option μ
  | .publish message => some message
  | _ => none

def published {μ : Type} (schedule : List (Mark μ)) : List μ := schedule.filterMap Mark.message?

theorem published_append {μ : Type} (earlier later : List (Mark μ)) :
    published (earlier ++ later) = published earlier ++ published later :=
  List.filterMap_append

/-- How an identifier answers a message that it is offered, after what it has answered so far. -/
abbrev Policy (μ : Type) := List (μ × Bool) → μ → Bool

def Policy.answer {μ : Type} (policy : Policy μ) (past : List (μ × Bool)) : List μ → List (μ × Bool)
  | [] => []
  | message :: later =>
    (message, policy past message) ::
      policy.answer (past ++ [(message, policy past message)]) later

def acceptedOf {μ : Type} (offers : List (μ × Bool)) : List μ := (offers.filter (·.2)).map (·.1)

def refusedOf {μ : Type} (offers : List (μ × Bool)) : List μ := (offers.filter (!·.2)).map (·.1)

/-! ## The view of an identifier -/

/-- A cycle under way. It is not current any more if the identifier has left since it began; what it
accepts then counts for nothing that is published later. -/
structure Round (μ : Type) where
  due : List μ
  isCurrent : Bool

/-- What an identifier can tell. `waiting` leaves out what a current cycle hands out, and `offers`
what was offered in a cycle that has not ended. -/
structure View (μ : Type) where
  isAttached : Bool
  waiting : List μ
  round : Option (Round μ)
  offers : List (μ × Bool)

namespace View

variable {μ : Type}

def initial : View μ := ⟨false, [], none, []⟩

variable [Message μ]

def advance (id : ReplicaId) (policy : Policy μ) (view : View μ) : Mark μ → View μ
  | .attach => { view with isAttached := true }
  | .detach =>
    { view with
      isAttached := false
      waiting := []
      round := view.round.map fun round => { round with isCurrent := false } }
  | .publish message =>
    if view.isAttached && id != Message.origin message then
      { view with waiting := view.waiting ++ [message] }
    else view
  | .start =>
    match view.round with
    | none => { view with waiting := [], round := some ⟨view.waiting, true⟩ }
    | some _ => view
  | .finish =>
    match view.round with
    | none => view
    | some round =>
      let answered := policy.answer view.offers round.due
      { view with
        waiting := (if round.isCurrent then refusedOf answered else []) ++ view.waiting
        round := none
        offers := view.offers ++ answered }

def after (id : ReplicaId) (policy : Policy μ) (schedule : List (Mark μ)) : View μ :=
  schedule.foldl (advance id policy) initial

theorem advance_publish (id : ReplicaId) (policy : Policy μ) (view : View μ) (message : μ) :
    view.advance id policy (.publish message) =
      { view with
        waiting := view.waiting ++
          if view.isAttached && id != Message.origin message then [message] else [] } := by
  simp only [advance]
  split
  · rfl
  · rw [List.append_nil]

/-- Attachments alone change whether the identifier is attached. -/
theorem isAttached_advance {id : ReplicaId} {policy : Policy μ} (view : View μ) (mark : Mark μ)
    (noAttach : mark ≠ .attach) (noDetach : mark ≠ .detach) :
    (view.advance id policy mark).isAttached = view.isAttached := by
  cases mark with
  | attach => exact absurd rfl noAttach
  | detach => exact absurd rfl noDetach
  | publish message => rw [advance_publish]
  | start =>
      simp only [advance]
      split <;> rfl
  | finish =>
      simp only [advance]
      split <;> rfl

theorem after_append_singleton (id : ReplicaId) (policy : Policy μ) (schedule : List (Mark μ))
    (mark : Mark μ) :
    after id policy (schedule ++ [mark]) = (after id policy schedule).advance id policy mark :=
  List.foldl_append

end View

/-! ## Answers -/

namespace Policy

variable {μ : Type} (policy : Policy μ)

theorem answer_append (past : List (μ × Bool)) (earlier later : List μ) :
    policy.answer past (earlier ++ later) =
      policy.answer past earlier ++ policy.answer (past ++ policy.answer past earlier) later := by
  induction earlier generalizing past with
  | nil => simp [answer]
  | cons first rest ih => simp [answer, ih]

/-- Who never refuses accepts everything. -/
theorem answer_of_accepting {policy : Policy μ}
    (accepting : ∀ past message, policy past message = true) (past : List (μ × Bool)) (due : List μ) :
    policy.answer past due = due.map fun message => (message, true) := by
  induction due generalizing past with
  | nil => rfl
  | cons first rest ih => simp only [answer, ih, accepting, List.map_cons]

end Policy

def View.due {μ : Type} (view : View μ) : List μ := view.round.elim [] Round.due

/-- What an identifier has been offered when a cycle under way has ended. -/
def View.foreseen {μ : Type} (policy : Policy μ) (view : View μ) : List (μ × Bool) :=
  view.offers ++ policy.answer view.offers view.due

/-! ## The order of publishing -/

variable {μ : Type} [Message μ]

/-- The publications of a schedule that an identifier is not the origin of. -/
def sentTo (id : ReplicaId) (schedule : List (Mark μ)) : List μ :=
  (published schedule).filter fun message => id != Message.origin message

theorem sentTo_append (id : ReplicaId) (earlier later : List (Mark μ)) :
    sentTo id (earlier ++ later) = sentTo id earlier ++ sentTo id later := by
  rw [sentTo, published_append, List.filter_append]
  rfl

namespace View

variable {id : ReplicaId} {policy : Policy μ} {view : View μ} {mark : Mark μ}

/-- The identifier has not been attached yet. -/
structure Absent (view : View μ) : Prop where
  isAttached : view.isAttached = false
  waiting : view.waiting = []
  due : view.due = []
  offers : view.offers = []

theorem Absent.advance (absent : view.Absent) (noAttach : mark ≠ .attach) :
    (view.advance id policy mark).Absent := by
  obtain ⟨isAttached, waiting, round, offers⟩ := view
  obtain ⟨rfl, rfl, due, rfl⟩ := absent
  cases mark with
  | attach => exact absurd rfl noAttach
  | detach =>
      refine ⟨rfl, rfl, ?_, rfl⟩
      cases round with
      | none => rfl
      | some round => exact due
  | publish message => exact ⟨rfl, rfl, due, rfl⟩
  | start =>
      cases round with
      | none => exact ⟨rfl, rfl, rfl, rfl⟩
      | some round => exact ⟨rfl, rfl, due, rfl⟩
  | finish =>
      cases round with
      | none => exact ⟨rfl, rfl, rfl, rfl⟩
      | some round =>
          obtain ⟨due', isCurrent⟩ := round
          obtain rfl : due' = [] := due
          cases isCurrent <;> exact ⟨rfl, rfl, rfl, rfl⟩

theorem Absent.foldl (absent : view.Absent) {schedule : List (Mark μ)}
    (noAttach : .attach ∉ schedule) : (schedule.foldl (View.advance id policy) view).Absent := by
  induction schedule generalizing view with
  | nil => exact absent
  | cons first later ih =>
      rw [List.mem_cons, not_or] at noAttach
      exact ih (absent.advance (Ne.symm noAttach.1)) noAttach.2

/-- Everything that was sent to the attached identifier has been accepted, is being handed out or
is waiting, in this order. -/
structure Receives (sent : List μ) (view : View μ) : Prop where
  isAttached : view.isAttached = true
  sent : acceptedOf view.offers ++ view.due ++ view.waiting = sent

theorem Absent.receives (absent : view.Absent) :
    (view.advance id policy .attach).Receives [] := by
  refine ⟨rfl, ?_⟩
  change acceptedOf view.offers ++ view.due ++ view.waiting = []
  rw [absent.offers, absent.due, absent.waiting]
  rfl

/-- Of what was sent before the last cycle began, nothing has been left out. -/
def HandsOut (sent : List μ) (view : View μ) : Prop := acceptedOf view.offers ++ view.due = sent

theorem Receives.handsOut {sent : List μ} (receives : view.Receives sent)
    (idle : view.round = none) : (view.advance id policy .start).HandsOut sent := by
  obtain ⟨isAttached, waiting, round, offers⟩ := view
  obtain rfl : round = none := idle
  simpa [View.advance, HandsOut, View.due] using receives.sent

section

variable (accepting : ∀ past message, policy past message = true)

include accepting

/-- Who never refuses has accepted a round when it ends, and it is not handed out again. -/
theorem finish_of_accepting :
    (view.advance id policy .finish).due = [] ∧
      acceptedOf (view.advance id policy .finish).offers = acceptedOf view.offers ++ view.due ∧
      (view.advance id policy .finish).waiting = view.waiting := by
  obtain ⟨isAttached, waiting, round, offers⟩ := view
  cases round with
  | none => exact ⟨rfl, (List.append_nil _).symm, rfl⟩
  | some round =>
      refine ⟨rfl, ?_, ?_⟩
      · simp [View.advance, acceptedOf, View.due, Policy.answer_of_accepting accepting,
          List.filter_map, Function.comp_def]
      · simp [View.advance, refusedOf, Policy.answer_of_accepting accepting, List.filter_map,
          Function.comp_def]

theorem Receives.advance {sent : List μ} (receives : view.Receives sent)
    (noDetach : mark ≠ .detach) :
    (view.advance id policy mark).Receives (sent ++ sentTo id [mark]) := by
  have nothing : ∀ {next : View μ}, next.Receives sent → next.Receives (sent ++ []) :=
    fun receives => (List.append_nil sent).symm ▸ receives
  cases mark with
  | attach => exact nothing ⟨rfl, receives.sent⟩
  | detach => exact absurd rfl noDetach
  | publish message =>
      have sends : sentTo id [Mark.publish message] =
          if id != Message.origin message then [message] else [] := by
        simp only [sentTo, published, List.filterMap_cons, Mark.message?, List.filterMap_nil,
          List.filter_cons, List.filter_nil]
      rw [View.advance_publish, sends]
      refine ⟨receives.isAttached, ?_⟩
      rw [receives.isAttached, Bool.true_and, ← receives.sent, List.append_assoc, List.append_assoc,
        List.append_assoc]
      rfl
  | start =>
      obtain ⟨isAttached, waiting, round, offers⟩ := view
      cases round with
      | none =>
          refine nothing ⟨receives.isAttached, ?_⟩
          simpa [View.advance, View.due] using receives.sent
      | some round => exact nothing receives
  | finish =>
      obtain ⟨noneDue, accepted, waiting⟩ := finish_of_accepting accepting
      refine nothing ⟨?_, ?_⟩
      · exact (View.isAttached_advance view .finish nofun nofun).trans receives.isAttached
      · rw [noneDue, accepted, waiting, List.append_nil]
        exact receives.sent

theorem Receives.foldl {sent : List μ} (receives : view.Receives sent) {schedule : List (Mark μ)}
    (noDetach : .detach ∉ schedule) :
    (schedule.foldl (View.advance id policy) view).Receives (sent ++ sentTo id schedule) := by
  induction schedule generalizing view sent with
  | nil => exact (List.append_nil sent).symm ▸ receives
  | cons first later ih =>
      rw [List.mem_cons, not_or] at noDetach
      have advanced : (view.advance id policy first).Receives _ :=
        receives.advance accepting (Ne.symm noDetach.1)
      have received := ih advanced noDetach.2
      rw [List.append_assoc, ← sentTo_append] at received
      exact received

theorem HandsOut.advance {sent : List μ} (handsOut : view.HandsOut sent)
    (noStart : mark ≠ .start) :
    (view.advance id policy mark).HandsOut sent := by
  cases mark with
  | attach => exact handsOut
  | detach =>
      obtain ⟨isAttached, waiting, round, offers⟩ := view
      cases round <;> exact handsOut
  | publish message =>
      rw [View.advance_publish]
      exact handsOut
  | start => exact absurd rfl noStart
  | finish =>
      obtain ⟨noneDue, accepted, _⟩ := finish_of_accepting accepting
      rw [HandsOut, noneDue, accepted, List.append_nil]
      exact handsOut

theorem HandsOut.foldl {sent : List μ} (handsOut : view.HandsOut sent) {schedule : List (Mark μ)}
    (noStart : .start ∉ schedule) :
    (schedule.foldl (View.advance id policy) view).HandsOut sent := by
  induction schedule generalizing view with
  | nil => exact handsOut
  | cons first later ih =>
      rw [List.mem_cons, not_or] at noStart
      exact ih (handsOut.advance accepting (Ne.symm noStart.1)) noStart.2

end

/-- Without another beginning, no cycle is under way after one has ended. -/
theorem round_foldl (idle : view.round = none) {schedule : List (Mark μ)}
    (noStart : .start ∉ schedule) : (schedule.foldl (View.advance id policy) view).round = none := by
  induction schedule generalizing view with
  | nil => exact idle
  | cons first later ih =>
      rw [List.mem_cons, not_or] at noStart
      refine ih ?_ noStart.2
      cases first with
      | attach => exact idle
      | detach => exact congrArg (Option.map _) idle
      | publish message =>
          rw [View.advance_publish]
          exact idle
      | start => exact absurd rfl noStart.1
      | finish =>
          simp only [View.advance, idle]

/-- Who never refuses has accepted, after a cycle, what was sent to it before the cycle began. -/
theorem acceptedOf_after (accepting : ∀ past message, policy past message = true)
    {before since during later : List (Mark μ)} (noAttach : .attach ∉ before)
    (noDetach : .detach ∉ since)
    (begins : (after id policy (before ++ .attach :: since)).round = none)
    (noStart : .start ∉ during) (noStart' : .start ∉ later) :
    let view := after id policy
      (before ++ .attach :: since ++ .start :: during ++ .finish :: later)
    view.round = none ∧ acceptedOf view.offers = sentTo id since := by
  have absent : (after id policy before).Absent :=
    Absent.foldl ⟨rfl, rfl, rfl, rfl⟩ noAttach
  have receives : (after id policy (before ++ .attach :: since)).Receives (sentTo id since) := by
    rw [after, List.foldl_append, List.foldl_cons]
    exact absent.receives.foldl accepting noDetach
  have handsOut : (after id policy (before ++ .attach :: since ++ .start :: during)).HandsOut
      (sentTo id since) := by
    rw [after, List.foldl_append, List.foldl_cons]
    exact (receives.handsOut begins).foldl accepting noStart
  generalize before ++ .attach :: since ++ .start :: during = earlier at handsOut
  have idle : ((after id policy earlier).advance id policy .finish).round = none := by
    simp only [View.advance]
    split
    next noRound => exact noRound
    next => rfl
  have finished : ((after id policy earlier).advance id policy .finish).HandsOut _ :=
    handsOut.advance accepting nofun
  rw [after, List.foldl_append, List.foldl_cons]
  have noRound : (later.foldl (View.advance id policy) _).round = none :=
    round_foldl idle noStart'
  have accepted : (later.foldl (View.advance id policy) _).HandsOut (sentTo id since) :=
    finished.foldl accepting noStart'
  refine ⟨noRound, ?_⟩
  rw [HandsOut, View.due, noRound] at accepted
  exact (List.append_nil _).symm.trans accepted

end View

/-! ## The view and the exchange -/

/-- What there is at an exchange for an identifier. -/
structure Outlook (μ ε : Type) where
  awaiting : List (Nat × μ)
  nextNumber : Nat
  cycle : Option (Cycle μ ε)
  offers : List (μ × Bool)

section

variable {μ ε : Type} {id : ReplicaId} {policy : Policy μ} {view : View μ}
  {outlook : Outlook μ ε}

/-- A cycle in the middle of handing out a round: some messages of the round are answered, and the
others have still to be offered. The numbers tell them apart from what was published since. -/
structure Handing (id : ReplicaId) (policy : Policy μ) (view : View μ) (round : Round μ)
    (outlook : Outlook μ ε) (cycle : Cycle μ ε) (answered : List ((Nat × μ) × Bool))
    (newer : List (Nat × μ)) : Prop where
  due : round.due = (answered.map (·.1) ++ addressedTo id cycle.work).map (·.2)
  answers : (answered.map fun answer => (answer.1.2, answer.2)) =
    policy.answer view.offers (answered.map fun answer => answer.1.2)
  offers : outlook.offers = view.offers ++ answered.map fun answer => (answer.1.2, answer.2)
  accepted : ∀ number, (number, id) ∈ cycle.accepted ↔
    ∃ answer ∈ answered, answer.2 = true ∧ answer.1.1 = number
  awaiting : outlook.awaiting =
    (if round.isCurrent then answered.map (·.1) ++ addressedTo id cycle.work else []) ++ newer
  waiting : view.waiting = newer.map (·.2)
  rising : (answered.map (·.1) ++ addressedTo id cycle.work ++ newer).Pairwise
    fun earlier later => earlier.1 < later.1
  below : ∀ entry ∈ answered.map (·.1) ++ addressedTo id cycle.work ++ newer,
    entry.1 < outlook.nextNumber

namespace Handing

variable {round : Round μ} {cycle : Cycle μ ε} {answered : List ((Nat × μ) × Bool)}
  {newer : List (Nat × μ)}

/-- Of what is answered, just what was accepted will be recorded. -/
theorem recorded (handing : Handing id policy view round outlook cycle answered newer) :
    ∀ answer ∈ answered, cycle.accepted.contains (answer.1.1, id) = answer.2 := by
  have rising := (List.pairwise_append.mp (List.pairwise_append.mp handing.rising).1).1
  rw [List.pairwise_map] at rising
  intro answer isAnswer
  rw [Bool.eq_iff_iff, List.contains_iff_mem, handing.accepted]
  constructor
  · intro ⟨other, isOther, isAccepted, sameNumber⟩
    have same : other = answer := eq_of_measure_eq rising isOther isAnswer sameNumber
    exact same ▸ isAccepted
  · exact fun isAccepted => ⟨answer, isAnswer, isAccepted, rfl⟩

/-- Nothing will be recorded of what was published since. -/
theorem unrecorded (handing : Handing id policy view round outlook cycle answered newer) :
    ∀ entry ∈ newer, cycle.accepted.contains (entry.1, id) = false := by
  intro entry isNewer
  refine Bool.eq_false_iff.mpr fun isRecorded => ?_
  obtain ⟨answer, isAnswer, _, numbered⟩ :=
    (handing.accepted entry.1).mp (List.contains_iff_mem.mp isRecorded)
  have isEarlier : answer.1 ∈ answered.map (·.1) ++ addressedTo id cycle.work :=
    List.mem_append_left _ (List.mem_map.mpr ⟨answer, isAnswer, rfl⟩)
  have lower := (List.pairwise_append.mp handing.rising).2.2 _ isEarlier entry isNewer
  exact Nat.ne_of_lt lower numbered

variable {delivery : Delivery μ ε} {work : List (Delivery μ ε)}
  {accepted : List (Nat × ReplicaId)} {isAccepted : Bool}

/-- The next message goes to the identifier, which answers it. -/
theorem offerHere (handing : Handing id policy view round outlook ⟨delivery :: work, accepted⟩
      answered newer) (same : delivery.destination = id)
    (answers : isAccepted = policy outlook.offers delivery.message) :
    Handing id policy view round
      { outlook with offers := outlook.offers ++ [(delivery.message, isAccepted)] }
      ⟨work,
        if isAccepted then accepted ++ [(delivery.number, delivery.destination)] else accepted⟩
      (answered ++ [((delivery.number, delivery.message), isAccepted)]) newer := by
  have earlier : ∀ number, (number, id) ∈ accepted ↔ _ := handing.accepted
  have moved : (answered ++ [((delivery.number, delivery.message), isAccepted)]).map (·.1) ++
      addressedTo id work = answered.map (·.1) ++ addressedTo id (delivery :: work) := by
    rw [addressedTo_cons, if_pos same, List.map_append, List.append_assoc]
    rfl
  refine ⟨?_, ?_, ?_, ?_, ?_, handing.waiting, ?_, ?_⟩
  · rw [moved]
    exact handing.due
  · rw [List.map_append, List.map_append, Policy.answer_append, ← handing.answers,
      ← handing.offers]
    exact congrArg (fun answer => _ ++ [(delivery.message, answer)]) answers
  · rw [List.map_append, ← List.append_assoc, ← handing.offers]
    rfl
  · intro number
    cases isAccepted with
    | false => simp [earlier]
    | true => simp [earlier, same, or_and_right, exists_or, eq_comm (a := number)]
  · rw [moved]
    exact handing.awaiting
  · rw [moved]
    exact handing.rising
  · rw [moved]
    exact handing.below

/-- The next message goes elsewhere. -/
theorem offerElsewhere (handing : Handing id policy view round outlook
      ⟨delivery :: work, accepted⟩ answered newer) (different : delivery.destination ≠ id) :
    Handing id policy view round outlook
      ⟨work,
        if isAccepted then accepted ++ [(delivery.number, delivery.destination)] else accepted⟩
      answered newer := by
  have earlier : ∀ number, (number, id) ∈ accepted ↔ _ := handing.accepted
  have kept : addressedTo id (delivery :: work) = addressedTo id work := by
    rw [addressedTo_cons, if_neg different]
  refine ⟨?_, handing.answers, handing.offers, ?_, ?_, handing.waiting, ?_, ?_⟩
  · rw [← kept]
    exact handing.due
  · intro number
    cases isAccepted with
    | false => exact earlier number
    | true => simp [earlier, Ne.symm different]
  · rw [← kept]
    exact handing.awaiting
  · rw [← kept]
    exact handing.rising
  · rw [← kept]
    exact handing.below

end Handing

/-- The view shows what there is. -/
inductive Mirrors (id : ReplicaId) (policy : Policy μ) (view : View μ) (outlook : Outlook μ ε) :
    Prop where
  | idle : view.round = none → outlook.cycle = none →
      outlook.awaiting.map (·.2) = view.waiting → outlook.offers = view.offers →
      Mirrors id policy view outlook
  | handing {round cycle answered newer} : view.round = some round → outlook.cycle = some cycle →
      Handing id policy view round outlook cycle answered newer → Mirrors id policy view outlook

namespace Mirrors

/-- A new message comes last, with a number of its own. -/
theorem publish (mirrors : Mirrors id policy view outlook) {isFor : Bool} {message : μ}
    {nextNumber : Nat} (grows : outlook.nextNumber ≤ nextNumber)
    (fresh : isFor = true → outlook.nextNumber < nextNumber) :
    Mirrors id policy
      { view with waiting := view.waiting ++ if isFor then [message] else [] }
      { outlook with
        awaiting := outlook.awaiting ++ if isFor then [(outlook.nextNumber, message)] else []
        nextNumber } := by
  cases mirrors with
  | idle noRound noCycle waiting offers =>
      refine .idle noRound noCycle ?_ offers
      cases isFor <;> simp [waiting]
  | @handing round cycle answered newer isRound isCycle handing =>
      refine .handing isRound isCycle (?_ : Handing id policy _ round _ cycle answered
        (newer ++ if isFor then [(outlook.nextNumber, message)] else []))
      refine { handing with awaiting := ?_, waiting := ?_, rising := ?_, below := ?_ }
      · rw [← List.append_assoc]
        exact congrArg (· ++ _) handing.awaiting
      · cases isFor <;> simp [handing.waiting]
      · rw [← List.append_assoc]
        cases isFor with
        | false => exact (List.append_nil _).symm ▸ handing.rising
        | true =>
            refine List.pairwise_append.mpr ⟨handing.rising, List.pairwise_singleton _ _, ?_⟩
            intro earlier isEarlier later isNew
            rw [List.mem_singleton.mp isNew]
            exact handing.below earlier isEarlier
      · intro entry isEntry
        rw [← List.append_assoc] at isEntry
        rcases List.mem_append.mp isEntry with isEarlier | isNew
        · exact Nat.lt_of_lt_of_le (handing.below entry isEarlier) grows
        · cases isFor with
          | false => cases isNew
          | true =>
              rw [List.mem_singleton.mp isNew]
              exact fresh rfl

theorem attach (mirrors : Mirrors id policy view outlook) :
    Mirrors id policy { view with isAttached := true } outlook := by
  cases mirrors with
  | idle noRound noCycle waiting offers => exact .idle noRound noCycle waiting offers
  | handing isRound isCycle handing => exact .handing isRound isCycle { handing with }

/-- What an identifier leaves behind awaits it no more, but the cycle under way goes on. -/
theorem detach [Message μ] (mirrors : Mirrors id policy view outlook) :
    Mirrors id policy (view.advance id policy .detach) { outlook with awaiting := [] } := by
  cases mirrors with
  | idle noRound noCycle waiting offers =>
      exact .idle (congrArg (Option.map _) noRound) noCycle rfl offers
  | @handing round cycle answered newer isRound isCycle handing =>
      have fewer : ∀ entries : List (Nat × μ), (entries ++ []).Sublist (entries ++ newer) :=
        fun entries => List.Sublist.append_left (List.nil_sublist _) _
      refine .handing (congrArg (Option.map _) isRound) isCycle
        (?_ : Handing id policy _ _ _ cycle answered [])
      exact { handing with
        awaiting := rfl
        waiting := rfl
        rising := handing.rising.sublist (fewer _)
        below := fun entry isEntry => handing.below entry ((fewer _).mem isEntry) }

/-- A cycle begins with everything that awaits the identifier. -/
theorem start [Message μ] (mirrors : Mirrors id policy view outlook)
    (noCycle : outlook.cycle = none) {work : List (Delivery μ ε)}
    (collected : addressedTo id work = outlook.awaiting)
    (rising : outlook.awaiting.Pairwise fun earlier later => earlier.1 < later.1)
    (below : ∀ entry ∈ outlook.awaiting, entry.1 < outlook.nextNumber) :
    Mirrors id policy (view.advance id policy .start)
      { outlook with cycle := some ⟨work, []⟩ } := by
  cases mirrors with
  | idle noRound _ waiting offers =>
      have advanced : view.advance id policy .start =
          { view with waiting := [], round := some ⟨view.waiting, true⟩ } := by
        simp only [View.advance, noRound]
      rw [advanced]
      refine .handing rfl rfl (?_ : Handing id policy _ _ _ _ [] [])
      refine ⟨?_, rfl, ?_, ?_, ?_, rfl, ?_, ?_⟩
      · simp [collected, waiting]
      · simp [offers]
      · simp
      · simp [collected]
      · simpa [collected] using rising
      · simpa [collected] using below
  | handing _ isCycle _ =>
      rw [noCycle] at isCycle
      cases isCycle

/-- A message is offered, to this identifier or to another one. -/
theorem offer (mirrors : Mirrors id policy view outlook) {delivery : Delivery μ ε}
    {work : List (Delivery μ ε)} {accepted : List (Nat × ReplicaId)}
    (isCycle : outlook.cycle = some ⟨delivery :: work, accepted⟩) {isAccepted : Bool}
    (answers : delivery.destination = id → isAccepted = policy outlook.offers delivery.message) :
    Mirrors id policy view
      { outlook with
        cycle := some ⟨work,
          if isAccepted then accepted ++ [(delivery.number, delivery.destination)] else accepted⟩
        offers := outlook.offers ++
          if delivery.destination = id then [(delivery.message, isAccepted)] else [] } := by
  cases mirrors with
  | idle _ noCycle _ _ =>
      rw [noCycle] at isCycle
      cases isCycle
  | @handing round cycle answered newer isRound isCycle' handing =>
      obtain rfl : cycle = ⟨delivery :: work, accepted⟩ :=
        Option.some.inj (isCycle'.symm.trans isCycle)
      by_cases same : delivery.destination = id
      · rw [if_pos same]
        exact .handing isRound rfl { handing.offerHere same (answers same) with }
      · rw [if_neg same, List.append_nil]
        exact .handing isRound rfl { handing.offerElsewhere same with }

/-- A cycle ends, and what was accepted awaits the identifier no more. -/
theorem finish [Message μ] (mirrors : Mirrors id policy view outlook)
    {accepted : List (Nat × ReplicaId)} (isCycle : outlook.cycle = some ⟨[], accepted⟩) :
    Mirrors id policy (view.advance id policy .finish)
      { outlook with
        awaiting := outlook.awaiting.filter fun entry => !accepted.contains (entry.1, id)
        cycle := (none : Option (Cycle μ ε)) } := by
  cases mirrors with
  | idle _ noCycle _ _ =>
      rw [noCycle] at isCycle
      cases isCycle
  | @handing round cycle answered newer isRound isCycle' handing =>
      obtain rfl : cycle = ⟨[], accepted⟩ := Option.some.inj (isCycle'.symm.trans isCycle)
      have due : round.due = answered.map fun answer => answer.1.2 := by
        have due := handing.due
        rw [addressedTo, List.filter_nil, List.map_nil, List.append_nil, List.map_map] at due
        exact due
      have newerStays : newer.filter (fun entry => !accepted.contains (entry.1, id)) = newer :=
        List.filter_eq_self.mpr fun entry isNewer =>
          congrArg not (handing.unrecorded entry isNewer)
      have refusedStays : ((answered.map (·.1)).filter fun entry =>
          !accepted.contains (entry.1, id)).map (·.2) =
            refusedOf (policy.answer view.offers round.due) := by
        rw [due, ← handing.answers, refusedOf, List.filter_map, List.filter_map, List.map_map,
          List.map_map]
        exact congrArg (List.map _) (List.filter_congr fun answer isAnswer =>
          congrArg not (handing.recorded answer isAnswer))
      have advanced : view.advance id policy .finish =
          { view with
            waiting := (if round.isCurrent then refusedOf (policy.answer view.offers round.due)
              else []) ++ view.waiting
            round := none
            offers := view.offers ++ policy.answer view.offers round.due } := by
        simp only [View.advance, isRound]
      rw [advanced]
      refine .idle rfl rfl ?_ ?_
      · simp only
        rw [handing.awaiting, List.filter_append, newerStays, List.map_append, handing.waiting,
          ← refusedStays]
        cases round.isCurrent with
        | false => rfl
        | true => simp [addressedTo]
      · simp only
        rw [handing.offers, due, ← handing.answers]

end Mirrors

end

end Confluence.Exchange

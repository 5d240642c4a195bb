import Confluence.Proofs.Causality.VectorProperties
import Confluence.State.GrowCounter
import Confluence.State.Register
import Confluence.State.SignedCounter
import Confluence.State.TwoPhaseSet

/-!
Operations that work on their receiver in place. The operations of clocks, vectors and states hand
out a new value or an error, so a refusal has no value that it could spoil. Here they are taken
statement by statement: a failure ends an operation where it stands, and what was done to the
receiver until then is not undone. Each comes to the same as the one that hands out a value.

What carries this is the order of the statements. All that can fail is tried first, on a copy or
without changing anything; from the first change on, nothing fails.
-/

set_option autoImplicit false

namespace Confluence

/-! ## Statements -/

/-- An operation on a receiver `σ` that answers with an `α`. If it fails, the receiver stays as the
failure has found it. -/
abbrev InPlace (σ α : Type) := ExceptT StateError (StateM σ) α

namespace InPlace

variable {σ τ α β : Type}

/-- What the operation answers, and what it leaves of its receiver. -/
def runOn (work : InPlace σ α) (receiver : σ) : Except StateError α × σ :=
  (work.run.run receiver).run

/-- Works on a part of the receiver. -/
def onPart (part : σ → τ) (putBack : σ → τ → σ) (work : InPlace τ α) : InPlace σ α :=
  ExceptT.mk fun receiver =>
    let (answer, changed) := work.runOn (part receiver)
    (answer, putBack receiver changed)

/-- Works on a copy of a part of the receiver, and answers with what has become of the copy. -/
def onCopy (part : σ → τ) (work : InPlace τ α) : InPlace σ τ :=
  ExceptT.mk fun receiver =>
    let (answer, changed) := work.runOn (part receiver)
    (answer.map fun _ => changed, receiver)

/-- Fails as a test of the receiver does. -/
def check (test : σ → Except StateError Unit) : InPlace σ Unit :=
  ExceptT.mk fun receiver => (test receiver, receiver)

/-- Does the work and answers with something of the receiver that it leaves. -/
def answering (work : InPlace σ α) (answer : σ → β) : InPlace σ β := do
  discard work
  return answer (← get)

/-- What an operation comes to that either puts a new receiver into the place of the old or fails
and leaves the old one as it is. -/
def settled (attempt : Except StateError σ) (answer : σ → α) (receiver : σ) :
    Except StateError α × σ :=
  match attempt with
  | .ok after => (.ok (answer after), after)
  | .error error => (.error error, receiver)

/-- The new receiver, unless the operation has failed. -/
def handedOut (outcome : Except StateError α × σ) : Except StateError σ :=
  outcome.1.map fun _ => outcome.2

theorem handedOut_settled (attempt : Except StateError σ) (answer : σ → α) (receiver : σ) :
    handedOut (settled attempt answer receiver) = attempt := by
  cases attempt <;> rfl

theorem runOn_get (receiver : σ) : (get : InPlace σ σ).runOn receiver = (.ok receiver, receiver) :=
  rfl

section Sequences

variable {receiver between : σ} {first : InPlace σ β} {next : β → InPlace σ α}

theorem runOn_bind_of_ok {value : β} (ran : first.runOn receiver = (.ok value, between)) :
    (first >>= next).runOn receiver = (next value).runOn between := by
  unfold runOn at ran ⊢
  rw [ExceptT.run_bind, StateT.run_bind, Id.run_bind, ran]

theorem runOn_bind_of_error {error : StateError}
    (ran : first.runOn receiver = (.error error, between)) :
    (first >>= next).runOn receiver = (.error error, between) := by
  unfold runOn at ran ⊢
  rw [ExceptT.run_bind, StateT.run_bind, Id.run_bind, ran]
  rfl

/-- The rule of all these operations: what can fail comes first and changes nothing, and what then
changes the receiver cannot fail. -/
theorem runOn_of_check_first {checked : Except StateError β} {change : β → σ} {answer : σ → α}
    (checks : first.runOn receiver = (checked, receiver))
    (commits : ∀ value, (next value).runOn receiver = (.ok (answer (change value)), change value)) :
    (first >>= next).runOn receiver = settled (checked.map change) answer receiver := by
  cases checked with
  | error error => exact runOn_bind_of_error checks
  | ok value => exact (runOn_bind_of_ok checks).trans (commits value)

end Sequences

section Parts

variable {receiver : σ} {part : σ → τ} {work : InPlace τ α} {attempt : Except StateError τ}
  {answer : τ → α}

/-- An operation on a part settles the whole, if the part as it was can be put back without any
change. -/
theorem runOn_onPart {putBack : σ → τ → σ}
    (settles : work.runOn (part receiver) = settled attempt answer (part receiver))
    (kept : putBack receiver (part receiver) = receiver)
    (found : ∀ changed, part (putBack receiver changed) = changed) :
    (onPart part putBack work).runOn receiver =
      settled (attempt.map (putBack receiver)) (fun after => answer (part after)) receiver := by
  have unfolded : (onPart part putBack work).runOn receiver =
      ((work.runOn (part receiver)).1, putBack receiver (work.runOn (part receiver)).2) := rfl
  rw [unfolded, settles]
  cases attempt with
  | error error => exact congrArg (Prod.mk _) kept
  | ok changed =>
      simp only [settled, Except.map, found]

theorem runOn_onCopy
    (settles : work.runOn (part receiver) = settled attempt answer (part receiver)) :
    (onCopy part work).runOn receiver = (attempt, receiver) := by
  have unfolded : (onCopy part work).runOn receiver =
      (handedOut (work.runOn (part receiver)), receiver) := rfl
  rw [unfolded, settles, handedOut_settled]

theorem runOn_answering {work : InPlace σ α} {attempt : Except StateError σ} {answer : σ → α}
    (settles : work.runOn receiver = settled attempt answer receiver) (answer' : σ → β) :
    (work.answering answer').runOn receiver = settled attempt answer' receiver := by
  cases attempt with
  | error error =>
      refine runOn_bind_of_error ?_
      exact runOn_bind_of_error settles
  | ok after =>
      have worked : (discard work).runOn receiver = (.ok (), after) := runOn_bind_of_ok settles
      exact runOn_bind_of_ok worked

end Parts

end InPlace

/-! ## Clocks and vectors -/

section Vectors

variable {κ : Type} [Ord κ] [Std.TransOrd κ] [Std.LawfulEqOrd κ] {width : Nat} {σ α : Type}

open InPlace

def Clock.incrementInPlace : InPlace (Clock width) (Clock width) := do
  match (← get).next? with
  | none => throw .clockOverflow
  | some next =>
    set next
    return next

def VersionVector.incrementInPlace (id : κ) : InPlace (VersionVector κ width) (Clock width) := do
  let clock ← onCopy (fun vector => vector.clock id) Clock.incrementInPlace
  modify fun vector => { vector with clocks := vector.clocks.insert id clock }
  return clock

def OwnedVector.incrementInPlace : InPlace (OwnedVector κ width) (Dot κ width) := do
  let owner := (← get).owner
  (onPart OwnedVector.vector (fun history vector => { history with vector })
    (VersionVector.incrementInPlace owner)).answering OwnedVector.dot

theorem Clock.runOn_incrementInPlace (clock : Clock width) :
    Clock.incrementInPlace.runOn clock = settled clock.increment id clock := by
  rw [Clock.incrementInPlace, runOn_bind_of_ok (runOn_get clock), Clock.increment]
  cases clock.next? <;> rfl

theorem VersionVector.runOn_incrementInPlace (vector : VersionVector κ width) (id : κ) :
    (VersionVector.incrementInPlace id).runOn vector =
      settled (vector.increment id) (fun after => after.clock id) vector := by
  -- It is the copy of the clock that may fail; an entry is made of it only after that.
  refine runOn_of_check_first (runOn_onCopy (Clock.runOn_incrementInPlace _)) fun clock => ?_
  simp only [VersionVector.clock, OrderedMap.get?_insert_self, Option.getD_some]
  rfl

theorem OwnedVector.runOn_incrementInPlace (history : OwnedVector κ width) :
    OwnedVector.incrementInPlace.runOn history =
      settled history.increment OwnedVector.dot history := by
  rw [OwnedVector.incrementInPlace, runOn_bind_of_ok (runOn_get history)]
  exact runOn_answering (runOn_onPart (VersionVector.runOn_incrementInPlace _ _) rfl fun _ => rfl) _

/-! ### Counting -/

theorem Clock.refuses_at_end {clock : Clock width} (atEnd : clock.value = Word.size width - 1) :
    Clock.incrementInPlace.runOn clock = (.error .clockOverflow, clock) := by
  rw [Clock.runOn_incrementInPlace, Clock.increment_eq_error_iff.mpr ⟨rfl, atEnd⟩]
  rfl

theorem Clock.advances_before_end {clock : Clock width}
    (notAtEnd : clock.value ≠ Word.size width - 1) :
    ∃ next : Clock width, next.value = clock.value + 1 ∧
      Clock.incrementInPlace.runOn clock = (.ok next, next) := by
  have inRange := clock.value_lt
  let next : Clock width := ⟨clock.value + 1, by omega⟩
  have counted : clock.increment = .ok next := Clock.increment_eq_ok_iff.mpr rfl
  refine ⟨next, rfl, ?_⟩
  rw [Clock.runOn_incrementInPlace, counted]
  rfl

/-- One more event of `id`, and nothing else: every other replica has the entry that it had, or none
as before. -/
structure VersionVector.OneMoreOf (id : κ) (before after : VersionVector κ width) : Prop where
  isDotted : after.isDotted = before.isDotted
  counted : after.get id = before.get id + 1
  others : ∀ other ≠ id, after.clocks.get? other = before.clocks.get? other

/-- An operation in place that counts an event of `id` in a vector of its receiver, where `attempt`
hands out the new receiver. At the end of the clock it refuses and leaves the receiver as it is;
otherwise it counts the event, and what else it does is for `rest` to say. -/
structure CountsOrRefuses (work : InPlace σ α) (attempt : Except StateError σ)
    (part : σ → VersionVector κ width) (id : κ) (receiver : σ) (rest : σ → α → Prop) : Prop where
  agrees : handedOut (work.runOn receiver) = attempt
  full : (part receiver).get id = Word.size width - 1 →
    work.runOn receiver = (.error .clockOverflow, receiver)
  room : (part receiver).get id ≠ Word.size width - 1 →
    ∃ answer after, work.runOn receiver = (.ok answer, after) ∧
      (part receiver).OneMoreOf id (part after) ∧ rest after answer

theorem VersionVector.oneMoreOf_increment {before after : VersionVector κ width} {id : κ}
    (counted : before.increment id = .ok after) : before.OneMoreOf id after where
  isDotted := isDotted_increment counted
  counted := get_increment_self counted
  others other different := by
    obtain ⟨clock, _, rfl⟩ := increment_eq_ok_iff.mp counted
    rw [OrderedMap.get?_insert, if_neg (different <| Std.LawfulEqOrd.eq_of_compare ·)]

theorem countsOrRefuses {work : InPlace σ α} {attempt : Except StateError σ}
    {part : σ → VersionVector κ width} {id : κ} {receiver : σ} {rest : σ → α → Prop}
    {answer : σ → α} {change : VersionVector κ width → σ}
    (settles : work.runOn receiver = settled attempt answer receiver)
    (attempted : attempt = ((part receiver).increment id).map change)
    (found : ∀ vector, part (change vector) = vector)
    (does : ∀ vector, rest (change vector) (answer (change vector))) :
    CountsOrRefuses work attempt part id receiver rest where
  agrees := by rw [settles, handedOut_settled]
  full atEnd := by
    have refused := VersionVector.increment_eq_error_iff.mpr ⟨rfl, atEnd⟩
    rw [settles, attempted, refused]
    rfl
  room notAtEnd := by
    obtain ⟨next, counted⟩ := VersionVector.exists_increment notAtEnd
    refine ⟨answer (change next), change next, ?_, ?_, does next⟩
    · rw [settles, attempted, counted]
      rfl
    · rw [found]
      exact VersionVector.oneMoreOf_increment counted

end Vectors

/-! ## States -/

section States

open InPlace

variable {σ α : Type}

/-- Counts an event in a vector of the receiver, and answers nothing. -/
def InPlace.countIn (part : σ → ReplicaVector) (putBack : σ → ReplicaVector → σ) (id : ReplicaId) :
    InPlace σ Unit :=
  (onPart part putBack (VersionVector.incrementInPlace id)).answering fun _ => ()

def GrowCounter.incrementInPlace (replica : ReplicaId) : InPlace GrowCounter Unit :=
  countIn GrowCounter.counts (fun _ counts => ⟨counts⟩) replica

def SignedCounter.incrementInPlace (replica : ReplicaId) : InPlace SignedCounter Unit :=
  countIn SignedCounter.increments (fun counter increments => { counter with increments }) replica

def SignedCounter.decrementInPlace (replica : ReplicaId) : InPlace SignedCounter Unit :=
  countIn SignedCounter.decrements (fun counter decrements => { counter with decrements }) replica

def Register.assignAtInPlace (value : α) (writer : ReplicaId) (timestamp : Timestamp) :
    InPlace (Register α) Unit := do
  let version ← onCopy Register.version (VersionVector.incrementInPlace writer)
  modify fun register => { register with value := some value }
  modify fun register => { register with timestamp := max timestamp register.timestamp.next }
  modify fun register => { register with writer := some writer }
  modify fun register => { register with version }

theorem InPlace.runOn_countIn {part : σ → ReplicaVector} {putBack : σ → ReplicaVector → σ}
    {id : ReplicaId} {receiver : σ} (kept : putBack receiver (part receiver) = receiver)
    (found : ∀ changed, part (putBack receiver changed) = changed) :
    (countIn part putBack id).runOn receiver =
      settled (((part receiver).increment id).map (putBack receiver)) (fun _ => ()) receiver :=
  runOn_answering (runOn_onPart (VersionVector.runOn_incrementInPlace _ _) kept found) _

theorem Register.runOn_assignAtInPlace (register : Register α) (value : α) (writer : ReplicaId)
    (timestamp : Timestamp) :
    (Register.assignAtInPlace value writer timestamp).runOn register =
      settled (register.assignAt value writer timestamp) (fun _ => ()) register :=
  runOn_of_check_first (runOn_onCopy (VersionVector.runOn_incrementInPlace _ _)) fun _ => rfl

end States

section Sets

open InPlace

variable {α : Type} [Ord α] [Std.TransOrd α] [Std.LawfulEqOrd α]

/-- Adds the listed elements one after the other. -/
def TwoPhaseSet.addEach (elements : List α) : InPlace (TwoPhaseSet α) Unit :=
  elements.forM fun element => modify fun set => { set with added := set.added.insert element }

def TwoPhaseSet.insertAllInPlace [Diagnostic α] (elements : List α) :
    InPlace (TwoPhaseSet α) Unit := do
  check fun set => set.checkInsertable elements
  addEach elements

theorem TwoPhaseSet.runOn_addEach (set : TwoPhaseSet α) (elements : List α) :
    (addEach elements).runOn set = (.ok (), set.recordAdded elements) := by
  induction elements generalizing set with
  | nil => rfl
  | cons first later ih => exact ih { set with added := set.added.insert first }

theorem TwoPhaseSet.runOn_insertAllInPlace [Diagnostic α] (set : TwoPhaseSet α)
    (elements : List α) :
    (insertAllInPlace elements).runOn set =
      settled (set.insertAll elements) (fun _ => ()) set :=
  runOn_of_check_first (rfl : (check _).runOn set = (set.checkInsertable elements, set))
    fun _ => runOn_addEach set elements

/-- Elements are checked and added all at once. If some of them were removed, these are named in the
order in which they are listed, as often as they are, and the set stays as it is. -/
structure AddsOrRefuses [Diagnostic α] (set : TwoPhaseSet α) (elements : List α) : Prop where
  agrees : handedOut ((TwoPhaseSet.insertAllInPlace elements).runOn set) = set.insertAll elements
  removed : (∃ element ∈ elements, element ∈ set.removed) →
    let error := StateError.insertionOfRemoved
      ((elements.filter fun element => set.removed.contains element).map diagnostic)
    Operational.prepare set (.add elements) = .error error ∧
      (TwoPhaseSet.insertAllInPlace elements).runOn set = (.error error, set)
  insertable : (∀ element ∈ elements, element ∉ set.removed) →
    let after := Operational.apply set (.add elements)
    Operational.prepare set (.add elements) = .ok () ∧
      (TwoPhaseSet.insertAllInPlace elements).runOn set = (.ok (), after) ∧
      after.removed = set.removed ∧
      ∀ element, element ∈ after.added ↔ element ∈ set.added ∨ element ∈ elements

variable [Diagnostic α] {set : TwoPhaseSet α} {elements : List α}

omit [Std.TransOrd α] in
theorem TwoPhaseSet.checkInsertable_of_insertable
    (noneRemoved : ∀ element ∈ elements, element ∉ set.removed) :
    set.checkInsertable elements = .ok () := by
  have nothing : elements.filter set.isRemoved = [] :=
    List.filter_eq_nil_iff.mpr fun element isListed isRemoved =>
      noneRemoved element isListed (OrderedSet.contains_iff.mp isRemoved)
  rw [checkInsertable, nothing]

omit [Std.TransOrd α] in
theorem TwoPhaseSet.checkInsertable_of_removed
    (someRemoved : ∃ element ∈ elements, element ∈ set.removed) :
    set.checkInsertable elements =
      .error (.insertionOfRemoved ((elements.filter set.isRemoved).map diagnostic)) := by
  obtain ⟨element, isListed, isRemoved⟩ := someRemoved
  have rejected : element ∈ elements.filter set.isRemoved :=
    List.mem_filter.mpr ⟨isListed, OrderedSet.contains_iff.mpr isRemoved⟩
  unfold checkInsertable
  cases found : elements.filter set.isRemoved with
  | nil =>
      rw [found] at rejected
      cases rejected
  | cons first later => rfl

theorem addsOrRefuses (set : TwoPhaseSet α) (elements : List α) : AddsOrRefuses set elements where
  agrees := by rw [TwoPhaseSet.runOn_insertAllInPlace, handedOut_settled]
  removed someRemoved := by
    have refused := TwoPhaseSet.checkInsertable_of_removed someRemoved
    refine ⟨refused, ?_⟩
    rw [TwoPhaseSet.runOn_insertAllInPlace, TwoPhaseSet.insertAll, refused]
    rfl
  insertable noneRemoved := by
    have accepted := TwoPhaseSet.checkInsertable_of_insertable noneRemoved
    refine ⟨accepted, ?_, rfl, fun element => OrderedSet.mem_insertAll⟩
    rw [TwoPhaseSet.runOn_insertAllInPlace, TwoPhaseSet.insertAll, accepted]
    rfl

end Sets

/-! ## All or nothing -/

section Conclusion

open InPlace

/-- What the operations in place do with their receivers: clocks of any width, vectors and histories
over any replicas, counters, registers and sets. -/
structure RefusalsChangeNothing (κ : Type) [Ord κ] [Std.TransOrd κ] [Std.LawfulEqOrd κ]
    (width : Nat) (α : Type) [Ord α] [Std.TransOrd α] [Std.LawfulEqOrd α] [Diagnostic α]
    (β : Type) : Prop where
  clock : ∀ clock : Clock width,
    (clock.value = Word.size width - 1 →
      Clock.incrementInPlace.runOn clock = (.error .clockOverflow, clock)) ∧
    (clock.value ≠ Word.size width - 1 → ∃ next : Clock width, next.value = clock.value + 1 ∧
      Clock.incrementInPlace.runOn clock = (.ok next, next))
  vector : ∀ (vector : VersionVector κ width) (id : κ),
    CountsOrRefuses (VersionVector.incrementInPlace id) (vector.increment id) (fun vector => vector)
      id vector fun after clock => clock = after.clock id
  history : ∀ history : OwnedVector κ width,
    CountsOrRefuses OwnedVector.incrementInPlace history.increment OwnedVector.vector
      history.owner history fun after dot => after.owner = history.owner ∧ dot = after.dot
  growCounter : ∀ (counter : GrowCounter) (replica : ReplicaId),
    CountsOrRefuses (GrowCounter.incrementInPlace replica) (counter.increment replica)
      GrowCounter.counts replica counter fun _ _ => True
  increment : ∀ (counter : SignedCounter) (replica : ReplicaId),
    CountsOrRefuses (SignedCounter.incrementInPlace replica) (counter.increment replica)
      SignedCounter.increments replica counter fun after _ => after.decrements = counter.decrements
  decrement : ∀ (counter : SignedCounter) (replica : ReplicaId),
    CountsOrRefuses (SignedCounter.decrementInPlace replica) (counter.decrement replica)
      SignedCounter.decrements replica counter fun after _ => after.increments = counter.increments
  register : ∀ (register : Register β) (value : β) (writer : ReplicaId) (timestamp : Timestamp),
    CountsOrRefuses (Register.assignAtInPlace value writer timestamp)
      (register.assignAt value writer timestamp) Register.version writer register fun after _ =>
        after.value = some value ∧ after.writer = some writer ∧
          after.timestamp = max timestamp register.timestamp.next
  set : ∀ (set : TwoPhaseSet α) (elements : List α), AddsOrRefuses set elements

/-- An operation that counts an event fails just at the end of the clock, and an insertion just on
removed elements. A failure leaves the receiver as it was, down to its representation. -/
theorem refusals_change_nothing {κ : Type} [Ord κ] [Std.TransOrd κ] [Std.LawfulEqOrd κ]
    {width : Nat} {α : Type} [Ord α] [Std.TransOrd α] [Std.LawfulEqOrd α] [Diagnostic α]
    {β : Type} : RefusalsChangeNothing κ width α β where
  clock _ := ⟨Clock.refuses_at_end, Clock.advances_before_end⟩
  vector vector id :=
    countsOrRefuses (VersionVector.runOn_incrementInPlace vector id) (congrFun Except.map_id _).symm
      (fun _ => rfl) fun _ => rfl
  history history :=
    countsOrRefuses (OwnedVector.runOn_incrementInPlace history) rfl (fun _ => rfl)
      fun _ => ⟨rfl, rfl⟩
  growCounter _ _ :=
    countsOrRefuses (runOn_countIn rfl fun _ => rfl) rfl (fun _ => rfl) fun _ => trivial
  increment _ _ :=
    countsOrRefuses (runOn_countIn rfl fun _ => rfl) rfl (fun _ => rfl) fun _ => rfl
  decrement _ _ :=
    countsOrRefuses (runOn_countIn rfl fun _ => rfl) rfl (fun _ => rfl) fun _ => rfl
  register register value writer timestamp :=
    countsOrRefuses (Register.runOn_assignAtInPlace register value writer timestamp) rfl
      (fun _ => rfl) fun _ => ⟨rfl, rfl, rfl⟩
  set := addsOrRefuses

/-- The replica whose clock is at its end cannot count, and another one still can. Of four elements
two are the removed one, which is named as often. -/
theorem full_clock_and_removed_element_are_refused :
    let vector : VersionVector ReplicaId 8 := .ofDot ⟨⟨1⟩, ⟨255, by decide⟩⟩
    let set : TwoPhaseSet Nat := ⟨.ofList [2], .ofList [3]⟩
    (VersionVector.incrementInPlace ⟨1⟩).runOn vector = (.error .clockOverflow, vector) ∧
      (∃ clock after, (VersionVector.incrementInPlace ⟨2⟩).runOn vector = (.ok clock, after) ∧
        vector.OneMoreOf ⟨2⟩ after) ∧
      (TwoPhaseSet.insertAllInPlace [4, 3, 1, 3]).runOn set =
        (.error (.insertionOfRemoved ["3", "3"]), set) := by
  intro vector set
  have safe : RefusalsChangeNothing ReplicaId 8 Nat Nat := refusals_change_nothing
  obtain ⟨clock, after, ran, one, _⟩ := (safe.vector vector ⟨2⟩).room (by decide)
  refine ⟨(safe.vector vector ⟨1⟩).full (by decide), ⟨clock, after, ran, one⟩, ?_⟩
  exact ((safe.set set [4, 3, 1, 3]).removed ⟨3, by decide, .head _⟩).2

end Conclusion

end Confluence

import Confluence.Proofs.State.InPlace

/-!
The events that the owner of a history counts. Between two of them the history may take in any
vectors, dotted or not, and these may know more of the owner than the history does. At the end of
the clock an increment is refused, and the history stays as it is.

Main statement: the dots that a history hands out in the course of all this are dots of its owner,
each later than all that was known of the owner before, and without a gap for as long as nothing new
of the owner is heard. Of every other replica the history knows the most that it has heard.
-/

set_option autoImplicit false

namespace Confluence.OwnedVector

section Histories

variable {κ : Type} [Ord κ] {width : Nat}

/-- What can be done to a history: an event of its owner is counted, or a vector is taken in.
Another history is taken in as its vector. -/
inductive Act (κ : Type) [Ord κ] (width : Nat) where
  | increment
  | absorb (other : VersionVector κ width)

def Act.absorbed? : Act κ width → Option (VersionVector κ width)
  | .increment => none
  | .absorb other => some other

/-- The vectors that are taken in, in their order. -/
def absorbed (acts : List (Act κ width)) : List (VersionVector κ width) :=
  acts.filterMap Act.absorbed?

/-- The one history can become the other: owner and mode stay, and nothing that was counted is
forgotten. -/
structure Extends (history later : OwnedVector κ width) : Prop where
  owner : later.owner = history.owner
  isDotted : later.vector.isDotted = history.vector.isDotted
  within : history.vector.Within later.vector

theorem Extends.refl (history : OwnedVector κ width) : history.Extends history :=
  ⟨rfl, rfl, .refl _⟩

theorem Extends.trans {first second third : OwnedVector κ width} (lower : first.Extends second)
    (upper : second.Extends third) : first.Extends third :=
  ⟨upper.owner.trans lower.owner, upper.isDotted.trans lower.isDotted,
    lower.within.trans upper.within⟩

end Histories

variable {κ : Type} [Ord κ] [Std.TransOrd κ] [Std.LawfulEqOrd κ] {width : Nat}

/-- What an act leaves of a history. A refused increment leaves it as it is. -/
def after (history : OwnedVector κ width) : Act κ width → OwnedVector κ width
  | .increment => history.increment.toOption.getD history
  | .absorb other => history.absorb other

/-- The dot that an act hands out. A refused increment hands out none. -/
def dot? (history : OwnedVector κ width) : Act κ width → Option (Dot κ width)
  | .increment => history.increment.toOption.map dot
  | .absorb _ => none

/-- What is left of a history after some acts. -/
def perform (history : OwnedVector κ width) (acts : List (Act κ width)) : OwnedVector κ width :=
  acts.foldl after history

/-- The dots that are handed out in the course of some acts, in their order. -/
def dots (history : OwnedVector κ width) : List (Act κ width) → List (Dot κ width)
  | [] => []
  | act :: later => (history.dot? act).toList ++ (history.after act).dots later

/-- No vector that is taken in is ahead, when it is taken in, of the history on the owner. -/
def HearsNoNews (history : OwnedVector κ width) (acts : List (Act κ width)) : Prop :=
  ∀ before other later, acts = before ++ .absorb other :: later →
    other.get history.owner ≤ (history.perform before).vector.get history.owner

variable {history next : OwnedVector κ width} {act : Act κ width} {dot : Dot κ width}

/-! ## One act -/

/-- All that an act can come to: what it hands out, and what it leaves. -/
inductive ComesTo (history : OwnedVector κ width) :
    Act κ width → Option (Dot κ width) → OwnedVector κ width → Prop where
  | counted {vector : VersionVector κ width} :
      history.vector.increment history.owner = .ok vector →
        ComesTo history .increment (some (vector.dot history.owner)) ⟨history.owner, vector⟩
  | refused : history.vector.get history.owner = Word.size width - 1 →
      ComesTo history .increment none history
  | absorbed (other : VersionVector κ width) :
      ComesTo history (.absorb other) none (history.absorb other)

omit [Std.LawfulEqOrd κ] in
theorem comesTo (history : OwnedVector κ width) (act : Act κ width) :
    history.ComesTo act (history.dot? act) (history.after act) := by
  cases act with
  | absorb other => exact .absorbed other
  | increment =>
      simp only [dot?, after, increment]
      cases counted : history.vector.increment history.owner with
      | ok vector => exact .counted counted
      | error error => exact .refused (VersionVector.increment_eq_error_iff.mp counted).2

/-- An increment in place, statement by statement, answers and leaves the same. -/
theorem runOn_incrementInPlace_eq (history : OwnedVector κ width) :
    Prod.map Except.toOption id (incrementInPlace.runOn history) =
      (history.dot? .increment, history.after .increment) := by
  rw [runOn_incrementInPlace, dot?, after]
  cases history.increment <;> rfl

namespace ComesTo

variable {handedOut : Option (Dot κ width)}

theorem extension (comes : history.ComesTo act handedOut next) : history.Extends next := by
  cases comes with
  | counted counted =>
      exact ⟨rfl, VersionVector.isDotted_increment counted,
        VersionVector.within_increment counted⟩
  | refused => exact .refl history
  | absorbed other =>
      exact ⟨rfl, VersionVector.isDotted_absorb _ other, VersionVector.within_absorb _ other⟩

omit [Std.LawfulEqOrd κ] in
theorem eq_none_iff (comes : history.ComesTo .increment handedOut next) :
    handedOut = none ↔ history.vector.get history.owner = Word.size width - 1 := by
  cases comes with
  | counted counted =>
      refine iff_of_false (Option.some_ne_none _) fun atEnd => ?_
      rw [VersionVector.increment_eq_error_iff.mpr ⟨rfl, atEnd⟩] at counted
      cases counted
  | refused atEnd => exact iff_of_true rfl atEnd

/-- What is handed out is the next event of the owner, and the history has counted it. -/
theorem isNext (comes : history.ComesTo act handedOut next) (isHandedOut : dot ∈ handedOut) :
    dot.id = history.owner ∧ dot.clock.value = history.vector.get history.owner + 1 ∧
      next.vector.get history.owner = dot.clock.value := by
  cases comes with
  | counted counted =>
      cases isHandedOut
      exact ⟨rfl, VersionVector.get_increment_self counted, rfl⟩
  | refused => cases isHandedOut
  | absorbed => cases isHandedOut

theorem numbers (comes : history.ComesTo act handedOut next) :
    handedOut.toList.map (·.clock.value) =
      List.range' (history.vector.get history.owner + 1) handedOut.toList.length := by
  cases handedOut with
  | none => rfl
  | some dot => exact congrArg (fun number => [number]) (comes.isNext rfl).2.1

/-- An act that brings no news of the owner moves the clock of the owner just as it counts. -/
theorem get_owner (comes : history.ComesTo act handedOut next)
    (cumulative : history.vector.isDotted = false)
    (noNews : ∀ other, act = .absorb other →
      other.get history.owner ≤ history.vector.get history.owner) :
    next.vector.get history.owner =
      history.vector.get history.owner + handedOut.toList.length := by
  cases comes with
  | counted counted => exact VersionVector.get_increment_self counted
  | refused => rfl
  | absorbed other =>
      rw [absorb, VersionVector.get_absorb cumulative]
      exact Nat.max_eq_left (noNews other rfl)

theorem get_of_ne (comes : history.ComesTo act handedOut next)
    (cumulative : history.vector.isDotted = false) {id : κ} (different : id ≠ history.owner) :
    next.vector.get id =
      ((OwnedVector.absorbed [act]).map (·.get id)).foldl max (history.vector.get id) := by
  cases comes with
  | counted counted => exact VersionVector.get_increment_of_ne counted different
  | refused => rfl
  | absorbed other => exact VersionVector.get_absorb cumulative other id

end ComesTo

/-! ## A course of acts -/

theorem extends_perform (history : OwnedVector κ width) (acts : List (Act κ width)) :
    history.Extends (history.perform acts) := by
  induction acts generalizing history with
  | nil => exact .refl history
  | cons act later ih => exact (history.comesTo act).extension.trans (ih (history.after act))

omit [Std.LawfulEqOrd κ] in
theorem dots_append (history : OwnedVector κ width) (before later : List (Act κ width)) :
    history.dots (before ++ later) = history.dots before ++ (history.perform before).dots later := by
  induction before generalizing history with
  | nil => rfl
  | cons act before ih =>
      rw [List.cons_append, dots, ih, dots, List.append_assoc]
      rfl

/-- Whatever is handed out is an event of the owner that the history had not counted yet. -/
theorem isNew_of_mem_dots {acts : List (Act κ width)} (isHandedOut : dot ∈ history.dots acts) :
    dot.id = history.owner ∧ history.vector.get history.owner < dot.clock.value := by
  induction acts generalizing history with
  | nil => cases isHandedOut
  | cons act later ih =>
      have comes := history.comesTo act
      rcases List.mem_append.mp isHandedOut with now | afterwards
      · obtain ⟨own, isNext, _⟩ := comes.isNext (Option.mem_toList.mp now)
        exact ⟨own, isNext ▸ Nat.lt_succ_self _⟩
      · obtain ⟨own, isNew⟩ := ih afterwards
        rw [comes.extension.owner] at own isNew
        exact ⟨own, Nat.lt_of_le_of_lt (comes.extension.within _) isNew⟩

theorem rising_dots (history : OwnedVector κ width) (acts : List (Act κ width)) :
    (history.dots acts).Pairwise fun earlier later => earlier.clock.value < later.clock.value := by
  induction acts generalizing history with
  | nil => exact .nil
  | cons act later ih =>
      have comes := history.comesTo act
      refine List.pairwise_append.mpr ⟨?_, ih (history.after act), ?_⟩
      · cases history.dot? act <;> simp
      · -- The history has counted what it hands out now, and what it hands out later is new to it.
        intro first now other afterwards
        obtain ⟨_, _, counted⟩ := comes.isNext (Option.mem_toList.mp now)
        have isNew := (isNew_of_mem_dots afterwards).2
        rw [comes.extension.owner, counted] at isNew
        exact isNew

theorem within_perform_of_absorbed (cumulative : history.vector.isDotted = false)
    {acts : List (Act κ width)} {other : VersionVector κ width}
    (isAbsorbed : other ∈ absorbed acts) : other.Within (history.perform acts).vector := by
  induction acts generalizing history with
  | nil => cases isAbsorbed
  | cons act later ih =>
      obtain ⟨taken, isTaken, isOther⟩ := List.mem_filterMap.mp isAbsorbed
      rcases List.mem_cons.mp isTaken with rfl | isLater
      · cases taken with
        | increment => cases isOther
        | absorb taken =>
            cases isOther
            exact (VersionVector.within_absorb_right cumulative other).trans
              (extends_perform (history.absorb other) later).within
      · exact ih ((history.comesTo act).extension.isDotted.trans cumulative)
          (List.mem_filterMap.mpr ⟨taken, isLater, isOther⟩)

theorem get_perform_of_ne (cumulative : history.vector.isDotted = false)
    (acts : List (Act κ width)) {id : κ} (different : id ≠ history.owner) :
    (history.perform acts).vector.get id =
      ((absorbed acts).map (·.get id)).foldl max (history.vector.get id) := by
  induction acts generalizing history with
  | nil => rfl
  | cons act later ih =>
      have comes := history.comesTo act
      have split : absorbed (act :: later) = absorbed [act] ++ absorbed later :=
        List.filterMap_append (l := [act])
      rw [split, List.map_append, List.foldl_append, ← comes.get_of_ne cumulative different]
      exact ih (comes.extension.isDotted.trans cumulative) (comes.extension.owner ▸ different)

/-! ## Courses without news of the owner -/

theorem hearsNoNews_cons_iff {later : List (Act κ width)} :
    history.HearsNoNews (act :: later) ↔
      (∀ other, act = .absorb other →
        other.get history.owner ≤ history.vector.get history.owner) ∧
          (history.after act).HearsNoNews later := by
  have sameOwner := (history.comesTo act).extension.owner
  constructor
  · intro noNews
    refine ⟨fun other isAbsorb => noNews [] other later (congrArg (· :: later) isAbsorb), ?_⟩
    rintro before other rest rfl
    rw [sameOwner]
    exact noNews (act :: before) other rest rfl
  · rintro ⟨now, afterwards⟩ before other rest split
    cases before with
    | nil => exact now other (List.cons.inj split).1
    | cons first before =>
        obtain ⟨rfl, rfl⟩ := List.cons.inj split
        exact sameOwner ▸ afterwards before other rest rfl

theorem consecutive_dots (cumulative : history.vector.isDotted = false)
    {acts : List (Act κ width)} (noNews : history.HearsNoNews acts) :
    (history.dots acts).map (·.clock.value) =
      List.range' (history.vector.get history.owner + 1) (history.dots acts).length := by
  induction acts generalizing history with
  | nil => rfl
  | cons act later ih =>
      have comes := history.comesTo act
      obtain ⟨noNewsNow, noNewsLater⟩ := hearsNoNews_cons_iff.mp noNews
      have moved := comes.get_owner cumulative noNewsNow
      have rest := ih (comes.extension.isDotted.trans cumulative) noNewsLater
      rw [comes.extension.owner, moved, Nat.add_right_comm] at rest
      rw [dots, List.map_append, comes.numbers, rest, List.range'_append_1, List.length_append]

/-! ## The clock of the owner -/

/-- What becomes of a history in any course of acts, and what it hands out. The dots of a course are
those of its parts, one after the other, and each part goes on where the last one has ended. -/
structure KeepsOwnClock (start : OwnedVector κ width) : Prop where
  inPlace : ∀ before, Prod.map Except.toOption id (incrementInPlace.runOn (start.perform before)) =
    ((start.perform before).dot? .increment, (start.perform before).after .increment)
  refused : ∀ before, (start.perform before).dot? .increment = none ↔
    (start.perform before).vector.get start.owner = Word.size width - 1
  inTurn : ∀ before later,
    start.dots (before ++ later) = start.dots before ++ (start.perform before).dots later
  neverBack : ∀ before later, (start.perform before).Extends (start.perform (before ++ later))
  own : ∀ acts, ∀ dot ∈ start.dots acts, dot.id = start.owner
  rising : ∀ acts,
    (start.dots acts).Pairwise fun earlier later => earlier.clock.value < later.clock.value
  beyondStart : ∀ acts, ∀ dot ∈ start.dots acts,
    start.vector.get start.owner < dot.clock.value
  beyondAbsorbed : ∀ before later, ∀ other ∈ absorbed before,
    ∀ dot ∈ (start.perform before).dots later, other.get start.owner < dot.clock.value
  consecutive : ∀ before stretch, (start.perform before).HearsNoNews stretch →
    ((start.perform before).dots stretch).map (·.clock.value) =
      List.range' ((start.perform before).vector.get start.owner + 1)
        ((start.perform before).dots stretch).length
  others : ∀ acts, ∀ id ≠ start.owner, (start.perform acts).vector.get id =
    ((absorbed acts).map (·.get id)).foldl max (start.vector.get id)

/-- However a history that is not dotted is made to count and to take in vectors, of either mode and
with whatever they say of its owner: no event of the owner is handed out twice, and none that others
knew already. -/
theorem own_clock_never_repeats {start : OwnedVector κ width}
    (cumulative : start.vector.isDotted = false) : start.KeepsOwnClock where
  inPlace _ := runOn_incrementInPlace_eq _
  refused before := by
    rw [← (extends_perform start before).owner]
    exact (comesTo _ .increment).eq_none_iff
  inTurn := dots_append start
  neverBack before later := by
    rw [perform, perform, List.foldl_append]
    exact extends_perform _ later
  own _ _ isHandedOut := (isNew_of_mem_dots isHandedOut).1
  rising := rising_dots start
  beyondStart _ _ isHandedOut := (isNew_of_mem_dots isHandedOut).2
  beyondAbsorbed before _ _ isAbsorbed _ isHandedOut := by
    have known := within_perform_of_absorbed cumulative isAbsorbed start.owner
    have isNew := (isNew_of_mem_dots isHandedOut).2
    rw [(extends_perform start before).owner] at isNew
    exact Nat.lt_of_le_of_lt known isNew
  consecutive before _ noNews := by
    have extended := extends_perform start before
    rw [← extended.owner]
    exact consecutive_dots (extended.isDotted.trans cumulative) noNews
  others acts _ different := get_perform_of_ne cumulative acts different

/-- Twice others know more of the owner than the history: the clock goes on after what they know,
and at its end it refuses. Between the two a vector says nothing new of the owner. -/
theorem own_clock_goes_on_after_news_of_its_owner :
    ∃ (start : OwnedVector Nat 8) (news moreNews : VersionVector Nat 8) (quiet : List (Act Nat 8)),
      start.vector.isDotted = false ∧ news.isDotted = true ∧
      (start.perform [.absorb news]).HearsNoNews quiet ∧
      ((start.perform [.absorb news]).dots quiet).map (·.clock.value) = [6, 7] ∧
      (∀ dot ∈ (start.perform [.absorb news]).dots quiet, news.get 1 < dot.clock.value) ∧
      let acts := [.absorb news] ++ quiet ++ [.absorb moreNews, .increment]
      start.dots acts = [⟨1, ⟨6, by decide⟩⟩, ⟨1, ⟨7, by decide⟩⟩, ⟨1, ⟨255, by decide⟩⟩] ∧
      (start.dots acts).Pairwise (fun earlier later => earlier.clock.value < later.clock.value) ∧
      (start.perform acts).vector.get 2 = 9 ∧ (start.perform acts).dot? .increment = none := by
  let start : OwnedVector Nat 8 := ⟨1, .ofList [(1, ⟨3, by decide⟩), (2, ⟨0, by decide⟩)]⟩
  let news : VersionVector Nat 8 := .ofDot ⟨1, ⟨5, by decide⟩⟩
  let moreNews : VersionVector Nat 8 := .ofList [(1, ⟨254, by decide⟩)]
  let elsewhere : VersionVector Nat 8 := .ofList [(1, ⟨6, by decide⟩), (2, ⟨9, by decide⟩)]
  let quiet : List (Act Nat 8) := [.increment, .absorb elsewhere, .increment]
  have keeps : start.KeepsOwnClock := own_clock_never_repeats rfl
  have noNews : (start.perform [.absorb news]).HearsNoNews quiet := by
    refine hearsNoNews_cons_iff.mpr ⟨nofun, hearsNoNews_cons_iff.mpr ⟨?_, ?_⟩⟩
    · intro other isAbsorb
      cases isAbsorb
      decide
    · refine hearsNoNews_cons_iff.mpr ⟨nofun, ?_⟩
      intro before other later split
      cases before <;> cases split
  refine ⟨start, news, moreNews, quiet, rfl, rfl, noNews, ?_, ?_, by decide, keeps.rising _, ?_, ?_⟩
  · exact (keeps.consecutive _ _ noNews).trans (by decide)
  · exact keeps.beyondAbsorbed [.absorb news] quiet news (.head _)
  · exact (keeps.others _ 2 (by decide)).trans (by decide)
  · exact (keeps.refused _).mpr (by decide)

/-- A dotted history takes in nothing of an owner that it does not carry, and hands out what others
knew already. -/
example :
    let start : OwnedVector Nat 8 := ⟨1, .ofDot ⟨2, ⟨3, by decide⟩⟩⟩
    let news : VersionVector Nat 8 := .ofList [(1, ⟨5, by decide⟩)]
    start.dots [.absorb news, .increment] = [⟨1, ⟨1, by decide⟩⟩] := by decide

end Confluence.OwnedVector

import Confluence.Proofs.Network.ChannelCourse

/-!
What holds in every run of a network, however the acts interleave: the account of each channel is
sound, nothing but an open channel or one that is being closed is attached, and the exchange keeps
its books. It is the order of the steps of a closing that matters here. A channel is detached in the
very act that finishes it, so that none is attached any more when its closing is over.
-/

set_option autoImplicit false

namespace Confluence

namespace Journal

variable {ρ μ : Type} [Message μ] {journal next : Journal ρ μ} {handle : Nat}

/-- Handles are given in order, each account is sound, only what holds an identifier is attached
under it, and the exchange has its books in order. -/
structure Sound (journal : Journal ρ μ) : Prop where
  unused : ∀ handle, journal.network.nextHandle ≤ handle →
    journal.account handle = ⟨none, .blank⟩
  accounts : ∀ handle, (journal.account handle).Sound
  attached : ∀ id handle, journal.network.exchange.endpoints.get? id = some (.member handle) →
    (journal.account handle).Holds id
  balanced : journal.network.exchange.Balanced

namespace Sound

theorem start (identifiers : List ReplicaId) : (start identifiers : Journal ρ μ).Sound where
  unused _ _ := rfl
  accounts _ := Account.sound_absent
  attached _ _ isAttached := by cases isAttached
  balanced := Exchange.balanced_empty

/-- Only a channel that is there is attached. -/
theorem elsewhere (sound : journal.Sound) {id : ReplicaId} {absent : Nat}
    (gone : journal.network.members.get? absent = none)
    (isAttached : journal.network.exchange.endpoints.get? id = some (.member handle)) :
    handle ≠ absent := by
  rintro rfl
  have holds := sound.attached id handle isAttached
  rw [account, gone] at holds
  exact Account.not_holds_of_absent holds

theorem known (sound : journal.Sound) (isThere : journal.account handle ≠ ⟨none, .blank⟩) :
    handle < journal.network.nextHandle :=
  Nat.lt_of_not_le fun later => isThere (sound.unused handle later)

theorem known_of_phase (sound : journal.Sound) {phase : Phase}
    (shown : journal.network.phase? handle = some phase) :
    handle < journal.network.nextHandle := by
  refine sound.known fun blank => ?_
  have gone : journal.network.phase? handle = none := congrArg Account.phase? blank
  rw [shown] at gone
  cases gone

theorem known_of_stage (sound : journal.Sound)
    (notRunning : (journal.notes handle).stage ≠ .running) :
    handle < journal.network.nextHandle := by
  refine sound.known fun blank => notRunning ?_
  exact congrArg (·.notes.stage) blank

theorem attached_of_keeps (sound : journal.Sound) (kept : Keeps journal next) {id : ReplicaId}
    (isAttached : next.network.exchange.endpoints.get? id = some (.member handle)) :
    (next.account handle).Holds id := by
  rw [kept.network.endpoints] at isAttached
  have samePhase : (next.account handle).phase? = (journal.account handle).phase? :=
    kept.network.phases handle
  have sameStage : (next.account handle).notes.stage = (journal.account handle).notes.stage :=
    kept.stages handle
  have holds := sound.attached id handle isAttached
  unfold Account.Holds at holds ⊢
  rw [samePhase, sameStage]
  exact holds

/-- Detaching a channel leaves it attached nowhere, as there is no other identifier under which it
could be. -/
theorem detached (sound : journal.Sound) {target : Nat} {id : ReplicaId}
    (isAttached : (journal.network.detachMember target).exchange.endpoints.get? id =
      some (.member handle)) :
    handle ≠ target ∧ journal.network.exchange.endpoints.get? id = some (.member handle) := by
  have named : ∀ {member}, journal.network.members.get? handle = some member →
      journal.network.exchange.endpoints.get? id = some (.member handle) →
        member.channel.id? = some id := by
    intro member present wasAttached
    have holds := sound.attached id handle wasAttached
    rw [account_of_member present] at holds
    exact Channel.id?_eq_some_iff.mpr
      (holds.imp Option.some.inj fun closed => Option.some.inj closed.1)
  unfold Network.detachMember Network.channel at isAttached
  cases present : journal.network.members.get? target with
  | none =>
      simp only [present] at isAttached
      exact ⟨sound.elsewhere present isAttached, isAttached⟩
  | some member =>
      simp only [present] at isAttached
      cases address : member.channel.id? with
      | none =>
          simp only [address] at isAttached
          refine ⟨?_, isAttached⟩
          rintro rfl
          exact absurd ((named present isAttached).symm.trans address) (Option.some_ne_none _)
      | some other =>
          simp only [address, Network.detach, Exchange.endpoints_detach] at isAttached
          split at isAttached
          · cases isAttached
          next different =>
            refine ⟨?_, isAttached⟩
            rintro rfl
            exact different (Option.some.inj ((named present isAttached).symm.trans address))

theorem accounted (sound : journal.Sound) (isThere : journal.network.phase? handle ≠ none) :
    (journal.notes handle).accepted.Perm ((journal.notes handle).applied ++
      (journal.account handle).unapplied.map (·.message)) := by
  refine (sound.accounts handle).accounted.accounted fun gone => isThere ?_
  exact congrArg (Option.map fun member => member.channel.phase) gone

theorem shut_of_rank (sound : journal.Sound) (begun : 1 ≤ (journal.notes handle).stage.rank) :
    (journal.account handle).IsShut := (sound.accounts handle).staged.shut_of_rank begun

/-- A channel that is detached at the end of its closing is attached nowhere from then on. -/
theorem unawaited (sound : journal.Sound) (late : 3 ≤ (journal.notes handle).stage.rank)
    {destination : ReplicaId} :
    journal.network.exchange.endpoints.get? destination ≠ some (.member handle) := by
  intro isAttached
  have shut := sound.shut_of_rank (Nat.le_trans (Nat.le_add_left 1 2) late)
  have early := ((sound.attached destination handle isAttached).shut shut).2
  exact absurd (Nat.le_trans late early) (by decide)

variable [Updatable ρ μ]

theorem attached_register (sound : journal.Sound) {target bound : Nat} {id : ReplicaId}
    (isAttached : (journal.act (.register target bound)).network.exchange.endpoints.get? id =
      some (.member handle)) :
    ((journal.act (.register target bound)).account handle).Holds id := by
  simp only [act, attempt] at isAttached ⊢
  cases registered : journal.network.register target bound with
  | error error =>
      rw [registered] at isAttached
      exact sound.attached id handle isAttached
  | ok network =>
      rw [registered] at isAttached
      obtain ⟨member, exchange, present, unconnected, attached, rfl⟩ :=
        Network.register_cases registered
      obtain ⟨_, _, rfl⟩ := Exchange.attach_eq_ok attached
      have shown := journal.account_setMember target handle
        { member with channel := member.channel.connect member.id }
      refine cast (congrArg (Account.Holds · id) shown.symm) ?_
      simp only [OrderedMap.get?_insert] at isAttached
      split at isAttached
      next same =>
        cases isAttached
        rw [if_pos rfl, Std.LawfulEqCmp.eq_of_compare same]
        exact .inl rfl
      next =>
        have holds := sound.attached id handle isAttached
        split
        next here =>
          rw [here, account_of_member present] at holds
          refine absurd ?_ holds.registered
          exact congrArg some (Channel.phase_eq_unregistered_iff.mpr unconnected)
        next => exact holds

theorem attached_beginClosing (sound : journal.Sound) {target : Nat} {id : ReplicaId}
    (isAttached : (journal.act (.beginClosing target)).network.exchange.endpoints.get? id =
      some (.member handle)) :
    ((journal.act (.beginClosing target)).account handle).Holds id := by
  simp only [act] at isAttached ⊢
  cases begun : journal.network.beginClosing target with
  | error error =>
      rw [begun] at isAttached
      exact sound.attached id handle isAttached
  | ok network =>
      rw [begun] at isAttached
      obtain ⟨member, channel, present, flipped, rfl⟩ := Network.beginClosing_cases begun
      have holds := sound.attached id handle isAttached
      simp only [account_note, account_setMember]
      split
      next here =>
        rw [here, account_of_member present] at holds
        obtain ⟨address, wasOpen, isClosed⟩ := Channel.phase_beginClosing flipped
        rcases holds with isOpen | ⟨wasClosed, _⟩
        · rw [Account.phase?, Option.map_some, wasOpen] at isOpen
          cases isOpen
          exact .inr ⟨congrArg some isClosed, Nat.le_succ 1⟩
        · rw [Account.phase?, Option.map_some, wasOpen] at wasClosed
          cases wasClosed
      next => exact holds

theorem attached_beginLastCycle (sound : journal.Sound) {target : Nat} {id : ReplicaId}
    (isAttached : (journal.act (.beginLastCycle target)).network.exchange.endpoints.get? id =
      some (.member handle)) :
    ((journal.act (.beginLastCycle target)).account handle).Holds id := by
  simp only [act, beginLastCycle] at isAttached ⊢
  split at isAttached
  next draining =>
    rw [if_pos draining, account_note]
    have holds := sound.attached id handle isAttached
    split
    next here =>
      subst here
      have shut := sound.shut_of_rank (Nat.le_of_eq (congrArg Stage.rank draining).symm)
      exact .inr ⟨(holds.shut shut).1, Nat.le_refl 2⟩
    next => exact holds
  next notDraining =>
    rw [if_neg notDraining]
    exact sound.attached id handle isAttached

/-- A channel is detached when its closing is finished: nothing else can be attached as itself. -/
theorem attached_finish (sound : journal.Sound) {target : Nat} {id : ReplicaId}
    (isAttached : (journal.act (.finish target)).network.exchange.endpoints.get? id =
      some (.member handle)) :
    ((journal.act (.finish target)).account handle).Holds id := by
  simp only [act] at isAttached ⊢
  split at isAttached
  next due =>
    obtain ⟨elsewhere, wasAttached⟩ := sound.detached isAttached
    have sameAccount : account
        { journal with network := journal.network.detachMember target } handle =
          journal.account handle := by
      simp only [account, members_detachMember]
    rw [if_pos due, account_note, if_neg elsewhere, sameAccount]
    exact sound.attached id handle wasAttached
  next notDue =>
    rw [if_neg notDue]
    exact sound.attached id handle isAttached

/-- Whoever is attached is not stopped, as that comes after it was detached. -/
theorem attached_stop (sound : journal.Sound) {target : Nat} {id : ReplicaId}
    (isAttached : (journal.act (.stop target)).network.exchange.endpoints.get? id =
      some (.member handle)) :
    ((journal.act (.stop target)).account handle).Holds id := by
  simp only [act] at isAttached ⊢
  split at isAttached
  next due =>
    rw [if_pos due, account_note]
    split
    next here =>
      subst here
      exact absurd isAttached (sound.unawaited (Nat.le_of_eq (congrArg Stage.rank due.1).symm))
    next => exact sound.attached id handle isAttached
  next notDue =>
    rw [if_neg notDue]
    exact sound.attached id handle isAttached

theorem attached_act (sound : journal.Sound) (act : Act ρ μ) {id : ReplicaId}
    (isAttached : (journal.act act).network.exchange.endpoints.get? id = some (.member handle)) :
    ((journal.act act).account handle).Holds id := by
  cases act with
  | addMember other order replica =>
      have isOld : handle ≠ journal.network.nextHandle := by
        refine sound.elsewhere ?_ isAttached
        exact congrArg Account.member (sound.unused _ (Nat.le_refl _))
      have shown := journal.account_setMember journal.network.nextHandle handle
        ⟨other, .unregistered order, replica⟩
      rw [if_neg isOld] at shown
      exact shown ▸ sound.attached id handle isAttached
  | register target bound => exact sound.attached_register isAttached
  | attachProbe other refusals =>
      simp only [Journal.act, attempt] at isAttached ⊢
      cases done : journal.network.attachProbe other refusals with
      | error error =>
          rw [done] at isAttached
          exact sound.attached id handle isAttached
      | ok network =>
          rw [done] at isAttached
          obtain ⟨exchange, attached, finished⟩ := Outcome.bind_eq_ok done
          cases finished
          obtain ⟨_, _, rfl⟩ := Exchange.attach_eq_ok attached
          simp only [OrderedMap.get?_insert] at isAttached
          split at isAttached
          · cases isAttached
          · exact sound.attached id handle isAttached
  | detach other =>
      simp only [Journal.act, Network.detach, Exchange.endpoints_detach] at isAttached
      split at isAttached
      · cases isAttached
      · exact sound.attached id handle isAttached
  | beginClosing target => exact sound.attached_beginClosing isAttached
  | beginLastCycle target => exact sound.attached_beginLastCycle isAttached
  | finish target => exact sound.attached_finish isAttached
  | stop target => exact sound.attached_stop isAttached
  | drop target =>
      have sameExchange : (journal.network.drop target).exchange =
          (journal.network.detachMember target).exchange := journal.network.exchange_drop target
      simp only [Journal.act, sameExchange] at isAttached
      obtain ⟨elsewhere, wasAttached⟩ := sound.detached isAttached
      simp only [Journal.act, account, Network.members_drop, if_neg elsewhere]
      exact sound.attached id handle wasAttached
  | _ => exact sound.attached_of_keeps (Keeps.act journal rfl) isAttached

theorem act [EquivBEq (Message.Key μ)] (sound : journal.Sound) (act : Act ρ μ) :
    (journal.act act).Sound := by
  refine ⟨fun handle later => ?_, fun handle => ?_, fun id handle => sound.attached_act act,
    (journal.exchange_act act).balanced sound.balanced⟩
  · have wasUnused := sound.unused handle (Nat.le_trans (journal.nextHandle_act act) later)
    cases journal.effect act handle with
    | comes id order replica isAdded isNew _ =>
        rw [isAdded, isNew] at later
        exact absurd later (Nat.not_succ_le_self _)
    | moves moves =>
        rw [wasUnused] at moves
        exact moves.of_blank
  · cases journal.effect act handle with
    | comes id order replica _ isNew shown =>
        have blank : journal.notes handle = .blank :=
          congrArg Account.notes (sound.unused handle (Nat.le_of_eq isNew.symm))
        rw [shown, blank]
        exact Account.sound_blank id order replica
    | moves moves => exact (sound.accounts handle).moves moves

theorem perform [EquivBEq (Message.Key μ)] (sound : journal.Sound) (acts : List (Act ρ μ)) :
    (journal.perform acts).Sound := by
  induction acts generalizing journal with
  | nil => exact sound
  | cons first later ih => exact ih (sound.act first)

end Sound

end Journal

end Confluence

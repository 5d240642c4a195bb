import Confluence.Network.Note
import Confluence.Proofs.Network.ClosingSteps
import Confluence.Proofs.Network.JournalSoundness
import Confluence.Proofs.Network.LastCycle
import Confluence.Proofs.Network.UninterruptedActs
import Confluence.Proofs.Replication.AwaitedMessages

/-!
What channels promise in every run of a network, however the acts of different calls, fan-out cycles,
apply cycles and closings interleave.

Main statement: a channel is opened once and closed once; a registration that is refused changes
nothing; only calls that find a channel open pass it; when it is closed, whatever it has accepted is
applied, was refused by the replica, or came late, from a call that had found the channel open;
nothing that is pending awaits it any more, what it has published still awaits all others, and its
replica rests.

That a message was refused does not mean that it would be refused again. An apply task that is in
the middle of a cycle may put a message back after the one who closes the channel has applied what it
waits for. If nobody else is at work, and if a replica stays as it is when it refuses a message, then
what is left is refused still. The replica can also be altered past its channel, by calls that use it
locally; what is said of a replica at rest leaves these out, and all else may happen.
-/

set_option autoImplicit false

namespace Confluence

namespace Journal

variable {ρ μ : Type} [Message μ] [Updatable ρ μ] {journal : Journal ρ μ} {handle : Nat}
  {id : ReplicaId}

/-! ## The contract -/

/-- A step in the closing of a channel. -/
def Act.closes (handle : Nat) : Act ρ μ → Bool
  | .beginClosing other | .beginLastCycle other | .work other .closing | .finish other
  | .stop other => other == handle
  | _ => false

/-- What is so of a channel that was closed earlier: no message has entered or left but those of
calls that had found it open, and it takes nothing, not even to be closed. -/
structure ClosedSince (earlier journal : Journal ρ μ) (handle : Nat) : Prop where
  calls : Account.Closes (earlier.account handle) (journal.account handle)
  refuses : journal.network.phase? handle = none ∨
    (∀ message, journal.network.publish handle message = .error .channelClosed) ∧
      (∀ message, journal.network.receive handle message = .error .channelClosed) ∧
      journal.network.close handle = (.error .channelClosed, journal.network)

/-- What the closing of a channel leaves behind: of the messages that were accepted those that are
not applied are in its queue, and the replica has refused each of them at least once, unless it
arrived when the flag was flipped; and nothing that is pending awaits the channel. -/
structure ClosedDown (journal : Journal ρ μ) (handle : Nat) : Prop where
  accounted : journal.network.phase? handle ≠ none →
    (journal.notes handle).accepted.Perm ((journal.notes handle).applied ++
      (journal.account handle).queue.map (·.message))
  tried : (journal.account handle).replica? = none ∨ ∀ queued ∈ (journal.account handle).queue,
    queued.arrival ∈ (journal.notes handle).refused ∨
      (journal.notes handle).mark ≤ queued.arrival
  unawaited : ∀ number message destination,
    journal.network.exchange.Awaits number message destination →
      journal.network.exchange.endpoints.get? destination ≠ some (.member handle)

/-- The promises of all channels of a network, at one moment and for all that may follow. -/
structure Contract (journal : Journal ρ μ) : Prop where
  uninterrupted : Uninterrupted journal
  comes : ∀ handle, journal.network.nextHandle ≤ handle → ∀ act,
    (journal.act act).network.phase? handle = none ∨
      (journal.act act).network.phase? handle = some .unregistered
  follows : ∀ handle, handle < journal.network.nextHandle → ∀ act,
    Phase.Follows (journal.network.phase? handle) ((journal.act act).network.phase? handle)
  advances : ∀ handle, handle < journal.network.nextHandle → ∀ acts,
    Phase.Leads (journal.network.phase? handle) ((journal.perform acts).network.phase? handle)
  refusedRegistration : ∀ handle bound error,
    journal.network.register handle bound = .error error ↔
      journal.network.RefusesChannel handle bound error
  unchanged : ∀ handle bound error, journal.network.register handle bound = .error error →
    journal.act (.register handle bound) = journal
  /-- A channel whose registration was refused is dropped without a trace in the exchange. -/
  neverRegistered : ∀ handle, journal.network.phase? handle = some .unregistered →
    (journal.act (.drop handle)).network.exchange = journal.network.exchange
  publishes : ∀ handle message next, journal.network.publish handle message = .ok next →
    ∃ id, journal.network.phase? handle = some (.opened id)
  receives : ∀ handle message next, journal.network.receive handle message = .ok next →
    ∃ id, journal.network.phase? handle = some (.opened id)
  /-- A call that publishes or receives goes on only if it finds the channel open. -/
  calls : ∀ handle, (∀ id, journal.network.phase? handle ≠ some (.opened id)) → ∀ message,
    journal.act (.beginPublish handle message) = journal ∧
      journal.act (.beginReceive handle message) = journal
  closed : ∀ handle id, journal.network.phase? handle = some (.closed id) → ∀ acts,
    ClosedSince journal (journal.perform acts) handle
  accounted : ∀ handle, journal.network.phase? handle ≠ none →
    (journal.notes handle).accepted.Perm ((journal.notes handle).applied ++
      (journal.account handle).unapplied.map (·.message))
  /-- What is not applied has arrival numbers of its own. -/
  numbered : ∀ handle, ((journal.account handle).unapplied.map (·.arrival)).Nodup
  /-- A channel is closed by its closing alone. -/
  begun : ∀ handle id, journal.network.phase? handle = some (.closed id) →
    (journal.notes handle).stage ≠ .running
  /-- Detaching a channel takes from the exchange what awaits it, and nothing else. -/
  detaches : ∀ handle id, (journal.notes handle).stage = .applying →
    (journal.notes handle).work .closing = .idle →
    journal.network.phase? handle = some (.closed id) → ∀ number message destination,
      ((journal.act (.finish handle)).network.exchange.Awaits number message destination ↔
        journal.network.exchange.Awaits number message destination ∧ destination ≠ id)
  /-- Whether the channel was drained or not, what it has published awaits whom it awaited. -/
  keepsOwn : ∀ handle id, (journal.notes handle).stage = .applying →
    (journal.notes handle).work .closing = .idle →
    journal.network.phase? handle = some (.closed id) → ∀ number message destination,
      Message.origin message = id →
        ((journal.act (.finish handle)).network.exchange.Awaits number message destination ↔
          journal.network.exchange.Awaits number message destination)
  /-- What is pending awaits a destination until that is acknowledged, or until the destination is
  detached. Whether its origin is there does not matter. -/
  pending : ∀ act number message destination,
    journal.network.exchange.Awaits number message destination →
      (journal.act act).network.exchange.Awaits number message destination ∨
        (journal.act act).network.exchange.endpoints.get? destination = none ∨
        ∃ accepted, (number, destination) ∈ accepted ∧
          (journal.act act).network.exchange = journal.network.exchange.acknowledge accepted
  unawaited : ∀ handle, 3 ≤ (journal.notes handle).stage.rank → ∀ number message destination,
    journal.network.exchange.Awaits number message destination →
      journal.network.exchange.endpoints.get? destination ≠ some (.member handle)
  /-- When the closing is over, a channel stays closed down, and its replica rests unless it is
  altered past the channel, even if it would accept by now what is left in the queue. -/
  stopped : ∀ handle, (journal.notes handle).stage = .stopped →
    ∀ acts, (∀ act ∈ acts, act.manner handle ≠ .alters) →
      ClosedDown (journal.perform acts) handle ∧
        Account.Rests (journal.account handle) ((journal.perform acts).account handle)
  /-- Closing a channel on the virtual clock takes these steps, to the end. The apply task is idle
  there between its cycles. -/
  closes : ∀ handle next, journal.network.close handle = (.ok (), next) →
    (journal.notes handle).work .task = .idle →
      ∃ acts, (∀ act ∈ acts, act.fansOut = true ∨ act.closes handle = true) ∧
        (journal.perform acts).network = next ∧
        ((journal.perform acts).notes handle).stage = .stopped

/-- Nothing is left of a channel but what its replica refuses. -/
structure Drained (journal : Journal ρ μ) (handle : Nat) : Prop where
  refused : ∀ queued ∈ (journal.account handle).unapplied,
    ∃ error, (journal.network.update handle queued.message).1 = .error error
  unawaited : ∀ number message destination,
    journal.network.exchange.Awaits number message destination →
      journal.network.exchange.endpoints.get? destination ≠ some (.member handle)

/-- What channels promise besides if nobody interferes with their last cycle. -/
structure Settles (journal : Journal ρ μ) : Prop where
  /-- A closing settles everything if at some moment before its last cycle no call is about to
  enqueue a message and the apply task is idle, and if the task begins no cycle until the channel is
  detached and nobody alters the replica. From then on the task may run cycles again. -/
  settles : ∀ handle, (journal.notes handle).stage = .draining →
    (journal.notes handle).entering = [] → (journal.notes handle).work .task = .idle →
      ∀ acts, (∀ act ∈ acts, act.manner handle = .ordinary) →
        3 ≤ ((journal.perform acts).notes handle).stage.rank →
          ∀ later, (∀ act ∈ later, act.manner handle ≠ .alters) →
            Drained ((journal.perform acts).perform later) handle ∧
              Account.Rests ((journal.perform acts).account handle)
                (((journal.perform acts).perform later).account handle)
  /-- On the virtual clock nobody interferes. -/
  closes : ∀ handle next, journal.network.close handle = (.ok (), next) →
    (journal.notes handle).entering = [] → (journal.notes handle).work .task = .idle →
      ∃ acts, (∀ act ∈ acts, act.fansOut = true ∨ act.closes handle = true) ∧
        (journal.perform acts).network = next ∧
        ((journal.perform acts).notes handle).stage = .stopped ∧
        Drained (journal.perform acts) handle

/-! ## Phases -/

theorem follows (known : handle < journal.network.nextHandle) (act : Act ρ μ) :
    Phase.Follows (journal.network.phase? handle) ((journal.act act).network.phase? handle) := by
  cases journal.effect act handle with
  | comes _ _ _ _ isNew _ => exact absurd isNew (Nat.ne_of_lt known)
  | moves moves => exact moves.follows

theorem advances (known : handle < journal.network.nextHandle) (acts : List (Act ρ μ)) :
    Phase.Leads (journal.network.phase? handle) ((journal.perform acts).network.phase? handle) :=
  account_perform (fun later => Phase.Leads (journal.network.phase? handle) later.phase?)
    (fun (_ : True) moves leads => leads.trans moves.follows) known (.follows (.stays _))
    fun _ _ => trivial

theorem comes (sound : journal.Sound) (isNew : journal.network.nextHandle ≤ handle)
    (act : Act ρ μ) : (journal.act act).network.phase? handle = none ∨
      (journal.act act).network.phase? handle = some .unregistered := by
  have blank := sound.unused handle isNew
  cases journal.effect act handle with
  | comes id order replica _ _ shown => exact .inr (congrArg Account.phase? shown)
  | moves moves =>
      rw [blank] at moves
      exact .inl (congrArg Account.phase? moves.of_blank)

/-! ## Calls -/

omit [Updatable ρ μ] in
theorem ensureOpen_eq_error (notOpen : ∀ id, journal.network.phase? handle ≠ some (.opened id)) :
    ∃ error, journal.network.ensureOpen handle = .error error := by
  cases tested : journal.network.ensureOpen handle with
  | error error => exact ⟨error, rfl⟩
  | ok _ =>
      obtain ⟨member, id, present, opened⟩ := opened_of_ensureOpen tested
      exact absurd ((Network.phase?_of_member present).trans (congrArg some opened)) (notOpen id)

theorem calls (notOpen : ∀ id, journal.network.phase? handle ≠ some (.opened id)) (message : μ) :
    journal.act (.beginPublish handle message) = journal ∧
      journal.act (.beginReceive handle message) = journal := by
  obtain ⟨error, refused⟩ := ensureOpen_eq_error notOpen
  simp only [act, beginPublish, beginReceive, whenOpen, refused, and_self]

namespace Sound

/-! ## Channels that are closed -/

theorem closed (sound : journal.Sound)
    (isClosed : journal.network.phase? handle = some (.closed id)) (acts : List (Act ρ μ)) :
    ClosedSince journal (journal.perform acts) handle := by
  have known := sound.known_of_phase isClosed
  have staged := (sound.accounts handle).staged
  have closes : ((journal.perform acts).account handle).Staged ∧
      Account.Closes (journal.account handle) ((journal.perform acts).account handle) :=
    account_perform (fun later => later.Staged ∧ Account.Closes (journal.account handle) later)
      (fun (_ : True) moves so =>
        ⟨so.1.moves moves, so.2.trans (moves.closes so.1 so.2.shut)⟩) known
      ⟨staged, .refl (.inr ⟨id, isClosed⟩)⟩ fun _ _ => trivial
  refine ⟨closes.2, ?_⟩
  have leads := advances known acts
  rw [isClosed] at leads
  refine leads.closed.imp_right fun stillClosed => ?_
  obtain ⟨publishes, receives, begins⟩ := Network.refuses_of_closed stillClosed
  exact ⟨publishes, receives, Network.close_eq_error begins⟩

omit [Updatable ρ μ] in
theorem closedDown (sound : journal.Sound) (stopped : (journal.notes handle).stage = .stopped) :
    ClosedDown journal handle := by
  have late : 3 ≤ (journal.notes handle).stage.rank := by
    rw [stopped]
    exact Nat.le_succ 3
  have staged := (sound.accounts handle).staged
  have noneInHand := Account.unapplied_of_idle (staged.idle_of_stopped stopped)
  refine ⟨?_, (sound.accounts handle).tried.left (.inr late), fun _ _ _ _ => sound.unawaited late⟩
  rw [← noneInHand]
  exact sound.accounted

theorem stoppedSince (sound : journal.Sound) (stopped : (journal.notes handle).stage = .stopped)
    {acts : List (Act ρ μ)} (notAltered : ∀ act ∈ acts, act.manner handle ≠ .alters) :
    Account.StoppedSince (journal.account handle) ((journal.perform acts).account handle) :=
  account_perform (Account.StoppedSince (journal.account handle))
    (fun notAltered moves since => since.moves moves notAltered)
    (sound.known_of_stage (stopped.trans_ne (by decide)))
    ⟨(sound.accounts handle).staged, stopped, .refl _⟩ notAltered

/-! ## Channels that settle -/

theorem drained (sound : journal.Sound) (late : 3 ≤ (journal.notes handle).stage.rank)
    (settled : (journal.account handle).Settled) : Drained journal handle := by
  refine ⟨fun queued isLeft => ?_, fun _ _ _ _ => sound.unawaited late⟩
  unfold Network.update
  split
  next id channel replica present =>
    have isReplica : (journal.account handle).replica? = some replica := by
      rw [account_of_member present]
      rfl
    exact settled replica isReplica queued isLeft
  next => exact ⟨_, rfl⟩

end Sound

theorem exchange_finish (applying : (journal.notes handle).stage = .applying)
    (resting : (journal.notes handle).work .closing = .idle)
    (isClosed : journal.network.phase? handle = some (.closed id)) :
    (journal.act (.finish handle)).network.exchange = journal.network.exchange.detach id := by
  obtain ⟨member, present, phase⟩ := Network.member_of_phase? isClosed
  have named : member.channel.id? = some id := Channel.id?_eq_some_iff.mpr (.inr phase)
  rw [finish_eq applying resting]
  simp only [note, Network.detachMember, Network.channel, present, named, Network.detach]

/-! ## Closing on the virtual clock -/

/-- How far the closing of one channel has come, with the members that are waited for. -/
inductive Closing (journal : Journal ρ μ) (handle : Nat) : List Nat → Prop where
  | waits : (journal.notes handle).stage = .draining →
      (journal.notes handle).work .task = .idle → Closing journal handle [handle]
  | isOver : (journal.notes handle).stage = .stopped → Closing journal handle []

omit [Message μ] [Updatable ρ μ] in
theorem Act.manner_of_closes {act : Act ρ μ}
    (inOrder : act.fansOut = true ∨ act.closes handle = true) :
    act.manner handle = .ordinary := by
  cases act with
  | alter other change => rcases inOrder with fansOut | closes <;> contradiction
  | beginCycle other => rcases inOrder with fansOut | closes <;> contradiction
  | _ => rfl

theorem idle_task_perform (known : handle < journal.network.nextHandle)
    (resting : (journal.notes handle).work .task = .idle) {acts : List (Act ρ μ)}
    (ordinary : ∀ act ∈ acts, act.manner handle = .ordinary) :
    ((journal.perform acts).notes handle).work .task = .idle :=
  account_perform (fun later => later.notes.work .task = .idle)
    (fun {manner _ _} (isOrdinary : manner = .ordinary) moves resting =>
      moves.idle_task (isOrdinary ▸ nofun) resting) known resting ordinary

theorem Closing.deliver {waiting : List Nat} (closing : Closing journal handle waiting)
    (sound : journal.Sound) {acts : List (Act ρ μ)} (fansOut : ∀ act ∈ acts, act.fansOut = true) :
    Closing (journal.perform acts) handle waiting := by
  have sameStage : ((journal.perform acts).notes handle).stage = (journal.notes handle).stage :=
    stage_perform fun act isAct => Act.rewires_of_fansOut (fansOut act isAct)
  cases closing with
  | waits draining resting =>
      have known := sound.known_of_stage (draining.trans_ne (by decide))
      exact .waits (sameStage.trans draining) (idle_task_perform known resting
        fun act isAct => Act.manner_of_fansOut (fansOut act isAct))
  | isOver stopped => exact .isOver (sameStage.trans stopped)

theorem Closing.finish (sound : journal.Sound)
    (draining : (journal.notes handle).stage = .draining)
    (resting : (journal.notes handle).work .task = .idle) :
    ∃ acts : List (Act ρ μ), (∀ act ∈ acts, act.closes handle = true) ∧
      (journal.perform acts).network = journal.network.finishClosing handle ∧
      Closing (journal.perform acts) handle [] := by
  have begun := Nat.le_of_eq (congrArg Stage.rank draining).symm
  obtain ⟨acts, areSteps, network, finished⟩ := exists_finish (sound.shut_of_rank begun) draining
  have inOrder : ∀ act ∈ acts, act.closes handle = true := by
    intro act isAct
    rcases areSteps act isAct with rfl | rfl | rfl <;> exact beq_self_eq_true handle
  have known := sound.known_of_stage (draining.trans_ne (by decide))
  have restingThen := idle_task_perform known resting
    fun act isAct => Act.manner_of_closes (.inr (inOrder act isAct))
  have ended : (journal.perform acts).act (.stop handle) =
      (journal.perform acts).note handle fun notes => { notes with stage := .stopped } :=
    if_pos ⟨finished, Work.isIdle_iff.mpr restingThen⟩
  refine ⟨acts ++ [.stop handle], ?_, ?_, .isOver ?_⟩
  · exact List.forall_mem_append.mpr
      ⟨inOrder, List.forall_mem_singleton.mpr (beq_self_eq_true handle)⟩
  · rw [perform_append, ← network]
    exact (congrArg Journal.network ended).trans rfl
  · rw [perform_append]
    refine (congrArg (fun journal => (journal.notes handle).stage) ended).trans ?_
    rw [notes_note]

/-- A network to which some acts lead, the closing of one channel being as far as told. -/
def LeadsTo (journal : Journal ρ μ) (handle : Nat) (network : Network ρ μ)
    (waiting : List Nat) : Prop :=
  ∃ acts : List (Act ρ μ), (∀ act ∈ acts, act.fansOut = true ∨ act.closes handle = true) ∧
    (journal.perform acts).network = network ∧ Closing (journal.perform acts) handle waiting

theorem beginClosing_eq {begun : Network ρ μ}
    (begins : journal.network.beginClosing handle = .ok begun) :
    journal.act (.beginClosing handle) = note { journal with network := begun } handle fun notes =>
      { notes with stage := .draining, mark := (journal.account handle).arrivals } := by
  simp only [act, begins]

section Settling

variable [Steady ρ]

theorem settled (sound : journal.Sound) (draining : (journal.notes handle).stage = .draining)
    (nobody : (journal.notes handle).entering = [])
    (resting : (journal.notes handle).work .task = .idle) {acts : List (Act ρ μ)}
    (ordinary : ∀ act ∈ acts, act.manner handle = .ordinary)
    (late : 3 ≤ ((journal.perform acts).notes handle).stage.rank) :
    ((journal.perform acts).account handle).Done := by
  have known := sound.known_of_stage (draining.trans_ne (by decide))
  have undisturbed : (journal.account handle).Undisturbed :=
    ⟨(sound.accounts handle).staged, Nat.le_of_eq (congrArg Stage.rank draining).symm, nobody,
      resting, .waits draining⟩
  exact .of_undisturbed (account_perform Account.Undisturbed
    (fun {manner _ _} (isOrdinary : manner = .ordinary) moves so =>
      so.moves (isOrdinary ▸ moves)) known undisturbed ordinary) late

theorem doneSince (sound : journal.Sound) (done : (journal.account handle).Done)
    {later : List (Act ρ μ)} (notAltered : ∀ act ∈ later, act.manner handle ≠ .alters) :
    Account.DoneSince (journal.account handle) ((journal.perform later).account handle) := by
  have begun := Nat.le_trans (Nat.le_add_left 1 2) done.late
  exact account_perform (Account.DoneSince (journal.account handle))
    (fun notAltered moves since => since.moves moves notAltered)
    (sound.known_of_stage (Stage.ne_running_of_rank begun)) ⟨done, .refl _⟩ notAltered

end Settling

section Course

variable [EquivBEq (Message.Key μ)]

theorem LeadsTo.kept (sound : journal.Sound) (handle : Nat) :
    Network.KeptWhileClosing (journal.LeadsTo handle) where
  deliver := by
    rintro network waiting ⟨acts, inOrder, rfl, closing⟩
    obtain ⟨cycle, fansOut, delivered⟩ := (journal.perform acts).exists_deliver
    refine ⟨acts ++ cycle, ?_, ?_, ?_⟩
    · exact List.forall_mem_append.mpr ⟨inOrder, fun act isAct => .inl (fansOut act isAct)⟩
    · rw [perform_append, delivered]
    · rw [perform_append]
      exact closing.deliver (sound.perform acts) fansOut
  finish := by
    rintro network waiting finished ⟨acts, inOrder, rfl, closing⟩ isWaiting
    cases closing with
    | waits draining resting =>
        obtain rfl := List.mem_singleton.mp isWaiting
        obtain ⟨steps, areSteps, sameNetwork, isOver⟩ :=
          Closing.finish (sound.perform acts) draining resting
        refine ⟨acts ++ steps, ?_, ?_, ?_⟩
        · exact List.forall_mem_append.mpr ⟨inOrder, fun act isAct => .inr (areSteps act isAct)⟩
        · rw [perform_append, sameNetwork]
        · rw [perform_append, List.erase_cons_head]
          exact isOver
    | isOver => cases isWaiting

/-- From the flip of the flag to the end. -/
theorem exists_close (sound : journal.Sound) {next : Network ρ μ}
    (closed : journal.network.close handle = (.ok (), next))
    (resting : (journal.notes handle).work .task = .idle) :
    ((journal.act (.beginClosing handle)).notes handle).stage = .draining ∧
      ((journal.act (.beginClosing handle)).notes handle).entering =
        (journal.notes handle).entering ∧
      ((journal.act (.beginClosing handle)).notes handle).work = (journal.notes handle).work ∧
      ∃ acts, (∀ act ∈ acts, act.fansOut = true ∨ act.closes handle = true) ∧
        ((journal.act (.beginClosing handle)).perform acts).network = next ∧
        (((journal.act (.beginClosing handle)).perform acts).notes handle).stage = .stopped := by
  obtain ⟨begun, begins, all, result⟩ := Network.close_eq_ok closed
  have flipped := beginClosing_eq begins
  have noted : (journal.act (.beginClosing handle)).notes handle =
      { journal.notes handle with
        stage := .draining, mark := (journal.account handle).arrivals } := by
    rw [flipped, notes_note]
  refine ⟨by rw [noted], by rw [noted], by rw [noted], ?_⟩
  have kept := LeadsTo.kept (sound.act (.beginClosing handle)) handle
  have waits : LeadsTo (journal.act (.beginClosing handle)) handle begun [handle] := by
    refine ⟨[], List.forall_mem_nil _, congrArg Journal.network flipped, .waits ?_ ?_⟩
    · exact congrArg Notes.stage noted
    · exact (congrArg (·.work .task) noted).trans resting
  have isOver : LeadsTo (journal.act (.beginClosing handle)) handle
      (journal.network.closeAll [handle]).2 [] := by
    refine kept.closeAll ?_
    rw [all]
    exact kept.settle waits
  obtain ⟨acts, inOrder, sameNetwork, closing⟩ := isOver
  refine ⟨acts, inOrder, sameNetwork.trans result, ?_⟩
  cases closing with
  | isOver stopped => exact stopped

omit [Message μ] [Updatable ρ μ] [EquivBEq (Message.Key μ)] in
theorem closes_cons {acts : List (Act ρ μ)}
    (inOrder : ∀ act ∈ acts, act.fansOut = true ∨ act.closes handle = true) :
    ∀ act ∈ Act.beginClosing handle :: acts, act.fansOut = true ∨ act.closes handle = true :=
  List.forall_mem_cons.mpr ⟨.inr (beq_self_eq_true handle), inOrder⟩

/-! ## The contract is kept -/

theorem contract (sound : journal.Sound) : Contract journal where
  uninterrupted := uninterrupted fun handle => (sound.accounts handle).staged
  comes _ isNew act := comes sound isNew act
  follows _ known act := follows known act
  advances _ known acts := advances known acts
  refusedRegistration _ _ _ := Network.register_eq_error_iff
  unchanged handle bound error refused := by
    simp only [act, attempt, refused]
  neverRegistered _ unregistered := Network.drop_of_unregistered unregistered
  publishes _ _ _ done := Network.opened_of_publish done
  receives _ _ _ done := Network.opened_of_receive done
  calls _ notOpen message := calls notOpen message
  closed _ _ isClosed acts := sound.closed isClosed acts
  accounted _ isThere := sound.accounted isThere
  numbered handle := (sound.accounts handle).accounted.numbered
  begun handle id isClosed isRunning :=
    (sound.accounts handle).staged.running isRunning id isClosed
  detaches handle id applying resting isClosed number message destination := by
    rw [exchange_finish applying resting isClosed]
    exact sound.balanced.awaits_detach id
  keepsOwn handle id applying resting isClosed number message destination isOwn := by
    rw [exchange_finish applying resting isClosed, sound.balanced.awaits_detach id]
    refine and_iff_left_of_imp ?_
    rintro ⟨pending, isPending, _, same, awaits⟩
    rw [← isOwn, ← same]
    exact (sound.balanced.attached pending isPending destination awaits).2
  pending act number message destination awaits :=
    (journal.exchange_act act).awaits sound.balanced.toCoherent awaits
  unawaited _ late _ _ _ _ := sound.unawaited late
  stopped _ isStopped acts notAltered := by
    have since := sound.stoppedSince isStopped notAltered
    exact ⟨(sound.perform acts).closedDown since.stopped, since.rests⟩
  closes handle next closed resting := by
    obtain ⟨_, _, _, acts, inOrder, network, stopped⟩ := exists_close sound closed resting
    exact ⟨.beginClosing handle :: acts, closes_cons inOrder, network, stopped⟩

theorem settles [Steady ρ] (sound : journal.Sound) : Settles journal where
  settles handle draining nobody resting acts ordinary late later notAltered := by
    have soundThen := sound.perform acts
    have since := doneSince soundThen
      (settled sound draining nobody resting ordinary late) notAltered
    exact ⟨(soundThen.perform later).drained since.done.late since.done.settled, since.rests⟩
  closes handle next closed nobody resting := by
    obtain ⟨draining, sameEntering, sameWork, acts, inOrder, network, stopped⟩ :=
      exists_close sound closed resting
    have soundThen := sound.act (.beginClosing handle)
    have late : 3 ≤ (((journal.act (.beginClosing handle)).perform acts).notes handle).stage.rank := by
      rw [stopped]
      exact Nat.le_succ 3
    have done := settled soundThen draining (sameEntering.trans nobody)
      ((congrFun sameWork .task).trans resting)
      (fun act isAct => Act.manner_of_closes (inOrder act isAct)) late
    exact ⟨.beginClosing handle :: acts, closes_cons inOrder, network, stopped,
      (soundThen.perform acts).drained done.late done.settled⟩

end Course

/-- A run from its beginning. -/
def after {ρ μ : Type} [Message μ] [Updatable ρ μ] (identifiers : List ReplicaId)
    (acts : List (Act ρ μ)) : Journal ρ μ :=
  (start identifiers).perform acts

/-! ## Replicas that refuse nothing -/

/-- Of a channel whose replica refuses nothing only what came late is left. -/
structure LeavesOnlyLate (journal : Journal ρ μ) : Prop where
  stopped : ∀ handle, (journal.notes handle).stage = .stopped →
    (journal.account handle).replica? ≠ none → ∀ queued ∈ (journal.account handle).queue,
      (journal.notes handle).mark ≤ queued.arrival
  drained : ∀ handle, Drained journal handle → (journal.account handle).replica? ≠ none →
    (journal.account handle).unapplied = []

theorem refused_perform
    (accepts : ∀ (replica : ρ) message, (Updatable.update replica message).1 = .ok ())
    (nothing : (journal.notes handle).refused = []) (acts : List (Act ρ μ)) :
    ((journal.perform acts).notes handle).refused = [] := by
  induction acts generalizing journal with
  | nil => exact nothing
  | cons first later ih =>
      refine ih ?_
      cases journal.effect first handle with
      | comes id order replica _ _ shown => exact (congrArg (·.notes.refused) shown).trans nothing
      | moves moves => exact (moves.refused_of_accepting accepts).trans nothing

theorem Drained.unapplied_eq_nil
    (accepts : ∀ (replica : ρ) message, (Updatable.update replica message).1 = .ok ())
    (drained : Drained journal handle) (isThere : (journal.account handle).replica? ≠ none) :
    (journal.account handle).unapplied = [] := by
  refine List.eq_nil_iff_forall_not_mem.mpr fun queued isLeft => ?_
  obtain ⟨error, refused⟩ := drained.refused queued isLeft
  obtain ⟨replica, shown⟩ := Option.ne_none_iff_exists'.mp isThere
  obtain ⟨⟨id, channel, _⟩, present, held⟩ := Option.bind_eq_some_iff.mp shown
  cases held
  have found : journal.network.members.get? handle = some ⟨id, channel, some replica⟩ := present
  simp only [Network.update, found, accepts] at refused
  cases refused

theorem leavesOnlyLate
    (accepts : ∀ (replica : ρ) message, (Updatable.update replica message).1 = .ok ())
    [EquivBEq (Message.Key μ)] (identifiers : List ReplicaId) (acts : List (Act ρ μ)) :
    LeavesOnlyLate (after identifiers acts) where
  stopped handle stopped isThere queued isLeft := by
    have sound : (after identifiers acts).Sound := (Sound.start identifiers).perform acts
    have nothing : ((after identifiers acts).notes handle).refused = [] :=
      refused_perform accepts rfl acts
    rcases (sound.closedDown stopped).tried.resolve_left isThere queued isLeft with refused | late
    · rw [nothing] at refused
      cases refused
    · exact late
  drained _ drained isThere := drained.unapplied_eq_nil accepts isThere

/-! ## The contract in every run -/

/-- Two members; the first has published a message of its own, and of three messages that another
replica has sent it has applied the first and received the third. -/
def gapped (own first third : OperationMessage (SetOperation Nat)) :
    List (Act (OperationReplica (GrowSet Nat)) (OperationMessage (SetOperation Nat))) :=
  [.addMember ⟨1⟩ .oldestFirst (some (.ofState ⟨1⟩ ∅ .empty)), .register 0 0,
    .addMember ⟨2⟩ .oldestFirst (some (.ofState ⟨2⟩ ∅ .empty)), .register 1 1,
    .beginPublish 0 own, .transmit 0 0, .beginReceive 0 first, .enqueue 0 0, .beginCycle 0,
    .work 0 .task, .work 0 .task, .work 0 .task, .beginReceive 0 third, .enqueue 0 0]

/-- The last cycle of a channel in which one message is queued. -/
def lastCycle : List (Act (OperationReplica (GrowSet Nat)) (OperationMessage (SetOperation Nat))) :=
  [.beginLastCycle 0, .work 0 .closing, .work 0 .closing, .work 0 .closing, .finish 0]

/-- A channel is closed while one call is about to publish and another to enqueue. -/
def callsUnderWay (own other : OperationMessage (SetOperation Nat)) :
    List (Act (OperationReplica (GrowSet Nat)) (OperationMessage (SetOperation Nat))) :=
  [.addMember ⟨1⟩ .oldestFirst (some (.ofState ⟨1⟩ ∅ .empty)), .register 0 0,
    .addMember ⟨2⟩ .oldestFirst (some (.ofState ⟨2⟩ ∅ .empty)), .register 1 1,
    .beginPublish 0 own, .beginReceive 0 other, .beginClosing 0, .beginLastCycle 0,
    .work 0 .closing, .finish 0, .stop 0]

theorem calls_outlast_closing :
    ∃ (own other : OperationMessage (SetOperation Nat))
      (closed later : Journal (OperationReplica (GrowSet Nat))
        (OperationMessage (SetOperation Nat))),
      closed = after [] (callsUnderWay own other) ∧
      later = closed.perform [.enqueue 0 0, .transmit 0 0] ∧
      (closed.notes 0).stage = .stopped ∧ later.network.phase? 0 = some (.closed ⟨1⟩) ∧
      (closed.notes 0).accepted = [] ∧ (later.notes 0).accepted = [other] ∧
      closed.network.exchange.awaiting ⟨2⟩ = [] ∧
      later.network.exchange.awaiting ⟨2⟩ = [(0, own)] :=
  ⟨⟨⟨⟨1⟩, 1, by decide⟩, .add [7]⟩, ⟨⟨⟨2⟩, 1, by decide⟩, .add [8]⟩, _, _, rfl, rfl,
    by decide +kernel, by decide +kernel, by decide +kernel, by decide +kernel, by decide +kernel,
    by decide +kernel⟩

/-- The apply task has in hand a message that was refused for want of an earlier one. The last cycle
applies the earlier one, and then the task puts the other back. -/
def cycleUnderWay (first second : OperationMessage (SetOperation Nat)) :
    List (Act (OperationReplica (GrowSet Nat)) (OperationMessage (SetOperation Nat))) :=
  [.addMember ⟨1⟩ .oldestFirst (some (.ofState ⟨1⟩ ∅ .empty)), .register 0 0,
    .beginReceive 0 second, .enqueue 0 0, .beginCycle 0, .work 0 .task, .work 0 .task,
    .beginReceive 0 first, .enqueue 0 0, .beginClosing 0, .beginLastCycle 0, .work 0 .closing,
    .work 0 .closing, .work 0 .closing, .finish 0, .work 0 .task, .stop 0]

theorem cycle_outlasts_closing :
    ∃ (first second : OperationMessage (SetOperation Nat))
      (final : Journal (OperationReplica (GrowSet Nat)) (OperationMessage (SetOperation Nat))),
      final = after [] (cycleUnderWay first second) ∧
      (final.notes 0).stage = .stopped ∧ (final.notes 0).accepted = [second, first] ∧
      (final.notes 0).mark = 2 ∧ (final.notes 0).applied = [first] ∧
      (final.account 0).queue.map (fun queued => (queued.arrival, queued.message)) =
        [(0, second)] ∧
      (final.network.update 0 second).1.isOk = true :=
  ⟨⟨⟨⟨2⟩, 1, by decide⟩, .add [8]⟩, ⟨⟨⟨2⟩, 2, by decide⟩, .add [9]⟩, _, rfl,
    by decide +kernel, by decide +kernel, by decide +kernel, by decide +kernel, by decide +kernel,
    by decide +kernel⟩

/-- A member that has received a note which its replica refuses once. -/
def refusingOnce (note : Note) : Except ReplicationError (Network ScriptedReplica Note) := do
  let (handle, joined) ← (Network.empty []).join ⟨1⟩ .oldestFirst ⟨⟨1⟩, [(note, 1)]⟩
  joined.receive handle note

/-- With nobody else at work the last cycle refuses a message that the replica would take if it were
tried again: replicas need not stay as they are when they refuse. -/
theorem last_cycle_tries_once :
    ∃ (note : Note) (network : Network ScriptedReplica Note), refusingOnce note = .ok network ∧
      (network.close 0).1 = .ok () ∧
      ((network.close 0).2.members.get? 0).map (·.channel.queue.map (·.message)) = some [note] ∧
      ((network.close 0).2.update 0 note).1 = .ok () := by
  have run : ((refusingOnce ⟨⟨2⟩, 1⟩).map fun network => ((network.close 0).1.toOption,
      ((network.close 0).2.members.get? 0).map (·.channel.queue.map (·.message)),
      ((network.close 0).2.update 0 ⟨⟨2⟩, 1⟩).1.toOption)).toOption =
        some (some (), some [⟨⟨2⟩, 1⟩], some ()) := by
    decide +kernel
  obtain ⟨network, done, outcome⟩ := Outcome.map_eq_ok (Outcome.eq_ok_of_toOption run)
  obtain ⟨closes, rest⟩ := Prod.mk.inj outcome
  obtain ⟨left, takes⟩ := Prod.mk.inj rest
  exact ⟨⟨⟨2⟩, 1⟩, network, done, Outcome.eq_ok_of_toOption closes, left,
    Outcome.eq_ok_of_toOption takes⟩

end Journal

end Confluence

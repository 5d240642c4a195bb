import Confluence.Proofs.Network.Session
import Confluence.Proofs.State.Commutation

/-!
Sessions of operation-based replicas. Publications may overtake one another, so operations can
reach an inbox out of order; but as soon as nothing is underway, every inbox holds all that its
replica still misses, and one apply cycle is enough to apply it.
-/

set_option autoImplicit false

namespace Confluence.OperationReplica

variable {σ ω : Type}

def HasSeen (replica : OperationReplica σ) (message : OperationMessage ω) : Prop :=
  message.dot.clock.value ≤ replica.version.get message.dot.id

variable [Operational σ ω] {start : σ} {id : ReplicaId} {issued : List (OperationMessage ω)}
  {replica : OperationReplica σ}

theorem version_within_update (cumulative : replica.version.isDotted = false)
    (message : OperationMessage ω) :
    replica.version.Within (Updatable.update replica message).2.version := by
  rcases update_cases cumulative message with ⟨_, kept⟩ | ⟨_, applied⟩ | ⟨_, kept⟩
  · rw [kept]
    exact .refl _
  · rw [applied]
    exact VersionVector.within_absorb_left cumulative _
  · rw [kept]
    exact .refl _

theorem hasSeen_of_accepted (cumulative : replica.version.isDotted = false)
    {message : OperationMessage ω}
    (accepted : (Updatable.update replica message).1 = .ok ()) :
    (Updatable.update replica message).2.HasSeen message := by
  rcases update_cases cumulative message with ⟨seen, kept⟩ | ⟨_, applied⟩ | ⟨_, refused⟩
  · rw [kept]
    exact seen
  · rw [applied]
    exact Nat.le_trans (Nat.le_max_right _ _)
      (Nat.le_of_eq (VersionVector.get_absorb_toVector_self cumulative message.dot).symm)
  · rw [refused] at accepted
    cases accepted

theorem teaches_update (numbered : Numbered issued) :
    Inbox.Teaches Updatable.update (· ∈ issued) (Faithful start id issued) HasSeen where
  keeps_sound faithful isIssued := faithful.update numbered isIssued
  learns faithful _ accepted := hasSeen_of_accepted faithful.reflects.canonical.cumulative accepted
  remembers faithful _ seen :=
    Nat.le_trans seen (version_within_update faithful.reflects.canonical.cumulative _ _)

theorem Faithful.hasSeen_own (faithful : Faithful start id issued replica)
    (numbered : Numbered issued) {message : OperationMessage ω} (isIssued : message ∈ issued)
    (own : message.dot.id = id) : replica.HasSeen message := by
  subst own
  rw [HasSeen, faithful.current]
  exact numbered.clock_le isIssued

/-! ## One pass over a complete queue -/

/-- What the queue holds of an origin starts where the version of the replica ends, and leaves no
gap. -/
def Complete (queue : List (Queued (OperationMessage ω))) (replica : OperationReplica σ) : Prop :=
  ∀ queued ∈ queue, ∀ number, replica.version.get queued.message.dot.id < number →
    number < queued.message.dot.clock.value →
      ∃ other ∈ queue, other.message.dot.id = queued.message.dot.id ∧
        other.message.dot.clock.value = number

/-- Lowest numbers first, a queue without gaps is applied in one pass: a message that came too early
would leave its predecessor in the rest of the queue, where no number is lower. -/
theorem refused_of_complete {queue : List (Queued (OperationMessage ω))}
    (numbered : Numbered issued) (faithful : Faithful start id issued replica)
    (isIssued : ∀ queued ∈ queue, queued.message ∈ issued)
    (ascending : queue.Pairwise fun first second =>
      first.message.dot.clock.value ≤ second.message.dot.clock.value)
    (complete : Complete queue replica) : (Inbox.pass Updatable.update queue replica).2 = [] := by
  induction queue generalizing replica with
  | nil => rfl
  | cons first later ih =>
      have cumulative := faithful.reflects.canonical.cumulative
      obtain ⟨least, laterAscending⟩ := List.pairwise_cons.mp ascending
      have accepted : (Updatable.update replica first.message).1 = .ok () := by
        rcases update_cases cumulative first.message with ⟨_, kept⟩ | ⟨_, applied⟩ | ⟨early, _⟩
        · rw [kept]
        · rw [applied]
        · obtain ⟨other, isQueued, _, number⟩ :=
            complete first (.head _) _ (Nat.lt_succ_self _) early
          rcases List.mem_cons.mp isQueued with rfl | isLater
          · omega
          · have notLess := least other isLater
            omega
      rw [Inbox.pass_cons_of_accepted accepted]
      refine ih (faithful.update numbered (isIssued first (.head _)))
        (fun queued isLater => isIssued queued (.tail _ isLater)) laterAscending ?_
      intro queued isLater number above below
      have seen := hasSeen_of_accepted cumulative accepted
      have grown := version_within_update cumulative first.message queued.message.dot.id
      obtain ⟨other, isQueued, origin, same⟩ :=
        complete queued (.tail _ isLater) number (Nat.lt_of_le_of_lt grown above) below
      rcases List.mem_cons.mp isQueued with rfl | otherLater
      · rw [HasSeen, origin, same] at seen
        omega
      · exact ⟨other, otherLater, origin, same⟩

/-! ## Sessions -/

variable [Inhabited σ]

abbrev InSession : Session (OperationReplica σ) (OperationMessage ω) → Prop :=
  Session.Reachable (fun operation replica => replica.submit operation) .oldestFirst
    fun id => ofState id ∅ default

/-- What such a session keeps: messages are numbered and none is lost, and every replica accounts
for its own. -/
structure Orderly (session : Session (OperationReplica σ) (OperationMessage ω)) : Prop where
  carries : session.Carries .oldestFirst HasSeen
  numbered : Numbered session.issued
  faithful : ∀ handle station, session.network.station? handle = some station →
    Faithful default station.id session.issued station.replica

namespace Orderly

variable {session : Session (OperationReplica σ) (OperationMessage ω)}

theorem assembled {identifiers ids : List ReplicaId}
    {network : Network (OperationReplica σ) (OperationMessage ω)}
    (done : Network.assemble .oldestFirst (fun id => ofState id ∅ default) ids
      (.empty identifiers) = .ok network) : Orderly ⟨network, [], []⟩ := by
  have fresh := (Network.fresh_empty _ _ identifiers).assemble done
  refine ⟨Session.carries_assembled fresh, numbered_nil, ?_⟩
  intro handle station present
  rw [fresh.initial handle station present]
  exact faithful_ofState station.id default

theorem change {network : Network (OperationReplica σ) (OperationMessage ω)} {handle : Nat}
    {operation : ω} {message : OperationMessage ω} (orderly : Orderly session)
    (done : session.network.change handle (fun replica => replica.submit operation) =
      .ok (network, message)) :
    Orderly ⟨network, session.unpublished ++ [(handle, message)],
      session.issued ++ [message]⟩ := by
  obtain ⟨station, replica, address, present, submitted, rfl⟩ := Network.change_eq_ok done
  obtain ⟨numbered, origin, faithful⟩ :=
    (orderly.faithful handle station present).submit orderly.numbered submitted
  obtain ⟨vector, counted, grown, _⟩ := submit_eq_ok submitted
  refine ⟨?_, numbered, ?_⟩
  · refine orderly.carries.change present rfl rfl rfl ?_ ?_ ?_
    · intro earlier isIssued
      have distinct := numbered.distinct
      rw [List.map_append, List.nodup_append] at distinct
      have apart : earlier.dot ≠ message.dot :=
        distinct.2.2 earlier.dot (List.mem_map_of_mem isIssued) message.dot (.head _)
      exact ⟨beq_false_of_ne apart, beq_false_of_ne apart.symm⟩
    · exact faithful.hasSeen_own numbered (List.mem_append_right _ (.head _)) origin
    · intro earlier _ seen
      subst grown
      exact Nat.le_trans seen (VersionVector.within_increment counted _)
  · intro query other found
    rcases Network.station_of_setMember found with ⟨_, rfl⟩ | ⟨elsewhere, unchanged⟩
    · exact faithful
    · have different := orderly.carries.wired.ids_differ unchanged present elsewhere
      exact (orderly.faithful query other unchanged).issue (origin ▸ different)

theorem tended (orderly : Orderly session) : session.Tended .oldestFirst HasSeen
    fun id => Faithful default id session.issued :=
  ⟨orderly.carries, orderly.faithful⟩

theorem publish {network : Network (OperationReplica σ) (OperationMessage ω)}
    {rest : List (Nat × OperationMessage ω)} {handle : Nat} {message : OperationMessage ω}
    (orderly : Orderly session) (split : session.unpublished.Perm ((handle, message) :: rest))
    (done : session.network.publish handle message = .ok network) :
    Orderly ⟨network, rest, session.issued⟩ := by
  obtain ⟨carries, faithful⟩ := orderly.tended.publish split done fun isIssued faithful =>
    faithful.hasSeen_own orderly.numbered isIssued rfl
  exact ⟨carries, orderly.numbered, faithful⟩

theorem deliver (orderly : Orderly session) :
    Orderly ⟨session.network.deliver, session.unpublished, session.issued⟩ := by
  obtain ⟨carries, faithful⟩ := orderly.tended.deliver
  exact ⟨carries, orderly.numbered, faithful⟩

theorem apply (orderly : Orderly session) (handle : Nat) :
    Orderly ⟨session.network.applyAt handle, session.unpublished, session.issued⟩ := by
  obtain ⟨carries, faithful⟩ :=
    orderly.tended.apply (fun _ => teaches_update orderly.numbered) handle
  exact ⟨carries, orderly.numbered, faithful⟩

theorem step {next : Session (OperationReplica σ) (OperationMessage ω)}
    (orderly : Orderly session)
    (step : Session.Step (fun operation replica => replica.submit operation) session next) :
    Orderly next := by
  cases step with
  | change handle operation done => exact orderly.change done
  | publish split done => exact orderly.publish split done
  | giveUp split failed =>
      obtain ⟨network, done⟩ := orderly.carries.publish_ok (split.mem_iff.mpr (.head _))
      rw [done] at failed
      cases failed
  | deliver => exact orderly.deliver
  | apply handle => exact orderly.apply handle

end Orderly

theorem InSession.orderly {session : Session (OperationReplica σ) (OperationMessage ω)}
    (reached : InSession session) : Orderly session := by
  induction reached with
  | assembled done => exact .assembled done
  | step _ step ih => exact ih.step step

/-! ## Quiet moments -/

/-- Nothing is underway: every message was published and handed to all its destinations. -/
structure Quiet (session : Session (OperationReplica σ) (OperationMessage ω)) : Prop where
  orderly : Orderly session
  published : session.unpublished = []
  delivered : session.network.exchange.pending = []

namespace Quiet

variable {session : Session (OperationReplica σ) (OperationMessage ω)}
  {station : Station (OperationReplica σ) (OperationMessage ω)} {handle : Nat}

/-- What a replica has not seen is in its inbox. -/
theorem seen_or_queued (quiet : Quiet session)
    (present : session.network.station? handle = some station) {message : OperationMessage ω}
    (isIssued : message ∈ session.issued) :
    station.replica.HasSeen message ∨
      ∃ queued ∈ station.inbox.queue, queued.message = message := by
  rcases quiet.orderly.carries.arrives handle station present message isIssued with
    seen | waits | ⟨pending, isPending, _⟩ | isQueued
  · exact .inl seen
  · rw [quiet.published] at waits
    cases waits
  · rw [quiet.delivered] at isPending
    cases isPending
  · exact .inr isQueued

theorem queue_applyPending (quiet : Quiet session)
    (present : session.network.station? handle = some station) :
    station.applyPending.inbox.queue = [] := by
  have queued := quiet.orderly.carries.queued handle station present
  have ordered := (quiet.orderly.carries.ordered handle station present).1
  refine Inbox.queue_applyPending_of_pass (refused_of_complete quiet.orderly.numbered
    (quiet.orderly.faithful handle station present) ?_ ?_ ?_)
  · exact fun entry isDue => (queued entry (Inbox.mem_due.mp isDue)).1
  · refine (Inbox.pairwise_due station.inbox).imp_of_mem ?_
    intro first second firstDue secondDue isBefore
    have firstPriority := (queued first (Inbox.mem_due.mp firstDue)).2
    have secondPriority := (queued second (Inbox.mem_due.mp secondDue)).2
    rw [Queued.isDueBefore_iff] at isBefore
    simp only [InboxOrder.priority, Message.rank] at firstPriority secondPriority
    omega
  -- Every number up to that of a queued message was issued; what is neither seen nor underway must
  -- be in this inbox.
  · intro entry isDue number above below
    have bounded := quiet.orderly.numbered.clock_le (queued entry (Inbox.mem_due.mp isDue)).1
    obtain ⟨message, isIssued, origin, same⟩ :=
      quiet.orderly.numbered.exists_of_le (by omega) (Nat.le_of_lt (Nat.lt_of_lt_of_le below bounded))
    rcases quiet.seen_or_queued present isIssued with seen | ⟨other, isQueued, rfl⟩
    · rw [HasSeen, origin, same] at seen
      omega
    · exact ⟨other, Inbox.mem_due.mpr isQueued, origin, same⟩

theorem settles {unpublished : List (Nat × OperationMessage ω)} :
    Network.Settles fun network : Network (OperationReplica σ) (OperationMessage ω) =>
      Quiet ⟨network, unpublished, issued⟩ where
  wired quiet := quiet.orderly.carries.wired
  stays {network} quiet handle :=
    ⟨quiet.orderly.apply handle, quiet.published,
      (congrArg Exchange.pending (network.exchange_applyAt handle)).trans quiet.delivered⟩
  empties quiet present := quiet.queue_applyPending present

theorem get_version (quiet : Quiet session)
    (present : session.network.station? handle = some station)
    (empty : station.inbox.queue = []) (origin : ReplicaId) :
    station.replica.version.get origin = (messagesFrom origin session.issued).length := by
  refine Nat.le_antisymm
    ((quiet.orderly.faithful handle station present).reflects.covered origin) ?_
  by_cases none : (messagesFrom origin session.issued).length = 0
  · omega
  · obtain ⟨message, isIssued, from_origin, last⟩ :=
      quiet.orderly.numbered.exists_of_le (Nat.pos_of_ne_zero none) (Nat.le_refl _)
    rcases quiet.seen_or_queued present isIssued with seen | ⟨queued, isQueued, _⟩
    · rw [HasSeen, from_origin, last] at seen
      exact seen
    · rw [empty] at isQueued
      cases isQueued

/-- Replicas that have seen everything are in one state if operations commute. -/
theorem agree (quiet : Quiet session) (commutes : Commutes σ) {other : Nat}
    {second : Station (OperationReplica σ) (OperationMessage ω)}
    (present : session.network.station? handle = some station)
    (empty : station.inbox.queue = [])
    (secondPresent : session.network.station? other = some second)
    (secondEmpty : second.inbox.queue = []) :
    (station.replica.version, station.replica.state) =
      (second.replica.version, second.replica.state) := by
  have left := (quiet.orderly.faithful handle station present).reflects
  have right := (quiet.orderly.faithful other second secondPresent).reflects
  have counts : ∀ origin,
      station.replica.version.get origin = second.replica.version.get origin := fun origin =>
    (quiet.get_version present empty origin).trans
      (quiet.get_version secondPresent secondEmpty origin).symm
  rw [left.canonical.ext right.canonical counts, left.state_eq commutes right counts]

end Quiet

/-- Replicas of this state with distinct identifiers, which begin empty and join one exchange, get
along: no publication ever fails, and when nothing is underway, one apply cycle at every member
leaves nothing in any inbox and all replicas with one version and one state. -/
structure ConvergesWhenQuiet (σ : Type) {ω : Type} [Operational σ ω] [Inhabited σ] : Prop where
  joins : ∀ (identifiers : List ReplicaId) {ids : List ReplicaId}, ids.Nodup →
    ∃ network : Network (OperationReplica σ) (OperationMessage ω),
      Network.assemble .oldestFirst (fun id => ofState id ∅ default) ids (.empty identifiers) =
        .ok network
  publishes : ∀ {session : Session (OperationReplica σ) (OperationMessage ω)},
    InSession session → ∀ {handle message}, (handle, message) ∈ session.unpublished →
      ∃ network, session.network.publish handle message = .ok network
  converges : ∀ {session : Session (OperationReplica σ) (OperationMessage ω)},
    InSession session → session.unpublished = [] → session.network.exchange.pending = [] →
      ∀ {handles : List Nat}, (∀ handle member,
        session.network.members.get? handle = some member → handle ∈ handles) →
      ∃ version state, ∀ handle member, session.network.members.get? handle = some member →
        ∃ settled replica,
          (handles.foldl Network.applyAt session.network).members.get? handle = some settled ∧
          settled.channel.hasPendingUpdates = false ∧ settled.replica = some replica ∧
          replica.id = member.id ∧ replica.version = version ∧ replica.state = state

theorem convergesWhenQuiet_of_commutes (commutes : Commutes σ) : ConvergesWhenQuiet σ := by
  refine ⟨?_, ?_, ?_⟩
  · intro identifiers ids distinct
    exact Network.assemble_ok rfl distinct fun _ _ => rfl
  · intro session reached handle message unpublished
    exact reached.orderly.carries.publish_ok unpublished
  · intro session reached published delivered handles everyone
    have quiet : Quiet session := ⟨reached.orderly, published, delivered⟩
    have settled := (Quiet.settles.applyAll handles [] quiet (fun _ absent => by cases absent)).1
    obtain ⟨⟨version, state⟩, common⟩ := Quiet.settles.exists_common
      (fun replica => (replica.version, replica.state))
      (fun quiet left leftEmpty => quiet.agree commutes left leftEmpty) quiet everyone
    refine ⟨version, state, fun handle member present => ?_⟩
    obtain ⟨station, found, empty, sameId, same⟩ := common handle member present
    obtain ⟨sameVersion, sameState⟩ := Prod.mk.inj same
    obtain ⟨address, isMember⟩ := Network.station?_eq_some_iff.mp found
    have idle := (settled.orderly.carries.ordered handle station found).2
    refine ⟨_, station.replica, isMember, ?_, rfl,
      (settled.orderly.faithful handle station found).named.trans sameId, sameVersion, sameState⟩
    simp [Station.member, Channel.hasPendingUpdates, Inbox.hasPending, empty, idle]

theorem replicated_sets_converge_when_quiet (α : Type) [Ord α] [Std.TransOrd α]
    [Std.LawfulEqOrd α] [Diagnostic α] :
    ConvergesWhenQuiet (GrowSet α) ∧ ConvergesWhenQuiet (TwoPhaseSet α) :=
  ⟨convergesWhenQuiet_of_commutes (GrowSet.commutes α),
    convergesWhenQuiet_of_commutes (TwoPhaseSet.commutes α)⟩

/-- The second of two operations is published first, so that the other replica receives it first;
it is applied all the same. -/
theorem overtaking_publication_converges :
    ∃ session : Session (OperationReplica (GrowSet Nat)) (OperationMessage (SetOperation Nat)),
      InSession session ∧ session.unpublished = [] ∧ session.network.exchange.pending = [] ∧
      (session.network.station? 1).map (·.inbox.queue.map (·.message.dot.clock.value)) =
        some [2, 1] ∧
      ∃ version state, ∀ handle member, session.network.members.get? handle = some member →
        ∃ settled replica,
          (session.network.members.keys.elements.foldl Network.applyAt
            session.network).members.get? handle = some settled ∧
          settled.channel.hasPendingUpdates = false ∧ settled.replica = some replica ∧
          replica.id = member.id ∧ replica.version = version ∧ replica.state = state := by
  have run : ∃ session : Session (OperationReplica (GrowSet Nat))
      (OperationMessage (SetOperation Nat)),
      InSession session ∧ session.unpublished = [] ∧ session.network.exchange.pending = [] ∧
      (session.network.station? 1).map (·.inbox.queue.map (·.message.dot.clock.value)) =
        some [2, 1] := by
    have joined : InSession (_ : Session (OperationReplica (GrowSet Nat))
        (OperationMessage (SetOperation Nat))) :=
      .assembled (show Network.assemble .oldestFirst (fun id => ofState id ∅ default)
        [⟨1⟩, ⟨2⟩] (.empty []) = .ok _ from rfl)
    have first := joined.step (.change 0 (.add [7]) rfl)
    have second := first.step (.change 0 (.add [8]) rfl)
    have overtaken := second.step (.publish (.swap _ _ _) rfl)
    have published := overtaken.step (.publish (.refl _) rfl)
    have delivered := published.step .deliver
    exact ⟨_, delivered, rfl, rfl, rfl⟩
  obtain ⟨session, reached, published, delivered, queued⟩ := run
  exact ⟨session, reached, published, delivered, queued,
    (replicated_sets_converge_when_quiet Nat).1.converges reached published delivered
      fun handle member present => OrderedMap.mem_keys.mpr (by rw [present]; rfl)⟩

end Confluence.OperationReplica

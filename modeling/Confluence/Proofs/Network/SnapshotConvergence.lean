import Confluence.Proofs.Network.LocalFailure
import Confluence.Proofs.Network.Session
import Confluence.Proofs.Replication.VersionGate

/-!
Sessions of state-based replicas. Every inbox applies the newest snapshots first and the version
gate passes over most of the others, yet nothing is lost: a replica covers every snapshot that it
has ever taken from its inbox, and the last snapshot of each replica tells of all its commands.
-/

set_option autoImplicit false

namespace Confluence

instance {σ : Type} : ReflBEq (Message.Key (Snapshot σ)) :=
  inferInstanceAs (ReflBEq (ReplicaId × ReplicaVector))

namespace StateReplica

variable {σ κ : Type}

def Covers (replica : StateReplica σ) (snapshot : Snapshot σ) : Prop :=
  snapshot.version.Within replica.version

def snapshotsFrom (origin : ReplicaId) (snapshots : List (Snapshot σ)) : List (Snapshot σ) :=
  snapshots.filter fun snapshot => snapshot.origin = origin

theorem snapshotsFrom_append_self (snapshots : List (Snapshot σ)) (snapshot : Snapshot σ) :
    snapshotsFrom snapshot.origin (snapshots ++ [snapshot]) =
      snapshotsFrom snapshot.origin snapshots ++ [snapshot] := by
  simp [snapshotsFrom]

theorem snapshotsFrom_append_of_ne (snapshots : List (Snapshot σ)) {snapshot : Snapshot σ}
    {origin : ReplicaId} (different : origin ≠ snapshot.origin) :
    snapshotsFrom origin (snapshots ++ [snapshot]) = snapshotsFrom origin snapshots := by
  simp [snapshotsFrom, different.symm]

variable [LocalCommand σ κ] [Convergent σ] [Inhabited σ]

abbrev InSession : Session (StateReplica σ) (Snapshot σ) → Prop :=
  Session.Reachable (fun command replica => replica.issue command) .newestFirst
    fun id => ofState id ∅ default

variable [Tally σ κ] {log : CommandLog κ} {id : ReplicaId} {issued : List (Snapshot σ)}
  {replica : StateReplica σ}

/-! ## Replicas in a session -/

/-- Every snapshot tells of commands that were carried out, as many of them from each replica as
snapshots were made by it, and some snapshot tells of all that one replica has carried out. -/
structure Recorded (log : CommandLog κ) (issued : List (Snapshot σ)) : Prop where
  informed : ∀ snapshot ∈ issued, Informed log snapshot.version snapshot.state
  counted : ∀ origin, (snapshotsFrom origin issued).length = (log origin).length
  latest : ∀ origin, log origin ≠ [] →
    ∃ snapshot ∈ issued, snapshot.version.get origin = (log origin).length

/-- A faithful replica that covers all snapshots of its own. -/
structure Abreast (log : CommandLog κ) (issued : List (Snapshot σ)) (id : ReplicaId)
    (replica : StateReplica σ) : Prop where
  faithful : Faithful log id replica
  recalls : ∀ snapshot ∈ issued, snapshot.origin = id → replica.Covers snapshot

theorem Informed.covers_update {snapshot : Snapshot σ}
    (held : Informed log replica.version replica.state)
    (sent : Informed log snapshot.version snapshot.state) :
    (replica.update snapshot).Covers snapshot ∧
      ∀ known, replica.Covers known → (replica.update snapshot).Covers known := by
  rw [held.update_eq_merge sent]
  have cumulative := held.canonical.cumulative
  exact ⟨VersionVector.within_absorb_right cumulative _, fun known covered =>
    covered.trans (VersionVector.within_absorb_left cumulative _)⟩

theorem teaches_update (recorded : Recorded log issued) :
    Inbox.Teaches Updatable.update (· ∈ issued) (Abreast log issued id) Covers where
  keeps_sound {replica snapshot} abreast isIssued := by
    have sent := recorded.informed snapshot isIssued
    refine ⟨abreast.faithful.update sent, fun own isOwn from_here => ?_⟩
    exact (abreast.faithful.informed.covers_update sent).2 own (abreast.recalls own isOwn from_here)
  learns abreast isIssued _ :=
    (abreast.faithful.informed.covers_update (recorded.informed _ isIssued)).1
  remembers {replica snapshot known} abreast isIssued covered :=
    (abreast.faithful.informed.covers_update (recorded.informed _ isIssued)).2 known covered

namespace Recorded

variable {changed : StateReplica σ} {snapshot : Snapshot σ} {command : κ}

/-- A new snapshot counts an event that no earlier one has counted. -/
theorem apart (recorded : Recorded log issued) (faithful : Faithful log id replica)
    (done : replica.issue command = .ok (changed, snapshot)) :
    ∀ earlier ∈ issued, Session.Apart earlier snapshot := by
  intro earlier isIssued
  obtain ⟨next, rfl, _⟩ := faithful.issue done
  have advanced : changed.snapshot.version.get id = (log id).length + 1 :=
    next.current.trans (CommandLog.length_record_self log id command)
  have behind := (recorded.informed earlier isIssued).covered id
  have ahead : ¬ changed.snapshot.version.Within earlier.version := fun within => by
    have bound := within id
    omega
  have different : (earlier.version == changed.snapshot.version) = false :=
    Bool.eq_false_iff.mpr fun same => ahead (VersionVector.beq_iff_within.mp same).2
  have different' : (changed.snapshot.version == earlier.version) = false :=
    Bool.eq_false_iff.mpr fun same => ahead (VersionVector.beq_iff_within.mp same).1
  constructor
  · change (earlier.origin == changed.snapshot.origin &&
      earlier.version == changed.snapshot.version) = false
    rw [different, Bool.and_false]
  · change (changed.snapshot.origin == earlier.origin &&
      changed.snapshot.version == earlier.version) = false
    rw [different', Bool.and_false]

theorem issue (recorded : Recorded log issued) (faithful : Faithful log id replica)
    (done : replica.issue command = .ok (changed, snapshot)) :
    Recorded (log.record id command) (issued ++ [snapshot]) := by
  obtain ⟨next, rfl, _⟩ := faithful.issue done
  have origin : changed.snapshot.origin = id := next.named
  refine ⟨?_, ?_, ?_⟩
  · intro other isIssued
    rcases List.mem_append.mp isIssued with earlier | new
    · exact (recorded.informed other earlier).record id command
    · rw [List.mem_singleton.mp new]
      exact next.informed
  · intro query
    by_cases same : query = id
    · subst same
      rw [CommandLog.length_record_self, ← recorded.counted query]
      have longer := congrArg List.length (snapshotsFrom_append_self issued changed.snapshot)
      rw [origin, List.length_append] at longer
      exact longer
    · rw [CommandLog.record_of_ne log command same, ← recorded.counted query,
        snapshotsFrom_append_of_ne issued (origin ▸ same)]
  · intro query busy
    by_cases same : query = id
    · subst same
      exact ⟨changed.snapshot, List.mem_append_right _ (.head _), next.current⟩
    · rw [CommandLog.record_of_ne log command same] at busy ⊢
      obtain ⟨other, isIssued, all⟩ := recorded.latest query busy
      exact ⟨other, List.mem_append_left _ isIssued, all⟩

end Recorded

namespace Abreast

variable {changed : StateReplica σ} {snapshot : Snapshot σ} {command : κ}

theorem issue (abreast : Abreast log issued id replica)
    (done : replica.issue command = .ok (changed, snapshot)) :
    Abreast (log.record id command) (issued ++ [snapshot]) id changed := by
  obtain ⟨next, rfl, grown⟩ := abreast.faithful.issue done
  refine ⟨next, ?_⟩
  intro own isIssued from_here
  rcases List.mem_append.mp isIssued with earlier | new
  · exact (abreast.recalls own earlier from_here).trans grown
  · rw [List.mem_singleton.mp new]
    exact VersionVector.Within.refl _

theorem record {other : ReplicaId} (abreast : Abreast log issued id replica)
    (different : id ≠ other) (origin : snapshot.origin = other) (command : κ) :
    Abreast (log.record other command) (issued ++ [snapshot]) id replica := by
  refine ⟨abreast.faithful.record different command, ?_⟩
  intro own isIssued from_here
  rcases List.mem_append.mp isIssued with earlier | new
  · exact abreast.recalls own earlier from_here
  · cases List.mem_singleton.mp new
    exact absurd (from_here.symm.trans origin) different

end Abreast

/-! ## Sessions -/

/-- What such a session keeps: no message is lost, every replica is abreast of its own, and
snapshots tell what was carried out. -/
structure Orderly (log : CommandLog κ) (session : Session (StateReplica σ) (Snapshot σ)) : Prop
    extends Session.Tended .newestFirst Covers (Abreast log session.issued) session where
  recorded : Recorded log session.issued

namespace Orderly

variable {session : Session (StateReplica σ) (Snapshot σ)}
  {network : Network (StateReplica σ) (Snapshot σ)} {handle : Nat} {snapshot : Snapshot σ}

theorem assembled {identifiers ids : List ReplicaId}
    (done : Network.assemble .newestFirst (fun id => ofState id ∅ default) ids
      (.empty identifiers) = .ok network) : Orderly .empty ⟨network, [], []⟩ := by
  have fresh := (Network.fresh_empty _ _ identifiers).assemble done
  refine ⟨⟨Session.carries_assembled fresh, ?_⟩, ⟨?_, fun _ => rfl, ?_⟩⟩
  · intro handle station present
    rw [fresh.initial handle station present]
    exact ⟨faithful_ofState station.id, fun own absent => by cases absent⟩
  · exact fun snapshot absent => by cases absent
  · exact fun origin busy => absurd rfl busy

theorem change {command : κ} (orderly : Orderly log session)
    (done : session.network.change handle (fun replica => replica.issue command) =
      .ok (network, snapshot)) :
    session.network.address? handle = some snapshot.origin ∧
      Orderly (log.record snapshot.origin command)
        ⟨network, session.unpublished ++ [(handle, snapshot)], session.issued ++ [snapshot]⟩ := by
  obtain ⟨station, changed, address, present, issued, rfl⟩ := Network.change_eq_ok done
  have abreast := orderly.sound handle station present
  have next := abreast.issue issued
  obtain ⟨_, isSnapshot, grown⟩ := abreast.faithful.issue issued
  have origin : snapshot.origin = station.id := isSnapshot ▸ next.faithful.named
  rw [origin]
  refine ⟨Network.address?_of_station present, ⟨?_, ?_⟩,
    orderly.recorded.issue abreast.faithful issued⟩
  · refine orderly.carries.change present rfl rfl rfl
      (orderly.recorded.apart abreast.faithful issued) ?_ ?_
    · exact next.recalls snapshot (List.mem_append_right _ (.head _)) origin
    · exact fun earlier _ covered => covered.trans grown
  · intro query other found
    rcases Network.station_of_setMember found with ⟨_, rfl⟩ | ⟨elsewhere, unchanged⟩
    · exact next
    · have different := orderly.carries.wired.ids_differ unchanged present elsewhere
      exact (orderly.sound query other unchanged).record different origin command

theorem publish {rest : List (Nat × Snapshot σ)} (orderly : Orderly log session)
    (split : session.unpublished.Perm ((handle, snapshot) :: rest))
    (done : session.network.publish handle snapshot = .ok network) :
    Orderly log ⟨network, rest, session.issued⟩ :=
  ⟨orderly.toTended.publish split done fun isIssued abreast =>
    abreast.recalls snapshot isIssued rfl, orderly.recorded⟩

theorem deliver (orderly : Orderly log session) :
    Orderly log ⟨session.network.deliver, session.unpublished, session.issued⟩ :=
  ⟨orderly.toTended.deliver, orderly.recorded⟩

theorem apply (orderly : Orderly log session) (handle : Nat) :
    Orderly log ⟨session.network.applyAt handle, session.unpublished, session.issued⟩ :=
  ⟨orderly.toTended.apply (fun _ => teaches_update orderly.recorded) handle, orderly.recorded⟩

end Orderly

theorem InSession.orderly {session : Session (StateReplica σ) (Snapshot σ)}
    (reached : InSession session) : ∃ log : CommandLog κ, Orderly log session := by
  induction reached with
  | assembled done => exact ⟨.empty, .assembled done⟩
  | step _ step ih =>
      obtain ⟨log, orderly⟩ := ih
      cases step with
      | change handle command done => exact ⟨_, (orderly.change done).2⟩
      | publish split done => exact ⟨log, orderly.publish split done⟩
      | giveUp split failed =>
          obtain ⟨network, done⟩ := orderly.carries.publish_ok (split.mem_iff.mpr (.head _))
          rw [done] at failed
          cases failed
      | deliver => exact ⟨log, orderly.deliver⟩
      | apply handle => exact ⟨log, orderly.apply handle⟩

/-! ## Quiet moments -/

/-- Nothing is underway: every snapshot was published and handed to all its destinations. -/
structure Quiet (log : CommandLog κ) (session : Session (StateReplica σ) (Snapshot σ)) : Prop where
  orderly : Orderly log session
  published : session.unpublished = []
  delivered : session.network.exchange.pending = []

namespace Quiet

variable {session : Session (StateReplica σ) (Snapshot σ)}
  {station : Station (StateReplica σ) (Snapshot σ)} {handle : Nat}

theorem settles {unpublished : List (Nat × Snapshot σ)} :
    Network.Settles fun network => Quiet log ⟨network, unpublished, issued⟩ where
  wired quiet := quiet.orderly.carries.wired
  stays {network} quiet handle :=
    ⟨quiet.orderly.apply handle, quiet.published,
      (congrArg Exchange.pending (network.exchange_applyAt handle)).trans quiet.delivered⟩
  empties _ _ := Inbox.queue_applyPending_of_pass (Inbox.refused_of_accepting (fun _ _ => rfl) _ _)

/-- A replica with an empty inbox has seen all commands of everyone. -/
theorem get_version (quiet : Quiet log session)
    (present : session.network.station? handle = some station)
    (empty : station.inbox.queue = []) (origin : ReplicaId) :
    station.replica.version.get origin = (log origin).length := by
  have abreast := quiet.orderly.sound handle station present
  refine Nat.le_antisymm (abreast.faithful.informed.covered origin) ?_
  by_cases idle : log origin = []
  · rw [idle]
    exact Nat.zero_le _
  · obtain ⟨snapshot, isIssued, all⟩ := quiet.orderly.recorded.latest origin idle
    rw [← all]
    rcases quiet.orderly.carries.arrives handle station present snapshot isIssued with
      covered | waits | ⟨pending, isPending, _⟩ | ⟨queued, isQueued, _⟩
    · exact covered origin
    · rw [quiet.published] at waits
      cases waits
    · rw [quiet.delivered] at isPending
      cases isPending
    · rw [empty] at isQueued
      cases isQueued

theorem agree (quiet : Quiet log session) {other : Nat}
    {second : Station (StateReplica σ) (Snapshot σ)}
    (present : session.network.station? handle = some station)
    (empty : station.inbox.queue = [])
    (secondPresent : session.network.station? other = some second)
    (secondEmpty : second.inbox.queue = []) :
    (station.replica.version, station.replica.state) =
      (second.replica.version, second.replica.state) := by
  have left := (quiet.orderly.sound handle station present).faithful.informed
  have right := (quiet.orderly.sound other second secondPresent).faithful.informed
  have counts : ∀ origin,
      station.replica.version.get origin = second.replica.version.get origin := fun origin =>
    (quiet.get_version present empty origin).trans
      (quiet.get_version secondPresent secondEmpty origin).symm
  have version := left.canonical.ext right.canonical counts
  have state := left.state_eq right (by rw [version]; exact ReflBEq.rfl)
  rw [version, state]

end Quiet

/-! ## Whole operations -/

section Operations

variable {session : Session (StateReplica σ) (Snapshot σ)}
  {next : Network (StateReplica σ) (Snapshot σ)} {handle : Nat} {command : κ}

/-- An operation that succeeds is a change that is published at once. -/
theorem InSession.succeed (reached : InSession session)
    (done : session.network.issue handle command = (.ok (), next)) :
    ∃ snapshot, session.network.address? handle = some snapshot.origin ∧
      InSession ⟨next, session.unpublished, session.issued ++ [snapshot]⟩ := by
  unfold Network.issue at done
  split at done
  · cases done
  · obtain ⟨log, orderly⟩ := reached.orderly
    obtain ⟨changed, snapshot, accepted, published⟩ := Network.perform_eq_ok done
    have moved := Session.Reachable.step reached (.change handle command accepted)
    exact ⟨snapshot, (orderly.change accepted).1,
      moved.step (.publish (List.perm_append_singleton _ _) published)⟩

/-- An operation that fails changes nothing, since the exchange takes whatever a member has to
tell. -/
theorem InSession.fail {error : ReplicationError} (reached : InSession session)
    (failed : session.network.issue handle command = (.error error, next)) :
    next = session.network ∧
      (session.network.members.get? handle = none ∨ ∃ cause, error = .refused cause) := by
  unfold Network.issue at failed
  split at failed
  next cause _ =>
    cases failed
    exact ⟨rfl, .inr ⟨cause, rfl⟩⟩
  next =>
    obtain ⟨log, orderly⟩ := reached.orderly
    rcases Network.perform_eq_error_iff.mp failed with ⟨refused, same⟩ | ⟨snapshot, kept, refuses⟩
    · exact ⟨same, orderly.carries.wired.manned.change_eq_error refused⟩
    · obtain ⟨passes, sameExchange⟩ := Network.publish_after_change kept
      obtain ⟨published, taken⟩ := (orderly.change kept).2.carries.publish_ok
        (List.mem_append_right _ (.head _))
      rw [← sameExchange] at refuses
      rw [passes, Network.send_eq_error_iff.mpr refuses] at taken
      cases taken

end Operations

/-- Replicas of this state with distinct identifiers, which begin empty and join one exchange,
converge. No publication is ever refused, so local operations succeed as a whole or change nothing.
When nothing is underway, one apply cycle at every member leaves nothing in any inbox and all
replicas with one state and one version, which counts the snapshots that each of them has made: one
for every operation that succeeded. -/
structure ConvergesWhenQuiet (σ : Type) {κ : Type} [LocalCommand σ κ] [Convergent σ]
    [Inhabited σ] : Prop where
  joins : ∀ (identifiers : List ReplicaId) {ids : List ReplicaId}, ids.Nodup →
    ∃ network : Network (StateReplica σ) (Snapshot σ),
      Network.assemble .newestFirst (fun id => ofState id ∅ default) ids (.empty identifiers) =
        .ok network
  publishes : ∀ {session : Session (StateReplica σ) (Snapshot σ)},
    InSession session → ∀ {handle snapshot}, (handle, snapshot) ∈ session.unpublished →
      ∃ network, session.network.publish handle snapshot = .ok network
  succeeds : ∀ {session : Session (StateReplica σ) (Snapshot σ)}, InSession session →
    ∀ {handle command member next}, session.network.members.get? handle = some member →
      session.network.issue handle command = (.ok (), next) →
      ∃ snapshot, snapshot.origin = member.id ∧
        InSession ⟨next, session.unpublished, session.issued ++ [snapshot]⟩
  fails : ∀ {session : Session (StateReplica σ) (Snapshot σ)}, InSession session →
    ∀ {handle command error next}, session.network.issue handle command = (.error error, next) →
      next = session.network ∧
        (session.network.members.get? handle = none ∨ ∃ cause, error = .refused cause)
  converges : ∀ {session : Session (StateReplica σ) (Snapshot σ)},
    InSession session → session.unpublished = [] → session.network.exchange.pending = [] →
      ∀ {handles : List Nat}, (∀ handle member,
        session.network.members.get? handle = some member → handle ∈ handles) →
      ∃ version state, ∀ handle member, session.network.members.get? handle = some member →
        ∃ settled replica,
          (handles.foldl Network.applyAt session.network).members.get? handle = some settled ∧
          settled.channel.hasPendingUpdates = false ∧ settled.replica = some replica ∧
          replica.id = member.id ∧ replica.version = version ∧ replica.state = state ∧
          ∀ origin, version.get origin = (snapshotsFrom origin session.issued).length

theorem convergesWhenQuiet_of_tally (σ : Type) {κ : Type} [LocalCommand σ κ] [Convergent σ]
    [Inhabited σ] [Tally σ κ] : ConvergesWhenQuiet σ := by
  refine ⟨?_, ?_, ?_, ?_, ?_⟩
  · intro identifiers ids distinct
    exact Network.assemble_ok rfl distinct fun _ _ => rfl
  · intro session reached handle snapshot unpublished
    obtain ⟨log, orderly⟩ := reached.orderly
    exact orderly.carries.publish_ok unpublished
  · intro session reached handle command member next present done
    obtain ⟨log, orderly⟩ := reached.orderly
    obtain ⟨snapshot, origin, moved⟩ := reached.succeed done
    obtain ⟨station, address, rfl⟩ := orderly.carries.wired.manned handle member present
    rw [Network.address?_of_station (Network.station?_eq_some_iff.mpr ⟨address, present⟩)] at origin
    exact ⟨snapshot, (Option.some.inj origin).symm, moved⟩
  · intro session reached handle command error next failed
    exact reached.fail failed
  · intro session reached published delivered handles everyone
    obtain ⟨log, orderly⟩ := reached.orderly
    have quiet : Quiet log session := ⟨orderly, published, delivered⟩
    have settled := (Quiet.settles.applyAll handles [] quiet (fun _ absent => by cases absent)).1
    obtain ⟨⟨version, state⟩, common⟩ := Quiet.settles.exists_common
      (fun replica => (replica.version, replica.state))
      (fun quiet left leftEmpty => quiet.agree left leftEmpty) quiet everyone
    refine ⟨version, state, fun handle member present => ?_⟩
    obtain ⟨station, found, empty, sameId, same⟩ := common handle member present
    obtain ⟨sameVersion, sameState⟩ := Prod.mk.inj same
    obtain ⟨address, isMember⟩ := Network.station?_eq_some_iff.mp found
    have idle := (settled.orderly.carries.ordered handle station found).2
    have abreast := settled.orderly.sound handle station found
    refine ⟨_, station.replica, isMember, ?_, rfl, abreast.faithful.named.trans sameId,
      sameVersion, sameState, fun origin => ?_⟩
    · simp [Station.member, Channel.hasPendingUpdates, Inbox.hasPending, empty, idle]
    · rw [← sameVersion, settled.get_version found empty, orderly.recorded.counted]

theorem replicated_counters_and_sets_converge_when_quiet (α : Type) [Ord α] [Std.TransOrd α]
    [Std.LawfulEqOrd α] [Diagnostic α] :
    ConvergesWhenQuiet GrowCounter ∧ ConvergesWhenQuiet SignedCounter ∧
      ConvergesWhenQuiet (GrowSet α) ∧ ConvergesWhenQuiet (TwoPhaseSet α) :=
  ⟨convergesWhenQuiet_of_tally _, convergesWhenQuiet_of_tally _, convergesWhenQuiet_of_tally _,
    convergesWhenQuiet_of_tally _⟩

/-- One replica adds two elements, one after the other, while another removes the first of them. The
snapshot with both additions is applied first, and the one with a single addition is passed over. -/
theorem passing_over_snapshots_converges :
    ∃ session : Session (StateReplica (TwoPhaseSet Nat)) (Snapshot (TwoPhaseSet Nat)),
      InSession session ∧ session.unpublished = [] ∧ session.network.exchange.pending = [] ∧
      (session.network.station? 1).map (·.inbox.queue.map fun queued =>
        (queued.message.version.get ⟨1⟩, queued.priority)) = some [(1, 1), (2, 2)] ∧
      ∃ version state, ∀ handle member, session.network.members.get? handle = some member →
        ∃ settled replica,
          (session.network.members.keys.elements.foldl Network.applyAt
            session.network).members.get? handle = some settled ∧
          settled.channel.hasPendingUpdates = false ∧ settled.replica = some replica ∧
          replica.id = member.id ∧ replica.version = version ∧ replica.state = state ∧
          ∀ origin, version.get origin = (snapshotsFrom origin session.issued).length := by
  have run : ∃ session : Session (StateReplica (TwoPhaseSet Nat)) (Snapshot (TwoPhaseSet Nat)),
      InSession session ∧ session.unpublished = [] ∧ session.network.exchange.pending = [] ∧
      (session.network.station? 1).map (·.inbox.queue.map fun queued =>
        (queued.message.version.get ⟨1⟩, queued.priority)) = some [(1, 1), (2, 2)] := by
    have joined : InSession (_ : Session (StateReplica (TwoPhaseSet Nat))
        (Snapshot (TwoPhaseSet Nat))) :=
      .assembled (show Network.assemble .newestFirst (fun id => ofState id ∅ default)
        [⟨1⟩, ⟨2⟩] (.empty []) = .ok _ from rfl)
    obtain ⟨_, _, first⟩ :=
      joined.succeed (show Network.issue _ 0 (.add [7]) = (.ok (), _) from rfl)
    obtain ⟨_, _, second⟩ :=
      first.succeed (show Network.issue _ 0 (.add [8]) = (.ok (), _) from rfl)
    obtain ⟨_, _, removed⟩ :=
      second.succeed (show Network.issue _ 1 (.remove [7]) = (.ok (), _) from rfl)
    exact ⟨_, removed.step .deliver, rfl, rfl, rfl⟩
  obtain ⟨session, reached, published, delivered, queued⟩ := run
  exact ⟨session, reached, published, delivered, queued,
    (replicated_counters_and_sets_converge_when_quiet Nat).2.2.2.converges reached published
      delivered fun handle member present => OrderedMap.mem_keys.mpr (by rw [present]; rfl)⟩

end StateReplica

end Confluence

import Confluence.Network.Cycles
import Confluence.Proofs.Replication.ExchangeBooks

/-!
An exchange in use. A fan-out cycle calls the endpoints while the exchange is open to others:
between its phases, and between any two deliveries of it, endpoints may come and go and messages may
be published. What the cycle hands out is what was collected at its beginning, and what was accepted
is recorded at once at its end, by number and identifier.

Main statement: whatever is done and in whichever order, the books of the exchange agree.
-/

set_option autoImplicit false

namespace Confluence

namespace Exchange

/-- A fan-out cycle under way: what it has still to hand out, and what was accepted so far. -/
structure Cycle (μ ε : Type) where
  work : List (Delivery μ ε)
  accepted : List (Nat × ReplicaId)

/-- A moment in the use of an exchange. One task runs the fan-out cycles, so there is at most one
under way. -/
structure Run (μ ε : Type) [Message μ] where
  exchange : Exchange μ ε
  cycle : Option (Cycle μ ε)

/-- What may happen at an exchange. Each phase of a fan-out cycle is an act of its own, and so is
each delivery, which the endpoint accepts or not. -/
inductive Act (μ ε : Type) where
  | attach (id : ReplicaId) (endpoint : ε)
  | detach (id : ReplicaId)
  | publish (message : μ)
  | shutDown
  | collect
  | offer (isAccepted : Bool)
  | record

namespace Run

variable {μ ε : Type} [Message μ]

/-- The moment after an act. What the exchange refuses changes nothing, and neither does an act that
is not due: no cycle begins before the last one has ended, and none ends before all is handed
out. -/
def act (run : Run μ ε) : Act μ ε → Run μ ε
  | .attach id endpoint =>
    match run.exchange.attach id endpoint with
    | .ok exchange => { run with exchange }
    | .error _ => run
  | .detach id => { run with exchange := run.exchange.detach id }
  | .publish message =>
    match run.exchange.publish message with
    | .ok exchange => { run with exchange }
    | .error _ => run
  | .shutDown => { run with exchange := run.exchange.close }
  | .collect =>
    match run.cycle with
    | none => { run with cycle := some ⟨run.exchange.deliveries, []⟩ }
    | some _ => run
  | .offer isAccepted =>
    match run.cycle with
    | some ⟨delivery :: work, accepted⟩ =>
      { run with
        cycle := some ⟨work,
          if isAccepted then accepted ++ [(delivery.number, delivery.destination)]
          else accepted⟩ }
    | _ => run
  | .record =>
    match run.cycle with
    | some ⟨[], accepted⟩ => ⟨run.exchange.acknowledge accepted, none⟩
    | _ => run

def perform (run : Run μ ε) (acts : List (Act μ ε)) : Run μ ε := acts.foldl act run

/-- A new exchange after some acts. -/
def after (acts : List (Act μ ε)) : Run μ ε := perform ⟨.empty, none⟩ acts

variable {run : Run μ ε}

/-! ## The books -/

/-- What one act can make of an exchange. -/
inductive Moves (exchange : Exchange μ ε) : Exchange μ ε → Prop where
  | stay : Moves exchange exchange
  | attach {id endpoint next} : exchange.attach id endpoint = .ok next → Moves exchange next
  | detach (id : ReplicaId) : Moves exchange (exchange.detach id)
  | publish {message next} : exchange.publish message = .ok next → Moves exchange next
  | close : Moves exchange exchange.close
  | acknowledge (accepted : List (Nat × ReplicaId)) :
      Moves exchange (exchange.acknowledge accepted)

theorem moves_act (run : Run μ ε) (act : Act μ ε) : Moves run.exchange (run.act act).exchange := by
  cases act with
  | attach id endpoint =>
      simp only [Run.act]
      split
      next exchange attached => exact .attach attached
      next => exact .stay
  | detach id => exact .detach id
  | publish message =>
      simp only [Run.act]
      split
      next exchange published => exact .publish published
      next => exact .stay
  | shutDown => exact .close
  | collect =>
      simp only [Run.act]
      split <;> exact .stay
  | offer isAccepted =>
      simp only [Run.act]
      split <;> exact .stay
  | record =>
      simp only [Run.act]
      split
      next accepted underway => exact .acknowledge accepted
      next => exact .stay

theorem Moves.balanced [EquivBEq (Message.Key μ)] {exchange next : Exchange μ ε}
    (moves : Moves exchange next) (balanced : exchange.Balanced) : next.Balanced := by
  cases moves with
  | stay => exact balanced
  | attach attached => exact balanced.attach attached
  | detach id => exact balanced.detach id
  | publish published => exact balanced.publish published
  | close => exact balanced.close
  | acknowledge accepted => exact balanced.acknowledge accepted

/-- A pending message goes on awaiting a destination until that one is acknowledged or detached. -/
theorem Moves.awaits {exchange next : Exchange μ ε} (moves : Moves exchange next)
    (coherent : exchange.Coherent) {number : Nat} {message : μ} {destination : ReplicaId}
    (awaits : exchange.Awaits number message destination) :
    next.Awaits number message destination ∨ next.endpoints.get? destination = none ∨
      ∃ accepted, (number, destination) ∈ accepted ∧ next = exchange.acknowledge accepted := by
  cases moves with
  | stay => exact .inl awaits
  | attach attached =>
      obtain ⟨_, _, rfl⟩ := attach_eq_ok attached
      exact .inl awaits
  | detach id =>
      by_cases same : destination = id
      · refine .inr (.inl ?_)
        rw [endpoints_detach, if_pos same]
      · exact .inl ((coherent.awaits_detach id).mpr ⟨awaits, same⟩)
  | publish published => exact .inl ((awaits_publish published).mpr (.inl awaits))
  | close => exact .inl awaits
  | acknowledge accepted =>
      by_cases isAccepted : (number, destination) ∈ accepted
      · exact .inr (.inr ⟨accepted, isAccepted, rfl⟩)
      · exact .inl ((awaits_acknowledge accepted).mpr ⟨awaits, isAccepted⟩)

theorem balanced_perform [EquivBEq (Message.Key μ)] (balanced : run.exchange.Balanced)
    (acts : List (Act μ ε)) : (run.perform acts).exchange.Balanced := by
  induction acts generalizing run with
  | nil => exact balanced
  | cons first later ih => exact ih ((moves_act run first).balanced balanced)

theorem balanced_after [EquivBEq (Message.Key μ)] (acts : List (Act μ ε)) :
    (after acts).exchange.Balanced :=
  balanced_perform balanced_empty acts

end Run

/-! ## Closed exchanges -/

/-- The exchange is closed, and has nothing that it did not have before. -/
structure Dwindles {μ ε : Type} [Message μ] (before after : Exchange μ ε) : Prop where
  isClosed : after.isClosed = true
  endpoints : ∀ id endpoint, after.endpoints.get? id = some endpoint →
    before.endpoints.get? id = some endpoint
  pending : ∀ pending ∈ after.pending, ∃ earlier ∈ before.pending,
    earlier.number = pending.number ∧ earlier.message = pending.message ∧
      ∀ id ∈ pending.remaining, id ∈ earlier.remaining

namespace Dwindles

variable {μ ε : Type} [Message μ] {before middle after : Exchange μ ε}

theorem refl (isClosed : before.isClosed = true) : Dwindles before before where
  isClosed := isClosed
  endpoints _ _ attached := attached
  pending pending isPending := ⟨pending, isPending, rfl, rfl, fun _ awaits => awaits⟩

theorem trans (first : Dwindles before middle) (second : Dwindles middle after) :
    Dwindles before after where
  isClosed := second.isClosed
  endpoints id endpoint attached :=
    first.endpoints id endpoint (second.endpoints id endpoint attached)
  pending pending isPending := by
    obtain ⟨between, wasPending, sameNumber, sameMessage, fewer⟩ :=
      second.pending pending isPending
    obtain ⟨earlier, wasEarlier, earlierNumber, earlierMessage, fewer'⟩ :=
      first.pending between wasPending
    exact ⟨earlier, wasEarlier, earlierNumber.trans sameNumber, earlierMessage.trans sameMessage,
      fun id awaits => fewer' id (fewer id awaits)⟩

theorem detach (isClosed : before.isClosed = true) (id : ReplicaId) :
    Dwindles before (before.detach id) := by
  refine ⟨?_, ?_, ?_⟩
  · unfold Exchange.detach
    split <;> exact isClosed
  · intro query endpoint attached
    rw [endpoints_detach] at attached
    split at attached
    · cases attached
    · exact attached
  · intro pending isPending
    unfold Exchange.detach at isPending
    split at isPending
    · obtain ⟨earlier, wasPending, rfl⟩ := List.mem_map.mp (mem_release.mp isPending).1
      exact ⟨earlier, wasPending, rfl, rfl, fun query awaits => (OrderedSet.mem_erase.mp awaits).1⟩
    · exact ⟨pending, isPending, rfl, rfl, fun _ awaits => awaits⟩

theorem acknowledge (isClosed : before.isClosed = true) (accepted : List (Nat × ReplicaId)) :
    Dwindles before (before.acknowledge accepted) := by
  refine ⟨isClosed, fun _ _ attached => attached, ?_⟩
  intro pending isPending
  obtain ⟨earlier, wasPending, rfl⟩ := List.mem_map.mp (mem_release.mp isPending).1
  exact ⟨earlier, wasPending, (number_foldl_strike accepted earlier).symm,
    (foldl_strike accepted earlier).1.symm,
    fun id awaits => (((foldl_strike accepted earlier).2 id).mp awaits).1⟩

theorem move (isClosed : before.isClosed = true) (moves : Run.Moves before after) :
    Dwindles before after := by
  cases moves with
  | stay => exact refl isClosed
  | attach attached => exact absurd isClosed (by simp [(attach_eq_ok attached).1])
  | detach id => exact detach isClosed id
  | publish published => exact absurd isClosed (by simp [(publish_eq_ok published).1])
  | close =>
      exact ⟨rfl, fun _ _ attached => attached,
        fun pending isPending => ⟨pending, isPending, rfl, rfl, fun _ awaits => awaits⟩⟩
  | acknowledge accepted => exact acknowledge isClosed accepted

theorem perform {run : Run μ ε} (isClosed : run.exchange.isClosed = true)
    (acts : List (Act μ ε)) : Dwindles run.exchange (run.perform acts).exchange := by
  induction acts generalizing run with
  | nil => exact refl isClosed
  | cons first later ih =>
      have once := move isClosed (Run.moves_act run first)
      exact once.trans (ih once.isClosed)

end Dwindles

/-! ## What the books are good for -/

/-- The books of the exchange agree, so that while it is open a message is taken for a duplicate
exactly if one with its key is pending; a refusal changes nothing; and a closed exchange refuses
every message as closed, and only dwindles. -/
structure KeepsBooks {μ ε : Type} [Message μ] (run : Run μ ε) : Prop where
  balanced : run.exchange.Balanced
  duplicate : ∀ message,
    (∃ key, run.exchange.publish message = .error (.duplicateMessage key)) ↔
      run.exchange.isClosed = false ∧ ∃ pending ∈ run.exchange.pending,
        (Message.key pending.message == Message.key message) = true
  refusesClosed : run.exchange.isClosed = true →
    ∀ message, run.exchange.publish message = .error .channelClosed
  refusedMessage : ∀ message error, run.exchange.publish message = .error error →
    run.act (.publish message) = run
  refusedEndpoint : ∀ id endpoint error, run.exchange.attach id endpoint = .error error →
    run.act (.attach id endpoint) = run
  closed : run.exchange.isClosed = true → ∀ acts,
    Dwindles run.exchange (run.perform acts).exchange

variable {μ ε : Type} [Message μ]

theorem Coherent.duplicate_iff {exchange : Exchange μ ε} (coherent : exchange.Coherent)
    (message : μ) :
    (∃ key, exchange.publish message = .error (.duplicateMessage key)) ↔
      exchange.isClosed = false ∧ ∃ pending ∈ exchange.pending,
        (Message.key pending.message == Message.key message) = true := by
  rw [← coherent.reserved_iff]
  constructor
  · intro ⟨key, refused⟩
    cases publish_eq_error_iff.mp refused with
    | pending isOpen isReserved same => exact ⟨isOpen, _, isReserved, same⟩
  · intro ⟨isOpen, key, isReserved, same⟩
    exact ⟨_, publish_eq_error_iff.mpr (.pending isOpen isReserved same)⟩

/-- However an exchange is used, its books are kept. -/
theorem Run.keepsBooks [EquivBEq (Message.Key μ)] (acts : List (Act μ ε)) :
    KeepsBooks (Run.after acts) := by
  have balanced := Run.balanced_after acts
  refine ⟨balanced, balanced.duplicate_iff, ?_, ?_, ?_, Dwindles.perform⟩
  · intro closed message
    exact publish_eq_error_iff.mpr (.closed closed)
  · intro message error refused
    simp only [Run.act, refused]
  · intro id endpoint error refused
    simp only [Run.act, refused]

/-- An endpoint leaves while a cycle is under way, and the exchange is closed before what was
accepted is recorded. -/
theorem books_kept_through_interrupted_cycle :
    ∃ run : Run (OperationMessage Nat) Nat, run.exchange.isClosed = true ∧
      run.cycle.isSome = true ∧ run.exchange.pending.length = 1 ∧ KeepsBooks run :=
  ⟨Run.after [.attach ⟨1⟩ 0, .attach ⟨2⟩ 1, .attach ⟨3⟩ 2, .publish ⟨⟨⟨3⟩, ⟨1, by decide⟩⟩, 7⟩,
    .collect, .offer true, .detach ⟨2⟩, .shutDown], rfl, rfl, rfl, Run.keepsBooks _⟩

/-- A closed exchange refuses a message as such, even if one with its key is still pending. -/
theorem closed_exchange_refuses_pending_key_as_closed :
    ∃ (run : Run (OperationMessage Nat) Nat) (message : OperationMessage Nat),
      run = Run.after [.attach ⟨1⟩ 0, .publish message, .shutDown] ∧
        (∃ pending ∈ run.exchange.pending,
          (Message.key pending.message == Message.key message) = true) ∧
        run.exchange.publish message = .error .channelClosed :=
  ⟨_, ⟨⟨⟨2⟩, ⟨1, by decide⟩⟩, 7⟩, rfl, ⟨_, .head _, rfl⟩, rfl⟩

/-! ## Cycles that nothing interrupts -/

namespace Run

variable {run : Run μ ε}

theorem perform_append (run : Run μ ε) (first second : List (Act μ ε)) :
    run.perform (first ++ second) = (run.perform first).perform second :=
  List.foldl_append

theorem perform_offers {σ : Type} (offer : Delivery μ ε → σ → Bool × σ) (exchange : Exchange μ ε)
    (work : List (Delivery μ ε)) (accepted : List (Nat × ReplicaId)) (state : σ) :
    ∃ answers : List Bool,
      perform ⟨exchange, some ⟨work, accepted⟩⟩ (answers.map .offer) =
        ⟨exchange, some ⟨[], accepted ++ (offerAll offer work state).1⟩⟩ := by
  induction work generalizing accepted state with
  | nil => exact ⟨[], by simp [perform, offerAll]⟩
  | cons delivery later ih =>
      cases answered : offer delivery state with
      | mk isAccepted after =>
          obtain ⟨answers, offered⟩ := ih
            (if isAccepted then accepted ++ [(delivery.number, delivery.destination)]
              else accepted) after
          refine ⟨isAccepted :: answers, offered.trans ?_⟩
          simp only [offerAll, answered]
          cases isAccepted <;> simp

/-- A cycle that nothing interrupts offers everything in turn and records what was accepted. -/
theorem perform_cycle {σ : Type} (offer : Delivery μ ε → σ → Bool × σ) (state : σ)
    (idle : run.cycle = none) :
    ∃ answers : List Bool, run.perform (.collect :: answers.map .offer ++ [.record]) =
      { run with
        exchange :=
          run.exchange.acknowledge (offerAll offer run.exchange.deliveries state).1 } := by
  obtain ⟨answers, offered⟩ := perform_offers offer run.exchange run.exchange.deliveries [] state
  have collected : run.act .collect =
      ⟨run.exchange, some ⟨run.exchange.deliveries, []⟩⟩ := by
    simp only [act, idle]
  refine ⟨answers, ?_⟩
  have begun : run.perform (.collect :: answers.map .offer) =
      ⟨run.exchange, some ⟨[], (offerAll offer run.exchange.deliveries state).1⟩⟩ := by
    change perform (run.act .collect) (answers.map .offer) = _
    rw [collected, offered, List.nil_append]
  rw [perform_append, begun, idle]
  rfl

end Run

end Exchange

namespace Network

variable {ρ μ : Type} [Message μ]

theorem exchange_offer (delivery : Delivery μ Endpoint) (network : Network ρ μ) :
    (offer delivery network).2.exchange = network.exchange := by
  unfold offer
  split
  · rfl
  · unfold receive
    cases network.members.get? _ with
    | none => rfl
    | some member =>
        cases received : member.channel.receive delivery.message with
        | error error => simp only [received]; rfl
        | ok channel => simp only [received]; rfl

theorem exchange_offerAll (deliveries : List (Delivery μ Endpoint)) (network : Network ρ μ) :
    (Exchange.offerAll offer deliveries network).2.exchange = network.exchange := by
  induction deliveries generalizing network with
  | nil => rfl
  | cons first later ih => exact (ih _).trans (exchange_offer first network)

/-- A fan-out cycle of a network is a cycle of its exchange that nothing interrupts. -/
theorem exchange_deliver (network : Network ρ μ) (isFanningOut : network.isFanningOut = true) :
    ∃ answers : List Bool,
      Exchange.Run.perform ⟨network.exchange, none⟩
          (.collect :: answers.map .offer ++ [.record]) =
        ⟨network.deliver.exchange, none⟩ := by
  have idle : (⟨network.exchange, none⟩ : Exchange.Run μ Endpoint).cycle = none := rfl
  obtain ⟨answers, performed⟩ := Exchange.Run.perform_cycle offer network idle
  refine ⟨answers, performed.trans ?_⟩
  simp only [deliver, isFanningOut, ↓reduceIte, exchange_offerAll]

end Network

end Confluence

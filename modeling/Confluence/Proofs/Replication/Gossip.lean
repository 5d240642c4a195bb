import Confluence.OrderedMap
import Confluence.ReplicaId

/-!
Participants that talk over a medium which may delay, reorder, repeat and lose what is said. What
was said once may be heard by anyone at any later moment, any number of times or never, so the
medium is no more than the list of everything that was said.
-/

set_option autoImplicit false

namespace Confluence

/-- Participants by identifier, and everything said so far, oldest first. -/
structure Gossip (ρ μ : Type) where
  participants : OrderedMap ReplicaId ρ
  said : List μ

namespace Gossip

variable {ρ μ : Type}

def fresh (ids : List ReplicaId) (begin : ReplicaId → ρ) (known : List μ) : Gossip ρ μ :=
  ⟨ids.foldl (fun participants id => participants.insert id (begin id)) ∅, known⟩

def advance (gossip : Gossip ρ μ) (id : ReplicaId) (participant : ρ) (messages : List μ) :
    Gossip ρ μ :=
  ⟨gossip.participants.insert id participant, gossip.said ++ messages⟩

private theorem found_in_foldl_insert {begin : ReplicaId → ρ} {ids : List ReplicaId}
    {participants : OrderedMap ReplicaId ρ} {id : ReplicaId} {found : ρ}
    (known : ∀ other, participants.get? id = some other → other = begin id)
    (present : (ids.foldl (fun participants id => participants.insert id (begin id))
      participants).get? id = some found) : found = begin id := by
  induction ids generalizing participants with
  | nil => exact known found present
  | cons first rest ih =>
      refine ih ?_ present
      intro other inserted
      rw [OrderedMap.get?_insert] at inserted
      by_cases same : id = first
      · subst same
        simp only [Std.ReflOrd.compare_self, ↓reduceIte, Option.some.injEq] at inserted
        exact inserted.symm
      · rw [if_neg (by simpa using same)] at inserted
        exact known other inserted

theorem participant_of_fresh {ids : List ReplicaId} {begin : ReplicaId → ρ} {known : List μ}
    {id : ReplicaId} {found : ρ}
    (present : (fresh ids begin known).participants.get? id = some found) :
    found = begin id :=
  found_in_foldl_insert (fun _ absent => by cases absent) present

@[simp] theorem said_advance (gossip : Gossip ρ μ) (id : ReplicaId) (participant : ρ)
    (messages : List μ) : (gossip.advance id participant messages).said = gossip.said ++ messages :=
  rfl

theorem participant_of_advance {gossip : Gossip ρ μ} {id query : ReplicaId}
    {participant found : ρ} {messages : List μ}
    (present : (gossip.advance id participant messages).participants.get? query = some found) :
    query = id ∧ found = participant ∨
      query ≠ id ∧ gossip.participants.get? query = some found := by
  rw [advance, OrderedMap.get?_insert] at present
  by_cases same : query = id
  · subst same
    simp only [Std.ReflOrd.compare_self, ↓reduceIte, Option.some.injEq] at present
    exact .inl ⟨rfl, present.symm⟩
  · rw [if_neg (by simpa using same)] at present
    exact .inr ⟨same, present⟩

/-- Participants that say how they are whenever they change have always said how they are. -/
theorem mem_said_of_advance {gossip : Gossip ρ ρ} {id query : ReplicaId} {participant found : ρ}
    (recorded : ∀ query found, gossip.participants.get? query = some found → found ∈ gossip.said)
    (present : (gossip.advance id participant [participant]).participants.get? query =
      some found) :
    found ∈ (gossip.advance id participant [participant]).said := by
  rcases participant_of_advance present with ⟨_, same⟩ | ⟨_, earlier⟩
  · exact List.mem_append_right _ (List.mem_singleton.mpr same)
  · exact List.mem_append_left _ (recorded query found earlier)

end Gossip

end Confluence

import Confluence.Network.Cycles

/-!
Closing on the virtual clock is made of three steps: members begin to close, fan-out cycles run, and
members that have begun are finished, whether they are drained or not. What the steps keep holds
when all are closed.
-/

set_option autoImplicit false

namespace Confluence.Network

variable {ρ μ : Type} [Message μ] [Updatable ρ μ]

/-- Kept while members that have begun to close are waited for and finished. -/
structure KeptWhileClosing (holds : Network ρ μ → List Nat → Prop) : Prop where
  deliver : ∀ {network waiting}, holds network waiting → holds network.deliver waiting
  finish : ∀ {network waiting handle}, holds network waiting → handle ∈ waiting →
    holds (network.finishClosing handle) (waiting.erase handle)

namespace KeptWhileClosing

variable {holds : Network ρ μ → List Nat → Prop} {network : Network ρ μ} {waiting : List Nat}

theorem settle (kept : KeptWhileClosing holds) (now : holds network waiting) :
    holds (network.settle waiting).1 (network.settle waiting).2 := by
  induction network, waiting using Network.settle.induct with
  | case1 network waiting nobody =>
      rw [Network.settle]
      split
      next => exact now
      next handle found =>
        rw [nobody] at found
        cases found
  | case2 network waiting handle isFirst ih =>
      rw [Network.settle]
      split
      next nobody =>
        rw [isFirst] at nobody
        cases nobody
      next other found =>
        cases isFirst.symm.trans found
        exact ih (kept.finish now (List.mem_of_find?_eq_some isFirst))

theorem beginClosingAll (kept : KeptWhileClosing holds)
    (begins : ∀ {network next waiting handle}, holds network waiting →
      network.beginClosing handle = .ok next → holds next (waiting ++ [handle]))
    (now : holds network waiting) (handles : List Nat) :
    holds (Network.beginClosingAll handles waiting network).2.2
      (Network.beginClosingAll handles waiting network).2.1 := by
  induction handles generalizing waiting network with
  | nil => exact now
  | cons handle later ih =>
      unfold Network.beginClosingAll
      cases begun : network.beginClosing handle with
      | error error => simpa only [begun] using ih now
      | ok next => simpa only [begun] using ih (kept.settle (begins now begun))

theorem drain (kept : KeptWhileClosing holds) (cycles : Nat) (now : holds network waiting) :
    holds (Network.drain cycles network waiting).1 (Network.drain cycles network waiting).2 := by
  induction cycles generalizing network waiting with
  | zero => exact now
  | succ cycles ih =>
      unfold Network.drain
      split
      · exact now
      · exact ih (kept.settle (kept.deliver now))

theorem finishAll (kept : KeptWhileClosing holds) (now : holds network waiting) :
    holds (waiting.foldl Network.finishClosing network) [] := by
  induction waiting generalizing network with
  | nil => exact now
  | cons handle later ih =>
      have finished := kept.finish now (.head _)
      rw [List.erase_cons_head] at finished
      exact ih finished

/-- From the moment at which all have begun to close to the moment at which all are closed. -/
theorem closeAll (kept : KeptWhileClosing holds) {handles : List Nat}
    (begun : holds (Network.beginClosingAll handles [] network).2.2
      (Network.beginClosingAll handles [] network).2.1) :
    holds (network.closeAll handles).2 [] := by
  unfold Network.closeAll
  split
  next outcomes waiting middle began =>
    rw [began] at begun
    have drained := kept.drain Network.drainCycles begun
    split
    next settled left isDrained =>
      rw [isDrained] at drained
      split
      next nobody =>
        rw [List.isEmpty_iff.mp nobody] at drained
        exact drained
      next => exact kept.deliver (kept.finishAll drained)

end KeptWhileClosing

/-- Whether a member closes is settled when it begins to. -/
theorem close_eq_ok {network next : Network ρ μ} {handle : Nat}
    (closed : network.close handle = (.ok (), next)) :
    ∃ begun, network.beginClosing handle = .ok begun ∧
      Network.beginClosingAll [handle] [] network =
        ([.ok ()], (begun.settle [handle]).2, (begun.settle [handle]).1) ∧
      (network.closeAll [handle]).2 = next := by
  cases begins : network.beginClosing handle with
  | ok begun =>
      refine ⟨begun, rfl, ?_, congrArg Prod.snd closed⟩
      simp only [Network.beginClosingAll, begins]
      rfl
  | error error =>
      have outcome := congrArg Prod.fst closed
      simp only [close, closeAll, Network.beginClosingAll, begins, drain, drainCycles,
        List.isEmpty_nil, ↓reduceIte] at outcome
      cases outcome

theorem close_eq_error {network : Network ρ μ} {handle : Nat} {error : ReplicationError}
    (refused : network.beginClosing handle = .error error) :
    network.close handle = (.error error, network) := by
  simp only [close, closeAll, Network.beginClosingAll, refused, drain, drainCycles,
    List.isEmpty_nil, ↓reduceIte]
  rfl

end Confluence.Network

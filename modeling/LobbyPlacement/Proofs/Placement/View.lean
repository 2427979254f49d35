import LobbyPlacement.Proofs.Placement.Moves

/-!
# What stands behind a desk

A store may stand before another one, hand every call on to it and keep a book of its own, and so
may a publisher. `Desk.view` is the desk as it stands behind them: what is asked of the desk in
front leads behind it to the same answers, so whatever such books say holds of the desk without
them.
-/

namespace LobbyPlacement

/-- What a store is seen to stand before answers every call alike. -/
def Store.Transparent {σ τ : Type} [Store σ] [Store τ] (f : σ → τ) : Prop :=
  ∀ s c, Store.perform (f s) c = (f (Store.perform s c).1, (Store.perform s c).2)

def Publisher.Transparent {π ρ : Type} [Publisher π] [Publisher ρ] (g : π → ρ) : Prop :=
  ∀ p now limit channel payload, Publisher.publish (g p) now limit channel payload =
    (g (Publisher.publish p now limit channel payload).1,
      (Publisher.publish p now limit channel payload).2)

namespace Desk

variable {σ τ π ρ : Type}

def view (f : σ → τ) (g : π → ρ) (d : Desk σ π) : Desk τ ρ :=
  ⟨d.rules, f d.store, g d.publisher, d.now, d.stats, d.metrics⟩

theorem view_recordAll (f : σ → τ) (g : π → ρ) (d : Desk σ π) (started : Nat) (notes : List Note) :
    (d.view f g).recordAll started notes = (d.recordAll started notes).view f g := by
  unfold recordAll
  induction notes generalizing d with
  | nil => rfl
  | cons note rest ih => exact ih (d.record started note)

variable [Store σ] [Store τ] [Publisher π] [Publisher ρ] {f : σ → τ} {g : π → ρ}

theorem view_carryOut (stores : Store.Transparent f) (publishers : Publisher.Transparent g)
    (d : Desk σ π) (e : Effect) :
    (d.view f g).carryOut e = ((d.carryOut e).1.view f g, (d.carryOut e).2) := by
  cases e with
  | store call => simp only [carryOut, view, stores d.store call]
  | announce a =>
    show (d.view f g).announce a = ((d.announce a).1.view f g, (d.announce a).2)
    simp only [announce_eq, view, publishers d.publisher]

theorem view_step (stores : Store.Transparent f) (publishers : Publisher.Transparent g)
    (d : Desk σ π) (t : Ticket) :
    (d.view f g).step t = ((d.step t).1.view f g, (d.step t).2) := by
  simp only [step, view_carryOut stores publishers, ← view_recordAll]
  rfl

theorem view_finish (stores : Store.Transparent f) (publishers : Publisher.Transparent g)
    (d : Desk σ π) (lobby : String) (started : Nat) (p : Progress) :
    (d.view f g).finish lobby started p =
      ((d.finish lobby started p).1.view f g, (d.finish lobby started p).2) := by
  fun_induction d.finish lobby started p with
  | case1 d outcome => rw [finish]
  | case2 d => rw [finish]
  | case3 d phase next ih =>
    rw [finish, view_step stores publishers]
    exact ih

theorem view_resolve (stores : Store.Transparent f) (publishers : Publisher.Transparent g)
    (d : Desk σ π) (lobby : String) :
    (d.view f g).resolve lobby = ((d.resolve lobby).1.view f g, (d.resolve lobby).2) := by
  simp only [resolve, begin]
  rw [view_recordAll, view_finish stores publishers]
  rfl

end Desk

end LobbyPlacement

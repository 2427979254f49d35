import LobbyPlacement.Store.Call

/-!
# Overheard stores

A store that keeps a transcript of what it is asked and what it answers. It hides nothing and adds
nothing: the store behind it is asked the same calls, and its answers are handed on as they are.
-/

namespace LobbyPlacement

/-- A store call and its answer. -/
structure Asked where
  call : StoreCall
  reply : call.Reply

namespace Asked

/-- The faults in an answer: that of the call, or those among the items of a listing. -/
def faults : Asked → List Fault
  | ⟨_, .error fault⟩ => [fault]
  | ⟨.scan _, .ok items⟩ => items.filterMap fun item =>
      match item with
      | .error fault => some fault
      | .ok _ => none
  | ⟨_, .ok _⟩ => []

end Asked

structure Overheard (σ : Type) where
  inner : σ
  asked : List Asked

namespace Overheard

variable {σ : Type}

/-- A store that has not been asked anything yet. -/
def fresh (s : σ) : Overheard σ := ⟨s, []⟩

def perform [Store σ] (s : Overheard σ) (c : StoreCall) : Overheard σ × c.Reply :=
  let (inner, reply) := Store.perform s.inner c
  (⟨inner, s.asked ++ [⟨c, reply⟩]⟩, reply)

instance [Store σ] : Store (Overheard σ) := ⟨perform⟩

theorem inner_perform [Store σ] (s : Overheard σ) (c : StoreCall) :
    Store.perform s.inner c = ((Store.perform s c).1.inner, (Store.perform s c).2) := rfl

theorem asked_perform [Store σ] (s : Overheard σ) (c : StoreCall) :
    (Store.perform s c).1.asked = s.asked ++ [⟨c, (Store.perform s c).2⟩] := rfl

end Overheard

end LobbyPlacement

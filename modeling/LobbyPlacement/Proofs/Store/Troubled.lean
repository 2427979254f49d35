import LobbyPlacement.Proofs.Store.Ledger

/-!
# Stores with troubles

A store in front of which calls may fail. Each call takes the next trouble of a plan: it is passed
on, fails before it reaches the store behind, or, if it is a listing, is interrupted at one of its
items. Whatever is planned, the store behind keeps its table.
-/

namespace LobbyPlacement

/-- What happens to one call. -/
inductive Trouble
  | none
  | fails (fault : Fault)
  | interrupts (after : Nat) (fault : Fault)

/-- A listing with a fault after so many of its items; any other reply is not interrupted. -/
def StoreCall.interrupted (after : Nat) (fault : Fault) : (c : StoreCall) → c.Reply → c.Reply
  | .scan _, .ok listing => .ok (listing.take after ++ .error fault :: listing.drop after)
  | _, reply => reply

structure Troubled (σ : Type) where
  inner : σ
  plan : List Trouble

namespace Troubled

variable {σ : Type} [Store σ]

/-- A call beyond the plan is passed on. -/
def perform (s : Troubled σ) (c : StoreCall) : Troubled σ × c.Reply :=
  match s.plan.headD .none with
  | .fails fault => (⟨s.inner, s.plan.tail⟩, .error fault)
  | .none =>
    let (inner, reply) := Store.perform s.inner c
    (⟨inner, s.plan.tail⟩, reply)
  | .interrupts after fault =>
    let (inner, reply) := Store.perform s.inner c
    (⟨inner, s.plan.tail⟩, c.interrupted after fault reply)

instance : Store (Troubled σ) := ⟨perform⟩

theorem answers_interrupted {t later : Table} {c : StoreCall} {reply : c.Reply}
    (answered : Answers t c reply later) (after : Nat) (fault : Fault) :
    Answers t c (c.interrupted after fault reply) later := by
  cases answered with
  | listed pattern listing => exact .listed pattern _
  | failed c fault => cases c <;> exact .failed _ fault
  | read key => exact .read key
  | overwritten key value => exact .overwritten key value
  | claimed key value absent => exact .claimed key value absent
  | refused key value stored => exact .refused key value stored
  | pinged => exact .pinged

instance [Ledger σ] : Ledger (Troubled σ) where
  table s := Ledger.table s.inner
  Weather := Ledger.Weather σ
  weather s w := { s with inner := Ledger.weather s.inner w }
  table_weather s w := Ledger.table_weather s.inner w
  answers s c := by
    show Answers (Ledger.table s.inner) c (s.perform c).2 (Ledger.table (s.perform c).1.inner)
    have answered := Ledger.answers s.inner c
    unfold perform
    cases s.plan.headD .none with
    | none => exact answered
    | fails fault => exact .failed c fault
    | interrupts after fault => exact answers_interrupted answered after fault

/-- A store in memory is only changed by what it is made to write. -/
theorem available_perform (s : Troubled MemoryStore) (c : StoreCall) :
    (s.perform c).1.inner.available = s.inner.available := by
  have kept : (s.inner.perform c).1.available = s.inner.available := by
    cases available : s.inner.available with
    | true => rw [MemoryStore.perform_available available]
    | false => rw [MemoryStore.perform_unavailable available, available]
  unfold perform
  cases s.plan.headD .none with
  | fails fault => rfl
  | none => exact kept
  | interrupts after fault => exact kept

end Troubled

end LobbyPlacement

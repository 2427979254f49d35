import LobbyPlacement.Proofs.Placement.Hall
import LobbyPlacement.Proofs.Placement.View

/-!
# Desks with books

A store that books the writes it has made, and a publisher that books every call, before it is known
what becomes of it. No service has such books: they stand in front of its store and its publisher so
that a statement can speak of what was written and published. `Hall.plain_run` says that booking
changes nothing: without the books, a run at an observed desk is the run at the desk itself.
-/

namespace LobbyPlacement

/-- The write that a call has made if this is its reply. -/
def StoreCall.committed : (c : StoreCall) → c.Reply → List (String × String)
  | .put key value, .ok () => [(key, value)]
  | .putIfAbsent key value, .ok true => [(key, value)]
  | _, _ => []

structure Audited (σ : Type) where
  inner : σ
  writes : List (String × String)

namespace Audited

variable {σ : Type}

def perform [Store σ] (s : Audited σ) (c : StoreCall) : Audited σ × c.Reply :=
  let (inner, reply) := Store.perform s.inner c
  (⟨inner, s.writes ++ c.committed reply⟩, reply)

instance [Store σ] : Store (Audited σ) := ⟨perform⟩

instance [Store σ] [Ledger σ] : Ledger (Audited σ) where
  table s := Ledger.table s.inner
  Weather := Ledger.Weather σ
  weather s w := { s with inner := Ledger.weather s.inner w }
  table_weather s w := Ledger.table_weather s.inner w
  answers s c := Ledger.answers s.inner c

end Audited

structure Watched (π : Type) where
  inner : π
  calls : List (String × Text.Utf8.Bytes)

instance {π : Type} [Publisher π] : Publisher (Watched π) where
  publish p now limit channel payload :=
    let (inner, attempt) := Publisher.publish p.inner now limit channel payload
    (⟨inner, p.calls ++ [(channel, payload)]⟩, attempt)
  isHealthy p := Publisher.isHealthy p.inner

namespace Desk

variable {σ π : Type}

def observed (d : Desk σ π) : Desk (Audited σ) (Watched π) :=
  ⟨d.rules, ⟨d.store, []⟩, ⟨d.publisher, []⟩, d.now, d.stats, d.metrics⟩

def plain (d : Desk (Audited σ) (Watched π)) : Desk σ π :=
  ⟨d.rules, d.store.inner, d.publisher.inner, d.now, d.stats, d.metrics⟩

theorem plain_recordAll (d : Desk (Audited σ) (Watched π)) (started : Nat) (notes : List Note) :
    (d.recordAll started notes).plain = d.plain.recordAll started notes :=
  (view_recordAll Audited.inner Watched.inner d started notes).symm

theorem plain_step [Store σ] [Publisher π] (d : Desk (Audited σ) (Watched π)) (t : Ticket) :
    d.plain.step t = ((d.step t).1.plain, (d.step t).2) :=
  view_step (f := Audited.inner) (g := Watched.inner) (fun _ _ => rfl) (fun _ _ _ _ _ => rfl) d t

theorem plain_lookup [Store σ] (d : Desk (Audited σ) (Watched π)) (lobby : String) :
    d.plain.lookup lobby = ((d.lookup lobby).1.plain, (d.lookup lobby).2) := by
  unfold lookup
  cases Placement.checkLobby lobby with
  | error fault => rfl
  | ok => rfl

end Desk

namespace Hall

variable {σ π : Type}

def plain (h : Hall (Audited σ) (Watched π)) : Hall σ π := ⟨h.desk.plain, h.seats, h.glances⟩

variable [Store σ] [Ledger σ] [Publisher π]

theorem plain_hall_step (h : Hall (Audited σ) (Watched π)) (e : Event (Ledger.Weather σ)) :
    (h.step e).plain = h.plain.step e := by
  cases e with
  | enter lobby =>
    show (h.enter lobby).plain = h.plain.enter lobby
    simp only [enter, Desk.begin, plain, Desk.plain_recordAll]
    rfl
  | advance number =>
    show (h.advance number).plain = h.plain.advance number
    by_cases seated : ∃ lobby started phase,
        h.seats[number]? = some ⟨lobby, started, .waiting phase⟩
    · obtain ⟨lobby, started, phase, seated⟩ := seated
      have plainSeated : h.plain.seats[number]? = some ⟨lobby, started, .waiting phase⟩ := seated
      rw [advance_eq seated, advance_eq plainSeated]
      simp only [plain, Desk.plain_step]
    · have ended : ∀ lobby started phase,
          h.seats[number]? ≠ some ⟨lobby, started, .waiting phase⟩ :=
        fun lobby started phase waiting => seated ⟨lobby, started, phase, waiting⟩
      rw [advance_of_not_seated ended, advance_of_not_seated (h := h.plain) ended]
  | glance lobby =>
    show (h.glance lobby).plain = h.plain.glance lobby
    simp only [glance, plain, Desk.plain_lookup]
  | weather w => rfl
  | elapse ms => rfl

theorem plain_run (h : Hall (Audited σ) (Watched π)) (events : List (Event (Ledger.Weather σ))) :
    (h.run events).plain = h.plain.run events := by
  induction events generalizing h with
  | nil => rfl
  | cons e rest ih => exact (ih (h.step e)).trans (congrArg (run · rest) (plain_hall_step h e))

end Hall

end LobbyPlacement

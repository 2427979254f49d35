import LobbyPlacement.Placement.Census
import LobbyPlacement.Proofs.Store.Contents
import LobbyPlacement.Proofs.Text.Star

/-!
# Stores that keep a table

What requests rely on in a store: behind its calls stands a table, each call is answered from it at
one moment or fails without touching it, and nothing else writes to it. A listing may hold anything;
`ListsEveryKey` is the stronger promise that it names every stored key once. The store in memory is
such a store, and its switch is all that changes by itself.
-/

namespace LobbyPlacement

/-- The replies that a table allows to a call, and the table afterwards. -/
inductive Answers (t : Table) : (c : StoreCall) → c.Reply → Table → Prop
  | failed (c : StoreCall) (fault : Fault) : Answers t c (.error fault) t
  | read (key : String) : Answers t (.get key) (.ok (t.value? key)) t
  | overwritten (key value : String) : Answers t (.put key value) (.ok ()) (t.insert key value)
  | claimed (key value : String) (absent : t.value? key = none) :
      Answers t (.putIfAbsent key value) (.ok true) (t.insert key value)
  | refused (key value : String) (stored : (t.value? key).isSome) :
      Answers t (.putIfAbsent key value) (.ok false) t
  | listed (pattern : String) (listing : List (Except Fault String)) :
      Answers t (.scan pattern) (.ok listing) t
  | pinged : Answers t .ping (.ok ()) t

/-- A store with a table behind it. Its weather is whatever changes without a call. -/
class Ledger (σ : Type) [Store σ] where
  table : σ → Table
  Weather : Type
  weather : σ → Weather → σ
  table_weather (s : σ) (w : Weather) : table (weather s w) = table s
  answers (s : σ) (c : StoreCall) :
    Answers (table s) c (Store.perform s c).2 (table (Store.perform s c).1)

attribute [simp] Ledger.table_weather

/-- A listing of all keys that is not interrupted names every stored key exactly once. -/
def ListsEveryKey {σ : Type} [Store σ] [Ledger σ] (s : σ) : Prop :=
  ∀ listing, (Store.perform s (.scan everyKey)).2 = .ok listing →
    (∀ fault, .error fault ∉ listing) → listing.Perm ((Ledger.table s).keys.map .ok)

namespace MemoryStore

theorem perform_available {s : MemoryStore} (available : s.available = true) (c : StoreCall) :
    s.perform c = (⟨(answer s.table c).1, true⟩, .ok (answer s.table c).2) := by
  simp [perform, available]

theorem perform_unavailable {s : MemoryStore} (unavailable : s.available = false) (c : StoreCall) :
    s.perform c = (s, .error outage) := by
  simp [perform, unavailable]

theorem answers_answer (t : Table) (c : StoreCall) :
    Answers t c (.ok (answer t c).2) (answer t c).1 := by
  cases c with
  | get key => exact .read key
  | put key value => exact .overwritten key value
  | putIfAbsent key value =>
    simp only [answer]
    split
    next stored => exact .refused key value stored
    next absent => exact .claimed key value (by simpa using absent)
  | scan pattern => exact .listed pattern _
  | ping => exact .pinged

instance : Ledger MemoryStore where
  table := MemoryStore.table
  Weather := Bool
  weather s available := { s with available := available }
  table_weather _ _ := rfl
  answers s c := by
    show Answers s.table c (s.perform c).2 (s.perform c).1.table
    cases available : s.available with
    | true =>
      rw [perform_available available]
      exact answers_answer s.table c
    | false =>
      rw [perform_unavailable available]
      exact .failed c outage

theorem available_of_ok {s : MemoryStore} {c : StoreCall} {a : c.Answer}
    (answered : (Store.perform s c).2 = .ok a) : s.available = true := by
  cases available : s.available with
  | true => rfl
  | false =>
    have failed : (Store.perform s c).2 = .error outage :=
      congrArg Prod.snd (perform_unavailable available c)
    rw [failed] at answered
    cases answered

theorem answer_everyKey (t : Table) :
    answer t (.scan everyKey) =
      (t, (t.keys.filter fun key => !Text.Glob.isStarred key).map .ok) := by
  have accepts : Text.Glob.accepts everyKey = fun key => !Text.Glob.isStarred key :=
    funext Text.Glob.accepts_star
  simp only [answer, accepts]

theorem listsEveryKey_of_unstarred {s : MemoryStore}
    (unstarred : ∀ key ∈ s.table.keys, Text.Glob.isStarred key = false) : ListsEveryKey s := by
  intro listing answered _
  have available := available_of_ok answered
  change (s.perform (.scan everyKey)).2 = .ok listing at answered
  rw [perform_available available, answer_everyKey] at answered
  obtain rfl := Except.ok.inj answered
  rw [List.filter_eq_self.mpr fun key stored => by simp [unstarred key stored]]
  exact List.Perm.refl _

end MemoryStore

end LobbyPlacement

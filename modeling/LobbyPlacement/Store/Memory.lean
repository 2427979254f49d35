import LobbyPlacement.Store.Call
import LobbyPlacement.Text.Glob

/-!
# The store in memory

Placements as a list of entries with strictly increasing keys, so two stores with the same entries
are equal, and a switch that makes every call fail. `value?_insert` says what a write does.
-/

namespace LobbyPlacement

structure Table where
  entries : List (String × String)
  increasing : entries.Pairwise (fun a b => a.1 < b.1)

namespace Table

def empty : Table := ⟨[], .nil⟩

def value? (t : Table) (key : String) : Option String := t.entries.lookup key

def keys (t : Table) : List String := t.entries.map (·.1)

def size (t : Table) : Nat := t.entries.length

def insertInto (key value : String) : List (String × String) → List (String × String)
  | [] => [(key, value)]
  | entry :: rest =>
    if key < entry.1 then (key, value) :: entry :: rest
    else if key = entry.1 then (key, value) :: rest
    else entry :: insertInto key value rest

theorem mem_insertInto {key value : String} {entries : List (String × String)}
    {entry : String × String} (member : entry ∈ insertInto key value entries) :
    entry.1 = key ∨ entry ∈ entries := by
  induction entries with
  | nil => simp_all [insertInto]
  | cons first rest ih =>
    simp only [insertInto] at member
    split at member
    · grind
    · split at member <;> grind

theorem insertInto_increasing {key value : String} {entries : List (String × String)}
    (increasing : entries.Pairwise (fun a b => a.1 < b.1)) :
    (insertInto key value entries).Pairwise (fun a b => a.1 < b.1) := by
  induction entries with
  | nil => simp [insertInto]
  | cons first rest ih =>
    rw [List.pairwise_cons] at increasing
    simp only [insertInto]
    split
    next less =>
      rw [List.pairwise_cons, List.pairwise_cons]
      exact ⟨fun entry member => (List.mem_cons.1 member).elim (· ▸ less)
        fun later => String.lt_trans less (increasing.1 entry later), increasing⟩
    next notLess =>
      split
      next same =>
        subst same
        rw [List.pairwise_cons]
        exact increasing
      next different =>
        rw [List.pairwise_cons]
        refine ⟨fun entry member => ?_, ih increasing.2⟩
        rcases mem_insertInto member with same | old
        · rw [same]
          exact Std.lt_of_le_of_ne (String.not_lt.1 notLess) (fun h => different h.symm)
        · exact increasing.1 entry old

def insert (t : Table) (key value : String) : Table :=
  ⟨insertInto key value t.entries, insertInto_increasing t.increasing⟩

def ofList (entries : List (String × String)) : Table :=
  entries.foldl (fun t entry => t.insert entry.1 entry.2) empty

theorem lookup_insertInto {key value : String} {entries : List (String × String)}
    (increasing : entries.Pairwise (fun a b => a.1 < b.1)) (other : String) :
    (insertInto key value entries).lookup other =
      if other = key then some value else entries.lookup other := by
  induction entries with
  | nil => by_cases h : other = key <;> grind [insertInto]
  | cons first rest ih =>
    rw [List.pairwise_cons] at increasing
    simp only [insertInto]
    split
    next => by_cases h : other = key <;> grind
    next notLess =>
      split
      next same => by_cases h : other = key <;> grind
      next different =>
        by_cases h : other = first.1 <;> grind

@[simp]
theorem value?_insert (t : Table) (key value other : String) :
    (t.insert key value).value? other = if other = key then some value else t.value? other :=
  lookup_insertInto t.increasing other

@[simp]
theorem value?_empty (key : String) : empty.value? key = none := rfl

end Table

structure MemoryStore where
  table : Table
  available : Bool

namespace MemoryStore

def empty : MemoryStore := ⟨.empty, true⟩

def outage : Fault := .storeUnavailable "in-memory store marked unavailable"

/-- The answer of a store that is available, and its entries afterwards. -/
def answer (t : Table) : (c : StoreCall) → Table × c.Answer
  | .get key => (t, t.value? key)
  | .put key value => (t.insert key value, ())
  | .putIfAbsent key value =>
    if (t.value? key).isSome then (t, false) else (t.insert key value, true)
  | .scan pattern => (t, (t.keys.filter (Text.Glob.accepts pattern)).map .ok)
  | .ping => (t, ())

def perform (s : MemoryStore) (c : StoreCall) : MemoryStore × c.Reply :=
  if s.available then
    let (table, a) := answer s.table c
    (⟨table, s.available⟩, .ok a)
  else (s, .error outage)

instance : Store MemoryStore := ⟨perform⟩

end MemoryStore

end LobbyPlacement

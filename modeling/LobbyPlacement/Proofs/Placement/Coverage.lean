import LobbyPlacement.Pool
import LobbyPlacement.Proofs.Placement.Tally

/-!
# What the balance rests on

Loads are counted over a listing of all keys, so a lobby that the listing leaves out weighs nothing.
`counts_exact_iff_unstarred` says exactly which lobbies these are: those whose names are starred.
-/

namespace LobbyPlacement

namespace Table

/-- The number of lobbies stored with this server under a key that `*` matches. -/
def listedOn (t : Table) (server : String) : Nat :=
  (t.entries.filter fun entry => !Text.Glob.isStarred entry.1).countP fun entry => entry.2 = server

theorem lobbiesOn_eq_listedOn_add (t : Table) (server : String) :
    t.lobbiesOn server = t.listedOn server +
      (t.entries.filter fun entry => Text.Glob.isStarred entry.1).countP
        fun entry => entry.2 = server := by
  unfold lobbiesOn listedOn
  simp only [List.countP_filter]
  induction t.entries with
  | nil => rfl
  | cons entry rest ih =>
    simp only [List.countP_cons, ih]
    cases Text.Glob.isStarred entry.1 <;> simp <;> omega

theorem listedOn_eq_iff (t : Table) (server : String) :
    t.listedOn server = t.lobbiesOn server ↔
      ∀ entry ∈ t.entries, entry.2 = server → Text.Glob.isStarred entry.1 = false := by
  have whole := t.lobbiesOn_eq_listedOn_add server
  constructor
  · intro equal entry member placed
    have none_left : (t.entries.filter fun entry => Text.Glob.isStarred entry.1).countP
        (fun entry => entry.2 = server) = 0 := by omega
    rw [List.countP_eq_zero] at none_left
    cases starred : Text.Glob.isStarred entry.1 with
    | false => rfl
    | true =>
      exact (none_left entry (List.mem_filter.mpr ⟨member, starred⟩) (by simpa using placed)).elim
  · intro unstarred
    have none_left : (t.entries.filter fun entry => Text.Glob.isStarred entry.1).countP
        (fun entry => entry.2 = server) = 0 := by
      rw [List.countP_eq_zero]
      intro entry member placed
      obtain ⟨present, starred⟩ := List.mem_filter.mp member
      simp [unstarred entry present (by simpa using placed)] at starred
    omega

theorem unstarred_of_perm {t : Table}
    (complete : ((t.keys.filter fun key => !Text.Glob.isStarred key).map .ok :
      List (Except Fault String)).Perm (t.keys.map .ok)) :
    ∀ key ∈ t.keys, Text.Glob.isStarred key = false := by
  intro key stored
  have named := complete.mem_iff.mpr (List.mem_map_of_mem stored)
  obtain ⟨found, member, same⟩ := List.mem_map.mp named
  obtain rfl := Except.ok.inj same
  simpa using (List.mem_filter.mp member).2

end Table

/-- The loads of servers by the lobbies that are listed, as they stand in a table. -/
def Table.loadsOf (t : Table) (servers keys : List String) : List Load :=
  servers.map fun server => ⟨server, keys.countP fun key => t.value? key = some server⟩

namespace MemoryStore

/-- The keys that a listing of all keys names. -/
def listed (s : MemoryStore) : List String :=
  s.table.keys.filter fun key => !Text.Glob.isStarred key

theorem scan_eq {s : MemoryStore} (available : s.available = true) :
    Store.perform s (.scan everyKey) = (s, .ok (s.listed.map .ok)) := by
  obtain ⟨t, _⟩ := s
  obtain rfl := available
  show perform ⟨t, true⟩ (.scan everyKey) = _
  rw [perform_available rfl, answer_everyKey]
  rfl

theorem foreseen_listed (s : MemoryStore) (pool : Pool) :
    s.table.foreseen (Load.zero pool.servers) (s.listed.map .ok) =
      some (s.table.loadsOf pool.servers s.listed) := by
  rw [Table.foreseen_keys, Load.zero, Table.foldl_credited _ pool.distinct]
  simp [Table.loadsOf]

/-- A count finds the loads that stand in the store. -/
theorem count_eq {s : MemoryStore} (available : s.available = true) (pool : Pool) :
    Census.count s pool.servers = (s, .ok (s.table.loadsOf pool.servers s.listed)) := by
  have some_server : pool.servers.isEmpty = false := by
    simpa using pool.nonempty
  have foreseen := s.foreseen_listed pool
  unfold Census.count
  rw [some_server, scan_eq available]
  obtain ⟨t, _⟩ := s
  obtain rfl := available
  exact Census.finish_before foreseen

end MemoryStore

theorem Census.count_available (t : Table) (pool : Pool) :
    Census.count (⟨t, true⟩ : MemoryStore) pool.servers =
      (⟨t, true⟩, .ok (pool.servers.map fun s => ⟨s, t.listedOn s⟩)) := by
  have keys : (⟨t, true⟩ : MemoryStore).listed =
      (t.entries.filter fun entry => !Text.Glob.isStarred entry.1).map (·.1) := by
    simp only [MemoryStore.listed, Table.keys, List.filter_map]
    rfl
  rw [MemoryStore.count_eq rfl, keys, Table.loadsOf]
  refine congrArg (fun loads => (_, Except.ok loads)) (List.map_congr_left fun s _ => ?_)
  rw [Table.countP_value? (fun _ member => (List.mem_filter.mp member).1)]
  rfl

/-- A listing of all keys in an available store names the keys that are not starred, each once; so
it is complete exactly if no stored key is starred. The loads counted for a pool are the numbers of
stored lobbies exactly if no lobby of its servers is starred. -/
theorem counts_exact_iff_unstarred (t : Table) :
    t.keys.Nodup ∧
    MemoryStore.perform ⟨t, true⟩ (.scan everyKey) =
      (⟨t, true⟩, .ok ((t.keys.filter fun key => !Text.Glob.isStarred key).map .ok)) ∧
    (ListsEveryKey (⟨t, true⟩ : MemoryStore) ↔
      ∀ key ∈ t.keys, Text.Glob.isStarred key = false) ∧
    ∀ pool : Pool,
      (Census.count (⟨t, true⟩ : MemoryStore) pool.servers).2 =
          .ok (pool.servers.map fun s => ⟨s, t.lobbiesOn s⟩) ↔
        ∀ entry ∈ t.entries, entry.2 ∈ pool.servers → Text.Glob.isStarred entry.1 = false := by
  have answered : MemoryStore.perform ⟨t, true⟩ (.scan everyKey) =
      (⟨t, true⟩, .ok ((t.keys.filter fun key => !Text.Glob.isStarred key).map .ok)) := by
    rw [MemoryStore.perform_available rfl, MemoryStore.answer_everyKey]
  refine ⟨t.keys_nodup, answered, ?_, ?_⟩
  · constructor
    · intro complete
      exact Table.unstarred_of_perm (complete _ (congrArg Prod.snd answered) (by simp))
    · exact MemoryStore.listsEveryKey_of_unstarred (s := ⟨t, true⟩)
  · intro pool
    rw [Census.count_available]
    simp only [Except.ok.injEq, List.map_inj_left, Load.mk.injEq, true_and, Table.listedOn_eq_iff]
    constructor
    · intro exact entry stored placed
      exact exact _ placed entry stored rfl
    · intro unstarred server member entry stored placed
      exact unstarred entry stored (placed ▸ member)

/-- A lobby called `*a` is stored with the first server of two and counted nowhere. -/
theorem starred_lobby_not_counted :
    ¬ ∀ (t : Table) (pool : Pool), (∀ key ∈ t.keys, Text.isBlankText key = false) →
      ListsEveryKey (⟨t, true⟩ : MemoryStore) ∧
      (Census.count (⟨t, true⟩ : MemoryStore) pool.servers).2 =
        .ok (pool.servers.map fun s => ⟨s, t.lobbiesOn s⟩) := by
  intro claim
  have counted := (claim (Table.empty.insert "*a" "A")
    ⟨["A", "B"], by decide, by decide, by decide⟩ (by decide)).2
  rw [Census.count_available] at counted
  exact absurd (Except.ok.inj counted) (by decide)

end LobbyPlacement

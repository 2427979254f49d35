import LobbyPlacement.Proofs.Store.Ledger

/-!
# What a count finds

A count credits the servers of the listed lobbies one by one. `foreseen` is its result if every
read is answered from one table, and `foldl_credited` says what that is: for every server the
number of listed lobbies that the table stores with it. `least_first` says which load is chosen.
-/

namespace LobbyPlacement

namespace Load

theorem credit_map {servers : List String} (distinct : servers.Nodup) (n : String → Nat)
    (server : String) :
    credit server (servers.map fun s => ⟨s, n s⟩) =
      servers.map fun s => ⟨s, n s + if server = s then 1 else 0⟩ := by
  induction servers with
  | nil => rfl
  | cons first rest ih =>
    rw [List.nodup_cons] at distinct
    simp only [List.map_cons, credit]
    split
    next same =>
      subst same
      have others : ∀ s ∈ rest, (⟨s, n s⟩ : Load) = ⟨s, n s + if first = s then 1 else 0⟩ := by
        intro s member
        have different : first ≠ s := fun same => distinct.1 (same ▸ member)
        simp [different]
      rw [List.map_congr_left others]
      simp
    next different =>
      rw [ih distinct.2]
      simp [Ne.symm different]

/-- The choice after a current best: the best itself, or the first load below all before it. -/
theorem foldl_better (current : Load) (loads : List Load) :
    (loads.foldl better (some current) = some current ∧
        ∀ load ∈ loads, current.lobbies ≤ load.lobbies) ∨
      ∃ before best after, loads.foldl better (some current) = some best ∧
        loads = before ++ best :: after ∧ best.lobbies < current.lobbies ∧
        (∀ load ∈ before, best.lobbies < load.lobbies) ∧
        ∀ load ∈ after, best.lobbies ≤ load.lobbies := by
  induction loads generalizing current with
  | nil => exact .inl ⟨rfl, by simp⟩
  | cons next rest ih =>
    rw [List.foldl_cons]
    by_cases keeps : current.lobbies ≤ next.lobbies
    · rw [show better (some current) next = some current by simp [better, keeps]]
      rcases ih current with ⟨result, low⟩ | ⟨before, best, after, result, rfl, below, first, last⟩
      · exact .inl ⟨result, List.forall_mem_cons.mpr ⟨keeps, low⟩⟩
      · refine .inr ⟨next :: before, best, after, result, rfl, below, ?_, last⟩
        exact List.forall_mem_cons.mpr ⟨by omega, first⟩
    · rw [show better (some current) next = some next by simp [better, keeps]]
      rcases ih next with ⟨result, low⟩ | ⟨before, best, after, result, rfl, below, first, last⟩
      · exact .inr ⟨[], next, rest, result, rfl, by omega, by simp, low⟩
      · refine .inr ⟨next :: before, best, after, result, rfl, by omega, ?_, last⟩
        exact List.forall_mem_cons.mpr ⟨below, first⟩

/-- The load that is chosen is the first of the smallest. -/
theorem least_first {loads : List Load} (some_load : loads ≠ []) :
    ∃ before best after, least loads = some best ∧ loads = before ++ best :: after ∧
      (∀ load ∈ before, best.lobbies < load.lobbies) ∧
      ∀ load ∈ after, best.lobbies ≤ load.lobbies := by
  cases loads with
  | nil => exact (some_load rfl).elim
  | cons first rest =>
    rcases foldl_better first rest with
      ⟨result, low⟩ | ⟨before, best, after, result, rfl, below, lower, low⟩
    · exact ⟨[], first, rest, result, rfl, by simp, low⟩
    · exact ⟨first :: before, best, after, result, rfl,
        List.forall_mem_cons.mpr ⟨below, lower⟩, low⟩

theorem least_le {loads : List Load} {best : Load} (chosen : least loads = some best) :
    best ∈ loads ∧ ∀ load ∈ loads, best.lobbies ≤ load.lobbies := by
  have some_load : loads ≠ [] := by
    rintro rfl
    cases chosen
  obtain ⟨before, first, after, found, rfl, lower, low⟩ := least_first some_load
  obtain rfl : first = best := Option.some.inj (found.symm.trans chosen)
  refine ⟨by simp, ?_⟩
  intro load member
  rcases List.mem_append.mp member with early | late
  · exact Nat.le_of_lt (lower load early)
  · rcases List.mem_cons.mp late with rfl | late
    · exact Nat.le_refl _
    · exact low load late

end Load

namespace Table

/-- The loads after one more lobby, credited to the server it is stored with. -/
def credited (t : Table) (loads : List Load) (key : String) : List Load :=
  match t.value? key with
  | some server => Load.credit server loads
  | none => loads

theorem credited_map (t : Table) {servers : List String} (distinct : servers.Nodup)
    (n : String → Nat) (key : String) :
    t.credited (servers.map fun s => ⟨s, n s⟩) key =
      servers.map fun s => ⟨s, n s + if t.value? key = some s then 1 else 0⟩ := by
  unfold credited
  split
  next server stored =>
    rw [Load.credit_map distinct]
    simp [stored]
  next absent => simp [absent]

/-- Crediting some lobbies adds to every server the number of those stored with it. -/
theorem foldl_credited (t : Table) {servers : List String} (distinct : servers.Nodup)
    (n : String → Nat) (keys : List String) :
    keys.foldl t.credited (servers.map fun s => ⟨s, n s⟩) =
      servers.map fun s => ⟨s, n s + keys.countP fun key => t.value? key = some s⟩ := by
  induction keys generalizing n with
  | nil => simp
  | cons key rest ih =>
    rw [List.foldl_cons, credited_map t distinct, ih]
    refine List.map_congr_left fun s _ => ?_
    simp only [List.countP_cons, decide_eq_true_eq, Load.mk.injEq, true_and]
    omega

/-- The loads that a count ends with if all its reads are answered from this table; `none` if the
listing is interrupted. -/
def foreseen (t : Table) : List Load → List (Except Fault String) → Option (List Load)
  | loads, [] => some loads
  | _, .error _ :: _ => none
  | loads, .ok key :: rest => foreseen t (t.credited loads key) rest

theorem foreseen_keys (t : Table) (loads : List Load) (keys : List String) :
    t.foreseen loads (keys.map .ok) = some (keys.foldl t.credited loads) := by
  induction keys generalizing loads with
  | nil => rfl
  | cons key rest ih => exact ih _

theorem foreseen_congr {s t : Table} {listing : List (Except Fault String)}
    (same : ∀ key, .ok key ∈ listing → s.value? key = t.value? key) (loads : List Load) :
    s.foreseen loads listing = t.foreseen loads listing := by
  induction listing generalizing loads with
  | nil => rfl
  | cons item rest ih =>
    cases item with
    | error fault => rfl
    | ok key =>
      have first : s.credited loads key = t.credited loads key := by
        simp only [credited, same key List.mem_cons_self]
      simp only [foreseen, first]
      exact ih (fun key member => same key (List.mem_cons_of_mem _ member)) _

end Table

namespace Tally

/-- The loads that a count under way ends with if its reads are answered from this table. -/
def foreseen (t : Table) : Tally → Option (List Load)
  | counted loads => some loads
  | failed _ => none
  | reading census => t.foreseen census.loads (.ok census.key :: census.rest)

theorem foreseen_before (t : Table) (loads : List Load) (listing : List (Except Fault String)) :
    (before loads listing).foreseen t = t.foreseen loads listing := by
  cases listing with
  | nil => rfl
  | cons item rest => cases item <;> rfl

end Tally

namespace Census

theorem read_value? (t : Table) (c : Census) :
    c.read (.ok (t.value? c.key)) = .before (t.credited c.loads c.key) c.rest := by
  unfold Table.credited
  cases t.value? c.key <;> rfl

theorem foreseen_read (t : Table) (c : Census) :
    (c.read (.ok (t.value? c.key))).foreseen t = (Tally.reading c).foreseen t := by
  rw [read_value?, Tally.foreseen_before]
  rfl

theorem finish_before {t : Table} {loads counted : List Load}
    {listing : List (Except Fault String)} (h : t.foreseen loads listing = some counted) :
    (Tally.before loads listing).finish (⟨t, true⟩ : MemoryStore) = (⟨t, true⟩, .ok counted) := by
  induction listing generalizing loads with
  | nil =>
    obtain rfl := Option.some.inj h
    simp only [Tally.before]
    rw [Tally.finish]
  | cons item rest ih =>
    cases item with
    | error fault => cases h
    | ok key =>
      have answered : Store.perform (⟨t, true⟩ : MemoryStore) (.get key) =
          (⟨t, true⟩, .ok (t.value? key)) := rfl
      have read := read_value? t ⟨loads, key, rest⟩
      simp only [Tally.before]
      rw [Tally.finish, answered]
      simp only [read]
      exact ih h

end Census

end LobbyPlacement

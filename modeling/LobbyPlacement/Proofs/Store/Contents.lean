import LobbyPlacement.Store.Memory

/-!
# What a table holds

A table read as a partial map. Every key is stored once, `value?` finds what the entries say, and a
write to a fresh key adds one lobby to the server it names. `Extends` is the order in which tables
grow when nothing is overwritten.
-/

namespace LobbyPlacement.Table

theorem keys_nodup (t : Table) : t.keys.Nodup := by
  unfold keys
  rw [List.nodup_iff_pairwise_ne, List.pairwise_map]
  refine t.increasing.imp ?_
  intro a b less same
  rw [same] at less
  exact String.lt_irrefl _ less

theorem mem_keys_iff {t : Table} {key : String} : key ∈ t.keys ↔ (t.value? key).isSome := by
  simp only [keys, value?, List.lookup_isSome_iff, List.mem_map, beq_iff_eq]
  constructor
  · rintro ⟨entry, member, rfl⟩
    exact ⟨entry, member, rfl⟩
  · rintro ⟨entry, member, rfl⟩
    exact ⟨entry, member, rfl⟩

theorem value?_of_mem {t : Table} {entry : String × String} (member : entry ∈ t.entries) :
    t.value? entry.1 = some entry.2 := by
  obtain ⟨before, after, split⟩ := List.append_of_mem member
  have increasing := t.increasing
  rw [split, List.pairwise_append] at increasing
  refine List.lookup_eq_some_iff.mpr ⟨before, after, split, ?_⟩
  intro earlier present
  have less := increasing.2.2 earlier present entry List.mem_cons_self
  simp only [bne_iff_ne, ne_eq]
  intro same
  rw [same] at less
  exact String.lt_irrefl _ less

/-! ### Lobbies on a server -/

/-- The number of lobbies stored with this server. -/
def lobbiesOn (t : Table) (server : String) : Nat := t.entries.countP fun entry => entry.2 = server

theorem countP_value? {t : Table} {entries : List (String × String)}
    (stored : ∀ entry ∈ entries, entry ∈ t.entries) (server : String) :
    (entries.map (·.1)).countP (fun key => t.value? key = some server) =
      entries.countP fun entry => entry.2 = server := by
  rw [List.countP_map]
  refine List.countP_congr fun entry member => ?_
  have found := value?_of_mem (stored entry member)
  simp [found]

theorem countP_keys (t : Table) (server : String) :
    t.keys.countP (fun key => t.value? key = some server) = t.lobbiesOn server :=
  countP_value? (fun _ member => member) server

theorem countP_insertInto {key value server : String} {entries : List (String × String)}
    (absent : entries.lookup key = none) :
    (insertInto key value entries).countP (fun entry => entry.2 = server) =
      entries.countP (fun entry => entry.2 = server) + if value = server then 1 else 0 := by
  induction entries with
  | nil => simp [insertInto, List.countP_cons]
  | cons first rest ih =>
    have different : key ≠ first.1 := by
      rintro rfl
      simp at absent
    have later : rest.lookup key = none := by
      rwa [List.lookup_cons, beq_false_of_ne different] at absent
    simp only [insertInto, different, if_false]
    split
    · simp [List.countP_cons, Nat.add_assoc]
    · rw [List.countP_cons, ih later, List.countP_cons]
      omega

theorem lobbiesOn_insert {t : Table} {key : String} (absent : t.value? key = none)
    (value server : String) :
    (t.insert key value).lobbiesOn server =
      t.lobbiesOn server + if value = server then 1 else 0 :=
  countP_insertInto absent

/-! ### Growth -/

/-- Nothing that `s` stores is missing or different in `t`. -/
def Extends (s t : Table) : Prop :=
  ∀ key value, s.value? key = some value → t.value? key = some value

theorem extends_refl (t : Table) : Extends t t := fun _ _ h => h

theorem extends_trans {r s t : Table} (first : Extends r s) (second : Extends s t) : Extends r t :=
  fun key value h => second key value (first key value h)

theorem extends_insert {t : Table} {key : String} (absent : t.value? key = none) (value : String) :
    Extends t (t.insert key value) := by
  intro other stored h
  have different : other ≠ key := by
    rintro rfl
    simp [absent] at h
  simpa [different] using h

end LobbyPlacement.Table

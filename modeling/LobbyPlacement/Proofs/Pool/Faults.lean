import LobbyPlacement.Pool
import Mathlib.Data.List.Nodup

/-!
# Faults of a pool

When a list of addresses is a pool, and which fault is told if it is none. The pass over the list
remembers the addresses it has seen; `exists_firstFault` says that what it stops at is the first
index with a fault, where a fault is said of the list as a whole.
-/

namespace LobbyPlacement.Pool

/-- What is wrong with the address at an index: it is blank, or if not, the same address stands
before it. -/
inductive FaultAt (servers : List String) (index : Nat) : PoolFault → Prop
  | blank {server : String} (here : servers[index]? = some server)
      (blank : Text.isBlankText server = true) : FaultAt servers index .blank
  | duplicate {server : String} (here : servers[index]? = some server)
      (written : Text.isBlankText server = false) {earlier : Nat} (before : earlier < index)
      (same : servers[earlier]? = some server) : FaultAt servers index (.duplicate server)

structure IsFirstFault (servers : List String) (index : Nat) (fault : PoolFault) : Prop where
  here : FaultAt servers index fault
  first : ∀ earlier < index, ∀ other, ¬ FaultAt servers earlier other

variable {servers passed rest : List String} {server : String} {index : Nat}
  {fault other : PoolFault}

theorem FaultAt.unique (one : FaultAt servers index fault) (two : FaultAt servers index other) :
    fault = other := by
  cases one with
  | blank here blank =>
    cases two with
    | blank => rfl
    | duplicate here' written =>
      obtain rfl := Option.some.inj (here.symm.trans here')
      exact absurd (blank.symm.trans written) (by decide)
  | duplicate here written =>
    cases two with
    | blank here' blank =>
      obtain rfl := Option.some.inj (here.symm.trans here')
      exact absurd (blank.symm.trans written) (by decide)
    | duplicate here' =>
      obtain rfl := Option.some.inj (here.symm.trans here')
      rfl

theorem IsFirstFault.unique {index' : Nat} (one : IsFirstFault servers index fault)
    (two : IsFirstFault servers index' other) : fault = other := by
  rcases Nat.lt_trichotomy index index' with before | rfl | behind
  · exact (two.first index before fault one.here).elim
  · exact one.here.unique two.here
  · exact (one.first index' behind other two.here).elim

/-! ### The pass over the list -/

/-- Whether the address behind those that were passed is at fault shows in it and in them. -/
theorem faultAt_passed :
    FaultAt (passed ++ server :: rest) passed.length fault ↔
      Text.isBlankText server = true ∧ fault = .blank ∨
      Text.isBlankText server = false ∧ server ∈ passed ∧ fault = .duplicate server := by
  have here : (passed ++ server :: rest)[passed.length]? = some server := by
    rw [List.getElem?_append_right (Nat.le_refl _), Nat.sub_self]
    rfl
  constructor
  · intro faulty
    cases faulty with
    | blank found blank =>
      obtain rfl := Option.some.inj (here.symm.trans found)
      exact .inl ⟨blank, rfl⟩
    | duplicate found written before same =>
      obtain rfl := Option.some.inj (here.symm.trans found)
      rw [List.getElem?_append_left before] at same
      exact .inr ⟨written, List.mem_of_getElem? same, rfl⟩
  · rintro (⟨blank, rfl⟩ | ⟨written, member, rfl⟩)
    · exact .blank here blank
    · obtain ⟨earlier, before, same⟩ := List.mem_iff_getElem.mp member
      refine .duplicate here written before ?_
      rw [List.getElem?_append_left before, List.getElem?_eq_getElem before, same]

/-- The pass stops at the first fault, if there is none among the addresses passed already. -/
theorem exists_firstFault (passed : List String)
    (clean : ∀ i < passed.length, ∀ other, ¬ FaultAt (passed ++ rest) i other)
    (found : firstFault? passed.reverse rest = some fault) :
    ∃ index, IsFirstFault (passed ++ rest) index fault := by
  induction rest generalizing passed with
  | nil => cases found
  | cons server rest ih =>
    rw [firstFault?] at found
    split at found
    next blank =>
      cases found
      exact ⟨passed.length, faultAt_passed.mpr (.inl ⟨blank, rfl⟩), clean⟩
    next written =>
      rw [Bool.not_eq_true] at written
      split at found
      next seen =>
        cases found
        rw [List.mem_reverse] at seen
        exact ⟨passed.length, faultAt_passed.mpr (.inr ⟨written, seen, rfl⟩), clean⟩
      next unseen =>
        rw [List.mem_reverse] at unseen
        have faultless : ∀ other, ¬ FaultAt (passed ++ server :: rest) passed.length other := by
          intro other faulty
          rcases faultAt_passed.mp faulty with ⟨blank, -⟩ | ⟨-, seen, -⟩
          · exact absurd (blank.symm.trans written) (by decide)
          · exact unseen seen
        have whole : passed ++ server :: rest = (passed ++ [server]) ++ rest := by simp
        rw [whole] at clean faultless ⊢
        apply ih (passed ++ [server])
        · intro i inside
          rw [List.length_append, List.length_singleton, Nat.lt_succ_iff_lt_or_eq] at inside
          rcases inside with before | rfl
          · exact clean i before
          · exact faultless
        · rwa [List.reverse_append]

/-! ### Lists that are pools -/

theorem ofList_eq_ok_iff {p : Pool} : ofList servers = .ok p ↔ p.servers = servers := by
  constructor
  · intro accepted
    unfold ofList at accepted
    split at accepted
    · cases accepted
    split at accepted
    · cases accepted
    · cases accepted
      rfl
  · rintro rfl
    have faultless : firstFault? [] p.servers = none :=
      firstFault?_eq_none_iff.mpr ⟨p.noneBlank, p.distinct, fun _ _ => List.not_mem_nil⟩
    unfold ofList
    rw [dif_neg p.nonempty]
    split
    next fault found => exact absurd (faultless.symm.trans found) nofun
    next => rfl

/-- A pool is read back from its addresses. -/
theorem ofList_servers (p : Pool) : ofList p.servers = .ok p := ofList_eq_ok_iff.mpr rfl

theorem exists_ofList_iff :
    (∃ p, ofList servers = .ok p) ↔
      servers ≠ [] ∧ (∀ server ∈ servers, Text.isBlankText server = false) ∧ servers.Nodup := by
  constructor
  · rintro ⟨p, accepted⟩
    obtain rfl := ofList_eq_ok_iff.mp accepted
    exact ⟨p.nonempty, p.noneBlank, p.distinct⟩
  · rintro ⟨nonempty, noneBlank, distinct⟩
    exact ⟨⟨servers, nonempty, noneBlank, distinct⟩, ofList_eq_ok_iff.mpr rfl⟩

theorem not_faultAt (p : Pool) : ¬ FaultAt p.servers index fault := by
  intro faulty
  cases faulty with
  | blank here blank =>
    exact absurd (blank.symm.trans (p.noneBlank _ (List.mem_of_getElem? here))) (by decide)
  | duplicate here written before same =>
    have bound := (List.getElem?_eq_some_iff.mp here).1
    exact List.nodup_iff_getElem?_ne_getElem?.mp p.distinct _ _ before bound (same.trans here.symm)

/-- A list that is no pool is empty, or its first fault is told. -/
theorem ofList_eq_error_iff :
    ofList servers = .error fault ↔
      servers = [] ∧ fault = .empty ∨ ∃ index, IsFirstFault servers index fault := by
  have told : ∀ {fault}, ofList servers = .error fault →
      servers = [] ∧ fault = .empty ∨ ∃ index, IsFirstFault servers index fault := by
    intro fault refused
    unfold ofList at refused
    split at refused
    next empty =>
      cases refused
      exact .inl ⟨empty, rfl⟩
    split at refused
    next found =>
      cases refused
      exact .inr (exists_firstFault [] nofun found)
    · cases refused
  constructor
  · exact told
  · rintro (⟨rfl, rfl⟩ | ⟨index, first⟩)
    · rfl
    · cases outcome : ofList servers with
      | ok p =>
        obtain rfl := ofList_eq_ok_iff.mp outcome
        exact (not_faultAt p first.here).elim
      | error other =>
        rcases told outcome with ⟨rfl, rfl⟩ | ⟨index', firstOther⟩
        · cases first.here with
          | blank here => cases here
          | duplicate here => cases here
        · rw [firstOther.unique first]

end LobbyPlacement.Pool

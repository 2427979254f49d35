import Mathlib.Algebra.GroupWithZero.Nat
import LobbyPlacement.Proofs.Placement.Balance
import LobbyPlacement.Proofs.Placement.Replay

/-!
# Filling up, then going round

What becomes of the loads if every new lobby goes to the first server with the fewest lobbies. The
gap between the fullest server and the others is filled first; from then on the servers take their
turns in the order of the pool. `Fills.choice` says where each new lobby goes, `Fills.rising` and
`Fills.level` how the loads stand.
-/

namespace LobbyPlacement

namespace Table

/-! ### The first server with the fewest lobbies -/

def lightest (t : Table) (pool : Pool) : Option String :=
  (Load.least (pool.servers.map fun server => ⟨server, t.lobbiesOn server⟩)).map Load.server

theorem lightest_spec {t : Table} {pool : Pool} {server : String}
    (chosen : t.lightest pool = some server) :
    ∃ place, pool.servers[place]? = some server ∧
      (∀ (earlier : Nat) (other : String), earlier < place →
        pool.servers[earlier]? = some other → t.lobbiesOn server < t.lobbiesOn other) ∧
      ∀ other ∈ pool.servers, t.lobbiesOn server ≤ t.lobbiesOn other := by
  have some_load : (pool.servers.map fun s => (⟨s, t.lobbiesOn s⟩ : Load)) ≠ [] := by
    simpa using pool.nonempty
  obtain ⟨before, best, after, least, split, lower, low⟩ := Load.least_first some_load
  obtain rfl : best.server = server := by
    rw [lightest, least] at chosen
    exact Option.some.inj chosen
  have here : (pool.servers.map fun s => (⟨s, t.lobbiesOn s⟩ : Load))[before.length]? =
      some best := by
    rw [split, List.getElem?_append_right (Nat.le_refl _), Nat.sub_self]
    rfl
  rw [List.getElem?_map] at here
  obtain ⟨server, found, same⟩ := Option.map_eq_some_iff.mp here
  have counted : best.lobbies = t.lobbiesOn best.server := by
    rw [← same]
  have named : best.server = server := by
    rw [← same]
  refine ⟨before.length, by rw [named]; exact found, ?_, ?_⟩
  · intro earlier other early otherFound
    have member : (⟨other, t.lobbiesOn other⟩ : Load) ∈ before := by
      have there : (before ++ best :: after)[earlier]? = some ⟨other, t.lobbiesOn other⟩ := by
        rw [← split, List.getElem?_map, otherFound]
        rfl
      rw [List.getElem?_append_left early] at there
      exact List.mem_of_getElem? there
    have less := lower _ member
    rwa [counted] at less
  · intro other present
    have fewest := (Load.least_le least).2 ⟨other, t.lobbiesOn other⟩
      (List.mem_map_of_mem (f := fun s => (⟨s, t.lobbiesOn s⟩ : Load)) present)
    rwa [counted] at fewest

/-! ### Below the fullest server -/

/-- The most lobbies on a server of the pool. -/
def peak (t : Table) (pool : Pool) : Nat := (t.loadsOver pool).max (t.loadsOver_ne_nil pool)

/-- How many lobbies the servers of the pool lack together to stand at this level. -/
def lack (t : Table) (pool : Pool) (level : Nat) : Nat :=
  (pool.servers.map fun server => level - t.lobbiesOn server).sum

/-- How many lobbies the servers of the pool lack together to have as many as the fullest. -/
def room (t : Table) (pool : Pool) : Nat := t.lack pool (t.peak pool)

theorem lobbiesOn_le_peak (t : Table) {pool : Pool} {server : String}
    (member : server ∈ pool.servers) : t.lobbiesOn server ≤ t.peak pool :=
  List.le_max_of_mem (List.mem_map_of_mem (f := t.lobbiesOn) member)

theorem room_empty (pool : Pool) : empty.room pool = 0 := by
  have level : empty.peak pool = 0 := by
    obtain ⟨server, _, most⟩ := List.mem_map.mp (List.max_mem (empty.loadsOver_ne_nil pool))
    exact most.symm
  refine List.sum_eq_zero_iff_forall_eq_nat.mpr fun missing member => ?_
  obtain ⟨server, _, rfl⟩ := List.mem_map.mp member
  rw [level, Nat.zero_sub]

theorem sum_map_of_differ {servers : List String} (distinct : servers.Nodup) {server : String}
    (member : server ∈ servers) {f g : String → Nat} (here : f server = g server + 1)
    (others : ∀ other ≠ server, f other = g other) :
    (servers.map f).sum = (servers.map g).sum + 1 := by
  induction servers with
  | nil => cases member
  | cons first rest ih =>
    obtain ⟨fresh, distinct⟩ := List.nodup_cons.mp distinct
    rw [List.map_cons, List.map_cons, List.sum_cons, List.sum_cons]
    by_cases same : first = server
    · subst same
      have rest_same : rest.map f = rest.map g :=
        List.map_congr_left fun other present =>
          others other fun same => fresh (same ▸ present)
      rw [rest_same, here]
      omega
    · have later := ih distinct ((List.mem_cons.mp member).resolve_left (Ne.symm same))
      rw [later, others first same]
      omega

theorem lack_insert {t : Table} {pool : Pool} {level : Nat} {lobby server : String}
    (absent : t.value? lobby = none) (member : server ∈ pool.servers)
    (below : t.lobbiesOn server < level) :
    (t.insert lobby server).lack pool level + 1 = t.lack pool level := by
  refine (sum_map_of_differ pool.distinct member ?_ ?_).symm
  · rw [lobbiesOn_insert absent, if_pos rfl]
    omega
  · intro other different
    rw [lobbiesOn_insert absent, if_neg (Ne.symm different), Nat.add_zero]

theorem lightest_below {t : Table} {pool : Pool} {level : Nat} {server : String}
    (chosen : t.lightest pool = some server) (lacking : 0 < t.lack pool level) :
    t.lobbiesOn server < level := by
  obtain ⟨_, _, _, fewest⟩ := lightest_spec chosen
  by_cases below : t.lobbiesOn server < level
  · exact below
  · have none_lacks : ∀ missing ∈ pool.servers.map fun other => level - t.lobbiesOn other,
        missing = 0 := by
      intro missing member
      obtain ⟨other, present, rfl⟩ := List.mem_map.mp member
      have least := fewest other present
      omega
    have nothing : t.lack pool level = 0 :=
      List.sum_eq_zero_iff_forall_eq_nat.mpr none_lacks
    omega

/-! ### Level servers -/

/-- The servers stand level at a height, but the first ones have one lobby more. -/
structure Level (t : Table) (pool : Pool) (height ahead : Nat) : Prop where
  fits : ahead < pool.size
  even : ∀ (place : Nat) (server : String), pool.servers[place]? = some server →
    t.lobbiesOn server = height + if place < ahead then 1 else 0

theorem level_of_lack {t : Table} {pool : Pool} {level : Nat}
    (below : ∀ server ∈ pool.servers, t.lobbiesOn server ≤ level)
    (full : t.lack pool level = 0) : t.Level pool level 0 := by
  refine ⟨List.length_pos_of_ne_nil pool.nonempty, ?_⟩
  intro place server found
  have member := List.mem_of_getElem? found
  have none_missing : level - t.lobbiesOn server = 0 :=
    List.sum_eq_zero_iff_forall_eq_nat.mp full _
      (List.mem_map_of_mem (f := fun other => level - t.lobbiesOn other) member)
  have atMost := below server member
  rw [if_neg (Nat.not_lt_zero place)]
  omega

/-- The turn is that of the first server that has no lobby ahead of the others. -/
theorem Level.lightest {t : Table} {pool : Pool} {height ahead : Nat} {server : String}
    (level : t.Level pool height ahead) (chosen : t.lightest pool = some server) :
    pool.servers[ahead]? = some server := by
  obtain ⟨place, found, lower, fewest⟩ := lightest_spec chosen
  obtain ⟨next, nextFound⟩ : ∃ next, pool.servers[ahead]? = some next :=
    ⟨_, List.getElem?_eq_getElem level.fits⟩
  have mine := level.even place server found
  have nexts := level.even ahead next nextFound
  rw [if_neg (Nat.lt_irrefl ahead)] at nexts
  have least := fewest next (List.mem_of_getElem? nextFound)
  have notEarlier : ¬ place < ahead := by
    intro early
    rw [if_pos early] at mine
    omega
  have notLater : ¬ ahead < place := by
    intro late
    have less := lower ahead next late nextFound
    omega
  obtain rfl : place = ahead := by omega
  exact found

theorem Level.insert {t : Table} {pool : Pool} {height ahead : Nat} {lobby server : String}
    (level : t.Level pool height ahead) (absent : t.value? lobby = none)
    (turn : pool.servers[ahead]? = some server) :
    (ahead + 1 < pool.size → (t.insert lobby server).Level pool height (ahead + 1)) ∧
      (ahead + 1 = pool.size → (t.insert lobby server).Level pool (height + 1) 0) := by
  -- Only the server whose turn it is gains a lobby, since no server stands in the pool twice.
  have gains : ∀ place other, pool.servers[place]? = some other →
      (t.insert lobby server).lobbiesOn other =
        height + if place < ahead + 1 then 1 else 0 := by
    intro place other found
    rw [lobbiesOn_insert absent, level.even place other found]
    by_cases here : place = ahead
    · subst here
      obtain rfl : server = other := Option.some.inj (turn.symm.trans found)
      simp
    · have different : server ≠ other := by
        rintro rfl
        have inRange := (List.getElem?_eq_some_iff.mp turn).1
        exact here ((List.getElem?_inj inRange pool.distinct).mp (turn.trans found.symm)).symm
      rw [if_neg different, Nat.add_zero]
      congr 1
      refine if_congr ?_ rfl rfl
      omega
  constructor
  · intro fits
    exact ⟨fits, gains⟩
  · intro last
    refine ⟨List.length_pos_of_ne_nil pool.nonempty, ?_⟩
    intro place other found
    have inRange : place < pool.size := (List.getElem?_eq_some_iff.mp found).1
    rw [gains place other found, if_pos (by omega), if_neg (Nat.not_lt_zero place), Nat.add_zero]

/-! ### Writes that go to the first server with the fewest lobbies -/

/-- Each of these writes was the first for its lobby and went to the first server that had the
fewest lobbies just then. -/
def Fills (t : Table) (pool : Pool) (writes : List (String × String)) : Prop :=
  ∀ before lobby server, before ++ [(lobby, server)] <+: writes →
    (t.replay before).value? lobby = none ∧ (t.replay before).lightest pool = some server

theorem fills_nil (t : Table) (pool : Pool) : t.Fills pool [] := by
  intro before lobby server early
  simp at early

theorem Fills.take {t : Table} {pool : Pool} {writes before : List (String × String)}
    (fills : t.Fills pool writes) (early : before <+: writes) : t.Fills pool before :=
  fun front lobby server first => fills front lobby server (first.trans early)

theorem Fills.concat {t : Table} {pool : Pool} {writes : List (String × String)}
    {lobby server : String} (fills : t.Fills pool writes)
    (absent : (t.replay writes).value? lobby = none)
    (chosen : (t.replay writes).lightest pool = some server) :
    t.Fills pool (writes ++ [(lobby, server)]) := by
  intro before other target early
  rcases List.prefix_concat_iff.mp early with whole | within
  · obtain ⟨rfl, same⟩ := List.append_inj' whole rfl
    obtain ⟨rfl, rfl⟩ := Prod.mk.inj (List.head_eq_of_cons_eq same)
    exact ⟨absent, chosen⟩
  · exact fills before other target within

/-- Until the room is used up, no server has more lobbies than the fullest had. -/
theorem Fills.rising {t : Table} {pool : Pool} {writes : List (String × String)}
    (fills : t.Fills pool writes) (early : writes.length ≤ t.room pool) :
    (∀ server ∈ pool.servers, (t.replay writes).lobbiesOn server ≤ t.peak pool) ∧
      (t.replay writes).lack pool (t.peak pool) + writes.length = t.room pool := by
  induction writes using List.reverseRecOn with
  | nil => exact ⟨fun _ member => t.lobbiesOn_le_peak member, rfl⟩
  | append_singleton writes write ih =>
    obtain ⟨lobby, server⟩ := write
    rw [List.length_append, List.length_singleton] at early ⊢
    obtain ⟨below, left⟩ := ih (fills.take (List.prefix_append _ _)) (by omega)
    obtain ⟨absent, chosen⟩ := fills writes lobby server (List.prefix_refl _)
    obtain ⟨_, found, _⟩ := lightest_spec chosen
    have lower : (t.replay writes).lobbiesOn server < t.peak pool :=
      lightest_below chosen (by omega)
    have less := lack_insert absent (List.mem_of_getElem? found) lower
    rw [replay_concat]
    refine ⟨?_, by omega⟩
    intro other present
    have old := below other present
    rw [lobbiesOn_insert absent]
    by_cases same : server = other
    · subst same
      rw [if_pos rfl]
      omega
    · rw [if_neg same]
      exact old

/-- When the room is used up, all servers stand level, and then gain a lobby in their turns. -/
theorem Fills.level {t : Table} {pool : Pool} {writes : List (String × String)}
    (fills : t.Fills pool writes) {extra : Nat} (late : writes.length = t.room pool + extra) :
    (t.replay writes).Level pool (t.peak pool + extra / pool.size) (extra % pool.size) := by
  have some_server : 0 < pool.size := List.length_pos_of_ne_nil pool.nonempty
  induction extra generalizing writes with
  | zero =>
    obtain ⟨below, left⟩ := fills.rising (Nat.le_of_eq late)
    rw [Nat.zero_div, Nat.zero_mod, Nat.add_zero]
    exact level_of_lack below (by omega)
  | succ extra ih =>
    have some_write : writes ≠ [] := by
      rintro rfl
      rw [List.length_nil] at late
      omega
    obtain ⟨before, ⟨lobby, server⟩, rfl⟩ := (List.eq_nil_or_concat' writes).resolve_left some_write
    rw [List.length_append, List.length_singleton] at late
    have level := ih (fills.take (List.prefix_append _ _)) (by omega)
    obtain ⟨absent, chosen⟩ := fills before lobby server (List.prefix_refl _)
    obtain ⟨nextTurn, nextRound⟩ := level.insert absent (level.lightest chosen)
    have inRange := Nat.mod_lt extra some_server
    have whole := Nat.mod_add_div extra pool.size
    rw [replay_concat]
    by_cases fits : extra % pool.size + 1 < pool.size
    · obtain ⟨rounds, ahead⟩ : (extra + 1) / pool.size = extra / pool.size ∧
          (extra + 1) % pool.size = extra % pool.size + 1 :=
        (Nat.div_mod_unique some_server).mpr ⟨by omega, fits⟩
      rw [rounds, ahead]
      exact nextTurn fits
    · obtain ⟨rounds, ahead⟩ : (extra + 1) / pool.size = extra / pool.size + 1 ∧
          (extra + 1) % pool.size = 0 := by
        refine (Nat.div_mod_unique some_server).mpr ⟨?_, some_server⟩
        rw [Nat.mul_succ]
        omega
      rw [rounds, ahead, ← Nat.add_assoc]
      exact nextRound (by omega)

/-- Where each write goes: below the fullest server while there is room, then in turns. -/
theorem Fills.choice {t : Table} {pool : Pool} {writes before : List (String × String)}
    {lobby server : String} (fills : t.Fills pool writes)
    (early : before ++ [(lobby, server)] <+: writes) :
    (before.length < t.room pool → (t.replay before).lobbiesOn server < t.peak pool) ∧
      ∀ extra, before.length = t.room pool + extra →
        pool.servers[extra % pool.size]? = some server := by
  obtain ⟨_, chosen⟩ := fills before lobby server early
  have within := fills.take ((List.prefix_append _ _).trans early)
  constructor
  · intro room
    have left := (within.rising (Nat.le_of_lt room)).2
    exact lightest_below chosen (by omega)
  · intro extra late
    exact (within.level late).lightest chosen

end Table

end LobbyPlacement

import LobbyPlacement.Proofs.Placement.Agreement
import Mathlib.Data.List.Infix
import Mathlib.Data.List.Perm.Basic

/-!
# How far loads drift apart

Requests count at different times and write later, so a server may be written to by requests that
chose it long ago. What bounds this is the number of requests under way: each is bound for at most
one server, and a server that a count chooses has, at the moment of the listing, no more lobbies
than any other. `Balanced` adds to the lobbies of a server the requests bound for it;
`spread_le_max` is what follows for the lobbies alone.
-/

namespace LobbyPlacement

namespace Table

def loadsOver (t : Table) (pool : Pool) : List Nat := pool.servers.map t.lobbiesOn

theorem loadsOver_ne_nil (t : Table) (pool : Pool) : t.loadsOver pool ≠ [] := by
  simpa [loadsOver] using pool.nonempty

/-- The difference between the most and the fewest lobbies on a server of the pool. -/
def spread (t : Table) (pool : Pool) : Nat :=
  (t.loadsOver pool).max (t.loadsOver_ne_nil pool) -
    (t.loadsOver pool).min (t.loadsOver_ne_nil pool)

theorem spread_le_iff {t : Table} {pool : Pool} {bound : Nat} :
    t.spread pool ≤ bound ↔ ∀ server ∈ pool.servers, ∀ other ∈ pool.servers,
      t.lobbiesOn server ≤ t.lobbiesOn other + bound := by
  have some_load := t.loadsOver_ne_nil pool
  unfold spread
  constructor
  · intro narrow server member other otherMember
    have below := List.le_max_of_mem (List.mem_map_of_mem (f := t.lobbiesOn) member)
    have above := List.min_le_of_mem (List.mem_map_of_mem (f := t.lobbiesOn) otherMember)
    unfold loadsOver at narrow
    omega
  · intro close
    obtain ⟨server, member, most⟩ := List.mem_map.mp (List.max_mem some_load)
    obtain ⟨other, otherMember, fewest⟩ := List.mem_map.mp (List.min_mem some_load)
    have near := close server member other otherMember
    omega

/-! ### What a count is bound to choose -/

/-- Every listed lobby is stored, unless the listing is interrupted and its count must fail. -/
def Covers (t : Table) (listing : List (Except Fault String)) : Prop :=
  (∃ fault, .error fault ∈ listing) ∨ ∀ key, .ok key ∈ listing → (t.value? key).isSome

theorem foreseen_interrupted {t : Table} {listing : List (Except Fault String)} {fault : Fault}
    (interrupted : .error fault ∈ listing) (loads : List Load) :
    t.foreseen loads listing = none := by
  induction listing generalizing loads with
  | nil => cases interrupted
  | cons item rest ih =>
    cases item with
    | error _ => rfl
    | ok key =>
      rcases List.mem_cons.mp interrupted with first | later
      · cases first
      · exact ih later _

theorem covers_tail {t : Table} {key : String} {rest : List (Except Fault String)}
    (covers : t.Covers (.ok key :: rest)) : t.Covers rest := by
  rcases covers with ⟨fault, interrupted⟩ | stored
  · rcases List.mem_cons.mp interrupted with first | later
    · cases first
    · exact .inl ⟨fault, later⟩
  · exact .inr fun other member => stored other (List.mem_cons_of_mem _ member)

theorem covers_mono {s t : Table} (grown : s.Extends t) {listing : List (Except Fault String)}
    (covers : s.Covers listing) : t.Covers listing := by
  rcases covers with interrupted | stored
  · exact .inl interrupted
  · refine .inr fun key member => ?_
    obtain ⟨server, found⟩ := Option.isSome_iff_exists.mp (stored key member)
    simp [grown key server found]

/-- Lobbies that are stored later change nothing for a count that has its listing. -/
theorem foreseen_grown {s t : Table} (grown : s.Extends t) {listing : List (Except Fault String)}
    (covers : s.Covers listing) (loads : List Load) :
    t.foreseen loads listing = s.foreseen loads listing := by
  rcases covers with ⟨fault, interrupted⟩ | stored
  · rw [foreseen_interrupted interrupted, foreseen_interrupted interrupted]
  · refine foreseen_congr (fun key member => ?_) loads
    obtain ⟨server, found⟩ := Option.isSome_iff_exists.mp (stored key member)
    rw [found, grown key server found]

theorem foreseen_complete {t : Table} {listing : List (Except Fault String)}
    (complete : listing.Perm (t.keys.map .ok)) (pool : Pool) :
    t.foreseen (Load.zero pool.servers) listing =
      some (pool.servers.map fun server => ⟨server, t.lobbiesOn server⟩) := by
  have named := (congrFun₂ (List.eq_map_comp_perm Except.ok) listing t.keys).mpr complete
  obtain ⟨keys, rfl, reordered⟩ := named
  rw [foreseen_keys, Load.zero, foldl_credited t pool.distinct]
  refine congrArg some (List.map_congr_left fun server _ => ?_)
  rw [reordered.countP_eq, countP_keys, Nat.zero_add]

end Table

/-- The server that a count is bound to choose if all its reads are answered. -/
def Tally.choice (t : Table) (tally : Tally) : Option String :=
  ((tally.foreseen t).bind Load.least).map Load.server

/-- A complete listing makes a count choose a server with the fewest lobbies. -/
theorem Tally.choice_complete {t : Table} {listing : List (Except Fault String)}
    (complete : listing.Perm (t.keys.map .ok)) (pool : Pool) :
    ∃ best ∈ pool.servers,
      (Tally.before (Load.zero pool.servers) listing).choice t = some best ∧
      ∀ other ∈ pool.servers, t.lobbiesOn best ≤ t.lobbiesOn other := by
  have some_load : (pool.servers.map fun server => (⟨server, t.lobbiesOn server⟩ : Load)) ≠ [] := by
    simpa using pool.nonempty
  obtain ⟨_, load, _, chosen, _⟩ := Load.least_first some_load
  obtain ⟨member, low⟩ := Load.least_le chosen
  obtain ⟨best, present, rfl⟩ := List.mem_map.mp member
  refine ⟨best, present, ?_, fun other otherPresent => ?_⟩
  · rw [choice, foreseen_before, Table.foreseen_complete complete]
    simp only [Option.bind_some, chosen, Option.map_some]
  · exact low ⟨other, t.lobbiesOn other⟩ (List.mem_map_of_mem otherPresent)

namespace Progress

/-- The server that a request is bound to write, unless it fails or comes too late. -/
def target (t : Table) : Progress → Option String
  | .waiting (.claiming server) => some server
  | .waiting (.counting census) => (Tally.reading census).choice t
  | _ => none

def ReadsStored (t : Table) : Progress → Prop
  | .waiting (.counting census) => t.Covers (.ok census.key :: census.rest)
  | _ => True

theorem start_idle (t : Table) (lobby : String) :
    (Placement.start lobby).progress.ReadsStored t ∧
      (Placement.start lobby).progress.target t = none := by
  rcases Placement.start_progress lobby with looking | ⟨_, refused⟩
  · rw [looking]
    exact ⟨trivial, rfl⟩
  · rw [refused]
    exact ⟨trivial, rfl⟩

theorem readsStored_mono {s t : Table} (grown : s.Extends t) {p : Progress}
    (reads : p.ReadsStored s) : p.ReadsStored t := by
  unfold ReadsStored at reads ⊢
  split
  · exact Table.covers_mono grown reads
  · trivial

theorem target_grown {s t : Table} (grown : s.Extends t) {p : Progress} (reads : p.ReadsStored s) :
    p.target t = p.target s := by
  unfold target
  split
  · rfl
  · rw [Tally.choice, Tally.choice, Tally.foreseen, Tally.foreseen,
      Table.foreseen_grown grown reads]
  · rfl

theorem isWaiting_of_target {t : Table} {seat : Seat} {server : String}
    (bound : seat.progress.target t = some server) : seat.isWaiting = true := by
  rcases seat with ⟨_, _, phase | _ | _⟩
  · rfl
  · cases bound
  · cases bound

theorem afterTally_target {rules : Rules} (mode : rules.mode = .createIfAbsent) (t : Table)
    (tally : Tally) :
    (Placement.afterTally rules tally).progress.target t = tally.choice t := by
  rcases Placement.afterTally_progress rules tally with
    ⟨census, rfl, next⟩ | ⟨fault, ended, next⟩ | ⟨loads, load, rfl, chosen, next⟩
  · rw [next]
    rfl
  · rw [next]
    rcases ended with rfl | rfl <;> rfl
  · rw [next, mode]
    simp [target, Placement.writing, Tally.choice, Tally.foreseen, chosen]

theorem afterTally_readsStored (rules : Rules) {t : Table} {listing : List (Except Fault String)}
    (covers : t.Covers listing) (loads : List Load) :
    (Placement.afterTally rules (.before loads listing)).progress.ReadsStored t := by
  rcases Placement.afterTally_progress rules (.before loads listing) with
    ⟨census, tally, next⟩ | ⟨fault, _, next⟩ | ⟨_, load, _, _, next⟩
  · rw [next]
    cases listing with
    | nil => cases tally
    | cons item rest =>
      cases item with
      | error fault => cases tally
      | ok key =>
        obtain rfl := Tally.reading.inj tally
        exact covers
  · rw [next]
    trivial
  · rw [next]
    cases rules.mode <;> trivial

end Progress

/-- How one move changes the table and the server that the request is bound for. -/
inductive Aims (pool : Pool) (lobby : String) (s : Table) :
    Option String → Table → Option String → Prop
  | keeps (aim : Option String) : Aims pool lobby s aim s aim
  | drops (aim : Option String) : Aims pool lobby s aim s none
  | takes {best : String} (member : best ∈ pool.servers)
      (fewest : ∀ other ∈ pool.servers, s.lobbiesOn best ≤ s.lobbiesOn other) :
      Aims pool lobby s none s (some best)
  | lands {server : String} (absent : s.value? lobby = none) :
      Aims pool lobby s (some server) (s.insert lobby server) none

/-- Whatever a move does, it keeps two servers within a bound that no server's targets exceed.
`before` and `after` count the requests bound for the first of the two. -/
theorem Aims.even {pool : Pool} {lobby : String} {s t : Table} {aim next : Option String}
    (aims : Aims pool lobby s aim t next) {server other : String} (present : other ∈ pool.servers)
    {bound before after : Nat}
    (counts : after + (if aim = some server then 1 else 0) =
      before + if next = some server then 1 else 0)
    (room : after ≤ bound)
    (apart : s.lobbiesOn server + before ≤ s.lobbiesOn other + bound) :
    t.lobbiesOn server + after ≤ t.lobbiesOn other + bound := by
  cases aims with
  | keeps => omega
  | drops =>
    simp only [reduceCtorEq, if_false] at counts
    omega
  | @takes best member fewest =>
    -- Only here may a server gain on the others, and it starts with no more lobbies than they have.
    by_cases same : best = server
    · subst same
      have low := fewest other present
      omega
    · simp only [reduceCtorEq, if_false, Option.some.injEq, same] at counts
      omega
  | @lands target absent =>
    rw [Table.lobbiesOn_insert absent, Table.lobbiesOn_insert absent]
    simp only [reduceCtorEq, if_false, Option.some.injEq] at counts
    omega

/-- A request takes a target only at its listing, when that server has the fewest lobbies, and then
keeps it until it writes there or gives up. -/
theorem Moves.aims {σ : Type} [Store σ] [Ledger σ] {rules : Rules} {lobby : String} {s : σ}
    {phase : Phase} {t : Table} {progress : Progress} (mode : rules.mode = .createIfAbsent)
    (lists : ListsEveryKey s) (agrees : (Progress.waiting phase).AgreesWith (Ledger.table s) lobby)
    (reads : (Progress.waiting phase).ReadsStored (Ledger.table s))
    (moves : Moves rules lobby s phase t progress) :
    progress.ReadsStored t ∧ Aims rules.pool lobby (Ledger.table s)
      ((Progress.waiting phase).target (Ledger.table s)) t (progress.target t) := by
  cases moves with
  | failed | hit | missed | refused | adopted | vanished | announced | crashed =>
    exact ⟨trivial, .drops _⟩
  | @listed listing answered =>
    -- An interrupted listing may name anything, but its count is bound to fail.
    by_cases interrupted : ∃ fault, .error fault ∈ listing
    · obtain ⟨fault, member⟩ := interrupted
      refine ⟨Progress.afterTally_readsStored rules (.inl ⟨fault, member⟩) _, ?_⟩
      rw [Progress.afterTally_target mode, Tally.choice, Tally.foreseen_before,
        Table.foreseen_interrupted member]
      exact .drops _
    · have complete := lists listing answered (not_exists.mp interrupted)
      have stored : (Ledger.table s).Covers listing := by
        refine .inr fun key member => ?_
        obtain ⟨named, present, same⟩ := List.mem_map.mp (complete.mem_iff.mp member)
        obtain rfl := Except.ok.inj same
        exact Table.mem_keys_iff.mp present
      refine ⟨Progress.afterTally_readsStored rules stored _, ?_⟩
      obtain ⟨best, member, chosen, fewest⟩ := Tally.choice_complete complete rules.pool
      rw [Progress.afterTally_target mode, chosen]
      exact .takes member fewest
  | @counted census =>
    rw [Progress.afterTally_target mode, Tally.choice, Census.foreseen_read, Census.read_value?]
    exact ⟨Progress.afterTally_readsStored rules (Table.covers_tail reads) _, .keeps _⟩
  | claimed absent => exact ⟨trivial, .lands absent⟩
  | overwrote => exact agrees.elim

namespace Hall

variable {σ π : Type} [Store σ] [Ledger σ] [Publisher π]

def boundFor (h : Hall σ π) (server : String) : Nat :=
  h.seats.countP fun seat => seat.progress.target h.table = some server

/-- No server has, with the requests bound for it, more than `bound` lobbies above any other. -/
structure Balanced (bound : Nat) (h : Hall σ π) : Prop where
  seats : ∀ seat ∈ h.seats, seat.progress.ReadsStored h.table
  even : ∀ server ∈ h.desk.rules.pool.servers, ∀ other ∈ h.desk.rules.pool.servers,
    h.table.lobbiesOn server + h.boundFor server ≤ h.table.lobbiesOn other + bound

omit [Publisher π] in
theorem balanced_atDesk {d : Desk σ π} {bound : Nat}
    (narrow : (Ledger.table d.store).spread d.rules.pool ≤ bound) :
    Balanced bound (atDesk d) where
  seats := by simp [atDesk]
  even := by simpa [atDesk, boundFor, table] using Table.spread_le_iff.mp narrow

omit [Publisher π] in
theorem boundFor_moved {h : Hall σ π} {t : Table} (grows : h.table.Extends t)
    (reads : ∀ seat ∈ h.seats, seat.progress.ReadsStored h.table) {number : Nat} {lobby : String}
    {started : Nat} {phase : Phase}
    (seated : h.seats[number]? = some ⟨lobby, started, .waiting phase⟩) (progress : Progress)
    (server : String) :
    (h.seats.set number ⟨lobby, started, progress⟩).countP
          (fun seat => seat.progress.target t = some server) +
        (if (Progress.waiting phase).target h.table = some server then 1 else 0) =
      h.boundFor server + if progress.target t = some server then 1 else 0 := by
  -- The other requests keep their targets although the table has grown.
  have others : h.seats.countP (fun seat => seat.progress.target t = some server) =
      h.boundFor server :=
    List.countP_congr fun seat present => by
      rw [Progress.target_grown grows (reads seat present)]
  have mine := Progress.target_grown grows (reads _ (List.mem_of_getElem? seated))
  have replaced := countP_set_add (p := fun seat : Seat =>
    seat.progress.target t = some server) seated ⟨lobby, started, progress⟩
  rw [others] at replaced
  dsimp only at mine
  rw [← mine]
  simpa using replaced

theorem balanced_step {origin : Table} {bound : Nat} {h : Hall σ π} (e : Event (Ledger.Weather σ))
    (agreed : Agreed origin h) (lists : ListsEveryKey h.desk.store)
    (crowd : (h.step e).inFlight ≤ bound) (balanced : Balanced bound h) :
    Balanced bound (h.step e) := by
  have grows := agreed.extends_step e
  have change := h.step_change e
  refine ⟨?_, fun server member other otherMember => ?_⟩
  · refine change.forall_seats (fun lobby started => (Progress.start_idle _ lobby).1)
      (fun seat present => Progress.readsStored_mono grows (balanced.seats seat present)) ?_
    intro lobby started phase progress old moves
    exact (moves.aims agreed.mode lists (agreed.seats _ old) (balanced.seats _ old)).1
  have room : (h.step e).boundFor server ≤ bound :=
    Nat.le_trans (List.countP_mono_left fun seat _ aimed =>
      Progress.isWaiting_of_target (of_decide_eq_true aimed)) crowd
  rw [step_rules] at member otherMember
  have apart := balanced.even server member other otherMember
  unfold boundFor at room apart ⊢
  generalize (h.step e).table = t at change grows room ⊢
  generalize (h.step e).seats = seats at change room ⊢
  cases change with
  | idle => exact apart
  | entered lobby started => simpa [(Progress.start_idle h.table lobby).2] using apart
  | moved seated moves =>
    have old := List.mem_of_getElem? seated
    obtain ⟨_, aims⟩ := moves.aims agreed.mode lists (agreed.seats _ old) (balanced.seats _ old)
    exact aims.even otherMember (boundFor_moved grows balanced.seats seated _ server) room apart

theorem balanced_run {d : Desk σ π} (mode : d.rules.mode = .createIfAbsent) {bound : Nat}
    (narrow : (Ledger.table d.store).spread d.rules.pool ≤ bound)
    {events : List (Event (Ledger.Weather σ))}
    (crowd : ∀ before, before <+: events → ((atDesk d).run before).inFlight ≤ bound)
    (lists : ∀ before, before <+: events → ListsEveryKey ((atDesk d).run before).desk.store) :
    Balanced bound ((atDesk d).run events) := by
  induction events using List.reverseRecOn with
  | nil => exact balanced_atDesk narrow
  | append_singleton before e ih =>
    have earlier : before <+: before ++ [e] := List.prefix_append before [e]
    have balanced := ih (fun front early => crowd front (early.trans earlier))
      (fun front early => lists front (early.trans earlier))
    have now := crowd _ (List.prefix_refl _)
    rw [run_concat] at now ⊢
    exact balanced_step e ((agreed_atDesk mode).run before) (lists before earlier) now balanced

/-- Requests that write only where nothing is stored, never more than `c` of them under way, in any
order with each other, with faults of the store and with lookups. If every listing of all keys is
complete, then at every moment the server with the most lobbies has at most `c` more than the one
with the fewest, or as many more as it had at the start. -/
theorem spread_le_max (d : Desk σ π) (mode : d.rules.mode = .createIfAbsent) (c : Nat)
    (events : List (Event (Ledger.Weather σ)))
    (crowd : ∀ before, before <+: events → ((atDesk d).run before).inFlight ≤ c)
    (lists : ∀ before, before <+: events → ListsEveryKey ((atDesk d).run before).desk.store) :
    ∀ before, before <+: events →
      ((atDesk d).run before).table.spread d.rules.pool ≤
        max ((Ledger.table d.store).spread d.rules.pool) c := by
  intro before early
  have balanced := balanced_run mode (Nat.le_max_left _ c)
    (fun front first => Nat.le_trans (crowd front (first.trans early)) (Nat.le_max_right _ c))
    (fun front first => lists front (first.trans early))
  refine Table.spread_le_iff.mpr fun server member other otherMember => ?_
  have even := balanced.even
  rw [run_rules] at even
  exact Nat.le_trans (Nat.le_add_right _ _) (even server member other otherMember)

def staleCounts : List (Event (Ledger.Weather MemoryStore)) :=
  [.enter "L", .enter "M", .advance 0, .advance 1, .advance 0, .advance 1, .advance 0, .advance 1]

/-- Two requests under way place both lobbies on one server, and no two can do worse. -/
theorem stale_counts_reach_bound :
    (∀ before, before <+: staleCounts → ((atDesk raceDesk).run before).inFlight ≤ 2) ∧
      (∀ before, before <+: staleCounts →
        ((atDesk raceDesk).run before).table.spread .two ≤ max 0 2) ∧
      ((atDesk raceDesk).run staleCounts).table.spread .two = 2 := by
  have crowd : ∀ before ∈ staleCounts.inits, ((atDesk raceDesk).run before).inFlight ≤ 2 := by
    decide +kernel
  have unstarred : ∀ before ∈ staleCounts.inits,
      ∀ key ∈ ((atDesk raceDesk).run before).desk.store.table.keys,
        Text.Glob.isStarred key = false := by decide +kernel
  refine ⟨fun before early => crowd before ((List.mem_inits _ _).mpr early), ?_, by decide +kernel⟩
  exact spread_le_max raceDesk rfl 2 staleCounts
    (fun before early => crowd before ((List.mem_inits _ _).mpr early))
    (fun before early =>
      MemoryStore.listsEveryKey_of_unstarred (unstarred before ((List.mem_inits _ _).mpr early)))

end Hall

end LobbyPlacement

import LobbyPlacement.Proofs.Placement.Filling

/-!
# One request after another

A request that has the desk to itself counts the very loads it then adds to. `Foresees` is what such
a request knows at each point: that its lobby is not stored, and which server is the first with the
fewest lobbies. So the writes of a run in which no two requests overlap fill up the servers and then
go round, in either mode (`placements_fill_then_rotate`).
-/

namespace LobbyPlacement

namespace Progress

/-- What a request knows of the table if no other request writes to it meanwhile. -/
def Foresees (t : Table) (pool : Pool) (lobby : String) : Progress → Prop
  | .waiting .listing => t.value? lobby = none
  | .waiting (.counting census) => t.value? lobby = none ∧
      ∀ server, (Tally.reading census).choice t = some server → t.lightest pool = some server
  | .waiting (.claiming server) => t.value? lobby = none ∧ t.lightest pool = some server
  | .waiting (.overwriting server) => t.value? lobby = none ∧ t.lightest pool = some server
  | .waiting .adopting => False
  | _ => True

theorem foresees_of_idle {p : Progress} (idle : ∀ phase, p ≠ .waiting phase) (t : Table)
    (pool : Pool) (lobby : String) : p.Foresees t pool lobby := by
  cases p with
  | waiting phase => exact (idle phase rfl).elim
  | answered outcome => trivial
  | crashed => trivial

theorem start_foresees (t : Table) (pool : Pool) (lobby : String) :
    (Placement.start lobby).progress.Foresees t pool lobby := by
  rcases Placement.start_progress lobby with looking | ⟨_, refused⟩
  · rw [looking]
    trivial
  · rw [refused]
    trivial

theorem afterTally_foresees {rules : Rules} {t : Table} {pool : Pool} {lobby : String}
    {tally : Tally} (absent : t.value? lobby = none)
    (bound : ∀ server, tally.choice t = some server → t.lightest pool = some server) :
    (Placement.afterTally rules tally).progress.Foresees t pool lobby := by
  rcases Placement.afterTally_progress rules tally with
    ⟨census, rfl, next⟩ | ⟨fault, _, next⟩ | ⟨loads, load, rfl, chosen, next⟩
  · rw [next]
    exact ⟨absent, bound⟩
  · rw [next]
    trivial
  · have target : t.lightest pool = some load.server := by
      refine bound load.server ?_
      rw [Tally.choice, Tally.foreseen, Option.bind_some, chosen]
      rfl
    rw [next]
    cases rules.mode with
    | createIfAbsent => exact ⟨absent, target⟩
    | lastWriteWins => exact ⟨absent, target⟩

end Progress

/-- A complete listing binds a count to the first server with the fewest lobbies. -/
theorem Tally.choice_lightest {t : Table} {listing : List (Except Fault String)}
    (complete : listing.Perm (t.keys.map .ok)) (pool : Pool) :
    (Tally.before (Load.zero pool.servers) listing).choice t = t.lightest pool := by
  rw [choice, foreseen_before, Table.foreseen_complete complete]
  rfl

/-- A move of a request that has the desk to itself: what it writes goes to the first server with
the fewest lobbies and is the first for its lobby. -/
theorem Moves.foresees {σ : Type} [Store σ] [Ledger σ] {rules : Rules} {lobby : String} {s : σ}
    {phase : Phase} {t : Table} {progress : Progress} (lists : ListsEveryKey s)
    (before : (Progress.waiting phase).Foresees (Ledger.table s) rules.pool lobby)
    (moves : Moves rules lobby s phase t progress) :
    progress.Foresees t rules.pool lobby ∧
      ∀ write ∈ progress.deed lobby, write.1 = lobby ∧ (Ledger.table s).value? lobby = none ∧
        (Ledger.table s).lightest rules.pool = some write.2 := by
  cases moves with
  | failed | hit | adopted | vanished | announced | crashed => exact ⟨trivial, nofun⟩
  | missed absent => exact ⟨absent, nofun⟩
  | @listed listing answered =>
    have unwritten := Progress.afterTally_not_written rules
      (.before (Load.zero rules.pool.servers) listing)
    rw [Progress.deed_of_not_written unwritten]
    refine ⟨Progress.afterTally_foresees before ?_, nofun⟩
    intro server bound
    -- An interrupted listing binds its count to nothing.
    by_cases interrupted : ∃ fault, .error fault ∈ listing
    · obtain ⟨fault, member⟩ := interrupted
      rw [Tally.choice, Tally.foreseen_before, Table.foreseen_interrupted member] at bound
      cases bound
    · have complete := lists listing answered (not_exists.mp interrupted)
      rwa [Tally.choice_lightest complete] at bound
  | @counted census =>
    obtain ⟨absent, bound⟩ := before
    have unwritten := Progress.afterTally_not_written rules
      (census.read (.ok ((Ledger.table s).value? census.key)))
    rw [Progress.deed_of_not_written unwritten]
    refine ⟨Progress.afterTally_foresees absent ?_, nofun⟩
    intro server read
    rw [Tally.choice, Census.foreseen_read] at read
    exact bound server read
  | claimed absent =>
    obtain ⟨_, chosen⟩ := before
    refine ⟨trivial, ?_⟩
    intro write made
    obtain rfl := List.mem_singleton.mp made
    exact ⟨rfl, absent, chosen⟩
  | refused stored =>
    obtain ⟨absent, _⟩ := before
    rw [absent] at stored
    cases stored
  | overwrote =>
    obtain ⟨absent, chosen⟩ := before
    refine ⟨trivial, ?_⟩
    intro write made
    obtain rfl := List.mem_singleton.mp made
    exact ⟨rfl, absent, chosen⟩

namespace Hall

/-- Where at most one request is under way, all others have ended. -/
theorem ended_of_alone {seats : List Seat} {number : Nat} {old new : Seat}
    (alone : seats.countP Seat.isWaiting ≤ 1) (seated : seats[number]? = some old)
    (waiting : old.isWaiting = true) :
    ∀ seat ∈ seats.set number new, seat = new ∨ seat.isWaiting = false := by
  induction seats generalizing number with
  | nil => simp at seated
  | cons first rest ih =>
    rw [List.countP_cons] at alone
    cases number with
    | zero =>
      obtain rfl : first = old := by simpa using seated
      rw [if_pos waiting] at alone
      intro seat member
      rcases List.mem_cons.mp member with here | later
      · exact .inl here
      · have none_waits : rest.countP Seat.isWaiting = 0 := by omega
        exact .inr (Bool.eq_false_iff.mpr (List.countP_eq_zero.mp none_waits seat later))
    | succ number =>
      have found : rest[number]? = some old := by simpa using seated
      have some_waits : 0 < rest.countP Seat.isWaiting :=
        List.countP_pos_iff.mpr ⟨old, List.mem_of_getElem? found, waiting⟩
      intro seat member
      rcases List.mem_cons.mp member with here | later
      · subst here
        cases idle : seat.isWaiting with
        | false => exact .inr rfl
        | true =>
          rw [if_pos idle] at alone
          omega
      · exact ih (by omega) found seat later

variable {σ π : Type} [Store σ] [Ledger σ] [Publisher π]

/-- The writes so far have filled up the servers, and the request under way foresees the next. -/
structure Orderly (origin : Table) (h : Hall (Audited σ) (Watched π)) : Prop where
  replayed : h.table = origin.replay h.desk.store.writes
  fills : origin.Fills h.desk.rules.pool h.desk.store.writes
  seats : ∀ seat ∈ h.seats, seat.progress.Foresees h.table h.desk.rules.pool seat.lobby

theorem orderly_step {origin : Table} {h : Hall (Audited σ) (Watched π)}
    (orderly : Orderly origin h) (alone : h.inFlight ≤ 1) (lists : ListsEveryKey h.desk.store)
    (e : Event (Ledger.Weather σ)) : Orderly origin (h.step e) := by
  obtain ⟨new, written, _, booking⟩ := h.step_booking e
  have replayed : (h.step e).table = origin.replay (h.step e).desk.store.writes := by
    rw [booking.replay, written, Table.replay_append, ← orderly.replayed]
  refine ⟨replayed, ?_, ?_⟩
  · rw [step_rules, written]
    generalize (h.step e).table = t at booking
    generalize (h.step e).seats = seats at booking
    cases booking with
    | idle | entered =>
      rw [List.append_nil]
      exact orderly.fills
    | @moved _ lobby _ _ _ progress seated moves =>
      have foresees := orderly.seats _ (List.mem_of_getElem? seated)
      obtain ⟨_, chosen⟩ := moves.foresees lists foresees
      rcases deeds : progress.deed lobby with _ | ⟨⟨key, server⟩, rest⟩
      · rw [List.append_nil]
        exact orderly.fills
      · obtain rfl : rest = [] := by
          unfold Progress.deed at deeds
          split at deeds <;> simp_all
        have done : (key, server) ∈ progress.deed lobby := by
          rw [deeds]
          exact List.mem_cons_self
        obtain ⟨named, absent, first⟩ := chosen (key, server) done
        obtain rfl : key = lobby := named
        have table_eq : Ledger.table h.desk.store = origin.replay h.desk.store.writes :=
          orderly.replayed
        rw [table_eq] at absent first
        exact orderly.fills.concat absent first
  · rw [step_rules]
    generalize (h.step e).table = t at booking
    generalize (h.step e).seats = seats at booking ⊢
    cases booking with
    | idle => exact orderly.seats
    | entered lobby started =>
      intro seat member
      rcases List.mem_append.mp member with early | late
      · exact orderly.seats seat early
      · obtain rfl := List.mem_singleton.mp late
        exact Progress.start_foresees _ _ lobby
    | moved seated moves =>
      intro seat member
      rcases ended_of_alone alone seated rfl seat member with rfl | ended
      · exact (moves.foresees lists (orderly.seats _ (List.mem_of_getElem? seated))).1
      · refine Progress.foresees_of_idle ?_ _ _ _
        rintro phase waiting
        rw [Seat.isWaiting, waiting] at ended
        cases ended

/-- Where no two requests overlap and every listing is complete, the writes fill up the servers. -/
theorem orderly_run (d : Desk σ π) {events : List (Event (Ledger.Weather σ))}
    (alone : ∀ before, before <+: events → ((atDesk d).run before).inFlight ≤ 1)
    (lists : ∀ before, before <+: events → ListsEveryKey ((atDesk d).run before).desk.store) :
    Orderly (Ledger.table d.store) ((atDesk d.observed).run events) := by
  induction events using List.reverseRecOn with
  | nil => exact ⟨rfl, Table.fills_nil _ _, by simp [atDesk, run]⟩
  | append_singleton before e ih =>
    have earlier : before <+: before ++ [e] := List.prefix_append before [e]
    have orderly := ih (fun front early => alone front (early.trans earlier))
      (fun front early => lists front (early.trans earlier))
    have plain : ((atDesk d.observed).run before).plain = (atDesk d).run before :=
      plain_run (atDesk d.observed) before
    have aloneNow := alone before earlier
    have listsNow := lists before earlier
    rw [← plain] at aloneNow listsNow
    rw [run_concat]
    exact orderly_step orderly aloneNow listsNow e

/-- Requests of which at no moment two are under way, in either mode, with lookups, faults of the
store and crashes of the publisher in between, where every listing of all keys is complete. The
table is the first one with the booked writes made over it, which are as many as the counter of
placements has counted and hold what each request that placed its lobby answered. As long as the
writes are fewer than the room below the fullest server of the start, each goes to a server with
fewer lobbies than that one had, and none gets more; when they are as many, all servers have as many
lobbies as that one; and from then on they go round in the order of the pool. Over an empty store
they go round from the first. -/
theorem placements_fill_then_rotate (d : Desk σ π) (events : List (Event (Ledger.Weather σ)))
    (alone : ∀ before, before <+: events → ((atDesk d).run before).inFlight ≤ 1)
    (lists : ∀ before, before <+: events → ListsEveryKey ((atDesk d).run before).desk.store) :
    let start := Ledger.table d.store
    let pool := d.rules.pool
    let h := (atDesk d.observed).run events
    h.plain = (atDesk d).run events ∧
    h.table = start.replay h.desk.store.writes ∧
    h.desk.stats.created = d.stats.created + h.desk.store.writes.length ∧
    (∀ seat ∈ h.seats, ∀ server, seat.progress = .answered (.ok (.created server)) →
      (seat.lobby, server) ∈ h.desk.store.writes) ∧
    (∀ before lobby server, before ++ [(lobby, server)] <+: h.desk.store.writes →
      (start.replay before).value? lobby = none ∧
      (before.length < start.room pool →
        (start.replay before).lobbiesOn server < start.peak pool) ∧
      (∀ extra, before.length = start.room pool + extra →
        pool.servers[extra % pool.size]? = some server) ∧
      (start = .empty → pool.servers[before.length % pool.size]? = some server)) ∧
    ∀ before, before <+: h.desk.store.writes → ∀ server ∈ pool.servers,
      (before.length ≤ start.room pool →
        (start.replay before).lobbiesOn server ≤ start.peak pool) ∧
      (before.length = start.room pool →
        (start.replay before).lobbiesOn server = start.peak pool) := by
  intro start pool h
  obtain ⟨replayed, fills, _⟩ := orderly_run d alone lists
  obtain ⟨new, written, counted, _⟩ := (atDesk d.observed).run_booked events
  obtain rfl : new = h.desk.store.writes := written.symm
  have rules : h.desk.rules = d.rules := run_rules (atDesk d.observed) events
  rw [rules] at fills
  refine ⟨plain_run (atDesk d.observed) events, replayed, counted, ?_, ?_, ?_⟩
  · intro seat member server placed
    have booked := booked_run d events seat member
    rw [placed] at booked
    exact booked
  · intro before lobby server early
    obtain ⟨absent, _⟩ := fills before lobby server early
    obtain ⟨below, turns⟩ := fills.choice early
    refine ⟨absent, below, turns, ?_⟩
    intro empty
    have noRoom : start.room pool = 0 := by
      rw [empty]
      exact Table.room_empty pool
    exact turns before.length (by rw [noRoom, Nat.zero_add])
  · intro before early server member
    have within := fills.take early
    constructor
    · intro room
      exact (within.rising room).1 server member
    · intro full
      obtain ⟨place, found⟩ := List.getElem?_of_mem member
      have exactly : before.length = start.room pool + 0 := full
      have level := (within.level exactly).even place server found
      rw [Nat.zero_div, Nat.zero_mod, if_neg (Nat.not_lt_zero place)] at level
      exact level

def unevenDesk : Desk MemoryStore Recorder :=
  .opening (.standard .two) ⟨.ofList [("", "A")], true⟩ .empty

/-- Three requests one after another: a new lobby, the same again, and another new one. -/
def inTurn : List (Event (Ledger.Weather MemoryStore)) :=
  [.enter "*", .advance 0, .advance 0, .advance 0, .advance 0, .advance 0,
    .enter "*", .advance 1,
    .enter "L", .advance 2, .advance 2, .advance 2, .advance 2, .advance 2, .advance 2]

/-- Of two servers the first has a lobby, so the first new lobby goes to the second, which makes
them even, and the next to the first. -/
theorem uneven_servers_fill :
    (∀ before, before <+: inTurn → ((atDesk unevenDesk).run before).inFlight ≤ 1) ∧
      (∀ before, before <+: inTurn →
        ListsEveryKey ((atDesk unevenDesk).run before).desk.store) ∧
      (∀ before lobby server, before ++ [(lobby, server)] <+:
          ((atDesk unevenDesk.observed).run inTurn).desk.store.writes →
        ∀ extra, before.length = 1 + extra → Pool.two.servers[extra % 2]? = some server) ∧
      ((atDesk unevenDesk.observed).run inTurn).desk.store.writes = [("*", "B"), ("L", "A")] := by
  have alone : ∀ before ∈ inTurn.inits, ((atDesk unevenDesk).run before).inFlight ≤ 1 := by
    decide +kernel
  have unstarred : ∀ before ∈ inTurn.inits,
      ∀ key ∈ ((atDesk unevenDesk).run before).desk.store.table.keys,
        Text.Glob.isStarred key = false := by decide +kernel
  have aloneAt : ∀ before, before <+: inTurn → ((atDesk unevenDesk).run before).inFlight ≤ 1 :=
    fun before early => alone before ((List.mem_inits _ _).mpr early)
  have listsAt : ∀ before, before <+: inTurn →
      ListsEveryKey ((atDesk unevenDesk).run before).desk.store :=
    fun before early =>
      MemoryStore.listsEveryKey_of_unstarred (unstarred before ((List.mem_inits _ _).mpr early))
  have room : (Ledger.table unevenDesk.store).room unevenDesk.rules.pool = 1 := by decide +kernel
  refine ⟨aloneAt, listsAt, ?_, by decide +kernel⟩
  intro before lobby server early extra late
  obtain ⟨_, _, _, _, choices, _⟩ :=
    placements_fill_then_rotate unevenDesk inTurn aloneAt listsAt
  obtain ⟨_, _, turns, _⟩ := choices before lobby server early
  exact turns extra (by rw [late, room])

end Hall

end LobbyPlacement

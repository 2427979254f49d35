import LobbyPlacement.Proofs.Placement.Answering
import LobbyPlacement.Proofs.Placement.Balance
import LobbyPlacement.Proofs.Placement.Counting
import LobbyPlacement.Proofs.Placement.Coverage

/-!
# Counts are snapshots

A count lists all lobbies at one moment and reads them at later ones, and others may place lobbies
all the while. As long as nobody overwrites, what a listed lobby is stored with never changes, so
the reads find what stood there at the listing: `Tally.OnCourse` says that a count is bound to end
with the loads of that moment, growth and reads keep it so, and a count that ends has ended with
these.
-/

namespace LobbyPlacement

/-- A count that ends with these loads if it does not fail, and reads only lobbies that are stored.
Without such loads it can only fail. -/
def Tally.OnCourse (t : Table) (goal : Option (List Load)) : Tally → Prop
  | .reading census => (Tally.reading census).foreseen t = goal ∧
      t.Covers (.ok census.key :: census.rest)
  | .counted loads => some loads = goal
  | .failed _ => True

namespace Tally

theorem onCourse_grown {s t : Table} (grown : s.Extends t) {goal : Option (List Load)}
    {tally : Tally} (course : tally.OnCourse s goal) : tally.OnCourse t goal := by
  cases tally with
  | reading census =>
    obtain ⟨bound, covers⟩ := course
    exact ⟨(Table.foreseen_grown grown covers _).trans bound, Table.covers_mono grown covers⟩
  | counted loads => exact course
  | failed fault => trivial

theorem onCourse_before {t : Table} {goal : Option (List Load)} {loads : List Load}
    {listing : List (Except Fault String)} (bound : t.foreseen loads listing = goal)
    (covers : t.Covers listing) : (before loads listing).OnCourse t goal := by
  cases listing with
  | nil => exact bound
  | cons item rest =>
    cases item with
    | error fault => trivial
    | ok key => exact ⟨bound, covers⟩

theorem onCourse_value {t : Table} {goal : Option (List Load)} {census : Census}
    (course : (reading census).OnCourse t goal) :
    (census.read (.ok (t.value? census.key))).OnCourse t goal := by
  obtain ⟨bound, covers⟩ := course
  rw [← Census.foreseen_read, Census.read_value?, foreseen_before] at bound
  rw [Census.read_value?]
  exact onCourse_before bound (Table.covers_tail covers)

/-- A read keeps a count on its course, or makes it fail. -/
theorem onCourse_read {σ : Type} [Store σ] [Ledger σ] {s : σ} {goal : Option (List Load)}
    {census : Census} (course : (reading census).OnCourse (Ledger.table s) goal) :
    (census.read (Store.perform s (.get census.key)).2).OnCourse (Ledger.table s) goal := by
  have answer := Ledger.answers s (.get census.key)
  generalize (Store.perform s (.get census.key)).2 = reply at answer ⊢
  generalize Ledger.table (Store.perform s (.get census.key)).1 = later at answer
  cases answer with
  | failed => trivial
  | read => exact onCourse_value course

end Tally

namespace MemoryStore

theorem perform_get (s : MemoryStore) (key : String) : (Store.perform s (.get key)).1 = s := by
  show (s.perform (.get key)).1 = s
  cases available : s.available with
  | true =>
    rw [perform_available available, ← available]
    rfl
  | false => rw [perform_unavailable available]

/-- The loads that stand at this moment, if the store is there to tell. -/
def tallied (s : MemoryStore) (pool : Pool) : Option (List Load) :=
  if s.available then some (s.table.loadsOf pool.servers s.listed) else none

/-- A listing sets a count on its course. -/
theorem onCourse_listing (s : MemoryStore) (pool : Pool) :
    (Tally.ofListing pool.servers (Store.perform s (.scan everyKey)).2).OnCourse s.table
      (s.tallied pool) := by
  cases available : s.available with
  | false =>
    have failed : (Store.perform s (.scan everyKey)).2 = .error outage :=
      congrArg Prod.snd (perform_unavailable available (.scan everyKey))
    rw [failed]
    trivial
  | true =>
    rw [scan_eq available, tallied, if_pos available]
    refine Tally.onCourse_before (s.foreseen_listed pool) (.inr ?_)
    intro key member
    obtain ⟨named, present, same⟩ := List.mem_map.mp member
    obtain rfl := Except.ok.inj same
    exact Table.mem_keys_iff.mp (List.mem_filter.mp present).1

end MemoryStore

/-- Loads that stand in a store at one moment, and the choice between them: for every server of the
pool, in its order, the number of the lobbies listed there and then that are stored with it, and the
first with the fewest. So a count in one go would end, and so it would choose. -/
structure Snapshot (s : MemoryStore) (pool : Pool) (loads : List Load) (best : Load) : Prop where
  listing : Store.perform s (.scan everyKey) = (s, .ok (s.listed.map .ok))
  loads_eq : loads = s.table.loadsOf pool.servers s.listed
  first : best.FirstLeast loads
  count : Census.count s pool.servers = (s, .ok loads)
  choice : Census.leastLoaded s pool.servers = (s, .ok best.server)

theorem MemoryStore.snapshot {s : MemoryStore} {pool : Pool} {loads : List Load}
    (tallied : some loads = s.tallied pool) :
    ∃ best, Load.least loads = some best ∧ Snapshot s pool loads best := by
  unfold MemoryStore.tallied at tallied
  split at tallied
  next available =>
    obtain rfl := Option.some.inj tallied
    have counted := MemoryStore.count_eq available pool
    have some_load : s.table.loadsOf pool.servers s.listed ≠ [] := by
      simpa [Table.loadsOf] using pool.nonempty
    obtain ⟨best, least, first⟩ := Load.firstLeast_least some_load
    refine ⟨best, least, scan_eq available, rfl, first, counted, ?_⟩
    rw [Census.leastLoaded_eq, counted]
    simp only [Except.bind, least]
  next => cases tallied

/-- A request whose count is on its course, or that has left it behind. -/
def Progress.OnCourse (t : Table) (goal : Option (List Load)) : Progress → Prop
  | .waiting .looking => False
  | .waiting .listing => False
  | .waiting (.counting census) => (Tally.reading census).OnCourse t goal
  | _ => True

theorem Progress.onCourse_grown {s t : Table} (grown : s.Extends t) {goal : Option (List Load)}
    {p : Progress} (course : p.OnCourse s goal) : p.OnCourse t goal := by
  unfold OnCourse at course ⊢
  split
  · exact course
  · exact course
  · exact Tally.onCourse_grown grown course
  · trivial

/-- The loads of a count that has ended. -/
def Tally.loads? : Tally → Option (List Load)
  | counted loads => some loads
  | _ => none

theorem Tally.of_loads? {tally : Tally} {loads : List Load} (found : tally.loads? = some loads) :
    tally = .counted loads := by
  cases tally with
  | counted others => rw [Option.some.inj found]
  | reading census => cases found
  | failed fault => cases found

def Note.loads? : Note → Option (List Load)
  | .counted loads => some loads
  | _ => none

namespace Placement

theorem afterTally_loads? (rules : Rules) (tally : Tally) :
    (afterTally rules tally).notes.findSome? Note.loads? = tally.loads? := by
  cases tally with
  | reading census => rfl
  | failed fault => rfl
  | counted loads =>
    simp only [afterTally]
    cases Load.least loads <;> rfl

theorem onCourse_afterTally (rules : Rules) {t : Table} {goal : Option (List Load)} {tally : Tally}
    (course : tally.OnCourse t goal) : (afterTally rules tally).progress.OnCourse t goal := by
  rcases afterTally_progress rules tally with
    ⟨census, rfl, next⟩ | ⟨fault, _, next⟩ | ⟨_, load, _, _, next⟩
  · rw [next]
    exact course
  · rw [next]
    trivial
  · rw [next]
    cases rules.mode <;> trivial

end Placement

namespace Desk

variable {σ π : Type} [Store σ] [Publisher π]

/-- The tally that a request has after its next step if it is counting. -/
def tally? (d : Desk σ π) : Phase → Option Tally
  | .listing => some (.ofListing d.rules.pool.servers (Store.perform d.store (.scan everyKey)).2)
  | .counting census => some (census.read (Store.perform d.store (.get census.key)).2)
  | _ => none

/-- The loads that a request tells the counters at its next step. -/
def counted? (d : Desk σ π) (t : Ticket) : Option (List Load) :=
  (Placement.resume d.rules t.lobby t.phase
    (d.carryOut (t.phase.effect t.lobby)).2).notes.findSome? Note.loads?

/-- A request tells its loads when its count has ended, and at no other time. -/
theorem counted?_eq (d : Desk σ π) (t : Ticket) :
    d.counted? t = (d.tally? t.phase).bind Tally.loads? := by
  obtain ⟨lobby, started, phase⟩ := t
  cases phase with
  | listing => exact Placement.afterTally_loads? d.rules _
  | counting census => exact Placement.afterTally_loads? d.rules _
  | looking | claiming _ | adopting | announcing _ | overwriting _ =>
    unfold counted?
    rcases (d.carryOut _).2 with _ | _ | _ <;> rfl

theorem step_tally {d : Desk σ π} {phase : Phase} {tally : Tally}
    (counts : d.tally? phase = some tally) (lobby : String) (started : Nat) :
    (d.step ⟨lobby, started, phase⟩).2 = (Placement.afterTally d.rules tally).progress := by
  cases phase with
  | listing =>
    obtain rfl := Option.some.inj counts
    rfl
  | counting census =>
    obtain rfl := Option.some.inj counts
    rfl
  | looking | claiming _ | overwriting _ | adopting | announcing _ => cases counts

omit [Publisher π] in
theorem onCourse_tally [Ledger σ] {d : Desk σ π} {phase : Phase} {tally : Tally}
    {goal : Option (List Load)}
    (course : (Progress.waiting phase).OnCourse (Ledger.table d.store) goal)
    (counts : d.tally? phase = some tally) : tally.OnCourse (Ledger.table d.store) goal := by
  cases phase with
  | looking => exact course.elim
  | listing => exact course.elim
  | counting census =>
    obtain rfl := Option.some.inj counts
    exact Tally.onCourse_read course
  | claiming _ | overwriting _ | adopting | announcing _ => cases counts

theorem onCourse_step [Ledger σ] {d : Desk σ π} {lobby : String} {started : Nat} {phase : Phase}
    {goal : Option (List Load)}
    (course : (Progress.waiting phase).OnCourse (Ledger.table d.store) goal) :
    (d.step ⟨lobby, started, phase⟩).2.OnCourse (Ledger.table d.store) goal := by
  have moves := d.step_moves ⟨lobby, started, phase⟩
  generalize Ledger.table (d.step ⟨lobby, started, phase⟩).1.store = t at moves
  generalize (d.step ⟨lobby, started, phase⟩).2 = next at moves ⊢
  cases moves with
  | missed | listed => exact course.elim
  | counted => exact Placement.onCourse_afterTally d.rules (Tally.onCourse_value course)
  | failed | hit | claimed | refused | overwrote | adopted | vanished | announced | crashed =>
    trivial

end Desk

namespace Hall

section Run

variable {σ π : Type} [Store σ] [Ledger σ] [Publisher π]

/-- The loads that a request tells the counters at its next step. -/
def counted? (h : Hall σ π) (number : Nat) : Option (List Load) :=
  match h.seats[number]? with
  | some ⟨lobby, started, .waiting phase⟩ => h.desk.counted? ⟨lobby, started, phase⟩
  | _ => none

omit [Ledger σ] in
theorem tally_of_counted? {h : Hall σ π} {number : Nat} {lobby : String} {started : Nat}
    {p : Progress} {loads : List Load} (seated : h.seats[number]? = some ⟨lobby, started, p⟩)
    (counted : h.counted? number = some loads) :
    ∃ phase, p = .waiting phase ∧ h.desk.tally? phase = some (.counted loads) := by
  unfold counted? at counted
  rw [seated] at counted
  cases p with
  | waiting phase =>
    change h.desk.counted? ⟨lobby, started, phase⟩ = some loads at counted
    rw [Desk.counted?_eq] at counted
    obtain ⟨tally, counts, found⟩ := Option.bind_eq_some_iff.mp counted
    rw [Tally.of_loads? found] at counts
    exact ⟨phase, rfl, counts⟩
  | answered outcome => cases counted
  | crashed => cases counted

/-- Whatever happens, a request stays on the course that its listing has set. -/
theorem onCourse_run {origin : Table} {h : Hall σ π} (agreed : Agreed origin h) {number : Nat}
    {lobby : String} {started : Nat} {p : Progress} {goal : Option (List Load)}
    (seated : h.seats[number]? = some ⟨lobby, started, p⟩) (course : p.OnCourse h.table goal)
    (events : List (Event (Ledger.Weather σ))) :
    ∃ q, (h.run events).seats[number]? = some ⟨lobby, started, q⟩ ∧
      q.OnCourse (h.run events).table goal := by
  induction events generalizing h p with
  | nil => exact ⟨p, seated, course⟩
  | cons e rest ih =>
    have next : ∃ q, (h.step e).seats[number]? = some ⟨lobby, started, q⟩ ∧
        q.OnCourse h.table goal := by
      by_cases mine : e = .advance number
      · subst mine
        rcases h.advance_cases number with ⟨_, _, phase, waiting⟩ | idle
        · cases Option.some.inj (seated.symm.trans waiting)
          exact ⟨_, step_mine h seated, Desk.onCourse_step course⟩
        · refine ⟨p, ?_, course⟩
          show (h.advance number).seats[number]? = _
          rwa [idle]
      · exact ⟨p, step_others h mine seated, course⟩
    obtain ⟨q, seatedThen, courseThen⟩ := next
    exact ih (agreed_step h e agreed) seatedThen
      (Progress.onCourse_grown (agreed.extends_step e) courseThen)

end Run

variable {π : Type} [Publisher π]

/-- A count beside the requests, which reads its next key now and then between their events. -/
def survey (h : Hall MemoryStore π) :
    Tally → List (Option (Event (Ledger.Weather MemoryStore))) → Hall MemoryStore π × Tally
  | tally, [] => (h, tally)
  | tally, some e :: rest => (h.step e).survey tally rest
  | .reading census, none :: rest =>
    let (store, reply) := Store.perform h.desk.store (.get census.key)
    survey { h with desk := { h.desk with store := store } } (census.read reply) rest
  | tally, none :: rest => h.survey tally rest

theorem onCourse_survey {origin : Table} {h : Hall MemoryStore π} (agreed : Agreed origin h)
    {tally : Tally} {goal : Option (List Load)} (course : tally.OnCourse h.table goal)
    (acts : List (Option (Event (Ledger.Weather MemoryStore)))) :
    (h.survey tally acts).2.OnCourse (h.survey tally acts).1.table goal := by
  fun_induction h.survey tally acts with
  | case1 h tally => exact course
  | case2 h tally e rest ih =>
    exact ih (agreed_step h e agreed) (Tally.onCourse_grown (agreed.extends_step e) course)
  | case3 h census rest store reply replied ih =>
    have kept := h.desk.store.perform_get census.key
    have read := Tally.onCourse_read course
    rw [replied] at kept read
    obtain rfl := kept
    exact ih agreed read
  | case4 h tally rest _ ih => exact ih agreed course

/-- What a request counts, from its listing on, stays on the course that the listing has set. -/
theorem onCourse_of_listing {origin : Table} {h : Hall MemoryStore π} (agreed : Agreed origin h)
    {number : Nat} {lobby : String} {started : Nat}
    (listing : h.seats[number]? = some ⟨lobby, started, .waiting .listing⟩)
    {since : List (Event (Ledger.Weather MemoryStore))}
    (first : ∀ e ∈ since.head?, e = .advance number) :
    ∃ p, (h.run since).seats[number]? = some ⟨lobby, started, p⟩ ∧
      ∀ phase tally, p = .waiting phase → (h.run since).desk.tally? phase = some tally →
        tally.OnCourse (h.run since).table (h.desk.store.tallied h.desk.rules.pool) := by
  have listed := h.desk.store.onCourse_listing h.desk.rules.pool
  cases since with
  | nil =>
    refine ⟨_, listing, ?_⟩
    rintro _ tally ⟨⟩ counts
    obtain rfl := Option.some.inj counts
    exact listed
  | cons e rest =>
    obtain rfl := first e rfl
    have seated := step_mine h listing
    rw [Desk.step_tally (d := h.desk) rfl lobby started] at seated
    have course := Progress.onCourse_grown (agreed.extends_step (.advance number))
      (Placement.onCourse_afterTally h.desk.rules listed)
    obtain ⟨q, seatedThen, courseThen⟩ :=
      onCourse_run (agreed_step h (.advance number) agreed) seated course rest
    refine ⟨q, seatedThen, ?_⟩
    rintro phase tally rfl counts
    exact Desk.onCourse_tally courseThen counts

/-- Requests that write only where nothing is stored, at a store in memory, in any order with each
other, with lookups and with outages. From any moment on, a count that lists then, reads its keys
whenever it comes to it and does not fail ends with the loads of that moment. So do the requests:
one that lists at this moment and later tells its loads tells those of this moment, and goes on to
write the server that a count in one go would have chosen. -/
theorem counts_are_snapshots (d : Desk MemoryStore π) (mode : d.rules.mode = .createIfAbsent)
    (before : List (Event (Ledger.Weather MemoryStore))) :
    let now := (atDesk d).run before
    let pool := d.rules.pool
    (∀ acts loads, (now.survey (.ofListing pool.servers (Store.perform now.desk.store
        (.scan everyKey)).2) acts).2 = .counted loads →
      ∃ best, Snapshot now.desk.store pool loads best) ∧
    ∀ number lobby started since loads,
      now.seats[number]? = some ⟨lobby, started, .waiting .listing⟩ →
      (∀ e ∈ since.head?, e = .advance number) →
      (now.run since).counted? number = some loads →
      ∃ best, Snapshot now.desk.store pool loads best ∧
        (now.run (since ++ [.advance number])).seats[number]? =
          some ⟨lobby, started, .waiting (.claiming best.server)⟩ := by
  intro now pool
  have agreed : Agreed d.store.table now := (agreed_atDesk mode).run before
  have rules : now.desk.rules = d.rules := run_rules _ _
  refine ⟨?_, ?_⟩
  · intro acts loads counted
    have course := onCourse_survey agreed (now.desk.store.onCourse_listing pool) acts
    rw [counted] at course
    obtain ⟨best, _, snapshot⟩ := MemoryStore.snapshot course
    exact ⟨best, snapshot⟩
  · intro number lobby started since loads listing first counted
    obtain ⟨p, seated, course⟩ := onCourse_of_listing agreed listing first
    obtain ⟨phase, rfl, counts⟩ := tally_of_counted? seated counted
    have tallied := course phase _ rfl counts
    rw [rules] at tallied
    obtain ⟨best, least, snapshot⟩ := MemoryStore.snapshot tallied
    refine ⟨best, snapshot, ?_⟩
    have later : (now.run since).desk.rules = d.rules := (run_rules _ _).trans rules
    rw [run_concat, step_mine _ seated, Desk.step_tally counts lobby started, later]
    simp only [Placement.afterTally, least, Placement.writing, mode, Move.wait]

def stockedDesk : Desk MemoryStore Recorder :=
  .opening (.standard .two) ⟨.ofList [("", "A")], true⟩ .empty

/-- Two requests have missed their lobbies. -/
def twoMissed : List (Event (Ledger.Weather MemoryStore)) :=
  [.enter "L", .enter "M", .advance 0, .advance 1]

/-- The second is placed after the first has listed and before it reads. -/
def slowRead : List (Event (Ledger.Weather MemoryStore)) :=
  [.advance 0, .advance 1, .advance 1, .advance 1]

theorem overtaken_count_is_snapshot :
    let now := (atDesk stockedDesk).run twoMissed
    stockedDesk.rules.mode = .createIfAbsent ∧
      now.seats[0]? = some ⟨"L", 0, .waiting .listing⟩ ∧
      (∀ e ∈ slowRead.head?, e = .advance 0) ∧
      (now.run slowRead).counted? 0 = some [⟨"A", 1⟩, ⟨"B", 0⟩] ∧
      (now.run slowRead).table.value? "M" = some "B" ∧
      ∃ best, Snapshot now.desk.store stockedDesk.rules.pool [⟨"A", 1⟩, ⟨"B", 0⟩] best ∧
        (now.run (slowRead ++ [.advance 0])).seats[0]? =
          some ⟨"L", 0, .waiting (.claiming best.server)⟩ := by
  have listing : ((atDesk stockedDesk).run twoMissed).seats[0]? =
      some ⟨"L", 0, .waiting .listing⟩ := rfl
  have first : ∀ e ∈ slowRead.head?, e = .advance 0 := by
    rintro e ⟨⟩
    rfl
  have counted : (((atDesk stockedDesk).run twoMissed).run slowRead).counted? 0 =
      some [⟨"A", 1⟩, ⟨"B", 0⟩] := by decide +kernel
  have placed : (((atDesk stockedDesk).run twoMissed).run slowRead).table.value? "M" =
      some "B" := by decide +kernel
  exact ⟨rfl, listing, first, counted, placed,
    (counts_are_snapshots stockedDesk rfl twoMissed).2 0 "L" 0 slowRead _ listing first counted⟩

end Hall

end LobbyPlacement

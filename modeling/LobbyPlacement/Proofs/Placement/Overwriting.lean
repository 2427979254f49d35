import LobbyPlacement.Proofs.Placement.Within
import LobbyPlacement.Proofs.Placement.Replay

/-!
# What holds when writes overwrite

Requests that overwrite each other need not agree, and yet each answer is true: the server a request
names was stored for its lobby at a moment when the request was under way (`Held`). Every write is
one placement and one announcement, it goes to a server of the pool, and whoever begins after the
last write to a lobby finds just that. `overwritten_lobbies_stay_placed` says so for all runs.
-/

namespace LobbyPlacement

theorem Progress.Within.deed {pool : Pool} {p : Progress} (within : p.Within pool)
    (lobby : String) : ∀ write ∈ p.deed lobby, write.2 ∈ pool.servers := by
  unfold Progress.deed
  split
  · exact List.forall_mem_singleton.mpr within
  · exact List.forall_mem_nil _

namespace Progress

/-- The server that a request has written or answers. -/
def named : Progress → Option String
  | .waiting (.announcing server) => some server
  | .answered (.ok placed) => some placed.server
  | _ => none

theorem afterTally_named (rules : Rules) (tally : Tally) :
    (Placement.afterTally rules tally).progress.named = none := by
  rcases Placement.afterTally_progress rules tally with
    ⟨census, _, next⟩ | ⟨fault, _, next⟩ | ⟨loads, load, _, _, next⟩
  · rw [next]
    rfl
  · rw [next]
    rfl
  · rw [next]
    cases rules.mode <;> rfl

/-- What may have become of a request for a stored lobby that is not written to any more. -/
def Finds (server : String) : Progress → Prop
  | .waiting .looking => True
  | .answered (.ok placed) => placed = .found server
  | .answered (.error _) => True
  | _ => False

theorem start_finds (server lobby : String) :
    (Placement.start lobby).progress.Finds server := by
  rcases Placement.start_progress lobby with looking | ⟨_, refused⟩
  · rw [looking]
    trivial
  · rw [refused]
    trivial

end Progress

/-- A request for a stored lobby finds it at its first call, unless that fails. -/
theorem Moves.finds {σ : Type} [Store σ] [Ledger σ] {rules : Rules} {lobby server : String} {s : σ}
    {phase : Phase} {t : Table} {progress : Progress}
    (stored : (Ledger.table s).value? lobby = some server)
    (before : (Progress.waiting phase).Finds server)
    (moves : Moves rules lobby s phase t progress) : progress.Finds server := by
  obtain rfl : phase = .looking := by
    cases phase with
    | looking => rfl
    | listing | counting _ | claiming _ | overwriting _ | adopting | announcing _ =>
      exact before.elim
  cases moves with
  | failed => trivial
  | @hit found here =>
    obtain rfl : server = found := Option.some.inj (stored.symm.trans here)
    rfl
  | missed absent =>
    rw [stored] at absent
    cases absent

namespace Hall

variable {σ π : Type} [Store σ] [Ledger σ] [Publisher π]

/-! ### Answers are true at some moment -/

/-- There was a moment when this request was under way and its lobby was stored with this server. -/
def Held (h : Hall σ π) (events : List (Event (Ledger.Weather σ))) (number : Nat) (lobby : String)
    (server : String) : Prop :=
  ∃ front started phase, front <+: events ∧
    (h.run front).seats[number]? = some ⟨lobby, started, .waiting phase⟩ ∧
    (h.run front).table.value? lobby = some server

theorem Held.concat {h : Hall σ π} {events : List (Event (Ledger.Weather σ))} {number : Nat}
    {lobby server : String} (held : Held h events number lobby server)
    (e : Event (Ledger.Weather σ)) : Held h (events ++ [e]) number lobby server := by
  obtain ⟨front, started, phase, early, waiting, stored⟩ := held
  exact ⟨front, started, phase, early.trans (List.prefix_append _ _), waiting, stored⟩

theorem held_run (d : Desk σ π) (events : List (Event (Ledger.Weather σ))) (number : Nat)
    (seat : Seat) (seated : ((atDesk d).run events).seats[number]? = some seat) (server : String)
    (names : seat.progress.named = some server) :
    Held (atDesk d) events number seat.lobby server := by
  induction events using List.reverseRecOn generalizing seat server with
  | nil => simp [atDesk, run] at seated
  | append_singleton before e ih =>
    have change := ((atDesk d).run before).step_change e
    have here : (atDesk d).run (before ++ [e]) = ((atDesk d).run before).step e := run_concat ..
    rw [here] at seated
    generalize tableEq : (((atDesk d).run before).step e).table = t at change
    generalize seatsEq : (((atDesk d).run before).step e).seats = seats at change seated
    cases change with
    | idle => exact (ih seat seated server names).concat e
    | entered lobby started =>
      rcases Nat.lt_or_ge number ((atDesk d).run before).seats.length with early | late
      · rw [List.getElem?_append_left early] at seated
        exact (ih seat seated server names).concat e
      · rw [List.getElem?_append_right late] at seated
        obtain rfl := List.mem_singleton.mp (List.mem_of_getElem? seated)
        rcases Placement.start_progress lobby with looking | ⟨_, refused⟩
        · rw [looking] at names
          cases names
        · rw [refused] at names
          cases names
    | @moved mover lobby started phase _ progress old moves =>
      by_cases same : mover = number
      · subst same
        rw [List.getElem?_set_self (List.getElem?_eq_some_iff.mp old).1] at seated
        obtain rfl := Option.some.inj seated
        have written : ∀ target, progress = .waiting (.announcing target) → target = server →
            t = (Ledger.table ((atDesk d).run before).desk.store).insert lobby target →
            Held (atDesk d) (before ++ [e]) mover lobby server := by
          rintro target rfl rfl inserted
          refine ⟨before ++ [e], started, .announcing target, List.prefix_refl _, ?_, ?_⟩
          · rw [here, seatsEq]
            exact List.getElem?_set_self (List.getElem?_eq_some_iff.mp old).1
          · rw [here, tableEq, inserted, Table.value?_insert, if_pos rfl]
        cases moves with
        | hit stored =>
          obtain rfl := Option.some.inj names
          exact ⟨before, started, .looking, List.prefix_append _ _, old, stored⟩
        | adopted stored =>
          obtain rfl := Option.some.inj names
          exact ⟨before, started, .adopting, List.prefix_append _ _, old, stored⟩
        | claimed absent => exact written _ rfl (Option.some.inj names) rfl
        | overwrote => exact written _ rfl (Option.some.inj names) rfl
        | announced => exact (ih _ old server names).concat e
        | failed | missed | refused | vanished | crashed => cases names
        | listed | counted =>
          rw [Progress.afterTally_named] at names
          cases names
      · rw [List.getElem?_set_ne same] at seated
        exact (ih seat seated server names).concat e

/-! ### Writes, placements and announcements -/

def writesTo (h : Hall (Audited σ) (Watched π)) (lobby : String) : Nat :=
  h.desk.store.writes.countP fun write => write.1 = lobby

def callsFor (h : Hall (Audited σ) (Watched π)) (lobby : String) : Nat :=
  h.desk.publisher.calls.countP (announces lobby)

omit [Publisher π] in
theorem countP_deed (p : Progress) (lobby other : String) :
    (p.deed lobby).countP (fun write => write.1 = other) =
      if lobby = other then (p.deed lobby).length else 0 := by
  unfold Progress.deed
  split
  · by_cases same : lobby = other <;> simp [same]
  · simp

/-- The writes to a lobby are as many as its requests that have written, the calls that announce it
as many as those that have gone on from there. -/
structure Counted (h : Hall (Audited σ) (Watched π)) : Prop where
  writes : ∀ lobby, h.writesTo lobby = h.countOf lobby Progress.hasWritten
  calls : ∀ lobby, h.callsFor lobby = h.countOf lobby Progress.hasAnnounced

theorem counted_step {h : Hall (Audited σ) (Watched π)} (counted : Counted h)
    (e : Event (Ledger.Weather σ)) : Counted (h.step e) := by
  refine ⟨?_, ?_⟩
  · intro lobby
    have before := counted.writes lobby
    obtain ⟨new, written, _, booking⟩ := h.step_booking e
    unfold writesTo countOf at before ⊢
    rw [written, List.countP_append, before]
    generalize (h.step e).table = t at booking
    generalize (h.step e).seats = seats at booking ⊢
    cases booking with
    | idle => rfl
    | entered other started => simp [Progress.start_not_written]
    | @moved number other started phase _ progress seated moves =>
      have replaced := countP_set_add (p := fun seat : Seat =>
        seat.lobby = lobby && seat.progress.hasWritten) seated ⟨other, started, progress⟩
      have adds := moves.deed.2
      rw [countP_deed]
      dsimp only at replaced
      by_cases same : other = lobby
      · simp only [same, decide_true, Bool.true_and, if_true] at replaced adds ⊢
        rw [toNat_eq_ite, toNat_eq_ite] at adds
        omega
      · simp only [same, decide_false, Bool.false_and, Bool.false_eq_true, if_false] at replaced ⊢
        omega
  · intro lobby
    have before := counted.calls lobby
    unfold callsFor at before ⊢
    rcases h.step_calls_cases e with ⟨same, counts⟩ | ⟨a, started, _, called, counts⟩
    · rw [same, counts, before]
    · rw [called, counts, List.countP_append, before, List.countP_singleton, announces_encode]
      simp

theorem counted_run (d : Desk σ π) (events : List (Event (Ledger.Weather σ))) :
    Counted ((atDesk d.observed).run events) :=
  run_kept (P := fun h : Hall (Audited σ) (Watched π) => Counted h)
    (fun _ e counted => counted_step counted e) ⟨fun _ => rfl, fun _ => rfl⟩ events

omit [Store σ] [Ledger σ] [Publisher π] in
theorem countOf_ended {h : Hall σ π} (ended : ∀ seat ∈ h.seats, seat.isWaiting = false)
    (lobby : String) :
    h.countOf lobby Progress.hasWritten =
        h.countOf lobby Progress.isCreated + h.countOf lobby Progress.isCrashed ∧
      h.countOf lobby Progress.hasAnnounced = h.countOf lobby Progress.hasWritten := by
  have none_announces : h.countOf lobby Progress.isAnnouncing = 0 :=
    countOf_isAnnouncing_of_ended fun seat member _ => ended seat member
  refine ⟨by rw [h.countOf_hasWritten, none_announces, Nat.add_zero], ?_⟩
  refine List.countP_congr fun seat member => ?_
  have idle := ended seat member
  rcases seat with ⟨_, _, phase | outcome | _⟩
  · cases idle
  · rcases outcome with fault | placed
    · rfl
    · cases placed <;> rfl
  · rfl

/-! ### What is stored comes from the pool -/

theorem within_run (d : Desk σ π) (events : List (Event (Ledger.Weather σ))) :
    (∀ seat ∈ ((atDesk d.observed).run events).seats, seat.progress.Within d.rules.pool) ∧
      ∀ write ∈ ((atDesk d.observed).run events).desk.store.writes,
        write.2 ∈ d.rules.pool.servers := by
  induction events using List.reverseRecOn with
  | nil => simp [atDesk, run, Desk.observed]
  | append_singleton before e ih =>
    obtain ⟨seatsWithin, writesWithin⟩ := ih
    have rules : ((atDesk d.observed).run before).desk.rules = d.rules :=
      run_rules (atDesk d.observed) before
    rw [run_concat]
    generalize (atDesk d.observed).run before = h at seatsWithin writesWithin rules ⊢
    obtain ⟨new, written, _, booking⟩ := h.step_booking e
    rw [written]
    generalize (h.step e).table = t at booking
    generalize (h.step e).seats = seats at booking ⊢
    cases booking with
    | idle =>
      rw [List.append_nil]
      exact ⟨seatsWithin, writesWithin⟩
    | entered lobby started =>
      rw [List.append_nil]
      refine ⟨?_, writesWithin⟩
      intro seat member
      rcases List.mem_append.mp member with early | late
      · exact seatsWithin seat early
      · obtain rfl := List.mem_singleton.mp late
        exact Progress.start_within _ lobby
    | moved seated moves =>
      rw [rules] at moves
      have old := seatsWithin _ (List.mem_of_getElem? seated)
      obtain ⟨reply, rfl⟩ := moves.exists_reply
      have inside := Phase.resume_within old reply
      constructor
      · intro seat member
        rcases List.mem_or_eq_of_mem_set member with early | rfl
        · exact seatsWithin seat early
        · exact inside
      · intro write member
        rcases List.mem_append.mp member with early | late
        · exact writesWithin write early
        · exact inside.deed _ write late

/-! ### After the last write -/

theorem glances_step (h : Hall σ π) (e : Event (Ledger.Weather σ)) :
    (h.step e).glances = h.glances ∨
      ∃ lobby, (h.step e).glances = h.glances ++ [(lobby, (h.desk.lookup lobby).2)] := by
  cases e with
  | glance lobby => exact .inr ⟨lobby, rfl⟩
  | advance number =>
    refine .inl ?_
    show (h.advance number).glances = h.glances
    rcases h.advance_cases number with ⟨_, _, _, seated⟩ | same
    · rw [advance_eq seated]
    · rw [same]
  | enter lobby => exact .inl rfl
  | weather w => exact .inl rfl
  | elapse ms => exact .inl rfl

/-- A lobby that is stored when some requests are at the desk, and not written to from then on: the
requests for it that begin later, and the later lookups, find the stored server. -/
theorem finds_run {h : Hall (Audited σ) (Watched π)} {lobby server : String}
    (stored : h.table.value? lobby = some server) (events : List (Event (Ledger.Weather σ)))
    (unwritten : (h.run events).writesTo lobby = h.writesTo lobby) :
    (h.run events).table.value? lobby = some server ∧
      (∀ number seat, h.seats.length ≤ number → (h.run events).seats[number]? = some seat →
        seat.lobby = lobby → seat.progress.Finds server) ∧
      ∀ number found, h.glances.length ≤ number →
        (h.run events).glances[number]? = some (lobby, .ok found) → found = some server := by
  induction events using List.reverseRecOn with
  | nil =>
    refine ⟨stored, ?_, ?_⟩
    · intro number seat late seated
      have early := (List.getElem?_eq_some_iff.mp seated).1
      exact (Nat.not_lt_of_le late early).elim
    · intro number found late glanced
      have early := (List.getElem?_eq_some_iff.mp glanced).1
      exact (Nat.not_lt_of_le late early).elim
  | append_singleton before e ih =>
    obtain ⟨earlier, written, _, _⟩ := h.run_booked before
    obtain ⟨new, writtenNow, _, booking⟩ := (h.run before).step_booking e
    have change := (h.run before).step_change e
    rw [run_concat] at unwritten ⊢
    unfold writesTo at unwritten
    rw [writtenNow, written, List.countP_append, List.countP_append] at unwritten
    obtain ⟨storedNow, finds, glanced⟩ := ih (by
      unfold writesTo
      rw [written, List.countP_append]
      omega)
    have silent : new.countP (fun write => write.1 = lobby) = 0 := by omega
    have storedThen : ((h.run before).step e).table.value? lobby = some server := by
      have unlisted : Table.lastWritten new lobby = none := by
        cases last : Table.lastWritten new lobby with
        | none => rfl
        | some target =>
          have never := List.countP_eq_zero.mp silent _ (Table.lastWritten_mem last)
          simp at never
      rw [booking.replay, Table.value?_replay, unlisted, storedNow, Option.none_or]
    refine ⟨storedThen, ?_, ?_⟩
    · generalize ((h.run before).step e).table = t at change
      generalize ((h.run before).step e).seats = seats at change ⊢
      intro number seat late seated same
      cases change with
      | idle => exact finds number seat late seated same
      | entered other started =>
        rcases Nat.lt_or_ge number (h.run before).seats.length with early | last
        · rw [List.getElem?_append_left early] at seated
          exact finds number seat late seated same
        · rw [List.getElem?_append_right last] at seated
          obtain rfl := List.mem_singleton.mp (List.mem_of_getElem? seated)
          exact Progress.start_finds server other
      | @moved mover other started phase _ progress old moves =>
        by_cases mine : mover = number
        · subst mine
          rw [List.getElem?_set_self (List.getElem?_eq_some_iff.mp old).1] at seated
          obtain rfl := Option.some.inj seated
          obtain rfl : other = lobby := same
          exact moves.finds storedNow (finds mover _ late old rfl)
        · rw [List.getElem?_set_ne mine] at seated
          exact finds number seat late seated same
    · intro number found late here
      rcases (h.run before).glances_step e with same | ⟨other, added⟩
      · rw [same] at here
        exact glanced number found late here
      · rw [added] at here
        rcases Nat.lt_or_ge number (h.run before).glances.length with early | last
        · rw [List.getElem?_append_left early] at here
          exact glanced number found late here
        · rw [List.getElem?_append_right last] at here
          obtain ⟨rfl, answer⟩ := Prod.mk.inj (List.mem_singleton.mp (List.mem_of_getElem? here))
          have read := ((h.run before).desk.lookup_answer lobby).2.2 found answer.symm
          exact read.symm.trans storedNow

/-- Requests in either mode, so also such as overwrite each other, in any order, with lookups, with
faults of the store and before any publisher. A lobby that is stored stays so. The server of every
answer was stored for its lobby at some moment while the request was under way. When no request is
under way, the writes to a lobby are as many as the calls that announce it, and as the requests that
were answered with a new placement of it or were lost with the publisher behind their write. What is
stored was stored at the start or is a server of the pool. And as long as nothing is written to a
lobby after a last write, the requests and lookups for it that begin then find just what was written
last. -/
theorem overwritten_answers_were_stored (d : Desk σ π)
    (before after : List (Event (Ledger.Weather σ))) :
    let now := (atDesk d.observed).run before
    let later := now.run after
    now.plain = (atDesk d).run before ∧
    (∀ lobby, (now.table.value? lobby).isSome → (later.table.value? lobby).isSome) ∧
    (∀ number (seat : Seat) placed, now.seats[number]? = some seat →
      seat.progress = .answered (.ok placed) →
      Held (atDesk d) before number seat.lobby placed.server) ∧
    ((∀ seat ∈ now.seats, seat.isWaiting = false) → ∀ lobby,
      now.writesTo lobby =
          now.countOf lobby Progress.isCreated + now.countOf lobby Progress.isCrashed ∧
        now.callsFor lobby = now.writesTo lobby) ∧
    (∀ lobby server, now.table.value? lobby = some server →
      (Ledger.table d.store).value? lobby = some server ∨ server ∈ d.rules.pool.servers) ∧
    ∀ lobby server, Table.lastWritten now.desk.store.writes lobby = some server →
      later.writesTo lobby = now.writesTo lobby →
      (∀ number (seat : Seat) placed, now.seats.length ≤ number →
        later.seats[number]? = some seat → seat.lobby = lobby →
        seat.progress = .answered (.ok placed) → placed = .found server) ∧
      ∀ number found, now.glances.length ≤ number →
        later.glances[number]? = some (lobby, .ok found) → found = some server := by
  intro now later
  have plain : now.plain = (atDesk d).run before := plain_run (atDesk d.observed) before
  obtain ⟨writes, written, _, replayed⟩ := (atDesk d.observed).run_booked before
  obtain ⟨new, _, _, replayedLater⟩ := now.run_booked after
  obtain rfl : writes = now.desk.store.writes := written.symm
  refine ⟨plain, ?_, ?_, ?_, ?_, ?_⟩
  · intro lobby stored
    have kept : ((now.table.replay new).value? lobby).isSome := Table.isSome_replay stored new
    rwa [← replayedLater] at kept
  · intro number seat placed seated answered
    have same : ((atDesk d).run before).seats = now.seats := congrArg Hall.seats plain.symm
    refine held_run d before number seat (by rw [same]; exact seated) placed.server ?_
    rw [answered]
    rfl
  · intro ended lobby
    obtain ⟨writesCounted, callsCounted⟩ := counted_run d before
    obtain ⟨parts, announced⟩ := countOf_ended ended lobby
    have writes := writesCounted lobby
    have calls := callsCounted lobby
    exact ⟨writes.trans parts, (calls.trans announced).trans writes.symm⟩
  · intro lobby server stored
    have found : ((Ledger.table d.store).replay now.desk.store.writes).value? lobby =
        some server := by
      rw [← stored]
      exact congrArg (fun t => t.value? lobby) replayed.symm
    rw [Table.value?_replay] at found
    rcases Option.or_eq_some_iff.mp found with last | ⟨_, first⟩
    · exact .inr ((within_run d before).2 _ (Table.lastWritten_mem last))
    · exact .inl first
  · intro lobby server last unwritten
    have stored : now.table.value? lobby = some server := by
      have found : ((Ledger.table d.store).replay now.desk.store.writes).value? lobby =
          some server := by
        rw [Table.value?_replay, last, Option.some_or]
      rw [← found]
      exact congrArg (fun t => t.value? lobby) replayed
    obtain ⟨_, finds, glanced⟩ := finds_run stored after unwritten
    refine ⟨?_, glanced⟩
    intro number seat placed late seated same answered
    have found := finds number seat late seated same
    rw [answered] at found
    exact found

/-- Rules of a desk whose requests overwrite. -/
def overwritingRules : Rules := { Rules.standard .two with mode := .lastWriteWins }

def overwritingDesk : Desk MemoryStore Recorder :=
  .opening overwritingRules ⟨.ofList [("", "A")], true⟩ .empty

/-- A request for a lobby that has counted is overtaken by two others, the second for the same
lobby, and only then writes. -/
def overtaken : List (Event (Ledger.Weather MemoryStore)) :=
  [.enter "L", .advance 0, .advance 0, .advance 0,
    .enter "*", .advance 1, .advance 1, .advance 1, .advance 1, .advance 1,
    .enter "L", .advance 2, .advance 2, .advance 2, .advance 2, .advance 2, .advance 2,
    .advance 0, .advance 0]

/-- Two requests place one lobby on different servers; both servers were stored, both are announced,
and who comes later finds the one that was written last. -/
theorem overtaken_request_overwrites :
    (∀ seat ∈ ((atDesk overwritingDesk.observed).run overtaken).seats,
        seat.isWaiting = false) ∧
      ((atDesk overwritingDesk.observed).run overtaken).desk.store.writes =
        [("*", "B"), ("L", "A"), ("L", "B")] ∧
      ((atDesk overwritingDesk.observed).run overtaken).writesTo "L" =
        ((atDesk overwritingDesk.observed).run overtaken).countOf "L" Progress.isCreated +
          ((atDesk overwritingDesk.observed).run overtaken).countOf "L" Progress.isCrashed ∧
      ((atDesk overwritingDesk.observed).run overtaken).callsFor "L" = 2 ∧
      Held (atDesk overwritingDesk) overtaken 2 "L" "A" ∧
      ∀ placed, ((((atDesk overwritingDesk.observed).run overtaken).run
          [.enter "L", .advance 3]).seats[3]?).map Seat.progress =
            some (.answered (.ok placed)) → placed = .found "B" := by
  have ended : ∀ seat ∈ ((atDesk overwritingDesk.observed).run overtaken).seats,
      seat.isWaiting = false := by decide +kernel
  have writes : ((atDesk overwritingDesk.observed).run overtaken).desk.store.writes =
      [("*", "B"), ("L", "A"), ("L", "B")] := by decide +kernel
  obtain ⟨_, _, held, counts, _, finds⟩ :=
    overwritten_answers_were_stored overwritingDesk overtaken [.enter "L", .advance 3]
  obtain ⟨placements, calls⟩ := counts ended "L"
  refine ⟨ended, writes, placements, ?_, ?_, ?_⟩
  · rw [calls]
    decide +kernel
  · exact held 2 ⟨"L", 0, .answered (.ok (.created "A"))⟩ (.created "A") rfl rfl
  · intro placed answered
    obtain ⟨seat, seated, progress⟩ := Option.map_eq_some_iff.mp answered
    obtain ⟨later, _⟩ := finds "L" "B" (by rw [writes]; decide) (by decide +kernel)
    have lobby : seat.lobby = "L" := by
      have named : (((((atDesk overwritingDesk.observed).run overtaken).run
          [.enter "L", .advance 3]).seats[3]?).map Seat.lobby) = some "L" := by decide +kernel
      rw [seated] at named
      exact Option.some.inj named
    exact later 3 seat placed (by decide +kernel) seated lobby progress

def overwritingCrashDesk : Desk MemoryStore Bus :=
  .opening overwritingRules .empty (.ofCapacity Bus.capacityBound)

/-- A request whose announcement crashes has written its lobby, but is never answered. -/
theorem crash_leaves_write_unanswered :
    ¬ ∀ (d : Desk MemoryStore Bus) (events : List (Event (Ledger.Weather MemoryStore)))
        (lobby : String), d.rules.mode = .lastWriteWins →
      (∀ seat ∈ ((atDesk d.observed).run events).seats, seat.isWaiting = false) →
      ((atDesk d.observed).run events).writesTo lobby =
        ((atDesk d.observed).run events).countOf lobby Progress.isCreated := by
  intro claim
  have counted := claim overwritingCrashDesk
    [.enter "L", .advance 0, .advance 0, .advance 0, .advance 0] "L" rfl (by decide +kernel)
  exact absurd counted (by decide +kernel)

end Hall

end LobbyPlacement

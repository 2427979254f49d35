import LobbyPlacement.Proofs.Placement.Announcing

/-!
# The table is what the books say

A store that books its writes holds, at every moment, its first table with the booked writes made
over it in their order. `Hall.step_booking` says this for one event, together with what the event
does to the requests: only a request that comes to stand in front of its announcement has written,
and it has written just what it will announce. The counter of placements counts these writes.
-/

namespace LobbyPlacement

namespace Table

/-- The table after some more writes. -/
def replay (t : Table) (writes : List (String × String)) : Table :=
  writes.foldl (fun t write => t.insert write.1 write.2) t

@[simp]
theorem replay_nil (t : Table) : t.replay [] = t := rfl

theorem replay_append (t : Table) (first second : List (String × String)) :
    t.replay (first ++ second) = (t.replay first).replay second :=
  List.foldl_append

@[simp]
theorem replay_concat (t : Table) (writes : List (String × String)) (lobby server : String) :
    t.replay (writes ++ [(lobby, server)]) = (t.replay writes).insert lobby server :=
  replay_append t writes [(lobby, server)]

/-- The server that was written last for a lobby. -/
def lastWritten (writes : List (String × String)) (lobby : String) : Option String :=
  writes.reverse.lookup lobby

/-- A lobby is stored with the server that was written last, and as before if none was. -/
theorem value?_replay (t : Table) (writes : List (String × String)) (lobby : String) :
    (t.replay writes).value? lobby = (lastWritten writes lobby).or (t.value? lobby) := by
  induction writes using List.reverseRecOn with
  | nil => rfl
  | append_singleton writes write ih =>
    obtain ⟨key, value⟩ := write
    rw [replay_concat, value?_insert, ih]
    unfold lastWritten
    rw [List.reverse_concat, List.lookup_cons]
    by_cases same : lobby = key
    · simp [same]
    · simp [same, beq_false_of_ne same]

theorem isSome_replay {t : Table} {lobby : String} (stored : (t.value? lobby).isSome)
    (writes : List (String × String)) : ((t.replay writes).value? lobby).isSome := by
  rw [value?_replay, Option.isSome_or, stored, Bool.or_true]

theorem lastWritten_mem {writes : List (String × String)} {lobby server : String}
    (last : lastWritten writes lobby = some server) : (lobby, server) ∈ writes := by
  obtain ⟨before, after, split, _⟩ := List.lookup_eq_some_iff.mp last
  have member : (lobby, server) ∈ writes.reverse := by
    rw [split]
    exact List.mem_append_right before List.mem_cons_self
  exact List.mem_reverse.mp member

end Table

namespace Progress

/-- The write that a request has just made when it comes to stand here. -/
def deed (lobby : String) : Progress → List (String × String)
  | .waiting (.announcing server) => [(lobby, server)]
  | _ => []

theorem deed_of_not_written {p : Progress} (unwritten : p.hasWritten = false) (lobby : String) :
    p.deed lobby = [] := by
  unfold deed
  split
  · cases unwritten
  · rfl

end Progress

/-- A request that has come to announce a server, or to answer it as new, is in the book. -/
def Progress.Booked (writes : List (String × String)) (lobby : String) : Progress → Prop
  | .waiting (.announcing server) => (lobby, server) ∈ writes
  | .answered (.ok (.created server)) => (lobby, server) ∈ writes
  | _ => True

theorem Progress.booked_mono {writes : List (String × String)} {lobby : String} {p : Progress}
    (booked : p.Booked writes lobby) (new : List (String × String)) :
    p.Booked (writes ++ new) lobby := by
  unfold Booked at booked ⊢
  split
  · exact List.mem_append_left new booked
  · exact List.mem_append_left new booked
  · trivial

theorem Progress.booked_of_not_written {p : Progress} (unwritten : p.hasWritten = false)
    (writes : List (String × String)) (lobby : String) : p.Booked writes lobby := by
  unfold Booked
  split
  · cases unwritten
  · cases unwritten
  · trivial

/-- A move writes what its request has done, and only a request that had not written may write. -/
theorem Moves.deed {σ : Type} [Store σ] [Ledger σ] {rules : Rules} {lobby : String} {s : σ}
    {phase : Phase} {t : Table} {progress : Progress}
    (moves : Moves rules lobby s phase t progress) :
    t = (Ledger.table s).replay (progress.deed lobby) ∧
      (progress.deed lobby).length + (Progress.waiting phase).hasWritten.toNat =
        progress.hasWritten.toNat := by
  cases moves with
  | failed asked failing =>
    have unwritten : (Progress.waiting phase).hasWritten = false := by
      cases phase with
      | announcing server => cases asked
      | looking | listing | counting _ | claiming _ | overwriting _ | adopting => rfl
    rw [unwritten]
    exact ⟨rfl, rfl⟩
  | @listed listing answered =>
    have unwritten := Progress.afterTally_not_written rules
      (.before (Load.zero rules.pool.servers) listing)
    rw [Progress.deed_of_not_written unwritten, unwritten]
    exact ⟨rfl, rfl⟩
  | @counted census =>
    have unwritten := Progress.afterTally_not_written rules
      (census.read (.ok ((Ledger.table s).value? census.key)))
    rw [Progress.deed_of_not_written unwritten, unwritten]
    exact ⟨rfl, rfl⟩
  | hit | missed | claimed | refused | overwrote | adopted | vanished | announced | crashed =>
    exact ⟨rfl, rfl⟩

theorem Moves.booked {σ : Type} [Store σ] [Ledger σ] {rules : Rules} {lobby : String} {s : σ}
    {phase : Phase} {t : Table} {progress : Progress} {writes : List (String × String)}
    (before : (Progress.waiting phase).Booked writes lobby)
    (moves : Moves rules lobby s phase t progress) :
    progress.Booked (writes ++ progress.deed lobby) lobby := by
  cases moves with
  | claimed | overwrote => exact List.mem_append_right _ List.mem_cons_self
  | announced => exact List.mem_append_left _ before
  | listed | counted =>
    exact Progress.booked_of_not_written (Progress.afterTally_not_written rules _) _ _
  | failed | hit | missed | refused | adopted | vanished | crashed => trivial

/-- The entry that one move leaves in the book of writes. -/
theorem Shown.deed {channel lobby : String} {phase : Phase} {writes : List (String × String)}
    {calls : List (String × Text.Utf8.Bytes)} {progress : Progress}
    (shown : Shown channel lobby phase (Act.ofBooks writes calls) progress) :
    writes = progress.deed lobby := by
  generalize booked : Act.ofBooks writes calls = acts at shown
  unfold Act.ofBooks at booked
  cases shown with
  | nothing before after =>
    obtain ⟨none_written, _⟩ := List.append_eq_nil_iff.mp booked
    rw [List.map_eq_nil_iff.mp none_written, Progress.deed_of_not_written after]
  | write before =>
    rcases writes with _ | ⟨write, rest⟩
    · cases calls <;> simp at booked
    · simp only [List.map_cons, List.cons_append, List.cons.injEq, Act.wrote.injEq,
        List.append_eq_nil_iff, List.map_eq_nil_iff] at booked
      obtain ⟨⟨lobby_eq, server_eq⟩, rfl, _⟩ := booked
      rw [← lobby_eq, ← server_eq]
      rfl
  | announcement ended =>
    rcases writes with _ | ⟨write, rest⟩
    · rcases ended with rfl | rfl <;> rfl
    · simp at booked

/-! ### The counter of placements -/

def Note.isCreated : Note → Bool
  | .created _ => true
  | _ => false

theorem Stats.record_created (s : Stats) (note : Note) :
    (s.record note).created = s.created + note.isCreated.toNat := by
  cases note with
  | announced confirmed => cases confirmed <;> rfl
  | answered ending => cases ending <;> rfl
  | found | adopted | counted _ | created _ => rfl

theorem Placement.created_start (lobby : String) :
    (start lobby).notes.countP Note.isCreated = 0 := by
  unfold start
  cases checkLobby lobby <;> rfl

/-- A request tells the counters of a placement when it has written, and at no other time. -/
theorem Placement.created_resume (rules : Rules) (lobby : String) (phase : Phase)
    (reply : (phase.effect lobby).Reply) :
    (resume rules lobby phase reply).notes.countP Note.isCreated =
      ((resume rules lobby phase reply).progress.deed lobby).length := by
  have tallied : ∀ tally, (afterTally rules tally).notes.countP Note.isCreated =
      ((afterTally rules tally).progress.deed lobby).length := by
    intro tally
    rw [Progress.deed_of_not_written (Progress.afterTally_not_written rules tally)]
    cases tally with
    | reading census => rfl
    | failed fault => rfl
    | counted loads =>
      simp only [afterTally]
      cases Load.least loads <;> rfl
  cases phase with
  | looking => rcases reply with _ | _ | _ <;> rfl
  | listing => exact tallied _
  | counting census => exact tallied _
  | claiming server => rcases reply with _ | _ | _ <;> rfl
  | overwriting server => rcases reply with _ | _ <;> rfl
  | adopting => rcases reply with _ | _ | _ <;> rfl
  | announcing server => cases reply <;> rfl

namespace Desk

variable {σ π : Type}

/-- A counter that grows by one with certain notes grows by their number. -/
theorem recordAll_counter {counter : Stats → Nat} {counted : Note → Bool}
    (each : ∀ s note, counter (s.record note) = counter s + (counted note).toNat) (d : Desk σ π)
    (started : Nat) (notes : List Note) :
    counter (d.recordAll started notes).stats = counter d.stats + notes.countP counted := by
  unfold recordAll
  induction notes generalizing d with
  | nil => rfl
  | cons note rest ih =>
    rw [List.foldl_cons, ih, List.countP_cons]
    have first : counter (d.record started note).stats = counter d.stats + (counted note).toNat :=
      each d.stats note
    rw [first, toNat_eq_ite]
    omega

theorem recordAll_created (d : Desk σ π) (started : Nat) (notes : List Note) :
    (d.recordAll started notes).stats.created =
      d.stats.created + notes.countP Note.isCreated :=
  recordAll_counter Stats.record_created d started notes

theorem announce_stats [Publisher π] (d : Desk σ π) (a : Announcement) :
    (d.announce a).1.stats = d.stats := by
  rw [announce_eq]

variable [Store σ] [Publisher π]

theorem carryOut_stats (d : Desk σ π) (e : Effect) : (d.carryOut e).1.stats = d.stats := by
  cases e with
  | store call => rfl
  | announce a => exact announce_stats d a

theorem carryOut_metrics (d : Desk σ π) (e : Effect) :
    (d.carryOut e).1.metrics = d.metrics := by
  cases e with
  | store call => rfl
  | announce a =>
    simp only [carryOut]
    rw [announce_eq]

theorem step_created (d : Desk σ π) (t : Ticket) :
    (d.step t).1.stats.created = d.stats.created + ((d.step t).2.deed t.lobby).length := by
  simp only [step, recordAll_created, carryOut_stats]
  rw [Placement.created_resume]

theorem step_writes (d : Desk (Audited σ) (Watched π)) (t : Ticket) :
    (d.step t).1.store.writes = d.store.writes ++ (d.step t).2.deed t.lobby := by
  obtain ⟨written, called⟩ := step_books d t
  have shown := step_shown d t
  rw [seen_eq written called] at shown
  rw [written, shown.deed]

end Desk

namespace Hall

variable {σ π : Type} [Store σ] [Ledger σ] [Publisher π]

/-- What one event adds to the book of writes, and what it makes of the table and the requests. -/
inductive Booking (h : Hall (Audited σ) (Watched π)) :
    List (String × String) → Table → List Seat → Prop
  | idle : Booking h [] h.table h.seats
  | entered (lobby : String) (started : Nat) :
      Booking h [] h.table (h.seats ++ [⟨lobby, started, (Placement.start lobby).progress⟩])
  | moved {number : Nat} {lobby : String} {started : Nat} {phase : Phase} {t : Table}
      {progress : Progress} (seated : h.seats[number]? = some ⟨lobby, started, .waiting phase⟩)
      (moves : Moves h.desk.rules lobby h.desk.store phase t progress) :
      Booking h (progress.deed lobby) t (h.seats.set number ⟨lobby, started, progress⟩)

/-- An event adds to the books what its request has done, and to the counter as many placements. -/
theorem step_booking (h : Hall (Audited σ) (Watched π)) (e : Event (Ledger.Weather σ)) :
    ∃ new, (h.step e).desk.store.writes = h.desk.store.writes ++ new ∧
      (h.step e).desk.stats.created = h.desk.stats.created + new.length ∧
      Booking h new (h.step e).table (h.step e).seats := by
  have idle : ∀ g : Hall (Audited σ) (Watched π), g.desk.store.writes = h.desk.store.writes →
      g.desk.stats.created = h.desk.stats.created → g.table = h.table → g.seats = h.seats →
      ∃ new, g.desk.store.writes = h.desk.store.writes ++ new ∧
        g.desk.stats.created = h.desk.stats.created + new.length ∧
        Booking h new g.table g.seats := by
    intro g written counted kept unmoved
    refine ⟨[], written.trans (List.append_nil _).symm, counted, ?_⟩
    rw [kept, unmoved]
    exact .idle
  cases e with
  | enter lobby =>
    refine ⟨[], ?_, ?_, ?_⟩
    · rw [(h.step_quiet (e := .enter lobby) fun _ same => by cases same).1, List.append_nil]
    · have counted := Desk.recordAll_created h.desk h.desk.now (Placement.start lobby).notes
      rw [Placement.created_start] at counted
      exact counted
    · have kept : (h.step (.enter lobby)).table = h.table :=
        congrArg Ledger.table (Desk.recordAll_store ..)
      rw [kept]
      exact .entered lobby h.desk.now
  | advance number =>
    show ∃ new, (h.advance number).desk.store.writes = _ ∧
      (h.advance number).desk.stats.created = _ ∧
      Booking h new (h.advance number).table (h.advance number).seats
    rcases h.advance_cases number with ⟨lobby, started, phase, seated⟩ | same
    · rw [advance_eq seated]
      exact ⟨_, h.desk.step_writes _, h.desk.step_created _,
        .moved seated (h.desk.step_moves ⟨lobby, started, phase⟩)⟩
    · rw [same]
      exact idle h rfl rfl rfl rfl
  | glance lobby =>
    have quiet := (h.step_quiet (e := .glance lobby) fun _ same => by cases same).1
    have kept : (h.step (.glance lobby)).table = h.table := (h.desk.lookup_answer lobby).2.1
    have counted : (h.step (.glance lobby)).desk.stats.created = h.desk.stats.created := by
      show (h.desk.lookup lobby).1.stats.created = _
      unfold Desk.lookup
      cases Placement.checkLobby lobby <;> rfl
    exact idle _ quiet counted kept rfl
  | weather w => exact idle _ rfl rfl (Ledger.table_weather ..) rfl
  | elapse ms => exact idle _ rfl rfl rfl rfl

omit [Publisher π] in
theorem Booking.replay {h : Hall (Audited σ) (Watched π)} {new : List (String × String)}
    {t : Table} {seats : List Seat} (booking : Booking h new t seats) :
    t = h.table.replay new := by
  cases booking with
  | idle | entered => rfl
  | moved seated moves => exact moves.deed.1

/-- In a run the table takes the writes that are added to the book meanwhile, and the counter of
placements grows by their number. -/
theorem run_booked (h : Hall (Audited σ) (Watched π)) (events : List (Event (Ledger.Weather σ))) :
    ∃ new, (h.run events).desk.store.writes = h.desk.store.writes ++ new ∧
      (h.run events).desk.stats.created = h.desk.stats.created + new.length ∧
      (h.run events).table = h.table.replay new := by
  refine run_kept (P := fun g : Hall (Audited σ) (Watched π) =>
    ∃ new, g.desk.store.writes = h.desk.store.writes ++ new ∧
      g.desk.stats.created = h.desk.stats.created + new.length ∧
      g.table = h.table.replay new) ?_ ⟨[], (List.append_nil _).symm, rfl, rfl⟩ events
  rintro g e ⟨earlier, written, counted, replayed⟩
  obtain ⟨new, writtenNow, countedNow, booking⟩ := g.step_booking e
  refine ⟨earlier ++ new, ?_, ?_, ?_⟩
  · rw [writtenNow, written, List.append_assoc]
  · rw [countedNow, counted, List.length_append, Nat.add_assoc]
  · rw [booking.replay, replayed, Table.replay_append]

theorem booked_run (d : Desk σ π) (events : List (Event (Ledger.Weather σ))) :
    ∀ seat ∈ ((atDesk d.observed).run events).seats,
      seat.progress.Booked ((atDesk d.observed).run events).desk.store.writes seat.lobby := by
  refine run_kept (P := fun h : Hall (Audited σ) (Watched π) =>
    ∀ seat ∈ h.seats, seat.progress.Booked h.desk.store.writes seat.lobby)
    ?_ (by simp [atDesk]) events
  intro h e booked
  obtain ⟨new, written, _, booking⟩ := h.step_booking e
  rw [written]
  generalize (h.step e).table = t at booking
  generalize (h.step e).seats = seats at booking ⊢
  cases booking with
  | idle => exact fun seat member => Progress.booked_mono (booked seat member) []
  | entered lobby started =>
    intro seat member
    rcases List.mem_append.mp member with early | late
    · exact Progress.booked_mono (booked seat early) []
    · obtain rfl := List.mem_singleton.mp late
      exact Progress.booked_of_not_written (Progress.start_not_written lobby) _ lobby
  | moved seated moves =>
    intro seat member
    rcases List.mem_or_eq_of_mem_set member with early | rfl
    · exact Progress.booked_mono (booked seat early) _
    · exact moves.booked (booked _ (List.mem_of_getElem? seated))

end Hall

end LobbyPlacement

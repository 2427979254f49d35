import LobbyPlacement.Bus
import LobbyPlacement.Proofs.Placement.Outage
import LobbyPlacement.Recorder

/-!
# All answers for a lobby agree

Requests that write only where nothing is stored never overwrite each other. `Agreed` is what all
of them rely on: whoever knows a server for a lobby knows the stored one, and every lobby that came
to be stored was written by exactly one request. `settled_lobbies_agree` follows for all runs.
-/

namespace LobbyPlacement

namespace Progress

/-- The request has made its write. -/
def hasWritten : Progress → Bool
  | .waiting (.announcing _) => true
  | .answered (.ok (.created _)) => true
  | .crashed => true
  | _ => false

def isCreated : Progress → Bool
  | .answered (.ok (.created _)) => true
  | _ => false

def isCrashed : Progress → Bool
  | .crashed => true
  | _ => false

def isAnnouncing : Progress → Bool
  | .waiting (.announcing _) => true
  | _ => false

/-- What a request that never overwrites knows about the stored server of its lobby. -/
def AgreesWith (t : Table) (lobby : String) : Progress → Prop
  | .waiting (.announcing server) => t.value? lobby = some server
  | .waiting (.overwriting _) => False
  | .waiting .adopting => (t.value? lobby).isSome
  | .answered (.ok placed) => t.value? lobby = some placed.server
  | .crashed => (t.value? lobby).isSome
  | _ => True

theorem agreesWith_mono {s t : Table} (grown : s.Extends t) {lobby : String} {p : Progress}
    (agrees : p.AgreesWith s lobby) : p.AgreesWith t lobby := by
  have kept : (s.value? lobby).isSome → (t.value? lobby).isSome := by
    intro stored
    obtain ⟨server, found⟩ := Option.isSome_iff_exists.mp stored
    simp [grown lobby server found]
  cases p with
  | waiting phase =>
    cases phase with
    | announcing server => exact grown lobby server agrees
    | adopting => exact kept agrees
    | overwriting server => exact agrees
    | looking | listing | counting _ | claiming _ => trivial
  | answered outcome =>
    cases outcome with
    | ok placed => exact grown lobby placed.server agrees
    | error fault => trivial
  | crashed => exact kept agrees

theorem start_not_written (lobby : String) :
    (Placement.start lobby).progress.hasWritten = false := by
  rcases Placement.start_progress lobby with looking | ⟨_, refused⟩
  · rw [looking]
    rfl
  · rw [refused]
    rfl

theorem start_agreesWith (t : Table) (lobby : String) :
    (Placement.start lobby).progress.AgreesWith t lobby := by
  rcases Placement.start_progress lobby with looking | ⟨_, refused⟩
  · rw [looking]
    trivial
  · rw [refused]
    trivial

theorem afterTally_not_written (rules : Rules) (tally : Tally) :
    (Placement.afterTally rules tally).progress.hasWritten = false := by
  rcases Placement.afterTally_progress rules tally with
    ⟨census, _, next⟩ | ⟨fault, _, next⟩ | ⟨loads, load, _, _, next⟩
  · rw [next]
    rfl
  · rw [next]
    rfl
  · rw [next]
    cases rules.mode <;> rfl

theorem afterTally_agreesWith {rules : Rules} (mode : rules.mode = .createIfAbsent) (t : Table)
    (lobby : String) (tally : Tally) :
    (Placement.afterTally rules tally).progress.AgreesWith t lobby := by
  rcases Placement.afterTally_progress rules tally with
    ⟨census, _, next⟩ | ⟨fault, _, next⟩ | ⟨loads, load, _, _, next⟩
  · rw [next]
    trivial
  · rw [next]
    trivial
  · rw [next, mode]
    trivial

end Progress

namespace Table

/-- One for a stored lobby, none for another. -/
def mark (t : Table) (lobby : String) : Nat := if (t.value? lobby).isSome then 1 else 0

theorem mark_insert (t : Table) (key value lobby : String) :
    (t.insert key value).mark lobby = if lobby = key then 1 else t.mark lobby := by
  unfold mark
  rw [value?_insert]
  split <;> simp

theorem mark_le_one (t : Table) (lobby : String) : t.mark lobby ≤ 1 := by
  unfold mark
  split <;> simp

end Table

/-- Every move of a request that never overwrites lets the table grow, keeps the request in
agreement with it, and stores its lobby exactly when the request makes its write. -/
theorem Moves.agreesWith {σ : Type} [Store σ] [Ledger σ] {rules : Rules} {lobby : String} {s : σ}
    {phase : Phase} {t : Table} {progress : Progress} (mode : rules.mode = .createIfAbsent)
    (agrees : (Progress.waiting phase).AgreesWith (Ledger.table s) lobby)
    (moves : Moves rules lobby s phase t progress) :
    (Ledger.table s).Extends t ∧ progress.AgreesWith t lobby ∧
      ∀ key, t.mark key + (if lobby = key && (Progress.waiting phase).hasWritten then 1 else 0) =
        (Ledger.table s).mark key + if lobby = key && progress.hasWritten then 1 else 0 := by
  cases moves with
  | failed asked failing =>
    have unwritten : (Progress.waiting phase).hasWritten = false := by
      cases phase with
      | announcing server => cases asked
      | _ => rfl
    refine ⟨Table.extends_refl _, trivial, fun key => ?_⟩
    rw [unwritten]
    rfl
  | hit stored => exact ⟨Table.extends_refl _, stored, fun key => rfl⟩
  | missed absent => exact ⟨Table.extends_refl _, trivial, fun key => rfl⟩
  | listed answered =>
    refine ⟨Table.extends_refl _, Progress.afterTally_agreesWith mode _ lobby _, fun key => ?_⟩
    rw [Progress.afterTally_not_written]
    rfl
  | counted =>
    refine ⟨Table.extends_refl _, Progress.afterTally_agreesWith mode _ lobby _, fun key => ?_⟩
    rw [Progress.afterTally_not_written]
    rfl
  | @claimed server absent =>
    refine ⟨Table.extends_insert absent server, by simp [Progress.AgreesWith], fun key => ?_⟩
    by_cases same : key = lobby
    · subst same
      simp [Progress.hasWritten, Table.mark, absent]
    · simp [Table.mark_insert, Progress.hasWritten, same, Ne.symm same]
  | refused stored => exact ⟨Table.extends_refl _, stored, fun key => rfl⟩
  | overwrote => exact agrees.elim
  | adopted stored => exact ⟨Table.extends_refl _, stored, fun key => rfl⟩
  | vanished absent => exact ⟨Table.extends_refl _, trivial, fun key => rfl⟩
  | announced => exact ⟨Table.extends_refl _, agrees, fun key => rfl⟩
  | crashed =>
    refine ⟨Table.extends_refl _, ?_, fun key => rfl⟩
    have stored : (Ledger.table s).value? lobby = some _ := agrees
    simp [Progress.AgreesWith, stored]

namespace Hall

/-- The number of requests for a lobby that stand at such a point. -/
def countOf {σ π : Type} (h : Hall σ π) (lobby : String) (p : Progress → Bool) : Nat :=
  h.seats.countP fun seat => seat.lobby = lobby && p seat.progress

theorem countOf_hasWritten {σ π : Type} (h : Hall σ π) (lobby : String) :
    h.countOf lobby Progress.hasWritten = h.countOf lobby Progress.isCreated +
      h.countOf lobby Progress.isCrashed + h.countOf lobby Progress.isAnnouncing := by
  unfold countOf
  induction h.seats with
  | nil => rfl
  | cons seat rest ih =>
    simp only [List.countP_cons, ih]
    have split : ∀ p : Progress, p.hasWritten.toNat =
        p.isCreated.toNat + p.isCrashed.toNat + p.isAnnouncing.toNat := by
      intro p
      rcases p with phase | outcome | _
      · cases phase <;> rfl
      · rcases outcome with fault | placed
        · rfl
        · cases placed <;> rfl
      · rfl
    have here := split seat.progress
    simp only [toNat_eq_ite] at here
    by_cases same : seat.lobby = lobby
    · simp only [same, decide_true, Bool.true_and]
      omega
    · simp only [same, decide_false, Bool.false_and, Bool.false_eq_true, if_false]
      omega

variable {σ π : Type} [Store σ] [Ledger σ] [Publisher π]

/-- The table has only grown from where it was, every request and every lookup agrees with it, and
each lobby that is newly stored was written by one request. -/
structure Agreed (origin : Table) (h : Hall σ π) : Prop where
  mode : h.desk.rules.mode = .createIfAbsent
  grown : origin.Extends h.table
  seats : ∀ seat ∈ h.seats, seat.progress.AgreesWith h.table seat.lobby
  glances : ∀ lobby server, (lobby, .ok (some server)) ∈ h.glances →
    h.table.value? lobby = some server
  written : ∀ lobby, origin.mark lobby + h.countOf lobby Progress.hasWritten = h.table.mark lobby

omit [Publisher π] in
theorem agreed_atDesk {d : Desk σ π} (mode : d.rules.mode = .createIfAbsent) :
    Agreed (Ledger.table d.store) (atDesk d) where
  mode := mode
  grown := Table.extends_refl _
  seats := by simp [atDesk]
  glances := by simp [atDesk]
  written := by simp [atDesk, countOf, table]

theorem Agreed.extends_step {origin : Table} {h : Hall σ π} (agreed : Agreed origin h)
    (e : Event (Ledger.Weather σ)) : h.table.Extends (h.step e).table := by
  have change := h.step_change e
  generalize (h.step e).table = t at change ⊢
  generalize (h.step e).seats = seats at change
  cases change with
  | idle => exact Table.extends_refl _
  | entered => exact Table.extends_refl _
  | moved seated moves =>
    exact (moves.agreesWith agreed.mode (agreed.seats _ (List.mem_of_getElem? seated))).1

theorem agreed_step {origin : Table} (h : Hall σ π) (e : Event (Ledger.Weather σ))
    (agreed : Agreed origin h) : Agreed origin (h.step e) := by
  have grows := agreed.extends_step e
  have change := h.step_change e
  refine ⟨(congrArg Rules.mode (h.step_rules e)).trans agreed.mode,
    Table.extends_trans agreed.grown grows, ?_, ?_, ?_⟩
  · refine change.forall_seats (fun lobby started => Progress.start_agreesWith _ lobby)
      (fun seat present => Progress.agreesWith_mono grows (agreed.seats seat present)) ?_
    intro lobby started phase progress old moves
    exact (moves.agreesWith agreed.mode (agreed.seats _ old)).2.1
  · intro lobby server member
    rcases h.step_glances e member with early | ⟨same, found⟩
    · exact grows lobby server (agreed.glances lobby server early)
    · rw [same]
      exact found
  · -- A move adds to the marks of the table what it adds to the requests that have written.
    intro lobby
    have before := agreed.written lobby
    unfold countOf at before ⊢
    generalize (h.step e).table = t at change ⊢
    generalize (h.step e).seats = seats at change ⊢
    cases change with
    | idle => exact before
    | entered other started =>
      simpa [Progress.start_not_written] using before
    | @moved number other started phase _ progress seated moves =>
      have marks := (moves.agreesWith agreed.mode
        (agreed.seats _ (List.mem_of_getElem? seated))).2.2 lobby
      have replaced := countP_set_add (p := fun seat : Seat =>
        seat.lobby = lobby && seat.progress.hasWritten) seated ⟨other, started, progress⟩
      have same : (Ledger.table h.desk.store).mark lobby = h.table.mark lobby := rfl
      dsimp only at marks replaced
      omega

theorem Agreed.run {origin : Table} {h : Hall σ π} (agreed : Agreed origin h)
    (events : List (Event (Ledger.Weather σ))) : Agreed origin (h.run events) :=
  run_kept agreed_step agreed events

theorem Agreed.extends_run {origin : Table} {h : Hall σ π} (agreed : Agreed origin h)
    (events : List (Event (Ledger.Weather σ))) : h.table.Extends (h.run events).table := by
  induction events generalizing h with
  | nil => exact Table.extends_refl _
  | cons e rest ih =>
    exact Table.extends_trans (agreed.extends_step e) (ih (agreed_step h e agreed))

omit [Publisher π] in
theorem Agreed.countOf_hasWritten_le_one {origin : Table} {h : Hall σ π} (agreed : Agreed origin h)
    (lobby : String) : h.countOf lobby Progress.hasWritten ≤ 1 := by
  have written := agreed.written lobby
  have atMost := h.table.mark_le_one lobby
  omega

/-! ### A store in memory -/

omit [Publisher π] in
/-- A request that was answered without a fault knows a stored server. -/
theorem Agreed.mark_of_answered {origin : Table} {h : Hall σ π} (agreed : Agreed origin h)
    {seat : Seat} (member : seat ∈ h.seats) {outcome : Outcome}
    (answered : seat.progress = .answered outcome)
    (unfailing : seat.progress.FailsOnlyBy (fun _ => False) seat.lobby)
    (proper : Text.isBlankText seat.lobby = false) : h.table.mark seat.lobby = 1 := by
  have agrees := agreed.seats seat member
  rw [answered] at agrees unfailing
  cases outcome with
  | error fault =>
    rcases unfailing with never | blank
    · exact never.elim
    · rw [proper] at blank
      cases blank
  | ok placed =>
    have found : h.table.value? seat.lobby = some placed.server := agrees
    simp [Table.mark, found]

omit [Store σ] [Ledger σ] [Publisher π] in
theorem countOf_isAnnouncing_of_ended {h : Hall σ π} {lobby : String}
    (ended : ∀ seat ∈ h.seats, seat.lobby = lobby → seat.isWaiting = false) :
    h.countOf lobby Progress.isAnnouncing = 0 := by
  refine List.countP_eq_zero.mpr fun seat present announcing => ?_
  simp only [Bool.and_eq_true, decide_eq_true_eq] at announcing
  obtain ⟨same, announcing⟩ := announcing
  have idle := ended seat present same
  rcases seat with ⟨_, _, phase | _ | _⟩
  · cases idle
  · cases announcing
  · cases announcing

omit [Store σ] [Ledger σ] in
/-- Requests that write only where nothing is stored, in any order with each other, with lookups
and with outages. Nothing stored is ever lost or changed; every answer and every lookup that found a
server names the stored one. At most one request for a lobby writes it, none if it was stored at the
start; and if the store stayed on and no request for a new lobby is under way but one was answered,
then exactly one wrote it: it was answered so, or its announcement crashed. -/
theorem settled_lobbies_agree (d : Desk MemoryStore π) (mode : d.rules.mode = .createIfAbsent)
    (before after : List (Event (Ledger.Weather MemoryStore))) :
    let now := (atDesk d).run before
    let later := now.run after
    now.table.Extends later.table ∧
    (∀ seat ∈ now.seats, ∀ placed, seat.progress = .answered (.ok placed) →
      now.table.value? seat.lobby = some placed.server) ∧
    (∀ lobby server, (lobby, .ok (some server)) ∈ now.glances →
      now.table.value? lobby = some server) ∧
    ∀ lobby,
      now.countOf lobby Progress.isCreated + now.countOf lobby Progress.isCrashed ≤ 1 ∧
      ((d.store.table.value? lobby).isSome → now.countOf lobby Progress.isCreated = 0) ∧
      (d.store.available = true → (∀ w, .weather w ∈ before → w = true) →
        d.store.table.value? lobby = none → Text.isBlankText lobby = false →
        (∀ seat ∈ now.seats, seat.lobby = lobby → seat.isWaiting = false) →
        (∃ seat ∈ now.seats, seat.lobby = lobby ∧ ∃ outcome, seat.progress = .answered outcome) →
        now.countOf lobby Progress.isCreated + now.countOf lobby Progress.isCrashed = 1) := by
  intro now later
  have agreed : Agreed d.store.table now := (agreed_atDesk mode).run before
  refine ⟨agreed.extends_run after, ?_, agreed.glances, fun lobby => ?_⟩
  · intro seat member placed answered
    have agrees := agreed.seats seat member
    rw [answered] at agrees
    exact agrees
  have written := agreed.written lobby
  have parts := now.countOf_hasWritten lobby
  have atMost := now.table.mark_le_one lobby
  refine ⟨by omega, ?_, ?_⟩
  · intro stored
    have marked : d.store.table.mark lobby = 1 := if_pos stored
    omega
  · rintro on stays absent proper ended ⟨seat, member, rfl, outcome, answered⟩
    have unmarked : d.store.table.mark seat.lobby = 0 := by
      simp [Table.mark, absent]
    have unfailing := (failsOnlyBy_run d before (never_fails_available on stays) seat member).1
    have stored := agreed.mark_of_answered member answered unfailing proper
    have settled := countOf_isAnnouncing_of_ended ended
    omega

/-- Two requests for one lobby, each step of the one followed by the same step of the other. -/
def race : List (Event (Ledger.Weather MemoryStore)) :=
  [.enter "L", .enter "L", .advance 0, .advance 1, .advance 0, .advance 1, .advance 0, .advance 1,
    .advance 1, .advance 0]

def raceDesk : Desk MemoryStore Recorder := .opening (.standard .two) .empty .empty

/-- Of two requests that race for a lobby, exactly one places it. -/
theorem race_has_one_winner :
    raceDesk.rules.mode = .createIfAbsent ∧
      (∀ seat ∈ ((atDesk raceDesk).run race).seats, seat.lobby = "L" → seat.isWaiting = false) ∧
      ((atDesk raceDesk).run race).countOf "L" Progress.isCreated +
        ((atDesk raceDesk).run race).countOf "L" Progress.isCrashed = 1 := by
  have ended : ∀ seat ∈ ((atDesk raceDesk).run race).seats,
      seat.lobby = "L" → seat.isWaiting = false := by decide +kernel
  refine ⟨rfl, ended, ?_⟩
  refine ((settled_lobbies_agree raceDesk rfl race []).2.2.2 "L").2.2 rfl ?_ rfl (by decide) ended
    ?_
  · intro w member
    simp [race] at member
  · exact ⟨⟨"L", 0, .answered (.ok (.created "A"))⟩, List.mem_cons_self, rfl, _, rfl⟩

def crashDesk : Desk MemoryStore Bus :=
  .opening (.standard .two) .empty (.ofCapacity Bus.capacityBound)

/-- A request whose announcement crashes has written the lobby and is never answered, so the next
request finds the lobby stored and none is answered as the one that placed it. -/
theorem crash_leaves_no_creator :
    ¬ ∀ (d : Desk MemoryStore Bus) (events : List (Event (Ledger.Weather MemoryStore)))
        (lobby : String), d.rules.mode = .createIfAbsent → d.store.available = true →
      (∀ w, .weather w ∈ events → w = true) → d.store.table.value? lobby = none →
      Text.isBlankText lobby = false →
      (∀ seat ∈ ((atDesk d).run events).seats, seat.lobby = lobby → seat.isWaiting = false) →
      (∃ seat ∈ ((atDesk d).run events).seats,
        seat.lobby = lobby ∧ ∃ outcome, seat.progress = .answered outcome) →
      ((atDesk d).run events).countOf lobby Progress.isCreated = 1 := by
  intro claim
  have created := claim crashDesk
    [.enter "L", .advance 0, .advance 0, .advance 0, .advance 0, .enter "L", .advance 1] "L"
    rfl rfl (by simp) rfl (by decide) (by decide +kernel)
    ⟨⟨"L", 0, .answered (.ok (.found "A"))⟩, List.mem_cons_of_mem _ List.mem_cons_self, rfl, _, rfl⟩
  exact absurd created (by decide +kernel)

end Hall

end LobbyPlacement

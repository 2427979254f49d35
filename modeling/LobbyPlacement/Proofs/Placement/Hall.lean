import LobbyPlacement.Placement.Round
import LobbyPlacement.Proofs.Placement.Moves

/-!
# Requests in any order

Any number of requests at one desk, begun at any time, each taking its steps whenever it is its
turn, between lookups, changes of the store's weather and the passing of time. The hall is one
coordinator with all its concurrent calls, which give way to each other at every store call. A run
is a list of events, so a statement about all lists of events is one about all orders, and a moment
of a run is a front part of its list. An announcement is one step: it calls no store, so whatever
others do meanwhile can be taken to come before it or after it. `step_change` says what one event
does to the stored table and to the requests.
-/

namespace LobbyPlacement

/-- The requests at a desk, each at its own point, and what lookups were answered with. -/
structure Hall (σ π : Type) where
  desk : Desk σ π
  seats : List Seat
  glances : List (String × Except Fault (Option String))

namespace Hall

/-- What may happen next: a new request, a step of an earlier one, a lookup, other weather at the
store, or some milliseconds without any of these. -/
inductive Event (ω : Type)
  | enter (lobby : String)
  | advance (number : Nat)
  | glance (lobby : String)
  | weather (w : ω)
  | elapse (ms : Nat)

def atDesk {σ π : Type} (d : Desk σ π) : Hall σ π := ⟨d, [], []⟩

def inFlight {σ π : Type} (h : Hall σ π) : Nat := h.seats.countP Seat.isWaiting

variable {σ π : Type} [Store σ] [Ledger σ] [Publisher π]

def table (h : Hall σ π) : Table := Ledger.table h.desk.store

def enter (h : Hall σ π) (lobby : String) : Hall σ π :=
  let (desk, progress) := h.desk.begin lobby
  { h with desk := desk, seats := h.seats ++ [⟨lobby, h.desk.now, progress⟩] }

/-- A request that waits makes its next step; there is none for a request that has ended. -/
def advance (h : Hall σ π) (number : Nat) : Hall σ π :=
  match h.seats[number]? with
  | some ⟨lobby, started, .waiting phase⟩ =>
    let (desk, progress) := h.desk.step ⟨lobby, started, phase⟩
    { h with desk := desk, seats := h.seats.set number ⟨lobby, started, progress⟩ }
  | _ => h

def glance (h : Hall σ π) (lobby : String) : Hall σ π :=
  let (desk, answer) := h.desk.lookup lobby
  { h with desk := desk, glances := h.glances ++ [(lobby, answer)] }

def step (h : Hall σ π) : Event (Ledger.Weather σ) → Hall σ π
  | .enter lobby => h.enter lobby
  | .advance number => h.advance number
  | .glance lobby => h.glance lobby
  | .weather w => { h with desk := { h.desk with store := Ledger.weather h.desk.store w } }
  | .elapse ms => { h with desk := { h.desk with now := h.desk.now + ms } }

def run (h : Hall σ π) (events : List (Event (Ledger.Weather σ))) : Hall σ π :=
  events.foldl step h

theorem run_append (h : Hall σ π) (first second : List (Event (Ledger.Weather σ))) :
    h.run (first ++ second) = (h.run first).run second :=
  List.foldl_append

theorem run_concat (h : Hall σ π) (events : List (Event (Ledger.Weather σ)))
    (e : Event (Ledger.Weather σ)) : h.run (events ++ [e]) = (h.run events).step e :=
  run_append h events [e]

/-- What every event keeps holds at every moment of a run. -/
theorem run_kept {P : Hall σ π → Prop} (kept : ∀ h e, P h → P (h.step e)) {h : Hall σ π}
    (start : P h) (events : List (Event (Ledger.Weather σ))) : P (h.run events) := by
  induction events generalizing h with
  | nil => exact start
  | cons e rest ih => exact ih (kept h e start)

/-! ### What an event changes -/

/-- The changes that one event may make to the table and the requests. -/
inductive Change (h : Hall σ π) : Table → List Seat → Prop
  | idle : Change h h.table h.seats
  | entered (lobby : String) (started : Nat) :
      Change h h.table (h.seats ++ [⟨lobby, started, (Placement.start lobby).progress⟩])
  | moved {number : Nat} {lobby : String} {started : Nat} {phase : Phase} {t : Table}
      {progress : Progress} (seated : h.seats[number]? = some ⟨lobby, started, .waiting phase⟩)
      (moves : Moves h.desk.rules lobby h.desk.store phase t progress) :
      Change h t (h.seats.set number ⟨lobby, started, progress⟩)

omit [Ledger σ] in
theorem advance_eq {h : Hall σ π} {number : Nat} {lobby : String} {started : Nat} {phase : Phase}
    (seated : h.seats[number]? = some ⟨lobby, started, .waiting phase⟩) :
    h.advance number =
      { h with
        desk := (h.desk.step ⟨lobby, started, phase⟩).1
        seats :=
          h.seats.set number ⟨lobby, started, (h.desk.step ⟨lobby, started, phase⟩).2⟩ } := by
  simp only [advance, seated]

omit [Ledger σ] in
theorem advance_of_not_seated {h : Hall σ π} {number : Nat}
    (ended : ∀ lobby started phase, h.seats[number]? ≠ some ⟨lobby, started, .waiting phase⟩) :
    h.advance number = h := by
  unfold advance
  split
  next lobby started phase seated => exact (ended lobby started phase seated).elim
  next => rfl

omit [Ledger σ] in
theorem advance_cases (h : Hall σ π) (number : Nat) :
    (∃ lobby started phase, h.seats[number]? = some ⟨lobby, started, .waiting phase⟩) ∨
      h.advance number = h := by
  by_cases seated : ∃ lobby started phase,
      h.seats[number]? = some ⟨lobby, started, .waiting phase⟩
  · exact .inl seated
  · refine .inr (advance_of_not_seated fun lobby started phase waiting => ?_)
    exact seated ⟨lobby, started, phase, waiting⟩

@[simp]
theorem step_rules (h : Hall σ π) (e : Event (Ledger.Weather σ)) :
    (h.step e).desk.rules = h.desk.rules := by
  cases e with
  | enter lobby => exact Desk.recordAll_rules ..
  | advance number =>
    show (h.advance number).desk.rules = _
    rcases h.advance_cases number with ⟨lobby, started, phase, seated⟩ | same
    · rw [advance_eq seated]
      exact Desk.step_rules ..
    · rw [same]
  | glance lobby => exact (h.desk.lookup_answer lobby).1
  | weather w => rfl
  | elapse ms => rfl

theorem run_rules (h : Hall σ π) (events : List (Event (Ledger.Weather σ))) :
    (h.run events).desk.rules = h.desk.rules :=
  run_kept (P := fun g => g.desk.rules = h.desk.rules)
    (fun g e same => (step_rules g e).trans same) rfl events

theorem step_change (h : Hall σ π) (e : Event (Ledger.Weather σ)) :
    Change h (h.step e).table (h.step e).seats := by
  cases e with
  | enter lobby =>
    have kept : (h.step (.enter lobby)).table = h.table :=
      congrArg Ledger.table (Desk.recordAll_store ..)
    rw [kept]
    exact .entered lobby h.desk.now
  | advance number =>
    show Change h (h.advance number).table (h.advance number).seats
    rcases h.advance_cases number with ⟨lobby, started, phase, seated⟩ | same
    · rw [advance_eq seated]
      exact .moved seated (h.desk.step_moves ⟨lobby, started, phase⟩)
    · rw [same]
      exact .idle
  | glance lobby =>
    have kept : (h.step (.glance lobby)).table = h.table := (h.desk.lookup_answer lobby).2.1
    rw [kept]
    exact .idle
  | weather w =>
    have kept : (h.step (.weather w)).table = h.table := Ledger.table_weather ..
    rw [kept]
    exact .idle
  | elapse ms => exact .idle

omit [Publisher π] in
/-- What holds of every request that begins, of the requests there are, and of one that moves, holds
of all requests afterwards. -/
theorem Change.forall_seats {h : Hall σ π} {t : Table} {seats : List Seat}
    (change : Change h t seats) {P : Seat → Prop}
    (entered : ∀ lobby started, P ⟨lobby, started, (Placement.start lobby).progress⟩)
    (kept : ∀ seat ∈ h.seats, P seat)
    (moved : ∀ lobby started phase progress, ⟨lobby, started, .waiting phase⟩ ∈ h.seats →
      Moves h.desk.rules lobby h.desk.store phase t progress → P ⟨lobby, started, progress⟩) :
    ∀ seat ∈ seats, P seat := by
  cases change with
  | idle => exact kept
  | entered lobby started =>
    intro seat member
    rcases List.mem_append.mp member with early | late
    · exact kept seat early
    · obtain rfl := List.mem_singleton.mp late
      exact entered lobby started
  | moved seated moves =>
    intro seat member
    rcases List.mem_or_eq_of_mem_set member with early | rfl
    · exact kept seat early
    · exact moved _ _ _ _ (List.mem_of_getElem? seated) moves

theorem step_glances (h : Hall σ π) (e : Event (Ledger.Weather σ)) {lobby server : String}
    (member : (lobby, .ok (some server)) ∈ (h.step e).glances) :
    (lobby, .ok (some server)) ∈ h.glances ∨
      (h.step e).table = h.table ∧ h.table.value? lobby = some server := by
  cases e with
  | glance other =>
    rcases List.mem_append.mp member with early | late
    · exact .inl early
    · obtain ⟨rfl, found⟩ := Prod.mk.inj (List.mem_singleton.mp late)
      have answer := h.desk.lookup_answer lobby
      exact .inr ⟨answer.2.1, answer.2.2 _ found.symm⟩
  | advance number =>
    refine .inl ?_
    change _ ∈ (h.advance number).glances at member
    rcases h.advance_cases number with ⟨_, _, _, seated⟩ | same
    · rwa [advance_eq seated] at member
    · rwa [same] at member
  | enter other => exact .inl member
  | weather w => exact .inl member
  | elapse ms => exact .inl member

end Hall

def Pool.two : Pool := ⟨["A", "B"], by decide, by decide, by decide⟩

/-! ### Where a request stands -/

theorem Placement.start_progress (lobby : String) :
    (Placement.start lobby).progress = .waiting .looking ∨
      Text.isBlankText lobby = true ∧
        (Placement.start lobby).progress = .answered (.error Placement.blankLobby) := by
  unfold Placement.start Placement.checkLobby
  cases blank : Text.isBlankText lobby with
  | false => exact .inl rfl
  | true => exact .inr ⟨rfl, rfl⟩

/-- Behind a tally a request reads on, fails, or writes the server with the fewest lobbies. -/
theorem Placement.afterTally_progress (rules : Rules) (tally : Tally) :
    (∃ census, tally = .reading census ∧
        (Placement.afterTally rules tally).progress = .waiting (.counting census)) ∨
      (∃ fault, (tally = .failed fault ∨ tally = .counted []) ∧
        (Placement.afterTally rules tally).progress = .answered (.error fault)) ∨
      ∃ loads load, tally = .counted loads ∧ Load.least loads = some load ∧
        (Placement.afterTally rules tally).progress =
          .waiting (Placement.writing rules.mode load.server) := by
  cases tally with
  | reading census => exact .inl ⟨census, rfl, rfl⟩
  | failed fault => exact .inr (.inl ⟨fault, .inl rfl, rfl⟩)
  | counted loads =>
    simp only [Placement.afterTally]
    cases loads with
    | nil => exact .inr (.inl ⟨Placement.noServer, .inr rfl, rfl⟩)
    | cons first rest =>
      obtain ⟨_, best, _, chosen, _⟩ := Load.least_first (List.cons_ne_nil first rest)
      rw [chosen]
      exact .inr (.inr ⟨first :: rest, best, rfl, chosen, rfl⟩)

theorem countP_set_add {α : Type} {p : α → Bool} {xs : List α} {i : Nat} {old : α}
    (found : xs[i]? = some old) (new : α) :
    (xs.set i new).countP p + (if p old then 1 else 0) = xs.countP p + if p new then 1 else 0 := by
  induction xs generalizing i with
  | nil => simp at found
  | cons x rest ih =>
    cases i with
    | zero =>
      obtain rfl : x = old := by simpa using found
      simp only [List.set_cons_zero, List.countP_cons]
      omega
    | succ i =>
      have later := ih (i := i) (by simpa using found)
      simp only [List.set_cons_succ, List.countP_cons]
      omega

end LobbyPlacement

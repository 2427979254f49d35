import LobbyPlacement.Placement.Desk

/-!
# Requests in lockstep

Several requests at one desk, all begun at once: concurrent calls of one coordinator, each in a seat
of its own. Every round resumes each waiting request in order: it makes one store call, and what
follows that call up to the next one happens at once. `weight_round` says that a round brings the
requests closer to their ends, so `inLockstep` ends.
-/

namespace LobbyPlacement

structure Seat where
  lobby : String
  started : Nat
  progress : Progress

namespace Seat

def isWaiting (s : Seat) : Bool :=
  match s.progress with
  | .waiting _ => true
  | _ => false

/-- The summed stages of all requests, and the summed numbers of keys they may still read. -/
def stages (seats : List Seat) : Nat := seats.foldr (fun s n => s.progress.stage + n) 0
def keys (seats : List Seat) : Nat := seats.foldr (fun s n => s.progress.remaining + n) 0

end Seat

namespace Desk

variable {σ π : Type} [Store σ] [Publisher π]

/-- An announcement does not wait for the next round. -/
def announceAtOnce (d : Desk σ π) (lobby : String) (started : Nat) :
    Progress → Desk σ π × Progress
  | .waiting (.announcing server) => d.step ⟨lobby, started, .announcing server⟩
  | progress => (d, progress)

def turn (d : Desk σ π) (s : Seat) : Desk σ π × Seat :=
  match s.progress with
  | .waiting phase =>
    let (d, progress) := d.step ⟨s.lobby, s.started, phase⟩
    let (d, progress) := d.announceAtOnce s.lobby s.started progress
    (d, { s with progress := progress })
  | _ => (d, s)

def round (d : Desk σ π) : List Seat → Desk σ π × List Seat
  | [] => (d, [])
  | s :: rest =>
    let (d, s) := d.turn s
    let (d, rest) := d.round rest
    (d, s :: rest)

/-- Neither sum of ranks grows without the other counting for it. -/
def NotFarther (a b : Nat × Nat) : Prop := a.1 < b.1 ∨ a.1 = b.1 ∧ a.2 ≤ b.2

theorem closer_iff {a b c d : Nat} :
    Placement.Closer (a, b) (c, d) ↔ a < c ∨ a = c ∧ b < d := by
  unfold Placement.Closer
  constructor
  · intro h
    cases h with
    | left _ _ h => exact .inl h
    | right _ h => exact .inr ⟨rfl, h⟩
  · rintro (h | ⟨rfl, h⟩)
    · exact .left _ _ h
    · exact .right _ h

theorem announceAtOnce_notFarther (d : Desk σ π) (lobby : String) (started : Nat)
    (progress : Progress) :
    NotFarther ((d.announceAtOnce lobby started progress).2.stage,
        (d.announceAtOnce lobby started progress).2.remaining)
      (progress.stage, progress.remaining) := by
  unfold announceAtOnce
  split
  next server =>
    have := closer_iff.1 (d.closer_step ⟨lobby, started, .announcing server⟩)
    simp only [NotFarther, Progress.stage, Progress.remaining] at *
    omega
  next => exact .inr ⟨rfl, Nat.le_refl _⟩

theorem turn_closer (d : Desk σ π) (s : Seat) (waiting : s.isWaiting = true) :
    Placement.Closer ((d.turn s).2.progress.stage, (d.turn s).2.progress.remaining)
      (s.progress.stage, s.progress.remaining) := by
  obtain ⟨lobby, started, progress⟩ := s
  cases progress with
  | waiting phase =>
    have first := closer_iff.1 (d.closer_step ⟨lobby, started, phase⟩)
    have second := announceAtOnce_notFarther (d.step ⟨lobby, started, phase⟩).1 lobby started
      (d.step ⟨lobby, started, phase⟩).2
    rw [closer_iff]
    simp only [NotFarther, turn, Progress.stage, Progress.remaining] at *
    omega
  | answered outcome => simp [Seat.isWaiting] at waiting
  | crashed => simp [Seat.isWaiting] at waiting

theorem turn_of_not_waiting (d : Desk σ π) (s : Seat) (settled : s.isWaiting = false) :
    d.turn s = (d, s) := by
  obtain ⟨lobby, started, progress⟩ := s
  cases progress <;> simp_all [Seat.isWaiting, turn]

theorem round_notFarther (d : Desk σ π) (seats : List Seat) :
    NotFarther (Seat.stages (d.round seats).2, Seat.keys (d.round seats).2)
      (Seat.stages seats, Seat.keys seats) := by
  induction seats generalizing d with
  | nil => exact .inr ⟨rfl, Nat.le_refl _⟩
  | cons s rest ih =>
    have later := ih (d.turn s).1
    cases waiting : s.isWaiting with
    | false =>
      rw [turn_of_not_waiting d s waiting] at later
      simp only [NotFarther, round, turn_of_not_waiting d s waiting, Seat.stages, Seat.keys,
        List.foldr_cons] at *
      omega
    | true =>
      have first := closer_iff.1 (turn_closer d s waiting)
      simp only [NotFarther, round, Seat.stages, Seat.keys, List.foldr_cons] at *
      omega

/-- A round with a waiting request in it lowers the summed stages, or keeps them and leaves fewer
keys to read. -/
theorem weight_round (d : Desk σ π) (seats : List Seat)
    (waiting : seats.any Seat.isWaiting = true) :
    Placement.Closer (Seat.stages (d.round seats).2, Seat.keys (d.round seats).2)
      (Seat.stages seats, Seat.keys seats) := by
  induction seats generalizing d with
  | nil => simp at waiting
  | cons s rest ih =>
    rw [closer_iff]
    cases first : s.isWaiting with
    | false =>
      simp only [List.any_cons, first, Bool.false_or] at waiting
      have later := closer_iff.1 (ih d waiting)
      simp only [round, turn_of_not_waiting d s first, Seat.stages, Seat.keys,
        List.foldr_cons] at *
      omega
    | true =>
      have now := closer_iff.1 (turn_closer d s first)
      have later := round_notFarther (d.turn s).1 rest
      simp only [NotFarther, round, Seat.stages, Seat.keys, List.foldr_cons] at *
      omega

/-- Rounds until every request is answered. -/
def inLockstep (d : Desk σ π) (seats : List Seat) : Desk σ π × List Seat :=
  if _ : seats.any Seat.isWaiting = true then
    let next := d.round seats
    next.1.inLockstep next.2
  else (d, seats)
termination_by (Seat.stages seats, Seat.keys seats)
decreasing_by exact d.weight_round seats ‹_›

/-- All requests begun, none further than its first store call. -/
def beginAll (d : Desk σ π) : List String → Desk σ π × List Seat
  | [] => (d, [])
  | lobby :: rest =>
    let (begun, progress) := d.begin lobby
    let (last, seats) := begun.beginAll rest
    (last, ⟨lobby, d.now, progress⟩ :: seats)

def resolveTogether (d : Desk σ π) (lobbies : List String) : Desk σ π × List Leaving :=
  let (d, seats) := d.beginAll lobbies
  let (d, seats) := d.inLockstep seats
  (d, seats.map fun s => match s.progress with
    | .answered outcome => .answered outcome
    | .crashed | .waiting _ => .crashed)

end Desk

end LobbyPlacement

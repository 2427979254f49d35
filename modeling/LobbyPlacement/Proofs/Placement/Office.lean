import LobbyPlacement.Proofs.Placement.Replay

/-!
# One note at a time

Requests whose notes reach the counters one by one. At a desk a request tells all its notes as soon
as its effect is carried out; in an office each note is an event of its own, so that another request
may come between any two of them, and the store, the publisher and the clock may have changed in any
way meanwhile. The office is one coordinator whose concurrent calls run on several threads: they may
meet between any two updates of its statistics. `told_all` says that a request which is not
interrupted does in an office just what it does in one step at the desk.
-/

namespace LobbyPlacement

/-- A request with the notes it has told the counters and those it tells before it goes on. Of its
announcement it keeps what became of the attempt. -/
structure Slip where
  lobby : String
  started : Nat
  told : List Note
  pending : List Note
  progress : Progress
  attempt : Option Attempt

namespace Slip

/-- The request has something left to do or to tell. -/
def inFlight (s : Slip) : Bool :=
  !s.pending.isEmpty || match s.progress with
    | .waiting _ => true
    | _ => false

/-- The slip after its next note. -/
def tell (s : Slip) (note : Note) (rest : List Note) : Slip :=
  { s with told := s.told ++ [note], pending := rest }

def toldAll (s : Slip) : Slip := { s with told := s.told ++ s.pending, pending := [] }

end Slip

/-- What becomes of the announcement that an effect makes. -/
def Desk.attempt? {σ π : Type} [Publisher π] (d : Desk σ π) : Effect → Option Attempt
  | .store _ => none
  | .announce a =>
    some (Publisher.publish d.publisher d.now d.rules.announceLimit d.rules.channel a.encode).2

/-- A waiting request carries out its effect, with its notes still to come. -/
def Slip.act {σ π : Type} [Store σ] [Publisher π] (s : Slip) (d : Desk σ π) (phase : Phase) :
    Desk σ π × Slip :=
  let effect := phase.effect s.lobby
  let (carried, reply) := d.carryOut effect
  let move := Placement.resume carried.rules s.lobby phase reply
  (carried, { s with
    pending := move.notes, progress := move.progress, attempt := d.attempt? effect })

structure Office (σ π : Type) where
  desk : Desk σ π
  slips : List Slip

namespace Office

/-- What may happen next: a new request, the next note or effect of an earlier one, or any change of
the store, the publisher and the time. -/
inductive Event (σ π : Type)
  | enter (lobby : String)
  | advance (number : Nat)
  | meanwhile (store : σ) (publisher : π) (ms : Nat)

def atDesk {σ π : Type} (d : Desk σ π) : Office σ π := ⟨d, []⟩

variable {σ π : Type} [Store σ] [Publisher π]

def enter (o : Office σ π) (lobby : String) : Office σ π :=
  let move := Placement.start lobby
  { o with slips := o.slips ++ [⟨lobby, o.desk.now, [], move.notes, move.progress, none⟩] }

def advance (o : Office σ π) (number : Nat) : Office σ π :=
  match o.slips[number]? with
  | some slip =>
    match slip.pending, slip.progress with
    | note :: rest, _ =>
      ⟨o.desk.record slip.started note, o.slips.set number (slip.tell note rest)⟩
    | [], .waiting phase =>
      let (desk, next) := slip.act o.desk phase
      ⟨desk, o.slips.set number next⟩
    | [], _ => o
  | none => o

def step (o : Office σ π) : Event σ π → Office σ π
  | .enter lobby => o.enter lobby
  | .advance number => o.advance number
  | .meanwhile store publisher ms =>
    { o with desk := { o.desk with
        store := store, publisher := publisher, now := o.desk.now + ms } }

def run (o : Office σ π) (events : List (Event σ π)) : Office σ π := events.foldl step o

/-- What every event keeps holds at every moment of a run. -/
theorem run_induct {P : Office σ π → Prop} (kept : ∀ o e, P o → P (o.step e)) {o : Office σ π}
    (start : P o) (events : List (Event σ π)) : P (o.run events) := by
  induction events generalizing o with
  | nil => exact start
  | cons e rest ih => exact ih (kept o e start)

theorem advance_telling {o : Office σ π} {number : Nat} {slip : Slip} {note : Note}
    {rest : List Note} (found : o.slips[number]? = some slip) (next : slip.pending = note :: rest) :
    o.advance number =
      ⟨o.desk.record slip.started note, o.slips.set number (slip.tell note rest)⟩ := by
  simp only [advance, found, next]

theorem advance_acting {o : Office σ π} {number : Nat} {slip : Slip} {phase : Phase}
    (found : o.slips[number]? = some slip) (quiet : slip.pending = [])
    (waiting : slip.progress = .waiting phase) :
    o.advance number =
      ⟨(slip.act o.desk phase).1, o.slips.set number (slip.act o.desk phase).2⟩ := by
  simp only [advance, found, quiet, waiting]

theorem advance_ended {o : Office σ π} {number : Nat}
    (ended : ∀ slip, o.slips[number]? = some slip →
      slip.pending = [] ∧ ∀ phase, slip.progress ≠ .waiting phase) : o.advance number = o := by
  unfold advance
  split
  next slip found =>
    obtain ⟨quiet, idle⟩ := ended slip found
    split
    next note rest next => simp [quiet] at next
    next phase _ waiting => exact (idle phase waiting).elim
    next => rfl
  next => rfl

/-- An advance tells a note, carries out an effect, or finds nothing to do. -/
theorem advance_cases (o : Office σ π) (number : Nat) :
    (∃ slip note rest, o.slips[number]? = some slip ∧ slip.pending = note :: rest) ∨
      (∃ slip phase, o.slips[number]? = some slip ∧ slip.pending = [] ∧
        slip.progress = .waiting phase) ∨ o.advance number = o := by
  cases found : o.slips[number]? with
  | none => exact .inr (.inr (advance_ended fun slip here => by rw [found] at here; cases here))
  | some slip =>
    cases told : slip.pending with
    | cons note rest => exact .inl ⟨slip, note, rest, rfl, told⟩
    | nil =>
      cases stands : slip.progress with
      | waiting phase => exact .inr (.inl ⟨slip, phase, rfl, told, stands⟩)
      | answered outcome =>
        refine .inr (.inr (advance_ended fun other here => ?_))
        obtain rfl := Option.some.inj (found.symm.trans here)
        exact ⟨told, fun phase waiting => by rw [stands] at waiting; cases waiting⟩
      | crashed =>
        refine .inr (.inr (advance_ended fun other here => ?_))
        obtain rfl := Option.some.inj (found.symm.trans here)
        exact ⟨told, fun phase waiting => by rw [stands] at waiting; cases waiting⟩

@[simp]
theorem step_rules (o : Office σ π) (e : Event σ π) : (o.step e).desk.rules = o.desk.rules := by
  cases e with
  | enter lobby => rfl
  | advance number =>
    show (o.advance number).desk.rules = o.desk.rules
    rcases advance_cases o number with
      ⟨slip, note, rest, found, next⟩ | ⟨slip, phase, found, quiet, waiting⟩ | idle
    · rw [advance_telling found next]
      rfl
    · rw [advance_acting found quiet waiting]
      exact Desk.carryOut_rules o.desk (phase.effect slip.lobby)
    · rw [idle]
  | meanwhile store publisher ms => rfl

theorem run_rules (o : Office σ π) (events : List (Event σ π)) :
    (o.run events).desk.rules = o.desk.rules :=
  run_induct (fun now e same => (step_rules now e).trans same) rfl events

/-! ### Uninterrupted requests -/

theorem telling_all {o : Office σ π} {number : Nat} {slip : Slip}
    (found : o.slips[number]? = some slip) :
    o.run (List.replicate slip.pending.length (.advance number)) =
      ⟨o.desk.recordAll slip.started slip.pending, o.slips.set number slip.toldAll⟩ := by
  obtain ⟨inRange, here⟩ := List.getElem?_eq_some_iff.mp found
  generalize notes : slip.pending = pending
  induction pending generalizing o slip with
  | nil =>
    have same : o.slips.set number slip.toldAll = o.slips := by
      have untold : slip.toldAll = slip := by
        rw [Slip.toldAll, notes, List.append_nil, ← notes]
      rw [untold, ← here, List.set_getElem_self]
    rw [same]
    rfl
  | cons note rest ih =>
    have first := advance_telling found notes
    have foundThen : (o.advance number).slips[number]? = some (slip.tell note rest) := by
      rw [first]
      exact List.getElem?_set_self inRange
    obtain ⟨inRangeThen, hereThen⟩ := List.getElem?_eq_some_iff.mp foundThen
    have whole : (slip.tell note rest).toldAll = slip.toldAll := by
      simp only [Slip.toldAll, Slip.tell, notes, List.append_assoc, List.singleton_append]
    show (o.advance number).run (List.replicate rest.length (.advance number)) = _
    rw [ih foundThen inRangeThen hereThen rfl, whole, first, List.set_set]
    rfl

/-- A request that carries out its effect and then tells all its notes has made the step that it
makes at the desk. -/
theorem told_all {o : Office σ π} {number : Nat} {slip : Slip} {phase : Phase}
    (found : o.slips[number]? = some slip) (quiet : slip.pending = [])
    (waiting : slip.progress = .waiting phase) :
    ∃ rounds next, o.run (List.replicate rounds (.advance number)) =
        ⟨(o.desk.step ⟨slip.lobby, slip.started, phase⟩).1, o.slips.set number next⟩ ∧
      next.pending = [] ∧
      next.progress = (o.desk.step ⟨slip.lobby, slip.started, phase⟩).2 := by
  have inRange := (List.getElem?_eq_some_iff.mp found).1
  have acted := advance_acting found quiet waiting
  have foundThen : (o.advance number).slips[number]? = some (slip.act o.desk phase).2 := by
    rw [acted]
    exact List.getElem?_set_self inRange
  have told := telling_all foundThen
  refine ⟨(slip.act o.desk phase).2.pending.length + 1, (slip.act o.desk phase).2.toldAll,
    ?_, rfl, rfl⟩
  show (o.advance number).run (List.replicate _ (.advance number)) = _
  rw [told, acted, List.set_set]
  rfl

end Office

end LobbyPlacement

import LobbyPlacement.Proofs.Placement.Errands

/-!
# One update at a time

A note reaches the counters and the metrics one after the other, and other calls may come in
between. In a bureau every single update is an event of its own, and so is every store call, of
requests and of surveys, which count the loads of all servers. The bureau is one coordinator on
several threads, as an office is, whose calls may also meet between its statistics and its metrics.
`step_deed` says all that one event can do. A request or a survey that is not interrupted does in a
bureau what it does at a desk: `resolved_alone` and `surveyed_alone` say so.
-/

namespace LobbyPlacement

inductive Update
  | stats (note : Note)
  | metrics (note : Note)

def Note.updates : Note → List Update
  | found => [.stats found]
  | adopted => [.stats adopted]
  | counted loads => [.metrics (counted loads)]
  | created server => [.stats (created server), .metrics (created server)]
  | announced true => [.metrics (announced true)]
  | announced false => [.stats (announced false), .metrics (announced false)]
  | answered ending => [.metrics (answered ending), .stats (answered ending)]

structure Exchange (lobby : String) where
  phase : Phase
  reply : (phase.effect lobby).Reply

/-- A request with all its exchanges, the updates it has made, and those it makes before it goes
on. -/
structure Docket where
  lobby : String
  started : Nat
  trail : List (Exchange lobby)
  made : List Update
  pending : List Update
  progress : Progress

namespace Docket

def inFlight (s : Docket) : Bool :=
  !s.pending.isEmpty || match s.progress with
    | .waiting _ => true
    | _ => false

def ofStart (lobby : String) (now : Nat) : Docket :=
  ⟨lobby, now, [], [], (Placement.start lobby).notes.flatMap Note.updates,
    (Placement.start lobby).progress⟩

def make (s : Docket) (update : Update) (rest : List Update) : Docket :=
  { s with made := s.made ++ [update], pending := rest }

def madeAll (s : Docket) : Docket := { s with made := s.made ++ s.pending, pending := [] }

/-- The docket after an exchange, with the updates to which it leads still to come. -/
def exchanged (rules : Rules) (s : Docket) (x : Exchange s.lobby) : Docket :=
  let move := Placement.resume rules s.lobby x.phase x.reply
  { s with
    trail := s.trail ++ [x]
    pending := move.notes.flatMap Note.updates
    progress := move.progress }

end Docket

/-- A count of the loads for whoever asks for them: still to be begun, under way or over. -/
inductive Survey
  | asking
  | tallying (tally : Tally)
  | ended (answer : Except Fault (List Load))

namespace Desk

variable {σ π : Type}

def update (d : Desk σ π) (started : Nat) : Update → Desk σ π
  | .stats note => { d with stats := d.stats.record note }
  | .metrics note =>
    { d with metrics := d.metrics.record d.rules.channel ((d.now - started) * 1000) note }

def updateAll (d : Desk σ π) (started : Nat) (updates : List Update) : Desk σ π :=
  updates.foldl (fun d update => d.update started update) d

theorem updateAll_updates (d : Desk σ π) (started : Nat) (note : Note) :
    d.updateAll started note.updates = d.record started note := by
  cases note with
  | announced confirmed => cases confirmed <;> rfl
  | found | adopted | counted _ | created _ | answered _ => rfl

theorem updateAll_flatMap (d : Desk σ π) (started : Nat) (notes : List Note) :
    d.updateAll started (notes.flatMap Note.updates) = d.recordAll started notes := by
  induction notes generalizing d with
  | nil => rfl
  | cons note rest ih =>
    rw [List.flatMap_cons, updateAll, List.foldl_append]
    show (d.updateAll started note.updates).updateAll started _ = _
    rw [ih, updateAll_updates]
    rfl

def survey [Store σ] (d : Desk σ π) : Survey → Desk σ π × Survey
  | .asking =>
    if d.rules.pool.servers.isEmpty then (d, .ended (.error Census.emptyPool))
    else
      let (store, reply) := Store.perform d.store (.scan everyKey)
      ({ d with store := store }, .tallying (.ofListing d.rules.pool.servers reply))
  | .tallying (.reading census) =>
    let (store, reply) := Store.perform d.store (.get census.key)
    ({ d with store := store }, .tallying (census.read reply))
  | .tallying (.failed fault) => (d, .ended (.error fault))
  | .tallying (.counted loads) =>
    ({ d with metrics := d.metrics.setLoads loads }, .ended (.ok loads))
  | .ended answer => (d, .ended answer)

end Desk

structure Bureau (σ π : Type) where
  desk : Desk σ π
  dockets : List Docket
  surveys : List Survey

namespace Bureau

/-- What may happen next: a new request, the next update or effect of an earlier one, a new survey,
a step of an earlier one, or any change of the store, the publisher and the time. -/
inductive Event (σ π : Type)
  | enter (lobby : String)
  | advance (number : Nat)
  | ask
  | proceed (number : Nat)
  | meanwhile (store : σ) (publisher : π) (ms : Nat)

def atDesk {σ π : Type} (d : Desk σ π) : Bureau σ π := ⟨d, [], []⟩

variable {σ π : Type} [Store σ] [Publisher π]

/-- The docket with this number makes its next update or carries out its effect. -/
def advance (b : Bureau σ π) (number : Nat) : Bureau σ π :=
  match b.dockets[number]? with
  | some s =>
    match s.pending, s.progress with
    | update :: rest, _ =>
      { b with
        desk := b.desk.update s.started update
        dockets := b.dockets.set number (s.make update rest) }
    | [], .waiting phase =>
      let (desk, reply) := b.desk.carryOut (phase.effect s.lobby)
      { b with
        desk := desk
        dockets := b.dockets.set number (s.exchanged desk.rules ⟨phase, reply⟩) }
    | [], _ => b
  | none => b

def proceed (b : Bureau σ π) (number : Nat) : Bureau σ π :=
  match b.surveys[number]? with
  | some survey =>
    let (desk, next) := b.desk.survey survey
    { b with desk := desk, surveys := b.surveys.set number next }
  | none => b

def step (b : Bureau σ π) : Event σ π → Bureau σ π
  | .enter lobby => { b with dockets := b.dockets ++ [.ofStart lobby b.desk.now] }
  | .advance number => b.advance number
  | .ask => { b with surveys := b.surveys ++ [.asking] }
  | .proceed number => b.proceed number
  | .meanwhile store publisher ms =>
    { b with desk := { b.desk with
        store := store, publisher := publisher, now := b.desk.now + ms } }

def run (b : Bureau σ π) (events : List (Event σ π)) : Bureau σ π := events.foldl step b

theorem run_induct {P : Bureau σ π → Prop} (kept : ∀ b e, P b → P (b.step e)) {b : Bureau σ π}
    (start : P b) (events : List (Event σ π)) : P (b.run events) := by
  induction events generalizing b with
  | nil => exact start
  | cons e rest ih => exact ih (kept b e start)

/-! ### All that an event can do -/

/-- The changes that one event may make. What goes on beside the requests may set the loads that
the metrics show, and nothing else that is counted. -/
inductive Deed (b : Bureau σ π) : Bureau σ π → Prop
  | entered (lobby : String) :
      Deed b { b with dockets := b.dockets ++ [.ofStart lobby b.desk.now] }
  | updated {number : Nat} {s : Docket} {update : Update} {rest : List Update}
      (found : b.dockets[number]? = some s) (next : s.pending = update :: rest) :
      Deed b { b with
        desk := b.desk.update s.started update
        dockets := b.dockets.set number (s.make update rest) }
  | acted {number : Nat} {s : Docket} {phase : Phase} (found : b.dockets[number]? = some s)
      (quiet : s.pending = []) (waiting : s.progress = .waiting phase) :
      Deed b { b with
        desk := (b.desk.carryOut (phase.effect s.lobby)).1
        dockets := b.dockets.set number (s.exchanged b.desk.rules
          ⟨phase, (b.desk.carryOut (phase.effect s.lobby)).2⟩) }
  | aside (desk : Desk σ π) (surveys : List Survey) (rules : desk.rules = b.desk.rules)
      (stats : desk.stats = b.desk.stats)
      (metrics : ∃ loads, desk.metrics = b.desk.metrics.setLoads loads) :
      Deed b ⟨desk, b.dockets, surveys⟩

theorem advance_updating {b : Bureau σ π} {number : Nat} {s : Docket} {update : Update}
    {rest : List Update} (found : b.dockets[number]? = some s) (next : s.pending = update :: rest) :
    b.advance number = { b with
      desk := b.desk.update s.started update
      dockets := b.dockets.set number (s.make update rest) } := by
  simp only [advance, found, next]

theorem advance_acting {b : Bureau σ π} {number : Nat} {s : Docket} {phase : Phase}
    (found : b.dockets[number]? = some s) (quiet : s.pending = [])
    (waiting : s.progress = .waiting phase) :
    b.advance number = { b with
      desk := (b.desk.carryOut (phase.effect s.lobby)).1
      dockets := b.dockets.set number (s.exchanged b.desk.rules
        ⟨phase, (b.desk.carryOut (phase.effect s.lobby)).2⟩) } := by
  simp only [advance, found, quiet, waiting, Desk.carryOut_rules]

theorem advance_deed (b : Bureau σ π) (number : Nat) : Deed b (b.advance number) := by
  have idle : Deed b b := .aside b.desk b.surveys rfl rfl ⟨[], rfl⟩
  cases found : b.dockets[number]? with
  | none =>
    simp only [advance, found]
    exact idle
  | some s =>
    cases pending : s.pending with
    | cons update rest =>
      rw [advance_updating found pending]
      exact .updated found pending
    | nil =>
      cases stands : s.progress with
      | waiting phase =>
        rw [advance_acting found pending stands]
        exact .acted found pending stands
      | answered outcome =>
        simp only [advance, found, pending, stands]
        exact idle
      | crashed =>
        simp only [advance, found, pending, stands]
        exact idle

omit [Publisher π] in
theorem survey_aside (d : Desk σ π) (survey : Survey) :
    (d.survey survey).1.rules = d.rules ∧ (d.survey survey).1.stats = d.stats ∧
      ∃ loads, (d.survey survey).1.metrics = d.metrics.setLoads loads := by
  cases survey with
  | asking =>
    simp only [Desk.survey]
    split <;> exact ⟨rfl, rfl, [], rfl⟩
  | tallying tally =>
    cases tally with
    | reading census => exact ⟨rfl, rfl, [], rfl⟩
    | counted loads => exact ⟨rfl, rfl, loads, rfl⟩
    | failed fault => exact ⟨rfl, rfl, [], rfl⟩
  | ended answer => exact ⟨rfl, rfl, [], rfl⟩

theorem step_deed (b : Bureau σ π) (e : Event σ π) : Deed b (b.step e) := by
  cases e with
  | enter lobby => exact .entered lobby
  | advance number => exact b.advance_deed number
  | ask => exact .aside b.desk (b.surveys ++ [.asking]) rfl rfl ⟨[], rfl⟩
  | proceed number =>
    show Deed b (b.proceed number)
    unfold proceed
    cases b.surveys[number]? with
    | none => exact .aside b.desk b.surveys rfl rfl ⟨[], rfl⟩
    | some survey =>
      obtain ⟨rules, stats, metrics⟩ := survey_aside b.desk survey
      exact .aside _ _ rules stats metrics
  | meanwhile store publisher ms => exact .aside _ b.surveys rfl rfl ⟨[], rfl⟩

omit [Store σ] [Publisher π] in
theorem update_rules (d : Desk σ π) (started : Nat) (update : Update) :
    (d.update started update).rules = d.rules := by
  cases update <;> rfl

theorem step_rules (b : Bureau σ π) (e : Event σ π) : (b.step e).desk.rules = b.desk.rules := by
  have deed := b.step_deed e
  generalize b.step e = c at deed
  cases deed with
  | entered lobby => rfl
  | updated found next => exact update_rules ..
  | acted found quiet waiting => exact Desk.carryOut_rules ..
  | aside desk surveys rules stats metrics => exact rules

theorem run_rules (b : Bureau σ π) (events : List (Event σ π)) :
    (b.run events).desk.rules = b.desk.rules :=
  run_induct (P := fun c => c.desk.rules = b.desk.rules)
    (fun c e same => (step_rules c e).trans same) rfl events

/-! ### Requests and surveys that are not interrupted -/

theorem run_append (b : Bureau σ π) (first second : List (Event σ π)) :
    b.run (first ++ second) = (b.run first).run second :=
  List.foldl_append

theorem updating_all {b : Bureau σ π} {number : Nat} {s : Docket}
    (found : b.dockets[number]? = some s) :
    b.run (List.replicate s.pending.length (.advance number)) = { b with
      desk := b.desk.updateAll s.started s.pending
      dockets := b.dockets.set number s.madeAll } := by
  obtain ⟨inRange, here⟩ := List.getElem?_eq_some_iff.mp found
  generalize updates : s.pending = pending
  induction pending generalizing b s with
  | nil =>
    have unmade : s.madeAll = s := by
      rw [Docket.madeAll, updates, List.append_nil, ← updates]
    have same : b.dockets.set number s.madeAll = b.dockets := by
      rw [unmade, ← here, List.set_getElem_self]
    rw [same]
    rfl
  | cons update rest ih =>
    have first := advance_updating found updates
    have foundThen : (b.advance number).dockets[number]? = some (s.make update rest) := by
      rw [first]
      exact List.getElem?_set_self inRange
    obtain ⟨inRangeThen, hereThen⟩ := List.getElem?_eq_some_iff.mp foundThen
    have whole : (s.make update rest).madeAll = s.madeAll := by
      simp only [Docket.madeAll, Docket.make, updates, List.append_assoc, List.singleton_append]
    show (b.advance number).run (List.replicate rest.length (.advance number)) = _
    rw [ih foundThen inRangeThen hereThen rfl, whole, first, List.set_set]
    rfl

/-- A request that carries out its effect and then makes all its updates has made the step that it
makes at the desk. -/
theorem made_all {b : Bureau σ π} {number : Nat} {s : Docket} {phase : Phase}
    (found : b.dockets[number]? = some s) (quiet : s.pending = [])
    (waiting : s.progress = .waiting phase) :
    ∃ rounds next, b.run (List.replicate rounds (.advance number)) = { b with
        desk := (b.desk.step ⟨s.lobby, s.started, phase⟩).1
        dockets := b.dockets.set number next } ∧
      next.lobby = s.lobby ∧ next.started = s.started ∧ next.pending = [] ∧
      next.progress = (b.desk.step ⟨s.lobby, s.started, phase⟩).2 := by
  have inRange := (List.getElem?_eq_some_iff.mp found).1
  have acted := advance_acting found quiet waiting
  let x : Exchange s.lobby := ⟨phase, (b.desk.carryOut (phase.effect s.lobby)).2⟩
  let next := s.exchanged b.desk.rules x
  have foundThen : (b.advance number).dockets[number]? = some next := by
    rw [acted]
    exact List.getElem?_set_self inRange
  have made := updating_all foundThen
  have stepped : ((b.advance number).desk.updateAll s.started next.pending) =
      (b.desk.step ⟨s.lobby, s.started, phase⟩).1 := by
    rw [acted]
    show Desk.updateAll _ s.started (List.flatMap Note.updates _) = _
    rw [Desk.updateAll_flatMap]
    simp only [Desk.step, Desk.carryOut_rules]
    rfl
  refine ⟨next.pending.length + 1, next.madeAll, ?_, rfl, rfl, rfl, ?_⟩
  · show (b.advance number).run (List.replicate _ (.advance number)) = _
    rw [made, show next.started = s.started from rfl, stepped, acted, List.set_set]
  · simp only [Desk.step, Desk.carryOut_rules]
    rfl

theorem finished_alone (d : Desk σ π) (lobby : String) (started : Nat) (p : Progress)
    {b : Bureau σ π} {number : Nat} {s : Docket} (desk : b.desk = d)
    (found : b.dockets[number]? = some s) (quiet : s.pending = []) (mine : s.lobby = lobby)
    (since : s.started = started) (stands : s.progress = p) :
    ∃ rounds next, b.run (List.replicate rounds (.advance number)) = { b with
        desk := (d.finish lobby started p).1
        dockets := b.dockets.set number next } ∧
      next.pending = [] ∧ next.progress = (d.finish lobby started p).2.progress := by
  obtain ⟨inRange, here⟩ := List.getElem?_eq_some_iff.mp found
  have still : b.dockets.set number s = b.dockets := by
    rw [← here, List.set_getElem_self]
  -- Each step of the request at the desk is a block of events here, of which its docket keeps the
  -- number; the blocks are joined one after the other.
  fun_induction d.finish lobby started p generalizing b s with
  | case1 d outcome => exact ⟨0, s, by rw [still, ← desk]; rfl, quiet, stands⟩
  | case2 d => exact ⟨0, s, by rw [still, ← desk]; rfl, quiet, stands⟩
  | case3 d phase next =>
    rename_i ih
    subst desk mine since
    obtain ⟨rounds, later, stepped, same, begun, quietThen, standsThen⟩ :=
      made_all found quiet stands
    have foundThen : (b.run (List.replicate rounds (.advance number))).dockets[number]? =
        some later := by
      rw [stepped]
      exact List.getElem?_set_self inRange
    obtain ⟨inRangeThen, hereThen⟩ := List.getElem?_eq_some_iff.mp foundThen
    have stillThen := (b.run (List.replicate rounds (.advance number))).dockets.set_getElem_self
      inRangeThen
    rw [hereThen] at stillThen
    obtain ⟨more, last, finished, quietLast, standsLast⟩ :=
      ih (congrArg Bureau.desk stepped) foundThen quietThen same begun standsThen inRangeThen
        hereThen stillThen
    refine ⟨rounds + more, last, ?_, quietLast, standsLast⟩
    rw [← List.replicate_append_replicate, run_append, finished, stepped, List.set_set]

/-- A request that is not interrupted leaves the desk as it does there, with the same answer. -/
theorem resolved_alone (b : Bureau σ π) (lobby : String) :
    ∃ rounds next,
      b.run (.enter lobby :: List.replicate rounds (.advance b.dockets.length)) = { b with
        desk := (b.desk.resolve lobby).1
        dockets := b.dockets ++ [next] } ∧
      next.pending = [] ∧ next.progress = (b.desk.resolve lobby).2.progress := by
  let first := Docket.ofStart lobby b.desk.now
  let begun : Bureau σ π :=
    { b with desk := (b.desk.begin lobby).1, dockets := b.dockets ++ [first.madeAll] }
  have replaced : ∀ s t : Docket, (b.dockets ++ [s]).set b.dockets.length t = b.dockets ++ [t] := by
    intro s t
    simp
  have began : (b.step (.enter lobby)).run
      (List.replicate first.pending.length (.advance b.dockets.length)) = begun := by
    have told : b.desk.updateAll b.desk.now first.pending = (b.desk.begin lobby).1 :=
      Desk.updateAll_flatMap ..
    have found : (b.step (.enter lobby)).dockets[b.dockets.length]? = some first :=
      List.getElem?_concat_length
    rw [updating_all found]
    simp only [step, replaced, begun]
    rw [← told]
    rfl
  have found : begun.dockets[b.dockets.length]? = some first.madeAll :=
    List.getElem?_concat_length
  obtain ⟨rounds, next, finished, quiet, stands⟩ :=
    finished_alone _ lobby b.desk.now (Placement.start lobby).progress rfl found rfl rfl rfl rfl
  refine ⟨first.pending.length + rounds, next, ?_, quiet, stands⟩
  show (b.step (.enter lobby)).run (List.replicate (first.pending.length + rounds) _) = _
  rw [← List.replicate_append_replicate, run_append, began, finished]
  simp only [begun, replaced]
  rfl

theorem proceeded {b : Bureau σ π} {number : Nat} {survey : Survey}
    (found : b.surveys[number]? = some survey) :
    b.run [.proceed number] = { b with
      desk := (b.desk.survey survey).1
      surveys := b.surveys.set number (b.desk.survey survey).2 } := by
  show b.proceed number = _
  simp only [proceed, found]

theorem tallied_alone (s : σ) (tally : Tally) {b : Bureau σ π} {number : Nat}
    (store : b.desk.store = s) (found : b.surveys[number]? = some (.tallying tally)) :
    ∃ rounds, b.run (List.replicate rounds (.proceed number)) = { b with
      desk := match tally.finish s with
        | (store, .ok loads) =>
          { b.desk with store := store, metrics := b.desk.metrics.setLoads loads }
        | (store, .error _) => { b.desk with store := store }
      surveys := b.surveys.set number (.ended (tally.finish s).2) } := by
  fun_induction tally.finish s generalizing b with
  | case1 s loads =>
    subst store
    exact ⟨1, proceeded found⟩
  | case2 s fault =>
    subst store
    exact ⟨1, proceeded found⟩
  | case3 s census behind reply replied =>
    rename_i ih
    subst store
    have performed : Store.perform b.desk.store (.get census.key) = (behind, reply) := replied
    have inRange := (List.getElem?_eq_some_iff.mp found).1
    have read : b.run [.proceed number] = { b with
        desk := { b.desk with store := behind }
        surveys := b.surveys.set number (.tallying (census.read reply)) } := by
      rw [proceeded found]
      simp only [Desk.survey, performed]
    have foundThen : (b.run [.proceed number]).surveys[number]? =
        some (.tallying (census.read reply)) := by
      rw [read]
      exact List.getElem?_set_self inRange
    obtain ⟨rounds, counted⟩ := ih (b := b.run [.proceed number]) (by rw [read]) foundThen
    refine ⟨1 + rounds, ?_⟩
    rw [← List.replicate_append_replicate, run_append]
    show (b.run [.proceed number]).run _ = _
    rw [counted, read, List.set_set]

/-- A survey that is not interrupted counts what is counted at the desk. -/
theorem surveyed_alone (b : Bureau σ π) :
    ∃ rounds, b.run (.ask :: List.replicate rounds (.proceed b.surveys.length)) = { b with
      desk := b.desk.loads.1
      surveys := b.surveys ++ [.ended b.desk.loads.2] } := by
  let asked := b.step .ask
  have found : asked.surveys[b.surveys.length]? = some .asking := List.getElem?_concat_length
  have replaced : ∀ s t : Survey,
      (b.surveys ++ [s]).set b.surveys.length t = b.surveys ++ [t] := by
    intro s t
    simp
  by_cases empty : b.desk.rules.pool.servers.isEmpty = true
  · refine ⟨1, ?_⟩
    show asked.run [.proceed b.surveys.length] = _
    rw [proceeded found]
    simp only [asked, step, replaced, Desk.survey, Desk.loads, Census.count, empty, if_true]
  · let reply := (Store.perform b.desk.store (.scan everyKey)).2
    let tally := Tally.ofListing b.desk.rules.pool.servers reply
    let listed : Bureau σ π :=
      { b with
        desk := { b.desk with store := (Store.perform b.desk.store (.scan everyKey)).1 }
        surveys := b.surveys ++ [.tallying tally] }
    have scanned : asked.run [.proceed b.surveys.length] = listed := by
      rw [proceeded found]
      simp only [asked, step, replaced, Desk.survey, empty]
      rfl
    have foundThen : listed.surveys[b.surveys.length]? = some (.tallying tally) :=
      List.getElem?_concat_length
    obtain ⟨rounds, counted⟩ := tallied_alone _ tally rfl foundThen
    refine ⟨1 + rounds, ?_⟩
    show asked.run (List.replicate (1 + rounds) _) = _
    rw [← List.replicate_append_replicate, run_append]
    show (asked.run [.proceed b.surveys.length]).run _ = _
    rw [scanned, counted]
    simp only [listed, replaced, tally, reply, Desk.loads, Census.count, empty, Bool.false_eq_true,
      if_false]
    rcases (Tally.ofListing _ _).finish _ with ⟨store, fault | loads⟩ <;> rfl

end Bureau

end LobbyPlacement

import LobbyPlacement.Proofs.Placement.View
import LobbyPlacement.Proofs.Publisher

/-!
# Errands, one after the other

What a desk is asked in turn: every errand is a call of the coordinator that is brought to its end
before the next one begins, and the store's weather changes only in between. `Desk.visits` lists the
errands with their answers and with the desk before and after each. Two desks with one store that
are asked the same can be compared step by step: `finish_related` brings a relation of two requests
to their ends, and `Paired.visits` carries a relation of two desks through all errands.
-/

namespace LobbyPlacement

/-- What may be asked of a desk or happen to it between two questions. -/
inductive Errand (ω : Type)
  | resolve (lobby : String)
  | assign (lobby : String)
  | lookup (lobby : String)
  | loads
  | weather (w : ω)
  | elapse (ms : Nat)

namespace Errand

inductive Answer
  | left (leaving : Desk.Leaving)
  | assigned (server? : Option (Except Fault String))
  | found (answer : Except Fault (Option String))
  | counted (answer : Except Fault (List Load))
  | done

/-- The time that passes by itself, without a request. -/
def idle {ω : Type} : Errand ω → Nat
  | elapse ms => ms
  | _ => 0

end Errand

namespace Desk

/-- Only the server of an answer; there is none if the request was lost. -/
def Leaving.server? : Leaving → Option (Except Fault String)
  | answered outcome => some (outcome.map Placed.server)
  | crashed => none

def Leaving.progress : Leaving → Progress
  | answered outcome => .answered outcome
  | crashed => .crashed

theorem Leaving.progress_injective {l m : Leaving} (same : l.progress = m.progress) : l = m := by
  cases l <;> cases m <;> simp_all [progress]

def withPublisher {σ π ρ : Type} (d : Desk σ π) (publisher : ρ) : Desk σ ρ :=
  ⟨d.rules, d.store, publisher, d.now, d.stats, d.metrics⟩

def logged {σ π : Type} (d : Desk σ π) : Desk σ (Logged π) := d.withPublisher ⟨d.publisher, []⟩

def unlogged {σ π : Type} (d : Desk σ (Logged π)) : Desk σ π := d.withPublisher d.publisher.inner

end Desk

structure Visit (ω σ π : Type) where
  before : Desk σ π
  errand : Errand ω
  answer : Errand.Answer
  after : Desk σ π

def Visit.unlogged {ω σ π : Type} (visit : Visit ω σ (Logged π)) : Visit ω σ π :=
  ⟨visit.before.unlogged, visit.errand, visit.answer, visit.after.unlogged⟩

namespace Desk

section Visits

variable {σ π : Type} [Store σ] [Ledger σ] [Publisher π]

def attend (d : Desk σ π) : Errand (Ledger.Weather σ) → Desk σ π × Errand.Answer
  | .resolve lobby => let (d, leaving) := d.resolve lobby; (d, .left leaving)
  | .assign lobby => let (d, leaving) := d.resolve lobby; (d, .assigned leaving.server?)
  | .lookup lobby => let (d, answer) := d.lookup lobby; (d, .found answer)
  | .loads => let (d, answer) := d.loads; (d, .counted answer)
  | .weather w => ({ d with store := Ledger.weather d.store w }, .done)
  | .elapse ms => ({ d with now := d.now + ms }, .done)

def visits (d : Desk σ π) :
    List (Errand (Ledger.Weather σ)) → List (Visit (Ledger.Weather σ) σ π)
  | [] => []
  | errand :: rest =>
    let (after, answer) := d.attend errand
    ⟨d, errand, answer, after⟩ :: after.visits rest

theorem visits_kept {P : Desk σ π → Prop} (kept : ∀ d errand, P d → P (d.attend errand).1)
    {d : Desk σ π} (start : P d) {errands : List (Errand (Ledger.Weather σ))}
    {visit : Visit (Ledger.Weather σ) σ π} (made : visit ∈ d.visits errands) :
    P visit.before ∧ (visit.after, visit.answer) = visit.before.attend visit.errand := by
  induction errands generalizing d with
  | nil => cases made
  | cons errand rest ih =>
    rcases List.mem_cons.mp made with rfl | later
    · exact ⟨start, rfl⟩
    · exact ih (kept d errand start) later

end Visits

/-! ### Two requests side by side -/

section Related

variable {σ τ π ρ : Type} [Store σ] [Store τ] [Publisher π] [Publisher ρ]

omit [Store τ] [Publisher ρ] in
theorem finish_left (d : Desk σ π) (lobby : String) (started : Nat) (leaving : Leaving) :
    d.finish lobby started leaving.progress = (d, leaving) := by
  cases leaving <;> rw [Leaving.progress, finish]

/-- Two requests that stay related from one step to the next, whatever stores and publishers they
have, end together and related. -/
theorem finish_related {lobby : String} {started startedToo : Nat}
    {R : Desk σ π → Progress → Desk τ ρ → Progress → Prop}
    (waits : ∀ {d e phase q}, R d (.waiting phase) e q → ∃ phaseToo, q = .waiting phaseToo ∧
      R (d.step ⟨lobby, started, phase⟩).1 (d.step ⟨lobby, started, phase⟩).2
        (e.step ⟨lobby, startedToo, phaseToo⟩).1 (e.step ⟨lobby, startedToo, phaseToo⟩).2)
    (ends : ∀ {d e q} (leaving : Leaving), R d leaving.progress e q →
      ∃ leavingToo : Leaving, q = leavingToo.progress)
    {d : Desk σ π} {e : Desk τ ρ} {p q : Progress} (related : R d p e q) :
    R (d.finish lobby started p).1 (d.finish lobby started p).2.progress
      (e.finish lobby startedToo q).1 (e.finish lobby startedToo q).2.progress := by
  -- The first request sets the pace: a waiting step of it is one of the other, by `waits`.
  fun_induction d.finish lobby started p generalizing e q with
  | case1 d outcome =>
    obtain ⟨leavingToo, rfl⟩ := ends (.answered outcome) related
    rw [finish_left]
    exact related
  | case2 d =>
    obtain ⟨leavingToo, rfl⟩ := ends .crashed related
    rw [finish_left]
    exact related
  | case3 d phase next =>
    rename_i ih
    obtain ⟨phaseToo, rfl, relatedThen⟩ := waits related
    rw [finish]
    exact ih relatedThen

end Related

/-! ### Two desks with one store -/

section Pairs

variable {σ π ρ : Type} [Store σ] [Publisher π] [Publisher ρ]

/-- Two requests stay related from one step to the next, and end together. -/
structure InStep (lobby : String) (started startedToo : Nat)
    (R : Desk σ π → Progress → Desk σ ρ → Progress → Prop) : Prop where
  waits : ∀ {d e phase q}, R d (.waiting phase) e q → ∃ phaseToo, q = .waiting phaseToo ∧
    R (d.step ⟨lobby, started, phase⟩).1 (d.step ⟨lobby, started, phase⟩).2
      (e.step ⟨lobby, startedToo, phaseToo⟩).1 (e.step ⟨lobby, startedToo, phaseToo⟩).2
  ends : ∀ {d e q} (leaving : Leaving), R d leaving.progress e q → q = leaving.progress

theorem finish_in_step {lobby : String} {started startedToo : Nat}
    {R : Desk σ π → Progress → Desk σ ρ → Progress → Prop}
    (inStep : InStep lobby started startedToo R) {d : Desk σ π} {e : Desk σ ρ} {p q : Progress}
    (related : R d p e q) :
    ∃ leaving, (d.finish lobby started p).2 = leaving ∧ (e.finish lobby startedToo q).2 = leaving ∧
      R (d.finish lobby started p).1 leaving.progress
        (e.finish lobby startedToo q).1 leaving.progress := by
  have relatedEnd := finish_related (R := R) inStep.waits
    (fun leaving ended => ⟨leaving, inStep.ends leaving ended⟩) related
  have same := inStep.ends _ relatedEnd
  rw [same] at relatedEnd
  exact ⟨_, rfl, Leaving.progress_injective same, relatedEnd⟩

/-- Desks with the same store and pool that stay related whatever they are asked. -/
structure Paired (R : Desk σ π → Desk σ ρ → Prop) : Prop where
  store : ∀ {d e}, R d e → d.store = e.store
  pool : ∀ {d e}, R d e → d.rules.pool = e.rules.pool
  stocked : ∀ {d e}, R d e → ∀ s, R { d with store := s } { e with store := s }
  loaded : ∀ {d e}, R d e → ∀ loads,
    R { d with metrics := d.metrics.setLoads loads } { e with metrics := e.metrics.setLoads loads }
  elapsed : ∀ {d e}, R d e → ∀ ms,
    R { d with now := d.now + ms } { e with now := e.now + ms }
  resolved : ∀ {d e}, R d e → ∀ lobby,
    (d.resolve lobby).2 = (e.resolve lobby).2 ∧ R (d.resolve lobby).1 (e.resolve lobby).1

namespace Paired

variable {R : Desk σ π → Desk σ ρ → Prop}

theorem lookup (paired : Paired R) {d : Desk σ π} {e : Desk σ ρ} (related : R d e)
    (lobby : String) :
    (d.lookup lobby).2 = (e.lookup lobby).2 ∧ R (d.lookup lobby).1 (e.lookup lobby).1 := by
  have store := paired.store related
  unfold Desk.lookup
  cases Placement.checkLobby lobby with
  | error fault => exact ⟨rfl, related⟩
  | ok =>
    dsimp only
    rw [store]
    exact ⟨rfl, paired.stocked related _⟩

theorem loads (paired : Paired R) {d : Desk σ π} {e : Desk σ ρ} (related : R d e) :
    d.loads.2 = e.loads.2 ∧ R d.loads.1 e.loads.1 := by
  have store := paired.store related
  have pool := paired.pool related
  unfold Desk.loads
  rw [store, pool]
  rcases Census.count e.store e.rules.pool.servers with ⟨s, fault | counted⟩
  · exact ⟨rfl, paired.stocked related s⟩
  · exact ⟨rfl, paired.loaded (paired.stocked related s) counted⟩

variable [Ledger σ]

theorem attend (paired : Paired R) {d : Desk σ π} {e : Desk σ ρ} (related : R d e)
    (errand : Errand (Ledger.Weather σ)) :
    (d.attend errand).2 = (e.attend errand).2 ∧ R (d.attend errand).1 (e.attend errand).1 := by
  cases errand with
  | resolve lobby =>
    obtain ⟨same, relatedThen⟩ := paired.resolved related lobby
    exact ⟨congrArg Errand.Answer.left same, relatedThen⟩
  | assign lobby =>
    obtain ⟨same, relatedThen⟩ := paired.resolved related lobby
    exact ⟨congrArg (fun leaving : Leaving => Errand.Answer.assigned leaving.server?) same,
      relatedThen⟩
  | lookup lobby =>
    obtain ⟨same, relatedThen⟩ := paired.lookup related lobby
    exact ⟨congrArg Errand.Answer.found same, relatedThen⟩
  | loads =>
    obtain ⟨same, relatedThen⟩ := paired.loads related
    exact ⟨congrArg Errand.Answer.counted same, relatedThen⟩
  | weather w =>
    refine ⟨rfl, ?_⟩
    have restocked := paired.stocked related (Ledger.weather d.store w)
    have store := paired.store related
    rw [store] at restocked
    show R { d with store := Ledger.weather d.store w } { e with store := Ledger.weather e.store w }
    rw [store]
    exact restocked
  | elapse ms => exact ⟨rfl, paired.elapsed related ms⟩

/-- Related desks that are asked the same agree, visit for visit, on all that the relation and the
answers determine. -/
theorem visits_map (paired : Paired R) {α : Type} {f : Visit (Ledger.Weather σ) σ π → α}
    {g : Visit (Ledger.Weather σ) σ ρ → α}
    (agree : ∀ {d d' e e'} errand answer, R d e → R d' e' →
      f ⟨d, errand, answer, d'⟩ = g ⟨e, errand, answer, e'⟩)
    {d : Desk σ π} {e : Desk σ ρ} (related : R d e) (errands : List (Errand (Ledger.Weather σ))) :
    (d.visits errands).map f = (e.visits errands).map g := by
  induction errands generalizing d e with
  | nil => rfl
  | cons errand rest ih =>
    obtain ⟨same, relatedThen⟩ := paired.attend related errand
    simp only [visits, List.map_cons, ih relatedThen, same,
      agree errand (e.attend errand).2 related relatedThen]

end Paired

end Pairs

/-! ### Logs -/

section Logs

variable {σ π : Type}

variable [Store σ] [Publisher π]

theorem unlogged_resolve (d : Desk σ (Logged π)) (lobby : String) :
    d.unlogged.resolve lobby = ((d.resolve lobby).1.unlogged, (d.resolve lobby).2) :=
  view_resolve (f := id) (g := Logged.inner) (fun _ _ => rfl) (fun _ _ _ _ _ => rfl) d lobby

theorem unlogged_paired : Paired fun (d : Desk σ (Logged π)) (e : Desk σ π) => e = d.unlogged where
  store same := by rw [same]; rfl
  pool same := by rw [same]; rfl
  stocked same s := by rw [same]; rfl
  loaded same loads := by rw [same]; rfl
  elapsed same ms := by rw [same]; rfl
  resolved {d e} same lobby := by
    rw [same, unlogged_resolve]
    exact ⟨rfl, rfl⟩

/-- A log changes nothing: without it, the visits to a desk with a log are those to the desk. -/
theorem unlogged_visits [Ledger σ] (d : Desk σ (Logged π))
    (errands : List (Errand (Ledger.Weather σ))) :
    (d.visits errands).map Visit.unlogged = d.unlogged.visits errands := by
  have agree : ∀ {d d' : Desk σ (Logged π)} {e e' : Desk σ π}
      (errand : Errand (Ledger.Weather σ)) answer, e = d.unlogged → e' = d'.unlogged →
      Visit.unlogged ⟨d, errand, answer, d'⟩ = id ⟨e, errand, answer, e'⟩ := by
    rintro d d' _ _ errand answer rfl rfl
    rfl
  exact (unlogged_paired.visits_map agree rfl errands).trans (List.map_id _)

end Logs

end Desk

end LobbyPlacement

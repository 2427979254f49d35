import LobbyPlacement.Proofs.Placement.Replay
import LobbyPlacement.Proofs.Store.Troubled

/-!
# Failed requests leave no trace

Requests served one after another, each with its own plan of store faults. A request goes by the
trace of the desk, that is everything but its counters, and a request that fails has not touched it:
`failed_requests_leave_no_trace` takes all failed requests out of a day's list and finds the others
answered as before.
-/

namespace LobbyPlacement

/-- What requests leave behind at a desk apart from how they are counted: the stored entries, the
publisher with what it was given, the clock and the number of placements. -/
structure Trace (σ π : Type) where
  rules : Rules
  store : σ
  publisher : π
  now : Nat
  created : Nat

/-- The trace seen through another store. -/
def Trace.mapStore {σ τ π : Type} (f : σ → τ) (t : Trace σ π) : Trace τ π :=
  ⟨t.rules, f t.store, t.publisher, t.now, t.created⟩

namespace Desk

variable {σ π : Type}

def trace (d : Desk σ π) : Trace σ π := ⟨d.rules, d.store, d.publisher, d.now, d.stats.created⟩

theorem trace_recordAll (d : Desk σ π) (started : Nat) (notes : List Note) :
    (d.recordAll started notes).trace =
      { d.trace with created := d.trace.created + notes.countP Note.isCreated } := by
  simp only [trace, recordAll_rules, recordAll_store, recordAll_publisher, recordAll_now,
    recordAll_created]

theorem trace_begin (d : Desk σ π) (lobby : String) : (d.begin lobby).1.trace = d.trace := by
  simp only [begin, trace_recordAll, Placement.created_start, Nat.add_zero]

/-! ### A request goes by the trace -/

/-- Desks with one trace differ in what they have counted. -/
theorem eq_of_trace {d e : Desk σ π} (same : d.trace = e.trace) :
    ∃ stats metrics, e = { d with stats := stats, metrics := metrics } ∧
      stats.created = d.stats.created := by
  obtain ⟨rules, store, publisher, now, stats, metrics⟩ := d
  obtain ⟨rules', store', publisher', now', stats', metrics'⟩ := e
  unfold trace at same
  injection same with rules store publisher now created
  dsimp only at rules store publisher now created
  subst rules store publisher now
  exact ⟨stats', metrics', rfl, created.symm⟩

variable [Store σ] [Publisher π]

theorem carryOut_uncounted (d : Desk σ π) (stats : Stats) (metrics : Metrics) (e : Effect) :
    ({ d with stats := stats, metrics := metrics } : Desk σ π).carryOut e =
      ({ (d.carryOut e).1 with stats := stats, metrics := metrics }, (d.carryOut e).2) := by
  cases e with
  | store call => rfl
  | announce a =>
    simp only [carryOut]
    rw [announce_eq, announce_eq]

theorem step_of_trace {d e : Desk σ π} (same : d.trace = e.trace) (t : Ticket) :
    (d.step t).2 = (e.step t).2 ∧ (d.step t).1.trace = (e.step t).1.trace := by
  obtain ⟨stats, metrics, rfl, created⟩ := eq_of_trace same
  have counted := carryOut_stats d (t.phase.effect t.lobby)
  simp only [step, carryOut_uncounted, trace_recordAll]
  refine ⟨trivial, ?_⟩
  simp only [trace, counted, created]

theorem finish_of_trace {d e : Desk σ π} (same : d.trace = e.trace) (lobby : String)
    (started : Nat) (p : Progress) :
    (d.finish lobby started p).2 = (e.finish lobby started p).2 ∧
      (d.finish lobby started p).1.trace = (e.finish lobby started p).1.trace := by
  fun_induction d.finish lobby started p generalizing e with
  | case1 d outcome =>
    rw [finish]
    exact ⟨rfl, same⟩
  | case2 d =>
    rw [finish]
    exact ⟨rfl, same⟩
  | case3 d phase next =>
    rename_i ih
    obtain ⟨progress, later⟩ := step_of_trace same ⟨lobby, started, phase⟩
    rw [finish, ← progress]
    exact ih later

theorem resolve_of_trace {d e : Desk σ π} (same : d.trace = e.trace) (lobby : String) :
    (d.resolve lobby).2 = (e.resolve lobby).2 ∧
      (d.resolve lobby).1.trace = (e.resolve lobby).1.trace := by
  have now : d.now = e.now := congrArg Trace.now same
  have begun : (d.begin lobby).1.trace = (e.begin lobby).1.trace := by
    rw [trace_begin, trace_begin, same]
  simp only [resolve, now]
  exact finish_of_trace begun lobby e.now (Placement.start lobby).progress

/-! ### Requests that fail -/

/-- The request was answered with a fault. -/
def Leaving.isFailure : Leaving → Bool
  | .answered (.error _) => true
  | _ => false

/-- A request that has written is not answered with a fault any more. -/
theorem finish_of_written [Ledger σ] (d : Desk σ π) (lobby : String) (started : Nat)
    {p : Progress} (written : p.hasWritten = true) :
    (d.finish lobby started p).2.isFailure = false := by
  fun_induction d.finish lobby started p with
  | case1 d outcome =>
    rcases outcome with _ | _
    · cases written
    · rfl
  | case2 d => rfl
  | case3 d phase next =>
    rename_i ih
    have moved := (d.step_moves ⟨lobby, started, phase⟩).deed.2
    rw [written] at moved
    refine ih ?_
    cases still : next.2.hasWritten with
    | true => rfl
    | false =>
      rw [still] at moved
      cases moved

/-- Before its write a request publishes nothing and takes no time. -/
theorem step_of_unwritten (d : Desk σ π) {t : Ticket}
    (unwritten : (Progress.waiting t.phase).hasWritten = false) :
    (d.step t).1.publisher = d.publisher ∧ (d.step t).1.now = d.now := by
  obtain ⟨lobby, started, phase⟩ := t
  cases phase with
  | announcing server => cases unwritten
  | looking | listing | counting _ | claiming _ | overwriting _ | adopting =>
    exact ⟨recordAll_publisher _ _ _, recordAll_now _ _ _⟩

end Desk

/-! ### Faults by plan -/

namespace Desk

variable {π : Type}

/-- The desk with a plan of troubles in front of its store. -/
def troubled (d : Desk MemoryStore π) (plan : List Trouble) : Desk (Troubled MemoryStore) π :=
  ⟨d.rules, ⟨d.store, plan⟩, d.publisher, d.now, d.stats, d.metrics⟩

/-- The desk with nothing in front of its store. -/
def calmed (d : Desk (Troubled MemoryStore) π) : Desk MemoryStore π :=
  ⟨d.rules, d.store.inner, d.publisher, d.now, d.stats, d.metrics⟩

variable [Publisher π]

theorem available_carryOut (d : Desk (Troubled MemoryStore) π) (e : Effect) :
    (d.carryOut e).1.store.inner.available = d.store.inner.available := by
  cases e with
  | store call => exact d.store.available_perform call
  | announce a => exact congrArg (fun s => s.inner.available) (announce_frame d a).2

/-- A step after which nothing is written leaves no trace. -/
theorem trace_calmed_step (d : Desk (Troubled MemoryStore) π) {t : Ticket}
    (unwritten : (Progress.waiting t.phase).hasWritten = false)
    (still : (d.step t).2.hasWritten = false) : (d.step t).1.calmed.trace = d.calmed.trace := by
  have nothing := Progress.deed_of_not_written still t.lobby
  obtain ⟨publisher, now⟩ := d.step_of_unwritten unwritten
  have created : (d.step t).1.stats.created = d.stats.created := by
    rw [step_created, nothing]
    rfl
  have table : (d.step t).1.store.inner.table = d.store.inner.table := by
    have replayed := (d.step_moves t).deed.1
    rw [nothing] at replayed
    exact replayed
  have available : (d.step t).1.store.inner.available = d.store.inner.available := by
    simp only [step, recordAll_store, available_carryOut]
  have store : (d.step t).1.store.inner = d.store.inner :=
    congrArg₂ MemoryStore.mk table available
  simp only [trace, calmed, step_rules, publisher, now, created, store]

theorem trace_of_failure (d : Desk (Troubled MemoryStore) π) (lobby : String) (started : Nat)
    {p : Progress} (unwritten : p.hasWritten = false)
    (failed : (d.finish lobby started p).2.isFailure = true) :
    (d.finish lobby started p).1.calmed.trace = d.calmed.trace := by
  -- Once it has written it does not fail any more, so the induction stays before the write.
  fun_induction d.finish lobby started p with
  | case1 d outcome => rfl
  | case2 d => rfl
  | case3 d phase next =>
    rename_i ih
    cases still : next.2.hasWritten with
    | true =>
      rw [finish_of_written next.1 lobby started still] at failed
      cases failed
    | false => exact (ih still failed).trans (d.trace_calmed_step unwritten still)

end Desk

/-! ### A day's requests -/

/-- What happens next to a desk at which requests are served one by one: a request with the faults
that await its store calls, or a change of the publisher and the time before the next one. -/
inductive Occasion (π : Type)
  | request (lobby : String) (plan : List Trouble)
  | meanwhile (publisher : π → π) (ms : Nat)

/-- An occasion and how the request left, if it was one. -/
structure Entry (π : Type) where
  occasion : Occasion π
  leaving : Option Desk.Leaving

namespace Entry

variable {π : Type}

def isFailure (e : Entry π) : Bool := e.leaving.any Desk.Leaving.isFailure

/-- A log without the requests that failed. -/
def kept (log : List (Entry π)) : List (Entry π) := log.filter fun e => !e.isFailure

theorem kept_cons_of_failure {e : Entry π} (failed : e.isFailure = true) (log : List (Entry π)) :
    kept (e :: log) = kept log :=
  List.filter_cons_of_neg (by simp [failed])

theorem kept_cons_of_not_failure {e : Entry π} (answered : e.isFailure = false)
    (log : List (Entry π)) : kept (e :: log) = e :: kept log :=
  List.filter_cons_of_pos (by simp [answered])

end Entry

namespace Desk

variable {π : Type} [Publisher π]

/-- The request is begun and brought to its end; what is left of its plan is dropped. -/
def serve (d : Desk MemoryStore (Watched π)) :
    Occasion π → Desk MemoryStore (Watched π) × Entry π
  | .request lobby plan =>
    let (after, leaving) := (d.troubled plan).resolve lobby
    (after.calmed, ⟨.request lobby plan, some leaving⟩)
  | .meanwhile publisher ms =>
    ({ d with
        publisher := { d.publisher with inner := publisher d.publisher.inner }
        now := d.now + ms }, ⟨.meanwhile publisher ms, none⟩)

def serveAll (d : Desk MemoryStore (Watched π)) :
    List (Occasion π) → Desk MemoryStore (Watched π) × List (Entry π)
  | [] => (d, [])
  | occasion :: rest =>
    let (next, entry) := d.serve occasion
    let (last, log) := next.serveAll rest
    (last, entry :: log)

theorem serve_of_trace {d e : Desk MemoryStore (Watched π)} (same : d.trace = e.trace)
    (occasion : Occasion π) :
    (d.serve occasion).2 = (e.serve occasion).2 ∧
      (d.serve occasion).1.trace = (e.serve occasion).1.trace := by
  cases occasion with
  | request lobby plan =>
    have troubled : (d.troubled plan).trace = (e.troubled plan).trace :=
      congrArg (Trace.mapStore fun store => Troubled.mk store plan) same
    obtain ⟨leaving, after⟩ := resolve_of_trace troubled lobby
    exact ⟨congrArg (fun left => Entry.mk (.request lobby plan) (some left)) leaving,
      congrArg (Trace.mapStore Troubled.inner) after⟩
  | meanwhile publisher ms =>
    obtain ⟨stats, metrics, rfl, created⟩ := eq_of_trace same
    refine ⟨rfl, ?_⟩
    simp only [serve, trace, created]

theorem trace_of_failed_request (d : Desk MemoryStore (Watched π)) (occasion : Occasion π)
    (failed : (d.serve occasion).2.isFailure = true) :
    (d.serve occasion).1.trace = d.trace := by
  cases occasion with
  | meanwhile publisher ms => cases failed
  | request lobby plan =>
    have begun := congrArg (Trace.mapStore Troubled.inner) ((d.troubled plan).trace_begin lobby)
    exact (trace_of_failure _ lobby d.now (Progress.start_not_written lobby) failed).trans begun

theorem serveAll_cons (d : Desk MemoryStore (Watched π)) (occasion : Occasion π)
    (rest : List (Occasion π)) :
    d.serveAll (occasion :: rest) =
      (((d.serve occasion).1.serveAll rest).1,
        (d.serve occasion).2 :: ((d.serve occasion).1.serveAll rest).2) := rfl

theorem serve_occasion (d : Desk MemoryStore (Watched π)) (occasion : Occasion π) :
    (d.serve occasion).2.occasion = occasion := by
  cases occasion with
  | request lobby plan => rfl
  | meanwhile publisher ms => rfl

theorem serveAll_kept {d e : Desk MemoryStore (Watched π)} (same : d.trace = e.trace)
    (occasions : List (Occasion π)) :
    (e.serveAll ((Entry.kept (d.serveAll occasions).2).map Entry.occasion)).2 =
        Entry.kept (d.serveAll occasions).2 ∧
      (e.serveAll ((Entry.kept (d.serveAll occasions).2).map Entry.occasion)).1.trace =
        (d.serveAll occasions).1.trace := by
  -- After a failure only one of the two desks has moved on, so both are generalized.
  induction occasions generalizing d e with
  | nil => exact ⟨rfl, same.symm⟩
  | cons occasion rest ih =>
    rw [serveAll_cons]
    cases failed : (d.serve occasion).2.isFailure with
    | true =>
      rw [Entry.kept_cons_of_failure failed]
      exact ih ((d.trace_of_failed_request occasion failed).trans same)
    | false =>
      obtain ⟨entry, after⟩ := serve_of_trace same occasion
      obtain ⟨log, later⟩ := ih after
      rw [Entry.kept_cons_of_not_failure failed, List.map_cons, serve_occasion, serveAll_cons, log,
        ← entry]
      exact ⟨rfl, later⟩

/-- A request that fails has changed nothing that is stored, called no publisher and counted no
placement. When all failed requests are taken out of a list, with their faults, the others leave as
before, and the same is stored, published and counted as placed in the end. -/
theorem failed_requests_leave_no_trace (d : Desk MemoryStore (Watched π))
    (occasions : List (Occasion π)) :
    (∀ front occasion back, occasions = front ++ occasion :: back →
      let before := (d.serveAll front).1
      (before.serve occasion).2.isFailure = true →
        (before.serve occasion).1.trace = before.trace) ∧
    let (last, log) := d.serveAll occasions
    let (lastKept, logKept) := d.serveAll ((Entry.kept log).map Entry.occasion)
    logKept = Entry.kept log ∧ lastKept.trace = last.trace := by
  refine ⟨?_, ?_⟩
  · intro front occasion back _ before failed
    exact before.trace_of_failed_request occasion failed
  · exact serveAll_kept rfl occasions

def troubledDesk : Desk MemoryStore (Watched Recorder) :=
  .opening (.standard .two) ⟨.ofList [("", "A"), ("*", "B")], true⟩ ⟨.empty, []⟩

/-- Lookup, listing and reads go well, the write fails. -/
def failingPlan : List Trouble := [.none, .none, .none, .none, .fails MemoryStore.outage]

/-- Without its faults the request is announced; with them it fails, and nothing is left of it. -/
theorem failed_write_leaves_no_trace :
    (troubledDesk.serve (.request "L" [])).1.publisher.calls.length = 1 ∧
      (troubledDesk.serve (.request "L" failingPlan)).2.isFailure = true ∧
      (troubledDesk.serve (.request "L" failingPlan)).1.trace = troubledDesk.trace := by
  have ended : ((finishWithin "L" 0 6 (troubledDesk.troubled []) (.waiting .looking)).map
      fun left => left.1.publisher.calls.length) = some 1 := by decide +kernel
  obtain ⟨answered, within, called⟩ := Option.map_eq_some_iff.mp ended
  have failed : (troubledDesk.serve (.request "L" failingPlan)).2.isFailure = true := by
    have endedToo : ((finishWithin "L" 0 5 (troubledDesk.troubled failingPlan)
        (.waiting .looking)).map fun left => left.2.isFailure) = some true := by decide +kernel
    obtain ⟨left, withinToo, failed⟩ := Option.map_eq_some_iff.mp endedToo
    rw [← finish_of_within withinToo] at failed
    exact failed
  refine ⟨?_, failed, ?_⟩
  · rw [← finish_of_within within] at called
    exact called
  · exact (failed_requests_leave_no_trace troubledDesk [.request "L" failingPlan]).1 [] _ [] rfl
      failed

end Desk

end LobbyPlacement

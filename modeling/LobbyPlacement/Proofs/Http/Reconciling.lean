import LobbyPlacement.Proofs.Placement.Accounting
import LobbyPlacement.Proofs.Service.Affairs

/-!
# Answers over the network against the counters

A desk that is only asked through the placement interface. What its counters show can be read off
the answers it sent, but for those queries that ask for no lobby or for several: they are refused
before they come to the desk, and no counter tells of them. `Reconciled` is what the marks of some
requests and their answers have in common; `answers_reconcile` adds it up.
-/

namespace LobbyPlacement

namespace Desk

variable {σ π : Type}

/-! ### The marks of one request -/

theorem recordAll_ofMarks {d : Desk σ π} {marks : List Mark} (counted : d.stats = .ofMarks marks)
    (started : Nat) (notes : List Note) :
    (d.recordAll started notes).stats = .ofMarks (marks ++ notes.filterMap Note.mark?) := by
  unfold recordAll
  induction notes generalizing d marks with
  | nil => rw [List.filterMap_nil, List.append_nil, List.foldl_nil, counted]
  | cons note rest ih =>
    have first : (d.record started note).stats = .ofMarks (marks ++ note.mark?.toList) := by
      rw [← Stats.record_ofMarks, ← counted]
      rfl
    have joined : note.mark?.toList ++ rest.filterMap Note.mark? =
        (note :: rest).filterMap Note.mark? := by
      rw [List.filterMap_cons]
      cases note.mark? <;> rfl
    rw [List.foldl_cons, ih first, List.append_assoc, joined]

/-- Behind some marks, the counters show those of a request that stands here. -/
def Shows (marks : List Mark) (d : Desk σ π) (p : Progress) : Prop :=
  ∃ missed, d.stats = .ofMarks (marks ++ p.account missed)

theorem begin_shows {d : Desk σ π} {marks : List Mark} (counted : d.stats = .ofMarks marks)
    (lobby : String) : Shows marks (d.begin lobby).1 (d.begin lobby).2 := by
  refine ⟨false, (recordAll_ofMarks counted d.now _).trans ?_⟩
  unfold begin Placement.start
  cases Placement.checkLobby lobby <;> rfl

variable [Store σ] [Publisher π]

theorem step_shows {marks : List Mark} {d : Desk σ π} {t : Ticket}
    (shows : Shows marks d (.waiting t.phase)) : Shows marks (d.step t).1 (d.step t).2 := by
  obtain ⟨lobby, started, phase⟩ := t
  obtain ⟨before, counted⟩ := shows
  have carried := recordAll_ofMarks ((carryOut_stats d (phase.effect lobby)).trans counted) started
    (Placement.resume (d.carryOut (phase.effect lobby)).1.rules lobby phase
      (d.carryOut (phase.effect lobby)).2).notes
  cases phase with
  | announcing server =>
    -- How the announcement went decides which mark it leaves.
    let attempt := (Publisher.publish d.publisher d.now d.rules.announceLimit d.rules.channel
      (⟨lobby, server⟩ : Announcement).encode).2
    have reply : (d.announce ⟨lobby, server⟩).2 = attempt.delivery d.rules.announceLimit := by
      rw [announce_eq]
    have delivered := attempt.delivery_eq d.rules.announceLimit
    rw [← reply] at delivered
    refine ⟨attempt.misses d.rules.announceLimit, carried.trans ?_⟩
    rw [List.append_assoc]
    exact congrArg (fun left => Stats.ofMarks (marks ++ left))
      (Placement.account_resume_delivery _ lobby server delivered).symm
  | looking | listing | counting _ | claiming _ | overwriting _ | adopting =>
    refine ⟨false, carried.trans ?_⟩
    rw [List.append_assoc]
    exact congrArg (fun left => Stats.ofMarks (marks ++ left))
      (Placement.account_resume_call _ lobby rfl _ false).symm

theorem resolve_shows {d : Desk σ π} {marks : List Mark} (counted : d.stats = .ofMarks marks)
    (lobby : String) : Shows marks (d.resolve lobby).1 (d.resolve lobby).2.progress :=
  finish_kept (fun _ _ shows => step_shows shows) (begin_shows counted lobby)

theorem resolve_steady {d : Desk σ π} (steady : Publisher.NeverCrashes d.publisher)
    (lobby : String) :
    Publisher.NeverCrashes (d.resolve lobby).1.publisher ∧ (d.resolve lobby).2 ≠ .crashed := by
  have begun : Publisher.NeverCrashes (d.begin lobby).1.publisher ∧
      (d.begin lobby).2 ≠ .crashed := by
    refine ⟨?_, ?_⟩
    · rw [show (d.begin lobby).1.publisher = d.publisher from recordAll_publisher ..]
      exact steady
    · unfold begin Placement.start
      cases Placement.checkLobby lobby <;> exact nofun
  have ended : Publisher.NeverCrashes (d.resolve lobby).1.publisher ∧
      (d.resolve lobby).2.progress ≠ .crashed :=
    finish_kept (R := fun d p => Publisher.NeverCrashes d.publisher ∧ p ≠ .crashed)
      (fun _ phase kept => step_steady kept.1 ⟨lobby, d.now, phase⟩) begun
  exact ⟨ended.1, fun lost => ended.2 (congrArg Leaving.progress lost)⟩

end Desk

namespace Http

/-! ### Queries -/

/-- The query has exactly one field for a lobby. -/
def asksForOne (query : String) : Bool :=
  (queryFields query).countP (fun field => field.1 = lobbyName) = 1

/-- Only a query that asks for one lobby comes to the desk. -/
theorem lobbyOf_isSome (query : String) :
    asksForOne query = true ↔ ∃ lobby, lobbyOf query = .ok (some lobby) := by
  unfold asksForOne lobbyOf
  rw [List.countP_eq_length_filter, decide_eq_true_iff]
  generalize (queryFields query).filter (fun field => field.1 = lobbyName) = named
  rcases named with _ | ⟨first, _ | ⟨second, rest⟩⟩
  · simp
  · simp
  · simp

section Asking

variable {σ π : Type} [Store σ] [Publisher π]

/-- Requests for lobbies, one after the other, with what each of them was answered. -/
def answerAll (d : Desk σ π) : List String → Desk σ π × List (Option Answer)
  | [] => (d, [])
  | query :: rest =>
    let (next, answer) := api d .get ⟨assignPath, query⟩
    let (last, answers) := answerAll next rest
    (last, answer :: answers)

theorem api_asking {query : String} (one : asksForOne query = true) :
    ∃ lobby, ∀ d : Desk σ π, api d .get ⟨assignPath, query⟩ =
      ((d.resolve lobby).1, (d.resolve lobby).2.answer? outcomeAnswer) := by
  obtain ⟨lobby, asked⟩ := (lobbyOf_isSome query).mp one
  refine ⟨lobby, fun d => ?_⟩
  simp only [api, if_true, Method.answer, assign, asked]
  rcases d.resolve lobby with ⟨e, outcome | _⟩ <;> rfl

theorem api_refusing {query : String} (unclear : asksForOne query = false) :
    ∃ text, ∀ d : Desk σ π, api d .get ⟨assignPath, query⟩ = (d, some (.plain 400 text)) := by
  have nobody : ¬ ∃ lobby, lobbyOf query = .ok (some lobby) := fun asked => by
    rw [← lobbyOf_isSome, unclear] at asked
    cases asked
  simp only [api, if_true, Method.answer, assign]
  rcases asked : lobbyOf query with refusal | _ | lobby
  · exact ⟨refusal, fun d => rfl⟩
  · exact ⟨_, fun d => rfl⟩
  · exact (nobody ⟨lobby, asked⟩).elim

end Asking

/-! ### Marks and answers -/

def statuses (answers : List (Option Answer)) : List Nat :=
  answers.filterMap fun answer => answer.map Answer.status

theorem statuses_append (first second : List (Option Answer)) :
    statuses (first ++ second) = statuses first ++ statuses second := List.filterMap_append

/-- What the marks of some requests show and what they were answered; a request that was lost has
been counted as a placement, and one that was refused before not at all. -/
structure Reconciled (marks : List Mark) (refused : Nat) (answers : List (Option Answer)) :
    Prop where
  placed : (Stats.ofMarks marks).hits + (Stats.ofMarks marks).created +
    (Stats.ofMarks marks).lostRaces = (statuses answers).count 200 + answers.countP Option.isNone
  rejected : (Stats.ofMarks marks).clientErrors + refused = (statuses answers).count 400
  failed : (Stats.ofMarks marks).failures =
    (statuses answers).count 503 + (statuses answers).count 500
  answered : (Stats.ofMarks marks).requests + refused = (statuses answers).length

namespace Reconciled

theorem nothing : Reconciled [] 0 [] := ⟨rfl, rfl, rfl, rfl⟩

theorem append {marks marksThen : List Mark} {refused refusedThen : Nat}
    {answers answersThen : List (Option Answer)} (first : Reconciled marks refused answers)
    (second : Reconciled marksThen refusedThen answersThen) :
    Reconciled (marks ++ marksThen) (refused + refusedThen) (answers ++ answersThen) := by
  obtain ⟨placed, rejected, failed, answered⟩ := first
  obtain ⟨placedThen, rejectedThen, failedThen, answeredThen⟩ := second
  simp only [Stats.ofMarks] at placed rejected failed answered
  simp only [Stats.ofMarks] at placedThen rejectedThen failedThen answeredThen
  constructor
  case placed =>
    simp only [Stats.ofMarks, statuses_append, List.count_append, List.countP_append]
    omega
  case rejected =>
    simp only [Stats.ofMarks, statuses_append, List.count_append]
    omega
  case failed =>
    simp only [Stats.ofMarks, statuses_append, List.count_append]
    omega
  case answered =>
    simp only [Stats.ofMarks, statuses_append, List.countP_append, List.length_append]
    omega

/-- A request is counted by its ending, and the ending decides the status. -/
theorem request (leaving : Desk.Leaving) (missed : Bool) :
    Reconciled (leaving.progress.account missed) 0 [leaving.answer? outcomeAnswer] := by
  cases leaving with
  | answered outcome =>
    rcases outcome with fault | server | server | server
    · cases fault <;> exact ⟨rfl, rfl, rfl, rfl⟩
    · exact ⟨rfl, rfl, rfl, rfl⟩
    · cases missed <;> exact ⟨rfl, rfl, rfl, rfl⟩
    · exact ⟨rfl, rfl, rfl, rfl⟩
  | crashed => exact ⟨rfl, rfl, rfl, rfl⟩

theorem refusal (text : String) : Reconciled [] 1 [some (.plain 400 text)] := ⟨rfl, rfl, rfl, rfl⟩

end Reconciled

section Answers

variable {σ π : Type} [Store σ] [Publisher π]

theorem api_reconciled {d : Desk σ π} {marks : List Mark} (counted : d.stats = .ofMarks marks)
    (query : String) :
    ∃ left, (api d .get ⟨assignPath, query⟩).1.stats = .ofMarks (marks ++ left) ∧
      Reconciled left (!asksForOne query).toNat [(api d .get ⟨assignPath, query⟩).2] := by
  cases one : asksForOne query with
  | true =>
    obtain ⟨lobby, told⟩ := api_asking (σ := σ) (π := π) one
    obtain ⟨missed, shown⟩ := Desk.resolve_shows counted lobby
    rw [told]
    exact ⟨_, shown, .request _ missed⟩
  | false =>
    obtain ⟨text, told⟩ := api_refusing (σ := σ) (π := π) one
    rw [told]
    exact ⟨[], by rw [List.append_nil, counted], .refusal text⟩

theorem answerAll_reconciled {d : Desk σ π} {marks : List Mark}
    (counted : d.stats = .ofMarks marks) (queries : List String) :
    ∃ left, (answerAll d queries).1.stats = .ofMarks (marks ++ left) ∧
      Reconciled left (queries.countP fun query => !asksForOne query)
        (answerAll d queries).2 := by
  induction queries generalizing d marks with
  | nil => exact ⟨[], by rw [List.append_nil]; exact counted, .nothing⟩
  | cons query rest ih =>
    obtain ⟨left, shown, first⟩ := api_reconciled counted query
    obtain ⟨later, shownThen, second⟩ := ih shown
    refine ⟨left ++ later, shownThen.trans (by rw [List.append_assoc]), ?_⟩
    have whole := first.append second
    rw [toNat_eq_ite, Nat.add_comm, ← List.countP_cons] at whole
    exact whole

theorem answerAll_answered {d : Desk σ π} (steady : Publisher.NeverCrashes d.publisher)
    (queries : List String) : ∀ answer ∈ (answerAll d queries).2, answer.isSome = true := by
  induction queries generalizing d with
  | nil => exact nofun
  | cons query rest ih =>
    have first : Publisher.NeverCrashes (api d .get ⟨assignPath, query⟩).1.publisher ∧
        (api d .get ⟨assignPath, query⟩).2.isSome = true := by
      cases one : asksForOne query with
      | true =>
        obtain ⟨lobby, told⟩ := api_asking (σ := σ) (π := π) one
        obtain ⟨steadyThen, answered⟩ := d.resolve_steady steady lobby
        rw [told]
        refine ⟨steadyThen, ?_⟩
        dsimp only
        cases left : (d.resolve lobby).2 with
        | answered outcome => rfl
        | crashed => exact (answered left).elim
      | false =>
        obtain ⟨text, told⟩ := api_refusing (σ := σ) (π := π) one
        rw [told]
        exact ⟨steady, rfl⟩
    intro answer sent
    rcases List.mem_cons.mp sent with rfl | later
    · exact first.2
    · exact ih first.1 answer later

/-! ### Runs of known length -/

/-- Requests for lobbies, each brought to its end in at most so many steps. -/
def answerAllWithin (steps : Nat) (d : Desk σ π) :
    List String → Option (Desk σ π × List (Option Answer))
  | [] => some (d, [])
  | query :: rest =>
    match lobbyOf query with
    | .ok (some lobby) => do
      let (next, leaving) ← Desk.finishWithin lobby d.now steps (d.begin lobby).1 (d.begin lobby).2
      let (last, answers) ← answerAllWithin steps next rest
      return (last, leaving.answer? outcomeAnswer :: answers)
    | _ => do
      let (last, answers) ← answerAllWithin steps d rest
      return (last, (assign query d).2 :: answers)

theorem answerAll_of_within {steps : Nat} {d : Desk σ π} {queries : List String}
    {left : Desk σ π × List (Option Answer)}
    (ended : answerAllWithin steps d queries = some left) : answerAll d queries = left := by
  induction queries generalizing d left with
  | nil => exact Option.some.inj ended
  | cons query rest ih =>
    rw [answerAllWithin] at ended
    split at ended
    next lobby asked =>
      obtain ⟨⟨next, leaving⟩, resolved, ended⟩ := Option.bind_eq_some_iff.mp ended
      obtain ⟨⟨last, answers⟩, later, told⟩ := Option.bind_eq_some_iff.mp ended
      have here : api d .get ⟨assignPath, query⟩ = (next, leaving.answer? outcomeAnswer) := by
        have whole : d.resolve lobby = (next, leaving) := Desk.finish_of_within resolved
        simp only [api, if_true, Method.answer, assign, asked, whole]
        cases leaving <;> rfl
      rw [answerAll, here]
      dsimp only
      rw [ih later]
      exact Option.some.inj told
    next unclear =>
      obtain ⟨⟨last, answers⟩, later, told⟩ := Option.bind_eq_some_iff.mp ended
      have here : api d .get ⟨assignPath, query⟩ = (d, (assign query d).2) := by
        simp only [api, if_true, Method.answer, assign]
        rcases asked : lobbyOf query with refusal | _ | lobby
        · rfl
        · rfl
        · exact (unclear lobby asked).elim
      rw [answerAll, here]
      dsimp only
      rw [ih later]
      exact Option.some.inj told

/-! ### Whole runs -/

/-- From fresh counters on, the answers of each kind are as many as the counters show, except that
the counters leave out the queries refused for not asking for one lobby, all with 400. -/
theorem answers_reconcile {d : Desk σ π} (fresh : d.stats = .zero) (queries : List String)
    (unbroken : ∀ answer ∈ (answerAll d queries).2, answer.isSome = true) :
    let refused := queries.countP fun query => !asksForOne query
    let stats := (answerAll d queries).1.stats
    let answers := (answerAll d queries).2
    (statuses answers).count 200 = stats.hits + stats.created + stats.lostRaces ∧
    (statuses answers).count 400 = stats.clientErrors + refused ∧
    (statuses answers).count 503 + (statuses answers).count 500 = stats.failures ∧
    answers.length = stats.requests + refused := by
  intro refused stats answers
  have counted : d.stats = .ofMarks [] := fresh
  obtain ⟨left, shown, placed, rejected, failed, answered⟩ := answerAll_reconciled counted queries
  have lost : answers.countP Option.isNone = 0 := by
    refine List.countP_eq_zero.mpr fun answer sent missing => ?_
    have here := unbroken answer sent
    rw [Option.isNone_iff_eq_none] at missing
    rw [missing] at here
    cases here
  have sent : (statuses answers).length = answers.length := by
    rw [statuses, List.length_filterMap_eq_countP]
    refine List.countP_eq_length.mpr fun answer member => ?_
    rw [Option.isSome_map]
    exact unbroken answer member
  have same : stats = Stats.ofMarks left := shown
  rw [← same] at placed rejected failed answered
  rw [lost] at placed
  rw [sent] at answered
  exact ⟨placed.symm, rejected.symm, failed.symm, answered.symm⟩

end Answers

/-- Replies for a hit, a placement, a lost race, an outage and a fault that is no outage. -/
def variedStore : ScriptedStore :=
  { ScriptedStore.ofMemory .empty with
    script :=
      { gets := [.answer (some "A"), .answer none, .answer none, .answer (some "B"),
          .fail MemoryStore.outage, .fail (.internal "broken")]
        puts := []
        conditionalPuts := [.answer true, .answer false]
        scans := [.answer [], .answer []]
        pings := [] } }

def variedDesk : Desk ScriptedStore Recorder := .opening (.standard .two) variedStore .empty

/-- Lobbies that meet with each of the prepared replies, a blank one, none and two at once. -/
def variedQueries : List String :=
  ["lobby_id=H", "", "lobby_id=C", "lobby_id=+", "x=1&lobby_id=R", "lobby_id=a&lobby_id=b",
    "lobby_id=O", "lobby_id=I"]

/-- Two of eight queries were refused before the desk, and the counters tell of the other six. -/
theorem varied_answers_reconcile :
    let stats := (answerAll variedDesk variedQueries).1.stats
    let answers := (answerAll variedDesk variedQueries).2
    variedDesk.stats = .zero ∧ (∀ answer ∈ answers, answer.isSome = true) ∧
      statuses answers = [200, 400, 200, 400, 200, 400, 503, 500] ∧
      stats = ⟨6, 1, 1, 1, 1, 2, 0, 0⟩ ∧
      (statuses answers).count 200 = stats.hits + stats.created + stats.lostRaces ∧
      (statuses answers).count 400 = stats.clientErrors + 2 ∧
      (statuses answers).count 503 + (statuses answers).count 500 = stats.failures ∧
      answers.length = stats.requests + 2 := by
  intro stats answers
  have run : ((answerAllWithin 6 variedDesk variedQueries).map fun left =>
      (statuses left.2, left.1.stats)) =
        some ([200, 400, 200, 400, 200, 400, 503, 500], ⟨6, 1, 1, 1, 1, 2, 0, 0⟩) := by
    decide +kernel
  obtain ⟨left, ended, shown⟩ := Option.map_eq_some_iff.mp run
  rw [← answerAll_of_within ended, Prod.mk.injEq] at shown
  have unclear : variedQueries.countP (fun query => !asksForOne query) = 2 := by decide +kernel
  have unbroken := answerAll_answered (d := variedDesk) (Recorder.neverCrashes _) variedQueries
  have reconciled := answers_reconcile (d := variedDesk) rfl variedQueries unbroken
  dsimp only at reconciled
  rw [unclear] at reconciled
  exact ⟨rfl, unbroken, shown.1, shown.2, reconciled⟩

/-- A query without a lobby and one with two are both answered with 400, and no counter moves. -/
theorem unclear_queries_are_not_counted :
    let queries := ["", "lobby_id=a&lobby_id=b"]
    let stats := (answerAll variedDesk queries).1.stats
    let answers := (answerAll variedDesk queries).2
    variedDesk.stats = .zero ∧ (∀ answer ∈ answers, answer.isSome = true) ∧
      (statuses answers).count 400 = 2 ∧ stats.clientErrors = 0 ∧
      answers.length = 2 ∧ stats.requests = 0 := by
  decide +kernel

end Http

end LobbyPlacement

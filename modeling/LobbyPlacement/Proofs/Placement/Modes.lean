import LobbyPlacement.Proofs.Placement.Errands
import LobbyPlacement.Proofs.Placement.Hall
import LobbyPlacement.Recorder

/-!
# Write modes

Conditional writes and overwriting differ only where requests overlap. A request that runs alone at
a store in memory has seen that its lobby is absent, and so it stays until the request writes, for
it only reads meanwhile. Hence the conditional write is made, and nothing tells it from the other:
`step_inMode` says so for one step, `modes_agree` for any list of errands.
-/

namespace LobbyPlacement

/-! ### Requests in the other mode -/

/-- The same point of a request whose write is not conditional. -/
def Phase.unconditional : Phase → Phase
  | claiming server => overwriting server
  | phase => phase

def Progress.unconditional : Progress → Progress
  | waiting phase => waiting phase.unconditional
  | progress => progress

/-- A lobby that a request has found absent is still so until it writes, and it writes at once. -/
def Progress.StillAbsent (t : Table) (lobby : String) : Progress → Prop
  | waiting .listing => t.value? lobby = none
  | waiting (.counting _) => t.value? lobby = none
  | waiting (.claiming _) => t.value? lobby = none
  | waiting (.overwriting _) => False
  | waiting .adopting => False
  | _ => True

theorem Progress.start_stillAbsent (t : Table) (lobby : String) :
    (Placement.start lobby).progress.StillAbsent t lobby := by
  unfold Placement.start
  cases Placement.checkLobby lobby <;> trivial

theorem Progress.start_unconditional (lobby : String) :
    (Placement.start lobby).progress.unconditional = (Placement.start lobby).progress := by
  unfold Placement.start
  cases Placement.checkLobby lobby <;> rfl

theorem Progress.afterTally_stillAbsent {rules : Rules} (mode : rules.mode = .createIfAbsent)
    {t : Table} {lobby : String} (absent : t.value? lobby = none) (tally : Tally) :
    (Placement.afterTally rules tally).progress.StillAbsent t lobby := by
  cases tally with
  | reading census => exact absent
  | failed fault => trivial
  | counted loads =>
    simp only [Placement.afterTally, mode]
    cases Load.least loads with
    | none => trivial
    | some load => exact absent

/-- Reads leave an absent lobby absent, so a request that runs alone need not adopt a server. -/
theorem Moves.stillAbsent {σ : Type} [Store σ] [Ledger σ] {rules : Rules}
    (mode : rules.mode = .createIfAbsent) {lobby : String} {s : σ} {phase : Phase} {t : Table}
    {progress : Progress} (before : (Progress.waiting phase).StillAbsent (Ledger.table s) lobby)
    (moves : Moves rules lobby s phase t progress) : progress.StillAbsent t lobby := by
  cases moves with
  | failed | hit | claimed | announced | crashed => trivial
  | missed absent => exact absent
  | listed => exact Progress.afterTally_stillAbsent mode before _
  | counted => exact Progress.afterTally_stillAbsent mode before _
  | refused stored =>
    have absent : (Ledger.table s).value? lobby = none := before
    rw [absent] at stored
    cases stored
  | overwrote | adopted | vanished => exact before.elim

namespace Rules

def inMode (rules : Rules) (mode : WriteMode) : Rules := { rules with mode := mode }

end Rules

def Move.unconditional (m : Move) : Move := ⟨m.notes, m.progress.unconditional⟩

theorem Placement.afterTally_inMode {rules : Rules} (mode : rules.mode = .createIfAbsent)
    (tally : Tally) :
    afterTally (rules.inMode .lastWriteWins) tally = (afterTally rules tally).unconditional := by
  cases tally with
  | reading census => rfl
  | failed fault => rfl
  | counted loads =>
    simp only [afterTally, mode]
    cases Load.least loads <;> rfl

/-- The mode decides only how the chosen server is going to be written. -/
theorem Placement.resume_inMode {rules : Rules} (mode : rules.mode = .createIfAbsent)
    (lobby : String) (phase : Phase) (reply : (phase.effect lobby).Reply) :
    resume (rules.inMode .lastWriteWins) lobby phase reply =
      (resume rules lobby phase reply).unconditional := by
  cases phase with
  | looking => rcases reply with _ | _ | _ <;> rfl
  | listing => exact afterTally_inMode mode _
  | counting census => exact afterTally_inMode mode _
  | claiming server => rcases reply with _ | _ | _ <;> rfl
  | overwriting server => rcases reply with _ | _ <;> rfl
  | adopting => rcases reply with _ | _ | _ <;> rfl
  | announcing server => cases reply <;> rfl

namespace Desk

variable {σ π : Type}

def inMode (d : Desk σ π) (mode : WriteMode) : Desk σ π := { d with rules := d.rules.inMode mode }

theorem inMode_recordAll (d : Desk σ π) (mode : WriteMode) (started : Nat) (notes : List Note) :
    (d.inMode mode).recordAll started notes = (d.recordAll started notes).inMode mode := by
  unfold recordAll
  induction notes generalizing d with
  | nil => rfl
  | cons note rest ih => exact ih (d.record started note)

variable [Publisher π]

theorem carryOut_inMode [Store σ] (d : Desk σ π) (mode : WriteMode) (e : Effect) :
    (d.inMode mode).carryOut e = ((d.carryOut e).1.inMode mode, (d.carryOut e).2) := by
  cases e with
  | store call => rfl
  | announce a =>
    show (d.inMode mode).announce a = ((d.announce a).1.inMode mode, (d.announce a).2)
    rw [announce_eq, announce_eq]
    rfl

theorem step_inMode [Store σ] {d : Desk σ π} (mode : d.rules.mode = .createIfAbsent) (t : Ticket) :
    (d.inMode .lastWriteWins).step t =
      ((d.step t).1.inMode .lastWriteWins, (d.step t).2.unconditional) := by
  have modeThen : (d.carryOut (t.phase.effect t.lobby)).1.rules.mode = .createIfAbsent := by
    rw [carryOut_rules]
    exact mode
  simp only [step, carryOut_inMode]
  rw [← inMode_recordAll]
  simp only [inMode, Placement.resume_inMode modeThen]
  rfl

/-- The write of an absent lobby is the same with and without its condition. -/
theorem step_claiming {d : Desk MemoryStore π} {lobby : String}
    (absent : d.store.table.value? lobby = none) (started : Nat) (server : String) :
    d.step ⟨lobby, started, .overwriting server⟩ = d.step ⟨lobby, started, .claiming server⟩ := by
  simp only [step, carryOut, Phase.effect, Store.perform]
  cases on : d.store.available with
  | true =>
    rw [MemoryStore.perform_available on, MemoryStore.perform_available on]
    simp only [MemoryStore.answer, absent, Option.isSome_none]
    rfl
  | false =>
    rw [MemoryStore.perform_unavailable on, MemoryStore.perform_unavailable on]
    rfl

structure Counterparts (lobby : String) (d : Desk MemoryStore π) (p : Progress)
    (e : Desk MemoryStore π) (q : Progress) : Prop where
  mode : d.rules.mode = .createIfAbsent
  desk : e = d.inMode .lastWriteWins
  progress : q = p.unconditional
  absent : p.StillAbsent d.store.table lobby

theorem counterparts_step {lobby : String} {d e : Desk MemoryStore π} {phase : Phase} {q : Progress}
    (same : Counterparts lobby d (.waiting phase) e q) (started : Nat) :
    ∃ phaseToo, q = .waiting phaseToo ∧
      Counterparts lobby (d.step ⟨lobby, started, phase⟩).1 (d.step ⟨lobby, started, phase⟩).2
        (e.step ⟨lobby, started, phaseToo⟩).1 (e.step ⟨lobby, started, phaseToo⟩).2 := by
  obtain ⟨mode, rfl, rfl, absent⟩ := same
  have modeThen : (d.step ⟨lobby, started, phase⟩).1.rules.mode = .createIfAbsent := by
    rw [step_rules]
    exact mode
  have absentThen := (d.step_moves ⟨lobby, started, phase⟩).stillAbsent mode absent
  -- The two requests are at different points only where one claims and the other overwrites.
  have stepped : (d.inMode .lastWriteWins).step ⟨lobby, started, phase.unconditional⟩ =
      (d.inMode .lastWriteWins).step ⟨lobby, started, phase⟩ := by
    cases phase with
    | claiming server =>
      have absentToo : (d.inMode .lastWriteWins).store.table.value? lobby = none := absent
      exact step_claiming absentToo started server
    | looking | listing | counting _ | overwriting _ | adopting | announcing _ => rfl
  refine ⟨phase.unconditional, rfl, ?_⟩
  rw [stepped, step_inMode mode]
  exact ⟨modeThen, rfl, rfl, absentThen⟩

theorem counterparts_inStep (lobby : String) (started : Nat) :
    InStep lobby started started (Counterparts (π := π) lobby) where
  waits same := counterparts_step same started
  ends leaving same := by
    cases leaving <;> exact same.progress

def OtherMode (d e : Desk MemoryStore π) : Prop :=
  d.rules.mode = .createIfAbsent ∧ e = d.inMode .lastWriteWins

theorem otherMode_paired : Paired (OtherMode (π := π)) where
  store same := by rw [same.2]; rfl
  pool same := by rw [same.2]; rfl
  stocked same s := ⟨same.1, by rw [same.2]; rfl⟩
  loaded same loads := ⟨same.1, by rw [same.2]; rfl⟩
  elapsed same ms := ⟨same.1, by rw [same.2]; rfl⟩
  resolved {d e} same lobby := by
    obtain ⟨mode, rfl⟩ := same
    have begun : Counterparts lobby (d.begin lobby).1 (Placement.start lobby).progress
        ((d.inMode .lastWriteWins).begin lobby).1 (Placement.start lobby).progress := by
      have modeThen : (d.begin lobby).1.rules.mode = .createIfAbsent := by
        rw [show (d.begin lobby).1.rules = d.rules from recordAll_rules ..]
        exact mode
      exact ⟨modeThen, inMode_recordAll .., (Progress.start_unconditional lobby).symm,
        Progress.start_stillAbsent ..⟩
    obtain ⟨leaving, left, leftToo, sameThen⟩ :=
      finish_in_step (counterparts_inStep lobby d.now) begun
    exact ⟨left.trans leftToo.symm, sameThen.mode, sameThen.desk⟩

/-- A desk with a store in memory is asked the same in both modes of writing, one thing after the
other. The answers are the same, and after each of them so are the store, the calls of the
publisher with their payloads and what became of them, the counters and the metrics. The log of the
calls changes nothing. -/
theorem modes_agree (d : Desk MemoryStore π)
    (errands : List (Errand (Ledger.Weather MemoryStore))) :
    let conditional := (d.inMode .createIfAbsent).logged.visits errands
    let overwriting := (d.inMode .lastWriteWins).logged.visits errands
    conditional.map Visit.answer = overwriting.map Visit.answer ∧
    conditional.map (fun visit => visit.after.store) =
      overwriting.map (fun visit => visit.after.store) ∧
    conditional.map (fun visit => visit.after.publisher.log) =
      overwriting.map (fun visit => visit.after.publisher.log) ∧
    conditional.map (fun visit => visit.after.stats) =
      overwriting.map (fun visit => visit.after.stats) ∧
    conditional.map (fun visit => visit.after.metrics) =
      overwriting.map (fun visit => visit.after.metrics) ∧
    conditional.map Visit.unlogged = (d.inMode .createIfAbsent).visits errands ∧
    overwriting.map Visit.unlogged = (d.inMode .lastWriteWins).visits errands := by
  intro conditional overwriting
  have start : OtherMode (d.inMode .createIfAbsent).logged (d.inMode .lastWriteWins).logged :=
    ⟨rfl, rfl⟩
  have paired := otherMode_paired (π := Logged π)
  refine ⟨?_, ?_, ?_, ?_, ?_, unlogged_visits _ errands, unlogged_visits _ errands⟩
  · exact paired.visits_map (fun _ _ _ _ => rfl) start errands
  · exact paired.visits_map (fun _ _ _ same => by rw [same.2]; rfl) start errands
  · exact paired.visits_map (fun _ _ _ same => by rw [same.2]; rfl) start errands
  · exact paired.visits_map (fun _ _ _ same => by rw [same.2]; rfl) start errands
  · exact paired.visits_map (fun _ _ _ same => by rw [same.2]; rfl) start errands

/-- A new desk with two servers, an empty store and a publisher that takes everything. -/
def newDesk : Desk MemoryStore Recorder := .opening (.standard .two) .empty .empty

/-- In both modes a new lobby is placed on the first server, found there again, and posted once. -/
theorem modes_place_alike :
    let errands := [.resolve "L", .lookup "L"]
    let conditional := (newDesk.inMode .createIfAbsent).logged.visits errands
    let overwriting := (newDesk.inMode .lastWriteWins).logged.visits errands
    conditional.map Visit.answer =
        [.left (.answered (.ok (.created "A"))), .found (.ok (some "A"))] ∧
      overwriting.map Visit.answer =
        [.left (.answered (.ok (.created "A"))), .found (.ok (some "A"))] ∧
      overwriting.map (fun visit => visit.after.publisher.log.map Posting.channel) =
        [["game_servers"], ["game_servers"]] := by
  intro errands conditional overwriting
  let d := (newDesk.inMode .createIfAbsent).logged
  obtain ⟨left, within, found, posted, postedThen⟩ :
      ∃ left, finishWithin "L" 0 6 d (.waiting .looking) =
          some (left, .answered (.ok (.created "A"))) ∧
        (left.lookup "L").2 = .ok (some "A") ∧
        left.publisher.log.map Posting.channel = ["game_servers"] ∧
        (left.lookup "L").1.publisher.log.map Posting.channel = ["game_servers"] :=
    ⟨_, rfl, rfl, rfl, rfl⟩
  have resolved : d.resolve "L" = (left, .answered (.ok (.created "A"))) := finish_of_within within
  have went : conditional = [⟨d, .resolve "L", .left (.answered (.ok (.created "A"))), left⟩,
      ⟨left, .lookup "L", .found (left.lookup "L").2, (left.lookup "L").1⟩] := by
    simp only [conditional, errands, visits, attend, d, resolved]
  have answered : conditional.map Visit.answer =
      [.left (.answered (.ok (.created "A"))), .found (.ok (some "A"))] := by
    rw [went, List.map_cons, List.map_cons, List.map_nil, found]
  have heard : conditional.map (fun visit => visit.after.publisher.log.map Posting.channel) =
      [["game_servers"], ["game_servers"]] := by
    rw [went, List.map_cons, List.map_cons, List.map_nil, posted, postedThen]
  obtain ⟨answers, _, logs, _⟩ := modes_agree newDesk errands
  have channels := congrArg (List.map (List.map Posting.channel)) logs
  rw [List.map_map, List.map_map] at channels
  exact ⟨answered, answers.symm.trans answered, channels.symm.trans heard⟩

end Desk

end LobbyPlacement

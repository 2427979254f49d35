import LobbyPlacement.Proofs.Placement.Errands
import LobbyPlacement.Proofs.Store.Wordless

/-!
# Placements without regard to the wording of faults

Two stores that speak alike lead a request through the same phases to the same end, but for the
words of a fault it ends with. `Rephrased` follows the words from a reply through the count to the
end; `step_twins` is one step of both requests, and `resolve_twins` is the whole of them.
-/

namespace LobbyPlacement

theorem Outcome.ending_reworded (fault : Fault) (text : String) :
    Outcome.ending (.error (fault.reworded text)) = Outcome.ending (.error fault) := by
  cases fault <;> rfl

/-- What comes back from an effect, in other words if it can have any. -/
def Effect.Rephrased : (e : Effect) → e.Reply → e.Reply → Prop
  | .store call, reply, replyToo => call.Rephrased reply replyToo
  | .announce _, delivery, deliveryToo => deliveryToo = delivery

/-! ### Counts -/

namespace Tally

/-- Counts that stand at the same point, with the same loads, before listings in other words. -/
inductive Rephrased : Tally → Tally → Prop
  | same (tally : Tally) : Rephrased tally tally
  | reworded (fault : Fault) (text : String) :
      Rephrased (.failed fault) (.failed (fault.reworded text))
  | reading (loads : List Load) (key : String) {rest restToo : List (Except Fault String)}
      (alike : List.Forall₂ LobbyPlacement.Rephrased rest restToo) :
      Rephrased (.reading ⟨loads, key, rest⟩) (.reading ⟨loads, key, restToo⟩)

theorem rephrased_before (loads : List Load) {rest restToo : List (Except Fault String)}
    (alike : List.Forall₂ LobbyPlacement.Rephrased rest restToo) :
    (before loads rest).Rephrased (before loads restToo) := by
  cases alike with
  | nil => exact .same _
  | @cons item itemToo rest restToo first later =>
    cases first with
    | same =>
      cases item with
      | error fault => exact .same _
      | ok key => exact .reading loads key later
    | reworded fault text => exact .reworded fault text

theorem rephrased_ofListing (servers : List String) {pattern : String}
    {reply replyToo : (StoreCall.scan pattern).Reply}
    (alike : StoreCall.Rephrased (.scan pattern) reply replyToo) :
    (ofListing servers reply).Rephrased (ofListing servers replyToo) := by
  cases alike with
  | same => exact .same _
  | reworded _ fault text => exact .reworded fault text
  | listed _ items => exact rephrased_before (Load.zero servers) items

end Tally

theorem Census.rephrased_read (loads : List Load) (key : String)
    {rest restToo : List (Except Fault String)}
    (listings : List.Forall₂ LobbyPlacement.Rephrased rest restToo)
    {reply replyToo : (StoreCall.get key).Reply}
    (alike : StoreCall.Rephrased (.get key) reply replyToo) :
    (Census.read ⟨loads, key, rest⟩ reply).Rephrased
      (Census.read ⟨loads, key, restToo⟩ replyToo) := by
  cases alike with
  | same =>
    rcases reply with fault | _ | server
    · exact .same _
    · exact Tally.rephrased_before loads listings
    · exact Tally.rephrased_before (Load.credit server loads) listings
  | reworded _ fault text => exact .reworded fault text

/-! ### Requests -/

namespace Progress

/-- Requests that stand at the same point, a count under way and a fault in other words. -/
inductive Rephrased : Progress → Progress → Prop
  | same (progress : Progress) : Rephrased progress progress
  | counting (loads : List Load) (key : String) {rest restToo : List (Except Fault String)}
      (alike : List.Forall₂ LobbyPlacement.Rephrased rest restToo) :
      Rephrased (.waiting (.counting ⟨loads, key, rest⟩))
        (.waiting (.counting ⟨loads, key, restToo⟩))
  | failed (fault : Fault) (text : String) :
      Rephrased (.answered (.error fault)) (.answered (.error (fault.reworded text)))

end Progress

/-- Moves that tell the counters the same. -/
structure Move.Rephrased (m n : Move) : Prop where
  notes : n.notes = m.notes
  progress : m.progress.Rephrased n.progress

theorem Move.Rephrased.same (m : Move) : m.Rephrased m := ⟨rfl, .same m.progress⟩

/-- A request that fails tells the counters the kind of its fault and no more. -/
theorem Move.rephrased_answer (fault : Fault) (text : String) :
    (Move.answer [] (.error fault)).Rephrased (.answer [] (.error (fault.reworded text))) := by
  refine ⟨?_, .failed fault text⟩
  simp only [answer, Outcome.ending_reworded]

namespace Placement

theorem rephrased_afterTally (rules : Rules) {t u : Tally} (alike : t.Rephrased u) :
    (afterTally rules t).Rephrased (afterTally rules u) := by
  cases alike with
  | same => exact .same _
  | reworded fault text => exact Move.rephrased_answer fault text
  | reading loads key listings => exact ⟨rfl, .counting loads key listings⟩

/-- The same phase, resumed with replies in other words. -/
theorem rephrased_resume (rules : Rules) (lobby : String) {phase : Phase}
    {reply replyToo : (phase.effect lobby).Reply}
    (alike : (phase.effect lobby).Rephrased reply replyToo) :
    (resume rules lobby phase reply).Rephrased (resume rules lobby phase replyToo) := by
  cases phase with
  | looking | claiming _ | overwriting _ | adopting =>
    cases alike with
    | same => exact .same _
    | reworded _ fault text => exact Move.rephrased_answer fault text
  | listing => exact rephrased_afterTally rules (Tally.rephrased_ofListing rules.pool.servers alike)
  | counting census =>
    exact rephrased_afterTally rules (Census.rephrased_read census.loads census.key
      (List.forall₂_same.mpr fun item _ => .same item) alike)
  | announcing server =>
    obtain rfl : replyToo = reply := alike
    exact .same _

/-- A count is resumed with replies in other words, before listings in other words. -/
theorem rephrased_resume_counting (rules : Rules) (lobby : String) (loads : List Load)
    (key : String) {rest restToo : List (Except Fault String)}
    (listings : List.Forall₂ LobbyPlacement.Rephrased rest restToo)
    {reply replyToo : (StoreCall.get key).Reply}
    (alike : StoreCall.Rephrased (.get key) reply replyToo) :
    (resume rules lobby (.counting ⟨loads, key, rest⟩) reply).Rephrased
      (resume rules lobby (.counting ⟨loads, key, restToo⟩) replyToo) :=
  rephrased_afterTally rules (Census.rephrased_read loads key listings alike)

end Placement

/-! ### Desks -/

namespace Desk

variable {σ τ π : Type}

/-- The same desk with another store. -/
def withStore (d : Desk σ π) (t : τ) : Desk τ π := d.view (fun _ => t) id

theorem withStore_recordAll (d : Desk σ π) (t : τ) (started : Nat) (notes : List Note) :
    (d.withStore t).recordAll started notes = (d.recordAll started notes).withStore t :=
  view_recordAll _ _ d started notes

variable [Store σ] [Store τ]

/-- Desks that differ at most in the words of what their stores say. -/
structure Twins (d : Desk σ π) (e : Desk τ π) : Prop where
  stores : Store.SpeakAlike d.store e.store
  rest : e = d.withStore e.store

theorem Twins.recordAll {d : Desk σ π} {e : Desk τ π} (twins : d.Twins e) (started : Nat)
    (notes : List Note) : (d.recordAll started notes).Twins (e.recordAll started notes) := by
  refine ⟨?_, ?_⟩
  · rw [recordAll_store, recordAll_store]
    exact twins.stores
  · rw [recordAll_store, ← withStore_recordAll, ← twins.rest]

variable [Publisher π]

theorem Twins.carryOut {d : Desk σ π} {e : Desk τ π} (twins : d.Twins e) (effect : Effect) :
    (d.carryOut effect).1.Twins (e.carryOut effect).1 ∧
      effect.Rephrased (d.carryOut effect).2 (e.carryOut effect).2 := by
  obtain ⟨stores, rest⟩ := twins
  cases effect with
  | store call =>
    refine ⟨⟨stores.next call, ?_⟩, stores.reply call⟩
    rw [rest]
    rfl
  | announce a =>
    -- The publishers are the same, and so is all they are given.
    rw [rest]
    simp only [Desk.carryOut, announce_eq]
    exact ⟨⟨stores, rfl⟩, rfl⟩

/-- One step of a request and of the same in other words. -/
theorem step_twins {d : Desk σ π} {e : Desk τ π} (twins : d.Twins e) (lobby : String)
    (started : Nat) {phase : Phase} {q : Progress} (alike : (Progress.waiting phase).Rephrased q) :
    ∃ phaseToo, q = .waiting phaseToo ∧
      (d.step ⟨lobby, started, phase⟩).1.Twins (e.step ⟨lobby, started, phaseToo⟩).1 ∧
      (d.step ⟨lobby, started, phase⟩).2.Rephrased (e.step ⟨lobby, started, phaseToo⟩).2 := by
  have rules : ∀ effect, (e.carryOut effect).1.rules = (d.carryOut effect).1.rules := by
    intro effect
    rw [carryOut_rules, carryOut_rules, twins.rest]
    rfl
  cases alike with
  | same =>
    obtain ⟨carried, replies⟩ := twins.carryOut (phase.effect lobby)
    have moved := Placement.rephrased_resume (d.carryOut (phase.effect lobby)).1.rules lobby replies
    refine ⟨phase, rfl, ?_, ?_⟩
    · simp only [step, rules, moved.notes]
      exact carried.recordAll started _
    · simp only [step, rules]
      exact moved.progress
  | counting loads key listings =>
    rename_i rest restToo
    obtain ⟨carried, replies⟩ := twins.carryOut (.store (.get key))
    have moved := Placement.rephrased_resume_counting
      (d.carryOut (.store (.get key))).1.rules lobby loads key listings replies
    refine ⟨.counting ⟨loads, key, restToo⟩, rfl, ?_, ?_⟩
    · simp only [step, rules, Phase.effect, moved.notes]
      exact carried.recordAll started _
    · simp only [step, rules, Phase.effect]
      exact moved.progress

omit [Store σ] [Store τ] [Publisher π] in
theorem Leaving.rephrased_progress {leaving : Leaving} {q : Progress}
    (alike : leaving.progress.Rephrased q) : ∃ leavingToo : Leaving, q = leavingToo.progress := by
  cases leaving with
  | answered outcome =>
    cases alike with
    | same => exact ⟨.answered outcome, rfl⟩
    | failed fault text => exact ⟨.answered (.error (fault.reworded text)), rfl⟩
  | crashed =>
    cases alike
    exact ⟨.crashed, rfl⟩

/-- Requests in other words are brought to the same end in other words. -/
theorem finish_twins {d : Desk σ π} {e : Desk τ π} (twins : d.Twins e) (lobby : String)
    (started : Nat) {p q : Progress} (alike : p.Rephrased q) :
    (d.finish lobby started p).1.Twins (e.finish lobby started q).1 ∧
      (d.finish lobby started p).2.progress.Rephrased (e.finish lobby started q).2.progress :=
  finish_related (R := fun d p e q => d.Twins e ∧ p.Rephrased q)
    (fun ⟨twins, alike⟩ => step_twins twins lobby started alike)
    (fun _ ⟨_, alike⟩ => Leaving.rephrased_progress alike)
    ⟨twins, alike⟩

theorem resolve_twins {d : Desk σ π} {e : Desk τ π} (twins : d.Twins e) (lobby : String) :
    (d.resolve lobby).1.Twins (e.resolve lobby).1 ∧
      (d.resolve lobby).2.progress.Rephrased (e.resolve lobby).2.progress := by
  have now : e.now = d.now := by
    rw [twins.rest]
    rfl
  have begun := twins.recordAll d.now (Placement.start lobby).notes
  simp only [resolve, begin, now]
  exact finish_twins begun lobby d.now (.same (Placement.start lobby).progress)

end Desk

end LobbyPlacement

import LobbyPlacement.Proofs.Http.Reconciling
import LobbyPlacement.Proofs.Placement.Wording

/-!
# Answers without regard to the wording of faults

What is sent over the network depends on the kind of a fault and not on its words: two desks whose
stores speak alike send the same answers, one after the other. An answer with 200 holds the address
that was resolved.
-/

namespace LobbyPlacement

namespace Http

/-! ### What is sent -/

theorem outcomeAnswer_reworded (fault : Fault) (text : String) :
    outcomeAnswer (.error (fault.reworded text)) = outcomeAnswer (.error fault) := by
  cases fault <;> rfl

theorem outcomeAnswer_status {outcome : Outcome} (good : (outcomeAnswer outcome).status = 200) :
    ∃ placed, outcome = .ok placed := by
  cases outcome with
  | ok placed => exact ⟨placed, rfl⟩
  | error fault => cases fault <;> simp [outcomeAnswer, faultAnswer, Answer.plain] at good

/-- Words that do not show in what is sent of an outcome do not show at all. -/
theorem answer?_rephrased {write : Outcome → Answer}
    (discreet : ∀ fault text, write (.error (fault.reworded text)) = write (.error fault))
    {l m : Desk.Leaving} (alike : l.progress.Rephrased m.progress) :
    m.answer? write = l.answer? write := by
  generalize same : m.progress = q at alike
  cases l with
  | answered outcome =>
    cases alike with
    | same => rw [Desk.Leaving.progress_injective (m := .answered outcome) same]
    | failed fault text =>
      rw [Desk.Leaving.progress_injective (m := .answered (.error (fault.reworded text))) same]
      exact congrArg some (discreet fault text)
  | crashed =>
    cases alike
    rw [Desk.Leaving.progress_injective (m := .crashed) same]

theorem sent_status (method : Method) (answer : Answer) :
    (method.sent answer).status = answer.status := by
  cases method <;> rfl

theorem sent_reworded (method : Method) (fault : Fault) (text : String) :
    method.sent (outcomeAnswer (.error (fault.reworded text))) =
      method.sent (outcomeAnswer (.error fault)) := by
  rw [outcomeAnswer_reworded]

section Placing

variable {σ τ π : Type} [Store σ] [Store τ] [Publisher π]

theorem api_twins {d : Desk σ π} {e : Desk τ π} (twins : d.Twins e) (method : Method)
    (target : Target) :
    (api e method target).2 = (api d method target).2 ∧
      (api d method target).1.Twins (api e method target).1 := by
  rcases api_places (π := π) method target with ⟨answer, _, told⟩ | ⟨lobby, _, _, told⟩
  · rw [told, told]
    exact ⟨rfl, twins⟩
  · obtain ⟨twinsThen, alike⟩ := Desk.resolve_twins twins lobby
    rw [told, told]
    exact ⟨answer?_rephrased (sent_reworded method) alike, twinsThen⟩

/-- Only an address that was resolved is sent with 200, as it is or without the body. -/
theorem api_placed {d : Desk σ π} {method : Method} {target : Target} {answer : Answer}
    (sent : (api d method target).2 = some answer) (good : answer.status = 200) :
    ∃ lobby placed, lobbyOf target.query = .ok (some lobby) ∧
      (d.resolve lobby).2 = .answered (.ok placed) ∧
      (method = .get ∧ answer = .plain 200 placed.server ∨
        method = .head ∧ answer = (Answer.plain 200 placed.server).withoutBody) := by
  rcases api_places (π := π) method target with ⟨refusal, bad, told⟩ | ⟨lobby, asked, reads, told⟩
  · rw [told] at sent
    obtain rfl := Option.some.inj sent
    exact (bad good).elim
  · rw [told] at sent
    dsimp only at sent
    cases left : (d.resolve lobby).2 with
    | crashed =>
      rw [left] at sent
      cases sent
    | answered outcome =>
      rw [left] at sent
      obtain rfl := Option.some.inj sent
      rw [sent_status] at good
      obtain ⟨placed, rfl⟩ := outcomeAnswer_status good
      refine ⟨lobby, placed, asked, left, ?_⟩
      rcases reads with rfl | rfl
      · exact .inl ⟨rfl, rfl⟩
      · exact .inr ⟨rfl, rfl⟩

/-- Requests to the interface, one after the other, with their answers. -/
def exchange (d : Desk σ π) : List (Method × Target) → List (Option Answer)
  | [] => []
  | (method, target) :: rest =>
    let (next, answer) := api d method target
    answer :: exchange next rest

theorem exchange_twins {d : Desk σ π} {e : Desk τ π} (twins : d.Twins e)
    (requests : List (Method × Target)) : exchange e requests = exchange d requests := by
  induction requests generalizing d e with
  | nil => rfl
  | cons request rest ih =>
    obtain ⟨method, target⟩ := request
    obtain ⟨same, twinsThen⟩ := api_twins twins method target
    simp only [exchange, same, ih twinsThen]

/-- Whatever a desk has been through, its answers do not show the words of its store's faults: with
any store that speaks alike it sends the same. Only an address that was resolved is sent with 200,
as it is, unless the head alone was asked for. -/
theorem answers_hide_wording (d : Desk σ π) {t : τ} (alike : Store.SpeakAlike d.store t)
    (method : Method) (target : Target) :
    (api (d.withStore t) method target).2 = (api d method target).2 ∧
      ∀ answer, (api d method target).2 = some answer → answer.status = 200 →
        ∃ lobby placed, lobbyOf target.query = .ok (some lobby) ∧
          (d.resolve lobby).2 = .answered (.ok placed) ∧
          (method = .get ∧ answer = .plain 200 placed.server ∨
            method = .head ∧ answer = (Answer.plain 200 placed.server).withoutBody) := by
  have twins : d.Twins (d.withStore t) := ⟨alike, rfl⟩
  exact ⟨(api_twins twins method target).1, fun answer sent good => api_placed sent good⟩

end Placing

/-- The first read fails with a secret, the second one finds an address full of marks. -/
def secretDesk : Desk ScriptedStore Recorder :=
  .opening (.standard .two)
    { ScriptedStore.ofMemory ⟨.ofList [("L", "<A>&\n\"%2F")], true⟩ with
      script := { Script.empty with gets := [.fail (.internal "secret connection string")] } }
    .empty

def placing : Target := ⟨assignPath, "lobby_id=L"⟩

/-- The secret is told by the store and not sent; behind it the address is sent as it is. -/
theorem secret_is_not_sent :
    let wordless := Wordless.mk secretDesk.store
    let next := (api secretDesk .get placing).1
    let read := fun answer : Answer => (answer.status, answer.body.render)
    (Store.perform secretDesk.store (.get "L")).2 = .error (.internal "secret connection string") ∧
      (Store.perform wordless (.get "L")).2 = .error (.internal "") ∧
      Store.SpeakAlike secretDesk.store wordless ∧
      (api (secretDesk.withStore wordless) .get placing).2.map read = some (500, "internal error") ∧
      ∃ answer, (api next .get placing).2 = some answer ∧
        read answer = (200, "<A>&\n\"%2F") ∧
        ∃ lobby placed, lobbyOf placing.query = .ok (some lobby) ∧
          (next.resolve lobby).2 = .answered (.ok placed) ∧ answer = .plain 200 placed.server := by
  intro wordless next read
  have run : ((answerAllWithin 1 secretDesk [placing.query, placing.query]).map fun left =>
      left.2.map (Option.map read)) =
        some [some (500, "internal error"), some (200, "<A>&\n\"%2F")] := by
    decide +kernel
  obtain ⟨left, ended, shown⟩ := Option.map_eq_some_iff.mp run
  rw [← answerAll_of_within ended] at shown
  simp only [answerAll, List.map_cons, List.map_nil, List.cons.injEq, and_true] at shown
  obtain ⟨first, second⟩ := shown
  obtain ⟨answer, sent, told⟩ := Option.map_eq_some_iff.mp second
  have hidden := answers_hide_wording secretDesk (Wordless.speakAlike _) .get placing
  have placed := answers_hide_wording next (Wordless.speakAlike _) .get placing
  refine ⟨rfl, rfl, Wordless.speakAlike _, ?_, answer, sent, told, ?_⟩
  · rw [hidden.1]
    exact first
  · obtain ⟨lobby, found, asked, left, shownAs | ⟨other, _⟩⟩ :=
      placed.2 answer sent (congrArg Prod.fst told)
    · exact ⟨lobby, found, asked, left, shownAs.2⟩
    · cases other

/-- Asked for the head alone, a request that resolved an address is answered with 200 and without
the address. -/
theorem head_leaves_out_the_address :
    let d : Desk MemoryStore Recorder := .opening (.standard .two) .empty .empty
    ∃ answer, (api d .head ⟨assignPath, "lobby_id=L1"⟩).2 = some answer ∧ answer.status = 200 ∧
      (d.resolve "L1").2.server? = some (.ok "A") ∧ answer.body.render ≠ "A" := by
  intro d
  let write := fun outcome => Method.head.sent (outcomeAnswer outcome)
  have run : ((Desk.finishWithin "L1" 0 4 d (.waiting .looking)).map fun left =>
      (left.2.server?, (left.2.answer? write).map fun a => (a.status, a.body.render))) =
        some (some (.ok "A"), some (200, "")) := by decide +kernel
  obtain ⟨left, ended, shown⟩ := Option.map_eq_some_iff.mp run
  have whole : d.resolve "L1" = left := Desk.finish_of_within ended
  rw [← whole, Prod.mk.injEq] at shown
  obtain ⟨resolved, written⟩ := shown
  obtain ⟨answer, sent, told⟩ := Option.map_eq_some_iff.mp written
  rw [Prod.mk.injEq] at told
  refine ⟨answer, ?_, told.1, resolved, ?_⟩
  · have asked : lobbyOf "lobby_id=L1" = .ok (some "L1") := by decide +kernel
    rw [← sent]
    simp only [api, if_true, Method.answer, assign, asked]
    rcases d.resolve "L1" with ⟨e, outcome | _⟩ <;> rfl
  · rw [told.2]
    decide

end Http

end LobbyPlacement

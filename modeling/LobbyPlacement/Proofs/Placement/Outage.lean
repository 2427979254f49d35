import LobbyPlacement.Proofs.Placement.Hall
import Mathlib.Data.List.Induction

/-!
# Which faults a request can end with

A store in memory fails only while it is switched off, and its listings are never interrupted. So a
request fails by a fault of the store, because its lobby is blank, or because what it lost against
is gone; nothing in its own count can fail. What it lost against is never gone, since no move loses
a stored lobby: `failsOnlyBy_run` says so for all runs.
-/

namespace LobbyPlacement

theorem Load.credit_ne_nil {loads : List Load} (some_load : loads ≠ []) (server : String) :
    credit server loads ≠ [] := by
  cases loads with
  | nil => exact (some_load rfl).elim
  | cons first rest =>
    unfold credit
    split <;> exact List.cons_ne_nil _ _

theorem Table.credited_ne_nil (t : Table) {loads : List Load} (some_load : loads ≠ [])
    (key : String) : t.credited loads key ≠ [] := by
  unfold credited
  split
  · exact Load.credit_ne_nil some_load _
  · exact some_load

namespace MemoryStore

@[simp]
theorem perform_keeps (s : MemoryStore) (c : StoreCall) :
    (Store.perform s c).1.available = s.available := by
  show (s.perform c).1.available = s.available
  cases available : s.available with
  | true => rw [perform_available available]
  | false => rw [perform_unavailable available, available]

theorem failed_by_outage {s : MemoryStore} {c : StoreCall} {fault : Fault}
    (failing : (Store.perform s c).2 = .error fault) : s.available = false ∧ fault = outage := by
  change (s.perform c).2 = .error fault at failing
  cases available : s.available with
  | true =>
    rw [perform_available available] at failing
    cases failing
  | false =>
    rw [perform_unavailable available] at failing
    exact ⟨rfl, (Except.error.inj failing).symm⟩

theorem listing_uninterrupted {s : MemoryStore} {listing : List (Except Fault String)}
    (answered : (Store.perform s (.scan everyKey)).2 = .ok listing) (fault : Fault) :
    .error fault ∉ listing := by
  have available := available_of_ok answered
  change (s.perform (.scan everyKey)).2 = .ok listing at answered
  rw [perform_available available, answer_everyKey] at answered
  obtain rfl := Except.ok.inj answered
  simp

end MemoryStore

namespace Progress

/-- A request has failed, if at all, by a fault of this kind or for being blank, and one that still
counts has some servers to choose from and no interruption ahead. -/
def FailsOnlyBy (may : Fault → Prop) (lobby : String) : Progress → Prop
  | .answered (.error fault) => may fault ∨ Text.isBlankText lobby = true
  | .waiting (.counting census) => census.loads ≠ [] ∧ ∀ fault, .error fault ∉ census.rest
  | _ => True

theorem start_failsOnlyBy (may : Fault → Prop) (lobby : String) :
    (Placement.start lobby).progress.FailsOnlyBy may lobby := by
  rcases Placement.start_progress lobby with looking | ⟨blank, refused⟩
  · rw [looking]
    trivial
  · rw [refused]
    exact .inr blank

theorem afterTally_failsOnlyBy {rules : Rules} {loads : List Load}
    {listing : List (Except Fault String)} (some_load : loads ≠ [])
    (whole : ∀ fault, .error fault ∉ listing) (may : Fault → Prop) (lobby : String) :
    (Placement.afterTally rules (.before loads listing)).progress.FailsOnlyBy may lobby := by
  rcases Placement.afterTally_progress rules (.before loads listing) with
    ⟨census, tally, next⟩ | ⟨fault, tally, _⟩ | ⟨_, load, _, _, next⟩
  · rw [next]
    cases listing with
    | nil => cases tally
    | cons item rest =>
      cases item with
      | error fault => cases tally
      | ok key =>
        obtain rfl := Tally.reading.inj tally
        exact ⟨some_load, fun fault member => whole fault (List.mem_cons_of_mem _ member)⟩
  · cases listing with
    | nil =>
      rcases tally with failed | counted
      · cases failed
      · exact (some_load (Tally.counted.inj counted)).elim
    | cons item rest =>
      cases item with
      | error fault => exact (whole fault List.mem_cons_self).elim
      | ok key => rcases tally with failed | counted <;> contradiction
  · rw [next]
    cases rules.mode <;> trivial

end Progress

/-- A move at a store in memory fails only by a fault of the store, unless what the request lost
against is gone. -/
theorem Moves.failsOnlyBy {rules : Rules} {lobby : String} {s : MemoryStore} {phase : Phase}
    {t : Table} {progress : Progress} {may : Fault → Prop}
    (failing : ∀ c fault, (Store.perform s c).2 = .error fault → may fault)
    (present : phase = .adopting → (s.table.value? lobby).isSome)
    (before : (Progress.waiting phase).FailsOnlyBy may lobby)
    (moves : Moves rules lobby s phase t progress) : progress.FailsOnlyBy may lobby := by
  cases moves with
  | failed asked failed => exact .inl (failing _ _ failed)
  | listed answered =>
    have some_load : Load.zero rules.pool.servers ≠ [] := by
      simpa [Load.zero] using rules.pool.nonempty
    exact Progress.afterTally_failsOnlyBy some_load
      (MemoryStore.listing_uninterrupted answered) may lobby
  | counted =>
    obtain ⟨some_load, whole⟩ := before
    rw [Census.read_value?]
    exact Progress.afterTally_failsOnlyBy (Table.credited_ne_nil _ some_load _) whole may lobby
  | vanished absent =>
    have stored := present rfl
    change s.table.value? lobby = none at absent
    rw [absent] at stored
    cases stored
  | hit | missed | claimed | refused | overwrote | adopted | announced | crashed => trivial

/-! ### What a request lost against stays stored -/

/-- A request that has lost a race finds its lobby stored. -/
def Progress.KnowsStored (t : Table) (lobby : String) : Progress → Prop
  | .waiting .adopting => (t.value? lobby).isSome
  | _ => True

theorem Progress.start_knowsStored (t : Table) (lobby : String) :
    (Placement.start lobby).progress.KnowsStored t lobby := by
  rcases Placement.start_progress lobby with looking | ⟨_, refused⟩
  · rw [looking]
    trivial
  · rw [refused]
    trivial

theorem Progress.afterTally_knowsStored (rules : Rules) (t : Table) (lobby : String)
    (tally : Tally) : (Placement.afterTally rules tally).progress.KnowsStored t lobby := by
  rcases Placement.afterTally_progress rules tally with
    ⟨census, _, next⟩ | ⟨fault, _, next⟩ | ⟨loads, load, _, _, next⟩
  · rw [next]
    trivial
  · rw [next]
    trivial
  · rw [next]
    cases rules.mode <;> trivial

section

variable {σ : Type} [Store σ] [Ledger σ] {rules : Rules} {lobby : String} {s : σ} {phase : Phase}
  {t : Table} {progress : Progress}

theorem Moves.isSome_kept (moves : Moves rules lobby s phase t progress) {key : String}
    (stored : ((Ledger.table s).value? key).isSome) : (t.value? key).isSome := by
  cases moves with
  | claimed | overwrote =>
    rw [Table.value?_insert]
    split
    · rfl
    · exact stored
  | failed | hit | missed | listed | counted | refused | adopted | vanished | announced | crashed =>
    exact stored

theorem Progress.knowsStored_mono (moves : Moves rules lobby s phase t progress) {other : String}
    {p : Progress} (knows : p.KnowsStored (Ledger.table s) other) : p.KnowsStored t other := by
  unfold KnowsStored at knows ⊢
  split
  · exact moves.isSome_kept knows
  · trivial

theorem Moves.knowsStored (moves : Moves rules lobby s phase t progress) :
    progress.KnowsStored t lobby := by
  cases moves with
  | refused stored => exact stored
  | listed | counted => exact Progress.afterTally_knowsStored rules _ lobby _
  | failed | hit | missed | claimed | overwrote | adopted | vanished | announced | crashed =>
    trivial

end

namespace Hall

variable {π : Type} [Publisher π]

theorem step_available (h : Hall MemoryStore π) (e : Event (Ledger.Weather MemoryStore))
    (on : h.desk.store.available = true) (stays : ∀ w, e = .weather w → w = true) :
    (h.step e).desk.store.available = true := by
  cases e with
  | enter lobby =>
    have kept : (h.step (.enter lobby)).desk.store = h.desk.store := Desk.recordAll_store ..
    rw [kept]
    exact on
  | advance number =>
    change (h.advance number).desk.store.available = true
    rcases h.advance_cases number with ⟨lobby, started, phase, seated⟩ | same
    · rw [advance_eq seated]
      simp only [Desk.step, Desk.recordAll_store]
      cases phase.effect lobby with
      | store call => exact (MemoryStore.perform_keeps h.desk.store call).trans on
      | announce a =>
        have kept : (h.desk.carryOut (.announce a)).1.store = h.desk.store :=
          (Desk.announce_frame h.desk a).2
        rw [kept]
        exact on
    · rw [same]
      exact on
  | glance lobby =>
    change (h.desk.lookup lobby).1.store.available = true
    unfold Desk.lookup
    cases Placement.checkLobby lobby with
    | error fault => exact on
    | ok => exact (MemoryStore.perform_keeps h.desk.store (.get lobby)).trans on
  | weather w => exact stays w rfl
  | elapse ms => exact on

theorem available_run {d : Desk MemoryStore π} (on : d.store.available = true)
    {events : List (Event (Ledger.Weather MemoryStore))}
    (stays : ∀ w, .weather w ∈ events → w = true) :
    ((atDesk d).run events).desk.store.available = true := by
  induction events using List.reverseRecOn with
  | nil => exact on
  | append_singleton before e ih =>
    rw [run_concat]
    refine step_available _ e (ih fun w member => stays w (List.mem_append_left _ member)) ?_
    rintro w rfl
    exact stays w (List.mem_append_right _ List.mem_cons_self)

/-- In every run, in either mode, a request fails only as the store fails at some moment of the run,
or because its lobby is blank. -/
theorem failsOnlyBy_run (d : Desk MemoryStore π) {may : Fault → Prop}
    (events : List (Event (Ledger.Weather MemoryStore)))
    (failing : ∀ before, before <+: events → ∀ c fault,
      (Store.perform ((atDesk d).run before).desk.store c).2 = .error fault → may fault) :
    ∀ seat ∈ ((atDesk d).run events).seats, seat.progress.FailsOnlyBy may seat.lobby ∧
      seat.progress.KnowsStored ((atDesk d).run events).table seat.lobby := by
  -- The second part rules out, in the step, that a request finds gone what it lost against.
  induction events using List.reverseRecOn with
  | nil => simp [atDesk, run]
  | append_singleton before e ih =>
    have earlier : before <+: before ++ [e] := List.prefix_append before [e]
    have old := ih fun front early => failing front (early.trans earlier)
    have failingNow := failing before earlier
    rw [run_concat]
    generalize (atDesk d).run before = h at old failingNow ⊢
    have change := h.step_change e
    generalize (h.step e).table = t at change ⊢
    generalize (h.step e).seats = seats at change ⊢
    cases change with
    | idle => exact old
    | entered lobby started =>
      intro seat member
      rcases List.mem_append.mp member with early | late
      · exact old seat early
      · obtain rfl := List.mem_singleton.mp late
        exact ⟨Progress.start_failsOnlyBy may lobby, Progress.start_knowsStored _ lobby⟩
    | moved seated moves =>
      intro seat member
      rcases List.mem_or_eq_of_mem_set member with early | rfl
      · obtain ⟨unfailing, knows⟩ := old seat early
        exact ⟨unfailing, Progress.knowsStored_mono moves knows⟩
      · obtain ⟨unfailing, knows⟩ := old _ (List.mem_of_getElem? seated)
        refine ⟨moves.failsOnlyBy failingNow ?_ unfailing, moves.knowsStored⟩
        rintro rfl
        exact knows

theorem fails_by_outage (d : Desk MemoryStore π)
    (events : List (Event (Ledger.Weather MemoryStore))) :
    ∀ before, before <+: events → ∀ c fault,
      (Store.perform ((atDesk d).run before).desk.store c).2 = .error fault →
        fault = MemoryStore.outage :=
  fun _ _ _ _ failing => (MemoryStore.failed_by_outage failing).2

theorem never_fails_available {d : Desk MemoryStore π} (on : d.store.available = true)
    {events : List (Event (Ledger.Weather MemoryStore))}
    (stays : ∀ w, .weather w ∈ events → w = true) :
    ∀ before, before <+: events → ∀ c fault,
      (Store.perform ((atDesk d).run before).desk.store c).2 = .error fault → False := by
  intro before early c fault failing
  have onNow := available_run on fun w member => stays w (early.subset member)
  have off := (MemoryStore.failed_by_outage failing).1
  rw [onNow] at off
  cases off

end Hall

end LobbyPlacement

import LobbyPlacement.Proofs.Placement.Outage
import LobbyPlacement.Proofs.Publisher

/-!
# Requests are answered, and fail only by an outage

At a store in memory and with a publisher that never crashes, a request that gets its turns again
and again comes to an answer (`ended_of_fair`), whatever the other requests do meanwhile, and what
it can be answered is listed: `only_outages_fail` puts both together for all runs.
-/

namespace LobbyPlacement

theorem Placement.start_of_blank {lobby : String} (blank : Text.isBlankText lobby = true) :
    (Placement.start lobby).progress = .answered (.error blankLobby) := by
  unfold Placement.start Placement.checkLobby
  rw [blank]
  rfl

namespace Hall

variable {σ π : Type} [Store σ] [Ledger σ] [Publisher π]

theorem blank_refused (d : Desk σ π) (events : List (Event (Ledger.Weather σ))) :
    ∀ seat ∈ ((atDesk d).run events).seats, Text.isBlankText seat.lobby = true →
      seat.progress = .answered (.error Placement.blankLobby) := by
  refine run_kept (P := fun h : Hall σ π => ∀ seat ∈ h.seats, Text.isBlankText seat.lobby = true →
    seat.progress = .answered (.error Placement.blankLobby)) ?_ (by simp [atDesk]) events
  intro h e refused
  refine (h.step_change e).forall_seats (fun lobby _ blank => Placement.start_of_blank blank)
    refused ?_
  intro lobby started phase progress old _ blank
  cases refused _ old blank

theorem steady_run {d : Desk σ π} (steady : Publisher.NeverCrashes d.publisher)
    (events : List (Event (Ledger.Weather σ))) :
    Publisher.NeverCrashes ((atDesk d).run events).desk.publisher ∧
      ∀ seat ∈ ((atDesk d).run events).seats, seat.progress ≠ .crashed := by
  refine run_kept (P := fun h : Hall σ π => Publisher.NeverCrashes h.desk.publisher ∧
    ∀ seat ∈ h.seats, seat.progress ≠ .crashed) ?_ ⟨steady, by simp [atDesk]⟩ events
  rintro h e ⟨steadyNow, kept⟩
  cases e with
  | enter lobby =>
    have same : (h.step (.enter lobby)).desk.publisher = h.desk.publisher :=
      Desk.recordAll_publisher ..
    refine ⟨by rwa [same], ?_⟩
    intro seat member
    rcases List.mem_append.mp member with early | late
    · exact kept seat early
    · obtain rfl := List.mem_singleton.mp late
      rcases Placement.start_progress lobby with looking | ⟨_, refused⟩
      · simp [looking]
      · simp [refused]
  | advance number =>
    show Publisher.NeverCrashes (h.advance number).desk.publisher ∧
      ∀ seat ∈ (h.advance number).seats, seat.progress ≠ .crashed
    rcases h.advance_cases number with ⟨lobby, started, phase, seated⟩ | same
    · rw [advance_eq seated]
      obtain ⟨steadyThen, unlost⟩ := Desk.step_steady steadyNow ⟨lobby, started, phase⟩
      refine ⟨steadyThen, ?_⟩
      intro seat member
      rcases List.mem_or_eq_of_mem_set member with early | rfl
      · exact kept seat early
      · exact unlost
    · rw [same]
      exact ⟨steadyNow, kept⟩
  | glance lobby =>
    have same : (h.step (.glance lobby)).desk.publisher = h.desk.publisher := by
      show (h.desk.lookup lobby).1.publisher = h.desk.publisher
      unfold Desk.lookup
      cases Placement.checkLobby lobby <;> rfl
    exact ⟨by rwa [same], kept⟩
  | weather w => exact ⟨steadyNow, kept⟩
  | elapse ms => exact ⟨steadyNow, kept⟩

/-! ### Every request comes to its end -/

theorem step_others (h : Hall σ π) {e : Event (Ledger.Weather σ)} {number : Nat} {seat : Seat}
    (other : e ≠ .advance number) (seated : h.seats[number]? = some seat) :
    (h.step e).seats[number]? = some seat := by
  cases e with
  | enter lobby =>
    exact (List.getElem?_append_left (List.getElem?_eq_some_iff.mp seated).1).trans seated
  | advance mover =>
    show (h.advance mover).seats[number]? = some seat
    rcases h.advance_cases mover with ⟨lobby, started, phase, moving⟩ | same
    · have different : mover ≠ number := fun same => other (congrArg Event.advance same)
      rw [advance_eq moving, List.getElem?_set_ne different]
      exact seated
    · rwa [same]
  | glance lobby => exact seated
  | weather w => exact seated
  | elapse ms => exact seated

theorem step_mine (h : Hall σ π) {number : Nat} {lobby : String} {started : Nat} {phase : Phase}
    (seated : h.seats[number]? = some ⟨lobby, started, .waiting phase⟩) :
    (h.step (.advance number)).seats[number]? =
      some ⟨lobby, started, (h.desk.step ⟨lobby, started, phase⟩).2⟩ := by
  show (h.advance number).seats[number]? = _
  rw [advance_eq seated]
  exact List.getElem?_set_self (List.getElem?_eq_some_iff.mp seated).1

/-- The hall after the first so many events of an endless schedule. -/
def after (h : Hall σ π) (schedule : Nat → Event (Ledger.Weather σ)) (moment : Nat) : Hall σ π :=
  h.run ((List.range moment).map schedule)

theorem after_succ (h : Hall σ π) (schedule : Nat → Event (Ledger.Weather σ)) (moment : Nat) :
    h.after schedule (moment + 1) = (h.after schedule moment).step (schedule moment) := by
  unfold after
  rw [List.range_succ, List.map_append]
  exact run_concat h _ _

/-- A waiting request whose turn comes up later waits just so until then. -/
theorem waits_until {h : Hall σ π} {schedule : Nat → Event (Ledger.Weather σ)} {number : Nat}
    {seat : Seat} {moment gap : Nat} (seated : (h.after schedule moment).seats[number]? = some seat)
    (turn : schedule (moment + gap) = .advance number) :
    ∃ next, schedule next = .advance number ∧
      (h.after schedule next).seats[number]? = some seat := by
  induction gap generalizing moment with
  | zero => exact ⟨moment, turn, seated⟩
  | succ gap ih =>
    by_cases now : schedule moment = .advance number
    · exact ⟨moment, now, seated⟩
    · have seatedThen : (h.after schedule (moment + 1)).seats[number]? = some seat := by
        rw [after_succ]
        exact step_others _ now seated
      exact ih seatedThen (by rwa [Nat.add_right_comm])

theorem closer_wellFounded : WellFounded Placement.Closer :=
  (Prod.lex Nat.lt_wfRel Nat.lt_wfRel).wf

/-- A request that gets its turn again and again comes to its end. -/
theorem ended_of_fair {h : Hall σ π} {schedule : Nat → Event (Ledger.Weather σ)} {number : Nat}
    (fair : ∀ moment, ∃ later, moment ≤ later ∧ schedule later = .advance number) {moment : Nat}
    {lobby : String} {started : Nat} {progress : Progress}
    (seated : (h.after schedule moment).seats[number]? = some ⟨lobby, started, progress⟩) :
    ∃ last ended, (h.after schedule last).seats[number]? = some ⟨lobby, started, ended⟩ ∧
      ∀ phase, ended ≠ .waiting phase := by
  -- Every turn of the request lowers its rank, and nothing else moves it.
  generalize ranked : (progress.stage, progress.remaining) = rank
  induction rank using closer_wellFounded.induction generalizing moment progress with
  | _ rank ih =>
    cases progress with
    | waiting phase =>
      obtain ⟨later, late, turn⟩ := fair moment
      obtain ⟨gap, rfl⟩ := Nat.exists_eq_add_of_le late
      obtain ⟨next, mine, stillSeated⟩ := waits_until seated turn
      have moved := step_mine (h.after schedule next) stillSeated
      rw [← mine, ← after_succ] at moved
      refine ih _ ?_ moved rfl
      rw [← ranked]
      exact (h.after schedule next).desk.closer_step ⟨lobby, started, phase⟩
    | answered outcome => exact ⟨moment, _, seated, nofun⟩
    | crashed => exact ⟨moment, _, seated, nofun⟩

/-! ### What a request can be answered -/

omit [Store σ] [Ledger σ] in
/-- A request that has ended was answered with a server, with a fault of the store, or because its
lobby is blank. -/
theorem answers_run {d : Desk MemoryStore π} (steady : Publisher.NeverCrashes d.publisher)
    {may : Fault → Prop} {events : List (Event (Ledger.Weather MemoryStore))}
    (failing : ∀ before, before <+: events → ∀ c fault,
      (Store.perform ((atDesk d).run before).desk.store c).2 = .error fault → may fault) :
    ∀ seat ∈ ((atDesk d).run events).seats, seat.isWaiting = true ∨
      (∃ placed, seat.progress = .answered (.ok placed)) ∨
      (∃ fault, may fault ∧ seat.progress = .answered (.error fault)) ∨
      Text.isBlankText seat.lobby = true ∧
        seat.progress = .answered (.error Placement.blankLobby) := by
  intro seat member
  have unlost := (steady_run steady events).2 seat member
  have refused := blank_refused d events seat member
  obtain ⟨unfailing, _⟩ := failsOnlyBy_run d events failing seat member
  obtain ⟨lobby, started, progress⟩ := seat
  cases progress with
  | waiting phase => exact .inl rfl
  | crashed => exact (unlost rfl).elim
  | answered outcome =>
    cases outcome with
    | ok placed => exact .inr (.inl ⟨placed, rfl⟩)
    | error fault =>
      rcases unfailing with mayFail | blank
      · exact .inr (.inr (.inl ⟨fault, mayFail, rfl⟩))
      · exact .inr (.inr (.inr ⟨blank, refused blank⟩))

omit [Store σ] [Ledger σ] in
theorem answered_of_fair {d : Desk MemoryStore π} (steady : Publisher.NeverCrashes d.publisher)
    {events : List (Event (Ledger.Weather MemoryStore))} {number : Nat} {lobby : String}
    {started : Nat} {progress : Progress}
    (seated : ((atDesk d).run events).seats[number]? = some ⟨lobby, started, progress⟩)
    {schedule : Nat → Event (Ledger.Weather MemoryStore)}
    (fair : ∀ moment, ∃ later, moment ≤ later ∧ schedule later = .advance number) :
    ∃ moment outcome, (((atDesk d).run events).after schedule moment).seats[number]? =
      some ⟨lobby, started, .answered outcome⟩ := by
  have seatedNow : (((atDesk d).run events).after schedule 0).seats[number]? =
      some ⟨lobby, started, progress⟩ := seated
  obtain ⟨moment, ended, seatedThen, idle⟩ := ended_of_fair fair seatedNow
  cases ended with
  | waiting phase => exact (idle phase rfl).elim
  | answered outcome => exact ⟨moment, outcome, seatedThen⟩
  | crashed =>
    have kept := (steady_run steady (events ++ (List.range moment).map schedule)).2
    rw [run_append] at kept
    exact (kept _ (List.mem_of_getElem? seatedThen) rfl).elim

omit [Store σ] [Ledger σ] in
/-- Requests in either mode at a store in memory, with outages at any moment, in any order with each
other and with lookups, and with a publisher that never crashes. Every request waits, or was
answered with a server, or has met an outage, or has a blank lobby and was refused; in particular
none fails for an inner fault or a fault of the pool. If the store stays on, a request for a proper
lobby cannot fail. And a request for a proper lobby that gets its turn again and again is answered
in the end, with a server or for an outage, and with a server if the store stays on. -/
theorem only_outages_fail (d : Desk MemoryStore π) (steady : Publisher.NeverCrashes d.publisher)
    (events : List (Event (Ledger.Weather MemoryStore))) :
    let now := (atDesk d).run events
    (∀ seat ∈ now.seats, seat.isWaiting = true ∨
      (∃ placed, seat.progress = .answered (.ok placed)) ∨
      seat.progress = .answered (.error MemoryStore.outage) ∨
      Text.isBlankText seat.lobby = true ∧
        seat.progress = .answered (.error Placement.blankLobby)) ∧
    (∀ seat ∈ now.seats, ∀ text, seat.progress ≠ .answered (.error (.internal text)) ∧
      seat.progress ≠ .answered (.error (.configuration text))) ∧
    (d.store.available = true → (∀ w, .weather w ∈ events → w = true) →
      ∀ seat ∈ now.seats, Text.isBlankText seat.lobby = false →
        seat.isWaiting = true ∨ ∃ placed, seat.progress = .answered (.ok placed)) ∧
    ∀ number lobby started progress, now.seats[number]? = some ⟨lobby, started, progress⟩ →
      Text.isBlankText lobby = false → ∀ schedule : Nat → Event (Ledger.Weather MemoryStore),
      (∀ moment, ∃ later, moment ≤ later ∧ schedule later = .advance number) →
      ∃ moment outcome, (now.after schedule moment).seats[number]? =
          some ⟨lobby, started, .answered outcome⟩ ∧
        ((∃ placed, outcome = .ok placed) ∨ outcome = .error MemoryStore.outage) ∧
        (d.store.available = true → (∀ w, .weather w ∈ events → w = true) →
          (∀ moment w, schedule moment = .weather w → w = true) →
          ∃ placed, outcome = .ok placed) := by
  intro now
  have answers := answers_run steady (fails_by_outage d events)
  refine ⟨?_, ?_, ?_, ?_⟩
  · intro seat member
    rcases answers seat member with waits | placed | ⟨fault, rfl, failed⟩ | refused
    · exact .inl waits
    · exact .inr (.inl placed)
    · exact .inr (.inr (.inl failed))
    · exact .inr (.inr (.inr refused))
  · intro seat member text
    rcases answers seat member with waits | ⟨placed, placedSo⟩ | ⟨fault, rfl, failed⟩ | ⟨_, refused⟩
    · rcases seat with ⟨_, _, phase | _ | _⟩
      · exact ⟨nofun, nofun⟩
      · cases waits
      · cases waits
    · rw [placedSo]
      exact ⟨nofun, nofun⟩
    · rw [failed]
      exact ⟨nofun, nofun⟩
    · rw [refused]
      exact ⟨nofun, nofun⟩
  · intro on stays seat member proper
    rcases answers_run steady (never_fails_available on stays) seat member with
      waits | placed | ⟨_, never, _⟩ | ⟨blank, _⟩
    · exact .inl waits
    · exact .inr placed
    · exact never.elim
    · rw [proper] at blank
      cases blank
  · intro number lobby started progress seated proper schedule fair
    obtain ⟨moment, outcome, answered⟩ := answered_of_fair steady seated fair
    let whole := events ++ (List.range moment).map schedule
    have member : ⟨lobby, started, .answered outcome⟩ ∈ ((atDesk d).run whole).seats := by
      rw [run_append]
      exact List.mem_of_getElem? answered
    refine ⟨moment, outcome, answered, ?_, ?_⟩
    · rcases answers_run steady (fails_by_outage d whole) _ member with
        waits | ⟨placed, same⟩ | ⟨fault, rfl, same⟩ | ⟨blank, _⟩
      · cases waits
      · exact .inl ⟨placed, Progress.answered.inj same⟩
      · exact .inr (Progress.answered.inj same)
      · rw [proper] at blank
        cases blank
    · intro on stays staysOn
      have staysWhole : ∀ w, .weather w ∈ whole → w = true := by
        intro w here
        rcases List.mem_append.mp here with early | late
        · exact stays w early
        · obtain ⟨later, _, same⟩ := List.mem_map.mp late
          exact staysOn later w same
      rcases answers_run steady (never_fails_available on staysWhole) _ member with
        waits | ⟨placed, same⟩ | ⟨_, never, _⟩ | ⟨blank, _⟩
      · cases waits
      · exact ⟨placed, Progress.answered.inj same⟩
      · exact never.elim
      · rw [proper] at blank
        cases blank

def shakyDesk : Desk MemoryStore Recorder := .opening (.standard .two) .empty .empty

/-- Two requests for one lobby, of which the first meets an outage. -/
def shaky : List (Event (Ledger.Weather MemoryStore)) :=
  [.enter "L", .enter "L", .advance 0, .weather false, .advance 0, .weather true, .advance 1]

/-- The first request fails for the outage, and the second is answered when it gets its turns. -/
theorem outage_fails_one_of_two :
    Publisher.NeverCrashes shakyDesk.publisher ∧
      (((atDesk shakyDesk).run shaky).seats.map Seat.progress =
        [.answered (.error MemoryStore.outage), .waiting .listing]) ∧
      ∃ moment outcome,
        (((atDesk shakyDesk).run shaky).after (fun _ => .advance 1) moment).seats[1]? =
          some ⟨"L", 0, .answered outcome⟩ ∧
        ((∃ placed, outcome = .ok placed) ∨ outcome = .error MemoryStore.outage) := by
  refine ⟨Recorder.neverCrashes _, rfl, ?_⟩
  obtain ⟨_, _, _, answered⟩ := only_outages_fail shakyDesk (Recorder.neverCrashes _) shaky
  obtain ⟨moment, outcome, seated, answer, _⟩ := answered 1 "L" 0 (.waiting .listing) rfl
    (by decide) (fun _ => .advance 1) fun moment => ⟨moment, Nat.le_refl moment, rfl⟩
  exact ⟨moment, outcome, seated, answer⟩

end Hall

end LobbyPlacement

import LobbyPlacement.Proofs.Placement.Trace
import LobbyPlacement.Proofs.Service.Observers
import LobbyPlacement.Store.Scripted

/-!
# Observers are invisible

Requests do not go by the gauges, nor does anything else that acts on a service:
`observers_are_invisible` takes the observers out of any run and finds everything else as it was.
The pages that monitors ask often only ping the store.
-/

namespace LobbyPlacement

/-- What came of an affair for those who depend on it: its reply, and then the stored entries, the
transport with all that was published, and the statistics. -/
structure Footprint where
  affair : Affair
  reply : Affair.Reply
  store : MemoryStore
  transport : Transport
  stats : Stats

def Moment.footprint (m : Moment) : Footprint :=
  ⟨m.affair, m.reply, m.after.desk.store, m.after.desk.publisher, m.after.desk.stats⟩

/-! ### Requests do not go by the gauges -/

namespace Desk

variable {σ π : Type}

theorem counters_record {m n : Metrics} (same : m.counters = n.counters) (channel : String)
    (micros : Nat) (note : Note) :
    (m.record channel micros note).counters = (n.record channel micros note).counters := by
  obtain ⟨uptime, health, components, loads, rfl⟩ := Metrics.eq_of_counters same
  cases note <;> rfl

theorem unmeasured_recordAll {d e : Desk σ π} (same : d.unmeasured = e.unmeasured) (started : Nat)
    (notes : List Note) :
    (d.recordAll started notes).unmeasured = (e.recordAll started notes).unmeasured := by
  unfold recordAll
  induction notes generalizing d e with
  | nil => exact same
  | cons note rest ih =>
    refine ih ?_
    obtain ⟨metrics, counters, rfl⟩ := eq_of_unmeasured same
    simp only [unmeasured, record, counters_record counters]

variable [Store σ] [Publisher π]

theorem step_of_unmeasured {d e : Desk σ π} (same : d.unmeasured = e.unmeasured) (t : Ticket) :
    (d.step t).2 = (e.step t).2 ∧ (d.step t).1.unmeasured = (e.step t).1.unmeasured := by
  obtain ⟨metrics, counters, rfl⟩ := eq_of_unmeasured same
  have stats := carryOut_stats d (t.phase.effect t.lobby)
  have kept := carryOut_metrics d (t.phase.effect t.lobby)
  have carried := carryOut_uncounted d d.stats metrics (t.phase.effect t.lobby)
  simp only [step, carried]
  refine ⟨trivial, unmeasured_recordAll ?_ t.started _⟩
  simp only [unmeasured, stats, kept, counters]

theorem resolve_of_unmeasured {d e : Desk σ π} (same : d.unmeasured = e.unmeasured)
    (lobby : String) :
    (d.resolve lobby).2 = (e.resolve lobby).2 ∧
      (d.resolve lobby).1.unmeasured = (e.resolve lobby).1.unmeasured := by
  obtain ⟨metrics, _, rfl⟩ := eq_of_unmeasured same
  have inStep : InStep lobby d.now d.now
      fun (d : Desk σ π) p (e : Desk σ π) q => q = p ∧ d.unmeasured = e.unmeasured := by
    refine ⟨?_, fun leaving ⟨ended, _⟩ => ended⟩
    rintro f g phase _ ⟨rfl, related⟩
    obtain ⟨progress, relatedThen⟩ := step_of_unmeasured related ⟨lobby, d.now, phase⟩
    exact ⟨phase, rfl, progress.symm, relatedThen⟩
  have begun := unmeasured_recordAll same d.now (Placement.start lobby).notes
  obtain ⟨leaving, left, leftToo, _, relatedEnd⟩ :=
    finish_in_step inStep ⟨(rfl : (Placement.start lobby).progress = _), begun⟩
  exact ⟨left.trans leftToo.symm, relatedEnd⟩

theorem api_of_unmeasured {d e : Desk σ π} (same : d.unmeasured = e.unmeasured)
    (method : Http.Method) (target : Http.Target) :
    (Http.api d method target).2 = (Http.api e method target).2 ∧
      (Http.api d method target).1.unmeasured = (Http.api e method target).1.unmeasured := by
  rcases Http.api_cases (σ := σ) (π := π) method target with ⟨answer, told⟩ | ⟨lobby, write, told⟩
  · rw [told, told]
    exact ⟨rfl, same⟩
  · obtain ⟨left, relatedThen⟩ := resolve_of_unmeasured same lobby
    rw [told, told]
    exact ⟨congrArg (Leaving.answer? write) left, relatedThen⟩

end Desk

namespace Service

/-! ### What the others go by -/

theorem serve_of_unwatched {α : Type}
    (work : Desk MemoryStore Transport → Desk MemoryStore Transport × α)
    {s t : Service MemoryStore} (same : s.unwatched = t.unwatched)
    (agree : (work s.desk).2 = (work t.desk).2 ∧
      (work s.desk).1.unmeasured = (work t.desk).1.unmeasured) :
    (s.serve work).2 = (t.serve work).2 ∧
      (s.serve work).1.unwatched = (t.serve work).1.unwatched := by
  refine ⟨agree.1, ?_⟩
  obtain ⟨metrics, tasks, journal, counters, rfl⟩ := eq_of_unwatched same
  simp only [serve, unwatched_catchUp]
  simp only [unwatched, agree.2]

theorem attend_of_unwatched {s t : Service MemoryStore} (same : s.unwatched = t.unwatched)
    {affair : Affair} (acts : affair.observes = false) :
    (s.attend affair).2 = (t.attend affair).2 ∧
      (s.attend affair).1.unwatched = (t.attend affair).1.unwatched := by
  have desks : s.desk.unmeasured = t.desk.unmeasured := congrArg Service.desk same
  cases affair with
  | resolve lobby =>
    obtain ⟨left, after⟩ := serve_of_unwatched (fun d => d.resolve lobby) same
      (Desk.resolve_of_unmeasured desks lobby)
    exact ⟨congrArg Affair.Reply.left left, after⟩
  | api method target =>
    obtain ⟨answered, after⟩ := serve_of_unwatched (fun d => Http.api d method target) same
      (Desk.api_of_unmeasured desks method target)
    exact ⟨congrArg Affair.Reply.answered answered, after⟩
  | bus _ | weather _ | link _ =>
    obtain ⟨metrics, tasks, journal, counters, rfl⟩ := eq_of_unwatched same
    refine ⟨rfl, ?_⟩
    simp only [attend, unwatched, Desk.unmeasured, counters]
  | elapse _ | start =>
    obtain ⟨metrics, tasks, journal, counters, rfl⟩ := eq_of_unwatched same
    refine ⟨rfl, ?_⟩
    simp only [attend, advance, start, unwatched_catchUp]
    simp only [unwatched, Desk.unmeasured, now, counters]
  | lookup _ | loads | stats | storeHealth | publisherHealth | page _ _ _ => cases acts

/-! ### What checks ask of the store -/

def restocked {σ τ : Type} (s : Service σ) (store : τ) : Service τ :=
  ⟨s.settings, ⟨s.desk.rules, store, s.desk.publisher, s.desk.now, s.desk.stats, s.desk.metrics⟩,
    s.startedAt, s.isRunning, s.isConnected, s.tasks, s.journal⟩

/-- The service with a log of the calls that reach its store from now on. -/
def overheard (s : Service MemoryStore) : Service ScriptedStore :=
  s.restocked (.ofMemory s.desk.store)

def heard (s : Service MemoryStore) (calls : List StoreCall) : Service ScriptedStore :=
  s.restocked ⟨s.desk.store, .empty, calls⟩

theorem pingStore_overheard (s : Service MemoryStore) :
    s.overheard.desk.pingStore = ((s.heard [.ping]).desk, s.desk.pingStore.2) := by
  have reply : (s.desk.store.perform .ping).1 = s.desk.store := s.desk.store.perform_reading rfl
  have logged : s.overheard.desk.pingStore =
      ((s.restocked (ScriptedStore.mk (s.desk.store.perform .ping).1 .empty [.ping])).desk,
        (s.desk.store.perform .ping).2) := rfl
  rw [logged, reply]
  rfl

theorem check_overheard (s : Service MemoryStore) :
    s.overheard.check = (s.check.1.heard [.ping], s.check.2) := by
  unfold check
  rw [pingStore_overheard, Desk.pingStore_reads]
  rfl

theorem readiness_overheard (s : Service MemoryStore) :
    ∃ calls, (calls = [] ∨ calls = [.ping]) ∧
      s.overheard.readiness = (s.heard calls, s.readiness.2) := by
  have running : s.overheard.isRunning = s.isRunning := rfl
  unfold readiness
  rw [running, pingStore_overheard, Desk.pingStore_reads]
  split
  · exact ⟨[.ping], .inr rfl, rfl⟩
  · exact ⟨[], .inl rfl, rfl⟩

end Service

/-- The pages that monitors ask often. -/
def Http.Page.isCheck : Http.Page → Bool
  | health | ready | alive => true
  | root | metrics | stats => false

namespace Service

theorem readPage_overheard (stamp : String) (s : Service MemoryStore) {page : Http.Page}
    (isCheck : page.isCheck = true) :
    ∃ calls, (calls = [] ∨ calls = [.ping]) ∧
      Http.readPage stamp s.overheard page =
        ((Http.readPage stamp s page).1.heard calls, (Http.readPage stamp s page).2) := by
  cases page with
  | health =>
    refine ⟨[.ping], .inr rfl, ?_⟩
    simp only [Http.readPage, check_overheard]
  | ready =>
    obtain ⟨calls, few, read⟩ := s.readiness_overheard
    refine ⟨calls, few, ?_⟩
    simp only [Http.readPage, read, readiness_reads]
  | alive => exact ⟨[], .inl rfl, rfl⟩
  | root | metrics | stats => cases isCheck

theorem monitor_overheard (stamp : String) (s : Service MemoryStore) (method : Http.Method)
    {target : Http.Target} {page : Http.Page} (isCheck : page.isCheck = true)
    (path : target.path = page.path) :
    ∃ calls, (calls = [] ∨ calls = [.ping]) ∧
      Http.monitor stamp s.overheard method target =
        ((Http.monitor stamp s method target).1.heard calls,
          (Http.monitor stamp s method target).2) := by
  have named : Http.Page.ofPath? target.path = some page := by
    rw [path]
    cases page <;> decide
  unfold Http.monitor
  rw [named]
  obtain ⟨calls, few, read⟩ := readPage_overheard stamp s isCheck
  cases method with
  | get =>
    refine ⟨calls, few, ?_⟩
    simp only [Http.Method.answer, read]
  | head =>
    refine ⟨calls, few, ?_⟩
    simp only [Http.Method.answer, read]
  | other => exact ⟨[], .inl rfl, rfl⟩

/-! ### Runs without their observers -/

theorem footprints_of_unwatched {s t : Service MemoryStore} (same : s.unwatched = t.unwatched)
    (affairs : List Affair) :
    ((s.moments affairs).filter fun m => !m.affair.observes).map Moment.footprint =
        (t.moments (affairs.filter fun affair => !affair.observes)).map Moment.footprint ∧
      (s.run affairs).unwatched =
        (t.run (affairs.filter fun affair => !affair.observes)).unwatched := by
  induction affairs generalizing s t with
  | nil => exact ⟨rfl, same⟩
  | cons affair rest ih =>
    cases observes : affair.observes with
    | true =>
      rw [List.filter_cons_of_neg (by simp [observes])]
      obtain ⟨footprints, last⟩ := ih ((s.attend_of_observer observes).trans same)
      refine ⟨?_, last⟩
      simp only [moments]
      rwa [List.filter_cons_of_neg (by simp [observes])]
    | false =>
      obtain ⟨reply, relatedThen⟩ := attend_of_unwatched same observes
      obtain ⟨footprints, last⟩ := ih relatedThen
      rw [List.filter_cons_of_pos (by simp [observes])]
      refine ⟨?_, last⟩
      obtain ⟨metrics, tasks, journal, _, after⟩ := eq_of_unwatched relatedThen
      simp only [moments]
      rw [List.filter_cons_of_pos (by simp [observes]), List.map_cons, List.map_cons, footprints]
      simp only [Moment.footprint, reply, after]

/-- Whatever a service is asked and whatever happens to it, taking all observers out of the run
leaves every other affair with its reply, the store, the transport and the statistics as they were,
and so does it leave the service at the end; and a page that monitors ask often asks nothing of the
store but a ping. -/
theorem observers_are_invisible (s : Service MemoryStore) (affairs : List Affair) :
    ((s.moments affairs).filter fun m => !m.affair.observes).map Moment.footprint =
        (s.moments (affairs.filter fun affair => !affair.observes)).map Moment.footprint ∧
      (s.run affairs).unwatched =
        (s.run (affairs.filter fun affair => !affair.observes)).unwatched ∧
      (∀ m ∈ s.moments affairs, m.affair.observes = true →
        m.after.desk.store = m.before.desk.store ∧
          m.after.desk.publisher = m.before.desk.publisher ∧
          m.after.desk.stats = m.before.desk.stats) ∧
      ∀ m ∈ s.moments affairs, ∀ stamp method target, ∀ page : Http.Page,
        m.affair = .page stamp method target → target.path = page.path → page.isCheck = true →
        ∃ answer calls, m.reply = .answered answer ∧ (calls = [] ∨ calls = [.ping]) ∧
          Http.monitor stamp m.before.overheard method target = (m.after.heard calls, answer) := by
  have attended : ∀ m ∈ s.moments affairs, (m.after, m.reply) = m.before.attend m.affair :=
    fun m happened => (moments_kept (P := fun _ => True) (fun _ _ _ => trivial) trivial happened).2
  obtain ⟨footprints, last⟩ := footprints_of_unwatched (rfl : s.unwatched = s.unwatched) affairs
  refine ⟨footprints, last, ?_, ?_⟩
  · intro m happened observes
    have still := m.before.attend_of_observer observes
    rw [← attended m happened] at still
    obtain ⟨metrics, tasks, journal, _, before⟩ := eq_of_unwatched still
    rw [before]
    exact ⟨rfl, rfl, rfl⟩
  · intro m happened stamp method target page asked path isCheck
    obtain ⟨calls, few, read⟩ := monitor_overheard stamp m.before method isCheck path
    have done := attended m happened
    rw [asked] at done
    injection done with after reply
    rw [after, reply]
    exact ⟨_, calls, rfl, few, read⟩

/-- A service with two servers, an empty store and a bus. -/
def newService : Service MemoryStore :=
  .ofTransport .standard .two .empty 0 (.inl (.ofCapacity Bus.defaultCapacity))

/-- A placement between two checks, a lookup and a count. -/
def watched : List Affair :=
  [.page "" .get ⟨"/health", ""⟩, .resolve "L", .lookup "L", .loads,
    .page "" .get ⟨"/health", ""⟩]

/-- The placement is made as if nobody looked on, and the check before it asks for no more than a
ping. -/
theorem watched_placement_is_made :
    ((newService.moments watched).filter fun m => !m.affair.observes).map
        (fun m => (m.footprint.reply, m.footprint.stats.created)) =
      [(.left (.answered (.ok (.created "A"))), 1)] ∧
    ∃ m ∈ newService.moments watched, ∃ calls, (calls = [] ∨ calls = [.ping]) ∧
      (Http.monitor "" m.before.overheard .get ⟨"/health", ""⟩).1 = m.after.heard calls := by
  obtain ⟨footprints, _, _, pings⟩ := observers_are_invisible newService watched
  constructor
  · obtain ⟨left, within, counted⟩ :
        ∃ left, Desk.finishWithin "L" 0 6 newService.desk (.waiting .looking) =
            some (left, .answered (.ok (.created "A"))) ∧ left.stats.created = 1 :=
      ⟨_, rfl, rfl⟩
    have resolved : newService.desk.resolve "L" = (left, .answered (.ok (.created "A"))) :=
      Desk.finish_of_within within
    have alone : (newService.moments [.resolve "L"]).map Moment.footprint =
        [⟨.resolve "L", .left (newService.desk.resolve "L").2,
          (newService.desk.resolve "L").1.store, (newService.desk.resolve "L").1.publisher,
          (newService.desk.resolve "L").1.stats⟩] := rfl
    have same := congrArg (List.map fun f : Footprint => (f.reply, f.stats.created))
      (footprints.trans alone)
    rw [List.map_map, resolved, List.map_singleton, counted] at same
    exact same
  · obtain ⟨_, calls, _, few, read⟩ := pings _ List.mem_cons_self "" .get ⟨"/health", ""⟩ .health
      rfl rfl rfl
    exact ⟨_, List.mem_cons_self, calls, few, congrArg Prod.fst read⟩

end Service

end LobbyPlacement

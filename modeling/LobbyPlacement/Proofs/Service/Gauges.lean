import LobbyPlacement.Proofs.Placement.Replay
import LobbyPlacement.Proofs.Service.Observers

/-!
# The health gauges and their two writers

The gauges that tell how a service is are written by a check and by the task of the gauges, in any
order. Behind every affair the task has done all that was due (`isDue_attend`); so a moment shows
which of the two wrote last, and `health_attend` what the gauges show then. They tell the same of
the store and of the whole, but of the publisher only while it is healthy.
-/

namespace LobbyPlacement

/-- The gauges of the three components, 1 for one that is well, and of the whole. -/
structure HealthGauges where
  running : Int
  store : Int
  publisher : Int
  status : Int
deriving DecidableEq

namespace HealthGauges

def runningName : String := (Health.serviceCheck true).name

/-- The gauges after that of one component was set. -/
def set (name : String) (isWell : Bool) (g : HealthGauges) : HealthGauges :=
  let value := if isWell then 1 else 0
  { g with
    running := if Labels.hash runningName = Labels.hash name then value else g.running
    store := if Labels.hash Health.storeName = Labels.hash name then value else g.store
    publisher :=
      if Labels.hash Health.publisherName = Labels.hash name then value else g.publisher }

theorem hash_running_ne_store : Labels.hash runningName ≠ Labels.hash Health.storeName := by
  decide +kernel

theorem hash_running_ne_publisher :
    Labels.hash runningName ≠ Labels.hash Health.publisherName := by
  decide +kernel

theorem hash_store_ne_publisher :
    Labels.hash Health.storeName ≠ Labels.hash Health.publisherName := by
  decide +kernel

theorem set_running (isWell : Bool) (g : HealthGauges) :
    g.set runningName isWell = { g with running := if isWell then 1 else 0 } := by
  simp only [set, if_true, if_neg hash_running_ne_store.symm,
    if_neg hash_running_ne_publisher.symm]

theorem set_store (isWell : Bool) (g : HealthGauges) :
    g.set Health.storeName isWell = { g with store := if isWell then 1 else 0 } := by
  simp only [set, if_true, if_neg hash_running_ne_store, if_neg hash_store_ne_publisher.symm]

theorem set_publisher (isWell : Bool) (g : HealthGauges) :
    g.set Health.publisherName isWell = { g with publisher := if isWell then 1 else 0 } := by
  simp only [set, if_true, if_neg hash_running_ne_publisher, if_neg hash_store_ne_publisher]

end HealthGauges

namespace Metrics

def health (m : Metrics) : HealthGauges :=
  ⟨m.componentHealth.value HealthGauges.runningName, m.componentHealth.value Health.storeName,
    m.componentHealth.value Health.publisherName, m.healthStatus⟩

@[simp]
theorem health_setUptime (milliseconds : Nat) (m : Metrics) :
    (m.setUptime milliseconds).health = m.health := by
  have any : ∀ seconds, ({ m with uptimeSeconds := seconds } : Metrics).health = m.health :=
    fun _ => rfl
  exact any (signedWord (milliseconds / 1000))

@[simp]
theorem health_setLoads (loads : List Load) (m : Metrics) :
    (m.setLoads loads).health = m.health := rfl

@[simp]
theorem health_record (channel : String) (micros : Nat) (m : Metrics) (note : Note) :
    (m.record channel micros note).health = m.health := by
  cases note <;> rfl

@[simp]
theorem health_setHealth (status : Nat) (m : Metrics) :
    (m.setHealth status).health = { m.health with status := status } := rfl

theorem health_setComponent (name : String) (isWell : Bool) (m : Metrics) :
    (m.setComponent name isWell).health = m.health.set name isWell := by
  have value := fun other =>
    Series.value_update name other (fun _ => if isWell then 1 else 0) m.componentHealth
  have known : ∀ other, (m.componentHealth.set name (if isWell then 1 else 0)).value other =
      if Labels.hash other = Labels.hash name then (if isWell then 1 else 0)
      else m.componentHealth.value other := value
  simp only [health, setComponent, known]
  rfl

end Metrics

/-- Who writes the gauges: a check, or the task that keeps them up to date. -/
inductive GaugeWriter
  | check
  | task
deriving DecidableEq

/-- What the gauges show after a writer. Only the check tells whether the service runs, and to it a
publisher that is not healthy is still well. -/
def GaugeWriter.write (isRunning storeAnswers publisherIsHealthy : Bool) (g : HealthGauges) :
    GaugeWriter → HealthGauges
  | check =>
    ⟨if isRunning then 1 else 0, if storeAnswers then 1 else 0, 1,
      (Health.overall isRunning storeAnswers publisherIsHealthy).level⟩
  | task =>
    ⟨g.running, if storeAnswers then 1 else 0, if publisherIsHealthy then 1 else 0,
      (Health.overall true storeAnswers publisherIsHealthy).level⟩

def Desk.storeAnswers {π : Type} (d : Desk MemoryStore π) : Bool := d.pingStore.2.toBool

namespace Service

def health {σ : Type} (s : Service σ) : HealthGauges := s.desk.metrics.health

/-- What a writer makes of the gauges now. -/
def written (s : Service MemoryStore) (writer : GaugeWriter) (g : HealthGauges) : HealthGauges :=
  writer.write s.isRunning s.desk.storeAnswers s.desk.publisherIsHealthy g

/-! ### The two writers -/

theorem health_foldl_assess (m : Metrics) (isRunning storeAnswers publisherIsHealthy : Bool) :
    (((Health.assess isRunning storeAnswers publisherIsHealthy).foldl showComponent m).setHealth
        (Health.overall isRunning storeAnswers publisherIsHealthy).level).health =
      GaugeWriter.check.write isRunning storeAnswers publisherIsHealthy m.health := by
  have running : ∀ g : HealthGauges, g.set (Health.serviceCheck isRunning).name
      ((Health.serviceCheck isRunning).status ≠ .unhealthy) =
        { g with running := if isRunning then 1 else 0 } := by
    intro g
    refine (HealthGauges.set_running _ g).trans ?_
    cases isRunning <;> rfl
  have store : ∀ g : HealthGauges, g.set (Health.storeCheck storeAnswers).name
      ((Health.storeCheck storeAnswers).status ≠ .unhealthy) =
        { g with store := if storeAnswers then 1 else 0 } := by
    intro g
    refine (HealthGauges.set_store _ g).trans ?_
    cases storeAnswers <;> rfl
  -- Healthy or degraded, it is not unhealthy.
  have publisher : ∀ g : HealthGauges, g.set (Health.publisherCheck publisherIsHealthy).name
      ((Health.publisherCheck publisherIsHealthy).status ≠ .unhealthy) =
        { g with publisher := 1 } := by
    intro g
    refine (HealthGauges.set_publisher _ g).trans ?_
    cases publisherIsHealthy <;> rfl
  simp only [Metrics.health_setHealth, Health.assess, List.foldl_cons, List.foldl_nil,
    showComponent, Metrics.health_setComponent, running, store, publisher, GaugeWriter.write]

theorem health_check (s : Service MemoryStore) : s.check.1.health = s.written .check s.health := by
  unfold check
  rw [Desk.pingStore_reads]
  exact health_foldl_assess s.desk.metrics s.isRunning s.desk.storeAnswers s.desk.publisherIsHealthy

theorem health_updateGauges (s : Service MemoryStore) (time : Nat) :
    (s.updateGauges time).health = s.written .task s.health := by
  have shown : ∀ m : Metrics, ((((m.setUptime (s.uptimeAt time)).setComponent Health.storeName
      s.desk.storeAnswers).setComponent Health.publisherName s.desk.publisherIsHealthy).setHealth
        (Health.overall true s.desk.storeAnswers s.desk.publisherIsHealthy).level).health =
      s.written .task m.health := by
    intro m
    rw [Metrics.health_setHealth, Metrics.health_setComponent, Metrics.health_setComponent,
      Metrics.health_setUptime, HealthGauges.set_store, HealthGauges.set_publisher]
    rfl
  unfold updateGauges
  rw [Desk.pingStore_reads]
  exact shown s.desk.metrics

/-! ### The task has its turn -/

/-- The task of the gauges has something to do. -/
def isDue {σ : Type} (s : Service σ) : Bool := s.tasks.any fun task => (task.due? s.now).isSome

theorem due?_caughtUp (now : Nat) (task : BackgroundTask) :
    (task.caughtUp now).due? now = none := by
  cases task with
  | monitor _ | api _ => rfl
  | gauges due =>
    by_cases past : due ≤ now
    · have last : BackgroundTask.lastDue? now due =
          some (due + (now - due) / BackgroundTask.gaugePeriod * BackgroundTask.gaugePeriod) :=
        if_pos past
      have later : now - due < (now - due) / BackgroundTask.gaugePeriod *
          BackgroundTask.gaugePeriod + BackgroundTask.gaugePeriod :=
        Nat.lt_div_mul_add (by decide)
      simp only [BackgroundTask.caughtUp, last, Option.map_some, Option.getD_some]
      exact if_neg (by omega)
    · have last : BackgroundTask.lastDue? now due = none := if_neg past
      simp only [BackgroundTask.caughtUp, last, Option.map_none, Option.getD_none,
        BackgroundTask.due?]

theorem catchUp_of_not_due {s : Service MemoryStore} (seen : Nat → Nat) (early : s.isDue = false) :
    s.catchUp seen = s := by
  have none_due : s.tasks.filterMap (BackgroundTask.due? s.now) = [] := by
    rw [List.filterMap_eq_nil_iff]
    simpa [isDue] using early
  unfold catchUp
  rw [none_due]
  rfl

theorem catchUp_of_due {s : Service MemoryStore} (seen : Nat → Nat) (due : s.isDue = true) :
    ∃ time, s.catchUp seen =
      { s with tasks := s.tasks.map (BackgroundTask.caughtUp s.now) }.updateGauges time := by
  unfold catchUp
  split
  next none_due =>
    rw [List.max?_eq_none_iff, List.filterMap_eq_nil_iff] at none_due
    simp [isDue] at due
    obtain ⟨task, present, isSome⟩ := due
    rw [none_due task present] at isSome
    cases isSome
  next last found => exact ⟨seen last, rfl⟩

theorem written_of_unwatched {s t : Service MemoryStore} (same : s.unwatched = t.unwatched)
    (writer : GaugeWriter) (g : HealthGauges) : s.written writer g = t.written writer g := by
  obtain ⟨metrics, tasks, journal, _, rfl⟩ := eq_of_unwatched same
  rfl

theorem now_of_unwatched {s t : Service MemoryStore} (same : s.unwatched = t.unwatched) :
    s.now = t.now := by
  obtain ⟨metrics, tasks, journal, _, rfl⟩ := eq_of_unwatched same
  rfl

theorem tasks_setMetrics {σ : Type} (s : Service σ) (change : Metrics → Metrics) :
    (s.setMetrics change).tasks = s.tasks := rfl

theorem tasks_note {σ : Type} (s : Service σ) (line : JournalLine) :
    (s.note line).tasks = s.tasks := rfl

theorem tasks_updateGauges (s : Service MemoryStore) (time : Nat) :
    (s.updateGauges time).tasks = s.tasks := by
  unfold updateGauges
  rw [Desk.pingStore_reads]
  dsimp only
  rw [tasks_note, tasks_setMetrics]

theorem tasks_check (s : Service MemoryStore) : s.check.1.tasks = s.tasks := by
  unfold check
  rw [Desk.pingStore_reads]
  dsimp only
  rw [tasks_setMetrics]

/-- Whether the task is due does not go by the gauges. -/
theorem isDue_of_tasks {s t : Service MemoryStore} (same : s.unwatched = t.unwatched)
    (tasks : s.tasks = t.tasks) : s.isDue = t.isDue := by
  rw [isDue, isDue, tasks, now_of_unwatched same]

theorem isDue_catchUp (s : Service MemoryStore) (seen : Nat → Nat) :
    (s.catchUp seen).isDue = false := by
  cases due : s.isDue with
  | false => rw [catchUp_of_not_due seen due, due]
  | true =>
    obtain ⟨time, done⟩ := catchUp_of_due seen due
    have now := now_of_unwatched (s.unwatched_catchUp seen)
    rw [isDue, now, done, tasks_updateGauges, List.any_map, List.any_eq_false]
    intro task _
    simp [due?_caughtUp]

theorem health_catchUp (s : Service MemoryStore) (seen : Nat → Nat) :
    (s.catchUp seen).health =
      if s.isDue then (s.catchUp seen).written .task s.health else s.health := by
  rw [written_of_unwatched (s.unwatched_catchUp seen)]
  cases due : s.isDue with
  | false => rw [catchUp_of_not_due seen due, if_neg (by decide)]
  | true =>
    obtain ⟨time, done⟩ := catchUp_of_due seen due
    rw [done, health_updateGauges, if_pos rfl]
    rfl

end Service

/-! ### Requests leave the gauges alone -/

namespace Desk

variable {σ π : Type}

theorem health_recordAll (d : Desk σ π) (started : Nat) (notes : List Note) :
    (d.recordAll started notes).metrics.health = d.metrics.health := by
  unfold recordAll
  induction notes generalizing d with
  | nil => rfl
  | cons note rest ih =>
    rw [List.foldl_cons, ih]
    exact Metrics.health_record _ _ _ note

theorem health_loads (d : Desk MemoryStore π) : d.loads.1.metrics.health = d.metrics.health := by
  rcases d.loads_reads with same | ⟨counted, same⟩
  · rw [same]
  · rw [same]
    exact d.metrics.health_setLoads counted

variable [Store σ] [Publisher π]

theorem health_resolve (d : Desk σ π) (lobby : String) :
    (d.resolve lobby).1.metrics.health = d.metrics.health := by
  refine finish_kept (R := fun e _ => e.metrics.health = d.metrics.health) ?_ ?_
  · intro e phase kept
    simp only [step, health_recordAll, carryOut_metrics]
    exact kept
  · exact d.health_recordAll d.now (Placement.start lobby).notes

theorem health_api (d : Desk σ π) (method : Http.Method) (target : Http.Target) :
    (Http.api d method target).1.metrics.health = d.metrics.health := by
  rcases Http.api_cases (σ := σ) (π := π) method target with ⟨answer, told⟩ | ⟨lobby, write, told⟩
  · rw [told]
  · rw [told]
    exact d.health_resolve lobby

end Desk

/-! ### Who wrote last -/

namespace Affair

def isStart : Affair → Bool
  | start => true
  | _ => false

def page? : Affair → Option Http.Page
  | page _ method target => Http.pageRead? method target
  | _ => none

end Affair

namespace Moment

/-- The task of the gauges had its turn within the moment. -/
def ticked (m : Moment) : Bool :=
  m.affair.isStart || m.before.tasks.any fun task => (task.due? m.after.now).isSome

/-- Who wrote the gauges last within the moment, if anyone did. -/
def writer? (m : Moment) : Option GaugeWriter :=
  if m.ticked then some .task
  else match m.affair.page? with
    | some .health | some .stats => some .check
    | _ => none

/-- What the gauges have to show after the moment. -/
def shown (m : Moment) : HealthGauges :=
  match m.writer? with
  | some writer => m.after.written writer m.before.health
  | none => m.before.health

end Moment

namespace Service

theorem health_serve {α : Type}
    (work : Desk MemoryStore Transport → Desk MemoryStore Transport × α) {s : Service MemoryStore}
    (keeps : (work s.desk).1.metrics.health = s.desk.metrics.health) :
    (s.serve work).1.health =
      if s.tasks.any fun task => (task.due? (s.serve work).1.now).isSome
      then (s.serve work).1.written .task s.health else s.health := by
  let worked : Service MemoryStore := { s with desk := (work s.desk).1 }
  have now : (s.serve work).1.now = worked.now :=
    now_of_unwatched (worked.unwatched_catchUp id)
  have health : worked.health = s.health := keeps
  rw [now, ← health]
  exact worked.health_catchUp id

/-- Nothing is due behind an affair, if nothing was before. -/
theorem isDue_attend {s : Service MemoryStore} (early : s.isDue = false) (affair : Affair) :
    (s.attend affair).1.isDue = false := by
  cases affair with
  | resolve _ | api _ _ | lookup _ | loads | storeHealth | elapse _ | start =>
    exact isDue_catchUp _ _
  | stats | publisherHealth | bus _ | weather _ | link _ => exact early
  | page stamp method target =>
    show (Http.monitor stamp s method target).1.isDue = false
    rw [Http.monitor_reads]
    split
    next page _ =>
      cases page with
      | root | alive => exact early
      | health => exact (isDue_of_tasks s.unwatched_check s.tasks_check).trans early
      | ready => exact (congrArg isDue s.readiness_reads).trans early
      | metrics => exact (isDue_of_tasks (s.unwatched_readPage stamp .metrics)
          (s.tasks_setMetrics _)).trans early
      | stats => exact isDue_catchUp _ _
    next => exact early

theorem health_readPage (stamp : String) {s : Service MemoryStore} (early : s.isDue = false)
    (page : Http.Page) :
    (Http.readPage stamp s page).1.health =
      match page with
      | .health | .stats => (Http.readPage stamp s page).1.written .check s.health
      | _ => s.health := by
  cases page with
  | root | alive => rfl
  | ready => exact congrArg health s.readiness_reads
  | metrics => exact s.desk.metrics.health_setUptime _
  | health => exact s.health_check.trans (written_of_unwatched s.unwatched_check.symm _ _)
  | stats =>
    have counted := health_serve Desk.loads (s := s.check.1) s.check.1.desk.health_loads
    have now : (s.check.1.serve Desk.loads).1.now = s.now :=
      now_of_unwatched (s.check.1.unwatched_loads.trans s.unwatched_check)
    have later := s.check.1.unwatched_loads.trans s.unwatched_check
    rw [now, s.tasks_check, if_neg (by rw [← isDue, early]; decide), health_check] at counted
    exact counted.trans (written_of_unwatched later.symm _ _)

end Service

namespace Moment

/-- Apart from starts and pages, the task is the only writer. -/
theorem shown_eq {m : Moment} (noStart : m.affair.isStart = false)
    (noPage : m.affair.page? = none) :
    m.shown = if m.before.tasks.any fun task => (task.due? m.after.now).isSome
      then m.after.written .task m.before.health else m.before.health := by
  simp only [shown, writer?, ticked, noStart, noPage, Bool.false_or]
  cases m.before.tasks.any fun task => (task.due? m.after.now).isSome <;> rfl

theorem not_ticked {m : Moment} (early : m.before.isDue = false)
    (still : m.after.now = m.before.now) :
    (m.before.tasks.any fun task => (task.due? m.after.now).isSome) = false := by
  rw [still]
  exact early

end Moment

namespace Service

/-- The gauges show after an affair what the last writer in it has to show of the service then. -/
theorem health_attend {s : Service MemoryStore} (early : s.isDue = false) (affair : Affair) :
    (s.attend affair).1.health =
      (Moment.mk s affair (s.attend affair).2 (s.attend affair).1).shown := by
  cases affair with
  | resolve lobby =>
    rw [Moment.shown_eq rfl rfl]
    exact health_serve (fun d => d.resolve lobby) (s.desk.health_resolve lobby)
  | api method target =>
    rw [Moment.shown_eq rfl rfl]
    exact health_serve (fun d => Http.api d method target) (s.desk.health_api method target)
  | lookup lobby =>
    rw [Moment.shown_eq rfl rfl]
    exact health_serve (fun d => d.lookup lobby)
      (congrArg (fun d => d.metrics.health) (s.desk.lookup_reads lobby))
  | loads =>
    rw [Moment.shown_eq rfl rfl]
    exact health_serve Desk.loads s.desk.health_loads
  | storeHealth =>
    rw [Moment.shown_eq rfl rfl]
    exact health_serve Desk.pingStore (by rw [Desk.pingStore_reads])
  | stats | publisherHealth | bus _ | weather _ | link _ =>
    rw [Moment.shown_eq rfl rfl, if_neg (by rw [Moment.not_ticked early rfl]; decide)]
    rfl
  | elapse ms =>
    rw [Moment.shown_eq rfl rfl]
    let later : Service MemoryStore := { s with desk := { s.desk with now := s.now + ms } }
    have now : (s.advance ms).now = later.now := now_of_unwatched (later.unwatched_catchUp _)
    show (s.advance ms).health = if s.tasks.any fun task => (task.due? (s.advance ms).now).isSome
      then (s.advance ms).written .task s.health else s.health
    rw [now]
    exact later.health_catchUp _
  | page stamp method target =>
    have still : (Http.monitor stamp s method target).1.now = s.now :=
      now_of_unwatched (s.unwatched_monitor stamp method target)
    have quiet := Moment.not_ticked (m := ⟨s, .page stamp method target,
      (s.attend (.page stamp method target)).2, (s.attend (.page stamp method target)).1⟩)
      early still
    have after : (s.attend (.page stamp method target)).1 = _ :=
      Http.monitor_reads stamp s method target
    simp only [Moment.shown, Moment.writer?, Moment.ticked, quiet, Affair.isStart, Affair.page?]
    rw [after]
    cases Http.pageRead? method target with
    | none => rfl
    | some page =>
      refine (health_readPage stamp early page).trans ?_
      cases page <;> rfl
  | start =>
    let started : Service MemoryStore := { s with
      isRunning := true
      tasks := s.tasks ++ s.startTasks
      journal := s.journal ++ s.startNotes ++ s.firstNotes }
    have due : started.isDue = true := by
      refine List.any_eq_true.mpr ⟨.gauges s.now, ?_, ?_⟩
      · exact List.mem_append_right _ (List.mem_cons_of_mem _ (List.mem_cons_of_mem _
          List.mem_cons_self))
      · have reached : (BackgroundTask.gauges s.now).due? s.now = some _ := if_pos (Nat.le_refl _)
        exact Option.isSome_of_eq_some reached
    have shown := started.health_catchUp id
    rw [due, if_pos rfl] at shown
    exact shown

/-- In every run of a new service the gauges show what the last writer found. Both writers tell the
same of the store and of the whole; of the publisher they tell the same exactly while it is healthy,
for a check calls a publisher well that is only not connected. Whether the service runs is told by
checks alone. -/
theorem writers_agree_iff_publisher_healthy (settings : Settings) (pool : Pool)
    (store : MemoryStore) (now : Nat) (transport : Transport) (affairs : List Affair) :
    ∀ m ∈ (ofTransport settings pool store now transport).moments affairs,
      (m.writer? = none → m.after.health = m.before.health) ∧
        ∀ writer, m.writer? = some writer → m.after.isRunning = true →
          let storeAnswers := m.after.desk.storeAnswers
          let publisherIsHealthy := m.after.desk.publisherIsHealthy
          m.after.health.store = (if storeAnswers then 1 else 0) ∧
            m.after.health.status =
              (if storeAnswers then (if publisherIsHealthy then 2 else 1) else 0) ∧
            m.after.health.publisher = (if publisherIsHealthy ∨ writer = .check then 1 else 0) ∧
            m.after.health.running = (if writer = .check then 1 else m.before.health.running) ∧
            ∀ other, let otherwise := m.after.written other m.before.health
              otherwise.store = m.after.health.store ∧
                otherwise.status = m.after.health.status ∧
                (otherwise.publisher = m.after.health.publisher ↔
                  other = writer ∨ publisherIsHealthy = true) := by
  intro m happened
  obtain ⟨early, attended⟩ := moments_kept (P := fun s => s.isDue = false)
    (fun s affair early => isDue_attend early affair) rfl happened
  have shown : m.after.health = m.shown := by
    have step := health_attend early m.affair
    rw [← attended] at step
    exact step
  unfold Moment.shown at shown
  constructor
  · intro nobody
    rw [nobody] at shown
    exact shown
  · intro writer wrote running
    rw [wrote] at shown
    dsimp only at shown ⊢
    rw [shown]
    unfold written
    rw [running]
    cases m.after.desk.storeAnswers <;> cases m.after.desk.publisherIsHealthy <;> cases writer <;>
      refine ⟨rfl, rfl, rfl, rfl, ?_⟩ <;> rintro (_ | _) <;>
      simp [GaugeWriter.write, Health.overall]

/-- A service whose broker is gone. -/
def brokerGone : Service MemoryStore :=
  ofTransport Settings.standard .two .empty 0 (.inr (.opened .unreachable .standard))

def checkup : Affair := .page "" .get ⟨"/health", ""⟩

/-- The gauge of a publisher that is gone is 1 after a check and 0 again after the task. -/
theorem lost_publisher_comes_and_goes :
    ∃ checked ∈ brokerGone.moments [.start, checkup, .elapse 30000],
      checked.writer? = some .check ∧ checked.after.health.publisher = 1 ∧
        ∃ ticked ∈ brokerGone.moments [.start, checkup, .elapse 30000],
          ticked.writer? = some .task ∧ ticked.after.health.publisher = 0 := by
  let between := (brokerGone.start.attend checkup).1
  have checks : ⟨brokerGone.start, checkup, _, between⟩ ∈
      brokerGone.moments [.start, checkup, .elapse 30000] :=
    List.mem_cons_of_mem _ List.mem_cons_self
  have ticks : ⟨between, .elapse 30000, _, between.advance 30000⟩ ∈
      brokerGone.moments [.start, checkup, .elapse 30000] :=
    List.mem_cons_of_mem _ (List.mem_cons_of_mem _ List.mem_cons_self)
  obtain ⟨_, _, checked, _⟩ := (writers_agree_iff_publisher_healthy _ _ _ _ _ _ _ checks).2 .check
    (by decide +kernel) (by decide +kernel)
  obtain ⟨_, _, ticked, _⟩ := (writers_agree_iff_publisher_healthy _ _ _ _ _ _ _ ticks).2 .task
    (by decide +kernel) (by decide +kernel)
  refine ⟨_, checks, by decide +kernel, checked.trans ?_, _, ticks, by decide +kernel,
    ticked.trans ?_⟩ <;> decide +kernel

theorem check_calls_lost_publisher_well :
    ¬ ∀ (settings : Settings) (pool : Pool) (store : MemoryStore) (now : Nat)
        (transport : Transport) (affairs : List Affair),
      ∀ m ∈ (ofTransport settings pool store now transport).moments affairs,
        ∀ writer, m.writer? = some writer → m.after.isRunning = true →
          m.after.health.publisher = if m.after.desk.publisherIsHealthy then 1 else 0 := by
  intro claim
  have checks : ⟨brokerGone.start, checkup, _, _⟩ ∈ brokerGone.moments [.start, checkup] :=
    List.mem_cons_of_mem _ List.mem_cons_self
  have told := claim _ _ _ _ _ [.start, checkup] _ checks .check (by decide +kernel)
    (by decide +kernel)
  exact absurd told (by decide +kernel)

end Service

end LobbyPlacement

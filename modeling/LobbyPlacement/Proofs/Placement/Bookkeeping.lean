import LobbyPlacement.Proofs.Metrics.Series
import LobbyPlacement.Proofs.Placement.Accounting
import LobbyPlacement.Proofs.Placement.Bureau
import LobbyPlacement.Proofs.Placement.Within

/-!
# Counters and metrics agree

The counters and the metrics are kept apart, and a request updates them at different points of its
way. `Story` lists all ways: the notes a request has made by the time it stands somewhere, and what
its exchanges with the store have shown. Both books hold the updates of all requests
(`Kept`), so where every request is through, a story read from either side gives the same numbers.
Only the placements on servers with the same hash are not told apart:
`colliding_servers_share_a_counter`.
-/

namespace LobbyPlacement

/-! ### What the metrics show -/

namespace Note

def leaves (note : Note) (mark : Mark) : Bool := note.mark? = some mark

def isCounted : Note → Bool
  | counted _ => true
  | _ => false

/-- A placement that a series counts for this server: it is on this one, or on one with the same
hash. -/
def countsFor (server : String) : Note → Bool
  | created s => Labels.hash s = Labels.hash server
  | _ => false

end Note

/-- The numbers that the metrics show of all requests of a service. -/
@[ext]
structure Readings where
  requests : Ending → Int
  created : String → Int
  createdInAll : Int
  announced : Bool → Int
  counts : Nat

def Metrics.readings (channel : String) (m : Metrics) : Readings where
  requests := m.requests.value
  created := m.created.value
  createdInAll := m.created.total
  announced confirmed := m.published.value (channel, confirmed)
  counts := m.countDurations.observations

namespace Readings

def after (r : Readings) (note : Note) : Readings where
  requests ending := r.requests ending + (note.leaves (.answered ending)).toNat
  created server := r.created server + (note.countsFor server).toNat
  createdInAll := r.createdInAll + note.isCreated.toNat
  announced confirmed := r.announced confirmed + (note.leaves (.announced confirmed)).toNat
  counts := r.counts + note.isCounted.toNat

def ofNotes (notes : List Note) : Readings where
  requests ending := notes.countP (Note.leaves · (.answered ending))
  created server := notes.countP (Note.countsFor server)
  createdInAll := notes.countP Note.isCreated
  announced confirmed := notes.countP (Note.leaves · (.announced confirmed))
  counts := notes.countP Note.isCounted

theorem ofNotes_perm {first second : List Note} (same : first.Perm second) :
    ofNotes first = ofNotes second := by
  simp only [ofNotes, same.countP_eq]

theorem ofNotes_concat (notes : List Note) (note : Note) :
    ofNotes (notes ++ [note]) = (ofNotes notes).after note := by
  have one : ∀ p : Note → Bool, [note].countP p = (p note).toNat := by
    intro p
    rw [List.countP_singleton, toNat_eq_ite]
  simp only [ofNotes, after, List.countP_append, one, Int.natCast_add]

end Readings

theorem Metrics.readings_record (channel : String) (micros : Nat) (m : Metrics) (note : Note) :
    (m.record channel micros note).readings channel = (m.readings channel).after note := by
  cases note with
  | found | adopted | counted _ =>
    ext <;> simp [readings, record, recordCount, setLoads, Histogram.observe, Readings.after,
      Note.leaves, Note.mark?, Note.countsFor, Note.isCreated, Note.isCounted]
  | created server =>
    ext <;> simp [readings, record, recordCreated, Series.value_bump, Series.total_bump,
      Readings.after, Note.leaves, Note.mark?, Note.countsFor, Note.isCreated, Note.isCounted]
  | announced confirmed =>
    ext <;> simp [readings, record, recordAnnounced, Series.value_bump, Labels.hash_announced,
      Readings.after, Note.leaves, Note.mark?, Note.countsFor, Note.isCreated, Note.isCounted]
  | answered ending =>
    ext <;> simp [readings, record, recordRequest, Series.value_bump, Ending.hash_inj,
      Readings.after, Note.leaves, Note.mark?, Note.countsFor, Note.isCreated, Note.isCounted]

theorem Metrics.readings_setLoads (channel : String) (m : Metrics) (loads : List Load) :
    (m.setLoads loads).readings channel = m.readings channel := rfl

/-! ### What the exchanges of a request show -/

def Tally.isCounted : Tally → Bool
  | counted _ => true
  | _ => false

namespace Exchange

variable {lobby : String}

/-- The lookup has found the lobby absent. -/
def misses : Exchange lobby → Bool
  | ⟨.looking, .ok none⟩ => true
  | _ => false

/-- The count of the loads has come to its end without a fault. -/
def completes (servers : List String) : Exchange lobby → Bool
  | ⟨.listing, reply⟩ => (Tally.ofListing servers reply).isCounted
  | ⟨.counting census, reply⟩ => (census.read reply).isCounted
  | _ => false

/-- The entry that the store has taken. -/
def writes (x : Exchange lobby) : List (String × String) := (x.phase.effect lobby).writes x.reply

end Exchange

namespace Docket

def misses (s : Docket) : Bool := s.trail.any Exchange.misses

def completes (servers : List String) (s : Docket) : Bool :=
  s.trail.any (Exchange.completes servers)

def writes (s : Docket) : List (String × String) := s.trail.flatMap Exchange.writes

end Docket

/-- The ways of a request: where it stands, the notes it has made by then, whether its lookup has
missed, whether its count was completed, and what it has written. -/
inductive Story (lobby : String) :
    Progress → List Note → (missed completed : Bool) → (writes : List (String × String)) → Prop
  | looking : Story lobby (.waiting .looking) [] false false []
  | listing : Story lobby (.waiting .listing) [] true false []
  | counting {census : Census} : Story lobby (.waiting (.counting census)) [] true false []
  | claiming {loads : List Load} {server : String} :
      Story lobby (.waiting (.claiming server)) [.counted loads] true true []
  | overwriting {loads : List Load} {server : String} :
      Story lobby (.waiting (.overwriting server)) [.counted loads] true true []
  | adopting {loads : List Load} : Story lobby (.waiting .adopting) [.counted loads] true true []
  | announcing {loads : List Load} {server : String} :
      Story lobby (.waiting (.announcing server)) [.counted loads, .created server] true true
        [(lobby, server)]
  | hit {server : String} :
      Story lobby (.answered (.ok (.found server))) [.found, .answered .hit] false false []
  | created {loads : List Load} {server : String} {confirmed : Bool} :
      Story lobby (.answered (.ok (.created server)))
        [.counted loads, .created server, .announced confirmed, .answered .created] true true
        [(lobby, server)]
  | adopted {loads : List Load} {server : String} :
      Story lobby (.answered (.ok (.adopted server)))
        [.counted loads, .adopted, .answered .lostRace] true true []
  | refused {fault : Fault} {missed : Bool} :
      Story lobby (.answered (.error fault)) [.answered (Outcome.ending (.error fault))] missed
        false []
  | failed {loads : List Load} {fault : Fault} :
      Story lobby (.answered (.error fault))
        [.counted loads, .answered (Outcome.ending (.error fault))] true true []
  | crashed {loads : List Load} {server : String} :
      Story lobby .crashed [.counted loads, .created server] true true [(lobby, server)]

namespace Story

variable {lobby : String}

theorem start (lobby : String) :
    Story lobby (Placement.start lobby).progress (Placement.start lobby).notes false false [] := by
  unfold Placement.start
  cases Placement.checkLobby lobby with
  | error fault => exact .refused
  | ok => exact .looking

theorem tallied (rules : Rules) (tally : Tally) :
    Story lobby (Placement.afterTally rules tally).progress
      (Placement.afterTally rules tally).notes true tally.isCounted [] := by
  cases tally with
  | reading census => exact .counting
  | failed fault => exact .refused
  | counted loads =>
    simp only [Placement.afterTally]
    cases Load.least loads with
    | none => exact .failed
    | some load =>
      cases rules.mode with
      | createIfAbsent => exact .claiming
      | lastWriteWins => exact .overwriting

theorem resume {phase : Phase} {notes : List Note} {missed completed : Bool}
    {writes : List (String × String)}
    (story : Story lobby (.waiting phase) notes missed completed writes) (rules : Rules)
    (reply : (phase.effect lobby).Reply) :
    Story lobby (Placement.resume rules lobby phase reply).progress
      (notes ++ (Placement.resume rules lobby phase reply).notes)
      (missed || Exchange.misses ⟨phase, reply⟩)
      (completed || Exchange.completes rules.pool.servers ⟨phase, reply⟩)
      (writes ++ Exchange.writes ⟨phase, reply⟩) := by
  cases story with
  | looking =>
    rcases reply with fault | _ | server
    · exact .refused
    · exact .listing
    · exact .hit
  | listing => exact tallied rules (.ofListing rules.pool.servers reply)
  | @counting census => exact tallied rules (census.read reply)
  | claiming =>
    rcases reply with fault | _ | _
    · exact .failed
    · exact .adopting
    · exact .announcing
  | overwriting =>
    rcases reply with fault | _
    · exact .failed
    · exact .announcing
  | adopting =>
    rcases reply with fault | _ | server
    · exact .failed
    · exact .failed
    · exact .adopted
  | announcing =>
    cases reply with
    | confirmed => exact .created
    | unconfirmed => exact .created
    | crashed => exact .crashed

end Story

/-! ### The two books -/

namespace Update

def mark? : Update → Option Mark
  | stats note => note.mark?
  | metrics _ => none

def shown? : Update → Option Note
  | stats _ => none
  | metrics note => some note

end Update

/-- Marks of the counters and notes of the metrics agree with each other, with what has been written
and with the number of counts. -/
structure Agree (marks : List Mark) (shown : List Note) (writes : List (String × String))
    (counts : Nat) : Prop where
  hit : shown.countP (Note.leaves · (.answered .hit)) = marks.count (.settled .hit)
  created : shown.countP (Note.leaves · (.answered .created)) = marks.count (.settled .created)
  lostRace : shown.countP (Note.leaves · (.answered .lostRace)) = marks.count (.settled .lostRace)
  answered : ∀ ending,
    shown.countP (Note.leaves · (.answered ending)) = marks.count (.answered ending)
  placed : shown.countP Note.isCreated = marks.count (.settled .created)
  written : ∀ server,
    shown.countP (Note.countsFor server) =
      writes.countP fun write => Labels.hash write.2 = Labels.hash server
  missed : shown.countP (Note.leaves · (.announced false)) = marks.count (.announced false)
  announced : shown.countP (Note.leaves · (.announced true)) +
    shown.countP (Note.leaves · (.announced false)) = marks.count (.settled .created)
  counted : shown.countP Note.isCounted = counts

theorem Agree.append {marks marksToo : List Mark} {shown shownToo : List Note}
    {writes writesToo : List (String × String)} {counts countsToo : Nat}
    (first : Agree marks shown writes counts)
    (second : Agree marksToo shownToo writesToo countsToo) :
    Agree (marks ++ marksToo) (shown ++ shownToo) (writes ++ writesToo) (counts + countsToo) := by
  refine ⟨?_, ?_, ?_, ?_, ?_, ?_, ?_, ?_, ?_⟩
  · rw [List.countP_append, List.count_append, first.hit, second.hit]
  · rw [List.countP_append, List.count_append, first.created, second.created]
  · rw [List.countP_append, List.count_append, first.lostRace, second.lostRace]
  · intro ending
    rw [List.countP_append, List.count_append, first.answered, second.answered]
  · rw [List.countP_append, List.count_append, first.placed, second.placed]
  · intro server
    rw [List.countP_append, List.countP_append, first.written, second.written]
  · rw [List.countP_append, List.count_append, first.missed, second.missed]
  · have mine := first.announced
    have theirs := second.announced
    rw [List.countP_append, List.countP_append, List.count_append]
    omega
  · rw [List.countP_append, first.counted, second.counted]

/-- A request that is through has left the same in both books. -/
theorem Story.agree {lobby : String} {outcome : Outcome} {notes : List Note}
    {missed completed : Bool} {writes : List (String × String)}
    (story : Story lobby (.answered outcome) notes missed completed writes) :
    Agree ((notes.flatMap Note.updates).filterMap Update.mark?)
      ((notes.flatMap Note.updates).filterMap Update.shown?) writes
      (missed && completed).toNat := by
  have each : ∀ {p q : Ending → Nat}, p .hit = q .hit → p .created = q .created →
      p .lostRace = q .lostRace → p .clientError = q .clientError →
      p .storeError = q .storeError → p .failed = q .failed → ∀ ending, p ending = q ending := by
    intro p q hit created lostRace clientError storeError failed ending
    cases ending <;> assumption
  -- A story that is through is a list of known notes, so every count of it is a number.
  cases story with
  | hit => exact ⟨rfl, rfl, rfl, each rfl rfl rfl rfl rfl rfl, rfl, fun _ => rfl, rfl, rfl, rfl⟩
  | @created _ _ confirmed =>
    cases confirmed <;>
      exact ⟨rfl, rfl, rfl, each rfl rfl rfl rfl rfl rfl, rfl, fun _ => rfl, rfl, rfl, rfl⟩
  | adopted => exact ⟨rfl, rfl, rfl, each rfl rfl rfl rfl rfl rfl, rfl, fun _ => rfl, rfl, rfl, rfl⟩
  | @refused fault _ =>
    rw [Bool.and_false]
    cases fault <;>
      exact ⟨rfl, rfl, rfl, each rfl rfl rfl rfl rfl rfl, rfl, fun _ => rfl, rfl, rfl, rfl⟩
  | @failed _ fault =>
    cases fault <;>
      exact ⟨rfl, rfl, rfl, each rfl rfl rfl rfl rfl rfl, rfl, fun _ => rfl, rfl, rfl, rfl⟩

namespace Docket

def marks (s : Docket) : List Mark := s.made.filterMap Update.mark?

def shown (s : Docket) : List Note := s.made.filterMap Update.shown?

theorem marks_make (s : Docket) (update : Update) (rest : List Update) :
    (s.make update rest).marks = s.marks ++ update.mark?.toList := by
  simp only [marks, make, List.filterMap_append]
  cases told : update.mark? <;> simp [told]

theorem shown_make (s : Docket) (update : Update) (rest : List Update) :
    (s.make update rest).shown = s.shown ++ update.shown?.toList := by
  simp only [shown, make, List.filterMap_append]
  cases told : update.shown? <;> simp [told]

/-- The updates of a request, made or still to come, are those of its story. -/
def Tells (rules : Rules) (s : Docket) : Prop :=
  ∃ notes, Story s.lobby s.progress notes s.misses (s.completes rules.pool.servers) s.writes ∧
    s.made ++ s.pending = notes.flatMap Note.updates

theorem tells_ofStart (rules : Rules) (lobby : String) (now : Nat) :
    (ofStart lobby now).Tells rules :=
  ⟨(Placement.start lobby).notes, .start lobby, rfl⟩

theorem Tells.make {rules : Rules} {s : Docket} (tells : s.Tells rules) {update : Update}
    {rest : List Update} (next : s.pending = update :: rest) :
    (s.make update rest).Tells rules := by
  obtain ⟨notes, story, updates⟩ := tells
  refine ⟨notes, story, ?_⟩
  rw [← updates, next]
  simp only [Docket.make, List.append_assoc, List.singleton_append]

theorem Tells.exchanged {rules : Rules} {s : Docket} (tells : s.Tells rules)
    (quiet : s.pending = []) {phase : Phase} (waiting : s.progress = .waiting phase)
    (reply : (phase.effect s.lobby).Reply) : (s.exchanged rules ⟨phase, reply⟩).Tells rules := by
  obtain ⟨notes, story, updates⟩ := tells
  rw [quiet, List.append_nil] at updates
  rw [waiting] at story
  have misses : (s.exchanged rules ⟨phase, reply⟩).misses =
      (s.misses || Exchange.misses ⟨phase, reply⟩) := by
    simp [Docket.misses, Docket.exchanged]
  have completes : (s.exchanged rules ⟨phase, reply⟩).completes rules.pool.servers =
      (s.completes rules.pool.servers ||
        Exchange.completes rules.pool.servers ⟨phase, reply⟩) := by
    simp [Docket.completes, Docket.exchanged]
  have writes : (s.exchanged rules ⟨phase, reply⟩).writes =
      s.writes ++ Exchange.writes ⟨phase, reply⟩ := by
    simp [Docket.writes, Docket.exchanged]
  refine ⟨notes ++ (Placement.resume rules s.lobby phase reply).notes, ?_, ?_⟩
  · rw [misses, completes, writes]
    exact story.resume rules reply
  · rw [List.flatMap_append, ← updates]
    rfl

theorem Tells.agree {rules : Rules} {s : Docket} (tells : s.Tells rules)
    (still : s.inFlight = false) (unbroken : s.progress.isCrashed = false) :
    Agree s.marks s.shown s.writes (s.misses && s.completes rules.pool.servers).toNat := by
  obtain ⟨notes, story, updates⟩ := tells
  obtain ⟨quiet, idle⟩ := Bool.or_eq_false_iff.mp still
  rw [Bool.not_eq_false', List.isEmpty_iff] at quiet
  rw [quiet, List.append_nil] at updates
  unfold marks shown
  cases stands : s.progress with
  | waiting phase => simp [stands] at idle
  | crashed => simp [stands, Progress.isCrashed] at unbroken
  | answered outcome =>
    rw [stands] at story
    rw [updates]
    exact story.agree

theorem agree_all {servers : List String} {dockets : List Docket}
    (each : ∀ s ∈ dockets, Agree s.marks s.shown s.writes (s.misses && s.completes servers).toNat) :
    Agree (dockets.flatMap marks) (dockets.flatMap shown) (dockets.flatMap writes)
      (dockets.countP fun s => s.misses && s.completes servers) := by
  induction dockets with
  | nil => exact ⟨rfl, rfl, rfl, fun _ => rfl, rfl, fun _ => rfl, rfl, rfl, rfl⟩
  | cons first rest ih =>
    have later := ih fun s member => each s (List.mem_cons_of_mem first member)
    have whole := (each first List.mem_cons_self).append later
    rw [List.countP_cons, Nat.add_comm, ← Bool.cond_eq_ite]
    exact whole

/-- A request keeps to the pool, and so does all that it has written. -/
def Within (pool : Pool) (s : Docket) : Prop :=
  s.progress.Within pool ∧ ∀ write ∈ s.writes, write.2 ∈ pool.servers

theorem Within.exchanged {rules : Rules} {s : Docket} (within : s.Within rules.pool)
    {phase : Phase} (waiting : s.progress = .waiting phase)
    (reply : (phase.effect s.lobby).Reply) :
    (s.exchanged rules ⟨phase, reply⟩).Within rules.pool := by
  obtain ⟨inside, writes⟩ := within
  rw [waiting] at inside
  refine ⟨Phase.resume_within inside reply, fun write made => ?_⟩
  have parts : write ∈ s.writes ++ Exchange.writes ⟨phase, reply⟩ := by
    simpa [Docket.writes, Docket.exchanged] using made
  rcases List.mem_append.mp parts with earlier | new
  · exact writes write earlier
  · exact Phase.writes_within inside reply write new

end Docket

namespace Desk

variable {σ π : Type} {d : Desk σ π}

theorem update_stats {marks : List Mark} (counted : d.stats = Stats.ofMarks marks) (started : Nat)
    (update : Update) :
    (d.update started update).stats = Stats.ofMarks (marks ++ update.mark?.toList) := by
  cases update with
  | stats note =>
    show d.stats.record note = _
    rw [counted, Stats.record_ofMarks]
    rfl
  | metrics note =>
    rw [show (Update.metrics note).mark?.toList = [] from rfl, List.append_nil]
    exact counted

theorem update_readings {notes : List Note}
    (read : d.metrics.readings d.rules.channel = .ofNotes notes) (started : Nat)
    (update : Update) :
    (d.update started update).metrics.readings d.rules.channel =
      .ofNotes (notes ++ update.shown?.toList) := by
  cases update with
  | stats note =>
    rw [show (Update.stats note).shown?.toList = [] from rfl, List.append_nil]
    exact read
  | metrics note =>
    rw [show (Update.metrics note).shown?.toList = [note] from rfl, Readings.ofNotes_concat, ← read]
    exact Metrics.readings_record ..

end Desk

namespace Bureau

variable {σ π : Type} [Store σ] [Publisher π]

/-- The counters and the metrics hold what all requests have left with them. -/
structure Kept (b : Bureau σ π) : Prop where
  stats : b.desk.stats = Stats.ofMarks (b.dockets.flatMap Docket.marks)
  readings : b.desk.metrics.readings b.desk.rules.channel =
    .ofNotes (b.dockets.flatMap Docket.shown)
  tells : ∀ s ∈ b.dockets, s.Tells b.desk.rules

omit [Store σ] [Publisher π] in
theorem kept_opening (rules : Rules) (store : σ) (publisher : π) :
    Kept (atDesk (.opening rules store publisher)) :=
  ⟨rfl, rfl, nofun⟩

omit [Store σ] [Publisher π] in
theorem kept_updated {b : Bureau σ π} (kept : b.Kept) {number : Nat} {s : Docket} {update : Update}
    {rest : List Update} (found : b.dockets[number]? = some s) (next : s.pending = update :: rest) :
    Kept { b with
      desk := b.desk.update s.started update
      dockets := b.dockets.set number (s.make update rest) } := by
  have allMarks := Stats.ofMarks_perm (flatMap_set_perm found (s.marks_make update rest))
  have allShown := Readings.ofNotes_perm (flatMap_set_perm found (s.shown_make update rest))
  have rules := update_rules b.desk s.started update
  refine ⟨?_, ?_, ?_⟩
  · exact (Desk.update_stats kept.stats s.started update).trans allMarks.symm
  · show (b.desk.update s.started update).metrics.readings
      (b.desk.update s.started update).rules.channel = _
    rw [rules]
    exact (Desk.update_readings kept.readings s.started update).trans allShown.symm
  · intro t member
    show t.Tells (b.desk.update s.started update).rules
    rw [rules]
    rcases List.mem_or_eq_of_mem_set member with earlier | rfl
    · exact kept.tells t earlier
    · exact (kept.tells s (List.mem_of_getElem? found)).make next

theorem kept_acted {b : Bureau σ π} (kept : b.Kept) {number : Nat} {s : Docket} {phase : Phase}
    (found : b.dockets[number]? = some s) (quiet : s.pending = [])
    (waiting : s.progress = .waiting phase) :
    Kept { b with
      desk := (b.desk.carryOut (phase.effect s.lobby)).1
      dockets := b.dockets.set number (s.exchanged b.desk.rules
        ⟨phase, (b.desk.carryOut (phase.effect s.lobby)).2⟩) } := by
  let next := s.exchanged b.desk.rules ⟨phase, (b.desk.carryOut (phase.effect s.lobby)).2⟩
  have marks : next.marks = s.marks ++ [] := (List.append_nil _).symm
  have shown : next.shown = s.shown ++ [] := (List.append_nil _).symm
  have allMarks := Stats.ofMarks_perm (flatMap_set_perm found marks)
  have allShown := Readings.ofNotes_perm (flatMap_set_perm found shown)
  rw [List.append_nil] at allMarks allShown
  have metrics : (b.desk.carryOut (phase.effect s.lobby)).1.metrics = b.desk.metrics :=
    Desk.carryOut_metrics ..
  have rules : (b.desk.carryOut (phase.effect s.lobby)).1.rules = b.desk.rules :=
    Desk.carryOut_rules ..
  refine ⟨?_, ?_, ?_⟩
  · exact ((Desk.carryOut_stats ..).trans kept.stats).trans allMarks.symm
  · show (b.desk.carryOut (phase.effect s.lobby)).1.metrics.readings
      (b.desk.carryOut (phase.effect s.lobby)).1.rules.channel = _
    rw [metrics, rules]
    exact kept.readings.trans allShown.symm
  · intro t member
    show t.Tells (b.desk.carryOut (phase.effect s.lobby)).1.rules
    rw [rules]
    rcases List.mem_or_eq_of_mem_set member with earlier | rfl
    · exact kept.tells t earlier
    · exact (kept.tells s (List.mem_of_getElem? found)).exchanged quiet waiting _

theorem kept_step {b : Bureau σ π} (kept : b.Kept) (e : Event σ π) : (b.step e).Kept := by
  have deed := b.step_deed e
  generalize b.step e = c at deed
  cases deed with
  | entered lobby =>
    refine ⟨?_, ?_, ?_⟩
    · rw [List.flatMap_append]
      exact kept.stats.trans (congrArg Stats.ofMarks (List.append_nil _).symm)
    · rw [List.flatMap_append]
      exact kept.readings.trans (congrArg Readings.ofNotes (List.append_nil _).symm)
    · intro s member
      rcases List.mem_append.mp member with earlier | new
      · exact kept.tells s earlier
      · obtain rfl := List.mem_singleton.mp new
        exact Docket.tells_ofStart _ lobby _
  | updated found next => exact kept_updated kept found next
  | acted found quiet waiting => exact kept_acted kept found quiet waiting
  | aside desk surveys rules stats metrics =>
    obtain ⟨loads, metrics⟩ := metrics
    refine ⟨stats.trans kept.stats, ?_, ?_⟩
    · show desk.metrics.readings desk.rules.channel = _
      rw [metrics, rules, Metrics.readings_setLoads]
      exact kept.readings
    · show ∀ s ∈ b.dockets, s.Tells desk.rules
      rw [rules]
      exact kept.tells

theorem kept_run (rules : Rules) (store : σ) (publisher : π) (events : List (Event σ π)) :
    ((atDesk (.opening rules store publisher)).run events).Kept :=
  run_induct (P := Kept) (fun _ e kept => kept_step kept e)
    (kept_opening rules store publisher) events

theorem within_step {pool : Pool} {b : Bureau σ π} (same : b.desk.rules.pool = pool)
    (within : ∀ s ∈ b.dockets, s.Within pool) (e : Event σ π) :
    ∀ s ∈ (b.step e).dockets, s.Within pool := by
  subst same
  have deed := b.step_deed e
  generalize b.step e = c at deed
  cases deed with
  | entered lobby =>
    intro s member
    rcases List.mem_append.mp member with earlier | new
    · exact within s earlier
    · obtain rfl := List.mem_singleton.mp new
      exact ⟨Progress.start_within _ lobby, List.forall_mem_nil _⟩
  | @updated _ s _ _ found next =>
    intro t member
    rcases List.mem_or_eq_of_mem_set member with earlier | rfl
    · exact within t earlier
    · exact within s (List.mem_of_getElem? found)
  | @acted _ s _ found quiet waiting =>
    intro t member
    rcases List.mem_or_eq_of_mem_set member with earlier | rfl
    · exact within t earlier
    · exact (within s (List.mem_of_getElem? found)).exchanged waiting _
  | aside desk surveys rules stats metrics => exact within

theorem within_run (rules : Rules) (store : σ) (publisher : π) (events : List (Event σ π)) :
    ∀ s ∈ ((atDesk (.opening rules store publisher)).run events).dockets, s.Within rules.pool :=
  (run_induct
    (P := fun b => b.desk.rules.pool = rules.pool ∧ ∀ s ∈ b.dockets, s.Within rules.pool)
    (fun b e kept =>
      ⟨(congrArg Rules.pool (step_rules b e)).trans kept.1, within_step kept.1 kept.2 e⟩)
    ⟨rfl, List.forall_mem_nil _⟩ events).2

/-- Requests and surveys in any order, at a new service with any store and any publisher, one update
at a time. Whenever all requests are through, and none was lost with its publisher, the metrics and
the counters tell the same: how many requests ended in each way, how many placements there were, in
all and on the servers of each hash, and how many of them were announced. A server whose hash no
other of the pool has is counted alone. The counts in the metrics are those of requests that missed
their lobbies, whatever surveys there were. -/
theorem metrics_agree_with_counters (rules : Rules) (store : σ) (publisher : π)
    (events : List (Event σ π))
    (still : ∀ s ∈ ((atDesk (.opening rules store publisher)).run events).dockets,
      s.inFlight = false)
    (unbroken : ∀ s ∈ ((atDesk (.opening rules store publisher)).run events).dockets,
      s.progress.isCrashed = false) :
    let b := (atDesk (.opening rules store publisher)).run events
    let stats := b.desk.stats
    let metrics := b.desk.metrics
    let writes := b.dockets.flatMap Docket.writes
    metrics.requests.value .hit = stats.hits ∧
    metrics.requests.value .created = stats.created ∧
    metrics.requests.value .lostRace = stats.lostRaces ∧
    metrics.requests.value .clientError = stats.clientErrors ∧
    metrics.requests.value .storeError + metrics.requests.value .failed = stats.failures ∧
    metrics.created.total = stats.created ∧
    (∀ server, metrics.created.value server =
      writes.countP fun write => Labels.hash write.2 = Labels.hash server) ∧
    (∀ server, Labels.Alone server rules.pool.servers →
      metrics.created.value server = writes.countP fun write => write.2 = server) ∧
    metrics.published.value (rules.channel, false) = stats.publishFailures ∧
    metrics.published.value (rules.channel, true) + metrics.published.value (rules.channel, false) =
      stats.created ∧
    metrics.countDurations.observations =
      b.dockets.countP fun s => s.misses && s.completes rules.pool.servers := by
  intro b stats metrics writes
  have kept : Kept b := kept_run rules store publisher events
  have rulesNow : b.desk.rules = rules := run_rules _ events
  obtain ⟨counted, read, tells⟩ := kept
  have agree := Docket.agree_all fun s member =>
    (tells s member).agree (still s member) (unbroken s member)
  rw [rulesNow] at read agree
  have requests := congrFun (congrArg Readings.requests read)
  have announced := congrFun (congrArg Readings.announced read)
  have cast : ∀ {m n : Nat}, m = n → (m : Int) = n := fun same => congrArg _ same
  have placed : ∀ server, metrics.created.value server =
      writes.countP fun write => Labels.hash write.2 = Labels.hash server := fun server =>
    (congrFun (congrArg Readings.created read) server).trans (cast (agree.written server))
  rw [show stats = _ from counted]
  refine ⟨(requests .hit).trans (cast agree.hit), (requests .created).trans (cast agree.created),
    (requests .lostRace).trans (cast agree.lostRace),
    (requests .clientError).trans (cast (agree.answered .clientError)), ?_,
    (congrArg Readings.createdInAll read).trans (cast agree.placed), placed,
    fun server alone => ?_, (announced false).trans (cast agree.missed), ?_,
    (congrArg Readings.counts read).trans agree.counted⟩
  · refine (congrArg₂ (· + ·) (requests .storeError) (requests .failed)).trans
      ((Int.natCast_add _ _).symm.trans ?_)
    exact cast (congrArg₂ (· + ·) (agree.answered .storeError) (agree.answered .failed))
  · refine (placed server).trans (cast (List.countP_congr fun write made => ?_))
    obtain ⟨s, member, wrote⟩ := List.mem_flatMap.mp made
    have inPool := (within_run rules store publisher events s member).2 write wrote
    simp only [decide_eq_true_eq]
    exact ⟨alone write.2 inPool, congrArg Labels.hash⟩
  · refine (congrArg₂ (· + ·) (announced true) (announced false)).trans
      ((Int.natCast_add _ _).symm.trans ?_)
    exact cast agree.announced

/-- A blank lobby, a hit and a fault; then a placement and a lost race side by side, with a survey
in the middle. -/
def workday : List (Event ScriptedStore Recorder) :=
  [.enter "", .enter "H", .advance 1, .advance 0, .advance 1, .advance 0, .advance 1, .advance 1,
    .enter "F", .advance 2, .advance 2, .advance 2,
    .enter "C", .enter "R", .advance 3, .advance 4, .advance 3, .advance 4, .advance 4, .advance 3,
    .advance 3, .advance 4, .ask, .proceed 0, .proceed 0, .advance 4, .advance 3, .advance 3,
    .advance 3, .advance 4, .advance 3, .advance 4, .advance 3, .advance 4, .advance 3, .advance 3]

def workplace : Bureau ScriptedStore Recorder :=
  atDesk (.opening (.standard .two) Office.rehearsedStore Office.failingRecorder)

/-- At the end of the day each kind of ending has come up once in the metrics, as in the counters.
Both counts were made by requests, none by the survey. -/
theorem workday_agrees :
    (∀ s ∈ (workplace.run workday).dockets, s.inFlight = false) ∧
      (∀ s ∈ (workplace.run workday).dockets, s.progress.isCrashed = false) ∧
      (workplace.run workday).desk.stats = ⟨5, 1, 1, 1, 1, 1, 1, 0⟩ ∧
      (workplace.run workday).desk.metrics.requests.value .hit = 1 ∧
      (workplace.run workday).desk.metrics.created.value "A" = 1 ∧
      (workplace.run workday).desk.metrics.published.value ("game_servers", false) = 1 ∧
      (workplace.run workday).desk.metrics.countDurations.observations = 2 ∧
      (workplace.run workday).surveys.length = 1 := by
  have still : ∀ s ∈ (workplace.run workday).dockets, s.inFlight = false := by decide +kernel
  have unbroken : ∀ s ∈ (workplace.run workday).dockets, s.progress.isCrashed = false := by
    decide +kernel
  have counted : (workplace.run workday).desk.stats = ⟨5, 1, 1, 1, 1, 1, 1, 0⟩ := by decide +kernel
  obtain ⟨hits, _, _, _, _, _, _, created, missed, _, counts⟩ :=
    metrics_agree_with_counters (.standard .two) Office.rehearsedStore Office.failingRecorder
      workday still unbroken
  refine ⟨still, unbroken, counted, ?_, (created "A" ?_).trans ?_, ?_, counts.trans ?_, ?_⟩
  · exact hits.trans (congrArg (fun stats : Stats => (stats.hits : Int)) counted)
  · decide +kernel
  · decide +kernel
  · exact missed.trans (congrArg (fun stats : Stats => (stats.publishFailures : Int)) counted)
  · decide +kernel
  · decide +kernel

/-- Two servers with the same hash. -/
def twins : Pool := ⟨["77kepQFQ8Kl", "!0IC=VloaY"], by decide, by decide, by decide⟩

/-- A new store, with what it lists in two requests written down beforehand. -/
def listingStore : ScriptedStore :=
  { ScriptedStore.ofMemory .empty with
    script := { Script.empty with scans := [.answer [], .answer [.ok "L1"]] } }

/-- Two placements, one after the other, on two servers with the same hash. -/
def collision : Bureau ScriptedStore Recorder :=
  (atDesk (.opening (.standard twins) listingStore .empty)).run
    (.enter "L1" :: .enter "L2" ::
      (List.replicate 12 (.advance 0) ++ List.replicate 12 (.advance 1)))

/-- All requests are through, and each server has got one lobby, which both counters show as two. -/
theorem colliding_servers_share_a_counter :
    (∀ s ∈ collision.dockets, s.inFlight = false) ∧
      (∀ s ∈ collision.dockets, s.progress.isCrashed = false) ∧
      collision.dockets.flatMap Docket.writes =
        [("L1", "77kepQFQ8Kl"), ("L2", "!0IC=VloaY")] ∧
      ¬∀ server, collision.desk.metrics.created.value server =
        (collision.dockets.flatMap Docket.writes).countP fun write => write.2 = server := by
  have writes : collision.dockets.flatMap Docket.writes =
      [("L1", "77kepQFQ8Kl"), ("L2", "!0IC=VloaY")] := by
    decide +kernel
  refine ⟨by decide +kernel, by decide +kernel, writes, fun apart => ?_⟩
  have shown : collision.desk.metrics.created.value "77kepQFQ8Kl" = 2 := by decide +kernel
  have one := apart "77kepQFQ8Kl"
  rw [shown, writes] at one
  exact absurd one (by decide)

end Bureau

end LobbyPlacement

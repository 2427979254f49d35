import LobbyPlacement.Proofs.Placement.Bookkeeping
import LobbyPlacement.Proofs.Placement.Indifference
import LobbyPlacement.Proofs.Placement.Trace
import LobbyPlacement.Proofs.Service.Observers

/-!
# Services that never crash

A service with a bus whose channels can be opened loses no request and announces all that it places,
whatever happens to it. Valid settings lead to such a service unless they ask for more payloads in a
channel than a ring can hold: then the first new placement is lost behind its write.
-/

namespace LobbyPlacement

namespace Affair.Reply

/-- The request was lost, or the bus refused. -/
def isLost : Reply → Bool
  | left .crashed => true
  | answered none => true
  | told (.subscribed (.error _)) => true
  | told (.published (.error _)) => true
  | _ => false

end Affair.Reply

/-! ### Announcements on a bus -/

namespace Bus

theorem publish_of_sound {b : Bus} (sound : b.Sound) (now limit : Nat) (channel : String)
    (payload : Payload) :
    ∃ c : Bus, c.Sound ∧ Publisher.publish (.inl b : Transport) now limit channel payload =
      (.inl c, .settled 0 (.ok ())) := by
  obtain ⟨channels, done, _⟩ := publish_eq sound channel payload
  refine ⟨{ b with channels := channels }, ⟨sound.whole, sound.fits⟩, ?_⟩
  simp only [Publisher.publish, done]

theorem neverCrashes_of_sound {b : Bus} (sound : b.Sound) :
    Publisher.NeverCrashes (.inl b : Transport) := by
  have kept : ∀ {q : Transport}, Publisher.Reaches (.inl b) q →
      ∃ c : Bus, c.Sound ∧ q = .inl c := by
    intro q reached
    induction reached with
    | start => exact ⟨b, sound, rfl⟩
    | called _ now limit channel payload ih =>
      obtain ⟨c, still, rfl⟩ := ih
      obtain ⟨next, stillToo, done⟩ := publish_of_sound still now limit channel payload
      exact ⟨next, stillToo, congrArg Prod.fst done⟩
  intro q reached now limit channel payload after crashed
  obtain ⟨c, still, rfl⟩ := kept reached
  obtain ⟨_, _, done⟩ := publish_of_sound still now limit channel payload
  rw [done] at crashed
  cases crashed

end Bus

/-! ### Notes of announcements -/

def Note.isConfirmed : Note → Bool
  | .announced confirmed => confirmed
  | _ => false

theorem Note.isAnnounced_of_isConfirmed (note : Note) (confirmed : note.isConfirmed = true) :
    note.isAnnounced = true := by
  cases note with
  | announced confirmed => rfl
  | found | adopted | counted _ | created _ | answered _ => cases confirmed

theorem Placement.confirmed_start (lobby : String) :
    (start lobby).notes.countP Note.isConfirmed = 0 := by
  unfold start
  cases checkLobby lobby <;> rfl

namespace Desk

variable {σ π : Type}

/-- How many announcements the metrics show as confirmed. -/
def confirmed (d : Desk σ π) : Int := d.metrics.published.value (d.rules.channel, true)

theorem confirmed_recordAll (d : Desk σ π) (started : Nat) (notes : List Note) :
    (d.recordAll started notes).confirmed = d.confirmed + notes.countP Note.isConfirmed := by
  unfold recordAll
  induction notes generalizing d with
  | nil => exact (Int.add_zero _).symm
  | cons note rest ih =>
    have first : (d.record started note).confirmed = d.confirmed + note.isConfirmed.toNat := by
      cases note with
      | announced confirmed =>
        have bumped := Series.value_bump (d.rules.channel, confirmed) (d.rules.channel, true)
          d.metrics.published
        refine bumped.trans ?_
        cases confirmed <;> simp [Labels.hash_announced, Desk.confirmed, Note.isConfirmed]
      | found | adopted | counted _ | created _ | answered _ => exact (Int.add_zero _).symm
    rw [List.foldl_cons, ih, first, List.countP_cons, toNat_eq_ite]
    omega

/-! ### Requests are announced -/

/-- A desk with a bus that works, which has announced all its placements but for those it still
owes. -/
structure Reliable (rules : Rules) (d : Desk σ Transport) (owed : Nat) : Prop where
  sameRules : d.rules = rules
  bus : ∃ b : Bus, d.publisher = .inl b ∧ b.Sound
  missed : d.stats.publishFailures = 0
  announced : d.confirmed + owed = d.stats.created

variable {rules : Rules}

theorem Reliable.neverCrashes {d : Desk σ Transport} {owed : Nat}
    (reliable : d.Reliable rules owed) : Publisher.NeverCrashes d.publisher := by
  obtain ⟨b, onBus, sound⟩ := reliable.bus
  rw [onBus]
  exact Bus.neverCrashes_of_sound sound

theorem Reliable.begin {d : Desk σ Transport} (reliable : d.Reliable rules 0) (lobby : String) :
    (d.begin lobby).1.Reliable rules ((d.begin lobby).2.deed lobby).length := by
  have missed := recordAll_counter Stats.record_missed d d.now (Placement.start lobby).notes
  have created := recordAll_created d d.now (Placement.start lobby).notes
  have confirmed := confirmed_recordAll d d.now (Placement.start lobby).notes
  rw [Placement.missed_start, Nat.add_zero] at missed
  rw [Placement.created_start, Nat.add_zero] at created
  rw [Placement.confirmed_start] at confirmed
  have nothing_owed : (Placement.start lobby).progress.deed lobby = [] :=
    Progress.deed_of_not_written (Progress.start_not_written lobby) lobby
  refine ⟨?_, ?_, missed.trans reliable.missed, ?_⟩
  · rw [Desk.begin, recordAll_rules]
    exact reliable.sameRules
  · rw [Desk.begin, recordAll_publisher]
    exact reliable.bus
  · simp only [Desk.begin, confirmed, created, nothing_owed, List.length_nil]
    exact (Int.add_zero _).trans reliable.announced

variable [Store σ]

theorem Reliable.announces {d : Desk σ Transport} {owed : Nat} (reliable : d.Reliable rules owed)
    (lobby server : String) (started : Nat) :
    ∃ c : Bus, c.Sound ∧ d.step ⟨lobby, started, .announcing server⟩ =
      ({ d with publisher := Sum.inl c }.recordAll started [.announced true, .answered .created],
        .answered (.ok (.created server))) := by
  obtain ⟨b, onBus, sound⟩ := reliable.bus
  obtain ⟨c, soundToo, published⟩ := Bus.publish_of_sound sound d.now d.rules.announceLimit
    d.rules.channel (⟨lobby, server⟩ : Announcement).encode
  refine ⟨c, soundToo, ?_⟩
  rw [step_announcing reliable.neverCrashes]
  dsimp only
  rw [onBus, published]
  simp [Attempt.spent, Attempt.misses]

theorem Reliable.step {d : Desk σ Transport} {lobby : String} {phase : Phase}
    (reliable : d.Reliable rules ((Progress.waiting phase).deed lobby).length) (started : Nat) :
    (d.step ⟨lobby, started, phase⟩).1.Reliable rules
      ((d.step ⟨lobby, started, phase⟩).2.deed lobby).length := by
  have created := d.step_created ⟨lobby, started, phase⟩
  cases unwritten : (Progress.waiting phase).hasWritten with
  | false =>
    have nothing_owed := reliable.announced
    rw [Progress.deed_of_not_written unwritten] at nothing_owed
    have none_told : ∀ {counted : Note → Bool},
        (∀ note, counted note = true → note.isAnnounced = true) →
        (Placement.resume d.rules lobby phase (d.carryOut (phase.effect lobby)).2).notes.countP
          counted = 0 :=
      fun only => Placement.unannounced_resume only d.rules lobby unwritten _
    have missed : (d.step ⟨lobby, started, phase⟩).1.stats.publishFailures =
        d.stats.publishFailures := by
      simp only [Desk.step, recordAll_counter Stats.record_missed, carryOut_stats, carryOut_rules]
      rw [none_told Note.isAnnounced_of_isMissed, Nat.add_zero]
    have confirmed : (d.step ⟨lobby, started, phase⟩).1.confirmed = d.confirmed := by
      simp only [Desk.step, confirmed_recordAll, carryOut_rules]
      rw [none_told Note.isAnnounced_of_isConfirmed]
      simp [Desk.confirmed, carryOut_metrics, carryOut_rules]
    refine ⟨(d.step_rules _).trans reliable.sameRules, ?_, missed.trans reliable.missed, ?_⟩
    · rw [(d.step_of_unwritten unwritten).1]
      exact reliable.bus
    · rw [confirmed, created]
      dsimp only at nothing_owed ⊢
      rw [List.length_nil] at nothing_owed
      omega
  | true =>
    obtain ⟨server, rfl⟩ : ∃ server, phase = .announcing server := by
      cases phase with
      | announcing server => exact ⟨server, rfl⟩
      | looking | listing | counting _ | claiming _ | overwriting _ | adopting => cases unwritten
    have one_owed : d.confirmed + 1 = d.stats.created := reliable.announced
    obtain ⟨c, sound, done⟩ := reliable.announces lobby server started
    rw [done]
    refine ⟨(recordAll_rules _ _ _).trans reliable.sameRules, ⟨c, recordAll_publisher _ _ _, sound⟩,
      ?_, ?_⟩
    · rw [recordAll_counter Stats.record_missed]
      exact reliable.missed
    · rw [confirmed_recordAll, recordAll_created]
      show d.confirmed + 1 + 0 = (d.stats.created + 0 : Nat)
      rw [Int.add_zero, Nat.add_zero]
      exact one_owed

/-- A request at a desk that works is answered, and announced if it placed its lobby. -/
theorem Reliable.resolve {d : Desk σ Transport} (reliable : d.Reliable rules 0) (lobby : String) :
    (d.resolve lobby).1.Reliable rules 0 ∧ ∃ outcome, (d.resolve lobby).2 = .answered outcome := by
  let Holds := fun (e : Desk σ Transport) (p : Progress) =>
    e.Reliable rules (p.deed lobby).length ∧ p ≠ .crashed
  have kept : ∀ e phase, Holds e (.waiting phase) →
      Holds (e.step ⟨lobby, d.now, phase⟩).1 (e.step ⟨lobby, d.now, phase⟩).2 :=
    fun e phase holds => ⟨holds.1.step d.now, (e.step_steady holds.1.neverCrashes _).2⟩
  have starts : (Placement.start lobby).progress ≠ .crashed := by
    unfold Placement.start
    cases Placement.checkLobby lobby <;> exact nofun
  have ends : Holds (d.resolve lobby).1 (d.resolve lobby).2.progress :=
    finish_kept kept ⟨reliable.begin lobby, starts⟩
  cases left : (d.resolve lobby).2 with
  | answered outcome =>
    rw [left] at ends
    exact ⟨ends.1, outcome, rfl⟩
  | crashed =>
    rw [left] at ends
    exact (ends.2 rfl).elim

theorem Reliable.api {d : Desk σ Transport} (reliable : d.Reliable rules 0) (method : Http.Method)
    (target : Http.Target) :
    (Http.api d method target).1.Reliable rules 0 ∧ (Http.api d method target).2.isSome := by
  rcases Http.api_cases (σ := σ) (π := Transport) method target with
    ⟨answer, told⟩ | ⟨lobby, write, told⟩
  · rw [told]
    exact ⟨reliable, rfl⟩
  · obtain ⟨reliableThen, outcome, answered⟩ := reliable.resolve lobby
    rw [told, answered]
    exact ⟨reliableThen, rfl⟩

end Desk

/-! ### Whatever happens to a service -/

namespace Service

variable {rules : Rules}

theorem reliable_of_unwatched {s t : Service MemoryStore} (same : s.unwatched = t.unwatched)
    (reliable : s.desk.Reliable rules 0) : t.desk.Reliable rules 0 := by
  obtain ⟨metrics, tasks, journal, counters, rfl⟩ := eq_of_unwatched same
  obtain ⟨uptime, health, components, loads, rfl⟩ := Metrics.eq_of_counters counters.symm
  exact ⟨reliable.sameRules, reliable.bus, reliable.missed, reliable.announced⟩

theorem reliable_catchUp {s : Service MemoryStore} (reliable : s.desk.Reliable rules 0)
    (seen : Nat → Nat) : (s.catchUp seen).desk.Reliable rules 0 :=
  reliable_of_unwatched (s.unwatched_catchUp seen).symm reliable

theorem reliable_act {b : Bus} {s : Service MemoryStore} (reliable : s.desk.Reliable rules 0)
    (onBus : s.desk.publisher = .inl b) (sound : b.Sound) (deed : Bus.Deed) :
    (s.attend (.bus deed)).1.desk.Reliable rules 0 ∧
      (s.attend (.bus deed)).2 = .told (b.tell deed) := by
  have done : Transport.act deed s.desk.publisher = (.inl (b.act deed), .told (b.tell deed)) := by
    rw [onBus]
    rfl
  simp only [attend, done]
  exact ⟨⟨reliable.sameRules, ⟨b.act deed, rfl, sound.act deed⟩, reliable.missed,
    reliable.announced⟩, trivial⟩

theorem tell_not_lost {b : Bus} (sound : b.Sound) (deed : Bus.Deed) :
    (Affair.Reply.told (b.tell deed)).isLost = false := by
  cases deed with
  | subscribe channel =>
    obtain ⟨channels, done, _⟩ := Bus.subscribe_eq sound channel
    simp only [Bus.tell, done, Affair.Reply.isLost]
  | publish channel payload =>
    obtain ⟨channels, done, _⟩ := Bus.publish_eq sound channel payload
    simp only [Bus.tell, done, Affair.Reply.isLost]
  | receive number => rfl
  | drop number => rfl

theorem monitor_answers {σ : Type} [Store σ] (stamp : String) (s : Service σ)
    (method : Http.Method) (target : Http.Target) :
    (Http.monitor stamp s method target).2.isSome := by
  unfold Http.monitor
  cases Http.Page.ofPath? target.path with
  | none => rfl
  | some page => cases method <;> rfl

theorem attend_reliable {s : Service MemoryStore} (reliable : s.desk.Reliable rules 0)
    (affair : Affair) :
    (s.attend affair).1.desk.Reliable rules 0 ∧ (s.attend affair).2.isLost = false := by
  cases affair with
  | resolve lobby =>
    obtain ⟨reliableThen, outcome, answered⟩ := reliable.resolve lobby
    refine ⟨reliable_catchUp (s := { s with desk := (s.desk.resolve lobby).1 }) reliableThen id, ?_⟩
    show (Affair.Reply.left (s.desk.resolve lobby).2).isLost = false
    rw [answered]
    rfl
  | api method target =>
    obtain ⟨reliableThen, answered⟩ := reliable.api method target
    refine ⟨reliable_catchUp (s := { s with desk := (Http.api s.desk method target).1 })
      reliableThen id, ?_⟩
    show (Affair.Reply.answered (Http.api s.desk method target).2).isLost = false
    obtain ⟨answer, given⟩ := Option.isSome_iff_exists.mp answered
    rw [given]
    rfl
  | bus deed =>
    obtain ⟨b, onBus, sound⟩ := reliable.bus
    obtain ⟨reliableThen, told⟩ := reliable_act reliable onBus sound deed
    rw [told]
    exact ⟨reliableThen, tell_not_lost sound deed⟩
  | weather available =>
    exact ⟨⟨reliable.sameRules, reliable.bus, reliable.missed, reliable.announced⟩, rfl⟩
  | link isOpen =>
    obtain ⟨b, onBus, sound⟩ := reliable.bus
    refine ⟨⟨reliable.sameRules, ⟨b, ?_, sound⟩, reliable.missed, reliable.announced⟩, rfl⟩
    show Transport.link isOpen s.desk.publisher = .inl b
    rw [onBus]
    rfl
  | elapse ms =>
    let later : Service MemoryStore := { s with desk := { s.desk with now := s.now + ms } }
    have reliableThen : later.desk.Reliable rules 0 :=
      ⟨reliable.sameRules, reliable.bus, reliable.missed, reliable.announced⟩
    exact ⟨reliable_catchUp reliableThen _, rfl⟩
  | start =>
    let started : Service MemoryStore := { s with
      isRunning := true
      tasks := s.tasks ++ s.startTasks
      journal := s.journal ++ s.startNotes ++ s.firstNotes }
    have reliableThen : started.desk.Reliable rules 0 := reliable
    exact ⟨reliable_catchUp reliableThen id, rfl⟩
  | page stamp method target =>
    refine ⟨reliable_of_unwatched (s.unwatched_monitor stamp method target).symm reliable, ?_⟩
    show (Affair.Reply.answered (Http.monitor stamp s method target).2).isLost = false
    obtain ⟨answer, given⟩ := Option.isSome_iff_exists.mp (monitor_answers stamp s method target)
    rw [given]
    rfl
  | lookup _ | loads | stats | storeHealth | publisherHealth =>
    exact ⟨reliable_of_unwatched (s.attend_of_observer rfl).symm reliable, rfl⟩

end Service

/-! ### Channels that cannot be opened -/

namespace Desk

section Refusing

variable {d : Desk MemoryStore Transport} {b : Bus}

theorem announcing_crashes (onBus : d.publisher = .inl b) (whole : b.isBroken = false)
    (unopened : b.channels = []) (tooMuch : Bus.capacityBound ≤ b.capacity)
    (lobby server : String) (started : Nat) :
    (d.step ⟨lobby, started, .announcing server⟩).2 = .crashed := by
  have refused : ∀ channel, b.ring channel = ({ b with isBroken := true }, .error .crashed) := by
    intro channel
    unfold Bus.ring
    rw [if_neg (ne_true_of_eq_false whole), unopened, List.lookup_nil]
    exact if_neg (Nat.not_lt.mpr tooMuch)
  have crashed : (d.announce ⟨lobby, server⟩).2 = .crashed := by
    rw [announce_eq, onBus]
    simp only [Publisher.publish, Bus.publish, refused, Attempt.delivery]
  show (Placement.resume (d.announce ⟨lobby, server⟩).1.rules lobby (.announcing server)
    (d.announce ⟨lobby, server⟩).2).progress = .crashed
  rw [crashed]
  rfl

theorem writing_announces (fresh : d.store = .empty) (lobby server : String) (started : Nat)
    (mode : WriteMode) :
    (d.step ⟨lobby, started, Placement.writing mode server⟩).2 =
      .waiting (.announcing server) := by
  obtain ⟨rules, store, publisher, now, stats, metrics⟩ := d
  obtain rfl : store = .empty := fresh
  cases mode <;> rfl

theorem listing_writes (fresh : d.store = .empty) (lobby : String) (started : Nat) :
    (d.step ⟨lobby, started, .listing⟩).1.store = .empty ∧
      ∃ server, (d.step ⟨lobby, started, .listing⟩).2 =
        .waiting (Placement.writing d.rules.mode server) := by
  obtain ⟨rules, store, publisher, now, stats, metrics⟩ := d
  obtain rfl : store = .empty := fresh
  have some_server : Load.zero rules.pool.servers ≠ [] := by
    intro none_there
    exact rules.pool.nonempty (List.map_eq_nil_iff.mp none_there)
  obtain ⟨_, best, _, chosen, _⟩ := Load.least_first some_server
  refine ⟨recordAll_store _ _ _, best.server, ?_⟩
  show (Placement.afterTally rules (.counted (Load.zero rules.pool.servers))).progress = _
  simp only [Placement.afterTally, chosen]
  rfl

/-- The first placement on a bus whose channels cannot be opened is lost behind its write. -/
theorem resolve_crashes (fresh : d.store = .empty) (onBus : d.publisher = .inl b)
    (whole : b.isBroken = false) (unopened : b.channels = [])
    (tooMuch : Bus.capacityBound ≤ b.capacity) : (d.resolve "L").2 = .crashed := by
  have goes_on : ∀ (e : Desk MemoryStore Transport) phase, e.finish "L" d.now (.waiting phase) =
      (e.step ⟨"L", d.now, phase⟩).1.finish "L" d.now (e.step ⟨"L", d.now, phase⟩).2 := by
    intro e phase
    rw [finish]
  let looked := (d.step ⟨"L", d.now, .looking⟩).1
  have absent : (d.step ⟨"L", d.now, .looking⟩).2 = .waiting .listing ∧ looked.store = .empty := by
    obtain ⟨rules, store, publisher, now, stats, metrics⟩ := d
    obtain rfl : store = .empty := fresh
    exact ⟨rfl, rfl⟩
  let listed := (looked.step ⟨"L", d.now, .listing⟩).1
  obtain ⟨empty, server, chosen⟩ := listing_writes absent.2 "L" d.now
  let written := (listed.step ⟨"L", d.now, Placement.writing looked.rules.mode server⟩).1
  have placed := writing_announces empty "L" server d.now looked.rules.mode
  have same : written.publisher = .inl b := by
    have unwritten : (Progress.waiting
        (Placement.writing looked.rules.mode server)).hasWritten = false := by
      cases looked.rules.mode <;> rfl
    rw [(listed.step_of_unwritten unwritten).1, (looked.step_of_unwritten rfl).1,
      (d.step_of_unwritten rfl).1, onBus]
  have lost := announcing_crashes same whole unopened tooMuch "L" server d.now
  show (d.finish "L" d.now (.waiting .looking)).2 = .crashed
  rw [goes_on, absent.1, goes_on, chosen, goes_on, placed, goes_on, lost, finish]

end Refusing

end Desk

theorem Settings.pool_of_valid {settings : Settings} (valid : settings.validate = .ok ()) :
    ∃ pool, Pool.ofList settings.servers = .ok pool := by
  cases listed : Pool.ofList settings.servers with
  | ok pool => exact ⟨pool, rfl⟩
  | error fault =>
    have invalid : settings.firstInvalidity? ≠ none := by
      unfold firstInvalidity?
      rw [listed]
      dsimp only
      split_ifs <;> exact nofun
    unfold validate at valid
    split at valid
    · cases valid
    next none_found => exact (invalid none_found).elim

namespace Service

theorem assemble_on_bus {settings : Settings} {pool : Pool}
    (listed : Pool.ofList settings.servers = .ok pool)
    (isLocal : settings.events.backend = .localBus) (broker : Broker) :
    (assemble settings MemoryStore.empty broker).result =
      .ready (ofTransport settings pool .empty 0
        (.inl (.ofCapacity settings.events.localCapacity))) := by
  unfold assemble
  rw [listed]
  simp only [Assembly.transport, isLocal]

/-- If too much is asked of the bus, even a request that comes first is lost. -/
theorem loses_first_request (settings : Settings) (pool : Pool)
    (tooMuch : Bus.capacityBound ≤ settings.events.localCapacity) :
    ∃ m ∈ (ofTransport settings pool MemoryStore.empty 0
        (.inl (.ofCapacity settings.events.localCapacity))).moments [.resolve "L"],
      m.reply.isLost = true := by
  let bus : Bus := .ofCapacity settings.events.localCapacity
  have lost := Desk.resolve_crashes
    (d := (ofTransport settings pool MemoryStore.empty 0 (.inl bus)).desk) rfl rfl rfl rfl tooMuch
  refine ⟨_, List.mem_cons_self, ?_⟩
  show (Affair.Reply.left (Desk.resolve _ "L").2).isLost = true
  rw [lost]
  rfl

/-- With valid settings and a bus a service is put together, and it never loses a request, never
finds its bus refusing, and announces whatever it places, exactly if the bus is asked for a ring
that is assumed to be made. -/
theorem valid_service_is_safe_iff_ring_fits {settings : Settings}
    (valid : settings.validate = .ok ()) (isLocal : settings.events.backend = .localBus)
    (broker : Broker) :
    ∃ s, (assemble settings MemoryStore.empty broker).result = .ready s ∧
      (Bus.RingFits settings.events.localCapacity ↔
        ∀ affairs, (∀ m ∈ s.moments affairs, m.reply.isLost = false) ∧
          (s.run affairs).desk.stats.publishFailures = 0 ∧
          (s.run affairs).desk.metrics.published.value (settings.events.channel, true) =
            (s.run affairs).desk.stats.created) := by
  obtain ⟨pool, listed⟩ := Settings.pool_of_valid valid
  refine ⟨_, assemble_on_bus listed isLocal broker, ?_⟩
  let bus : Bus := .ofCapacity settings.events.localCapacity
  constructor
  · intro fits affairs
    have reliable : (ofTransport settings pool MemoryStore.empty 0 (.inl bus)).desk.Reliable
        (settings.rules pool) 0 :=
      ⟨rfl, ⟨bus, rfl, Bus.sound_ofCapacity fits⟩, rfl, rfl⟩
    have kept := fun (s : Service MemoryStore) affair
      (reliable : s.desk.Reliable (settings.rules pool) 0) => (attend_reliable reliable affair).1
    refine ⟨?_, ?_, ?_⟩
    · intro m happened
      obtain ⟨reliableThen, attended⟩ :=
        moments_kept (P := fun s => s.desk.Reliable (settings.rules pool) 0) kept reliable happened
      have answered := (attend_reliable reliableThen m.affair).2
      rw [← attended] at answered
      exact answered
    · exact (run_kept kept reliable affairs).missed
    · have last := run_kept kept reliable affairs
      have announced := last.announced
      unfold Desk.confirmed at announced
      rw [last.sameRules] at announced
      exact (Int.add_zero _).symm.trans announced
  · intro safe
    by_contra tooMuch
    obtain ⟨m, happened, lost⟩ := loses_first_request settings pool (Nat.not_lt.mp tooMuch)
    exact Bool.false_ne_true (((safe [.resolve "L"]).1 m happened).symm.trans lost)

/-- The standard settings lead to a service that loses no request. -/
theorem standard_service_loses_nothing :
    ∃ s, (assemble Settings.standard MemoryStore.empty .unreachable).result = .ready s ∧
      ∀ affairs, ∀ m ∈ s.moments affairs, m.reply.isLost = false := by
  have valid : Settings.standard.validate = .ok () := by decide
  obtain ⟨s, ready, safe⟩ := valid_service_is_safe_iff_ring_fits valid rfl .unreachable
  have fits : Bus.RingFits Settings.standard.events.localCapacity := by decide
  exact ⟨s, ready, fun affairs => (safe.mp fits affairs).1⟩

/-- Settings that ask for one payload more in a channel than a ring can hold. -/
def overfull : Settings :=
  { Settings.standard with
    events := { Settings.standard.events with localCapacity := Bus.capacityBound } }

theorem valid_settings_may_crash :
    ¬ ∀ (settings : Settings) (broker : Broker), settings.validate = .ok () →
      settings.events.backend = .localBus →
      ∃ s, (assemble settings MemoryStore.empty broker).result = .ready s ∧
        ∀ affairs, ∀ m ∈ s.moments affairs, m.reply.isLost = false := by
  intro claim
  have valid : overfull.validate = .ok () := by decide
  obtain ⟨pool, listed⟩ := Settings.pool_of_valid valid
  obtain ⟨s, ready, safe⟩ := claim overfull .unreachable valid rfl
  obtain rfl : ofTransport overfull pool MemoryStore.empty 0 _ = s := by
    rw [assemble_on_bus listed rfl] at ready
    injection ready
  obtain ⟨m, happened, lost⟩ := loses_first_request overfull pool (Nat.le_refl _)
  exact Bool.false_ne_true ((safe [.resolve "L"] m happened).symm.trans lost)

end Service

end LobbyPlacement

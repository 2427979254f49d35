import LobbyPlacement.Http.Monitor
import LobbyPlacement.Proofs.Bus.Delivery
import LobbyPlacement.Proofs.Placement.Errands
import LobbyPlacement.Service.Assembly
import LobbyPlacement.Service.Lifecycle

/-!
# The affairs of a service

A service over the store in memory and all that may happen to it, one thing after the other:
requests, questions about how it is, subscribers of its bus, the switch of its store, the link to
its broker, its start and the time in between. `Service.moments` lists what happened with the
service before and after it.
-/

namespace LobbyPlacement

inductive Affair
  | resolve (lobby : String)
  | api (method : Http.Method) (target : Http.Target)
  | lookup (lobby : String)
  | loads
  | stats
  | storeHealth
  | publisherHealth
  | page (stamp : String) (method : Http.Method) (target : Http.Target)
  | bus (deed : Bus.Deed)
  | weather (available : Bool)
  | link (isOpen : Bool)
  | elapse (ms : Nat)
  | start

/-- What the one who does a deed with the bus is told. -/
inductive Bus.Told
  | subscribed (answer : Except BusFault Nat)
  | published (answer : Except BusFault Unit)
  | received (answer : Received)
  | dropped

def Bus.tell (b : Bus) : Deed → Told
  | .subscribe channel => .subscribed (b.subscribe channel).2
  | .publish channel payload => .published (b.publish channel payload).2
  | .receive number => .received (b.receive number).2
  | .drop _ => .dropped

namespace Affair

inductive Reply
  | left (leaving : Desk.Leaving)
  | answered (answer : Option Http.Answer)
  | found (answer : Except Fault (Option String))
  | counted (answer : Except Fault (List Load))
  | stats (stats : Stats)
  | storeHealth (answer : Except Fault Unit)
  | publisherHealth (isHealthy : Bool)
  | told (told : Bus.Told)
  | done

end Affair

structure Moment where
  before : Service MemoryStore
  affair : Affair
  reply : Affair.Reply
  after : Service MemoryStore

namespace Transport

/-- A deed with the bus; there is none if announcements go to a broker. -/
def act (deed : Bus.Deed) : Transport → Transport × Affair.Reply
  | .inl b => (.inl (b.act deed), .told (b.tell deed))
  | .inr c => (.inr c, .done)

/-- The connection to a broker comes or goes. -/
def link (isOpen : Bool) : Transport → Transport
  | .inl b => .inl b
  | .inr c => .inr { c with broker := { c.broker with isOpen := isOpen } }

end Transport

namespace Service

def attend (s : Service MemoryStore) : Affair → Service MemoryStore × Affair.Reply
  | .resolve lobby => let (s, leaving) := s.serve fun d => d.resolve lobby; (s, .left leaving)
  | .api method target =>
    let (s, answer) := s.serve fun d => Http.api d method target
    (s, .answered answer)
  | .lookup lobby => let (s, answer) := s.serve fun d => d.lookup lobby; (s, .found answer)
  | .loads => let (s, answer) := s.serve Desk.loads; (s, .counted answer)
  | .stats => (s, .stats s.desk.stats)
  | .storeHealth => let (s, answer) := s.serve Desk.pingStore; (s, .storeHealth answer)
  | .publisherHealth => (s, .publisherHealth s.desk.publisherIsHealthy)
  | .page stamp method target =>
    let (s, answer) := Http.monitor stamp s method target
    (s, .answered answer)
  | .bus deed =>
    let (transport, reply) := Transport.act deed s.desk.publisher
    ({ s with desk := { s.desk with publisher := transport } }, reply)
  | .weather available =>
    let store := { s.desk.store with available := available }
    ({ s with desk := { s.desk with store := store } }, .done)
  | .link isOpen =>
    ({ s with desk := { s.desk with publisher := Transport.link isOpen s.desk.publisher } }, .done)
  | .elapse ms => (s.advance ms, .done)
  | .start => (s.start, .done)

def moments (s : Service MemoryStore) : List Affair → List Moment
  | [] => []
  | affair :: rest =>
    let (after, reply) := s.attend affair
    ⟨s, affair, reply, after⟩ :: after.moments rest

def run (s : Service MemoryStore) (affairs : List Affair) : Service MemoryStore :=
  affairs.foldl (fun s affair => (s.attend affair).1) s

theorem moments_kept {P : Service MemoryStore → Prop}
    (kept : ∀ s affair, P s → P (s.attend affair).1) {s : Service MemoryStore} (start : P s)
    {affairs : List Affair} {moment : Moment} (happened : moment ∈ s.moments affairs) :
    P moment.before ∧ (moment.after, moment.reply) = moment.before.attend moment.affair := by
  induction affairs generalizing s with
  | nil => cases happened
  | cons affair rest ih =>
    rcases List.mem_cons.mp happened with rfl | later
    · exact ⟨start, rfl⟩
    · exact ih (kept s affair start) later

theorem run_kept {P : Service MemoryStore → Prop}
    (kept : ∀ s affair, P s → P (s.attend affair).1) {s : Service MemoryStore} (start : P s)
    (affairs : List Affair) : P (s.run affairs) := by
  induction affairs generalizing s with
  | nil => exact start
  | cons affair rest ih => exact ih (kept s affair start)

end Service

/-! ### What a request keeps -/

/-- What every step of a request keeps holds when it leaves. -/
theorem Desk.finish_kept {σ π : Type} [Store σ] [Publisher π] {lobby : String} {started : Nat}
    {R : Desk σ π → Progress → Prop}
    (kept : ∀ d phase, R d (.waiting phase) →
      R (d.step ⟨lobby, started, phase⟩).1 (d.step ⟨lobby, started, phase⟩).2)
    {d : Desk σ π} {p : Progress} (start : R d p) :
    R (d.finish lobby started p).1 (d.finish lobby started p).2.progress := by
  fun_induction d.finish lobby started p with
  | case1 d outcome => exact start
  | case2 d => exact start
  | case3 d phase next =>
    rename_i ih
    exact ih (kept d phase start)

/-! ### Reading -/

namespace StoreCall

def isReading : StoreCall → Bool
  | get _ | scan _ | ping => true
  | put _ _ | putIfAbsent _ _ => false

end StoreCall

theorem MemoryStore.perform_reading (s : MemoryStore) {c : StoreCall} (reading : c.isReading) :
    (Store.perform s c).1 = s := by
  show (s.perform c).1 = s
  cases available : s.available with
  | true =>
    rw [perform_available available, ← available]
    cases c with
    | get _ | scan _ | ping => rfl
    | put _ _ | putIfAbsent _ _ => cases reading
  | false => rw [perform_unavailable available]

theorem Tally.finish_memory (s : MemoryStore) (tally : Tally) : (tally.finish s).1 = s := by
  fun_induction Tally.finish s tally with
  | case1 s loads => rfl
  | case2 s fault => rfl
  | case3 s census next reply performed ih =>
    have still : (Store.perform s (.get census.key)).1 = s := s.perform_reading rfl
    rw [performed] at still
    rw [ih]
    exact still

theorem Census.count_memory (s : MemoryStore) (servers : List String) :
    (Census.count s servers).1 = s := by
  unfold Census.count
  split
  · rfl
  · dsimp only
    rw [Tally.finish_memory, MemoryStore.perform_reading s rfl]

namespace Desk

variable {π : Type}

theorem lookup_reads (d : Desk MemoryStore π) (lobby : String) : (d.lookup lobby).1 = d := by
  unfold lookup
  split
  · rfl
  · dsimp only
    rw [MemoryStore.perform_reading d.store rfl]

theorem pingStore_reads (d : Desk MemoryStore π) : d.pingStore = (d, d.pingStore.2) := by
  refine Prod.ext ?_ rfl
  unfold pingStore
  dsimp only
  rw [MemoryStore.perform_reading d.store rfl]

/-- Counting the loads changes at most the metrics. -/
theorem loads_reads (d : Desk MemoryStore π) :
    d.loads.1 = d ∨ ∃ counted, d.loads.1 = { d with metrics := d.metrics.setLoads counted } := by
  have still := Census.count_memory d.store d.rules.pool.servers
  unfold loads
  split
  next store fault counted =>
    rw [counted] at still
    obtain rfl : store = d.store := still
    exact .inl rfl
  next store loads counted =>
    rw [counted] at still
    obtain rfl : store = d.store := still
    exact .inr ⟨loads, rfl⟩

end Desk

theorem Service.readiness_reads (s : Service MemoryStore) : s.readiness.1 = s := by
  unfold readiness
  split
  · rw [Desk.pingStore_reads]
  · rfl

/-! ### Pages and placements over the network -/

/-- What is sent of what came of a request; nothing if it was lost. -/
def Desk.Leaving.answer? (write : Outcome → Http.Answer) : Desk.Leaving → Option Http.Answer
  | .answered outcome => some (write outcome)
  | .crashed => none

namespace Http

section Placing

variable {π : Type} [Publisher π]

/-- A query is refused, never with 200, or it places the lobby it asks for. -/
theorem assign_places (query : String) :
    (∃ answer, answer.status ≠ 200 ∧ ∀ {σ : Type} [Store σ] (d : Desk σ π),
        assign query d = (d, some answer)) ∨
      ∃ lobby, lobbyOf query = .ok (some lobby) ∧ ∀ {σ : Type} [Store σ] (d : Desk σ π),
        assign query d = ((d.resolve lobby).1, (d.resolve lobby).2.answer? outcomeAnswer) := by
  unfold assign
  rcases asked : lobbyOf query with refusal | _ | lobby
  · exact .inl ⟨.plain 400 refusal, by simp [Answer.plain], fun d => rfl⟩
  · exact .inl ⟨.plain 400 "missing lobby_id", by simp [Answer.plain], fun d => rfl⟩
  · refine .inr ⟨lobby, rfl, fun d => ?_⟩
    dsimp only
    rcases d.resolve lobby with ⟨e, outcome | _⟩ <;> rfl

/-- What is sent of an answer; asking for the head leaves out the body. -/
def Method.sent : Method → Answer → Answer
  | .head, answer => answer.withoutBody
  | _, answer => answer

/-- A request to the interface is answered by itself, and never with 200, or it places the lobby it
asks for. -/
theorem api_places (method : Method) (target : Target) :
    (∃ answer, answer.status ≠ 200 ∧ ∀ {σ : Type} [Store σ] (d : Desk σ π),
        api d method target = (d, some answer)) ∨
      ∃ lobby, lobbyOf target.query = .ok (some lobby) ∧ (method = .get ∨ method = .head) ∧
        ∀ {σ : Type} [Store σ] (d : Desk σ π), api d method target =
          ((d.resolve lobby).1,
            (d.resolve lobby).2.answer? fun outcome => method.sent (outcomeAnswer outcome)) := by
  unfold api
  by_cases routed : target.path = assignPath
  · simp only [if_pos routed]
    have placed := assign_places (π := π) target.query
    cases method with
    | get =>
      rcases placed with ⟨answer, bad, told⟩ | ⟨lobby, asked, told⟩
      · exact .inl ⟨answer, bad, told⟩
      · exact .inr ⟨lobby, asked, .inl rfl, told⟩
    | head =>
      rcases placed with ⟨answer, bad, told⟩ | ⟨lobby, asked, told⟩
      · refine .inl ⟨answer.withoutBody, bad, fun d => ?_⟩
        simp only [Method.answer, told, Option.map_some]
      · refine .inr ⟨lobby, asked, .inr rfl, fun d => ?_⟩
        simp only [Method.answer, told]
        cases (d.resolve lobby).2 <;> rfl
    | other => exact .inl ⟨.methodNotAllowed, by decide, fun d => rfl⟩
  · exact .inl ⟨.notFound, by decide, fun d => if_neg routed⟩

/-- A request to the interface is answered by itself, or it places a lobby. -/
theorem api_cases {σ : Type} [Store σ] (method : Method) (target : Target) :
    (∃ answer, ∀ d : Desk σ π, api d method target = (d, some answer)) ∨
      ∃ lobby write, ∀ d : Desk σ π,
        api d method target = ((d.resolve lobby).1, (d.resolve lobby).2.answer? write) := by
  rcases api_places (π := π) method target with ⟨answer, _, told⟩ | ⟨lobby, _, _, told⟩
  · exact .inl ⟨answer, told⟩
  · exact .inr ⟨lobby, _, told⟩

end Placing

/-- The page that a request to the monitor reads, if it reads any. -/
def pageRead? (method : Method) (target : Target) : Option Page :=
  if method = .other then none else Page.ofPath? target.path

theorem monitor_reads {σ : Type} [Store σ] (stamp : String) (s : Service σ) (method : Method)
    (target : Target) :
    (monitor stamp s method target).1 =
      match pageRead? method target with
      | some page => (readPage stamp s page).1
      | none => s := by
  unfold monitor pageRead?
  cases method with
  | get | head =>
    rw [if_neg (by decide)]
    cases Page.ofPath? target.path <;> rfl
  | other =>
    rw [if_pos rfl]
    cases Page.ofPath? target.path <;> rfl

end Http

end LobbyPlacement

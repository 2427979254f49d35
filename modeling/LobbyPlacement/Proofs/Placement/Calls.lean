import LobbyPlacement.Proofs.Placement.Agreement
import LobbyPlacement.Proofs.Placement.Books
import LobbyPlacement.Proofs.Placement.Counting
import LobbyPlacement.Proofs.Placement.Errands

/-!
# The calls of a request

What one request asks of a store that may answer anything, and what it posts. `Asks` lists the
transcripts a request may leave, each with the outcome it leads to; `Asking` says where a request
stands after what it has asked so far, one step keeps it so, and `requests_keep_to_their_calls` is
what follows for a whole request.
-/

namespace LobbyPlacement

/-- The write that makes a placement. -/
def WriteMode.write (lobby server : String) : WriteMode → StoreCall
  | createIfAbsent => .putIfAbsent lobby server
  | lastWriteWins => .put lobby server

namespace Placement

/-- What a request that came too late answers, from its read of what is stored. -/
def adoption (lobby : String) : Except Fault (Option String) → Outcome
  | .error fault => .error fault
  | .ok none => .error (vanished lobby)
  | .ok (some server) => .ok (.adopted server)

end Placement

/-- What a request asks once it has chosen a server, and the outcome: one write, and one read more
if the write was conditional and has not been made. -/
inductive Writes (lobby server : String) : WriteMode → List Asked → Outcome → Prop
  | failed (mode : WriteMode) (fault : Fault) :
      Writes lobby server mode [⟨mode.write lobby server, .error fault⟩] (.error fault)
  | claimed : Writes lobby server .createIfAbsent [⟨.putIfAbsent lobby server, .ok true⟩]
      (.ok (.created server))
  | refused (reply : Except Fault (Option String)) :
      Writes lobby server .createIfAbsent
        [⟨.putIfAbsent lobby server, .ok false⟩, .read lobby reply] (Placement.adoption lobby reply)
  | overwrote : Writes lobby server .lastWriteWins [⟨.put lobby server, .ok ()⟩]
      (.ok (.created server))

/-- What a request asks when it has missed its lobby, and the outcome: a count, and if that succeeds
a write of the first server with the fewest lobbies. -/
inductive Places (rules : Rules) (lobby : String) : List Asked → Outcome → Prop
  | uncounted {asked : List Asked} {fault : Fault}
      (account : Account rules.pool.servers asked (.error fault)) :
      Places rules lobby asked (.error fault)
  | written {asked writes : List Asked} {loads : List Load} {best : Load} {outcome : Outcome}
      (account : Account rules.pool.servers asked (.ok loads)) (first : best.FirstLeast loads)
      (wrote : Writes lobby best.server rules.mode writes outcome) :
      Places rules lobby (asked ++ writes) outcome

/-- All that a request asks, and its outcome. -/
inductive Asks (rules : Rules) (lobby : String) : List Asked → Outcome → Prop
  | blank (blank : Text.isBlankText lobby = true) :
      Asks rules lobby [] (.error Placement.blankLobby)
  | unread (proper : Text.isBlankText lobby = false) (fault : Fault) :
      Asks rules lobby [.read lobby (.error fault)] (.error fault)
  | found (proper : Text.isBlankText lobby = false) (server : String) :
      Asks rules lobby [.read lobby (.ok (some server))] (.ok (.found server))
  | missed (proper : Text.isBlankText lobby = false) {asked : List Asked} {outcome : Outcome}
      (places : Places rules lobby asked outcome) :
      Asks rules lobby (.read lobby (.ok none) :: asked) outcome

/-- The write that a call has made, by its answer. -/
def Asked.committed (a : Asked) : List (String × String) := a.call.committed a.reply

/-- The write that an outcome owes to the request itself. -/
def Outcome.deed (lobby : String) : Outcome → List (String × String)
  | .ok (.created server) => [(lobby, server)]
  | _ => []

theorem Outcome.deed_eq_iff {lobby server : String} {outcome : Outcome} :
    outcome.deed lobby = [(lobby, server)] ↔ outcome = .ok (.created server) := by
  rcases outcome with fault | placed
  · simp [deed]
  · cases placed <;> simp [deed]

theorem Account.committed {servers : List String} {asked : List Asked}
    {result : Except Fault (List Load)} (account : Account servers asked result) :
    asked.flatMap Asked.committed = [] := by
  have answered : ∀ reads : List (String × Option String),
      (reads.map Asked.answered).flatMap Asked.committed = [] := by
    intro reads
    rw [List.flatMap_eq_nil_iff]
    intro a member
    obtain ⟨pair, _, rfl⟩ := List.mem_map.mp member
    rfl
  cases account with
  | whole reads => exact answered reads
  | unlisted fault => rfl
  | interrupted reads fault rest => exact answered reads
  | unread reads key fault rest =>
    rw [List.cons_append, List.flatMap_cons, List.flatMap_append, answered]
    rfl

theorem Writes.committed {lobby server : String} {mode : WriteMode} {asked : List Asked}
    {outcome : Outcome} (wrote : Writes lobby server mode asked outcome) :
    asked.flatMap Asked.committed = outcome.deed lobby := by
  cases wrote with
  | failed mode fault => cases mode <;> rfl
  | claimed => rfl
  | refused reply => rcases reply with _ | _ | _ <;> rfl
  | overwrote => rfl

theorem Asks.committed {rules : Rules} {lobby : String} {asked : List Asked} {outcome : Outcome}
    (asks : Asks rules lobby asked outcome) :
    asked.flatMap Asked.committed = outcome.deed lobby := by
  cases asks with
  | blank | unread | found => rfl
  | missed proper places =>
    cases places with
    | uncounted account => exact account.committed
    | written account first wrote =>
      rw [List.flatMap_cons, List.flatMap_append, account.committed, wrote.committed]
      rfl

/-- What a request has asked and posted when it has come to stand here. -/
inductive Asking (rules : Rules) (lobby : String) :
    List Asked → List Posting → Progress → Prop
  | looking (proper : Text.isBlankText lobby = false) :
      Asking rules lobby [] [] (.waiting .looking)
  | listing (proper : Text.isBlankText lobby = false) :
      Asking rules lobby [.read lobby (.ok none)] [] (.waiting .listing)
  | counting (proper : Text.isBlankText lobby = false) {asked : List Asked} {census : Census}
      (heard : Tally.Heard rules.pool.servers asked (.reading census)) :
      Asking rules lobby (.read lobby (.ok none) :: asked) [] (.waiting (.counting census))
  | writing (proper : Text.isBlankText lobby = false) {asked : List Asked} {loads : List Load}
      {best : Load} (account : Account rules.pool.servers asked (.ok loads))
      (first : best.FirstLeast loads) :
      Asking rules lobby (.read lobby (.ok none) :: asked) []
        (.waiting (Placement.writing rules.mode best.server))
  | adopting (proper : Text.isBlankText lobby = false) {asked : List Asked} {loads : List Load}
      {best : Load} (account : Account rules.pool.servers asked (.ok loads))
      (first : best.FirstLeast loads) (mode : rules.mode = .createIfAbsent) :
      Asking rules lobby
        (.read lobby (.ok none) :: (asked ++ [⟨.putIfAbsent lobby best.server, .ok false⟩])) []
        (.waiting .adopting)
  | announcing {asked : List Asked} {server : String}
      (asks : Asks rules lobby asked (.ok (.created server))) :
      Asking rules lobby asked [] (.waiting (.announcing server))
  | answered {asked : List Asked} {outcome : Outcome} (asks : Asks rules lobby asked outcome)
      (old : ∀ server, outcome ≠ .ok (.created server)) :
      Asking rules lobby asked [] (.answered outcome)
  | announced {asked : List Asked} {server : String} {attempt : Attempt}
      (asks : Asks rules lobby asked (.ok (.created server)))
      (survived : ∀ after, attempt ≠ .crashed after) :
      Asking rules lobby asked
        [⟨rules.channel, (⟨lobby, server⟩ : Announcement).encode, attempt⟩]
        (.answered (.ok (.created server)))
  | crashed {asked : List Asked} {server : String} {after : Nat}
      (asks : Asks rules lobby asked (.ok (.created server))) :
      Asking rules lobby asked
        [⟨rules.channel, (⟨lobby, server⟩ : Announcement).encode, .crashed after⟩] .crashed

/-- A request that owes no write is answered at once. -/
theorem Asking.settled {rules : Rules} {lobby : String} {asked : List Asked} {outcome : Outcome}
    (asks : Asks rules lobby asked outcome) (no_deed : outcome.deed lobby = []) :
    Asking rules lobby asked [] (.answered outcome) := by
  refine .answered asks ?_
  rintro server rfl
  cases no_deed

theorem Asking.of_announcing {rules : Rules} {lobby server : String} {asked : List Asked}
    {posted : List Posting}
    (asking : Asking rules lobby asked posted (.waiting (.announcing server))) :
    posted = [] ∧ Asks rules lobby asked (.ok (.created server)) := by
  generalize standing : Progress.waiting (.announcing server) = progress at asking
  cases asking with
  | announcing asks =>
    cases standing
    exact ⟨rfl, asks⟩
  | writing =>
    have stages := congrArg Phase.stage (Progress.waiting.inj standing)
    rw [Placement.stage_writing] at stages
    cases stages
  | _ => cases standing

namespace Placement

variable {rules : Rules} {lobby : String}

theorem asking_start (rules : Rules) (lobby : String) :
    Asking rules lobby [] [] (start lobby).progress := by
  unfold start checkLobby
  cases blank : Text.isBlankText lobby with
  | false => exact .looking blank
  | true => exact .settled (.blank blank) rfl

theorem asking_afterTally (proper : Text.isBlankText lobby = false) {asked : List Asked}
    {tally : Tally} (heard : Tally.Heard rules.pool.servers asked tally) :
    Asking rules lobby (.read lobby (.ok none) :: asked) [] (afterTally rules tally).progress := by
  cases heard with
  | reading reads key rest => exact .counting proper (.reading reads key rest)
  | failed account => exact .settled (.missed proper (.uncounted account)) rfl
  | @counted _ loads account =>
    obtain ⟨best, least, first⟩ := Load.firstLeast_least (account.ne_nil rules.pool.nonempty)
    simp only [afterTally, least]
    exact .writing proper account first

end Placement

/-- The entry that an effect leaves in the transcript. -/
def Effect.heard : (e : Effect) → e.Reply → List Asked
  | .store call, reply => [⟨call, reply⟩]
  | .announce _, _ => []

theorem Placement.asking_resume {rules : Rules} {lobby : String} {asked : List Asked}
    {posted : List Posting} {phase : Phase}
    (asking : Asking rules lobby asked posted (.waiting phase))
    (calls : ∀ server, phase ≠ .announcing server) (reply : (phase.effect lobby).Reply) :
    Asking rules lobby (asked ++ (phase.effect lobby).heard reply) posted
      (resume rules lobby phase reply).progress := by
  cases asking with
  | looking proper =>
    rcases reply with fault | _ | server
    · exact .settled (.unread proper fault) rfl
    · exact .listing proper
    · exact .settled (.found proper server) rfl
  | listing proper => exact asking_afterTally proper (Tally.heard_ofListing _ reply)
  | counting proper heard => exact asking_afterTally proper (Tally.heard_read heard reply)
  | writing proper account first =>
    obtain ⟨pool, mode, channel, limit⟩ := rules
    cases mode with
    | createIfAbsent =>
      rcases reply with fault | _ | _
      · exact .settled (.missed proper (.written account first (.failed _ fault))) rfl
      · exact .adopting proper account first rfl
      · exact .announcing (.missed proper (.written account first .claimed))
    | lastWriteWins =>
      rcases reply with fault | _
      · exact .settled (.missed proper (.written account first (.failed _ fault))) rfl
      · exact .announcing (.missed proper (.written account first .overwrote))
  | @adopting proper counted loads best account first mode =>
    have asks : Asks rules lobby (.read lobby (.ok none) ::
        (counted ++ [⟨.putIfAbsent lobby best.server, .ok false⟩, .read lobby reply]))
        (adoption lobby reply) := by
      refine .missed proper (.written account first ?_)
      rw [mode]
      exact .refused reply
    have transcript : .read lobby (.ok none) ::
        (counted ++ [⟨.putIfAbsent lobby best.server, .ok false⟩, .read lobby reply]) =
        (.read lobby (.ok none) :: (counted ++ [⟨.putIfAbsent lobby best.server, .ok false⟩])) ++
          (Phase.adopting.effect lobby).heard reply := by
      simp [Effect.heard, Phase.effect, Asked.read]
    rw [transcript] at asks
    rcases reply with fault | _ | server <;> exact .settled asks rfl
  | announcing asks => exact (calls _ rfl).elim

theorem Placement.asking_delivered {rules : Rules} {lobby server : String} {asked : List Asked}
    (asks : Asks rules lobby asked (.ok (.created server))) (attempt : Attempt) (limit : Nat) :
    Asking rules lobby asked
      [⟨rules.channel, (⟨lobby, server⟩ : Announcement).encode, attempt⟩]
      (resume rules lobby (.announcing server) (attempt.delivery limit)).progress := by
  cases delivered : attempt.delivery limit with
  | crashed =>
    obtain ⟨after, rfl⟩ := Attempt.crashed_of_delivery delivered
    exact .crashed asks
  | confirmed =>
    refine .announced asks ?_
    rintro after rfl
    cases delivered
  | unconfirmed =>
    refine .announced asks ?_
    rintro after rfl
    cases delivered

/-- What a request has asked and posted when it has left, and how it left. -/
theorem Asking.ended {rules : Rules} {lobby : String} {asked : List Asked} {posted : List Posting}
    {leaving : Desk.Leaving} (asking : Asking rules lobby asked posted leaving.progress) :
    ∃ outcome, Asks rules lobby asked outcome ∧
      posted.map (fun p => (p.channel, p.payload)) = (outcome.deed lobby).map (fun write =>
        (rules.channel, (⟨write.1, write.2⟩ : Announcement).encode)) ∧
      (leaving = .answered outcome ∧ (∀ p ∈ posted, ∀ after, p.attempt ≠ .crashed after) ∨
        leaving = .crashed ∧ ∃ p ∈ posted, ∃ after, p.attempt = .crashed after) := by
  cases leaving with
  | answered outcome =>
    refine ⟨outcome, ?_⟩
    cases asking with
    | answered asks old =>
      have nothing : outcome.deed lobby = [] := by
        rcases outcome with fault | placed
        · rfl
        · cases placed with
          | created server => exact (old server rfl).elim
          | found server => rfl
          | adopted server => rfl
      rw [nothing]
      exact ⟨asks, rfl, .inl ⟨rfl, by simp⟩⟩
    | announced asks survived =>
      refine ⟨asks, by simp only [Outcome.deed, List.map_cons, List.map_nil], .inl ⟨rfl, ?_⟩⟩
      intro p posted
      obtain rfl := List.mem_singleton.mp posted
      exact survived
  | crashed =>
    cases asking with
    | @crashed _ server after asks =>
      refine ⟨.ok (.created server), asks, by simp only [Outcome.deed, List.map_cons, List.map_nil],
        .inr ⟨rfl, _, List.mem_singleton_self _, after, rfl⟩⟩

namespace Desk

variable {σ π : Type}

/-- A desk that is overheard, with its publisher, from now on. -/
def heard (d : Desk σ π) : Desk (Overheard σ) (Logged π) :=
  ⟨d.rules, .fresh d.store, ⟨d.publisher, []⟩, d.now, d.stats, d.metrics⟩

/-- The desk behind one that is overheard. -/
def unheard (d : Desk (Overheard σ) (Logged π)) : Desk σ π := d.view Overheard.inner Logged.inner

variable [Store σ] [Publisher π]

theorem unheard_resolve (d : Desk (Overheard σ) (Logged π)) (lobby : String) :
    d.unheard.resolve lobby = ((d.resolve lobby).1.unheard, (d.resolve lobby).2) :=
  view_resolve Overheard.inner_perform (fun _ _ _ _ _ => rfl) d lobby

/-- An effect leaves its entry in the transcript, and only an announcement is posted. -/
theorem carryOut_heard (d : Desk (Overheard σ) (Logged π)) (e : Effect) :
    (d.carryOut e).1.store.asked = d.store.asked ++ e.heard (d.carryOut e).2 ∧
      ((∀ a, e ≠ .announce a) → (d.carryOut e).1.publisher = d.publisher) := by
  cases e with
  | store call => exact ⟨rfl, fun _ => rfl⟩
  | announce a =>
    refine ⟨?_, fun silent => (silent a rfl).elim⟩
    have kept : (d.carryOut (.announce a)).1.store = d.store := (d.announce_frame a).2
    rw [kept]
    exact (List.append_nil _).symm

/-- The step that announces a server posts once, and ends the request. -/
theorem asking_announced (d : Desk (Overheard σ) (Logged π)) {lobby server : String}
    (started : Nat) (silent : d.publisher.log = [])
    (asks : Asks d.rules lobby d.store.asked (.ok (.created server))) :
    let next := d.step ⟨lobby, started, .announcing server⟩
    Asking d.rules lobby next.1.store.asked next.1.publisher.log next.2 := by
  simp only [step, recordAll_store, recordAll_publisher, carryOut, Phase.effect, announce_eq]
  show Asking d.rules lobby d.store.asked (d.publisher.log ++ [_]) _
  rw [silent]
  exact Placement.asking_delivered asks _ _

theorem asking_step (d : Desk (Overheard σ) (Logged π)) {lobby : String} (started : Nat)
    {phase : Phase}
    (asking : Asking d.rules lobby d.store.asked d.publisher.log (.waiting phase)) :
    let next := d.step ⟨lobby, started, phase⟩
    Asking d.rules lobby next.1.store.asked next.1.publisher.log next.2 := by
  by_cases announces : ∃ server, phase = .announcing server
  · obtain ⟨server, rfl⟩ := announces
    obtain ⟨silent, asks⟩ := asking.of_announcing
    exact asking_announced d started silent asks
  · have calls : ∀ server, phase ≠ .announcing server := not_exists.mp announces
    obtain ⟨asked, posted⟩ := d.carryOut_heard (phase.effect lobby)
    have silent : ∀ a, phase.effect lobby ≠ .announce a := by
      cases phase with
      | announcing server => exact (calls server rfl).elim
      | looking | listing | counting _ | claiming _ | overwriting _ | adopting => exact nofun
    simp only [step, recordAll_store, recordAll_publisher, carryOut_rules, asked, posted silent]
    exact Placement.asking_resume asking calls _

theorem asking_finish (d : Desk (Overheard σ) (Logged π)) {lobby : String} (started : Nat)
    {p : Progress} (asking : Asking d.rules lobby d.store.asked d.publisher.log p) :
    let ended := d.finish lobby started p
    Asking d.rules lobby ended.1.store.asked ended.1.publisher.log ended.2.progress := by
  fun_induction d.finish lobby started p with
  | case1 d outcome => exact asking
  | case2 d => exact asking
  | case3 d phase next ih =>
    have later := asking_step d started asking
    rw [← step_rules d ⟨lobby, started, phase⟩] at later ⊢
    exact ih later

theorem asking_resolve (d : Desk σ π) (lobby : String) :
    let resolved := d.heard.resolve lobby
    Asking d.rules lobby resolved.1.store.asked resolved.1.publisher.log resolved.2.progress := by
  have kept : (d.heard.begin lobby).1.rules = d.rules := recordAll_rules ..
  have begun : Asking (d.heard.begin lobby).1.rules lobby (d.heard.begin lobby).1.store.asked
      (d.heard.begin lobby).1.publisher.log (d.heard.begin lobby).2 := by
    simp only [begin, recordAll_rules, recordAll_store, recordAll_publisher]
    exact Placement.asking_start d.rules lobby
  have asking := asking_finish (d.heard.begin lobby).1 d.now begun
  rwa [kept] at asking

/-- One request, at a store that may answer anything and with any publisher. It asks only what
`Asks` lists, in that order and no more, and its outcome is the one listed with it. That is a new
placement exactly if its write was answered with success; then it posts exactly that placement,
once, and otherwise nothing. It is answered with this outcome, unless the publisher crashes under
that post and the request is lost. -/
theorem requests_keep_to_their_calls (d : Desk σ π) (lobby : String) :
    let resolved := d.heard.resolve lobby
    let asked := resolved.1.store.asked
    let posted := resolved.1.publisher.log
    d.resolve lobby = (resolved.1.unheard, resolved.2) ∧
    ∃ outcome, Asks d.rules lobby asked outcome ∧
      (∀ server, outcome = .ok (.created server) ↔
        asked.flatMap Asked.committed = [(lobby, server)]) ∧
      posted.map (fun p => (p.channel, p.payload)) =
        (asked.flatMap Asked.committed).map (fun write =>
          (d.rules.channel, (⟨write.1, write.2⟩ : Announcement).encode)) ∧
      (resolved.2 = .answered outcome ∧ (∀ p ∈ posted, ∀ after, p.attempt ≠ .crashed after) ∨
        resolved.2 = .crashed ∧ ∃ p ∈ posted, ∃ after, p.attempt = .crashed after) := by
  intro resolved asked posted
  have asking : Asking d.rules lobby asked posted resolved.2.progress := d.asking_resolve lobby
  obtain ⟨outcome, asks, owed, left⟩ := asking.ended
  rw [← asks.committed] at owed
  refine ⟨d.heard.unheard_resolve lobby, outcome, asks, fun server => ?_, owed, left⟩
  rw [asks.committed, Outcome.deed_eq_iff]

/-- A desk whose store lists one other lobby, on the first of two servers. -/
def neighbourDesk : Desk ScriptedStore Recorder :=
  .opening (.standard .two)
    { ScriptedStore.ofMemory .empty with
      script := { Script.empty with
        gets := [.answer none, .answer (some "A")]
        scans := [.answer [.ok "K"]] } }
    .empty

/-- A request that misses its lobby reads all listed ones, writes the server with the fewest, and
posts that. -/
theorem placement_beside_a_neighbour :
    let resolved := neighbourDesk.heard.resolve "L"
    resolved.1.store.asked.map Asked.call =
        [.get "L", .scan "*", .get "K", .putIfAbsent "L" "B"] ∧
      resolved.2 = .answered (.ok (.created "B")) ∧
      resolved.1.publisher.log.map (fun p => (p.channel, p.payload)) =
        [("game_servers", (⟨"L", "B"⟩ : Announcement).encode)] := by
  have ended : (finishWithin "L" 0 6 neighbourDesk.heard (.waiting .looking)).map (fun left =>
      (left.1.store.asked.map Asked.call, left.1.store.asked.flatMap Asked.committed,
        left.2 matches .crashed)) =
      some ([.get "L", .scan "*", .get "K", .putIfAbsent "L" "B"], [("L", "B")], false) := by
    decide +kernel
  obtain ⟨left, within, seen⟩ := Option.map_eq_some_iff.mp ended
  obtain ⟨calls, wrote, kept⟩ : _ ∧ _ ∧ _ := by simpa only [Prod.mk.injEq] using seen
  have resolved : neighbourDesk.heard.resolve "L" = left := finish_of_within within
  obtain ⟨_, outcome, _, created, posted, answered⟩ :=
    requests_keep_to_their_calls neighbourDesk "L"
  rw [resolved] at created posted answered ⊢
  rw [wrote] at created posted
  refine ⟨calls, ?_, posted⟩
  rcases answered with ⟨answered, _⟩ | ⟨lost, _⟩
  · rw [answered, (created "B").mpr rfl]
  · rw [lost] at kept
    cases kept

/-- A write that was made is not answered as a new placement if the publisher crashes, and the
refusal of a blank lobby is no answer of the store. -/
theorem crash_hides_a_placement :
    (¬ ∀ (d : Desk MemoryStore Bus) (lobby : String),
      let resolved := d.heard.resolve lobby
      (∃ server, resolved.2 = .answered (.ok (.created server))) ↔
        resolved.1.store.asked.flatMap Asked.committed ≠ []) ∧
    ¬ ∀ (d : Desk MemoryStore Bus) (lobby : String) (fault : Fault),
      let resolved := d.heard.resolve lobby
      resolved.2 = .answered (.error fault) → fault = Placement.vanished lobby ∨
        fault ∈ resolved.1.store.asked.flatMap Asked.faults := by
  constructor
  · intro claim
    have ended : (finishWithin "L" 0 6 Hall.crashDesk.heard (.waiting .looking)).map (fun left =>
        (left.1.store.asked.flatMap Asked.committed, left.2 matches .crashed)) =
        some ([("L", "A")], true) := by decide +kernel
    obtain ⟨left, within, seen⟩ := Option.map_eq_some_iff.mp ended
    obtain ⟨wrote, lost⟩ := Prod.mk.inj seen
    have resolved : Hall.crashDesk.heard.resolve "L" = left := finish_of_within within
    have named := claim Hall.crashDesk "L"
    dsimp only at named
    rw [resolved, wrote] at named
    obtain ⟨server, answered⟩ := named.mpr (List.cons_ne_nil _ _)
    rw [answered] at lost
    cases lost
  · intro claim
    have refused : Hall.crashDesk.heard.resolve "" = (Hall.crashDesk.heard.begin "").1.finish "" 0
        (.answered (.error Placement.blankLobby)) := rfl
    have named := claim Hall.crashDesk "" Placement.blankLobby
    dsimp only at named
    rw [refused, finish] at named
    rcases named rfl with vanished | met
    · cases vanished
    · cases met

end Desk

end LobbyPlacement

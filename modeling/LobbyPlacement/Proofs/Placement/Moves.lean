import LobbyPlacement.Placement.Desk
import LobbyPlacement.Proofs.Placement.Tally

/-!
# What one step of a request can do

A request at a desk waits for one effect at a time. `Moves` lists what can come of that effect when
the store keeps a table: the table afterwards and where the request stands then. `step_moves` says
that nothing else happens, so every fact about runs of requests is a case analysis on `Moves`.
-/

namespace LobbyPlacement

/-- One for what is so, as a count of a single element has it. -/
theorem toNat_eq_ite (b : Bool) : b.toNat = if b then 1 else 0 := by
  cases b <;> rfl

namespace Attempt

/-- How long a request stays with an attempt. -/
def spent (limit : Nat) : Attempt → Nat
  | crashed after => after
  | pending => limit
  | settled after _ => if after ≤ limit then after else limit

/-- What a request takes from an attempt. -/
def delivery (limit : Nat) : Attempt → Delivery
  | crashed _ => .crashed
  | pending => .unconfirmed
  | settled after (.ok _) => if after ≤ limit then .confirmed else .unconfirmed
  | settled _ (.error _) => .unconfirmed

end Attempt

namespace Desk

variable {σ π : Type}

/-! ### What counting leaves alone -/

theorem recordAll_frame (d : Desk σ π) (started : Nat) (notes : List Note) :
    (d.recordAll started notes).rules = d.rules ∧ (d.recordAll started notes).store = d.store ∧
      (d.recordAll started notes).publisher = d.publisher ∧
      (d.recordAll started notes).now = d.now := by
  unfold recordAll
  induction notes generalizing d with
  | nil => exact ⟨rfl, rfl, rfl, rfl⟩
  | cons note rest ih => exact ih (d.record started note)

@[simp]
theorem recordAll_rules (d : Desk σ π) (started : Nat) (notes : List Note) :
    (d.recordAll started notes).rules = d.rules := (recordAll_frame d started notes).1

@[simp]
theorem recordAll_store (d : Desk σ π) (started : Nat) (notes : List Note) :
    (d.recordAll started notes).store = d.store := (recordAll_frame d started notes).2.1

@[simp]
theorem recordAll_publisher (d : Desk σ π) (started : Nat) (notes : List Note) :
    (d.recordAll started notes).publisher = d.publisher := (recordAll_frame d started notes).2.2.1

@[simp]
theorem recordAll_now (d : Desk σ π) (started : Nat) (notes : List Note) :
    (d.recordAll started notes).now = d.now := (recordAll_frame d started notes).2.2.2

/-! ### What an announcement does -/

/-- An announcement changes the publisher and takes time, and nothing else. -/
theorem announce_eq [Publisher π] (d : Desk σ π) (a : Announcement) :
    d.announce a =
      let limit := d.rules.announceLimit
      let (publisher, attempt) := Publisher.publish d.publisher d.now limit d.rules.channel a.encode
      ({ d with publisher := publisher, now := d.now + attempt.spent limit },
        attempt.delivery limit) := by
  unfold announce
  dsimp only
  generalize Publisher.publish d.publisher d.now d.rules.announceLimit d.rules.channel a.encode =
    published
  obtain ⟨publisher, attempt⟩ := published
  cases attempt with
  | crashed after => rfl
  | pending => rfl
  | settled after result =>
    by_cases early : after ≤ d.rules.announceLimit
    · cases result <;> simp only [Attempt.spent, Attempt.delivery, early, if_true]
    · cases result <;> simp only [Attempt.spent, Attempt.delivery, early, if_false]

theorem announce_frame [Publisher π] (d : Desk σ π) (a : Announcement) :
    (d.announce a).1.rules = d.rules ∧ (d.announce a).1.store = d.store := by
  rw [announce_eq]
  exact ⟨rfl, rfl⟩

theorem announce_publisher [Publisher π] (d : Desk σ π) (a : Announcement) :
    (d.announce a).1.publisher =
      (Publisher.publish d.publisher d.now d.rules.announceLimit d.rules.channel a.encode).1 := by
  rw [announce_eq]

@[simp]
theorem carryOut_rules [Store σ] [Publisher π] (d : Desk σ π) (e : Effect) :
    (d.carryOut e).1.rules = d.rules := by
  cases e with
  | store call => rfl
  | announce a => exact (announce_frame d a).1

@[simp]
theorem step_rules [Store σ] [Publisher π] (d : Desk σ π) (t : Ticket) :
    (d.step t).1.rules = d.rules := by
  simp only [step, recordAll_rules, carryOut_rules]

/-! ### Runs of known length -/

/-- A request brought to its end in at most so many steps. -/
def finishWithin [Store σ] [Publisher π] (lobby : String) (started : Nat) :
    Nat → Desk σ π → Progress → Option (Desk σ π × Leaving)
  | _, d, .answered outcome => some (d, .answered outcome)
  | _, d, .crashed => some (d, .crashed)
  | 0, _, .waiting _ => none
  | steps + 1, d, .waiting phase =>
    let next := d.step ⟨lobby, started, phase⟩
    finishWithin lobby started steps next.1 next.2

theorem finish_of_within [Store σ] [Publisher π] {lobby : String} {started steps : Nat}
    {d : Desk σ π} {p : Progress} {left : Desk σ π × Leaving}
    (ended : finishWithin lobby started steps d p = some left) :
    d.finish lobby started p = left := by
  fun_induction finishWithin lobby started steps d p with
  | case1 steps d outcome =>
    rw [finish]
    exact Option.some.inj ended
  | case2 steps d =>
    rw [finish]
    exact Option.some.inj ended
  | case3 d phase => cases ended
  | case4 d steps phase next =>
    rename_i ih
    rw [finish]
    exact ih ended

end Desk

/-- What the effect of a waiting request may lead to, from the table of a store: the table
afterwards, and where the request stands. -/
inductive Moves {σ : Type} [Store σ] [Ledger σ] (rules : Rules) (lobby : String) (s : σ) :
    Phase → Table → Progress → Prop
  | failed {phase : Phase} {call : StoreCall} {fault : Fault}
      (asked : phase.effect lobby = .store call)
      (failing : (Store.perform s call).2 = .error fault) :
      Moves rules lobby s phase (Ledger.table s) (.answered (.error fault))
  | hit {server : String} (stored : (Ledger.table s).value? lobby = some server) :
      Moves rules lobby s .looking (Ledger.table s) (.answered (.ok (.found server)))
  | missed (absent : (Ledger.table s).value? lobby = none) :
      Moves rules lobby s .looking (Ledger.table s) (.waiting .listing)
  | listed {listing : List (Except Fault String)}
      (answered : (Store.perform s (.scan everyKey)).2 = .ok listing) :
      Moves rules lobby s .listing (Ledger.table s)
        (Placement.afterTally rules (.before (Load.zero rules.pool.servers) listing)).progress
  | counted {census : Census} :
      Moves rules lobby s (.counting census) (Ledger.table s)
        (Placement.afterTally rules
          (census.read (.ok ((Ledger.table s).value? census.key)))).progress
  | claimed {server : String} (absent : (Ledger.table s).value? lobby = none) :
      Moves rules lobby s (.claiming server) ((Ledger.table s).insert lobby server)
        (.waiting (.announcing server))
  | refused {server : String} (stored : ((Ledger.table s).value? lobby).isSome) :
      Moves rules lobby s (.claiming server) (Ledger.table s) (.waiting .adopting)
  | overwrote {server : String} :
      Moves rules lobby s (.overwriting server) ((Ledger.table s).insert lobby server)
        (.waiting (.announcing server))
  | adopted {server : String} (stored : (Ledger.table s).value? lobby = some server) :
      Moves rules lobby s .adopting (Ledger.table s) (.answered (.ok (.adopted server)))
  | vanished (absent : (Ledger.table s).value? lobby = none) :
      Moves rules lobby s .adopting (Ledger.table s)
        (.answered (.error (Placement.vanished lobby)))
  | announced {server : String} :
      Moves rules lobby s (.announcing server) (Ledger.table s) (.answered (.ok (.created server)))
  | crashed {server : String} :
      Moves rules lobby s (.announcing server) (Ledger.table s) .crashed

/-- What an effect may bring back from a store: to a call, a reply that its table allows. -/
def Brings {σ : Type} [Store σ] [Ledger σ] (s : σ) : (e : Effect) → e.Reply → Table → Prop
  | .store call, reply, t =>
    (Store.perform s call).2 = reply ∧ Answers (Ledger.table s) call reply t
  | .announce _, _, t => t = Ledger.table s

theorem resume_moves {σ : Type} [Store σ] [Ledger σ] {rules : Rules} {lobby : String} {s : σ}
    {phase : Phase} {reply : (phase.effect lobby).Reply} {t : Table}
    (brought : Brings s (phase.effect lobby) reply t) :
    Moves rules lobby s phase t (Placement.resume rules lobby phase reply).progress := by
  cases phase with
  | looking =>
    obtain ⟨replied, answer⟩ := brought
    cases answer with
    | failed _ fault => exact .failed rfl replied
    | read =>
      cases stored : (Ledger.table s).value? lobby with
      | none => exact .missed stored
      | some server => exact .hit stored
  | listing =>
    obtain ⟨replied, answer⟩ := brought
    cases answer with
    | failed _ fault => exact .failed rfl replied
    | listed _ listing => exact .listed replied
  | counting census =>
    obtain ⟨replied, answer⟩ := brought
    cases answer with
    | failed _ fault => exact .failed rfl replied
    | read => exact .counted
  | claiming server =>
    obtain ⟨replied, answer⟩ := brought
    cases answer with
    | failed _ fault => exact .failed rfl replied
    | claimed _ _ absent => exact .claimed absent
    | refused _ _ stored => exact .refused stored
  | overwriting server =>
    obtain ⟨replied, answer⟩ := brought
    cases answer with
    | failed _ fault => exact .failed rfl replied
    | overwritten => exact .overwrote
  | adopting =>
    obtain ⟨replied, answer⟩ := brought
    cases answer with
    | failed _ fault => exact .failed rfl replied
    | read =>
      cases stored : (Ledger.table s).value? lobby with
      | none => exact .vanished stored
      | some server => exact .adopted stored
  | announcing server =>
    obtain rfl : t = Ledger.table s := brought
    cases reply with
    | confirmed => exact .announced
    | unconfirmed => exact .announced
    | crashed => exact .crashed

/-- Every move is what a request makes of some reply. -/
theorem Moves.exists_reply {σ : Type} [Store σ] [Ledger σ] {rules : Rules} {lobby : String} {s : σ}
    {phase : Phase} {t : Table} {progress : Progress}
    (moves : Moves rules lobby s phase t progress) :
    ∃ reply : (phase.effect lobby).Reply,
      progress = (Placement.resume rules lobby phase reply).progress := by
  cases moves with
  | @failed _ _ fault asked =>
    cases phase with
    | looking | listing | counting | claiming | overwriting | adopting =>
      exact ⟨.error fault, rfl⟩
    | announcing => cases asked
  | @hit server => exact ⟨.ok (some server), rfl⟩
  | missed => exact ⟨.ok none, rfl⟩
  | @listed listing => exact ⟨.ok listing, rfl⟩
  | @counted census => exact ⟨.ok ((Ledger.table s).value? census.key), rfl⟩
  | claimed => exact ⟨.ok true, rfl⟩
  | refused => exact ⟨.ok false, rfl⟩
  | overwrote => exact ⟨.ok (), rfl⟩
  | @adopted server => exact ⟨.ok (some server), rfl⟩
  | vanished => exact ⟨.ok none, rfl⟩
  | announced => exact ⟨.confirmed, rfl⟩
  | crashed => exact ⟨.crashed, rfl⟩

namespace Desk

variable {σ π : Type} [Store σ] [Ledger σ] [Publisher π]

theorem carryOut_brings (d : Desk σ π) (e : Effect) :
    Brings d.store e (d.carryOut e).2 (Ledger.table (d.carryOut e).1.store) := by
  cases e with
  | store call => exact ⟨rfl, Ledger.answers d.store call⟩
  | announce a => exact congrArg Ledger.table (announce_frame d a).2

/-- One step of a request is one of its moves. -/
theorem step_moves (d : Desk σ π) (t : Ticket) :
    Moves d.rules t.lobby d.store t.phase (Ledger.table (d.step t).1.store) (d.step t).2 := by
  simp only [step, recordAll_store, carryOut_rules]
  exact resume_moves (carryOut_brings d (t.phase.effect t.lobby))

omit [Publisher π] in
/-- A lookup is one read of the table, which it leaves as it is, or fails. -/
theorem lookup_answer (d : Desk σ π) (lobby : String) :
    (d.lookup lobby).1.rules = d.rules ∧
      Ledger.table (d.lookup lobby).1.store = Ledger.table d.store ∧
      ∀ found, (d.lookup lobby).2 = .ok found → (Ledger.table d.store).value? lobby = found := by
  unfold lookup
  cases Placement.checkLobby lobby with
  | error fault => exact ⟨rfl, rfl, fun found h => by cases h⟩
  | ok =>
    have answer := Ledger.answers d.store (.get lobby)
    generalize Store.perform d.store (.get lobby) = replied at answer
    obtain ⟨s, reply⟩ := replied
    dsimp only at answer ⊢
    generalize Ledger.table s = t at answer
    cases answer with
    | failed => exact ⟨rfl, rfl, fun found h => by cases h⟩
    | read => exact ⟨rfl, rfl, fun found h => Except.ok.inj h⟩

end Desk

end LobbyPlacement

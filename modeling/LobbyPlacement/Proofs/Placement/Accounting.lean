import LobbyPlacement.Proofs.Placement.Office
import LobbyPlacement.Store.Scripted

/-!
# The counters add up

Every counter counts marks that requests have left, and a request leaves the marks of its way in
their order: it is counted as a hit, a placement or a lost race before it is counted as answered,
and a failure is counted when it is answered. `Slip.Coherent` says which marks a request has left
and still owes; `counters_add_up` adds them up over all requests, between any two updates.
-/

namespace LobbyPlacement

/-! ### What all entries of a list yield -/

section Union

variable {α β : Type} {f : α → List β}

/-- An entry that yields more adds this to what all entries yield. -/
theorem flatMap_set_perm {xs : List α} {number : Nat} {x next : α} {new : List β}
    (found : xs[number]? = some x) (grown : f next = f x ++ new) :
    ((xs.set number next).flatMap f).Perm (xs.flatMap f ++ new) := by
  induction xs generalizing number with
  | nil => cases found
  | cons first rest ih =>
    cases number with
    | zero =>
      obtain rfl := Option.some.inj found
      rw [List.set_cons_zero, List.flatMap_cons, List.flatMap_cons, grown, List.append_assoc,
        List.append_assoc]
      exact List.perm_append_comm.append_left _
    | succ number =>
      rw [List.set_cons_succ, List.flatMap_cons, List.flatMap_cons, List.append_assoc]
      exact (ih found).append_left _

theorem countP_flatMap_eq {xs : List α} {p : β → Bool} {q : α → Bool}
    (each : ∀ x ∈ xs, (f x).countP p = (q x).toNat) : (xs.flatMap f).countP p = xs.countP q := by
  induction xs with
  | nil => rfl
  | cons first rest ih =>
    have later := ih fun x member => each x (List.mem_cons_of_mem first member)
    rw [List.flatMap_cons, List.countP_append, later, each first List.mem_cons_self,
      List.countP_cons, Nat.add_comm]
    cases q first <;> rfl

end Union

/-! ### Marks -/

/-- What a note says to the counters: that the request has found or placed a server, how its
announcement went, or how it ended. -/
inductive Mark
  | settled (ending : Ending)
  | announced (confirmed : Bool)
  | answered (ending : Ending)
deriving DecidableEq

def Mark.isSettled : Mark → Bool
  | settled _ => true
  | _ => false

def Mark.isAnswered : Mark → Bool
  | answered _ => true
  | _ => false

def Note.mark? : Note → Option Mark
  | found => some (.settled .hit)
  | adopted => some (.settled .lostRace)
  | counted _ => none
  | created _ => some (.settled .created)
  | announced confirmed => some (.announced confirmed)
  | answered ending => some (.answered ending)

namespace Stats

/-- The counters after these marks. -/
def ofMarks (marks : List Mark) : Stats where
  requests := marks.countP Mark.isAnswered
  hits := marks.count (.settled .hit)
  created := marks.count (.settled .created)
  lostRaces := marks.count (.settled .lostRace)
  clientErrors := marks.count (.answered .clientError)
  failures := marks.count (.answered .storeError) + marks.count (.answered .failed)
  publishFailures := marks.count (.announced false)
  serializationFailures := 0

/-- The requests counted by how they ended: at once as hits, placements or lost races, or by the
answer. -/
def endings (s : Stats) : Nat :=
  s.hits + s.created + s.lostRaces + s.clientErrors + s.failures

theorem ofMarks_perm {first second : List Mark} (same : first.Perm second) :
    ofMarks first = ofMarks second := by
  simp only [ofMarks, same.countP_eq, same.count_eq]

theorem requests_append (first second : List Mark) :
    (ofMarks (first ++ second)).requests =
      (ofMarks first).requests + (ofMarks second).requests :=
  List.countP_append

theorem endings_append (first second : List Mark) :
    (ofMarks (first ++ second)).endings =
      (ofMarks first).endings + (ofMarks second).endings := by
  simp only [endings, ofMarks, List.count_append]
  omega

theorem record_ofMarks (marks : List Mark) (note : Note) :
    (ofMarks marks).record note = ofMarks (marks ++ note.mark?.toList) := by
  cases note with
  | found | adopted | counted _ | created _ =>
    simp [ofMarks, record, Note.mark?, List.count_append, List.countP_append, Mark.isAnswered]
  | announced confirmed =>
    cases confirmed <;>
      simp [ofMarks, record, Note.mark?, List.count_append, List.countP_append, Mark.isAnswered]
  | answered ending =>
    cases ending <;>
      simp [ofMarks, record, Note.mark?, List.count_append, List.countP_append, Mark.isAnswered,
        Nat.add_assoc, Nat.add_comm, Nat.add_left_comm]

end Stats

/-! ### Missed announcements -/

/-- The attempt has failed, or has not settled within the limit. -/
def Attempt.misses (limit : Nat) : Attempt → Bool
  | settled after (.ok _) => limit < after
  | settled _ (.error _) => true
  | pending => true
  | crashed _ => true

theorem Attempt.delivery_eq (limit : Nat) (attempt : Attempt) :
    attempt.delivery limit = .crashed ∨
      attempt.delivery limit = if attempt.misses limit then .unconfirmed else .confirmed := by
  cases attempt with
  | crashed after => exact .inl rfl
  | pending => exact .inr rfl
  | settled after result =>
    refine .inr ?_
    cases result with
    | error fault => rfl
    | ok =>
      by_cases early : after ≤ limit
      · simp [misses, delivery, early, Nat.not_lt_of_le early]
      · simp [misses, delivery, early, Nat.lt_of_not_le early]

/-! ### The marks of a request -/

/-- All marks of a request that stands here, left or still owed, in their order. -/
def Progress.account (missed : Bool) : Progress → List Mark
  | .waiting (.announcing _) => [.settled .created]
  | .waiting _ => []
  | .answered (.ok (.found _)) => [.settled .hit, .answered .hit]
  | .answered (.ok (.created _)) =>
    [.settled .created, .announced (!missed), .answered .created]
  | .answered (.ok (.adopted _)) => [.settled .lostRace, .answered .lostRace]
  | .answered (.error fault) => [.answered (Outcome.ending (.error fault))]
  | .crashed => [.settled .created]

/-- The notes of a move end with the answer, if it is one, and a lost request has none. -/
def Move.Closes (m : Move) : Prop :=
  match m.progress with
  | .waiting _ => True
  | .answered outcome => ∃ front, m.notes = front ++ [.answered outcome.ending]
  | .crashed => m.notes = []

namespace Placement

theorem account_afterTally (rules : Rules) (tally : Tally) (missed : Bool) :
    (afterTally rules tally).progress.account missed =
      (afterTally rules tally).notes.filterMap Note.mark? := by
  cases tally with
  | reading census => rfl
  | failed fault => rfl
  | counted loads =>
    simp only [afterTally]
    cases Load.least loads with
    | none => rfl
    | some load =>
      cases rules.mode with
      | createIfAbsent => rfl
      | lastWriteWins => rfl

theorem account_resume_call (rules : Rules) (lobby : String) {phase : Phase}
    (unwritten : (Progress.waiting phase).hasWritten = false)
    (reply : (phase.effect lobby).Reply) (missed : Bool) :
    (resume rules lobby phase reply).progress.account missed =
      (resume rules lobby phase reply).notes.filterMap Note.mark? := by
  cases phase with
  | looking => rcases reply with _ | _ | _ <;> rfl
  | listing => exact account_afterTally rules _ missed
  | counting census => exact account_afterTally rules _ missed
  | claiming server => rcases reply with _ | _ | _ <;> rfl
  | overwriting server => rcases reply with _ | _ <;> rfl
  | adopting => rcases reply with _ | _ | _ <;> rfl
  | announcing server => cases unwritten

theorem account_resume_delivery (rules : Rules) (lobby server : String) {delivery : Delivery}
    {missed : Bool}
    (delivered : delivery = .crashed ∨ delivery = if missed then .unconfirmed else .confirmed) :
    (resume rules lobby (.announcing server) delivery).progress.account missed =
      .settled .created ::
        (resume rules lobby (.announcing server) delivery).notes.filterMap Note.mark? := by
  rcases delivered with rfl | rfl
  · rfl
  · cases missed <;> rfl

/-- A request that is answered tells so last, and one that is lost tells nothing. -/
theorem closing_resume (rules : Rules) (lobby : String) (phase : Phase)
    (reply : (phase.effect lobby).Reply) :
    (resume rules lobby phase reply).Closes := by
  have tallied : ∀ tally, (afterTally rules tally).Closes := by
    intro tally
    cases tally with
    | reading census => trivial
    | failed fault => exact ⟨[], rfl⟩
    | counted loads =>
      simp only [afterTally]
      cases Load.least loads with
      | none => exact ⟨[.counted loads], rfl⟩
      | some load => trivial
  cases phase with
  | looking =>
    rcases reply with fault | _ | server
    · exact ⟨[], rfl⟩
    · trivial
    · exact ⟨[.found], rfl⟩
  | listing => exact tallied _
  | counting census => exact tallied _
  | claiming server =>
    rcases reply with fault | _ | _
    · exact ⟨[], rfl⟩
    · trivial
    · trivial
  | overwriting server =>
    rcases reply with fault | _
    · exact ⟨[], rfl⟩
    · trivial
  | adopting =>
    rcases reply with fault | _ | server
    · exact ⟨[], rfl⟩
    · exact ⟨[], rfl⟩
    · exact ⟨[.adopted], rfl⟩
  | announcing server =>
    cases reply with
    | confirmed => exact ⟨[.announced true], rfl⟩
    | unconfirmed => exact ⟨[.announced false], rfl⟩
    | crashed => rfl

end Placement

namespace Slip

/-- The marks that the request has left. -/
def marks (s : Slip) : List Mark := s.told.filterMap Note.mark?

/-- The request has been counted as a hit, a placement or a lost race. -/
def isCounted (s : Slip) : Bool := s.marks.any Mark.isSettled

/-- Its announcement has failed, or was not confirmed within the limit. -/
def missed (limit : Nat) (s : Slip) : Bool := s.attempt.any (Attempt.misses limit)

/-- The request has left and owes the marks of where it stands. An answered request owes, if
anything, its answer last, and a lost one owes nothing. -/
structure Coherent (limit : Nat) (s : Slip) : Prop where
  marks : s.marks ++ s.pending.filterMap Note.mark? = s.progress.account (s.missed limit)
  closing : match s.progress with
    | .waiting _ => True
    | .answered outcome => s.pending = [] ∨ ∃ front, s.pending = front ++ [.answered outcome.ending]
    | .crashed => s.pending = []

theorem coherent_start (limit : Nat) (lobby : String) (now : Nat) :
    Coherent limit ⟨lobby, now, [], (Placement.start lobby).notes,
      (Placement.start lobby).progress, none⟩ := by
  unfold Placement.start
  cases Placement.checkLobby lobby with
  | error fault => exact ⟨rfl, .inr ⟨[], rfl⟩⟩
  | ok => exact ⟨rfl, trivial⟩

theorem marks_tell (s : Slip) (note : Note) (rest : List Note) :
    (s.tell note rest).marks = s.marks ++ note.mark?.toList := by
  simp only [marks, tell, List.filterMap_append]
  cases told : note.mark? <;> simp [told]

theorem Coherent.tell {limit : Nat} {s : Slip} {note : Note} {rest : List Note}
    (coherent : s.Coherent limit) (next : s.pending = note :: rest) :
    (s.tell note rest).Coherent limit := by
  obtain ⟨marks, closing⟩ := coherent
  refine ⟨?_, ?_⟩
  · rw [marks_tell, List.append_assoc]
    refine Eq.trans ?_ marks
    rw [next]
    congr 1
    show note.mark?.toList ++ rest.filterMap Note.mark? = _
    rw [List.filterMap_cons]
    cases note.mark? <;> rfl
  · show match s.progress with
      | .waiting _ => True
      | .answered outcome => rest = [] ∨ ∃ front, rest = front ++ [.answered outcome.ending]
      | .crashed => rest = []
    rw [next] at closing
    cases stands : s.progress with
    | waiting phase => trivial
    | answered outcome =>
      rw [stands] at closing
      rcases closing with none_left | ⟨front, split⟩
      · cases none_left
      · cases front with
        | nil => exact .inl (List.cons.inj split).2
        | cons first front => exact .inr ⟨front, (List.cons.inj split).2⟩
    | crashed =>
      rw [stands] at closing
      cases closing

theorem Coherent.act {σ π : Type} [Store σ] [Publisher π] {d : Desk σ π} {s : Slip}
    {phase : Phase} (coherent : s.Coherent d.rules.announceLimit) (quiet : s.pending = [])
    (waiting : s.progress = .waiting phase) :
    (s.act d phase).2.Coherent d.rules.announceLimit := by
  have left : s.marks = (Progress.waiting phase).account (s.missed d.rules.announceLimit) := by
    have whole := coherent.marks
    rwa [quiet, List.filterMap_nil, List.append_nil, waiting] at whole
  have owed : (Progress.waiting phase).account (s.missed d.rules.announceLimit) ++
      (s.act d phase).2.pending.filterMap Note.mark? =
        (s.act d phase).2.progress.account ((s.act d phase).2.missed d.rules.announceLimit) := by
    -- Only an announcement has left a mark before, and how it went is what the slip keeps of it.
    cases phase with
    | announcing server =>
      let limit := d.rules.announceLimit
      let attempt := (Publisher.publish d.publisher d.now limit d.rules.channel
        (⟨s.lobby, server⟩ : Announcement).encode).2
      have missed : (s.act d (.announcing server)).2.missed limit = attempt.misses limit := rfl
      have reply : (d.announce ⟨s.lobby, server⟩).2 = attempt.delivery limit := by
        rw [Desk.announce_eq]
      have delivered := attempt.delivery_eq limit
      rw [← reply] at delivered
      rw [missed]
      exact (Placement.account_resume_delivery _ s.lobby server delivered).symm
    | looking | listing | counting _ | claiming _ | overwriting _ | adopting =>
      exact (Placement.account_resume_call _ s.lobby rfl _ _).symm
  refine ⟨?_, ?_⟩
  · have kept : (s.act d phase).2.marks = s.marks := rfl
    rw [kept, left, owed]
  · have closes : Move.Closes ⟨(s.act d phase).2.pending, (s.act d phase).2.progress⟩ :=
      Placement.closing_resume _ s.lobby phase _
    unfold Move.Closes at closes
    dsimp only at closes
    cases stands : (s.act d phase).2.progress with
    | waiting next => trivial
    | answered outcome =>
      rw [stands] at closes
      exact .inr closes
    | crashed =>
      rw [stands] at closes
      exact closes

/-! ### One request's part in the counters -/

theorem inFlight_of_owed {s : Slip} (owed : s.pending.filterMap Note.mark? ≠ []) :
    s.inFlight = true := by
  unfold inFlight
  cases pending : s.pending with
  | nil => exact (owed (by rw [pending]; rfl)).elim
  | cons note rest => rfl

theorem Coherent.ended {limit : Nat} {s : Slip} (coherent : s.Coherent limit)
    (paid : s.pending.filterMap Note.mark? = []) {outcome : Outcome}
    (answered : s.progress = .answered outcome) : s.inFlight = false := by
  have closing := coherent.closing
  rw [answered] at closing
  rcases closing with quiet | ⟨front, last⟩
  · simp [inFlight, quiet, answered]
  · rw [last, List.filterMap_append] at paid
    cases (List.append_eq_nil_iff.mp paid).2

/-- What one request adds to the counted endings, against what it adds to the requests. -/
theorem Coherent.balance {limit : Nat} {s : Slip} (coherent : s.Coherent limit) :
    (Stats.ofMarks s.marks).endings =
      (Stats.ofMarks s.marks).requests + (s.inFlight && s.isCounted).toNat +
        s.progress.isCrashed.toNat := by
  have account := coherent.marks
  have owes : s.pending.filterMap Note.mark? ≠ [] → s.inFlight = true := inFlight_of_owed
  unfold isCounted
  cases stands : s.progress with
  | waiting phase =>
    have under : s.inFlight = true := by simp [inFlight, stands]
    rw [stands] at account
    rw [under]
    generalize s.marks = marks at account ⊢
    cases phase with
    | announcing server =>
      rcases List.append_eq_singleton_iff.mp account with ⟨rfl, _⟩ | ⟨rfl, _⟩ <;> rfl
    | looking | listing | counting _ | claiming _ | overwriting _ | adopting =>
      obtain ⟨rfl, _⟩ := List.append_eq_nil_iff.mp account
      rfl
  | crashed =>
    have quiet := coherent.closing
    rw [stands] at quiet
    have still : s.inFlight = false := by simp [inFlight, quiet, stands]
    rw [stands, quiet, List.filterMap_nil, List.append_nil] at account
    rw [still, account]
    rfl
  | answered outcome =>
    have paid := fun nothing => coherent.ended nothing stands
    rw [stands] at account
    generalize s.marks = marks at account ⊢
    generalize s.pending.filterMap Note.mark? = owed at account owes paid
    by_cases nothing : owed = []
    · rw [paid nothing]
      rw [nothing, List.append_nil] at account
      rw [account]
      rcases outcome with fault | _ | _ | _
      · cases fault <;> rfl
      · rfl
      · cases s.missed limit <;> rfl
      · rfl
    · -- What is owed ends with the answer, so what is left comes before it.
      rw [owes nothing]
      have before := congrArg List.dropLast account
      rw [List.dropLast_append_of_ne_nil nothing] at before
      rcases outcome with fault | server | server | server
      · obtain ⟨rfl, _⟩ := List.append_eq_nil_iff.mp before
        rfl
      · rcases List.append_eq_singleton_iff.mp before with ⟨rfl, _⟩ | ⟨rfl, _⟩ <;> rfl
      · rcases List.append_eq_cons_iff.mp before with ⟨rfl, _⟩ | ⟨later, rfl, cut⟩
        · rfl
        · rcases List.append_eq_singleton_iff.mp cut.symm with ⟨rfl, _⟩ | ⟨rfl, _⟩
          · rfl
          · cases s.missed limit <;> rfl
      · rcases List.append_eq_singleton_iff.mp before with ⟨rfl, _⟩ | ⟨rfl, _⟩ <;> rfl

/-! ### The marks of all requests -/

def allMarks (slips : List Slip) : List Mark := slips.flatMap marks

theorem balance_all {limit : Nat} {slips : List Slip}
    (coherent : ∀ s ∈ slips, s.Coherent limit) :
    (Stats.ofMarks (allMarks slips)).endings =
      (Stats.ofMarks (allMarks slips)).requests +
        slips.countP (fun s => s.inFlight && s.isCounted) +
          slips.countP (fun s => s.progress.isCrashed) := by
  induction slips with
  | nil => rfl
  | cons first rest ih =>
    have here := (coherent first List.mem_cons_self).balance
    have later := ih fun s member => coherent s (List.mem_cons_of_mem first member)
    have split : allMarks (first :: rest) = first.marks ++ allMarks rest := rfl
    rw [split, Stats.endings_append, Stats.requests_append, here, later, List.countP_cons,
      List.countP_cons]
    cases first.inFlight && first.isCounted <;> cases first.progress.isCrashed <;>
      simp only [Bool.toNat_true, Bool.toNat_false, if_true, if_false, Bool.false_eq_true] <;> omega

/-! ### Requests that have all ended -/

/-- The request was answered, with this ending. -/
def endedAs (ending : Ending) (s : Slip) : Bool :=
  match s.progress with
  | .answered outcome => outcome.ending = ending
  | _ => false

theorem endedAs_answered {s : Slip} {outcome : Outcome} (answered : s.progress = .answered outcome)
    (ending : Ending) : s.endedAs ending = decide (outcome.ending = ending) := by
  simp only [endedAs, answered]

theorem Coherent.paid {limit : Nat} {s : Slip} (coherent : s.Coherent limit)
    (still : s.inFlight = false) (unbroken : s.progress.isCrashed = false) :
    ∃ outcome, s.progress = .answered outcome ∧
      s.marks = (Progress.answered outcome).account (s.missed limit) := by
  obtain ⟨quiet, idle⟩ := Bool.or_eq_false_iff.mp still
  have left := coherent.marks
  rw [Bool.not_eq_false', List.isEmpty_iff] at quiet
  rw [quiet, List.filterMap_nil, List.append_nil] at left
  cases stands : s.progress with
  | waiting phase => simp [stands] at idle
  | crashed => simp [stands, Progress.isCrashed] at unbroken
  | answered outcome => exact ⟨outcome, rfl, by rw [left, stands]⟩

end Slip

/-- The counters of requests that have all ended: how many there were, how many ended in each way,
and how many new placements were not announced in time. -/
def Stats.ofEnded (limit : Nat) (slips : List Slip) : Stats where
  requests := slips.length
  hits := slips.countP (Slip.endedAs .hit)
  created := slips.countP (Slip.endedAs .created)
  lostRaces := slips.countP (Slip.endedAs .lostRace)
  clientErrors := slips.countP (Slip.endedAs .clientError)
  failures := slips.countP (Slip.endedAs .storeError) + slips.countP (Slip.endedAs .failed)
  publishFailures := slips.countP fun s => s.endedAs .created && s.missed limit
  serializationFailures := 0

namespace Slip

theorem count_settled {ending : Ending}
    (placed : ending = .hit ∨ ending = .created ∨ ending = .lostRace) (outcome : Outcome)
    (missed : Bool) :
    ((Progress.answered outcome).account missed).count (.settled ending) =
      (decide (outcome.ending = ending)).toNat := by
  rcases outcome with fault | server | server | server
  · rcases placed with rfl | rfl | rfl <;> cases fault <;> rfl
  · rcases placed with rfl | rfl | rfl <;> rfl
  · rcases placed with rfl | rfl | rfl <;> rfl
  · rcases placed with rfl | rfl | rfl <;> rfl

theorem count_answered (ending : Ending) (outcome : Outcome) (missed : Bool) :
    ((Progress.answered outcome).account missed).count (.answered ending) =
      (decide (outcome.ending = ending)).toNat := by
  rcases outcome with fault | server | server | server
  · cases fault <;> cases ending <;> rfl
  · cases ending <;> rfl
  · cases ending <;> rfl
  · cases ending <;> rfl

theorem countP_isAnswered (outcome : Outcome) (missed : Bool) :
    ((Progress.answered outcome).account missed).countP Mark.isAnswered = 1 := by
  rcases outcome with fault | server | server | server <;> rfl

theorem count_unannounced (outcome : Outcome) (missed : Bool) :
    ((Progress.answered outcome).account missed).count (.announced false) =
      (decide (outcome.ending = .created) && missed).toNat := by
  rcases outcome with fault | server | server | server
  · cases fault <;> rfl
  · rfl
  · cases missed <;> rfl
  · rfl

theorem ofMarks_of_ended {limit : Nat} {slips : List Slip}
    (coherent : ∀ s ∈ slips, s.Coherent limit) (still : ∀ s ∈ slips, s.inFlight = false)
    (unbroken : ∀ s ∈ slips, s.progress.isCrashed = false) :
    Stats.ofMarks (allMarks slips) = Stats.ofEnded limit slips := by
  have paid := fun s member => (coherent s member).paid (still s member) (unbroken s member)
  have requests : (allMarks slips).countP Mark.isAnswered = slips.length := by
    rw [← List.countP_true]
    refine countP_flatMap_eq fun s member => ?_
    obtain ⟨outcome, _, left⟩ := paid s member
    rw [left, countP_isAnswered]
    rfl
  have settled : ∀ {ending : Ending}, ending = .hit ∨ ending = .created ∨ ending = .lostRace →
      (allMarks slips).count (.settled ending) = slips.countP (endedAs ending) := by
    intro ending placed
    refine countP_flatMap_eq fun s member => ?_
    obtain ⟨outcome, answered, left⟩ := paid s member
    rw [left, endedAs_answered answered]
    exact count_settled placed outcome _
  have answered : ∀ ending : Ending,
      (allMarks slips).count (.answered ending) = slips.countP (endedAs ending) := by
    intro ending
    refine countP_flatMap_eq fun s member => ?_
    obtain ⟨outcome, answered, left⟩ := paid s member
    rw [left, endedAs_answered answered]
    exact count_answered ending outcome _
  have unannounced : (allMarks slips).count (.announced false) =
      slips.countP fun s => s.endedAs .created && s.missed limit := by
    refine countP_flatMap_eq fun s member => ?_
    obtain ⟨outcome, answered, left⟩ := paid s member
    rw [left, endedAs_answered answered]
    exact count_unannounced outcome _
  simp only [Stats.ofMarks, Stats.ofEnded, requests, answered, unannounced,
    settled (.inl rfl), settled (.inr (.inl rfl)), settled (.inr (.inr rfl))]

end Slip

namespace Office

variable {σ π : Type} [Store σ] [Publisher π]

/-- The counters are what the marks of all requests make them, and all requests have left the marks
of their way. -/
structure Accounted (o : Office σ π) : Prop where
  stats : o.desk.stats = Stats.ofMarks (Slip.allMarks o.slips)
  coherent : ∀ s ∈ o.slips, s.Coherent o.desk.rules.announceLimit

omit [Store σ] [Publisher π] in
theorem accounted_opening (rules : Rules) (store : σ) (publisher : π) :
    Accounted (atDesk (.opening rules store publisher)) :=
  ⟨rfl, by simp [atDesk]⟩

omit [Store σ] [Publisher π] in
theorem accounted_enter {o : Office σ π} (accounted : o.Accounted) (lobby : String) :
    (o.enter lobby).Accounted := by
  refine ⟨?_, ?_⟩
  · have same : Slip.allMarks (o.enter lobby).slips = Slip.allMarks o.slips := by
      simp only [enter, Slip.allMarks, List.flatMap_append, List.flatMap_singleton]
      exact List.append_nil _
    rw [same]
    exact accounted.stats
  · intro s member
    rcases List.mem_append.mp member with earlier | new
    · exact accounted.coherent s earlier
    · obtain rfl := List.mem_singleton.mp new
      exact Slip.coherent_start _ lobby _

theorem accounted_telling {o : Office σ π} (accounted : o.Accounted) {number : Nat} {slip : Slip}
    {note : Note} {rest : List Note} (found : o.slips[number]? = some slip)
    (next : slip.pending = note :: rest) : (o.advance number).Accounted := by
  rw [advance_telling found next]
  refine ⟨?_, ?_⟩
  · have recorded : o.desk.stats.record note =
        Stats.ofMarks (Slip.allMarks o.slips ++ note.mark?.toList) := by
      rw [accounted.stats, Stats.record_ofMarks]
    exact recorded.trans
      (Stats.ofMarks_perm (flatMap_set_perm found (Slip.marks_tell slip note rest)).symm)
  · intro s member
    rcases List.mem_or_eq_of_mem_set member with earlier | rfl
    · exact accounted.coherent s earlier
    · exact (accounted.coherent slip (List.mem_of_getElem? found)).tell next

theorem accounted_acting {o : Office σ π} (accounted : o.Accounted) {number : Nat} {slip : Slip}
    {phase : Phase} (found : o.slips[number]? = some slip) (quiet : slip.pending = [])
    (waiting : slip.progress = .waiting phase) : (o.advance number).Accounted := by
  rw [advance_acting found quiet waiting]
  have rules : (slip.act o.desk phase).1.rules = o.desk.rules :=
    Desk.carryOut_rules o.desk (phase.effect slip.lobby)
  refine ⟨?_, ?_⟩
  · have stats : (slip.act o.desk phase).1.stats = o.desk.stats :=
      Desk.carryOut_stats o.desk (phase.effect slip.lobby)
    have unmarked : (slip.act o.desk phase).2.marks = slip.marks ++ [] :=
      (List.append_nil slip.marks).symm
    have same := Stats.ofMarks_perm (flatMap_set_perm found unmarked)
    rw [List.append_nil] at same
    exact (stats.trans accounted.stats).trans same.symm
  · intro s member
    rw [rules]
    rcases List.mem_or_eq_of_mem_set member with earlier | rfl
    · exact accounted.coherent s earlier
    · exact (accounted.coherent slip (List.mem_of_getElem? found)).act quiet waiting

theorem accounted_step {o : Office σ π} (e : Event σ π) (accounted : o.Accounted) :
    (o.step e).Accounted := by
  cases e with
  | enter lobby => exact accounted_enter accounted lobby
  | advance number =>
    rcases advance_cases o number with
      ⟨slip, note, rest, found, next⟩ | ⟨slip, phase, found, quiet, waiting⟩ | idle
    · exact accounted_telling accounted found next
    · exact accounted_acting accounted found quiet waiting
    · show (o.advance number).Accounted
      rw [idle]
      exact accounted
  | meanwhile store publisher ms => exact ⟨accounted.stats, accounted.coherent⟩

/-- At every moment the counted endings are the counted requests and those requests in flight that
have already been counted as a hit, a placement or a lost race. When all requests have ended, the
counters are those of their endings. -/
theorem counters_add_up (rules : Rules) (store : σ) (publisher : π) (events : List (Event σ π))
    (unbroken : ∀ s ∈ ((atDesk (.opening rules store publisher)).run events).slips,
      s.progress.isCrashed = false) :
    let now := (atDesk (.opening rules store publisher)).run events
    (now.desk.stats.hits + now.desk.stats.created + now.desk.stats.lostRaces +
        now.desk.stats.clientErrors + now.desk.stats.failures =
      now.desk.stats.requests + now.slips.countP fun s => s.inFlight && s.isCounted) ∧
    ((∀ s ∈ now.slips, s.inFlight = false) →
      now.desk.stats = Stats.ofEnded rules.announceLimit now.slips) := by
  intro now
  have accounted : now.Accounted :=
    run_induct (fun o e before => accounted_step e before)
      (accounted_opening rules store publisher) events
  have limit : now.desk.rules.announceLimit = rules.announceLimit :=
    congrArg Rules.announceLimit (run_rules (atDesk (.opening rules store publisher)) events)
  refine ⟨?_, ?_⟩
  · have balance := Slip.balance_all accounted.coherent
    have lost : now.slips.countP (fun s => s.progress.isCrashed) = 0 :=
      List.countP_eq_zero.mpr fun s member => Bool.eq_false_iff.mp (unbroken s member)
    rw [lost, ← accounted.stats] at balance
    exact balance
  · intro ended
    rw [accounted.stats, Slip.ofMarks_of_ended accounted.coherent ended unbroken, limit]

/-- A store whose replies are all prepared: a hit, a fault, and what a placement and a lost race
read. -/
def rehearsedStore : ScriptedStore :=
  { ScriptedStore.ofMemory .empty with
    script :=
      { gets := [.answer (some "A"), .fail MemoryStore.outage, .answer none, .answer none,
          .answer (some "B")]
        puts := []
        conditionalPuts := [.answer true, .answer false]
        scans := [.answer [], .answer []]
        pings := [] } }

/-- A publisher that fails at once. -/
def failingRecorder : Recorder := { Recorder.empty with failing := true }

/-- A publisher that takes longer than a request waits. -/
def slowRecorder : Recorder := { Recorder.empty with delay := 2001 }

/-- A blank lobby, and a hit that has not been answered yet. -/
def overture : List (Event ScriptedStore Recorder) :=
  [.enter "", .enter "H", .advance 1, .advance 0, .advance 1]

/-- The hit is answered and a request fails; two others place and lose a race, side by side, and the
last one places a lobby that is not announced in time. -/
def mainPart : List (Event ScriptedStore Recorder) :=
  [.advance 1, .enter "F", .advance 2, .advance 2,
    .enter "C", .enter "R", .advance 3, .advance 4, .advance 3, .advance 4,
    .advance 4, .advance 3, .advance 3, .advance 4, .advance 4, .advance 3, .advance 4, .advance 3,
    .advance 4, .advance 3, .advance 3,
    .meanwhile (.ofMemory .empty) slowRecorder 7,
    .enter "S", .advance 5, .advance 5, .advance 5, .advance 5, .advance 5, .advance 5, .advance 5,
    .advance 5]

def rehearsal : Office ScriptedStore Recorder :=
  atDesk (.opening (.standard .two) rehearsedStore failingRecorder)

/-- While the hit waits for its answer, it makes up for one request; at the end each counter is the
number of requests that ended so, and both placements were not announced in time. -/
theorem rehearsal_adds_up :
    ((rehearsal.run overture).desk.stats = ⟨1, 1, 0, 0, 1, 0, 0, 0⟩ ∧
      2 = 1 + (rehearsal.run overture).slips.countP fun s => s.inFlight && s.isCounted) ∧
    ((rehearsal.run (overture ++ mainPart)).desk.stats =
        Stats.ofEnded 2000 (rehearsal.run (overture ++ mainPart)).slips ∧
      Stats.ofEnded 2000 (rehearsal.run (overture ++ mainPart)).slips =
        ⟨6, 1, 2, 1, 1, 1, 2, 0⟩) := by
  have counted : (rehearsal.run overture).desk.stats = ⟨1, 1, 0, 0, 1, 0, 0, 0⟩ := by
    decide +kernel
  refine ⟨⟨counted, ?_⟩, ?_, by decide +kernel⟩
  · have balance := (counters_add_up (.standard .two) rehearsedStore failingRecorder overture
      (by decide +kernel)).1
    have same : (atDesk (.opening (.standard .two) rehearsedStore failingRecorder)).run overture =
        rehearsal.run overture := rfl
    rw [same, counted] at balance
    exact balance
  · exact (counters_add_up (.standard .two) rehearsedStore failingRecorder (overture ++ mainPart)
      (by decide +kernel)).2 (by decide +kernel)

end Office

end LobbyPlacement

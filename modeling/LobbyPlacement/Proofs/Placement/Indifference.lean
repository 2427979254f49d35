import Mathlib.Algebra.GroupWithZero.Nat
import LobbyPlacement.Proofs.Placement.Accounting
import LobbyPlacement.Proofs.Placement.Errands

/-!
# Placements without regard to the publisher

What becomes of an announcement shows in the time it takes and in one counter, and nowhere else.
`Alike` relates two desks that differ in nothing but their publishers, and every step of a request
keeps them so. `Posts` is what announcements add up to at a desk whose publisher keeps a log.
-/

namespace LobbyPlacement

/-- The counters apart from that of missed announcements. -/
def Stats.exceptMissed (s : Stats) : Stats := { s with publishFailures := 0 }

theorem Stats.exceptMissed_record (s : Stats) (note : Note) :
    (s.record note).exceptMissed = (s.exceptMissed.record note).exceptMissed := by
  cases note with
  | found | adopted | counted _ | created _ => rfl
  | announced confirmed => cases confirmed <;> rfl
  | answered ending => cases ending <;> rfl

theorem Stats.exceptMissed_announced (s : Stats) (confirmed : Bool) :
    (s.record (.announced confirmed)).exceptMissed = s.exceptMissed := by
  cases confirmed <;> rfl

/-- A new placement is answered, and the note before tells whether it was announced in time. -/
theorem Desk.step_announcing {σ π : Type} [Store σ] [Publisher π] {d : Desk σ π}
    (steady : Publisher.NeverCrashes d.publisher) (lobby server : String) (started : Nat) :
    d.step ⟨lobby, started, .announcing server⟩ =
      let limit := d.rules.announceLimit
      let (publisher, attempt) := Publisher.publish d.publisher d.now limit d.rules.channel
        (⟨lobby, server⟩ : Announcement).encode
      ({ d with publisher := publisher, now := d.now + attempt.spent limit }.recordAll started
          [.announced !attempt.misses limit, .answered .created],
        .answered (.ok (.created server))) := by
  have kept := (announce_steady steady ⟨lobby, server⟩).2
  simp only [step, carryOut, Phase.effect]
  rw [announce_eq] at kept ⊢
  dsimp only at kept ⊢
  generalize (Publisher.publish d.publisher d.now d.rules.announceLimit d.rules.channel
    (⟨lobby, server⟩ : Announcement).encode).2 = attempt at kept ⊢
  rcases attempt.delivery_eq d.rules.announceLimit with crashed | delivered
  · exact (kept crashed).elim
  · rw [delivered]
    cases attempt.misses d.rules.announceLimit <;> rfl

theorem Attempt.spent_le {limit : Nat} {attempt : Attempt}
    (settles : ∀ after, attempt ≠ .crashed after) : attempt.spent limit ≤ limit := by
  cases attempt with
  | crashed after => exact (settles after rfl).elim
  | pending => exact Nat.le_refl limit
  | settled after result =>
    show (if after ≤ limit then after else limit) ≤ limit
    split
    · assumption
    · exact Nat.le_refl limit

/-! ### Missed announcements among the notes -/

def Note.isMissed : Note → Bool
  | .announced confirmed => !confirmed
  | _ => false

theorem Stats.record_missed (s : Stats) (note : Note) :
    (s.record note).publishFailures = s.publishFailures + note.isMissed.toNat := by
  cases note with
  | found | adopted | counted _ | created _ => rfl
  | announced confirmed => cases confirmed <;> rfl
  | answered ending => cases ending <;> rfl

theorem Placement.missed_start (lobby : String) :
    (start lobby).notes.countP Note.isMissed = 0 := by
  unfold start
  cases checkLobby lobby <;> rfl

def Note.isAnnounced : Note → Bool
  | .announced _ => true
  | _ => false

/-- Only an announcement is followed by a note of it. -/
theorem Placement.announced_resume (rules : Rules) (lobby : String) {phase : Phase}
    (unwritten : (Progress.waiting phase).hasWritten = false)
    (reply : (phase.effect lobby).Reply) :
    (resume rules lobby phase reply).notes.countP Note.isAnnounced = 0 := by
  have tallied : ∀ tally, (afterTally rules tally).notes.countP Note.isAnnounced = 0 := by
    intro tally
    cases tally with
    | reading census => rfl
    | failed fault => rfl
    | counted loads =>
      simp only [afterTally]
      cases Load.least loads <;> rfl
  cases phase with
  | looking => rcases reply with _ | _ | _ <;> rfl
  | listing => exact tallied _
  | counting census => exact tallied _
  | claiming server => rcases reply with _ | _ | _ <;> rfl
  | overwriting server => rcases reply with _ | _ <;> rfl
  | adopting => rcases reply with _ | _ | _ <;> rfl
  | announcing server => cases unwritten

/-- Notes that only announcements leave are not left before. -/
theorem Placement.unannounced_resume {counted : Note → Bool}
    (only : ∀ note, counted note = true → note.isAnnounced = true) (rules : Rules) (lobby : String)
    {phase : Phase} (unwritten : (Progress.waiting phase).hasWritten = false)
    (reply : (phase.effect lobby).Reply) :
    (resume rules lobby phase reply).notes.countP counted = 0 := by
  have none_announced := announced_resume rules lobby unwritten reply
  rw [List.countP_eq_zero] at none_announced ⊢
  exact fun note told isCounted => none_announced note told (only note isCounted)

theorem Note.isAnnounced_of_isMissed (note : Note) (missed : note.isMissed = true) :
    note.isAnnounced = true := by
  cases note with
  | announced confirmed => rfl
  | found | adopted | counted _ | created _ | answered _ => cases missed

/-! ### Two publishers -/

namespace Desk

section Two

variable {σ π ρ : Type} [Store σ] [Publisher π] [Publisher ρ]

/-- Desks that differ at most in their publishers, of which neither crashes, and in what those
bring about: the time, the missed announcements and the metrics. -/
structure Alike (d : Desk σ π) (e : Desk σ ρ) : Prop where
  rules : d.rules = e.rules
  store : d.store = e.store
  stats : d.stats.exceptMissed = e.stats.exceptMissed
  steady : Publisher.NeverCrashes d.publisher
  steadyToo : Publisher.NeverCrashes e.publisher

omit [Store σ] in
theorem Alike.recordAll {d : Desk σ π} {e : Desk σ ρ} (alike : Alike d e)
    (started startedToo : Nat) (notes : List Note) :
    Alike (d.recordAll started notes) (e.recordAll startedToo notes) := by
  unfold Desk.recordAll
  induction notes generalizing d e with
  | nil => exact alike
  | cons note rest ih =>
    refine ih ⟨alike.rules, alike.store, ?_, alike.steady, alike.steadyToo⟩
    show (d.stats.record note).exceptMissed = (e.stats.record note).exceptMissed
    rw [d.stats.exceptMissed_record, e.stats.exceptMissed_record, alike.stats]

theorem Alike.step {d : Desk σ π} {e : Desk σ ρ} (alike : Alike d e) (lobby : String)
    (started startedToo : Nat) (phase : Phase) :
    (e.step ⟨lobby, startedToo, phase⟩).2 = (d.step ⟨lobby, started, phase⟩).2 ∧
      Alike (d.step ⟨lobby, started, phase⟩).1 (e.step ⟨lobby, startedToo, phase⟩).1 := by
  cases phase with
  | announcing server =>
    have steadyThen := (d.step_steady alike.steady ⟨lobby, started, .announcing server⟩).1
    have steadyTooThen := (e.step_steady alike.steadyToo ⟨lobby, startedToo, .announcing server⟩).1
    rw [step_announcing alike.steady] at steadyThen ⊢
    rw [step_announcing alike.steadyToo] at steadyTooThen ⊢
    refine ⟨rfl, ⟨alike.rules, alike.store, ?_, steadyThen, steadyTooThen⟩⟩
    simp only [Desk.recordAll, record, List.foldl_cons, List.foldl_nil]
    rw [Stats.exceptMissed_record, Stats.exceptMissed_announced, alike.stats,
      Stats.exceptMissed_record (e.stats.record _), Stats.exceptMissed_announced]
  | looking | listing | counting _ | claiming _ | overwriting _ | adopting =>
    -- The same call is answered by the same store, and then the same notes are told.
    obtain ⟨rules, store, publisher, now, stats, metrics⟩ := d
    obtain ⟨rulesToo, storeToo, publisherToo, nowToo, statsToo, metricsToo⟩ := e
    obtain rfl : rules = rulesToo := alike.rules
    obtain rfl : store = storeToo := alike.store
    refine ⟨rfl, Alike.recordAll ?_ _ _ _⟩
    exact ⟨rfl, rfl, alike.stats, alike.steady, alike.steadyToo⟩

theorem alike_paired : Paired (Alike : Desk σ π → Desk σ ρ → Prop) where
  store alike := alike.store
  pool alike := congrArg Rules.pool alike.rules
  stocked alike _ := ⟨alike.rules, rfl, alike.stats, alike.steady, alike.steadyToo⟩
  loaded alike _ := ⟨alike.rules, alike.store, alike.stats, alike.steady, alike.steadyToo⟩
  elapsed alike _ := ⟨alike.rules, alike.store, alike.stats, alike.steady, alike.steadyToo⟩
  resolved {d e} alike lobby := by
    have inStep : InStep lobby d.now e.now
        fun (d : Desk σ π) p (e : Desk σ ρ) q => q = p ∧ Alike d e := by
      refine ⟨?_, fun leaving ⟨same, _⟩ => same⟩
      rintro d e phase _ ⟨rfl, alike⟩
      exact ⟨phase, rfl, alike.step lobby _ _ phase⟩
    have begun := alike.recordAll d.now e.now (Placement.start lobby).notes
    obtain ⟨leaving, left, leftToo, _, alikeThen⟩ :=
      finish_in_step inStep ⟨(rfl : (Placement.start lobby).progress = _), begun⟩
    exact ⟨left.trans leftToo.symm, alikeThen⟩

end Two

/-! ### What announcements add up to -/

section Log

variable {σ π : Type} [Store σ] [Publisher π]

/-- What these calls of the publisher have brought about, besides the time that passed anyway. None
of them has held its request for longer than the limit. -/
structure Posts (d : Desk σ (Logged π)) (idle : Nat) (new : List Posting)
    (e : Desk σ (Logged π)) : Prop where
  rules : e.rules = d.rules
  log : e.publisher.log = d.publisher.log ++ new
  missed : e.stats.publishFailures = d.stats.publishFailures +
    new.countP fun posting => posting.attempt.misses d.rules.announceLimit
  time : e.now = d.now + idle +
    (new.map fun posting => posting.attempt.spent d.rules.announceLimit).sum
  limited : ∀ posting ∈ new, posting.attempt.spent d.rules.announceLimit ≤ d.rules.announceLimit

omit [Store σ] [Publisher π] in
theorem Posts.trans {d e f : Desk σ (Logged π)} {idle idleThen : Nat} {new newThen : List Posting}
    (first : Posts d idle new e) (second : Posts e idleThen newThen f) :
    Posts d (idle + idleThen) (new ++ newThen) f := by
  have rules := first.rules
  refine ⟨second.rules.trans rules, ?_, ?_, ?_, ?_⟩
  · rw [second.log, first.log, List.append_assoc]
  · rw [second.missed, first.missed, rules, List.countP_append, Nat.add_assoc]
  · rw [second.time, first.time, rules, List.map_append, List.sum_append]
    omega
  · intro posting made
    rcases List.mem_append.mp made with early | late
    · exact first.limited posting early
    · have bound := second.limited posting late
      rwa [rules] at bound

omit [Store σ] [Publisher π] in
theorem posts_nothing {d e : Desk σ (Logged π)} {idle : Nat} (rules : e.rules = d.rules)
    (publisher : e.publisher = d.publisher)
    (missed : e.stats.publishFailures = d.stats.publishFailures) (time : e.now = d.now + idle) :
    Posts d idle [] e :=
  ⟨rules, by rw [publisher, List.append_nil], missed, time, nofun⟩

omit [Store σ] [Publisher π] in
theorem Posts.told {d e : Desk σ (Logged π)} {idle : Nat} {new : List Posting}
    (posted : Posts d idle new e) (started : Nat) {notes : List Note}
    (quiet : notes.countP Note.isMissed = 0) : Posts d idle new (e.recordAll started notes) := by
  refine ⟨?_, ?_, ?_, ?_, posted.limited⟩
  · rw [recordAll_rules, posted.rules]
  · rw [recordAll_publisher, posted.log]
  · rw [recordAll_counter Stats.record_missed, quiet, posted.missed]
    rfl
  · rw [recordAll_now, posted.time]

theorem step_posts {d : Desk σ (Logged π)} (steady : Publisher.NeverCrashes d.publisher)
    (t : Ticket) : ∃ new, Posts d 0 new (d.step t).1 := by
  obtain ⟨lobby, started, phase⟩ := t
  cases phase with
  | announcing server =>
    let attempt := (Publisher.publish d.publisher d.now d.rules.announceLimit d.rules.channel
      (⟨lobby, server⟩ : Announcement).encode).2
    have settles := steady.attempt d.now d.rules.announceLimit d.rules.channel
      (⟨lobby, server⟩ : Announcement).encode
    let told : List Note := [.announced !attempt.misses d.rules.announceLimit, .answered .created]
    have missed : ∀ e : Desk σ (Logged π), (e.recordAll started told).stats.publishFailures =
        e.stats.publishFailures + (attempt.misses d.rules.announceLimit).toNat := by
      intro e
      rw [recordAll_counter Stats.record_missed]
      simp only [told]
      cases attempt.misses d.rules.announceLimit <;> rfl
    rw [step_announcing steady]
    refine ⟨[⟨d.rules.channel, (⟨lobby, server⟩ : Announcement).encode, attempt⟩],
      rfl, rfl, ?_, rfl, ?_⟩
    · refine (missed _).trans ?_
      rw [List.countP_singleton, toNat_eq_ite]
    · intro posting made
      obtain rfl := List.mem_singleton.mp made
      exact Attempt.spent_le settles
  | looking | listing | counting _ | claiming _ | overwriting _ | adopting =>
    -- Only an announcement asks the publisher, and only its note is counted as missed.
    refine ⟨[], ?_⟩
    refine Posts.told ?_ started ?_
    · exact posts_nothing rfl rfl rfl rfl
    · exact Placement.unannounced_resume Note.isAnnounced_of_isMissed _ lobby rfl _

theorem finish_posts {d : Desk σ (Logged π)} (steady : Publisher.NeverCrashes d.publisher)
    (lobby : String) (started : Nat) (p : Progress) :
    (∃ new, Posts d 0 new (d.finish lobby started p).1) ∧
      Publisher.NeverCrashes (d.finish lobby started p).1.publisher := by
  fun_induction d.finish lobby started p with
  | case1 d outcome => exact ⟨⟨[], posts_nothing rfl rfl rfl rfl⟩, steady⟩
  | case2 d => exact ⟨⟨[], posts_nothing rfl rfl rfl rfl⟩, steady⟩
  | case3 d phase next =>
    rename_i ih
    obtain ⟨new, posted⟩ := step_posts steady ⟨lobby, started, phase⟩
    obtain ⟨⟨later, postedThen⟩, steadyThen⟩ := ih (d.step_steady steady _).1
    exact ⟨⟨new ++ later, posted.trans postedThen⟩, steadyThen⟩

theorem resolve_posts {d : Desk σ (Logged π)} (steady : Publisher.NeverCrashes d.publisher)
    (lobby : String) :
    (∃ new, Posts d 0 new (d.resolve lobby).1) ∧
      Publisher.NeverCrashes (d.resolve lobby).1.publisher := by
  have begun : Posts d 0 [] (d.begin lobby).1 :=
    (posts_nothing rfl rfl rfl rfl).told d.now (Placement.missed_start lobby)
  have steadyThen : Publisher.NeverCrashes (d.begin lobby).1.publisher := by
    rw [show (d.begin lobby).1.publisher = d.publisher from recordAll_publisher ..]
    exact steady
  obtain ⟨⟨new, posted⟩, kept⟩ :=
    finish_posts steadyThen lobby d.now (Placement.start lobby).progress
  exact ⟨⟨new, begun.trans posted⟩, kept⟩

theorem attend_posts [Ledger σ] {d : Desk σ (Logged π)}
    (steady : Publisher.NeverCrashes d.publisher) (errand : Errand (Ledger.Weather σ)) :
    (∃ new, Posts d errand.idle new (d.attend errand).1) ∧
      Publisher.NeverCrashes (d.attend errand).1.publisher := by
  cases errand with
  | resolve lobby => exact resolve_posts steady lobby
  | assign lobby => exact resolve_posts steady lobby
  | lookup lobby =>
    simp only [attend, lookup]
    cases Placement.checkLobby lobby <;> exact ⟨⟨[], posts_nothing rfl rfl rfl rfl⟩, steady⟩
  | loads =>
    simp only [attend, loads]
    rcases Census.count d.store d.rules.pool.servers with ⟨s, _ | _⟩ <;>
      exact ⟨⟨[], posts_nothing rfl rfl rfl rfl⟩, steady⟩
  | weather w => exact ⟨⟨[], posts_nothing rfl rfl rfl rfl⟩, steady⟩
  | elapse ms => exact ⟨⟨[], posts_nothing rfl rfl rfl rfl⟩, steady⟩

end Log

/-! ### Any two publishers -/

variable {σ π ρ : Type} [Store σ] [Ledger σ] [Publisher π] [Publisher ρ]

/-- Two desks that differ only in their publishers, which may let any call succeed, fail or stay
pending, are asked the same, one thing after the other. They give the same answers, and after each
of them their stores and their counters are the same, but for that of missed announcements. This
counter grows by the announcements that fail or are not settled within the limit, and none of them
takes longer than that; otherwise only the time between the requests passes. A log of the calls,
which shows this, changes nothing. -/
theorem publisher_does_not_matter (d : Desk σ π) (publisher : ρ)
    (steady : Publisher.NeverCrashes d.publisher) (steadyToo : Publisher.NeverCrashes publisher)
    (errands : List (Errand (Ledger.Weather σ))) :
    let mine := d.visits errands
    let theirs := (d.withPublisher publisher).visits errands
    mine.map Visit.answer = theirs.map Visit.answer ∧
    mine.map (fun visit => visit.after.store) = theirs.map (fun visit => visit.after.store) ∧
    mine.map (fun visit => visit.after.stats.exceptMissed) =
      theirs.map (fun visit => visit.after.stats.exceptMissed) ∧
    (d.logged.visits errands).map Visit.unlogged = mine ∧
    ∀ visit ∈ d.logged.visits errands,
      ∃ new, Posts visit.before visit.errand.idle new visit.after := by
  intro mine theirs
  have alike : Alike d (d.withPublisher publisher) := ⟨rfl, rfl, rfl, steady, steadyToo⟩
  refine ⟨?_, ?_, ?_, d.logged.unlogged_visits errands, ?_⟩
  · exact alike_paired.visits_map (fun _ _ _ _ => rfl) alike errands
  · exact alike_paired.visits_map (fun _ _ _ alike => alike.store) alike errands
  · exact alike_paired.visits_map (fun _ _ _ alike => alike.stats) alike errands
  · intro visit made
    obtain ⟨steadyThen, step⟩ := visits_kept
      (P := fun e : Desk σ (Logged π) => Publisher.NeverCrashes e.publisher)
      (fun e errand steady => (attend_posts steady errand).2) (steady.logged []) made
    have posted := (attend_posts steadyThen visit.errand).1
    rwa [← step] at posted

/-- A desk whose announcements are settled one millisecond too late. -/
def lateDesk : Desk MemoryStore Recorder :=
  .opening (.standard .two) .empty ⟨[], false, 2001, true⟩

def outing : List (Errand (Ledger.Weather MemoryStore)) :=
  [.resolve "L", .weather false, .assign "M", .weather true, .assign "M", .lookup "L", .loads]

/-- A publisher that settles at the very end of the two seconds. -/
def punctual : Recorder := ⟨[], false, 2000, true⟩

/-- Announcements that come too late are counted; the answers are those of a desk whose publisher
is just in time. -/
theorem late_announcements_change_no_answer :
    Publisher.NeverCrashes lateDesk.publisher ∧ Publisher.NeverCrashes punctual ∧
      (lateDesk.visits outing).map Visit.answer =
        ((lateDesk.withPublisher punctual).visits outing).map Visit.answer ∧
      (lateDesk.resolve "L").1.now = 2000 ∧
      (lateDesk.resolve "L").1.stats.publishFailures = 1 ∧
      ((lateDesk.withPublisher punctual).resolve "L").1.now = 2000 ∧
      ((lateDesk.withPublisher punctual).resolve "L").1.stats.publishFailures = 0 := by
  have late : ((finishWithin "L" 0 4 lateDesk (.waiting .looking)).map
      fun left => (left.1.now, left.1.stats.publishFailures)) = some (2000, 1) := by decide +kernel
  have inTime : ((finishWithin "L" 0 4 (lateDesk.withPublisher punctual) (.waiting .looking)).map
      fun left => (left.1.now, left.1.stats.publishFailures)) = some (2000, 0) := by decide +kernel
  obtain ⟨left, ended, counted⟩ := Option.map_eq_some_iff.mp late
  obtain ⟨leftToo, endedToo, countedToo⟩ := Option.map_eq_some_iff.mp inTime
  rw [← finish_of_within ended, Prod.mk.injEq] at counted
  rw [← finish_of_within endedToo, Prod.mk.injEq] at countedToo
  exact ⟨Recorder.neverCrashes _, Recorder.neverCrashes _,
    (publisher_does_not_matter lateDesk punctual (Recorder.neverCrashes _)
      (Recorder.neverCrashes _) outing).1,
    counted.1, counted.2, countedToo.1, countedToo.2⟩

end Desk

end LobbyPlacement

import LobbyPlacement.Proofs.Placement.Moves
import LobbyPlacement.Recorder

/-!
# Publishers that never crash

A publisher may let any call succeed, fail or stay pending, depending on the time and on all calls
before it. `NeverCrashes` says that it does nothing worse, however it has been called so far; the
recorder is such a publisher. A desk with such a publisher keeps it, and loses no request.
-/

namespace LobbyPlacement

namespace Publisher

variable {π : Type} [Publisher π]

/-- The publisher comes to stand so after some calls. -/
inductive Reaches (p : π) : π → Prop
  | start : Reaches p p
  | called {q : π} (reached : Reaches p q) (now limit : Nat) (channel : String)
      (payload : Text.Utf8.Bytes) : Reaches p (publish q now limit channel payload).1

theorem Reaches.trans {p q r : π} (first : Reaches p q) (second : Reaches q r) : Reaches p r := by
  induction second with
  | start => exact first
  | called _ now limit channel payload ih => exact ih.called now limit channel payload

def NeverCrashes (p : π) : Prop :=
  ∀ q, Reaches p q → ∀ now limit channel payload after,
    (publish q now limit channel payload).2 ≠ .crashed after

theorem NeverCrashes.called {p : π} (steady : NeverCrashes p) (now limit : Nat) (channel : String)
    (payload : Text.Utf8.Bytes) : NeverCrashes (publish p now limit channel payload).1 :=
  fun _ reached => steady _ ((Reaches.start.called now limit channel payload).trans reached)

theorem NeverCrashes.attempt {p : π} (steady : NeverCrashes p) (now limit : Nat) (channel : String)
    (payload : Text.Utf8.Bytes) (after : Nat) :
    (publish p now limit channel payload).2 ≠ .crashed after :=
  steady p .start now limit channel payload after

end Publisher

theorem Recorder.neverCrashes (r : Recorder) : Publisher.NeverCrashes r := by
  intro q _ now limit channel payload after
  show (q.publish limit channel payload).2 ≠ .crashed after
  unfold Recorder.publish
  split
  · exact nofun
  · split <;> exact nofun

/-! ### Publishers with a log -/

/-- A call of a publisher, and what became of it. -/
structure Posting where
  channel : String
  payload : Text.Utf8.Bytes
  attempt : Attempt

structure Logged (π : Type) where
  inner : π
  log : List Posting

instance {π : Type} [Publisher π] : Publisher (Logged π) where
  publish p now limit channel payload :=
    let (inner, attempt) := Publisher.publish p.inner now limit channel payload
    (⟨inner, p.log ++ [⟨channel, payload, attempt⟩]⟩, attempt)
  isHealthy p := Publisher.isHealthy p.inner

namespace Publisher

variable {π : Type} [Publisher π]

theorem Reaches.inner {p q : Logged π} (reached : Reaches p q) : Reaches p.inner q.inner := by
  induction reached with
  | start => exact .start
  | called _ now limit channel payload ih => exact ih.called now limit channel payload

theorem NeverCrashes.logged {p : π} (steady : NeverCrashes p) (log : List Posting) :
    NeverCrashes (⟨p, log⟩ : Logged π) :=
  fun _ reached => steady _ reached.inner

end Publisher

/-! ### Requests and their publisher -/

theorem Attempt.crashed_of_delivery {limit : Nat} {attempt : Attempt}
    (lost : attempt.delivery limit = .crashed) : ∃ after, attempt = .crashed after := by
  cases attempt with
  | crashed after => exact ⟨after, rfl⟩
  | pending => cases lost
  | settled after result =>
    cases result with
    | error fault => cases lost
    | ok =>
      by_cases early : after ≤ limit
      · simp [delivery, early] at lost
      · simp [delivery, early] at lost

theorem Placement.announcing_of_crashed {rules : Rules} {lobby : String} {phase : Phase}
    {reply : (phase.effect lobby).Reply}
    (lost : (resume rules lobby phase reply).progress = .crashed) :
    ∃ server, phase = .announcing server := by
  have tallied : ∀ tally, (afterTally rules tally).progress ≠ .crashed := by
    intro tally
    cases tally with
    | reading census => exact Progress.noConfusion
    | failed fault => exact Progress.noConfusion
    | counted loads =>
      simp only [afterTally]
      cases Load.least loads <;> exact Progress.noConfusion
  cases phase with
  | announcing server => exact ⟨server, rfl⟩
  | listing => exact (tallied _ lost).elim
  | counting census => exact (tallied _ lost).elim
  | looking | claiming _ | adopting => rcases reply with _ | _ | _ <;> cases lost
  | overwriting _ => rcases reply with _ | _ <;> cases lost

namespace Desk

variable {σ π : Type} [Publisher π]

theorem announce_steady {d : Desk σ π} (steady : Publisher.NeverCrashes d.publisher)
    (a : Announcement) :
    Publisher.NeverCrashes (d.announce a).1.publisher ∧ (d.announce a).2 ≠ .crashed := by
  rw [announce_eq]
  refine ⟨steady.called _ _ _ _, ?_⟩
  intro lost
  obtain ⟨after, crashed⟩ := Attempt.crashed_of_delivery lost
  exact steady.attempt _ _ _ _ after crashed

/-- A publisher that never crashes remains one, and no request is lost with it. -/
theorem step_steady [Store σ] {d : Desk σ π} (steady : Publisher.NeverCrashes d.publisher)
    (t : Ticket) :
    Publisher.NeverCrashes (d.step t).1.publisher ∧ (d.step t).2 ≠ .crashed := by
  obtain ⟨lobby, started, phase⟩ := t
  simp only [step, recordAll_publisher]
  constructor
  · cases phase with
    | announcing server => exact (announce_steady steady ⟨lobby, server⟩).1
    | looking | listing | counting _ | claiming _ | overwriting _ | adopting => exact steady
  · intro lost
    obtain ⟨server, rfl⟩ := Placement.announcing_of_crashed lost
    have kept := (announce_steady steady ⟨lobby, server⟩).2
    change (Placement.resume _ lobby (.announcing server)
      (d.announce ⟨lobby, server⟩).2).progress = .crashed at lost
    cases delivered : (d.announce ⟨lobby, server⟩).2 with
    | confirmed =>
      rw [delivered] at lost
      cases lost
    | unconfirmed =>
      rw [delivered] at lost
      cases lost
    | crashed => exact kept delivered

end Desk

end LobbyPlacement

import LobbyPlacement.Proofs.Broker.Connecting
import LobbyPlacement.Proofs.Broker.Publishing
import Mathlib.Tactic.ByContra

/-!
# Trying again

Connecting and publishing are the two loops that try again after a failure. `retries_as_told_iff`
says for which rules they try as often as they are told, whatever becomes of their trials;
`full_counters_crash` has two that do not. `waits_double_up_to_longest` says how they wait in
between.

A sum that does not fit its word is a crash here, as it is where overflows are checked. Where they
are not, the number of failures goes back to nought behind its largest value, so that a loop with
as many retries never ends, and a wait of 2 ^ 63 milliseconds is followed by none.
-/

namespace LobbyPlacement

open Broker (tryConnect exhausted)
open BrokerChannel (tryPublish)

/-- Where overflows are checked, both loops try as often as they are told exactly if no counter of
theirs is too small: with some retries these must be fewer than can be counted, and the first wait
must be short enough to be doubled. -/
theorem retries_as_told_iff (a : BrokerAddress) (rule : DispatchRule) :
    ((∀ b now, AsTold a.maxRetries (tryConnect a) exhausted b now (b.connect a now)) ↔
      a.maxRetries = 0 ∨ a.maxRetries < 2 ^ 32 - 1 ∧ a.retryDelay < 2 ^ 63) ∧
    ((∀ broker declared now exchange payload,
      AsTold rule.maxRetries (tryPublish exchange payload) id ⟨broker, rule, declared⟩ now
        (BrokerChannel.course ⟨broker, rule, declared⟩ now exchange payload)) ↔
      rule.maxRetries = 0 ∨ rule.maxRetries < 2 ^ 32 - 1 ∧ rule.retryDelay < 2 ^ 63) := by
  obtain ⟨streak, long⟩ : ∃ streak, Text.maxUInt32 < streak := ⟨_, Nat.lt_succ_self _⟩
  constructor
  · change _ ↔ a.retryRule.Sound
    constructor
    · intro told
      by_contra unsound
      let b : Broker := .planned { Responses.none with connects := Response.refusals streak }
      have refuses : b.RefusesConnections streak := ⟨rfl, [], (List.append_nil _).symm⟩
      obtain ⟨after, crashed⟩ := (b.connect_persists a 0).crashes unsound
        Broker.RefusesConnections (fun _ _ now => Broker.tryConnect_refuses a now) long refuses
      exact (told b 0).not_crashed crashed
    · intro sound b now
      exact (b.connect_persists a now).asTold sound
  · change _ ↔ rule.retryRule.Sound
    constructor
    · intro told
      by_contra unsound
      let b : Broker := .planned { Responses.none with publications := Response.refusals streak }
      let c : BrokerChannel := ⟨b, rule, [""]⟩
      have refuses : c.RefusesMessages "" streak :=
        ⟨List.mem_singleton_self _, rfl, [], (List.append_nil _).symm⟩
      obtain ⟨after, crashed⟩ := (c.publish_persists 0 "" []).crashes unsound
        (BrokerChannel.RefusesMessages "")
        (fun _ _ now => BrokerChannel.tryPublish_refuses "" [] now) long refuses
      exact (told b [""] 0 "" []).not_crashed crashed
    · intro sound broker declared now exchange payload
      exact (BrokerChannel.publish_persists ⟨broker, rule, declared⟩ now exchange payload).asTold
        sound

/-- An address with the largest number of retries, and no wait before them. -/
def tireless : BrokerAddress :=
  { BrokerAddress.standard with host := "h", maxRetries := 2 ^ 32 - 1, retryDelay := 0 }

/-- A rule with one retry and a wait before it that is too long to be doubled. -/
def longWaiting : DispatchRule := ⟨1, 2 ^ 63, 1000⟩

/-- A new channel to a broker that refuses one message, and no other. -/
def onceRefused : BrokerChannel :=
  .opened (.planned { Responses.none with publications := Response.refusals 1 }) longWaiting

/-- Connecting to a broker that cannot be reached should fail when all retries are used up. With the
largest number of them it crashes, and a number of failures that is kept in a word of 32 bits never
exceeds them, whatever it goes back to. And a publication that should succeed in its second trial
crashes before, when the wait is doubled. -/
theorem full_counters_crash :
    ((∀ now, ∃ fault,
        tryConnect tireless .unreachable now = (.unreachable, .settled 0 (.error fault))) ∧
      (∀ failures : UInt32, ¬tireless.maxRetries < (failures + 1).toNat) ∧
      ¬AsTold tireless.maxRetries (tryConnect tireless) exhausted .unreachable 0
        (Broker.unreachable.connect tireless 0)) ∧
    (∃ next fault last, tryPublish "c" [] onceRefused 0 = (next, .settled 0 (.error fault)) ∧
      tryPublish "c" [] next (2 ^ 63) = (last, .settled 0 (.ok ()))) ∧
    ¬AsTold longWaiting.maxRetries (tryPublish "c" []) id onceRefused 0
      (onceRefused.course 0 "c" []) := by
  have refused : ∀ now,
      tryConnect tireless .unreachable now = (.unreachable, .settled 0 (.error _)) := fun _ => rfl
  have first : tryPublish "c" [] onceRefused 0 =
      (_, .settled 0 (.error (Dispatch.handingFault ""))) := rfl
  refine ⟨⟨fun now => ⟨_, refused now⟩, fun failures => ?_, fun told => ?_⟩,
    ⟨_, _, _, first, rfl⟩, fun told => ?_⟩
  · exact Nat.not_lt_of_le (Nat.le_of_lt_succ (failures + 1).toNat_lt)
  · obtain ⟨after, crashed⟩ := (Broker.unreachable.connect_persists tireless 0).crashes_uncounted
      (Nat.le_refl _) (fun _ b => b = .unreachable) (fun _ _ now same =>
        ⟨.unreachable, 0, _, (congrArg (tryConnect tireless · now) same).trans (refused now), rfl⟩)
      rfl (Nat.lt_succ_self _)
    exact told.not_crashed crashed
  · have crashed := (onceRefused.publish_persists 0 "c" []).ends_undoubled (by decide) (by decide)
      first
    rw [crashed] at told
    exact told.not_crashed rfl

/-- Both loops go on after each failure, as long as they may, when a wait has passed: the first one
as given, the others doubled up to the longest. Only the first can be too long to be doubled, and
where overflows are checked the loop ends behind it. -/
theorem waits_double_up_to_longest (a : BrokerAddress) (b : Broker) (c : BrokerChannel)
    (now : Nat) (exchange : String) (payload : Text.Utf8.Bytes) :
    BacksOff ⟨a.maxRetries, a.retryDelay, 30000⟩ (tryConnect a) exhausted b now
        (b.connect a now) ∧
      BacksOff ⟨c.rule.maxRetries, c.rule.retryDelay, 5000⟩ (tryPublish exchange payload) id c now
        (c.course now exchange payload) :=
  ⟨(b.connect_persists a now).backsOff, (c.publish_persists now exchange payload).backsOff⟩

/-- A channel with five retries to a broker that refuses six messages. -/
def oftenRefused : BrokerChannel :=
  ⟨.planned { Responses.none with publications := Response.refusals 6 }, ⟨5, 1000, 1000⟩, ["c"]⟩

/-- A publication that is refused again and again waits one second, then twice and four times as
long, and five seconds from then on. One that is to wait for 2 ^ 63 milliseconds crashes behind that
wait. -/
theorem refused_publications_wait :
    (oftenRefused.setbacks 0 "c" []).map Setback.wait = [1000, 2000, 4000, 5000, 5000] ∧
      (onceRefused.setbacks 0 "c" []).map Setback.wait = [2 ^ 63] ∧
      (onceRefused.publish 0 none "c" []).2 = .crashed (2 ^ 63) := by
  have patient := (waits_double_up_to_longest .standard .unreachable oftenRefused 0 "c" []).2
  have hasty := (waits_double_up_to_longest .standard .unreachable onceRefused 0 "c" []).2
  have retries : (oftenRefused.setbacks 0 "c" []).length = 5 := by
    have run := oftenRefused.publish_persists 0 "c" []
    have few := run.length_le.1
    rcases run.ends_failing (BrokerChannel.RefusesMessages "c")
      (fun _ _ now => BrokerChannel.tryPublish_refuses "c" [] now)
      ⟨List.mem_singleton_self _, rfl, [], (List.append_nil _).symm⟩ (Nat.lt_succ_of_le few)
      with ⟨after, crashed⟩ | ⟨all, _⟩
    · exact absurd (Nat.le_trans (patient.doubles (by decide) after crashed) few) (by decide)
    · exact all
  refine ⟨?_, ?_⟩
  · match waited : oftenRefused.setbacks 0 "c" [], retries with
    | [b₀, b₁, b₂, b₃, b₄], _ =>
      have first : b₀.wait = 1000 := patient.first b₀ (congrArg (·[0]?) waited)
      have second : b₁.wait = 2000 := patient.later 1 b₁ (by decide) (congrArg (·[1]?) waited)
      have third : b₂.wait = 4000 := patient.later 2 b₂ (by decide) (congrArg (·[2]?) waited)
      have fourth : b₃.wait = 5000 := patient.later 3 b₃ (by decide) (congrArg (·[3]?) waited)
      have fifth : b₄.wait = 5000 := patient.later 4 b₄ (by decide) (congrArg (·[4]?) waited)
      simp only [List.map_cons, List.map_nil, first, second, third, fourth, fifth]
  · have ended := hasty.overflows (by decide) (by decide) _ 0 (Dispatch.handingFault "") rfl
    exact ⟨congrArg (fun course => course.2.1.map Setback.wait) ended,
      congrArg (fun course => course.2.2) ended⟩

end LobbyPlacement

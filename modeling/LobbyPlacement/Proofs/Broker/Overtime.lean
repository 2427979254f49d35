import LobbyPlacement.Proofs.Broker.Publishing
import Mathlib.Tactic.ByContra

/-!
# Overtime

A publication has as much time as its rule gives each handing over, and its waits. Declaring an
exchange is not part of that time, and nothing limits it. `overtime_is_declaring` says that this is
all a publication can run over, and exactly when none does; `slow_declaration_overruns` is one that
does. A retry that cannot be counted, or a wait that cannot be doubled, ends a publication with a
crash here, as it does where overflows are checked.
-/

namespace LobbyPlacement

def Response.delay : Response → Nat
  | after delay _ => delay
  | silence => 0

/-- The time that the planned answers to declarations take together. -/
def Broker.declaringAhead (b : Broker) : Nat :=
  (b.responses.declarations.map Response.delay).sum

namespace Broker

theorem declaringAhead_publish (b : Broker) (now : Nat) (m : Message) :
    (b.meet now (.publish m)).1.declaringAhead = b.declaringAhead := by
  unfold meet
  split <;> rfl

theorem declaringAhead_declare (b : Broker) (now : Nat) (exchange kind : String) :
    (b.meet now (.declare exchange kind)).2.delay +
        (b.meet now (.declare exchange kind)).1.declaringAhead = b.declaringAhead := by
  unfold meet
  split
  · simp only [respond, declaringAhead]
    cases b.responses.declarations <;> rfl
  · exact Nat.zero_add _

end Broker

namespace BrokerChannel

/-- The time a publication has: one timeout for each attempt, and its waits. -/
def allowance (c : BrokerChannel) (now : Nat) (exchange : String) (payload : Text.Utf8.Bytes) :
    Nat :=
  (c.rule.maxRetries + 1) * c.rule.timeout +
    ((c.setbacks now exchange payload).map Setback.wait).sum

/-- A publication comes to its end within its time. -/
def PublishesInTime (c : BrokerChannel) (now : Nat) (exchange : String)
    (payload : Text.Utf8.Bytes) : Prop :=
  ∃ spent result, (c.publish now none exchange payload).2 = .settled spent result ∧
    spent ≤ c.allowance now exchange payload

theorem tryPublish_declared {exchange : String} {payload : Text.Utf8.Bytes} {c left : BrokerChannel}
    {now spent : Nat} {result : Except Fault Unit} (known : exchange ∈ c.declared)
    (tried : tryPublish exchange payload c now = (left, .settled spent result)) :
    (left.rule = c.rule ∧ exchange ∈ left.declared) ∧ spent ≤ c.rule.timeout := by
  obtain ⟨_, _, handed, inTime⟩ := handOver_settles (publication exchange payload) c now
  rw [tryPublish, if_pos known, handed] at tried
  cases tried
  exact ⟨⟨rfl, known⟩, inTime⟩

/-- A trial takes no longer than the timeout and the declaration in it. -/
theorem tryPublish_declaring {exchange : String} {payload : Text.Utf8.Bytes}
    {c left : BrokerChannel} {now spent : Nat} {result : Except Fault Unit}
    (tried : tryPublish exchange payload c now = (left, .settled spent result)) :
    left.rule = c.rule ∧
      spent + left.broker.declaringAhead ≤ c.rule.timeout + c.broker.declaringAhead := by
  by_cases known : exchange ∈ c.declared
  · obtain ⟨_, _, handed, inTime⟩ := handOver_settles (publication exchange payload) c now
    rw [tryPublish, if_pos known, handed] at tried
    cases tried
    rw [Broker.declaringAhead_publish]
    exact ⟨rfl, Nat.add_le_add_right inTime _⟩
  · have planned := c.broker.declaringAhead_declare now exchange Dispatch.fanout
    rw [tryPublish, if_neg known] at tried
    generalize c.broker.meet now (.declare exchange Dispatch.fanout) = met at tried planned
    obtain ⟨broker, response⟩ := met
    rcases response with ⟨delay, _ | refusal⟩ | _
    · obtain ⟨_, _, handed, inTime⟩ := handOver_settles (publication exchange payload)
        ⟨broker, c.rule, exchange :: c.declared⟩ (now + delay)
      dsimp only at tried inTime
      rw [handed] at tried
      cases tried
      simp only [Broker.declaringAhead_publish, Response.delay] at planned ⊢
      exact ⟨trivial, by omega⟩
    · cases tried
      simp only [Response.delay] at planned ⊢
      exact ⟨trivial, by omega⟩
    · cases tried

/-- A publication whose trials all keep to the timeout, apart from costs that are met from what is
there at the start, runs over its time by no more than these. -/
theorem spent_le_of_paid {c left : BrokerChannel} {now spent : Nat} {exchange : String}
    {payload : Text.Utf8.Bytes} {result : Except Fault Unit} (Kept : BrokerChannel → Prop)
    (cost : BrokerChannel → Nat)
    (paid : ∀ s now next spent result, Kept s →
      tryPublish exchange payload s now = (next, .settled spent result) →
        Kept next ∧ spent + cost next ≤ c.rule.timeout + cost s)
    (kept : Kept c) (ended : c.publish now none exchange payload = (left, .settled spent result)) :
    spent + cost left ≤ c.allowance now exchange payload + cost c := by
  have run := c.publish_persists now exchange payload
  have whole : c.course now exchange payload =
      (left, c.setbacks now exchange payload, .settled spent result) := by
    rw [course, ended]
  rw [whole] at run
  have waits : (c.setbacks now exchange payload).length ≤ c.rule.maxRetries := run.length_le.1
  have all := run.spent_le paid kept rfl
  have tries : ((c.setbacks now exchange payload).length + 1) * c.rule.timeout ≤
      (c.rule.maxRetries + 1) * c.rule.timeout :=
    Nat.mul_le_mul_right _ (Nat.succ_le_succ waits)
  simp only [allowance] at all ⊢
  omega

theorem spent_le_allowance {c left : BrokerChannel} {now spent : Nat} {exchange : String}
    {payload : Text.Utf8.Bytes} {result : Except Fault Unit}
    (ended : c.publish now none exchange payload = (left, .settled spent result)) :
    spent + left.broker.declaringAhead ≤
      c.allowance now exchange payload + c.broker.declaringAhead := by
  refine spent_le_of_paid (fun s => s.rule = c.rule) (fun s => s.broker.declaringAhead) ?_ rfl ended
  intro s now next spent result same tried
  obtain ⟨kept, inTime⟩ := tryPublish_declaring tried
  rw [same] at kept inTime
  exact ⟨kept, inTime⟩

/-- With its exchange declared before, a publication keeps to its time, if it ends. -/
theorem inTime_of_declared {c left : BrokerChannel} {now spent : Nat} {exchange : String}
    {payload : Text.Utf8.Bytes} {result : Except Fault Unit} (known : exchange ∈ c.declared)
    (ended : c.publish now none exchange payload = (left, .settled spent result)) :
    spent ≤ c.allowance now exchange payload := by
  refine spent_le_of_paid (fun s => s.rule = c.rule ∧ exchange ∈ s.declared) (fun _ => 0) ?_
    ⟨rfl, known⟩ ended
  rintro s now next spent result ⟨same, known⟩ tried
  obtain ⟨kept, inTime⟩ := tryPublish_declared known tried
  rw [same] at kept inTime
  exact ⟨kept, inTime⟩

theorem tryPublish_answered {exchange : String} (payload : Text.Utf8.Bytes) {c : BrokerChannel}
    (now : Nat) (known : exchange ∈ c.declared) :
    ∃ left spent result, tryPublish exchange payload c now = (left, .settled spent result) ∧
      exchange ∈ left.declared := by
  obtain ⟨spent, result, handed, _⟩ := handOver_settles (publication exchange payload) c now
  rw [tryPublish, if_pos known, handed]
  exact ⟨_, spent, result, rfl, known⟩

/-- Publications run over their time by no more than their declarations take. None runs over,
whatever the broker does, exactly if the exchange has been declared before, and no counter of the
retries is too small. -/
theorem overtime_is_declaring (rule : DispatchRule) (declared : List String) (exchange : String) :
    (∀ (broker : Broker) (left : BrokerChannel) (now spent : Nat) (payload : Text.Utf8.Bytes)
      (result : Except Fault Unit),
      publish ⟨broker, rule, declared⟩ now none exchange payload =
          (left, .settled spent result) →
        spent + left.broker.declaringAhead ≤
          allowance ⟨broker, rule, declared⟩ now exchange payload + broker.declaringAhead) ∧
    ((∀ broker now payload, PublishesInTime ⟨broker, rule, declared⟩ now exchange payload) ↔
      exchange ∈ declared ∧
        (rule.maxRetries = 0 ∨ rule.maxRetries < 2 ^ 32 - 1 ∧ rule.retryDelay < 2 ^ 63)) := by
  refine ⟨fun _ _ _ _ _ _ ended => spent_le_allowance ended, ?_⟩
  constructor
  · intro inTime
    have known : exchange ∈ declared := by
      by_contra unknown
      let b : Broker := .planned { Responses.none with declarations := [.silence] }
      let c : BrokerChannel := ⟨b, rule, declared⟩
      have silent : (tryPublish exchange [] c 0).2 = .pending := by
        rw [tryPublish, if_neg unknown]
        rfl
      have waits : (c.publish 0 none exchange []).2 = .pending :=
        (c.publish_persists 0 exchange []).ends_pending (Prod.ext rfl silent)
      obtain ⟨_, _, ended, _⟩ := inTime b 0 []
      rw [waits] at ended
      cases ended
    refine ⟨known, ?_⟩
    change rule.retryRule.Sound
    by_contra unsound
    obtain ⟨streak, long⟩ : ∃ streak, Text.maxUInt32 < streak := ⟨_, Nat.lt_succ_self _⟩
    let b : Broker := .planned { Responses.none with publications := Response.refusals streak }
    let c : BrokerChannel := ⟨b, rule, declared⟩
    have refuses : c.RefusesMessages exchange streak :=
      ⟨known, rfl, [], (List.append_nil _).symm⟩
    obtain ⟨_, crashed⟩ := (c.publish_persists 0 exchange []).crashes unsound
      (RefusesMessages exchange) (fun _ _ now => tryPublish_refuses exchange [] now) long refuses
    obtain ⟨_, _, ended, _⟩ := inTime b 0 []
    rw [show (c.publish 0 none exchange []).2 = .crashed _ from crashed] at ended
    cases ended
  · rintro ⟨known, sound⟩ broker now payload
    change rule.retryRule.Sound at sound
    obtain ⟨spent, result, ended⟩ :=
      (publish_persists ⟨broker, rule, declared⟩ now exchange payload).settles sound
        (fun _ now known => tryPublish_answered payload now known) (Nat.zero_le _) known
    exact ⟨spent, result, ended, inTime_of_declared known (Prod.ext rfl ended)⟩

/-- A new channel to a broker that takes five seconds for a declaration, with a timeout of one. -/
def slowlyDeclaring : BrokerChannel :=
  .opened (.planned { Responses.none with declarations := [.after 5000 none] }) ⟨0, 500, 1000⟩

/-- A publication without any retry or wait, and a timeout of one second, takes five. -/
theorem slow_declaration_overruns : ¬slowlyDeclaring.PublishesInTime 0 "c" [] := by
  have whole : slowlyDeclaring.course 0 "c" [] = (_, [], .settled 5000 (.ok ())) :=
    slowlyDeclaring.course_eq 0 "c" []
  have ended : (slowlyDeclaring.publish 0 none "c" []).2 = .settled 5000 (.ok ()) :=
    congrArg (fun course => course.2.2) whole
  have waits : slowlyDeclaring.setbacks 0 "c" [] = [] := congrArg (fun course => course.2.1) whole
  rintro ⟨spent, result, endedSo, inTime⟩
  rw [ended] at endedSo
  cases endedSo
  rw [allowance, waits] at inTime
  exact absurd inTime (by decide)

end BrokerChannel

end LobbyPlacement

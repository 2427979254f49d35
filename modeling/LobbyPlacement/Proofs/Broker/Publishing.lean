import LobbyPlacement.Broker.Publisher
import LobbyPlacement.Proofs.Broker.Persistence

/-!
# Publishing

A publication through a broker is a loop of trials, each of which declares the exchange if that is
still to be done, and hands the message over: `publish_persists`. The waits of a dispatch, which its
end does not tell, are collected along its way by `Dispatch.setbacks`.
-/

namespace LobbyPlacement

theorem DispatchRule.longestDoubles (r : DispatchRule) : r.retryRule.LongestDoubles := by
  simp [RetryRule.LongestDoubles, retryRule, longestWait, Text.maxUInt64]

namespace BrokerChannel

def publication (exchange : String) (payload : Text.Utf8.Bytes) : Message :=
  ⟨exchange, "", Announcement.contentType, payload⟩

/-- Hands a message over and waits for the answer, no longer than the rule allows. -/
def handOver (m : Message) : Trial BrokerChannel := fun c now =>
  let (broker, response) := c.broker.meet now (.publish m)
  let late : Attempt := .settled c.rule.timeout (.error (Dispatch.timeoutFault c.rule.timeout))
  ({ c with broker := broker }, match response with
    | .after delay refusal =>
      if delay ≤ c.rule.timeout then .settled delay (Dispatch.handingResult refusal) else late
    | .silence => late)

def tryPublish (exchange : String) (payload : Text.Utf8.Bytes) : Trial BrokerChannel := fun c now =>
  let m := publication exchange payload
  if exchange ∈ c.declared then handOver m c now
  else
    let (broker, response) := c.broker.meet now (.declare exchange Dispatch.fanout)
    let c := { c with broker := broker }
    match response with
    | .after delay none =>
      let (c, attempt) := handOver m { c with declared := exchange :: c.declared } (now + delay)
      (c, attempt.delayed delay)
    | .after delay (some refusal) =>
      (c, .settled delay (.error (Dispatch.declarationFault exchange refusal)))
    | .silence => (c, .pending)

end BrokerChannel

namespace Dispatch

def fault? (d : Dispatch) : Stage → Option Fault
  | .declaring (some refusal) => some (declarationFault d.exchange refusal)
  | .handing (.error fault) => some fault
  | _ => none

/-- The wait, if any, into which a fault has sent a dispatch. -/
def Turn.setback? (now : Nat) (fault : Fault) : Turn → Option Setback
  | .waiting (some wake) .resting _ => some ⟨fault, wake - now⟩
  | _ => none

/-- The waits on the way to the end of a dispatch that a step has left, each with the fault before
it. -/
def setbacks (c : BrokerChannel) : Turn → List Setback
  | .waiting (some wake) stage d =>
    let next := d.step c wake stage
    ((d.fault? stage).bind (next.2.setback? wake)).toList ++ setbacks next.1 next.2
  | _ => []
termination_by turn => turn.rank
decreasing_by exact d.rank_step_below c wake stage

/-- How a dispatch goes on from where a step has left it. -/
def course (start : Nat) (c : BrokerChannel) (now : Nat) (turn : Turn) : Passage BrokerChannel :=
  ((follow none start c now turn).1, setbacks c turn, (follow none start c now turn).2)

/-- How a dispatch goes on after a failed trial. -/
def failed (start : Nat) (d : Dispatch) (c : BrokerChannel) (now : Nat) (fault : Fault) :
    Passage BrokerChannel :=
  let turn := d.fail c.rule.retryRule now fault
  let (left, setbacks, ending) := course start c now turn
  (left, (turn.setback? now fault).toList ++ setbacks, ending)

variable {start now : Nat} {c : BrokerChannel} {d : Dispatch}

theorem course_over (start : Nat) (c : BrokerChannel) (now : Nat) (result : Except Fault Unit) :
    course start c now (.over result) = (c, [], .settled (now - start) result) := by
  simp only [course, follow, setbacks]

theorem course_crashed (start : Nat) (c : BrokerChannel) (now : Nat) :
    course start c now .crashed = (c, [], .crashed (now - start)) := by
  simp only [course, follow, setbacks]

theorem course_silent (start : Nat) (c : BrokerChannel) (now : Nat) (stage : Stage)
    (d : Dispatch) : course start c now (.waiting none stage d) = (c, [], .pending) := by
  simp only [course, follow, setbacks]

theorem course_waiting (start : Nat) (c : BrokerChannel) (now wake : Nat) (stage : Stage)
    (d : Dispatch) :
    course start c now (.waiting (some wake) stage d) =
      let next := d.step c wake stage
      let (left, setbacks, ending) := course start next.1 wake next.2
      (left, ((d.fault? stage).bind (next.2.setback? wake)).toList ++ setbacks, ending) := by
  simp only [course]
  rw [follow, setbacks]
  simp only [Option.all_none, if_true]

theorem course_failing {stage : Stage} {fault : Fault} (heard : d.fault? stage = some fault)
    (wake : Nat) :
    course start c now (.waiting (some wake) stage d) = failed start d c wake fault := by
  rw [course_waiting, heard]
  have step : d.step c wake stage = (c, d.fail c.rule.retryRule wake fault) := by
    cases stage with
    | resting => cases heard
    | declaring refusal =>
      cases refusal with
      | none => cases heard
      | some refusal =>
        cases heard
        rfl
    | handing result =>
      cases result with
      | ok => cases heard
      | error fault =>
        cases heard
        rfl
  rw [step]
  rfl

/-- Handing over comes out as it does on trial. -/
theorem hand_spec (d : Dispatch) (c : BrokerChannel) (now : Nat) :
    ∃ left spent result,
      BrokerChannel.handOver d.message c now = (left, .settled spent result) ∧
      d.hand c now = (left, .waiting (some (now + spent)) (.handing result) d) := by
  simp only [hand, BrokerChannel.handOver]
  generalize c.broker.meet now (.publish d.message) = met
  obtain ⟨broker, response⟩ := met
  cases response with
  | silence => exact ⟨_, _, _, rfl, rfl⟩
  | after delay refusal =>
    by_cases inTime : delay ≤ c.rule.timeout
    · simp only [inTime, if_true]
      exact ⟨_, _, _, rfl, rfl⟩
    · simp only [inTime, if_false]
      exact ⟨_, _, _, rfl, rfl⟩

/-- How a dispatch goes on once a trial to publish has come out so. -/
def courseAfter (start : Nat) (d : Dispatch) (now : Nat) :
    BrokerChannel × Attempt → Passage BrokerChannel
  | (left, .settled spent (.ok ())) => (left, [], .settled (now + spent - start) (.ok ()))
  | (left, .settled spent (.error fault)) => failed start d left (now + spent) fault
  | (left, .pending) => (left, [], .pending)
  | (left, .crashed after) => (left, [], .crashed after)

theorem course_hand (start : Nat) (d : Dispatch) (c : BrokerChannel) (now : Nat) :
    course start (d.hand c now).1 now (d.hand c now).2 =
      courseAfter start d now (BrokerChannel.handOver d.message c now) := by
  obtain ⟨left, spent, result, handed, same⟩ := d.hand_spec c now
  rw [handed, same]
  cases result with
  | ok =>
    dsimp only
    rw [course_waiting]
    simp only [step, course_over]
    rfl
  | error fault => exact course_failing rfl _

theorem courseAfter_delayed (start : Nat) (d : Dispatch) (now delay : Nat)
    {left : BrokerChannel} {spent : Nat} {result : Except Fault Unit} :
    courseAfter start d now (left, (Attempt.settled spent result).delayed delay) =
      courseAfter start d (now + delay) (left, .settled spent result) := by
  cases result <;> simp only [Attempt.delayed_settled, courseAfter, Nat.add_assoc]

/-- A dispatch that starts an attempt goes on as a trial to publish comes out. -/
theorem course_enter (start : Nat) (d : Dispatch) (c : BrokerChannel) (now : Nat) :
    course start (d.enter c now).1 now (d.enter c now).2 =
      courseAfter start d now (BrokerChannel.tryPublish d.exchange d.payload c now) := by
  unfold enter BrokerChannel.tryPublish
  by_cases known : d.exchange ∈ c.declared
  · simp only [known, if_true]
    exact course_hand start d c now
  · simp only [known, if_false]
    generalize c.broker.meet now (.declare d.exchange fanout) = met
    obtain ⟨broker, response⟩ := met
    cases response with
    | silence => exact course_silent _ _ _ _ _
    | after delay refusal =>
      cases refusal with
      | some refusal => exact course_failing rfl _
      | none =>
        let known : BrokerChannel := ⟨broker, c.rule, d.exchange :: c.declared⟩
        obtain ⟨left, spent, result, handed, same⟩ := d.hand_spec known (now + delay)
        dsimp only
        rw [course_waiting]
        change course start (d.hand known (now + delay)).1 (now + delay)
            (d.hand known (now + delay)).2 =
          courseAfter start d now ((BrokerChannel.handOver d.message known (now + delay)).1,
            (BrokerChannel.handOver d.message known (now + delay)).2.delayed delay)
        rw [course_hand, handed, courseAfter_delayed]

theorem failed_eq (start : Nat) (d : Dispatch) (c : BrokerChannel) (now : Nat) (fault : Fault) :
    failed start d c now fault =
      match d.patience.afterFailure c.rule.retryRule with
      | .giveUp => (c, [], .settled (now - start) (.error fault))
      | .overflow => (c, [], .crashed (now - start))
      | .retry counted =>
        match counted.afterWait c.rule.retryRule with
        | none => (c, [⟨fault, counted.wait⟩], .crashed (now + counted.wait - start))
        | some next =>
          let rested := now + counted.wait
          let (left, setbacks, ending) := courseAfter start { d with patience := next } rested
            (BrokerChannel.tryPublish d.exchange d.payload c rested)
          (left, ⟨fault, counted.wait⟩ :: setbacks, ending) := by
  unfold failed fail
  cases verdict : d.patience.afterFailure c.rule.retryRule with
  | giveUp => simp only [course_over, Turn.setback?, Option.toList_none, List.nil_append]
  | overflow => simp only [course_crashed, Turn.setback?, Option.toList_none, List.nil_append]
  | retry counted =>
    simp only [course_waiting, fault?, Turn.setback?, step, Nat.add_sub_cancel_left,
      Option.bind_none, Option.toList_none, Option.toList_some, List.nil_append,
      List.singleton_append]
    cases fits : counted.afterWait c.rule.retryRule with
    | none => simp only [course_crashed]
    | some next => simp only [course_enter]

end Dispatch

namespace BrokerChannel

/-- Handing over is always settled in time, and changes nothing but the broker. -/
theorem handOver_settles (m : Message) (c : BrokerChannel) (now : Nat) :
    ∃ spent result, handOver m c now =
        ({ c with broker := (c.broker.meet now (.publish m)).1 }, .settled spent result) ∧
      spent ≤ c.rule.timeout := by
  unfold handOver
  generalize c.broker.meet now (.publish m) = met
  obtain ⟨broker, response⟩ := met
  cases response with
  | silence => exact ⟨_, _, rfl, Nat.le_refl _⟩
  | after delay refusal =>
    by_cases inTime : delay ≤ c.rule.timeout
    · simp only [inTime, if_true]
      exact ⟨_, _, rfl, inTime⟩
    · simp only [inTime, if_false]
      exact ⟨_, _, rfl, Nat.le_refl _⟩

/-- A trial to publish keeps the rule and never crashes by itself. -/
theorem tryPublish_sound (exchange : String) (payload : Text.Utf8.Bytes) (c : BrokerChannel)
    (now : Nat) :
    (tryPublish exchange payload c now).1.rule = c.rule ∧
      ∀ after, (tryPublish exchange payload c now).2 ≠ .crashed after := by
  unfold tryPublish
  by_cases known : exchange ∈ c.declared
  · simp only [known, if_true]
    obtain ⟨spent, result, handed, _⟩ :=
      handOver_settles (publication exchange payload) c now
    rw [handed]
    exact ⟨rfl, fun _ => nofun⟩
  · simp only [known, if_false]
    generalize c.broker.meet now (.declare exchange Dispatch.fanout) = met
    obtain ⟨broker, response⟩ := met
    rcases response with ⟨delay, _ | refusal⟩ | _
    · dsimp only
      obtain ⟨spent, result, handed, _⟩ :=
        handOver_settles (publication exchange payload)
          ⟨broker, c.rule, exchange :: c.declared⟩ (now + delay)
      rw [handed]
      exact ⟨rfl, fun _ => nofun⟩
    · exact ⟨rfl, fun _ => nofun⟩
    · exact ⟨rfl, fun _ => nofun⟩

end BrokerChannel

namespace Dispatch

theorem courseAfter_persists (d : Dispatch) (c : BrokerChannel) {start now failures : Nat}
    (counted : d.patience = c.rule.retryRule.patience failures) (started : start ≤ now) :
    ∃ left setbacks ending,
      Persists c.rule.retryRule (BrokerChannel.tryPublish d.exchange d.payload) id failures c now
        (left, setbacks, ending) ∧
      courseAfter start d now (BrokerChannel.tryPublish d.exchange d.payload c now) =
        (left, setbacks, ending.delayed (now - start)) := by
  -- The induction is on the failures that can still be counted.
  induction room : Text.maxUInt32 - failures using Nat.strongRecOn
    generalizing d c now failures with
  | ind _ ih =>
  obtain ⟨kept, steady⟩ := BrokerChannel.tryPublish_sound d.exchange d.payload c now
  cases tried : BrokerChannel.tryPublish d.exchange d.payload c now with
  | mk left attempt =>
  rw [tried] at kept steady
  cases attempt with
  | crashed after => exact (steady after rfl).elim
  | pending => exact ⟨left, [], .pending, .unanswered tried, rfl⟩
  | settled spent result =>
    cases result with
    | ok =>
      refine ⟨left, [], .settled spent (.ok ()), .succeeded tried, ?_⟩
      simp only [courseAfter, Attempt.delayed_settled, Nat.sub_add_comm started]
    | error fault =>
      simp only [courseAfter]
      rw [failed_eq, kept, counted]
      cases verdict : (c.rule.retryRule.patience failures).afterFailure c.rule.retryRule with
      | giveUp =>
        obtain ⟨counted, enough⟩ := RetryRule.enough_of_giveUp verdict
        refine ⟨left, [], .settled spent (.error fault), .gaveUp tried counted enough, ?_⟩
        simp only [Attempt.delayed_settled, Nat.sub_add_comm started]
      | overflow =>
        refine ⟨left, [], .crashed spent,
          .uncounted tried (RetryRule.uncounted_of_overflow verdict), ?_⟩
        simp only [Attempt.delayed_crashed, Nat.sub_add_comm started]
      | retry next =>
        obtain ⟨counted, fewer, rfl⟩ := RetryRule.fewer_of_retry verdict
        cases fits : Patience.afterWait c.rule.retryRule
            ⟨failures + 1, c.rule.retryRule.wait failures⟩ with
        | none =>
          obtain ⟨rfl, tooLong⟩ := RetryRule.undoubled_of_none c.rule.longestDoubles fits
          refine ⟨left, _, _, .undoubled tried fewer tooLong, ?_⟩
          dsimp only
          rw [fits, Attempt.delayed_crashed, Nat.add_assoc now, Nat.sub_add_comm started]
        | some next =>
          obtain ⟨doubled, rfl⟩ := RetryRule.doubled_of_some c.rule.longestDoubles fits
          have later : start ≤ now + (spent + c.rule.retryRule.wait failures) := by omega
          obtain ⟨last, setbacks, ending, rest, same⟩ := ih (Text.maxUInt32 - (failures + 1))
            (by omega) { d with patience := c.rule.retryRule.patience (failures + 1) } left
            (by rw [kept]) later rfl
          rw [kept] at rest
          refine ⟨last, _, _, .retried tried counted fewer doubled rest, ?_⟩
          dsimp only at same ⊢
          rw [fits]
          dsimp only
          rw [Nat.add_assoc now, same, Attempt.delayed_delayed, Nat.sub_add_comm started]

end Dispatch

namespace BrokerChannel

/-- The waits of a publication, each with the fault before it. -/
def setbacks (c : BrokerChannel) (now : Nat) (exchange : String) (payload : Text.Utf8.Bytes) :
    List Setback :=
  let (c, turn) := Dispatch.begin exchange payload c now
  Dispatch.setbacks c turn

/-- How a publication goes to its end, if there is no deadline. -/
def course (c : BrokerChannel) (now : Nat) (exchange : String) (payload : Text.Utf8.Bytes) :
    Passage BrokerChannel :=
  let (left, ending) := c.publish now none exchange payload
  (left, c.setbacks now exchange payload, ending)

theorem course_eq (c : BrokerChannel) (now : Nat) (exchange : String)
    (payload : Text.Utf8.Bytes) :
    c.course now exchange payload =
      Dispatch.courseAfter now ⟨exchange, payload, .start c.rule.retryRule⟩ now
        (tryPublish exchange payload c now) :=
  Dispatch.course_enter now ⟨exchange, payload, .start c.rule.retryRule⟩ c now

/-- Publishing is a loop of trials, ended by the fault of the last one. -/
theorem publish_persists (c : BrokerChannel) (now : Nat) (exchange : String)
    (payload : Text.Utf8.Bytes) :
    Persists c.rule.retryRule (tryPublish exchange payload) id 0 c now
      (c.course now exchange payload) := by
  obtain ⟨left, setbacks, ending, goes, same⟩ :=
    Dispatch.courseAfter_persists ⟨exchange, payload, .start c.rule.retryRule⟩ c rfl
      (Nat.le_refl now)
  rw [Nat.sub_self, Attempt.delayed_zero] at same
  rw [course_eq, same]
  exact goes

/-- A channel that has declared an exchange, to a broker that refuses the next so many messages. -/
def RefusesMessages (exchange : String) (number : Nat) (c : BrokerChannel) : Prop :=
  exchange ∈ c.declared ∧ c.broker.isReachable = true ∧
    ∃ rest, c.broker.responses.publications = Response.refusals number ++ rest

theorem tryPublish_refuses (exchange : String) (payload : Text.Utf8.Bytes) {c : BrokerChannel}
    (now : Nat) {number : Nat} (refuses : c.RefusesMessages exchange (number + 1)) :
    ∃ left spent fault,
      tryPublish exchange payload c now = (left, .settled spent (.error fault)) ∧
        left.RefusesMessages exchange number := by
  obtain ⟨known, reachable, rest, plan⟩ := refuses
  rw [Response.refusals_succ, List.cons_append] at plan
  have met := Broker.meet_of_reachable reachable now (.publish (publication exchange payload))
  have refused : (Broker.respond c.broker.responses
      (.publish (publication exchange payload))).2 = .after 0 (some "") := by
    rw [Broker.respond, plan, List.headD_cons]
  rw [refused] at met
  have tried : tryPublish exchange payload c now =
      ({ c with broker := (c.broker.meet now (.publish (publication exchange payload))).1 },
        .settled 0 (.error (Dispatch.handingFault ""))) := by
    simp only [tryPublish, known, if_true, handOver, met, Nat.zero_le]
    rfl
  rw [met] at tried
  refine ⟨_, 0, _, tried, known, reachable, rest, ?_⟩
  show c.broker.responses.publications.tail = _
  rw [plan, List.tail_cons]

end BrokerChannel

end LobbyPlacement

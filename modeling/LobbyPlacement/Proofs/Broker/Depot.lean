import LobbyPlacement.Proofs.Broker.Publishing

/-!
# Dispatches in any order

Any number of dispatches on one channel, begun at any time, each taking its steps whenever it is its
turn, and given up at any of them: the depot is one publisher for a broker with all its concurrent
publications. They share the book of declared exchanges. One dispatch at a time has it: to look up
its exchange and, if that is to be declared, until the declaration is answered or the dispatch is
given up. `step_goes` says what one event does to the book, to the dispatch that has it, and to what
the broker is called for. A dispatch that has the channel for itself goes as a publication does:
`published_alone`.
-/

namespace LobbyPlacement

def Response.grants : Response → Bool
  | after _ none => true
  | after _ (some _) | silence => false

namespace Broker

/-- What a broker hears of some calls. -/
def heard (b : Broker) (calls : List (Nat × BrokerCall)) : List (Nat × BrokerCall) :=
  if b.isReachable then calls else []

theorem log_unheard (b : Broker) : b.log = b.log ++ b.heard [] := by
  rw [heard, ite_self, List.append_nil]

theorem heard_append (b : Broker) (first second : List (Nat × BrokerCall)) :
    b.heard (first ++ second) = b.heard first ++ b.heard second := by
  unfold heard
  split <;> rfl

theorem meet_keeps (b : Broker) (now : Nat) (call : BrokerCall) :
    (b.meet now call).1.isReachable = b.isReachable ∧
      (b.meet now call).1.log = b.log ++ b.heard [(now, call)] := by
  unfold meet heard
  split
  · exact ⟨rfl, rfl⟩
  · exact ⟨rfl, (List.append_nil _).symm⟩

end Broker

/-- Where a dispatch among others stands: it queues for the book, is as its last step has left it,
or has been given up. -/
inductive Place
  | queued (d : Dispatch)
  | underway (turn : Dispatch.Turn)
  | abandoned

namespace Place

/-- The exchange that a dispatch is declaring, and whether it is going to hear that it may. As long
as it waits for that, it has the book. -/
def declaring? : Place → Option (String × Bool)
  | underway (.waiting wake (.declaring refusal) d) =>
    some (d.exchange, wake.isSome && refusal.isNone)
  | _ => none

def isWaiting : Place → Bool
  | queued _ => true
  | underway (.waiting ..) => true
  | _ => false

end Place

/-- What goes on between a channel and its broker: a declaration is asked for, which the broker is
going to meet with a response, and then heard to be granted or refused, or given up; a message is
handed over. -/
inductive Happening
  | asked (exchange : String) (response : Response)
  | granted (exchange : String)
  | refused (exchange : String)
  | dropped (exchange : String)
  | handed (message : Message)

namespace Happening

def exchange : Happening → String
  | asked exchange _ | granted exchange | refused exchange | dropped exchange => exchange
  | handed message => message.exchange

def call? : Happening → Option BrokerCall
  | asked exchange _ => some (.declare exchange Dispatch.fanout)
  | handed message => some (.publish message)
  | granted _ | refused _ | dropped _ => none

end Happening

namespace Dispatch

/-- What a dispatch does with the book. -/
def opening (d : Dispatch) (c : BrokerChannel) (now : Nat) : Happening :=
  if d.exchange ∈ c.declared then .handed d.message
  else .asked d.exchange (c.broker.meet now (.declare d.exchange fanout)).2

/-- What a dispatch has heard when its wait is over, and does about it. -/
def hearing (d : Dispatch) : Stage → List Happening
  | .declaring none => [.granted d.exchange, .handed d.message]
  | .declaring (some _) => [.refused d.exchange]
  | .handing _ | .resting => []

theorem hand_leaves (d : Dispatch) (c : BrokerChannel) (now : Nat) :
    ∃ turn, d.hand c now =
        ({ c with broker := (c.broker.meet now (.publish d.message)).1 }, turn) ∧
      (Place.underway turn).declaring? = none := by
  obtain ⟨left, spent, result, handed, same⟩ := d.hand_spec c now
  obtain ⟨_, _, settled, _⟩ := BrokerChannel.handOver_settles d.message c now
  rw [settled] at handed
  cases handed
  exact ⟨_, same, rfl⟩

theorem enter_asks {d : Dispatch} {c : BrokerChannel} (unknown : d.exchange ∉ c.declared)
    (now : Nat) :
    ∃ turn, d.enter c now =
        ({ c with broker := (c.broker.meet now (.declare d.exchange fanout)).1 }, turn) ∧
      (Place.underway turn).declaring? =
        some (d.exchange, (c.broker.meet now (.declare d.exchange fanout)).2.grants) := by
  simp only [enter, unknown, if_false]
  generalize c.broker.meet now (.declare d.exchange fanout) = met
  rcases met with ⟨broker, ⟨delay, _ | refusal⟩ | _⟩ <;> exact ⟨_, rfl, rfl⟩

theorem declaring?_fail (d : Dispatch) (rule : RetryRule) (now : Nat) (fault : Fault) :
    (Place.underway (d.fail rule now fault)).declaring? = none := by
  unfold fail
  split <;> rfl

end Dispatch

/-- The dispatches on a channel, and what has gone on so far. -/
structure Depot where
  channel : BrokerChannel
  now : Nat
  places : List Place
  history : List (Nat × Happening)

namespace Depot

/-- What may happen next: a new dispatch, the book for one that queues, a step of one whose wait is
over, the end of one that is given up, some milliseconds, or a broker that changes its mind. -/
inductive Event
  | enter (exchange : String) (payload : Text.Utf8.Bytes)
  | lend (number : Nat)
  | advance (number : Nat)
  | cancel (number : Nat)
  | elapse (ms : Nat)
  | weather (responses : Responses) (isOpen : Bool)

def opened (broker : Broker) (rule : DispatchRule) : Depot := ⟨.opened broker rule, 0, [], []⟩

/-- The exchanges that are being declared. -/
def asking (h : Depot) : List (String × Bool) := h.places.filterMap Place.declaring?

def move (h : Depot) (number : Nat) (channel : BrokerChannel) (place : Place)
    (told : List Happening) : Depot :=
  { h with
    channel := channel
    places := h.places.set number place
    history := h.history ++ told.map (h.now, ·) }

def enter (h : Depot) (exchange : String) (payload : Text.Utf8.Bytes) : Depot :=
  let d : Dispatch := ⟨exchange, payload, .start h.channel.rule.retryRule⟩
  { h with places := h.places ++ [.queued d] }

/-- The book goes to a dispatch that queues for it, if no other one has it. -/
def lend (h : Depot) (number : Nat) : Depot :=
  match h.places[number]? with
  | some (.queued d) =>
    if h.asking = [] then
      let (channel, turn) := d.enter h.channel h.now
      h.move number channel (.underway turn) [d.opening h.channel h.now]
    else h
  | _ => h

/-- A dispatch whose wait is over goes on; after a rest it queues again. -/
def advance (h : Depot) (number : Nat) : Depot :=
  match h.places[number]? with
  | some (.underway (.waiting (some wake) stage d)) =>
    if wake ≤ h.now then
      match stage with
      | .resting =>
        h.move number h.channel (match d.patience.afterWait h.channel.rule.retryRule with
          | some next => .queued { d with patience := next }
          | none => .underway .crashed) []
      | stage =>
        let (channel, turn) := d.step h.channel h.now stage
        h.move number channel (.underway turn) (d.hearing stage)
    else h
  | _ => h

/-- A dispatch that is not over can be given up wherever it waits. -/
def cancel (h : Depot) (number : Nat) : Depot :=
  match h.places[number]? with
  | some place =>
    if place.isWaiting then
      h.move number h.channel .abandoned (place.declaring?.map fun asked => .dropped asked.1).toList
    else h
  | none => h

def step (h : Depot) : Event → Depot
  | .enter exchange payload => h.enter exchange payload
  | .lend number => h.lend number
  | .advance number => h.advance number
  | .cancel number => h.cancel number
  | .elapse ms => { h with now := h.now + ms }
  | .weather responses isOpen =>
    { h with
      channel.broker.responses := responses
      channel.broker.isOpen := isOpen }

def run (h : Depot) (events : List Event) : Depot := events.foldl step h

theorem run_append (h : Depot) (first second : List Event) :
    h.run (first ++ second) = (h.run first).run second :=
  List.foldl_append

/-! ### What an event changes -/

def told (h : Depot) : List Happening := h.history.map Prod.snd

/-- The calls that the broker gets, each with its time. -/
def calls (history : List (Nat × Happening)) : List (Nat × BrokerCall) :=
  history.filterMap fun (time, happening) => happening.call?.map (time, ·)

theorem calls_append (first second : List (Nat × Happening)) :
    calls (first ++ second) = calls first ++ calls second :=
  List.filterMap_append

/-- What one event may do to the declared exchanges and to those being declared, and what is told
of it. -/
inductive Change (declared : List String) :
    List (String × Bool) → List String → List (String × Bool) → List Happening → Prop
  | still (asking : List (String × Bool)) : Change declared asking declared asking []
  | asked {exchange : String} (unknown : exchange ∉ declared) (response : Response) :
      Change declared [] declared [(exchange, response.grants)] [.asked exchange response]
  | handed {message : Message} (known : message.exchange ∈ declared)
      (asking : List (String × Bool)) :
      Change declared asking declared asking [.handed message]
  | granted (message : Message) :
      Change declared [(message.exchange, true)] (message.exchange :: declared) []
        [.granted message.exchange, .handed message]
  | refused (exchange : String) :
      Change declared [(exchange, false)] declared [] [.refused exchange]
  | dropped (exchange : String) (granting : Bool) :
      Change declared [(exchange, granting)] declared [] [.dropped exchange]

/-- How a depot may change when it is told of so much. -/
structure Goes (h : Depot) (told : List Happening) (h' : Depot) : Prop where
  history : h'.history = h.history ++ told.map (h.now, ·)
  change : Change h.channel.declared h.asking h'.channel.declared h'.asking told
  reachable : h'.channel.broker.isReachable = h.channel.broker.isReachable
  log : h'.channel.broker.log =
    h.channel.broker.log ++ h.channel.broker.heard (calls (told.map (h.now, ·)))

theorem Goes.told_append {h h' : Depot} {told : List Happening} (goes : h.Goes told h') :
    h'.told = h.told ++ told := by
  rw [Depot.told, goes.history, List.map_append, List.map_map]
  exact congrArg _ (List.map_id _)

variable {h : Depot} {number : Nat} {old : Place}

/-- The exchange that a dispatch is declaring stands in the book where the dispatch stands. -/
theorem asking_move (stood : h.places[number]? = some old) (channel : BrokerChannel)
    (place : Place) (told : List Happening) :
    ∃ before after, h.asking = before ++ old.declaring?.toList ++ after ∧
      (h.move number channel place told).asking = before ++ place.declaring?.toList ++ after := by
  obtain ⟨inside, rfl⟩ := List.getElem?_eq_some_iff.mp stood
  obtain ⟨first, last, whole, -, set⟩ := @List.exists_of_set _ number place _ inside
  have filtered (p : Place) : (first ++ p :: last).filterMap Place.declaring? =
      first.filterMap Place.declaring? ++ p.declaring?.toList ++
        last.filterMap Place.declaring? := by
    rw [List.filterMap_append, List.filterMap_cons, List.append_assoc]
    cases p.declaring? <;> rfl
  refine ⟨first.filterMap Place.declaring?, last.filterMap Place.declaring?, ?_, ?_⟩
  · rw [← filtered, ← whole]
    rfl
  · rw [← filtered, ← set]
    rfl

theorem asking_move_idle (stood : h.places[number]? = some old) (idle : old.declaring? = none)
    (channel : BrokerChannel) {place : Place} (still : place.declaring? = none)
    (told : List Happening) : (h.move number channel place told).asking = h.asking := by
  obtain ⟨before, after, was, is⟩ := asking_move stood channel place told
  rw [was, is, idle, still]

theorem asking_move_free (stood : h.places[number]? = some old) (free : h.asking = [])
    (channel : BrokerChannel) (place : Place) (told : List Happening) :
    (h.move number channel place told).asking = place.declaring?.toList := by
  obtain ⟨before, after, was, is⟩ := asking_move stood channel place told
  rw [free] at was
  obtain ⟨⟨rfl, -⟩, rfl⟩ : (before = [] ∧ _) ∧ after = [] := by
    simpa only [List.append_eq_nil_iff] using was.symm
  rw [is, List.nil_append, List.append_nil]

theorem asking_move_holder {asked : String × Bool} (single : h.asking.length ≤ 1)
    (stood : h.places[number]? = some old) (holds : old.declaring? = some asked)
    (channel : BrokerChannel) {place : Place} (leaves : place.declaring? = none)
    (told : List Happening) :
    h.asking = [asked] ∧ (h.move number channel place told).asking = [] := by
  obtain ⟨before, after, was, is⟩ := asking_move stood channel place told
  rw [holds] at was
  rw [leaves] at is
  -- Nobody else has it, so the others have left nothing before or after.
  rw [was] at single
  simp only [Option.toList_some, List.length_append, List.length_singleton] at single
  obtain rfl := List.eq_nil_of_length_eq_zero (show before.length = 0 by omega)
  obtain rfl := List.eq_nil_of_length_eq_zero (show after.length = 0 by omega)
  exact ⟨was, is⟩

theorem goes_still {h' : Depot} (history : h'.history = h.history)
    (channel : h'.channel = h.channel) (asking : h'.asking = h.asking) : h.Goes [] h' where
  history := by rw [history, List.map_nil, List.append_nil]
  change := by
    rw [channel, asking]
    exact .still _
  reachable := by rw [channel]
  log := by
    rw [channel]
    exact Broker.log_unheard _

/-- A dispatch that does not wait for a declaration goes on without a word. -/
theorem goes_quietly {place : Place} (stood : h.places[number]? = some old)
    (idle : old.declaring? = none) (leaves : place.declaring? = none) :
    h.Goes [] (h.move number h.channel place []) :=
  goes_still (List.append_nil _) rfl (asking_move_idle stood idle _ leaves [])

theorem goes_leaving {asked : String × Bool} {channel : BrokerChannel} {place : Place}
    {told : List Happening} (single : h.asking.length ≤ 1)
    (stood : h.places[number]? = some old) (holds : old.declaring? = some asked)
    (leaves : place.declaring? = none)
    (change : Change h.channel.declared [asked] channel.declared [] told)
    (reachable : channel.broker.isReachable = h.channel.broker.isReachable)
    (log : channel.broker.log =
      h.channel.broker.log ++ h.channel.broker.heard (calls (told.map (h.now, ·)))) :
    h.Goes told (h.move number channel place told) := by
  obtain ⟨was, is⟩ := asking_move_holder single stood holds channel leaves told
  refine ⟨rfl, ?_, reachable, log⟩
  rw [was, is]
  exact change

theorem goes_lend (h : Depot) (number : Nat) : ∃ told, h.Goes told (h.lend number) := by
  unfold lend
  split
  next d stood =>
    split
    next free =>
      -- With the exchange declared, the book is free again as soon as it has been looked up.
      by_cases known : d.exchange ∈ h.channel.declared
      · obtain ⟨turn, handed, leaves⟩ := d.hand_leaves h.channel h.now
        have entered : d.enter h.channel h.now = d.hand h.channel h.now := if_pos known
        obtain ⟨reachable, log⟩ := h.channel.broker.meet_keeps h.now (.publish d.message)
        refine ⟨[.handed d.message], ?_⟩
        simp only [entered, handed, Dispatch.opening, known, if_true]
        refine ⟨rfl, ?_, reachable, log⟩
        rw [asking_move_idle stood rfl _ leaves]
        exact .handed known _
      · obtain ⟨turn, entered, asks⟩ := Dispatch.enter_asks known h.now
        obtain ⟨reachable, log⟩ := h.channel.broker.meet_keeps h.now
          (.declare d.exchange Dispatch.fanout)
        simp only [entered, Dispatch.opening, known, if_false]
        refine ⟨_, rfl, ?_, reachable, log⟩
        rw [asking_move_free stood free, free, asks]
        exact .asked known _
    next => exact ⟨[], goes_still rfl rfl rfl⟩
  next => exact ⟨[], goes_still rfl rfl rfl⟩

theorem goes_advance (single : h.asking.length ≤ 1) (number : Nat) :
    ∃ told, h.Goes told (h.advance number) := by
  unfold advance
  split
  next wake stage d stood =>
    split
    next due =>
      cases stage with
      | resting =>
        refine ⟨[], goes_quietly stood rfl ?_⟩
        split <;> rfl
      | handing result =>
        refine ⟨[], ?_⟩
        cases result with
        | ok => exact goes_quietly stood rfl rfl
        | error fault => exact goes_quietly stood rfl (d.declaring?_fail _ _ _)
      | declaring refusal =>
        cases refusal with
        | none =>
          let known : BrokerChannel :=
            { h.channel with declared := d.exchange :: h.channel.declared }
          obtain ⟨turn, handed, leaves⟩ := d.hand_leaves known h.now
          have stepped : d.step h.channel h.now (.declaring none) = d.hand known h.now := rfl
          obtain ⟨reachable, log⟩ := h.channel.broker.meet_keeps h.now (.publish d.message)
          refine ⟨[.granted d.exchange, .handed d.message], ?_⟩
          simp only [stepped, handed]
          exact goes_leaving single stood rfl leaves (.granted d.message) reachable log
        | some refusal =>
          exact ⟨[.refused d.exchange], goes_leaving single stood rfl
            (d.declaring?_fail _ _ _) (.refused d.exchange) rfl (Broker.log_unheard _)⟩
    next => exact ⟨[], goes_still rfl rfl rfl⟩
  next => exact ⟨[], goes_still rfl rfl rfl⟩

theorem goes_cancel (single : h.asking.length ≤ 1) (number : Nat) :
    ∃ told, h.Goes told (h.cancel number) := by
  unfold cancel
  split
  next old stood =>
    split
    next =>
      cases declaring : old.declaring? with
      | none => exact ⟨[], goes_quietly stood declaring rfl⟩
      | some asked =>
        exact ⟨[.dropped asked.1], goes_leaving single stood declaring rfl
          (.dropped asked.1 asked.2) rfl (Broker.log_unheard _)⟩
    next => exact ⟨[], goes_still rfl rfl rfl⟩
  next => exact ⟨[], goes_still rfl rfl rfl⟩

theorem step_goes (single : h.asking.length ≤ 1) (e : Event) :
    ∃ told, h.Goes told (h.step e) := by
  cases e with
  | enter exchange payload =>
    refine ⟨[], goes_still rfl rfl ?_⟩
    simp only [asking, step, enter, List.filterMap_append]
    exact List.append_nil _
  | lend number => exact h.goes_lend number
  | advance number => exact goes_advance single number
  | cancel number => exact goes_cancel single number
  | elapse ms => exact ⟨[], goes_still rfl rfl rfl⟩
  | weather responses isOpen =>
    exact ⟨[], (List.append_nil _).symm, .still _, rfl, Broker.log_unheard _⟩

end Depot

/-! ### A dispatch alone -/

namespace Dispatch

def Turn.NotBefore (now : Nat) : Turn → Prop
  | .waiting (some wake) _ _ => now ≤ wake
  | .waiting none _ _ | .over _ | .crashed => True

theorem notBefore_hand (d : Dispatch) (c : BrokerChannel) (now : Nat) :
    (d.hand c now).2.NotBefore now := by
  obtain ⟨left, spent, result, -, same⟩ := d.hand_spec c now
  rw [same]
  exact Nat.le_add_right now spent

theorem notBefore_enter (d : Dispatch) (c : BrokerChannel) (now : Nat) :
    (d.enter c now).2.NotBefore now := by
  unfold enter
  split
  · exact d.notBefore_hand c now
  · dsimp only
    split
    · exact Nat.le_add_right now _
    · trivial

theorem notBefore_fail (d : Dispatch) (rule : RetryRule) (now : Nat) (fault : Fault) :
    (d.fail rule now fault).NotBefore now := by
  unfold fail
  split
  · trivial
  · trivial
  · exact Nat.le_add_right now _

theorem notBefore_step (d : Dispatch) (c : BrokerChannel) (now : Nat) (stage : Stage) :
    (d.step c now stage).2.NotBefore now := by
  unfold step
  split
  · exact d.notBefore_hand _ now
  · exact d.notBefore_fail _ now _
  · trivial
  · exact d.notBefore_fail _ now _
  · split
    · exact notBefore_enter _ c now
    · trivial

end Dispatch

namespace Depot

/-- The only dispatch stands as an attempt has come out, some time after its start; an attempt that
has not come out waits, and can be given up there. -/
def Shows (start : Nat) (h : Depot) : Attempt → Prop
  | .settled spent result => h.now = start + spent ∧ h.places = [.underway (.over result)]
  | .crashed after => h.now = start + after ∧ h.places = [.underway .crashed]
  | .pending => ∃ place, h.places = [place] ∧ place.isWaiting = true

theorem lend_alone (c : BrokerChannel) (now : Nat) (d : Dispatch)
    (history : List (Nat × Happening)) :
    ∃ history', Depot.lend ⟨c, now, [.queued d], history⟩ 0 =
      ⟨(d.enter c now).1, now, [.underway (d.enter c now).2], history'⟩ :=
  ⟨_, rfl⟩

theorem step_alone (c : BrokerChannel) {now wake : Nat} (ahead : now ≤ wake)
    (stage : Dispatch.Stage) (d : Dispatch) (history : List (Nat × Happening)) :
    ∃ events history', Depot.run
        ⟨c, now, [.underway (.waiting (some wake) stage d)], history⟩ events =
      ⟨(d.step c wake stage).1, wake, [.underway (d.step c wake stage).2], history'⟩ := by
  -- The clock comes to the wake; what is left is to show that the step is taken there.
  suffices stepped : ∃ events history', Depot.run
      ⟨c, wake, [.underway (.waiting (some wake) stage d)], history⟩ events =
        ⟨(d.step c wake stage).1, wake, [.underway (d.step c wake stage).2], history'⟩ by
    obtain ⟨events, history', stepped⟩ := stepped
    refine ⟨.elapse (wake - now) :: events, history', ?_⟩
    rw [← stepped, run, List.foldl_cons, step, Nat.add_sub_of_le ahead, run]
  cases stage with
  | declaring | handing =>
    refine ⟨[.advance 0], ?_⟩
    simp only [run, List.foldl, step, advance, List.getElem?_cons_zero, Nat.le_refl, if_true]
    exact ⟨_, rfl⟩
  | resting =>
    cases fits : d.patience.afterWait c.rule.retryRule with
    | none =>
      refine ⟨[.advance 0], ?_⟩
      simp only [run, List.foldl, step, advance, List.getElem?_cons_zero, Nat.le_refl, if_true,
        Dispatch.step, fits]
      exact ⟨_, rfl⟩
    | some next =>
      refine ⟨[.advance 0, .lend 0], ?_⟩
      simp only [run, List.foldl, step, advance, List.getElem?_cons_zero, Nat.le_refl, if_true,
        Dispatch.step, fits]
      exact lend_alone _ _ _ _

/-- A dispatch alone goes on as a publication does that a step has left there. -/
theorem follow_alone (deadline : Option Nat) (start : Nat) (c : BrokerChannel) (now : Nat)
    (turn : Dispatch.Turn) (history : List (Nat × Happening)) (started : start ≤ now)
    (ahead : turn.NotBefore now) :
    ∃ events, let h := Depot.run ⟨c, now, [.underway turn], history⟩ events
      h.channel = (Dispatch.follow deadline start c now turn).1 ∧
        h.Shows start (Dispatch.follow deadline start c now turn).2 := by
  -- Each step of the publication is a few events of the depot, with a history of its own.
  fun_induction Dispatch.follow deadline start c now turn generalizing history with
  | case1 c now result => exact ⟨[], rfl, (Nat.add_sub_of_le started).symm, rfl⟩
  | case2 c now => exact ⟨[], rfl, (Nat.add_sub_of_le started).symm, rfl⟩
  | case3 c now stage d => exact ⟨[], rfl, _, rfl, rfl⟩
  | case4 c now wake stage d inTime next ih =>
    obtain ⟨first, history', stepped⟩ := step_alone c ahead stage d history
    obtain ⟨rest, goes⟩ := ih history' (Nat.le_trans started ahead) (d.notBefore_step c wake stage)
    refine ⟨first ++ rest, ?_⟩
    rw [run_append, stepped]
    exact goes
  | case5 c now wake stage d late => exact ⟨[], rfl, _, rfl, rfl⟩

/-- A dispatch that has the channel for itself goes as a publication does. -/
theorem published_alone (c : BrokerChannel) (now : Nat) (deadline : Option Nat)
    (exchange : String) (payload : Text.Utf8.Bytes) :
    ∃ events, let h := Depot.run ⟨c, now, [], []⟩ events
      h.channel = (c.publish now deadline exchange payload).1 ∧
        h.Shows now (c.publish now deadline exchange payload).2 := by
  let d : Dispatch := ⟨exchange, payload, .start c.rule.retryRule⟩
  obtain ⟨history, begun⟩ := lend_alone c now d []
  obtain ⟨events, goes⟩ := follow_alone deadline now (d.enter c now).1 now (d.enter c now).2 history
    (Nat.le_refl now) (d.notBefore_enter c now)
  refine ⟨.enter exchange payload :: .lend 0 :: events, ?_⟩
  rw [← begun] at goes
  exact goes

end Depot

end LobbyPlacement

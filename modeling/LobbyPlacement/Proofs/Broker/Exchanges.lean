import LobbyPlacement.Proofs.Broker.Depot

/-!
# Exchanges are declared once

An exchange is unknown to a channel until it asks for a declaration, and known once that is granted;
a declaration that is refused or given up leaves it as unknown as before. `Standing.Allows` says
what may be told of an exchange as it stands. The dispatches in a depot keep to it in whatever order
they take their steps (`Orderly.run`), and so they declare every exchange once, and before they hand
over any message on it: `declares_once_before_handing`.
-/

namespace LobbyPlacement

/-- How an exchange stands with a channel. -/
inductive Standing
  | unknown
  | asked (granting : Bool)
  | known

namespace Standing

/-- What may be told of an exchange as it stands, and how it stands then. -/
inductive Allows : Standing → Happening → Standing → Prop
  | asked (exchange : String) (response : Response) :
      Allows unknown (.asked exchange response) (asked response.grants)
  | granted (exchange : String) : Allows (asked true) (.granted exchange) known
  | refused (exchange : String) : Allows (asked false) (.refused exchange) unknown
  | dropped (exchange : String) (granting : Bool) :
      Allows (asked granting) (.dropped exchange) unknown
  | handed (message : Message) : Allows known (.handed message) known

/-- What is told leads an exchange from one standing to another. What is told of other exchanges
leaves it where it is. -/
inductive Leads (exchange : String) : Standing → List Happening → Standing → Prop
  | nil (s : Standing) : Leads exchange s [] s
  | own {s next last : Standing} {happening : Happening} {rest : List Happening}
      (own : happening.exchange = exchange) (allowed : Allows s happening next)
      (goes_on : Leads exchange next rest last) : Leads exchange s (happening :: rest) last
  | other {s last : Standing} {happening : Happening} {rest : List Happening}
      (other : happening.exchange ≠ exchange) (goes_on : Leads exchange s rest last) :
      Leads exchange s (happening :: rest) last

namespace Leads

variable {exchange : String} {s next last : Standing} {told before rest : List Happening}
  {happening : Happening}

theorem append (first : Leads exchange s before next) (second : Leads exchange next rest last) :
    Leads exchange s (before ++ rest) last := by
  induction first with
  | nil => exact second
  | own own allowed _ ih => exact .own own allowed (ih second)
  | other other _ ih => exact .other other (ih second)

theorem others (others : ∀ happening ∈ told, happening.exchange ≠ exchange) :
    Leads exchange s told s := by
  induction told with
  | nil => exact .nil s
  | cons first rest ih =>
    obtain ⟨other, others⟩ := List.forall_mem_cons.mp others
    exact .other other (ih others)

/-- Whatever has been told of an exchange was allowed as it stood. -/
theorem split (leads : Leads exchange s (before ++ happening :: rest) last)
    (own : happening.exchange = exchange) :
    ∃ stood left, Leads exchange s before stood ∧ Allows stood happening left ∧
      Leads exchange left rest last := by
  induction before generalizing s with
  | nil =>
    cases leads with
    | own _ allowed goes_on => exact ⟨s, _, .nil s, allowed, goes_on⟩
    | other other _ => exact absurd own other
  | cons first before ih =>
    cases leads with
    | own firstOwn firstAllowed goes_on =>
      obtain ⟨stood, left, earlier, allowed, later⟩ := ih goes_on
      exact ⟨stood, left, .own firstOwn firstAllowed earlier, allowed, later⟩
    | other other goes_on =>
      obtain ⟨stood, left, earlier, allowed, later⟩ := ih goes_on
      exact ⟨stood, left, .other other earlier, allowed, later⟩

theorem granted_of_known (leads : Leads exchange s told last) (ended : last = known) :
    s = known ∨ .granted exchange ∈ told := by
  induction leads with
  | nil => exact .inl ended
  | own own allowed goes_on ih =>
    rcases ih ended with known | later
    · subst known
      cases allowed with
      | granted =>
        cases own
        exact .inr List.mem_cons_self
      | handed => exact .inl rfl
    · exact .inr (List.mem_cons_of_mem _ later)
  | other _ _ ih => exact (ih ended).imp_right (List.mem_cons_of_mem _)

/-- A known exchange stays known, and messages on it are all that is told of it. -/
theorem handed_of_known (leads : Leads exchange s told last) (started : s = known) :
    last = known ∧ ∀ happening ∈ told, happening.exchange = exchange →
      ∃ message, happening = .handed message := by
  induction leads with
  | nil => exact ⟨started, fun _ => nofun⟩
  | own own allowed goes_on ih =>
    subst started
    cases allowed with
    | handed message =>
      obtain ⟨stays, handed⟩ := ih rfl
      exact ⟨stays, List.forall_mem_cons.mpr ⟨fun _ => ⟨message, rfl⟩, handed⟩⟩
  | other other goes_on ih =>
    obtain ⟨stays, handed⟩ := ih started
    exact ⟨stays, List.forall_mem_cons.mpr ⟨fun own => absurd own other, handed⟩⟩

theorem asked_of_unknown (leads : Leads exchange s told last) (started : s = unknown)
    (first : told.find? (·.exchange = exchange) = some happening) :
    ∃ response, happening = .asked exchange response := by
  induction leads with
  | nil => cases first
  | own own allowed goes_on ih =>
    subst started
    simp only [List.find?_cons, own, decide_true, Option.some.injEq] at first
    cases allowed with
    | asked asked response =>
      cases own
      exact ⟨response, first.symm⟩
  | other other goes_on ih =>
    simp only [List.find?_cons, other, decide_false] at first
    exact ih started first

/-- Of an exchange that has come to be asked for, the last that is told is just that. -/
theorem last_of_asked {granting : Bool} (leads : Leads exchange s told last)
    (ended : last = asked granting) :
    s = asked granting ∧ told.filter (·.exchange = exchange) = [] ∨
      ∃ response, response.grants = granting ∧
        (told.filter (·.exchange = exchange)).getLast? = some (.asked exchange response) := by
  induction leads with
  | nil => exact .inl ⟨ended, rfl⟩
  | own own allowed goes_on ih =>
    simp only [List.filter_cons, own, decide_true, if_true]
    rcases ih ended with ⟨asked, nothing⟩ | ⟨response, grants, later⟩
    · subst asked
      rw [nothing]
      cases allowed with
      | asked asked response =>
        cases own
        exact .inr ⟨response, rfl, rfl⟩
    · exact .inr ⟨response, grants, by rw [List.getLast?_cons, later, Option.getD_some]⟩
  | other other goes_on ih =>
    simpa only [List.filter_cons, other, decide_false, Bool.false_eq_true, if_false] using ih ended

end Leads

/-- How an exchange stands if so many are declared and being declared. -/
def inBook (exchange : String) (declared : List String) (asking : List (String × Bool)) :
    Standing :=
  if exchange ∈ declared then known
  else match asking.lookup exchange with
    | some granting => asked granting
    | none => unknown

section

variable {exchange other : String} {declared : List String} {asking : List (String × Bool)}
  {granting : Bool}

theorem inBook_known (known : exchange ∈ declared) : inBook exchange declared asking = .known :=
  if_pos known

theorem inBook_unknown (unknown : exchange ∉ declared) : inBook exchange declared [] = .unknown :=
  if_neg unknown

theorem inBook_asked (unknown : exchange ∉ declared) :
    inBook exchange declared [(exchange, granting)] = .asked granting := by
  simp only [inBook, unknown, if_false, List.lookup_cons_self]

theorem inBook_other (different : exchange ≠ other) :
    inBook exchange declared [(other, granting)] = inBook exchange declared [] := by
  simp only [inBook, List.lookup_cons, beq_eq_false_iff_ne.mpr different]

theorem inBook_cons_other (different : exchange ≠ other) :
    inBook exchange (other :: declared) asking = inBook exchange declared asking := by
  simp only [inBook, List.mem_cons, different, false_or]

theorem known_of_inBook (known : inBook exchange declared asking = .known) :
    exchange ∈ declared := by
  unfold inBook at known
  split at known
  next declared => exact declared
  next => split at known <;> cases known

end

end Standing

namespace Depot

open Standing (Leads inBook inBook_known inBook_unknown inBook_asked inBook_other inBook_cons_other)

section

variable {declared declared' : List String} {asking asking' : List (String × Bool)}
  {told : List Happening}

theorem leads_about (about : String) (of : ∀ happening ∈ told, happening.exchange = about)
    (own : Leads about (inBook about declared asking) told (inBook about declared' asking'))
    (others : ∀ exchange, exchange ≠ about →
      inBook exchange declared asking = inBook exchange declared' asking') (exchange : String) :
    Leads exchange (inBook exchange declared asking) told
      (inBook exchange declared' asking') := by
  by_cases same : exchange = about
  · subst same
    exact own
  · rw [← others exchange same]
    exact .others fun happening member own => same (own.symm.trans (of happening member))

/-- What one event does to the book is allowed as every exchange stands. -/
theorem Change.leads (change : Change declared asking declared' asking' told)
    (apart : ∀ asked ∈ asking, asked.1 ∉ declared) :
    ∀ exchange, Leads exchange (inBook exchange declared asking) told
      (inBook exchange declared' asking') := by
  cases change with
  | still => exact fun _ => .nil _
  | @asked asked unknown response =>
    refine leads_about asked (List.forall_mem_singleton.mpr rfl) ?_
      fun _ other => (inBook_other other).symm
    rw [inBook_unknown unknown, inBook_asked unknown]
    exact .own rfl (.asked asked response) (.nil _)
  | @handed message known =>
    refine leads_about message.exchange (List.forall_mem_singleton.mpr rfl) ?_ fun _ _ => rfl
    rw [inBook_known known]
    exact .own rfl (.handed message) (.nil _)
  | granted message =>
    have unknown : message.exchange ∉ declared := apart _ List.mem_cons_self
    refine leads_about message.exchange
      (List.forall_mem_cons.mpr ⟨rfl, List.forall_mem_singleton.mpr rfl⟩) ?_ fun _ other => ?_
    · rw [inBook_asked unknown, inBook_known List.mem_cons_self]
      exact .own rfl (.granted message.exchange) (.own rfl (.handed message) (.nil _))
    · rw [inBook_other other, inBook_cons_other other]
  | refused refused =>
    have unknown : refused ∉ declared := apart _ List.mem_cons_self
    refine leads_about refused (List.forall_mem_singleton.mpr rfl) ?_
      fun _ other => inBook_other other
    rw [inBook_asked unknown, inBook_unknown unknown]
    exact .own rfl (.refused refused) (.nil _)
  | dropped dropped granting =>
    have unknown : dropped ∉ declared := apart _ List.mem_cons_self
    refine leads_about dropped (List.forall_mem_singleton.mpr rfl) ?_
      fun _ other => inBook_other other
    rw [inBook_asked unknown, inBook_unknown unknown]
    exact .own rfl (.dropped dropped granting) (.nil _)

/-- The book stays in order: one declaration at a time, and none of what is declared. -/
theorem Change.keeps (change : Change declared asking declared' asking' told)
    (single : asking.length ≤ 1) (apart : ∀ asked ∈ asking, asked.1 ∉ declared) :
    asking'.length ≤ 1 ∧ ∀ asked ∈ asking', asked.1 ∉ declared' := by
  cases change with
  | still | handed => exact ⟨single, apart⟩
  | asked unknown response => exact ⟨Nat.le_refl 1, by simpa using unknown⟩
  | granted | refused | dropped => exact ⟨Nat.zero_le 1, fun _ => nofun⟩

end

/-- A depot whose book, history and broker agree. -/
structure Orderly (broker : Broker) (h : Depot) : Prop where
  single : h.asking.length ≤ 1
  apart : ∀ asked ∈ h.asking, asked.1 ∉ h.channel.declared
  standing : ∀ exchange,
    Leads exchange .unknown h.told (inBook exchange h.channel.declared h.asking)
  reachable : h.channel.broker.isReachable = broker.isReachable
  log : h.channel.broker.log = broker.log ++ broker.heard (calls h.history)

theorem Orderly.opened (broker : Broker) (rule : DispatchRule) :
    Orderly broker (opened broker rule) where
  single := Nat.zero_le 1
  apart := fun _ => nofun
  standing := fun _ => .nil _
  reachable := rfl
  log := broker.log_unheard

theorem Orderly.step {broker : Broker} {h : Depot} (orderly : h.Orderly broker) (e : Event) :
    (h.step e).Orderly broker := by
  obtain ⟨told, goes⟩ := step_goes orderly.single e
  obtain ⟨single, apart⟩ := goes.change.keeps orderly.single orderly.apart
  refine ⟨single, apart, fun exchange => ?_, goes.reachable.trans orderly.reachable, ?_⟩
  · rw [goes.told_append]
    exact (orderly.standing exchange).append (goes.change.leads orderly.apart exchange)
  · have heard : h.channel.broker.heard = broker.heard := by
      funext calls
      rw [Broker.heard, orderly.reachable, Broker.heard]
    rw [goes.log, goes.history, orderly.log, calls_append, heard, Broker.heard_append,
      List.append_assoc]

theorem Orderly.run {broker : Broker} {h : Depot} (orderly : h.Orderly broker)
    (events : List Event) : (h.run events).Orderly broker := by
  induction events generalizing h with
  | nil => exact orderly
  | cons e events ih => exact ih (orderly.step e)

end Depot

/-! ### What is told in order -/

namespace Happening

def fails : Happening → Bool
  | refused _ | dropped _ => true
  | asked .. | granted _ | handed _ => false

end Happening

/-- How declarations and messages follow each other. -/
structure Disciplined (told : List Happening) : Prop where
  /-- A message is handed over on an exchange that has been granted. -/
  declared : ∀ before message after, told = before ++ .handed message :: after →
    .granted message.exchange ∈ before
  /-- An exchange is granted if the broker has met the last call to declare it so. -/
  answered : ∀ before exchange after, told = before ++ .granted exchange :: after →
    ∃ response, response.grants = true ∧
      (before.filter (·.exchange = exchange)).getLast? = some (.asked exchange response)
  /-- On a granted exchange there are only messages. -/
  once : ∀ before exchange after, told = before ++ .granted exchange :: after →
    ∀ happening ∈ after, happening.exchange = exchange → ∃ message, happening = .handed message
  /-- After a declaration that came to nothing, the exchange is asked for before anything else. -/
  again : ∀ before happening after, told = before ++ happening :: after →
    happening.fails = true → ∀ next, after.find? (·.exchange = happening.exchange) = some next →
      ∃ response, next = .asked happening.exchange response

theorem disciplined {told : List Happening}
    (leads : ∀ exchange, ∃ last, Standing.Leads exchange .unknown told last) :
    Disciplined told where
  declared before message after whole := by
    subst whole
    obtain ⟨last, leads⟩ := leads message.exchange
    obtain ⟨stood, left, earlier, allowed, -⟩ := leads.split rfl
    cases allowed with
    | handed => exact (earlier.granted_of_known rfl).resolve_left nofun
  answered before exchange after whole := by
    subst whole
    obtain ⟨last, leads⟩ := leads exchange
    obtain ⟨stood, left, earlier, allowed, -⟩ := leads.split rfl
    cases allowed with
    | granted => exact (earlier.last_of_asked rfl).resolve_left nofun
  once before exchange after whole := by
    subst whole
    obtain ⟨last, leads⟩ := leads exchange
    obtain ⟨stood, left, -, allowed, later⟩ := leads.split rfl
    cases allowed with
    | granted => exact (later.handed_of_known rfl).2
  again before happening after whole fails next first := by
    subst whole
    obtain ⟨last, leads⟩ := leads happening.exchange
    obtain ⟨stood, left, -, allowed, later⟩ := leads.split rfl
    cases allowed with
    | refused | dropped => exact later.asked_of_unknown rfl first
    | asked | granted | handed => cases fails

namespace Depot

theorem Orderly.declared_iff {broker : Broker} {h : Depot} (orderly : h.Orderly broker)
    (exchange : String) : exchange ∈ h.channel.declared ↔ .granted exchange ∈ h.told := by
  have leads := orderly.standing exchange
  constructor
  · intro declared
    rw [Standing.inBook_known declared] at leads
    exact (leads.granted_of_known rfl).resolve_left nofun
  · intro granted
    obtain ⟨before, after, whole⟩ := List.append_of_mem granted
    rw [whole] at leads
    obtain ⟨stood, left, -, allowed, later⟩ := leads.split rfl
    cases allowed with
    | granted => exact Standing.known_of_inBook (later.handed_of_known rfl).1

/-- A dispatch that gets the book asks for its exchange unless that has been granted. -/
theorem Orderly.lend_asks {broker : Broker} {h : Depot} (orderly : h.Orderly broker)
    {number : Nat} {d : Dispatch} (stood : h.places[number]? = some (.queued d))
    (free : h.asking = []) (ungranted : .granted d.exchange ∉ h.told) :
    ∃ response, (h.lend number).told = h.told ++ [.asked d.exchange response] := by
  have unknown : d.exchange ∉ h.channel.declared := by
    rwa [orderly.declared_iff]
  refine ⟨(h.channel.broker.meet h.now (.declare d.exchange Dispatch.fanout)).2, ?_⟩
  simp only [lend, stood, free, if_true, Dispatch.opening, unknown, if_false, told, move,
    List.map_append, List.map_cons, List.map_nil]

/-- Whatever becomes of the dispatches on a channel, in whatever order they take their steps, and
however the broker answers: what is told is what the broker is called for, it is in order, and the
exchanges held for declared are those that have been granted. -/
theorem declares_once_before_handing (broker : Broker) (rule : DispatchRule)
    (events : List Event) :
    let h := (opened broker rule).run events
    h.channel.broker.log = broker.log ++ broker.heard (calls h.history) ∧
      Disciplined h.told ∧
      (∀ exchange, exchange ∈ h.channel.declared ↔ .granted exchange ∈ h.told) ∧
      ∀ number d, h.places[number]? = some (.queued d) → h.asking = [] →
        .granted d.exchange ∉ h.told →
          ∃ response, (h.lend number).told = h.told ++ [.asked d.exchange response] := by
  intro h
  have orderly : h.Orderly broker := (Orderly.opened broker rule).run events
  exact ⟨orderly.log, disciplined fun exchange => ⟨_, orderly.standing exchange⟩,
    orderly.declared_iff, fun _ _ => orderly.lend_asks⟩

/-- Of two dispatches to one exchange the first is given up while it declares that, and the second
one still queues for the book. -/
def quarrel : List Event :=
  [.enter "c" [1], .enter "c" [2], .lend 0, .lend 1, .cancel 0]

/-- The declaration that was given up is not remembered: the second dispatch declares the exchange
again, and hands its message over when that is granted. -/
theorem dropped_declaration_is_repeated :
    (∃ response, (((opened (.planned .none) .standard).run quarrel).lend 1).told =
      [.asked "c" Broker.granted, .dropped "c", .asked "c" response]) ∧
    ((opened (.planned .none) .standard).run (quarrel ++ [.lend 1, .advance 1])).told =
      [.asked "c" Broker.granted, .dropped "c", .asked "c" Broker.granted, .granted "c",
        .handed (BrokerChannel.publication "c" [2])] ∧
    "c" ∈ ((opened (.planned .none) .standard).run
      (quarrel ++ [.lend 1, .advance 1])).channel.declared := by
  have told : ((opened (.planned .none) .standard).run (quarrel ++ [.lend 1, .advance 1])).told =
      [.asked "c" Broker.granted, .dropped "c", .asked "c" Broker.granted, .granted "c",
        .handed (BrokerChannel.publication "c" [2])] := rfl
  obtain ⟨_, _, _, again⟩ := declares_once_before_handing (.planned .none) .standard quarrel
  obtain ⟨_, _, declared, _⟩ :=
    declares_once_before_handing (.planned .none) .standard (quarrel ++ [.lend 1, .advance 1])
  refine ⟨again 1 _ rfl rfl ?_, told, (declared "c").mpr ?_⟩
  · exact List.not_mem_cons_of_ne_of_not_mem nofun
      (List.not_mem_cons_of_ne_of_not_mem nofun List.not_mem_nil)
  · rw [told]
    simp

end Depot

end LobbyPlacement

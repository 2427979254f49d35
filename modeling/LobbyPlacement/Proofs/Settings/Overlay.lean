import LobbyPlacement.Settings.Document

/-!
# Overlays

What a source gives for one observation is nothing, a value, or something that cannot be read.
`Overlaid` says that a step took over what a source gives, and `Overlaid.trans` that the later of
two sources goes before the earlier one. A record read from a document is overlaid, in each of its
parts, with the last part of that name in the document: `Shape.read_overlaid`.
-/

namespace LobbyPlacement

section Results

variable {ε α β : Type} {x : Except ε α}

theorem toOption_eq_some_iff {a : α} : x.toOption = some a ↔ x = .ok a := by
  cases x <;> simp [Except.toOption]

theorem isOk_iff : x.isOk = true ↔ ∃ a, x = .ok a := by
  cases x <;> simp [Except.isOk, Except.toBool]

theorem bind_eq_ok_iff {f : α → Except ε β} {b : β} :
    x.bind f = .ok b ↔ ∃ a, x = .ok a ∧ f a = .ok b := by
  cases x <;> simp [Except.bind]

theorem mapError_eq_ok_iff {f : ε → β} {a : α} : x.mapError f = .ok a ↔ x = .ok a := by
  cases x with
  | error => exact ⟨nofun, nofun⟩
  | ok =>
    constructor
    all_goals
      intro same
      cases same
      rfl

end Results

section Overlaid

variable {σ β : Type}

/-- What is observed after a step is what `given` holds, and what was observed before if that is
nothing. -/
def Overlaid (observe : σ → β) (given : Option (Option β)) (before after : σ) : Prop :=
  some (observe after) = given.getD (some (observe before))

namespace Overlaid

variable {observe : σ → β} {before between after : σ}

theorem refl : Overlaid observe none before before := rfl

theorem trans {earlier later : Option (Option β)} (first : Overlaid observe earlier before between)
    (second : Overlaid observe later between after) :
    Overlaid observe (later.or earlier) before after := by
  cases later with
  | none => exact Eq.trans second first
  | some a => exact second

end Overlaid

end Overlaid

namespace Document

/-- What a document gives for the parts of a record, each under its name. -/
def parts (names : List String) : Document → List (String × Document)
  | table entries => entries
  | list items => names.zip items
  | _ => []

/-- The last part of a name counts. -/
def lastPart? (name : String) (parts : List (String × Document)) : Option Document :=
  parts.reverse.lookup name

def part? (names : List String) (name : String) (d : Document) : Option Document :=
  lastPart? name (d.parts names)

theorem lastPart?_cons (name title : String) (d : Document) (rest : List (String × Document)) :
    lastPart? name ((title, d) :: rest) =
      (lastPart? name rest).or (if title = name then some d else none) := by
  rw [lastPart?, List.reverse_cons, List.lookup_append, List.lookup_cons, List.lookup_nil,
    lastPart?]
  by_cases same : title = name
  · simp [same]
  · simp [same, beq_eq_false_iff_ne.mpr (Ne.symm same)]

end Document

/-- What a field makes of a document is observed if the field has the name, and nothing is changed
for the observer otherwise. -/
def Field.Shows {σ β : Type} (dialect : Dialect) (observe : σ → β) (name : String)
    (value : Document → Option β) (f : Field σ) : Prop :=
  ∀ {d before after}, f.read dialect d before = .ok after →
    Overlaid observe (if f.name = name then some (value d) else none) before after

namespace Shape

variable {σ β : Type} {dialect : Dialect} {observe : σ → β} {name : String}
  {value : Document → Option β} {before after : σ}

theorem field?_eq_some {shape : Shape σ} {f : Field σ} {title : String}
    (found : shape.field? title = some f) : f ∈ shape.fields ∧ f.name = title :=
  ⟨List.mem_of_find?_eq_some found, by simpa using List.find?_some found⟩

theorem field?_eq_none {shape : Shape σ} {title : String} (missing : shape.field? title = none) :
    title ∉ shape.fields.map Field.name := by
  intro known
  obtain ⟨f, member, named⟩ := List.mem_map.mp known
  simpa [named] using List.find?_eq_none.mp missing f member

/-- One part read before the others: its value counts if none of the others has its name. -/
theorem cons_overlaid {f : Field σ} {d : Document} {rest : List (String × Document)}
    {between : σ} (shown : f.Shows dialect observe name value)
    (read : f.read dialect d before = .ok between)
    (others : Overlaid observe ((Document.lastPart? name rest).map value) between after) :
    Overlaid observe ((Document.lastPart? name ((f.name, d) :: rest)).map value) before after := by
  rw [Document.lastPart?_cons, Option.map_or, apply_ite (Option.map value)]
  exact (shown read).trans others

theorem readEntries_overlaid {shape : Shape σ}
    (shown : ∀ f ∈ shape.fields, f.Shows dialect observe name value)
    (known : name ∈ shape.fields.map Field.name) {entries : List (String × Document)}
    (read : shape.readEntries dialect entries before = .ok after) :
    Overlaid observe ((Document.lastPart? name entries).map value) before after := by
  induction entries generalizing before with
  | nil => cases read; exact .refl
  | cons entry rest ih =>
    obtain ⟨title, d⟩ := entry
    rw [readEntries] at read
    split at read
    next f found =>
      obtain ⟨member, rfl⟩ := field?_eq_some found
      obtain ⟨between, first, read⟩ := bind_eq_ok_iff.mp read
      exact cons_overlaid (shown f member) first (ih read)
    next missing =>
      have other : title ≠ name := fun same => field?_eq_none missing (same ▸ known)
      have rest : shape.readEntries dialect rest before = .ok after := by
        split at read
        · cases read
        · exact read
      rw [Document.lastPart?_cons, if_neg other, Option.or_none]
      exact ih rest

theorem readItems_overlaid {fields : List (Field σ)}
    (shown : ∀ f ∈ fields, f.Shows dialect observe name value) {length : Nat}
    {items : List Document} (read : readItems dialect length fields items before = .ok after) :
    Overlaid observe ((Document.lastPart? name ((fields.map Field.name).zip items)).map value)
      before after := by
  induction fields generalizing items before with
  | nil =>
    have same : before = after := by
      cases items with
      | nil => exact Except.ok.inj read
      | cons d rest => cases dialect <;> cases read; rfl
    rw [same]
    exact .refl
  | cons f fields ih =>
    cases items with
    | nil => cases read; exact .refl
    | cons d rest =>
      rw [readItems] at read
      obtain ⟨between, first, read⟩ := bind_eq_ok_iff.mp read
      exact cons_overlaid (shown f List.mem_cons_self) first
        (ih (fun g member => shown g (List.mem_cons_of_mem f member)) read)

theorem read_overlaid {shape : Shape σ}
    (shown : ∀ f ∈ shape.fields, f.Shows dialect observe name value)
    (known : name ∈ shape.fields.map Field.name) {d : Document}
    (read : shape.read dialect before d = .ok after) :
    Overlaid observe ((d.part? (shape.fields.map Field.name) name).map value) before after := by
  cases d with
  | table entries => exact readEntries_overlaid shown known read
  | list items => exact readItems_overlaid shown read
  | date =>
    have same : before = after := by
      rw [Shape.read] at read
      split at read
      · cases read
      · exact Except.ok.inj read
    rw [same]
    exact .refl
  | _ => cases read

end Shape

end LobbyPlacement

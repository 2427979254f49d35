import LobbyPlacement.Proofs.Settings.Merging

/-!
# Misspelled keys

What becomes of the keys of a document that are no settings. A section with a foreign name is
refused, but within a section the keys of its settings are all that is looked at: the others could
as well be absent (`Settings.ofDocument_settingsOnly`). So a document that is accepted has been
taken over in full exactly if none of its keys is misspelled: `Settings.misspelled_keys_are_lost`.
-/

namespace LobbyPlacement

namespace Document

/-- What a table holds under a name. -/
def held? (name : String) : Document → Option Document
  | table entries => lastPart? name entries
  | _ => none

/-- What a document holds under a key in one of its tables. -/
def at? (title key : String) (d : Document) : Option Document := (d.held? title).bind (held? key)

/-- A table with those of its entries that have one of these names. -/
def only (names : List String) : Document → Document
  | table entries => table (entries.filter fun entry => entry.1 ∈ names)
  | d => d

theorem part?_of_held? {name : String} {d part : Document} (held : d.held? name = some part)
    (names : List String) : d.part? names name = some part := by
  cases d with
  | table entries => exact held
  | _ => cases held

theorem lastPart?_isSome {name : String} {entries : List (String × Document)} :
    (lastPart? name entries).isSome = true ↔ name ∈ entries.map Prod.fst := by
  induction entries with
  | nil => simp [lastPart?]
  | cons entry rest ih =>
    rw [lastPart?_cons, Option.isSome_or, Bool.or_eq_true, ih, List.map_cons, List.mem_cons]
    by_cases same : entry.1 = name
    · simp only [same, if_true, Option.isSome_some, or_true, true_or]
    · simp only [same, Ne.symm same, if_false, Option.isSome_none, Bool.false_eq_true, or_false,
        false_or]

theorem lastPart?_filter (name : String) (names : List String)
    (entries : List (String × Document)) :
    lastPart? name (entries.filter fun entry => entry.1 ∈ names) =
      if name ∈ names then lastPart? name entries else none := by
  induction entries with
  | nil => simp [lastPart?]
  | cons entry rest ih =>
    by_cases named : entry.1 ∈ names
    · rw [List.filter_cons_of_pos (by simpa using named), lastPart?_cons, lastPart?_cons, ih]
      by_cases known : name ∈ names
      · simp only [if_pos known]
      · have other : entry.1 ≠ name := fun same => known (same ▸ named)
        simp only [if_neg known, if_neg other, Option.or_none]
    · rw [List.filter_cons_of_neg (by simpa using named), lastPart?_cons, ih]
      by_cases known : name ∈ names
      · have other : entry.1 ≠ name := fun same => named (same ▸ known)
        simp only [if_pos known, if_neg other, Option.or_none]
      · simp only [if_neg known]

theorem lastPart?_map (name : String) (change : String → Document → Document)
    (entries : List (String × Document)) :
    lastPart? name (entries.map fun entry => (entry.1, change entry.1 entry.2)) =
      (lastPart? name entries).map (change name) := by
  induction entries with
  | nil => rfl
  | cons entry rest ih =>
    rw [List.map_cons, lastPart?_cons, lastPart?_cons, ih, Option.map_or]
    by_cases same : entry.1 = name
    · simp only [same, if_true, Option.map_some]
    · simp only [same, if_false, Option.map_none]

theorem held?_only (name : String) (names : List String) (d : Document) :
    (d.only names).held? name = if name ∈ names then d.held? name else none := by
  cases d with
  | table entries => exact lastPart?_filter name names entries
  | _ => exact (ite_self none).symm

end Document

namespace Section

def ofTitle? (title : String) : Option Section := all.find? fun c => c.title = title

theorem ofTitle?_title (c : Section) : ofTitle? c.title = some c := by cases c <;> decide

theorem mem_titles {title : String} : title ∈ titles ↔ ∃ c : Section, c.title = title := by
  rw [titles, List.mem_map]
  exact ⟨fun ⟨c, _, named⟩ => ⟨c, named⟩, fun ⟨c, named⟩ => ⟨c, c.mem_all, named⟩⟩

theorem names_eq : Settings.shape.fields.map Field.name = titles := by
  rw [fields_eq, List.map_map]
  rfl

/-- Within a section, other keys are not refused. -/
theorem isOpen (c : Section) : c.shape.closed = false := by cases c <;> rfl

end Section

theorem Setting.key_mem_keys {c : Section} (f : Setting c) : f.key ∈ keys c :=
  List.mem_map_of_mem f.mem_ofSection

namespace Document

/-- A section without the keys that are none of its settings. -/
def settingsOf (title : String) (d : Document) : Document :=
  match Section.ofTitle? title with
  | some c => d.only (Setting.keys c)
  | none => d

/-- A document whose sections are left with the keys of their settings. -/
def settingsOnly : Document → Document
  | table entries => table (entries.map fun entry => (entry.1, settingsOf entry.1 entry.2))
  | d => d

/-- Every key within a section is one of its settings. -/
def NoMisspelling (d : Document) : Prop :=
  ∀ (c : Section) (key : String), (d.at? c.title key).isSome = true → key ∈ Setting.keys c

theorem settingsOf_title (c : Section) (d : Document) :
    settingsOf c.title d = d.only (Setting.keys c) := by
  rw [settingsOf, Section.ofTitle?_title]

theorem at?_settingsOnly (c : Section) (key : String) (d : Document) :
    d.settingsOnly.at? c.title key = if key ∈ Setting.keys c then d.at? c.title key else none := by
  cases d with
  | table entries =>
    simp only [at?, settingsOnly, held?, lastPart?_map, Option.bind_map]
    cases lastPart? c.title entries with
    | none => exact (ite_self none).symm
    | some inner =>
      show (settingsOf c.title inner).held? key = _
      rw [settingsOf_title, held?_only]
      rfl
  | _ => exact (ite_self none).symm

theorem noMisspelling_settingsOnly (d : Document) : d.settingsOnly.NoMisspelling := by
  intro c key held
  rw [at?_settingsOnly] at held
  split at held
  · assumption
  · cases held

end Document

namespace Shape

variable {σ : Type} {dialect : Dialect} {shape : Shape σ}

theorem field?_isSome {name : String} :
    (shape.field? name).isSome = true ↔ name ∈ shape.fields.map Field.name := by
  simp [field?, List.find?_isSome]

/-- Names that an open record does not know might as well be absent. -/
theorem read_only (dialect : Dialect) (isOpen : shape.closed = false) (s : σ) (d : Document) :
    shape.read dialect s (d.only (shape.fields.map Field.name)) = shape.read dialect s d := by
  cases d with
  | table entries =>
    show shape.readEntries dialect (entries.filter _) s = shape.readEntries dialect entries s
    induction entries generalizing s with
    | nil => rfl
    | cons entry rest ih =>
      cases found : shape.field? entry.1 with
      | some f =>
        have known : entry.1 ∈ shape.fields.map Field.name := by
          rw [← field?_isSome, found, Option.isSome_some]
        rw [List.filter_cons_of_pos (by simpa using known)]
        simp only [readEntries, found]
        exact congrArg (f.read dialect entry.2 s).bind (funext ih)
      | none =>
        have unknown : entry.1 ∉ shape.fields.map Field.name := field?_eq_none found
        rw [List.filter_cons_of_neg (by simpa using unknown), ih]
        simp only [readEntries, found, isOpen]
        rfl
  | _ => rfl

/-- A closed record knows every name in the table it was read from. -/
theorem known_of_readEntries (isClosed : shape.closed = true) {entries : List (String × Document)}
    {s t : σ} (read : shape.readEntries dialect entries s = .ok t) :
    ∀ name ∈ entries.map Prod.fst, name ∈ shape.fields.map Field.name := by
  induction entries generalizing s with
  | nil => exact nofun
  | cons entry rest ih =>
    cases found : shape.field? entry.1 with
    | none =>
      simp only [readEntries, found, isClosed, if_true] at read
      cases read
    | some f =>
      simp only [readEntries, found] at read
      obtain ⟨between, -, readRest⟩ := bind_eq_ok_iff.mp read
      rw [List.map_cons, List.forall_mem_cons]
      refine ⟨?_, ih readRest⟩
      rw [← field?_isSome, found, Option.isSome_some]

/-- A change of parts that none of the fields can see. -/
theorem readEntries_map {change : String → Document → Document}
    (unseen : ∀ f ∈ shape.fields, ∀ d s, f.read dialect (change f.name d) s = f.read dialect d s)
    (entries : List (String × Document)) (s : σ) :
    shape.readEntries dialect (entries.map fun entry => (entry.1, change entry.1 entry.2)) s =
      shape.readEntries dialect entries s := by
  induction entries generalizing s with
  | nil => rfl
  | cons entry rest ih =>
    rw [List.map_cons]
    cases found : shape.field? entry.1 with
    | none => simp only [readEntries, found, ih]
    | some f =>
      obtain ⟨member, named⟩ := field?_eq_some found
      simp only [readEntries, found]
      rw [← named, unseen f member]
      exact congrArg (f.read dialect entry.2 s).bind (funext ih)

end Shape

namespace Settings

theorem ofDocument_settingsOnly (dialect : Dialect) (d : Document) :
    ofDocument dialect d.settingsOnly = ofDocument dialect d := by
  cases d with
  | table entries =>
    refine Shape.readEntries_map (fun f member d s => ?_) entries standard
    rw [Section.fields_eq] at member
    obtain ⟨c, -, rfl⟩ := List.mem_map.mp member
    have same := Shape.read_only dialect c.isOpen (c.get .standard) d
    rw [Setting.names_eq, ← Document.settingsOf_title] at same
    exact congrArg (fun r : Except DocumentFault c.Record => r.bind fun r => .ok (c.put r s)) same
  | _ => rfl

theorem ofToml_eq_ok_iff {text : String} {d : Document} (read : Toml.read text = .ok d)
    (path : Option String) (s : Settings) :
    ofToml path text = .ok s ↔ ofDocument .toml d = .ok s := by
  rw [ofToml, read, Except.bind]
  cases ofDocument .toml d with
  | ok t => simp
  | error fault => simp

theorem titles_of_read {dialect : Dialect} {d : Document} {s : Settings}
    (read : ofDocument dialect d = .ok s) {title : String}
    (held : (d.held? title).isSome = true) : title ∈ Section.titles := by
  cases d with
  | table entries =>
    have isClosed : shape.closed = true := rfl
    have known := Shape.known_of_readEntries isClosed read title (Document.lastPart?_isSome.mp held)
    rwa [Section.names_eq] at known
  | _ => cases held

/-- The key of a document is a setting, and its value has been taken over. -/
def Took (s : Settings) (d : Document) (title key : String) : Prop :=
  ∃ (c : Section) (f : Setting c) (part : Document), c.title = title ∧ f.key = key ∧
    d.at? title key = some part ∧ f.readDocument .toml part = .ok (f.of s)

theorem took_of_read {d : Document} {s : Settings} (read : ofDocument .toml d = .ok s)
    {c : Section} {f : Setting c} (held : (d.at? c.title f.key).isSome = true) :
    s.Took d c.title f.key := by
  obtain ⟨part, found⟩ := Option.isSome_iff_exists.mp held
  obtain ⟨inner, titled, there⟩ := Option.bind_eq_some_iff.mp found
  have given : f.inDocument .toml d = some (f.readDocument .toml part).toOption := by
    rw [Setting.inDocument, Document.part?_of_held? titled, Option.bind_some,
      Document.part?_of_held? there, Option.map_some]
  have taken := ofDocument_overlaid f read
  rw [given] at taken
  exact ⟨c, f, part, rfl, rfl, found, toOption_eq_some_iff.mp (Eq.symm taken)⟩

/-- A section that is none of the settings' is refused. A key within a section that is none of its
settings makes no difference; so from a document that is accepted every key has been taken over
exactly if there is no such key. -/
theorem misspelled_keys_are_lost {text : String} {d : Document} (read : Toml.read text = .ok d)
    (path : Option String) :
    (∀ title, (d.held? title).isSome = true → title ∉ Section.titles →
      (ofToml path text).isOk = false) ∧
    (ofDocument .toml d.settingsOnly = ofDocument .toml d ∧ d.settingsOnly.NoMisspelling ∧
      ∀ (c : Section) (f : Setting c), d.settingsOnly.at? c.title f.key = d.at? c.title f.key) ∧
    ∀ s, ofToml path text = .ok s →
      ((∀ title key, (d.at? title key).isSome = true → s.Took d title key) ↔ d.NoMisspelling) := by
  refine ⟨?_, ⟨ofDocument_settingsOnly .toml d, d.noMisspelling_settingsOnly, ?_⟩, ?_⟩
  · intro title held foreign
    cases accepted : ofToml path text with
    | error fault => rfl
    | ok s =>
      have taken := (ofToml_eq_ok_iff read path s).mp accepted
      exact (foreign (titles_of_read taken held)).elim
  · intro c f
    rw [Document.at?_settingsOnly, if_pos f.key_mem_keys]
  · intro s accepted
    rw [ofToml_eq_ok_iff read] at accepted
    constructor
    · intro took c key held
      obtain ⟨e, f, part, named, rfl, -, -⟩ := took c.title key held
      obtain rfl := Section.title_injective named
      exact f.key_mem_keys
    · intro spelled title key held
      have inSection : (d.held? title).isSome = true := by
        obtain ⟨part, found⟩ := Option.isSome_iff_exists.mp held
        obtain ⟨inner, there, -⟩ := Option.bind_eq_some_iff.mp found
        rw [there, Option.isSome_some]
      obtain ⟨c, rfl⟩ := Section.mem_titles.mp (titles_of_read accepted inSection)
      obtain ⟨f, -, rfl⟩ := List.mem_map.mp (spelled c key held)
      exact took_of_read accepted held

/-- A port whose key has two letters swapped, and a name. -/
def misspelledText : String := "[service]\nhttp_prot = 8181\nname = 'lobbies'\n"

def misspelledSettings : Settings := { standard with service.name := "lobbies" }

theorem misspelled_port_is_lost :
    ∃ d, Toml.read misspelledText = .ok d ∧ (d.at? "service" "http_prot").isSome = true ∧
      ofToml none misspelledText = .ok misspelledSettings ∧
      ¬ ∀ title key, (d.at? title key).isSome = true → misspelledSettings.Took d title key := by
  have held : ((Toml.read misspelledText).toOption.bind (·.at? "service" "http_prot")).isSome =
      true := by decide +kernel
  have accepted : ofToml none misspelledText = .ok misspelledSettings :=
    toOption_eq_some_iff.mp (by decide +kernel)
  cases read : Toml.read misspelledText with
  | error fault =>
    rw [read] at held
    cases held
  | ok d =>
    rw [read] at held
    refine ⟨d, rfl, held, accepted, fun took => ?_⟩
    have spelled := ((misspelled_keys_are_lost read none).2.2 _ accepted).mp took
    have unknown : "http_prot" ∉ Setting.keys .service := by decide
    exact unknown (spelled .service "http_prot" held)

/-- A document of one misspelled key is not refused, and leaves everything at its default. -/
theorem misspelled_servers_are_accepted :
    ((Toml.read "[pool]\nserver = ['A']\n").toOption.bind (·.at? "pool" "server")).isSome = true ∧
      "server" ∉ Setting.keys .pool ∧
      ofToml none "[pool]\nserver = ['A']\n" = .ok standard :=
  ⟨by decide +kernel, by decide, toOption_eq_some_iff.mp (by decide +kernel)⟩

end Settings

end LobbyPlacement

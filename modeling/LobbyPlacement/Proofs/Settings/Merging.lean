import LobbyPlacement.Proofs.Settings.Overlay
import LobbyPlacement.Proofs.Settings.Setting

/-!
# Merging

What each source gives for a setting, and that the settings of a run are those of their highest
source. Every stage of reading settings is an overlay (`Settings.ofDocument_overlaid`,
`Settings.overridden_overlaid`, `Options.override_overlaid`); in `Options.settings_merged` they lie
one over the other.
-/

namespace LobbyPlacement

/-- The document in a file, if there is one. -/
def SettingsFile.document? (file : SettingsFile) : Option Document := do
  let bytes ← file.content.toOption
  let text ← (Text.Utf8.decode bytes).toOption
  (Toml.read text).toOption

/-! ### Sources -/

namespace Setting

variable {c : Section}

/-- What a document gives for a setting; a value that cannot be read is `some none`. -/
def inDocument (dialect : Dialect) (f : Setting c) (d : Document) : Option (Option f.Value) :=
  ((d.part? Section.titles c.title).bind (Document.part? (keys c) f.key)).map
    fun part => (f.readDocument dialect part).toOption

def inFile (f : Setting c) (file : Option SettingsFile) : Option (Option f.Value) :=
  (file.bind SettingsFile.document?).bind (f.inDocument .toml)

def inEnvironment (f : Setting c) (env : Environment) : Option (Option f.Value) :=
  (f.environmentName?.bind fun name => env.lookup name).map f.readText?

theorem inEnvironment_of_named {f : Setting c} {name : String}
    (named : f.environmentName? = some name) (env : Environment) :
    f.inEnvironment env = (env.lookup name).map f.readText? := by
  rw [inEnvironment, named, Option.bind_some]

theorem inEnvironment_of_unnamed {f : Setting c} (unnamed : f.environmentName? = none)
    (env : Environment) : f.inEnvironment env = none := by
  rw [inEnvironment, unnamed, Option.bind_none, Option.map_none]

/-- What the options give for a setting; debugging goes before a level given by name. -/
def inOptions (o : Options) : {c : Section} → (f : Setting c) → Option f.Value
  | _, logLevel => (if o.debug then some LogLevel.debug.name else none).or o.logLevel
  | _, httpPort => o.httpPort
  | _, metricsPort => o.metricsPort
  | _, servers => o.servers.map Text.splitEntries
  | _, backend => o.backend
  | _, _ => none

end Setting

/-! ### Documents -/

namespace Setting

variable {c : Section} {dialect : Dialect}

theorem field_shows (f g : Setting c) :
    g.field.Shows dialect f.get f.key fun d => (f.readDocument dialect d).toOption := by
  intro d before after read
  obtain ⟨a, heard, put⟩ := bind_eq_ok_iff.mp read
  obtain rfl := Except.ok.inj put
  by_cases same : g = f
  · subst same
    simp [field, Overlaid, heard, Except.toOption]
  · have other : g.field.name ≠ f.key := fun named => same (key_injective named)
    rw [if_neg other]
    exact congrArg some (get_put_of_ne (Ne.symm same) a before)

theorem names_eq (c : Section) : c.shape.fields.map Field.name = keys c := by
  rw [fields_eq, List.map_map]
  rfl

theorem read_overlaid (f : Setting c) {d : Document} {before after : c.Record}
    (read : c.shape.read dialect before d = .ok after) :
    Overlaid f.get ((d.part? (keys c) f.key).map fun part => (f.readDocument dialect part).toOption)
      before after := by
  rw [← names_eq]
  refine Shape.read_overlaid (fun g member => ?_) ?_ read
  · rw [fields_eq] at member
    obtain ⟨g, -, rfl⟩ := List.mem_map.mp member
    exact f.field_shows g
  · rw [names_eq]
    exact List.mem_map_of_mem f.mem_ofSection

end Setting

namespace Settings

variable {c : Section} {dialect : Dialect}

theorem field_shows (f : Setting c) (e : Section) :
    e.field.Shows dialect f.of c.title fun d =>
      (((d.part? (Setting.keys c) f.key).map
        fun part => (f.readDocument dialect part).toOption).getD (some (f.of .standard))) := by
  intro d before after read
  obtain ⟨r, heard, put⟩ := bind_eq_ok_iff.mp read
  obtain rfl := Except.ok.inj put
  by_cases same : e = c
  · subst same
    have shown := f.read_overlaid heard
    rw [Section.field, if_pos rfl]
    rw [Overlaid, Setting.of, Section.get_put]
    exact shown
  · have other : e.field.name ≠ c.title := fun named => same (Section.title_injective named)
    rw [if_neg other]
    exact congrArg (fun r => some (f.get r)) (Section.get_put_of_ne (Ne.symm same) r before)

theorem ofDocument_overlaid (f : Setting c) {d : Document} {s : Settings}
    (read : ofDocument dialect d = .ok s) :
    Overlaid f.of (f.inDocument dialect d) .standard s := by
  have shown : Overlaid f.of ((d.part? Section.titles c.title).map fun d =>
      (((d.part? (Setting.keys c) f.key).map
        fun part => (f.readDocument dialect part).toOption).getD (some (f.of .standard))))
      .standard s := by
    have known : c.title ∈ shape.fields.map Field.name := by
      rw [Section.fields_eq, List.map_map]
      exact List.mem_map_of_mem c.mem_all
    refine Shape.read_overlaid (fun g member => ?_) known read
    obtain ⟨e, -, rfl⟩ := List.mem_map.mp (Section.fields_eq ▸ member)
    exact field_shows f e
  -- A section that appears starts from the same defaults as one that does not.
  rw [Setting.inDocument]
  cases found : d.part? Section.titles c.title with
  | none => rwa [found] at shown
  | some inner => rwa [found] at shown

theorem ofFile_document {file : SettingsFile} {s : Settings} (read : ofFile file = .ok s) :
    ∃ d, file.document? = some d ∧ ofDocument .toml d = .ok s := by
  rw [ofFile] at read
  cases content : file.content with
  | error reason => rw [content] at read; cases read
  | ok bytes =>
    simp only [content] at read
    cases decoded : Text.Utf8.decode bytes with
    | error fault => simp only [decoded] at read; cases read
    | ok text =>
      simp only [decoded, ofToml] at read
      cases parsed : Toml.read text with
      | error fault => simp only [parsed, Except.bind] at read; cases read
      | ok d =>
        refine ⟨d, by simp [SettingsFile.document?, content, decoded, parsed, Except.toOption], ?_⟩
        simp only [parsed, Except.bind] at read
        split at read
        next t whole => rw [whole, Except.ok.inj read]
        next fault failed => cases read

/-- The settings of a file, or the defaults without one. -/
def base : Option SettingsFile → Except SettingsFault Settings
  | some file => ofFile file
  | none => .ok standard

theorem base_overlaid (f : Setting c) {file : Option SettingsFile} {s : Settings}
    (read : base file = .ok s) : Overlaid f.of (f.inFile file) .standard s := by
  cases file with
  | none => cases read; exact .refl
  | some file =>
    obtain ⟨d, holds, read⟩ := ofFile_document read
    rw [Setting.inFile, Option.bind_some, holds]
    exact ofDocument_overlaid f read

end Settings

/-! ### Environments -/

namespace Variable

variable {c : Section} {env : Environment} {before after : Settings}

theorem Sets.overlaid {v : Variable} {e : Section} {g : Setting e} (sets : v.Sets g)
    (f : Setting c) (applied : v.apply env before = .ok after) :
    Overlaid f.of (if f.environmentName? = some v.name then f.inEnvironment env else none)
      before after := by
  rw [Variable.apply] at applied
  cases found : env.lookup v.name with
  | none =>
    simp only [found] at applied
    cases applied
    have nothing (named : f.environmentName? = some v.name) : f.inEnvironment env = none := by
      rw [Setting.inEnvironment_of_named named, found, Option.map_none]
    split
    next named => rw [nothing named]; exact .refl
    next => exact .refl
  | some text =>
    simp only [found] at applied
    have put := sets.put text before
    rw [applied] at put
    obtain ⟨a, heard, rfl⟩ := Option.map_eq_some_iff.mp put.symm
    by_cases named : f.environmentName? = some v.name
    · cases Setting.eq_of_environmentName named sets.named
      rw [if_pos named, Setting.inEnvironment_of_named named, found, Option.map_some, heard,
        Overlaid, Setting.of_update, Option.getD_some]
    · have other : Sigma.mk c f ≠ Sigma.mk e g := by
        intro same
        cases same
        exact named sets.named
      rw [if_neg named, Overlaid, Setting.of_update_of_ne other, Option.getD_none]

theorem foldlM_overlaid {vs : List Variable}
    (settings : ∀ v ∈ vs, ∃ (e : Section) (g : Setting e), v.Sets g) (f : Setting c)
    (run : vs.foldlM (apply env) before = .ok after) :
    Overlaid f.of
      (if f.environmentName? ∈ vs.map (fun v => some v.name) then f.inEnvironment env else none)
      before after := by
  induction vs generalizing before with
  | nil => cases run; exact .refl
  | cons v rest ih =>
    rw [List.foldlM_cons] at run
    obtain ⟨between, applied, run⟩ := bind_eq_ok_iff.mp run
    obtain ⟨e, g, sets⟩ := settings v List.mem_cons_self
    have whole := (sets.overlaid f applied).trans
      (ih (fun w member => settings w (List.mem_cons_of_mem v member)) run)
    rw [List.map_cons]
    simp only [List.mem_cons]
    by_cases later : f.environmentName? ∈ rest.map (fun v => some v.name)
    · -- If this variable has the name as well, it gives the same.
      rw [if_pos later] at whole
      rw [if_pos (.inr later)]
      by_cases here : f.environmentName? = some v.name
      · rwa [if_pos here, Option.or_self] at whole
      · rwa [if_neg here, Option.or_none] at whole
    · rw [if_neg later, Option.none_or] at whole
      simpa only [later, or_false] using whole

end Variable

namespace Settings

variable {c : Section}

theorem overridden_overlaid (f : Setting c) {env : Environment} {s t : Settings}
    (run : s.overridden env = .ok t) : Overlaid f.of (f.inEnvironment env) s t := by
  have whole := Variable.foldlM_overlaid Variable.sets_setting f run
  cases named : f.environmentName? with
  | none =>
    rw [Setting.inEnvironment_of_unnamed named] at whole ⊢
    rwa [ite_self] at whole
  | some name =>
    obtain ⟨v, member, sets⟩ := Variable.exists_sets named
    have known : f.environmentName? ∈ Variable.all.map fun v => some v.name :=
      List.mem_map.mpr ⟨v, member, sets.named.symm⟩
    rwa [if_pos known] at whole

end Settings

/-! ### Options -/

theorem Options.override_overlaid {c : Section} (f : Setting c) (o : Options) (s : Settings) :
    Overlaid f.of ((f.inOptions o).map some) s (o.override s) := by
  obtain ⟨_, _, level, httpPort, metricsPort, servers, backend, debug, _⟩ := o
  cases f with
  | logLevel => cases debug <;> cases level <;> rfl
  | httpPort => cases httpPort <;> rfl
  | metricsPort => cases metricsPort <;> rfl
  | servers => cases servers <;> rfl
  | backend => cases backend <;> rfl
  | _ => rfl

/-! ### All sources -/

namespace Settings

/-- The settings of a file and an environment, not yet validated. -/
def merge (file : Option SettingsFile) (env : Environment) : Except SettingsFault Settings := do
  (← base file).overridden env

theorem load_eq (file : Option SettingsFile) (env : Environment) :
    load file env = (merge file env).bind validated := by
  cases file with
  | none => rfl
  | some file =>
    simp only [load, merge, base]
    cases ofFile file <;> rfl

theorem merge_overlaid {c : Section} (f : Setting c) {file : Option SettingsFile}
    {env : Environment} {s : Settings} (merged : merge file env = .ok s) :
    Overlaid f.of ((f.inEnvironment env).or (f.inFile file)) .standard s := by
  obtain ⟨b, read, run⟩ := bind_eq_ok_iff.mp merged
  exact (base_overlaid f read).trans (overridden_overlaid f run)

theorem validated_eq_ok_iff {s t : Settings} :
    s.validated = .ok t ↔ s.validate = .ok () ∧ t = s := by
  rw [validated]
  cases s.validate with
  | error fault => exact ⟨nofun, fun both => nomatch both.1⟩
  | ok _ => exact ⟨fun same => ⟨rfl, (Except.ok.inj same).symm⟩, fun both => congrArg _ both.2.symm⟩

end Settings

namespace Options

/-- Settings are accepted if they are valid with the options and without them. -/
theorem settings_eq_ok_iff {o : Options} {file : Option SettingsFile} {env : Environment}
    {s : Settings} :
    o.settings file env = .ok s ↔
      ∃ t, Settings.merge file env = .ok t ∧ t.validate = .ok () ∧
        (o.override t).validate = .ok () ∧ s = o.override t := by
  rw [settings, Settings.load_eq]
  constructor
  · intro accepted
    obtain ⟨u, loaded, accepted⟩ := bind_eq_ok_iff.mp accepted
    obtain ⟨t, merged, kept⟩ := bind_eq_ok_iff.mp loaded
    obtain ⟨valid, rfl⟩ := Settings.validated_eq_ok_iff.mp kept
    obtain ⟨validOver, rfl⟩ := Settings.validated_eq_ok_iff.mp accepted
    exact ⟨u, merged, valid, validOver, rfl⟩
  · rintro ⟨t, merged, valid, validOver, rfl⟩
    have kept := Settings.validated_eq_ok_iff.mpr ⟨valid, rfl⟩
    have keptOver := Settings.validated_eq_ok_iff.mpr ⟨validOver, rfl⟩
    exact bind_eq_ok_iff.mpr ⟨t, bind_eq_ok_iff.mpr ⟨t, merged, kept⟩, keptOver⟩

end Options

end LobbyPlacement

import LobbyPlacement.Proofs.Settings.Merging

/-!
# Overridden values

What becomes of a value that the options replace. Whether an environment can be taken over does not
depend on the settings below it (`Settings.overridden_ok_iff`), so sources that differ only in
replaced values merge to the same settings, or cannot be merged in either case. The loader, however,
validates before anything is replaced: a replaced value can make it refuse, and does nothing else.
-/

namespace LobbyPlacement

namespace Variable

variable {env : Environment}

theorem Sets.apply_ok_iff {v : Variable} {c : Section} {f : Setting c} (sets : v.Sets f)
    (s : Settings) : (∃ t, v.apply env s = .ok t) ↔ f.inEnvironment env ≠ some none := by
  rw [Variable.apply, Setting.inEnvironment_of_named sets.named]
  cases env.lookup v.name with
  | none => simp
  | some text =>
    have put := sets.put text s
    dsimp only
    rw [Option.map_some]
    cases read : f.readText? text with
    | none =>
      rw [read, Option.map_none] at put
      refine iff_of_false ?_ (not_not_intro rfl)
      rintro ⟨t, applied⟩
      rw [applied] at put
      cases put
    | some a =>
      rw [read, Option.map_some] at put
      exact iff_of_true ⟨_, toOption_eq_some_iff.mp put⟩ (by simp)

theorem foldlM_ok_iff {vs : List Variable}
    (settings : ∀ v ∈ vs, ∃ (c : Section) (f : Setting c), v.Sets f) (s : Settings) :
    (∃ t, vs.foldlM (apply env) s = .ok t) ↔
      ∀ v ∈ vs, ∀ {c : Section} (f : Setting c), v.Sets f → f.inEnvironment env ≠ some none := by
  induction vs generalizing s with
  | nil => exact ⟨fun _ _ => nofun, fun _ => ⟨s, rfl⟩⟩
  | cons v rest ih =>
    have later := fun w member => settings w (List.mem_cons_of_mem v member)
    rw [List.foldlM_cons]
    constructor
    · rintro ⟨t, run⟩
      obtain ⟨between, applied, run⟩ := bind_eq_ok_iff.mp run
      intro w member c f sets
      rcases List.mem_cons.mp member with rfl | member
      · exact (sets.apply_ok_iff s).mp ⟨between, applied⟩
      · exact (ih later between).mp ⟨t, run⟩ w member f sets
    · intro readable
      obtain ⟨c, f, sets⟩ := settings v List.mem_cons_self
      obtain ⟨between, applied⟩ :=
        (sets.apply_ok_iff s).mpr (readable v List.mem_cons_self f sets)
      obtain ⟨t, run⟩ := (ih later between).mpr fun w member =>
        readable w (List.mem_cons_of_mem v member)
      exact ⟨t, bind_eq_ok_iff.mpr ⟨between, applied, run⟩⟩

end Variable

namespace Settings

/-- An environment can be taken over if all its values for settings can be read. -/
theorem overridden_ok_iff {env : Environment} (s : Settings) :
    (∃ t, s.overridden env = .ok t) ↔
      ∀ {c : Section} (f : Setting c), f.inEnvironment env ≠ some none := by
  refine (Variable.foldlM_ok_iff Variable.sets_setting s).trans ⟨fun readable c f => ?_, ?_⟩
  · cases named : f.environmentName? with
    | none => simp [Setting.inEnvironment_of_unnamed named]
    | some name =>
      obtain ⟨v, member, sets⟩ := Variable.exists_sets named
      exact readable v member f sets
  · exact fun readable v _ c f _ => readable f

theorem merge_ok_iff {file : Option SettingsFile} {env : Environment} :
    (∃ s, merge file env = .ok s) ↔ (∃ b, base file = .ok b) ∧
      ∀ {c : Section} (f : Setting c), f.inEnvironment env ≠ some none := by
  constructor
  · rintro ⟨s, merged⟩
    obtain ⟨b, read, run⟩ := bind_eq_ok_iff.mp merged
    exact ⟨⟨b, read⟩, (overridden_ok_iff b).mp ⟨s, run⟩⟩
  · rintro ⟨⟨b, read⟩, readable⟩
    obtain ⟨s, run⟩ := (overridden_ok_iff b).mpr readable
    exact ⟨s, bind_eq_ok_iff.mpr ⟨b, read, run⟩⟩

theorem load_isOk_iff {file : Option SettingsFile} {env : Environment} :
    (load file env).isOk = true ↔ ∃ t, merge file env = .ok t ∧ t.validate = .ok () := by
  rw [isOk_iff, load_eq]
  constructor
  · rintro ⟨u, loaded⟩
    obtain ⟨t, merged, kept⟩ := bind_eq_ok_iff.mp loaded
    exact ⟨t, merged, (validated_eq_ok_iff.mp kept).1⟩
  · rintro ⟨t, merged, valid⟩
    exact ⟨t, bind_eq_ok_iff.mpr ⟨t, merged, validated_eq_ok_iff.mpr ⟨valid, rfl⟩⟩⟩

end Settings

namespace Options

/-- Two files that can be read and two environments that differ, if at all, in readable values of
settings that the options override. -/
structure Alike (o : Options) (file file' : Option SettingsFile) (env env' : Environment) :
    Prop where
  parsed : ∃ b, Settings.base file = .ok b
  parsed' : ∃ b, Settings.base file' = .ok b
  files : ∀ {c : Section} (f : Setting c), f.inOptions o = none → f.inFile file = f.inFile file'
  environments : ∀ {c : Section} (f : Setting c), f.inOptions o = none →
    f.inEnvironment env = f.inEnvironment env'
  readable : ∀ {c : Section} (f : Setting c), f.inOptions o ≠ none →
    (f.inEnvironment env = some none ↔ f.inEnvironment env' = some none)

namespace Alike

variable {o : Options} {file file' : Option SettingsFile} {env env' : Environment}

theorem merge_ok_iff (alike : o.Alike file file' env env') :
    (∃ t, Settings.merge file env = .ok t) ↔ ∃ t, Settings.merge file' env' = .ok t := by
  have same {c : Section} (f : Setting c) :
      f.inEnvironment env = some none ↔ f.inEnvironment env' = some none := by
    by_cases free : f.inOptions o = none
    · rw [alike.environments f free]
    · exact alike.readable f free
  rw [Settings.merge_ok_iff, Settings.merge_ok_iff]
  refine and_congr (iff_of_true alike.parsed alike.parsed') ⟨fun readable c f => ?_,
    fun readable c f => ?_⟩
  · exact fun unread => readable f ((same f).mpr unread)
  · exact fun unread => readable f ((same f).mp unread)

theorem override_eq (alike : o.Alike file file' env env') {t t' : Settings}
    (merged : Settings.merge file env = .ok t) (merged' : Settings.merge file' env' = .ok t') :
    o.override t = o.override t' := by
  refine Settings.ext_of fun f => Option.some.inj ?_
  have first := (Settings.merge_overlaid f merged).trans (override_overlaid f o t)
  have second := (Settings.merge_overlaid f merged').trans (override_overlaid f o t')
  refine Eq.trans first (Eq.trans ?_ (Eq.symm second))
  cases free : f.inOptions o with
  | some a => rfl
  | none => rw [alike.files f free, alike.environments f free]

theorem merged_eq (alike : o.Alike file file' env env') :
    (Settings.merge file env).toOption.map o.override =
      (Settings.merge file' env').toOption.map o.override := by
  cases merged : Settings.merge file env with
  | ok t =>
    obtain ⟨t', merged'⟩ := alike.merge_ok_iff.mp ⟨t, merged⟩
    rw [merged']
    exact congrArg some (alike.override_eq merged merged')
  | error fault =>
    cases merged' : Settings.merge file' env' with
    | error fault' => rfl
    | ok t' =>
      obtain ⟨t, other⟩ := alike.merge_ok_iff.mpr ⟨t', merged'⟩
      rw [merged] at other
      cases other

end Alike

theorem settings_eq_ok_iff_of_load {o : Options} {file : Option SettingsFile} {env : Environment}
    {s : Settings} :
    o.settings file env = .ok s ↔
      (Settings.merge file env).toOption.map o.override = some s ∧ s.validate = .ok () ∧
        (Settings.load file env).isOk = true := by
  rw [settings_eq_ok_iff, Settings.load_isOk_iff]
  constructor
  · rintro ⟨t, merged, valid, validOver, rfl⟩
    exact ⟨by rw [merged]; rfl, validOver, t, merged, valid⟩
  · rintro ⟨merged, validOver, t, mergedThen, valid⟩
    rw [mergedThen] at merged
    cases merged
    exact ⟨t, mergedThen, valid, validOver, rfl⟩

/-- A run has settings exactly if all its sources merge to valid ones and the loader finds those
without the options valid as well. Sources that differ only in overridden values always merge to the
same settings, so that only the loader can tell them apart. -/
theorem settings_alike {o : Options} {file file' : Option SettingsFile} {env env' : Environment}
    (alike : o.Alike file file' env env') :
    (Settings.merge file env).toOption.map o.override =
        (Settings.merge file' env').toOption.map o.override ∧
      (∀ file env s, o.settings file env = .ok s ↔
        (Settings.merge file env).toOption.map o.override = some s ∧ s.validate = .ok () ∧
          (Settings.load file env).isOk = true) ∧
      ((Settings.load file env).isOk = (Settings.load file' env').isOk →
        (o.settings file env).toOption = (o.settings file' env').toOption) := by
  refine ⟨alike.merged_eq, fun _ _ _ => settings_eq_ok_iff_of_load, fun together => ?_⟩
  refine Option.ext fun s => ?_
  rw [toOption_eq_some_iff, toOption_eq_some_iff, settings_eq_ok_iff_of_load,
    settings_eq_ok_iff_of_load, alike.merged_eq, together]

def portOptions : Options := { empty with httpPort := some 8000 }

def portSettings : Settings := { Settings.standard with service.httpPort := 8000 }

/-- Any two values that are ports are alike to options with a port of their own. -/
theorem portOptions_alike {text text' : String} {n n' : Nat}
    (reads : Text.numeral? Text.maxUInt16 text.toList = some n)
    (reads' : Text.numeral? Text.maxUInt16 text'.toList = some n') :
    portOptions.Alike none none [("HTTP_PORT", text)] [("HTTP_PORT", text')] where
  parsed := ⟨_, rfl⟩
  parsed' := ⟨_, rfl⟩
  files _ _ := rfl
  environments f free := by cases f <;> first | rfl | cases free
  readable f set := by
    have given (text : String) : Setting.httpPort.inEnvironment [("HTTP_PORT", text)] =
        some (Text.numeral? Text.maxUInt16 text.toList) := rfl
    cases f with
    | httpPort => rw [given, given, reads, reads']; exact iff_of_false nofun nofun
    | _ => exact absurd rfl set

/-- Two ports in the environment, both replaced, with one outcome. -/
theorem replaced_ports_are_alike :
    portOptions.Alike none none [("HTTP_PORT", "8081")] [("HTTP_PORT", "9000")] ∧
      portOptions.settings none [("HTTP_PORT", "8081")] = .ok portSettings ∧
      (portOptions.settings none [("HTTP_PORT", "8081")]).toOption =
        (portOptions.settings none [("HTTP_PORT", "9000")]).toOption := by
  have alike : portOptions.Alike none none [("HTTP_PORT", "8081")] [("HTTP_PORT", "9000")] :=
    portOptions_alike rfl rfl
  exact ⟨alike, toOption_eq_some_iff.mp (by decide +kernel),
    (settings_alike alike).2.2 (by decide +kernel)⟩

/-- A replaced port that is also the metrics port makes the loader refuse, though the settings of
the run would be valid and the same as with any other port. -/
theorem replaced_port_can_still_refuse :
    portOptions.Alike none none [("HTTP_PORT", "9090")] [("HTTP_PORT", "8081")] ∧
      (Settings.merge none [("HTTP_PORT", "9090")]).toOption.map portOptions.override =
        some portSettings ∧
      portSettings.validate = .ok () ∧
      (portOptions.settings none [("HTTP_PORT", "9090")]).toOption = none ∧
      portOptions.settings none [("HTTP_PORT", "8081")] = .ok portSettings :=
  ⟨portOptions_alike rfl rfl, by decide +kernel, toOption_eq_some_iff.mp (by decide +kernel),
    by decide +kernel, toOption_eq_some_iff.mp (by decide +kernel)⟩

end Options

end LobbyPlacement

/-
CheckpointMonitor/Proofs/CommandLine/Start.lean

The start of a command is all or nothing.

The settings are those of the options over those of the file over the defaults, each of them by
itself (`exists_layer`); the options have no part in whether the file can be used
(`settings_eq_error_iff`).  The filter goes by another order: that of the options
(`filter_of_option`), then that of the environment, which is passed over if it is none
(`filter_of_environment`), then that of the settings (`filter_of_settings`).  What is made ready
first fails first (`prepare_cases`), and after a failure there is nothing but the complaint
about it (`failsToStart`).
-/
import CheckpointMonitor.Proofs.CommandLine.Conclusion
import CheckpointMonitor.Proofs.Settings.Layers

namespace CheckpointMonitor.CommandLine

open Settings (FromFile Layer LoadError)

variable {surroundings : Surroundings} {options : Options} {files : Files} {settings : Settings}
variable {environment : Option String} {error : StartError}

/-! ### The settings -/

/-- What the options say about the settings. -/
def Options.layer (options : Options) : Layer :=
  ⟨options.input, options.format, options.logFilter⟩

/-- The options lie over the settings of the file that they name, or over the defaults. -/
theorem settings_eq (options : Options) (files : Files) :
    options.settings files = match options.config with
      | none => .ok (options.layer.over {})
      | some path => (Settings.load files path).map options.layer.over := by
  rw [Options.settings]
  rcases options.config with - | path
  · rfl
  · dsimp only
    rcases Settings.load files path with e | settings <;> rfl

/-- **Each setting is that of the options, or else of the file, or else the default.** -/
theorem exists_layer (h : options.settings files = .ok settings) :
    ∃ layer, FromFile files options.config layer ∧ settings = (options.layer.or layer).over {} := by
  rw [settings_eq] at h
  split at h
  · next hconfig =>
    obtain rfl := Except.ok.inj h
    rw [hconfig]
    exact ⟨{}, .unnamed, Layer.over_over options.layer {} {}⟩
  · next path hconfig =>
    rcases hload : Settings.load files path with e | base
    · rw [hload] at h
      cases h
    · rw [hload] at h
      obtain rfl := Except.ok.inj h
      obtain ⟨layer, hfile, rfl⟩ := Settings.exists_fromFile hload
      rw [hconfig]
      exact ⟨layer, hfile, Layer.over_over options.layer layer {}⟩

/-- **There are no settings exactly if a file is named that gives none,** whatever else the options
say. -/
theorem settings_eq_error_iff {error : LoadError} :
    options.settings files = .error error ↔
      ∃ path, options.config = some path ∧ Settings.load files path = .error error := by
  rw [settings_eq]
  rcases options.config with - | path
  · exact iff_of_false nofun nofun
  · dsimp only
    rcases hload : Settings.load files path with e | base
    · constructor
      · intro h
        exact ⟨path, rfl, hload.trans (congrArg _ (Except.error.inj h))⟩
      · rintro ⟨_, ⟨⟩, h⟩
        exact congrArg _ (Except.error.inj (hload.symm.trans h))
    · refine iff_of_false nofun ?_
      rintro ⟨_, ⟨⟩, h⟩
      cases hload.symm.trans h

/-! ### The filter -/

/-- A filter among the options has to be one, whatever the environment holds. -/
theorem filter_of_option {text : String} (hsettings : options.settings files = .ok settings)
    (h : options.logFilter = some text) : options.filter environment settings = Log.Filter.parse text := by
  obtain ⟨layer, -, rfl⟩ := exists_layer hsettings
  rw [Options.filter, h]
  simp only [Layer.over, Layer.or, Options.layer, h]
  rfl

/-- Without one, a filter of the environment is taken, and that of the settings is not looked at. -/
theorem filter_of_environment {text : String} {filter : Log.Filter} (h : options.logFilter = none)
    (henvironment : environment = some text) (hparse : Log.Filter.parse text = .ok filter)
    (settings : Settings) : options.filter environment settings = .ok filter := by
  rw [Options.filter, h, henvironment, Option.map_some, hparse]

/-- If the environment has none, or one that is no filter, that of the settings has to be one. -/
theorem filter_of_settings (h : options.logFilter = none)
    (henvironment : ∀ text filter, environment = some text → Log.Filter.parse text ≠ .ok filter)
    (settings : Settings) :
    options.filter environment settings = Log.Filter.parse settings.logFilter := by
  rw [Options.filter, h]
  rcases environment with - | text
  · rfl
  · rcases hparse : Log.Filter.parse text with e | filter
    · rw [Option.map_some, hparse]
    · exact absurd hparse (henvironment text filter rfl)

/-! ### The first failure -/

/-- Why a source cannot be opened: it is a file, which cannot be. -/
theorem openSource_eq_error_iff :
    openSource surroundings settings = .error error ↔
      ∃ path reason, settings.input = some path ∧ surroundings.files.source path = .error reason ∧
        error = .capture path reason := by
  rw [openSource]
  rcases settings.input with - | path
  · constructor
    · intro h
      cases h
    · rintro ⟨path, reason, h, -⟩
      cases h
  · dsimp only
    rcases hsource : surroundings.files.source path with reason | source
    · constructor
      · intro h
        exact ⟨path, reason, rfl, hsource, (Except.error.inj h).symm⟩
      · rintro ⟨_, _, ⟨⟩, h, rfl⟩
        rw [Except.error.inj (hsource.symm.trans h)]
        rfl
    · constructor
      · intro h
        cases h
      · rintro ⟨_, _, ⟨⟩, h, -⟩
        cases hsource.symm.trans h

/-- **What can come of a start.**  The settings, the filter and the source are made ready in this order,
and the first that fails decides. -/
theorem prepare_cases (surroundings : Surroundings) (options : Options) :
    (∃ reason, options.settings surroundings.files = .error reason ∧
      prepare surroundings options = .error (.settings reason)) ∨
    ∃ settings, options.settings surroundings.files = .ok settings ∧
      ((∃ reason, options.filter surroundings.environment settings = .error reason ∧
          prepare surroundings options = .error (.filter reason)) ∨
        ∃ filter, options.filter surroundings.environment settings = .ok filter ∧
          ((∃ error, openSource surroundings settings = .error error ∧
              prepare surroundings options = .error error) ∨
            ∃ source, openSource surroundings settings = .ok source ∧
              prepare surroundings options = .ok ⟨settings, filter, source⟩)) := by
  simp only [prepare, bind, Except.bind]
  rcases options.settings surroundings.files with reason | settings
  · exact Or.inl ⟨reason, rfl, rfl⟩
  refine Or.inr ⟨settings, rfl, ?_⟩
  dsimp only [Except.mapError]
  rcases options.filter surroundings.environment settings with reason | filter
  · exact Or.inl ⟨reason, rfl, rfl⟩
  refine Or.inr ⟨filter, rfl, ?_⟩
  dsimp only
  rcases openSource surroundings settings with error | source
  · exact Or.inl ⟨error, rfl, rfl⟩
  · exact Or.inr ⟨source, rfl, rfl⟩

/-- What arrives on the standard input has no part in a start that fails. -/
theorem prepare_withInput (h : prepare surroundings options = .error error) (input : Source) :
    prepare { surroundings with input } options = .error error := by
  rcases prepare_cases surroundings options with ⟨reason, hsettings, hprepare⟩ | ⟨settings, hsettings,
    ⟨reason, hfilter, hprepare⟩ | ⟨filter, hfilter, ⟨error', hsource, hprepare⟩ | ⟨source, -, hprepare⟩⟩⟩
  · rw [← h, hprepare]
    simp only [prepare, bind, Except.bind, Except.mapError, hsettings]
  · rw [← h, hprepare]
    simp only [prepare, bind, Except.bind, Except.mapError, hsettings, hfilter]
  · rw [← h, hprepare]
    -- a source that cannot be opened is a file
    obtain ⟨path, reason, hinput, hfile, rfl⟩ := openSource_eq_error_iff.mp hsource
    have hsource' : openSource { surroundings with input } settings = .error (.capture path reason) :=
      openSource_eq_error_iff.mpr ⟨path, reason, hinput, hfile, rfl⟩
    simp only [prepare, bind, Except.bind, Except.mapError, hsettings, hfilter, hsource']
  · cases hprepare.symm.trans h

/-- The command ends before the watch: it fails and complains, and nothing else is done. -/
structure FailsToStart (surroundings : Surroundings) (arguments : List String) (error : StartError) : Prop where
  exitCode : (execute surroundings arguments).exitCode = 1
  /-- Nothing is echoed, and no report is written. -/
  output : (execute surroundings arguments).output = surroundings.output
  log : (execute surroundings arguments).log = #[]
  complaint : (execute surroundings arguments).complaint = (Complaint.ofStartError error).render
  /-- Nothing is read. -/
  input : ∀ input, execute { surroundings with input } arguments = execute surroundings arguments

theorem failsToStart {arguments : List String} (hparse : parse arguments = .ok (.run options))
    (h : prepare surroundings options = .error error) : FailsToStart surroundings arguments error := by
  have hresult : ∀ surroundings', prepare surroundings' options = .error error →
      execute surroundings' arguments
        = { exitCode := failureCode
            output := surroundings'.output
            complaint := (Complaint.ofStartError error).render } := by
    intro surroundings' h'
    simp only [execute, hparse, run, h']
  refine ⟨?_, ?_, ?_, ?_, ?_⟩
  · rw [hresult _ h]
    rfl
  · rw [hresult _ h]
  · rw [hresult _ h]
  · rw [hresult _ h]
  · intro input
    rw [hresult _ h, hresult _ (prepare_withInput h input)]

/-! ### All or nothing -/

end CheckpointMonitor.CommandLine

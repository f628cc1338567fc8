/-
CheckpointMonitor/Proofs/Settings/Layers.lean

Settings in layers.

Each place in which settings can be given says something about some of them and nothing about
the others: the options, a document, and last the defaults, which say something about all
(`Layer`).  A layer lies over settings that were there before and hides those of them about
which it says something, each by itself (`Layer.over`).

A document that can be used says of each setting what stands under its key
(`Layer.Gives`), and nothing where the key is missing.  It is decoded entry by entry, each of
which changes at most one of the settings (`set_cases`); since no name stands twice at the
top of a document, no entry hides another, and the whole is one layer over what was there before
(`exists_gives`, by induction on the entries).
-/
import CheckpointMonitor.Proofs.Toml.Names
import CheckpointMonitor.Settings.Load

namespace CheckpointMonitor

/-! ### The entry under a name -/

namespace Toml.Entries

variable {entries : Entries} {entry : Key × Node} {name : String}

/-- The entry with the name, as it is written. -/
def under? (entries : Entries) (name : String) : Option (Key × Node) :=
  List.find? (·.1.name == name) entries

theorem under?_cons_of_eq (h : entry.1.name = name) (entries : Entries) :
    under? (entry :: entries) name = some entry := by
  simp [under?, h]

theorem under?_cons_of_ne (h : entry.1.name ≠ name) (entries : Entries) :
    under? (entry :: entries) name = entries.under? name := by
  simp [under?, h]

theorem under?_eq_none_iff : entries.under? name = none ↔ name ∉ entries.names := by
  simp [under?, names]

end Toml.Entries

attribute [ext] Settings

namespace Settings

open Toml

variable {base settings : Settings} {entries : Entries} {key : Key} {node : Node}

/-! ### Layers -/

/-- What one place says about the settings. -/
structure Layer where
  input : Option String := none
  reportFormat : Option Summary.Format := none
  logFilter : Option String := none

/-- The settings under a layer. -/
def Layer.over (layer : Layer) (base : Settings) : Settings where
  input := layer.input <|> base.input
  reportFormat := layer.reportFormat.getD base.reportFormat
  logFilter := layer.logFilter.getD base.logFilter

/-- One layer over another. -/
def Layer.or (upper lower : Layer) : Layer where
  input := upper.input <|> lower.input
  reportFormat := upper.reportFormat <|> lower.reportFormat
  logFilter := upper.logFilter <|> lower.logFilter

theorem Layer.over_over (upper lower : Layer) (base : Settings) :
    upper.over (lower.over base) = (upper.or lower).over base := by
  obtain ⟨input, reportFormat, logFilter⟩ := upper
  cases input <;> cases reportFormat <;> cases logFilter <;> rfl

/-! ### The layer that a document is -/

/-- The layer says what the entries give for the known keys, and nothing for those that are missing. -/
structure Layer.Gives (layer : Layer) (entries : Entries) : Prop where
  input : (entries.under? "input").map (fun entry => stringOf entry.2) = layer.input.map .ok
  reportFormat : (entries.under? "report_format").map (fun entry => formatOf entry.1 entry.2)
    = layer.reportFormat.map .ok
  logFilter : (entries.under? "log_filter").map (fun entry => stringOf entry.2) = layer.logFilter.map .ok

/-- What an entry can do to the settings. -/
theorem set_cases (h : set base (key, node) = .ok settings) :
    (key.name = "input" ∧ ∃ path, stringOf node = .ok path ∧ settings = { base with input := some path }) ∨
    (key.name = "report_format" ∧
      ∃ format, formatOf key node = .ok format ∧ settings = { base with reportFormat := format }) ∨
    (key.name = "log_filter" ∧
      ∃ filter, stringOf node = .ok filter ∧ settings = { base with logFilter := filter }) ∨
    (key.name ≠ "input" ∧ key.name ≠ "report_format" ∧ key.name ≠ "log_filter" ∧ settings = base) := by
  rw [set] at h
  split at h
  · next hname =>
    split at h
    · next path hpath => exact Or.inl ⟨hname, path, hpath, (Except.ok.inj h).symm⟩
    · cases h
  · next hname =>
    split at h
    · next format hformat => exact Or.inr (Or.inl ⟨hname, format, hformat, (Except.ok.inj h).symm⟩)
    · cases h
  · next hname =>
    split at h
    · next filter hfilter => exact Or.inr (Or.inr (Or.inl ⟨hname, filter, hfilter, (Except.ok.inj h).symm⟩))
    · cases h
  · next hinput hformat hfilter =>
    exact Or.inr (Or.inr (Or.inr ⟨hinput, hformat, hfilter, (Except.ok.inj h).symm⟩))

/-- **What the entries say about one setting** is what is read off the entry of its name, if there is one; the
induction is on the entries, of which only one can have the name. -/
theorem of_foldlM_set {α β ε : Type} {name : String} {read : Key × Node → Except ε α} {get : Settings → β}
    {give : α → β}
    (hset : ∀ base entry settings, set base entry = .ok settings →
      (entry.1.name = name → ∃ a, read entry = .ok a ∧ get settings = give a) ∧
        (entry.1.name ≠ name → get settings = get base))
    (hnames : entries.names.Nodup) (h : entries.foldlM set base = .ok settings) :
    ∃ said : Option α, (entries.under? name).map read = said.map .ok ∧
      get settings = said.elim (get base) give := by
  induction entries generalizing base with
  | nil =>
    obtain rfl := Except.ok.inj h
    exact ⟨none, rfl, rfl⟩
  | cons entry entries ih =>
    rw [List.foldlM_cons] at h
    obtain ⟨base', hentry, hrest⟩ := exists_of_bind h
    obtain ⟨hnew, hnames⟩ := List.nodup_cons.mp (Entries.names_cons entry entries ▸ hnames)
    obtain ⟨hgiven, hkept⟩ := hset base entry base' hentry
    obtain ⟨said, hsaid, hsettings⟩ := ih hnames hrest
    by_cases hname : entry.1.name = name
    · -- no later entry has the name, so what this one gives stays
      rw [Entries.under?_eq_none_iff.mpr (hname ▸ hnew)] at hsaid
      obtain rfl := Option.map_eq_none_iff.mp hsaid.symm
      obtain ⟨a, hread, hgive⟩ := hgiven hname
      refine ⟨some a, ?_, hsettings.trans hgive⟩
      rw [Entries.under?_cons_of_eq hname]
      exact congrArg some hread
    · rw [Entries.under?_cons_of_ne hname, ← hkept hname]
      exact ⟨said, hsaid, hsettings⟩

theorem input_of_set (base : Settings) (entry : Key × Node) (settings : Settings)
    (h : set base entry = .ok settings) :
    (entry.1.name = "input" → ∃ path, stringOf entry.2 = .ok path ∧ settings.input = some path) ∧
      (entry.1.name ≠ "input" → settings.input = base.input) := by
  rcases set_cases h with ⟨hname, path, hpath, rfl⟩ | ⟨hname, _, -, rfl⟩ | ⟨hname, _, -, rfl⟩ |
    ⟨hname, -, -, rfl⟩
  · exact ⟨fun _ => ⟨path, hpath, rfl⟩, fun hne => absurd hname hne⟩
  · exact ⟨fun heq => absurd (hname.symm.trans heq) (by decide), fun _ => rfl⟩
  · exact ⟨fun heq => absurd (hname.symm.trans heq) (by decide), fun _ => rfl⟩
  · exact ⟨fun heq => absurd heq hname, fun _ => rfl⟩

theorem reportFormat_of_set (base : Settings) (entry : Key × Node) (settings : Settings)
    (h : set base entry = .ok settings) :
    (entry.1.name = "report_format" →
        ∃ format, formatOf entry.1 entry.2 = .ok format ∧ settings.reportFormat = format) ∧
      (entry.1.name ≠ "report_format" → settings.reportFormat = base.reportFormat) := by
  rcases set_cases h with ⟨hname, _, -, rfl⟩ | ⟨hname, format, hformat, rfl⟩ | ⟨hname, _, -, rfl⟩ |
    ⟨-, hname, -, rfl⟩
  · exact ⟨fun heq => absurd (hname.symm.trans heq) (by decide), fun _ => rfl⟩
  · exact ⟨fun _ => ⟨format, hformat, rfl⟩, fun hne => absurd hname hne⟩
  · exact ⟨fun heq => absurd (hname.symm.trans heq) (by decide), fun _ => rfl⟩
  · exact ⟨fun heq => absurd heq hname, fun _ => rfl⟩

theorem logFilter_of_set (base : Settings) (entry : Key × Node) (settings : Settings)
    (h : set base entry = .ok settings) :
    (entry.1.name = "log_filter" → ∃ filter, stringOf entry.2 = .ok filter ∧ settings.logFilter = filter) ∧
      (entry.1.name ≠ "log_filter" → settings.logFilter = base.logFilter) := by
  rcases set_cases h with ⟨hname, _, -, rfl⟩ | ⟨hname, _, -, rfl⟩ | ⟨hname, filter, hfilter, rfl⟩ |
    ⟨-, -, hname, rfl⟩
  · exact ⟨fun heq => absurd (hname.symm.trans heq) (by decide), fun _ => rfl⟩
  · exact ⟨fun heq => absurd (hname.symm.trans heq) (by decide), fun _ => rfl⟩
  · exact ⟨fun _ => ⟨filter, hfilter, rfl⟩, fun hne => absurd hname hne⟩
  · exact ⟨fun heq => absurd heq hname, fun _ => rfl⟩

/-- **Entries with different names are one layer** over the settings that were there before. -/
theorem exists_gives (hnames : entries.names.Nodup) (h : entries.foldlM set base = .ok settings) :
    ∃ layer : Layer, layer.Gives entries ∧ settings = layer.over base := by
  obtain ⟨input, hinput, hinput'⟩ := of_foldlM_set input_of_set hnames h
  obtain ⟨format, hformat, hformat'⟩ := of_foldlM_set reportFormat_of_set hnames h
  obtain ⟨filter, hfilter, hfilter'⟩ := of_foldlM_set logFilter_of_set hnames h
  refine ⟨⟨input, format, filter⟩, ⟨hinput, hformat, hfilter⟩, Settings.ext ?_ ?_ ?_⟩
  · rw [hinput']
    cases input <;> rfl
  · rw [hformat']
    cases format <;> rfl
  · rw [hfilter']
    cases filter <;> rfl

/-! ### Files -/

/-- The layer that the file of the settings is, where one is named; none is named, or its text is a
document that can be used. -/
inductive FromFile (files : Files) : Option String → Layer → Prop where
  | unnamed : FromFile files none {}
  | read {path text : String} {entries : Entries} {layer : Layer} (hread : files.readText path = .ok text)
      (hentries : Entries.ofText text = .ok entries) (hnames : entries.names.Nodup)
      (hgives : layer.Gives entries) : FromFile files (some path) layer

/-- **Settings out of a file** are its layer over the defaults. -/
theorem exists_fromFile {files : Files} {path : String} (h : load files path = .ok settings) :
    ∃ layer, FromFile files (some path) layer ∧ settings = layer.over {} := by
  rw [load] at h
  split at h
  · cases h
  next text hread =>
  rw [ofText] at h
  split at h
  · cases h
  next hok =>
  split at hok
  · cases hok
  next entries hentries =>
  split at hok
  · cases hok
  next hdecode =>
  obtain rfl := Except.ok.inj hok
  obtain rfl := Except.ok.inj h
  have hnames := Entries.nodup_ofText hentries
  obtain ⟨layer, hgives, hsettings⟩ := exists_gives hnames hdecode
  exact ⟨layer, .read hread hentries hnames hgives, hsettings⟩

/-- What is said of a file that gives no settings names it, and then says what is wrong with reading it
or with its text. -/
theorem load_eq_error_iff {files : Files} {path : String} {error : LoadError} :
    load files path = .error error ↔
      (∃ reason, files.readText path = .error reason ∧ error = .unreadable path reason) ∨
        ∃ text reason, files.readText path = .ok text ∧ ofText text = .error reason ∧
          error = .unusable path reason := by
  rw [load]
  rcases hread : files.readText path with reason | text
  · constructor
    · intro h
      exact Or.inl ⟨reason, rfl, (Except.error.inj h).symm⟩
    · rintro (⟨_, ⟨⟩, rfl⟩ | ⟨_, _, ⟨⟩, -⟩)
      rfl
  · dsimp only
    rcases htext : ofText text with reason | settings
    · constructor
      · intro h
        exact Or.inr ⟨text, reason, rfl, htext, (Except.error.inj h).symm⟩
      · rintro (⟨_, ⟨⟩, -⟩ | ⟨_, _, ⟨⟩, hreason, rfl⟩)
        obtain rfl := Except.error.inj (htext.symm.trans hreason)
        rfl
    · constructor
      · nofun
      · rintro (⟨_, ⟨⟩, -⟩ | ⟨_, _, ⟨⟩, hreason, -⟩)
        cases htext.symm.trans hreason

end Settings

end CheckpointMonitor

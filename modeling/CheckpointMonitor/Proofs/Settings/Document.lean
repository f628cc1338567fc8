/-
CheckpointMonitor/Proofs/Settings/Document.lean

What a document says about the settings, whatever reads it.

An entry fits when its value can stand under its name (`Fits`).  If all entries fit, the document says
which the settings are: what stands under the known names, and the defaults where nothing does
(`Says`).  This leaves no choice, since no name stands twice at the top of a document (`Says.unique`).
Otherwise it has a first entry that does not fit (`FirstUnfit`).

Entries under other names always fit and say nothing, so all of this is about the known entries.  That
they fit, and what they say, does not hang on their order (`Usable.of_perm`, `Says.of_perm`), but which
of those that do not fit is the first does (`FirstUnfit.known`).
-/
import CheckpointMonitor.Proofs.Settings.Layers
import CheckpointMonitor.Proofs.Toml.Value

namespace CheckpointMonitor

open Toml Summary

variable {name : String} {format : Format} {document document' : Document}

namespace Settings

/-! ### Values that can stand under the known names -/

/-- The words for the forms of the report. -/
inductive IsWord : String → Format → Prop where
  | text : IsWord "text" .text
  | json : IsWord "json" .json

/-- The values that stand for a form of the report: the word for it, and a table with nothing but the word,
under which there is nothing. -/
def Names (value : Value) (format : Format) : Prop :=
  ∃ word, IsWord word format ∧
    (value = .scalar (.string word) ∨ ∃ content : Value, content.IsEmpty ∧ value = .table [(word, content)])

/-- The value can stand under the name; under a name that is not known any value can. -/
structure Fits (name : String) (value : Value) : Prop where
  input (h : name = "input") : ∃ path, value = .scalar (.string path)
  reportFormat (h : name = "report_format") : ∃ format, Names value format
  logFilter (h : name = "log_filter") : ∃ filter, value = .scalar (.string filter)

/-- All entries of the document fit. -/
def Usable (document : Document) : Prop :=
  ∀ entry ∈ document, Fits entry.1 entry.2

/-- The first entry of a document that does not fit. -/
inductive FirstUnfit : Document → String × Value → Prop where
  | here {entry : String × Value} {later : Document} (h : ¬Fits entry.1 entry.2) :
      FirstUnfit (entry :: later) entry
  | later {entry unfit : String × Value} {later : Document} (h : Fits entry.1 entry.2)
      (hlater : FirstUnfit later unfit) : FirstUnfit (entry :: later) unfit

/-- The names of the settings in a document. -/
def knownNames : List String :=
  ["input", "report_format", "log_filter"]

/-- The entries of a document that are about the settings. -/
def known (document : Document) : Document :=
  document.filter fun entry => entry.1 ∈ knownNames

theorem ofName?_name (format : Format) : Format.ofName? format.name = some format := by
  cases format <;> decide

theorem isWord_iff {word : String} : IsWord word format ↔ word = format.name := by
  constructor
  · rintro (_ | _) <;> rfl
  · rintro rfl
    cases format
    · exact .text
    · exact .json

theorem names_string_iff {word : String} : Names (.scalar (.string word)) format ↔ word = format.name := by
  constructor
  · rintro ⟨word', hword, h | ⟨_, -, ⟨⟩⟩⟩
    exact (Scalar.string.inj (Value.scalar.inj h)).trans (isWord_iff.mp hword)
  · exact fun h => ⟨word, isWord_iff.mpr h, Or.inl rfl⟩

theorem names_table_iff {word : String} {content : Value} :
    Names (.table [(word, content)]) format ↔ word = format.name ∧ content.IsEmpty := by
  constructor
  · rintro ⟨word', hword, h | ⟨_, hempty, h⟩⟩
    · nomatch h
    · obtain ⟨rfl, rfl⟩ := Prod.mk.inj (List.cons.inj (Value.table.inj h)).1
      exact ⟨isWord_iff.mp hword, hempty⟩
  · rintro ⟨h, hempty⟩
    exact ⟨word, isWord_iff.mpr h, Or.inr ⟨content, hempty, rfl⟩⟩

theorem Names.unique {value : Value} {format' : Format} (h : Names value format) (h' : Names value format') :
    format = format' := by
  have hname : format.name = format'.name := by
    obtain ⟨word, hword, rfl | ⟨content, -, rfl⟩⟩ := h
    · exact (isWord_iff.mp hword).symm.trans (names_string_iff.mp h')
    · exact (isWord_iff.mp hword).symm.trans (names_table_iff.mp h').1
  rw [← Option.some_inj, ← ofName?_name format, hname, ofName?_name]

/-- Nothing else than a word and a table of one entry can name a form. -/
theorem not_names {value : Value} (hword : ∀ word, value ≠ .scalar (.string word))
    (htable : ∀ entry, value ≠ .table [entry]) (format : Format) : ¬Names value format := by
  rintro ⟨word, -, h | ⟨content, -, h⟩⟩
  · exact hword word h
  · exact htable _ h

theorem fits_of_unknown (h : name ∉ knownNames) (value : Value) : Fits name value := by
  refine ⟨?_, ?_, ?_⟩ <;>
    · rintro rfl
      exact absurd (by decide) h

theorem fits_input_iff {value : Value} : Fits "input" value ↔ ∃ path, value = .scalar (.string path) :=
  ⟨fun h => h.input rfl, fun h => ⟨fun _ => h, fun hname => absurd hname (by decide),
    fun hname => absurd hname (by decide)⟩⟩

theorem fits_reportFormat_iff {value : Value} : Fits "report_format" value ↔ ∃ format, Names value format :=
  ⟨fun h => h.reportFormat rfl, fun h => ⟨fun hname => absurd hname (by decide), fun _ => h,
    fun hname => absurd hname (by decide)⟩⟩

theorem fits_logFilter_iff {value : Value} :
    Fits "log_filter" value ↔ ∃ filter, value = .scalar (.string filter) :=
  ⟨fun h => h.logFilter rfl, fun h => ⟨fun hname => absurd hname (by decide),
    fun hname => absurd hname (by decide), fun _ => h⟩⟩

theorem FirstUnfit.not_usable {unfit : String × Value} (h : FirstUnfit document unfit) : ¬Usable document := by
  intro husable
  induction h with
  | here h => exact h (husable _ List.mem_cons_self)
  | later _ _ ih => exact ih fun entry hentry => husable entry (List.mem_cons_of_mem _ hentry)

theorem FirstUnfit.unique {unfit unfit' : String × Value} (h : FirstUnfit document unfit)
    (h' : FirstUnfit document unfit') : unfit = unfit' := by
  induction h with
  | here h =>
    cases h' with
    | here _ => rfl
    | later hfits _ => exact absurd hfits h
  | later h _ ih =>
    cases h' with
    | here hunfit => exact absurd h hunfit
    | later _ hlater => exact ih hlater

/-- Entries of other names are passed over on the way to the first that does not fit. -/
theorem FirstUnfit.known {unfit : String × Value} (h : FirstUnfit document unfit) :
    FirstUnfit (known document) unfit := by
  induction h with
  | @here entry later h =>
    have hname : entry.1 ∈ knownNames := by
      by_contra hname
      exact h (fits_of_unknown hname _)
    rw [Settings.known, List.filter_cons_of_pos (by simpa using hname)]
    exact .here h
  | @later entry unfit later h _ ih =>
    by_cases hname : entry.1 ∈ knownNames
    · rw [Settings.known, List.filter_cons_of_pos (by simpa using hname)]
      exact .later h ih
    · rwa [Settings.known, List.filter_cons_of_neg (by simpa using hname)]

/-! ### What a document says -/

/-- The document says `a` under the name, by a value that means it, or it has no such entry and `a` is
the default. -/
def Under {α : Type} (document : Document) (name : String) (Means : Value → α → Prop) (default a : α) :
    Prop :=
  (∃ value, (name, value) ∈ document ∧ Means value a) ∨ ((∀ value, (name, value) ∉ document) ∧ a = default)

/-- The settings are what the document says, and the defaults where it says nothing. -/
structure Says (document : Document) (settings : Settings) : Prop where
  input : Under document "input" (fun value input => ∃ path, value = .scalar (.string path) ∧ input = some path)
    none settings.input
  reportFormat : Under document "report_format" Names .text settings.reportFormat
  logFilter : Under document "log_filter" (fun value filter => value = .scalar (.string filter))
    "warn" settings.logFilter

/-- Documents whose known entries are the same, in whatever order. -/
theorem mem_iff_of_perm (h : (known document').Perm (known document)) (hname : name ∈ knownNames)
    (value : Value) : (name, value) ∈ document' ↔ (name, value) ∈ document := by
  have hknown (document : Document) : (name, value) ∈ known document ↔ (name, value) ∈ document := by
    simp [known, hname]
  rw [← hknown document', h.mem_iff, hknown]

theorem Usable.of_perm (h : (known document').Perm (known document)) (husable : Usable document) :
    Usable document' := by
  rintro ⟨name, value⟩ hentry
  by_cases hname : name ∈ knownNames
  · exact husable (name, value) ((mem_iff_of_perm h hname value).mp hentry)
  · exact fits_of_unknown hname value

theorem Says.of_perm {settings : Settings} (h : (known document').Perm (known document))
    (hsaid : Says document' settings) : Says document settings := by
  have hmem {name : String} (hname : name ∈ knownNames) := mem_iff_of_perm h hname
  obtain ⟨hinput, hformat, hfilter⟩ := hsaid
  simp only [Under, hmem (show "input" ∈ knownNames by decide)] at hinput
  simp only [Under, hmem (show "report_format" ∈ knownNames by decide)] at hformat
  simp only [Under, hmem (show "log_filter" ∈ knownNames by decide)] at hfilter
  exact ⟨hinput, hformat, hfilter⟩

/-- Where values mean one thing and names have one value, what is said under a name is one thing. -/
theorem Under.unique {α : Type} {Means : Value → α → Prop} {default a b : α}
    (hmeans : ∀ value a b, Means value a → Means value b → a = b)
    (hvalue : ∀ value value', (name, value) ∈ document → (name, value') ∈ document → value = value')
    (ha : Under document name Means default a) (hb : Under document name Means default b) : a = b := by
  rcases ha with ⟨value, hmem, ha⟩ | ⟨hmissing, rfl⟩ <;>
    rcases hb with ⟨value', hmem', hb⟩ | ⟨hmissing', rfl⟩
  · obtain rfl := hvalue value value' hmem hmem'
    exact hmeans value a b ha hb
  · exact absurd hmem (hmissing' value)
  · exact absurd hmem' (hmissing value')
  · rfl

/-- **A document says one thing** about the settings. -/
theorem Says.unique {entries : Entries} (hnames : entries.names.Nodup) {settings settings' : Settings}
    (h : Says entries.document settings) (h' : Says entries.document settings') : settings = settings' := by
  have hvalue {name : String} (value value' : Value) (hmem : (name, value) ∈ entries.document)
      (hmem' : (name, value') ∈ entries.document) := Entries.value_unique hnames hmem hmem'
  refine Settings.ext ?_ ?_ ?_
  · refine Under.unique ?_ hvalue h.input h'.input
    rintro _ _ _ ⟨path, rfl, rfl⟩ ⟨path', hpath, rfl⟩
    rw [Scalar.string.inj (Value.scalar.inj hpath)]
  · refine Under.unique ?_ hvalue h.reportFormat h'.reportFormat
    intro _ _ _ hformat hformat'
    exact hformat.unique hformat'
  · refine Under.unique ?_ hvalue h.logFilter h'.logFilter
    rintro _ _ _ rfl hfilter
    exact Scalar.string.inj (Value.scalar.inj hfilter)

end Settings

end CheckpointMonitor

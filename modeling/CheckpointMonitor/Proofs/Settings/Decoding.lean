/-
CheckpointMonitor/Proofs/Settings/Decoding.lean

Which documents give settings, which settings they give, and what is complained of otherwise.

Each reading of a value either answers with what the value says or complains of it (`stringOf_spec`,
`formatOf_spec`).  So an entry is read and fits, or it does not fit and the complaint is about this entry, at
a place in it (`set_spec`).  The entries are read in the order of the document, and it is by induction on
them that the complaint is about the first that does not fit (`foldlM_set_spec`).

That the settings which are read are those that the document says is known from the layer that it is
(`says_of_decode`).
-/
import CheckpointMonitor.Proofs.Settings.Document

namespace CheckpointMonitor

open Toml Summary

variable {name : String} {format : Format}

namespace Settings

/-! ### Reading one entry -/

/-- The name of the setting that a complaint is about. -/
def Complaint.about : Complaint → String
  | .inputNotString _ => "input"
  | .filterNotString _ => "log_filter"
  | .unknownFormat _ | .formatNotNamed | .formatMissing | .formatAmbiguous
  | .contentNotEmptyTable | .contentNotEmptyArray | .contentNotTable _ => "report_format"

/-- A place in an entry: that of its value, that of its key where the value has none, or, in a table of
one entry, a place in that one. -/
inductive Within (key : Key) : Node → Span → Prop where
  | whole {node : Node} : Within key node (node.span?.getD key.span)
  | name {kind : TableKind} {span? : Option Span} {inner : Key} {content : Node} :
      Within key (.table kind span? [(inner, content)]) inner.span
  | content {kind : TableKind} {span? : Option Span} {inner : Key} {content : Node} {span : Span}
      (h : content.span? = some span) : Within key (.table kind span? [(inner, content)]) span

/-- The complaint is about the entry, and shown at a place in it. -/
structure Shows (key : Key) (node : Node) (wrong : WrongValue) : Prop where
  about : wrong.complaint.about = key.name
  place : Within key node wrong.span

variable {key : Key}

theorem stringOf_spec (node : Node) :
    (∃ text, stringOf node = .ok text ∧ node.value = .scalar (.string text)) ∨
      ∃ found, stringOf node = .error found ∧ ∀ text, node.value ≠ .scalar (.string text) := by
  rcases node with ⟨value, span⟩ | ⟨elements, span⟩ | ⟨kind, span, entries⟩ | elements
  · cases value with
    | string text => exact Or.inl ⟨text, rfl, rfl⟩
    | integer value => exact Or.inr ⟨_, rfl, nofun⟩
    | float value => exact Or.inr ⟨_, rfl, nofun⟩
    | boolean value => exact Or.inr ⟨_, rfl, nofun⟩
    | moment => exact Or.inr ⟨_, rfl, nofun⟩
  · exact Or.inr ⟨_, rfl, nofun⟩
  · exact Or.inr ⟨_, rfl, nofun⟩
  · exact Or.inr ⟨_, rfl, nofun⟩

theorem formatNamed_spec (word : String) (span : Span) :
    (∃ format, formatNamed word span = .ok format ∧ word = format.name) ∨
      (formatNamed word span = .error ⟨.unknownFormat word, span⟩ ∧ ∀ format : Format, word ≠ format.name) := by
  rw [formatNamed]
  rcases hword : Format.ofName? word with - | format
  · refine Or.inr ⟨rfl, ?_⟩
    rintro format rfl
    cases hword.symm.trans (ofName?_name format)
  · rw [Format.ofName?] at hword
    have hname : (format.name == word) = true :=
      List.find?_some (p := fun format : Format => format.name == word) hword
    exact Or.inl ⟨format, rfl, (beq_iff_eq.mp hname).symm⟩

theorem contentComplaint?_spec (node : Node) :
    (contentComplaint? node = none ∧ node.value.IsEmpty) ∨
      ∃ complaint, contentComplaint? node = some complaint ∧ ¬node.value.IsEmpty ∧
        complaint.about = "report_format" := by
  rcases node with ⟨value, span⟩ | ⟨_ | _, span⟩ | ⟨kind, span, _ | _⟩ | (_ | _)
  · exact Or.inr ⟨_, rfl, nofun, rfl⟩
  · exact Or.inl ⟨rfl, .array⟩
  · exact Or.inr ⟨_, rfl, nofun, rfl⟩
  · exact Or.inl ⟨rfl, .table⟩
  · exact Or.inr ⟨_, rfl, nofun, rfl⟩
  · exact Or.inl ⟨rfl, .array⟩
  · exact Or.inr ⟨_, rfl, nofun, rfl⟩

/-- In a table of one entry the name is looked at first, and then what stands under it. -/
theorem formatOf_table_spec (key inner : Key) (content : Node) (kind : TableKind) (span? : Option Span) :
    let node := Node.table kind span? [(inner, content)]
    (∃ format, formatOf key node = .ok format ∧ Names node.value format) ∨
      ∃ wrong, formatOf key node = .error wrong ∧ (∀ format, ¬Names node.value format) ∧
        wrong.complaint.about = "report_format" ∧ Within key node wrong.span := by
  intro node
  have hvalue : node.value = .table [(inner.name, content.value)] := rfl
  simp only [hvalue, names_table_iff]
  rw [formatOf]
  rcases formatNamed_spec inner.name inner.span with ⟨format, hformat, hname⟩ | ⟨hwrong, hname⟩
  · rw [hformat]
    rcases contentComplaint?_spec content with ⟨hnone, hempty⟩ | ⟨complaint, hsome, hempty, habout⟩
    · refine Or.inl ⟨format, ?_, hname, hempty⟩
      simp only [hnone]
      rfl
    · refine Or.inr ⟨⟨complaint, content.span?.getD (span?.getD key.span)⟩, ?_, fun _ h => hempty h.2,
        habout, ?_⟩
      · simp only [hsome]
        rfl
      · rcases hspan : content.span? with - | span
        · exact .whole
        · exact .content hspan
  · rw [hwrong]
    exact Or.inr ⟨_, rfl, fun format h => hname format h.1, rfl, .name⟩

theorem formatOf_spec (key : Key) (node : Node) :
    (∃ format, formatOf key node = .ok format ∧ Names node.value format) ∨
      ∃ wrong, formatOf key node = .error wrong ∧ (∀ format, ¬Names node.value format) ∧
        wrong.complaint.about = "report_format" ∧ Within key node wrong.span := by
  rcases node with ⟨value, span⟩ | ⟨elements, span⟩ | ⟨kind, span?, entries⟩ | elements
  · cases value with
    | string word =>
      rcases formatNamed_spec word span with ⟨format, hformat, hname⟩ | ⟨hwrong, hname⟩
      · exact Or.inl ⟨format, hformat, names_string_iff.mpr hname⟩
      · exact Or.inr ⟨_, hwrong, fun format h => hname format (names_string_iff.mp h), rfl, .whole⟩
    | integer value => exact Or.inr ⟨_, rfl, not_names nofun nofun, rfl, .whole⟩
    | float value => exact Or.inr ⟨_, rfl, not_names nofun nofun, rfl, .whole⟩
    | boolean value => exact Or.inr ⟨_, rfl, not_names nofun nofun, rfl, .whole⟩
    | moment => exact Or.inr ⟨_, rfl, not_names nofun nofun, rfl, .whole⟩
  · exact Or.inr ⟨_, rfl, not_names nofun nofun, rfl, .whole⟩
  · rcases entries with - | ⟨⟨inner, content⟩, - | ⟨⟨second, further⟩, later⟩⟩
    · exact Or.inr ⟨_, rfl, not_names nofun nofun, rfl, .whole⟩
    · exact formatOf_table_spec key inner content kind span?
    · have htable (entry : String × Value) :
          (Node.table kind span? ((inner, content) :: (second, further) :: later)).value ≠ .table [entry] :=
        fun h => nomatch (List.cons.inj (Value.table.inj h)).2
      exact Or.inr ⟨_, rfl, not_names nofun htable, rfl, .whole⟩
  · exact Or.inr ⟨_, rfl, not_names nofun nofun, rfl, .whole⟩

/-- **One entry** is read and fits, or it does not fit and is complained of. -/
theorem set_spec (base : Settings) (key : Key) (node : Node) :
    (∃ settings, set base (key, node) = .ok settings ∧ Fits key.name node.value) ∨
      ∃ wrong, set base (key, node) = .error wrong ∧ ¬Fits key.name node.value ∧ Shows key node wrong := by
  rw [set]
  split
  · next hname =>
    rw [hname, fits_input_iff]
    rcases stringOf_spec node with ⟨path, hpath, hvalue⟩ | ⟨found, hfound, hvalue⟩
    · rw [hpath]
      exact Or.inl ⟨_, rfl, path, hvalue⟩
    · rw [hfound]
      exact Or.inr ⟨_, rfl, not_exists.mpr hvalue, hname.symm, .whole⟩
  · next hname =>
    rw [hname, fits_reportFormat_iff]
    rcases formatOf_spec key node with ⟨format, hformat, hnames⟩ | ⟨wrong, hwrong, hnames, habout, hplace⟩
    · rw [hformat]
      exact Or.inl ⟨_, rfl, format, hnames⟩
    · rw [hwrong]
      exact Or.inr ⟨_, rfl, not_exists.mpr hnames, habout.trans hname.symm, hplace⟩
  · next hname =>
    rw [hname, fits_logFilter_iff]
    rcases stringOf_spec node with ⟨filter, hfilter, hvalue⟩ | ⟨found, hfound, hvalue⟩
    · rw [hfilter]
      exact Or.inl ⟨_, rfl, filter, hvalue⟩
    · rw [hfound]
      exact Or.inr ⟨_, rfl, not_exists.mpr hvalue, hname.symm, .whole⟩
  · next hinput hformat hfilter =>
    exact Or.inl ⟨base, rfl, fun h => absurd h hinput, fun h => absurd h hformat, fun h => absurd h hfilter⟩

/-! ### Reading a document -/

/-- **The entries one after another** are read, and all of them fit, or the first that does not fit is
complained of. -/
theorem foldlM_set_spec (base : Settings) (entries : Entries) :
    (∃ settings, entries.foldlM set base = .ok settings ∧ Usable entries.document) ∨
      ∃ key node wrong, (key, node) ∈ entries ∧ entries.foldlM set base = .error wrong ∧
        FirstUnfit entries.document (key.name, node.value) ∧ Shows key node wrong := by
  induction entries generalizing base with
  | nil => exact Or.inl ⟨base, rfl, nofun⟩
  | cons entry later ih =>
    obtain ⟨key, node⟩ := entry
    rw [List.foldlM_cons]
    rcases set_spec base key node with ⟨base', hset, hfits⟩ | ⟨wrong, hset, hunfit, hshows⟩
    · rw [hset]
      rcases ih base' with ⟨settings, hlater, husable⟩ | ⟨key', node', wrong, hmem, hlater, hfirst, hshows⟩
      · exact Or.inl ⟨settings, hlater, List.forall_mem_cons.mpr ⟨hfits, husable⟩⟩
      · exact Or.inr ⟨key', node', wrong, List.mem_cons_of_mem _ hmem, hlater, .later hfits hfirst, hshows⟩
    · rw [hset]
      exact Or.inr ⟨key, node, wrong, List.mem_cons_self, rfl, .here hunfit, hshows⟩

/-- What is read under a name is what the document says there. -/
theorem Under.of_read {α β ε : Type} {entries : Entries} {read : Key × Node → Except ε α} {said : Option α}
    {Means : Value → β → Prop} {default : β} {give : α → β}
    (hmeans : ∀ key node a, read (key, node) = .ok a → Means node.value (give a))
    (h : (entries.under? name).map read = said.map .ok) :
    Under entries.document name Means default (said.elim default give) := by
  rcases hunder : entries.under? name with - | ⟨key, node⟩
  · obtain rfl := Option.map_eq_none_iff.mp (h.symm.trans (by rw [hunder]; rfl))
    refine Or.inr ⟨fun value hmem => Entries.under?_eq_none_iff.mp hunder ?_, rfl⟩
    rw [← Entries.names_document]
    exact List.mem_map_of_mem hmem
  · rw [hunder] at h
    obtain ⟨a, rfl, hread⟩ := Option.map_eq_some_iff.mp h.symm
    have hname : key.name = name := by simpa using List.find?_some hunder
    refine Or.inl ⟨node.value, ?_, hmeans key node a hread.symm⟩
    rw [Entries.document_eq_map, ← hname]
    exact List.mem_map_of_mem (List.mem_of_find?_eq_some hunder)

theorem value_of_stringOf {node : Node} {text : String} (h : stringOf node = .ok text) :
    node.value = .scalar (.string text) := by
  rcases stringOf_spec node with ⟨text', htext, hvalue⟩ | ⟨found, hfound, -⟩
  · obtain rfl := Except.ok.inj (htext.symm.trans h)
    exact hvalue
  · cases hfound.symm.trans h

theorem names_of_formatOf {node : Node} (h : formatOf key node = .ok format) : Names node.value format := by
  rcases formatOf_spec key node with ⟨format', hformat, hnames⟩ | ⟨wrong, hwrong, -⟩
  · obtain rfl := Except.ok.inj (hformat.symm.trans h)
    exact hnames
  · cases hwrong.symm.trans h

/-- **The settings of a document are what it says.** -/
theorem says_of_decode {entries : Entries} {settings : Settings} (hnames : entries.names.Nodup)
    (h : decode entries = .ok settings) : Says entries.document settings := by
  obtain ⟨layer, hgives, rfl⟩ := exists_gives hnames h
  have hinput : Under entries.document "input"
      (fun value input => ∃ path, value = .scalar (.string path) ∧ input = some path)
      none (layer.input.elim none some) :=
    Under.of_read (fun _ _ path hpath => ⟨path, value_of_stringOf hpath, rfl⟩) hgives.input
  have hformat : Under entries.document "report_format" Names .text (layer.reportFormat.elim .text id) :=
    Under.of_read (fun _ _ _ hformat => names_of_formatOf hformat) hgives.reportFormat
  have hfilter : Under entries.document "log_filter" (fun value filter => value = .scalar (.string filter))
      "warn" (layer.logFilter.elim "warn" id) :=
    Under.of_read (fun _ _ _ hfilter => value_of_stringOf hfilter) hgives.logFilter
  obtain ⟨input, reportFormat, logFilter⟩ := layer
  refine ⟨?_, ?_, ?_⟩
  · cases input <;> exact hinput
  · cases reportFormat <;> exact hformat
  · cases logFilter <;> exact hfilter

/-! ### Reading a text -/

/-- The text is refused because of this entry: a complaint about the entry is the reason, and it points into
the text at a place in the entry. -/
def Blames (text : String) (entries : Entries) (unfit : String × Value) : Prop :=
  ∃ key node wrong, (key, node) ∈ entries ∧ (key.name, node.value) = unfit ∧ Shows key node wrong ∧
    ofText text = .error (.wrongValue text wrong) ∧
    (TextError.wrongValue text wrong).failure
      = .settings (Diagnostic.render ⟨text, wrong.span, wrong.complaint.text⟩)

variable {text text' : String} {entries entries' : Entries} {settings : Settings}

/-- **A text that is a document** gives the settings that the document says, or the first entry that does
not fit is complained of. -/
theorem ofText_spec (h : Entries.ofText text = .ok entries) :
    (∃ settings, ofText text = .ok settings ∧ Usable entries.document ∧ Says entries.document settings) ∨
      ∃ unfit, Blames text entries unfit ∧ FirstUnfit entries.document unfit := by
  rcases foldlM_set_spec {} entries with ⟨settings, hdecode, husable⟩ |
    ⟨key, node, wrong, hmem, hdecode, hfirst, hshows⟩
  · have hsaid := says_of_decode (Entries.nodup_ofText h) hdecode
    refine Or.inl ⟨settings, ?_, husable, hsaid⟩
    rw [ofText, h]
    simp only [decode, hdecode]
  · refine Or.inr ⟨_, ⟨key, node, wrong, hmem, rfl, hshows, ?_, rfl⟩, hfirst⟩
    rw [ofText, h]
    simp only [decode, hdecode]

theorem Blames.not_ok {unfit : String × Value} (h : Blames text entries unfit) :
    ofText text ≠ .ok settings := by
  obtain ⟨key, node, wrong, -, -, -, herror, -⟩ := h
  rw [herror]
  nofun

/-- Only one entry is complained of: the complaint gives away its name. -/
theorem Blames.unique (hnames : entries.names.Nodup) {unfit unfit' : String × Value}
    (h : Blames text entries unfit) (h' : Blames text entries unfit') : unfit = unfit' := by
  obtain ⟨key, node, wrong, hmem, rfl, hshows, herror, -⟩ := h
  obtain ⟨key', node', wrong', hmem', rfl, hshows', herror', -⟩ := h'
  obtain rfl := (TextError.wrongValue.inj (Except.error.inj (herror.symm.trans herror'))).2
  have hname : key.name = key'.name := hshows.about.symm.trans hshows'.about
  obtain ⟨rfl, rfl⟩ := Prod.mk.inj (List.inj_on_of_nodup_map hnames hmem hmem' hname)
  rfl

theorem usable_iff (h : Entries.ofText text = .ok entries) :
    (∃ settings, ofText text = .ok settings) ↔ Usable entries.document := by
  rcases ofText_spec h with ⟨settings, hok, husable, -⟩ | ⟨unfit, hblames, hfirst⟩
  · exact iff_of_true ⟨settings, hok⟩ husable
  · exact iff_of_false (not_exists.mpr fun _ => hblames.not_ok) hfirst.not_usable

theorem error_iff (h : Entries.ofText text = .ok entries) :
    (∃ error, ofText text = .error error) ↔ ∃ unfit, Blames text entries unfit := by
  rcases ofText_spec h with ⟨settings, hok, -⟩ | ⟨unfit, hblames, -⟩
  · refine iff_of_false ?_ (not_exists.mpr fun _ hblames => hblames.not_ok hok)
    rintro ⟨error, herror⟩
    cases herror.symm.trans hok
  · refine iff_of_true ?_ ⟨unfit, hblames⟩
    obtain ⟨_, _, wrong, -, -, -, herror, -⟩ := hblames
    exact ⟨_, herror⟩

theorem says_of_ofText (h : Entries.ofText text = .ok entries) (hok : ofText text = .ok settings) :
    Says entries.document settings := by
  rcases ofText_spec h with ⟨settings', hok', -, hsaid⟩ | ⟨unfit, hblames, -⟩
  · obtain rfl := Except.ok.inj (hok'.symm.trans hok)
    exact hsaid
  · exact absurd hok hblames.not_ok

theorem blames_iff (h : Entries.ofText text = .ok entries) (unfit : String × Value) :
    Blames text entries unfit ↔ FirstUnfit (known entries.document) unfit := by
  rcases ofText_spec h with ⟨settings, hok, husable, -⟩ | ⟨first, hblames, hfirst⟩
  · have husable' : Usable (known entries.document) := fun entry hentry =>
      husable entry (List.mem_of_mem_filter hentry)
    exact iff_of_false (fun hblames => hblames.not_ok hok) fun hfirst => hfirst.not_usable husable'
  · constructor
    · intro hunfit
      obtain rfl := hunfit.unique (Entries.nodup_ofText h) hblames
      exact hfirst.known
    · intro hunfit
      obtain rfl := hunfit.unique hfirst.known
      exact hblames

/-- The same known entries, in whatever order, give the same settings. -/
theorem ofText_of_perm (h : Entries.ofText text = .ok entries) (h' : Entries.ofText text' = .ok entries')
    (hperm : (known entries'.document).Perm (known entries.document)) (hok : ofText text = .ok settings) :
    ofText text' = .ok settings := by
  obtain ⟨settings', hok'⟩ := (usable_iff h').mpr (.of_perm hperm ((usable_iff h).mp ⟨settings, hok⟩))
  have hsaid := (says_of_ofText h' hok').of_perm hperm
  rw [hok', hsaid.unique (Entries.nodup_ofText h) (says_of_ofText h hok)]

/-- **What becomes of a document**, by what it says.

It gives settings just when all its entries fit, and these are what it says, with the defaults
where it says nothing.  Otherwise the failure is one of the settings, and the entry that is complained
of is the first among the known ones that does not fit.  Another document gives the same settings if its
known entries are the same in whatever order, with whatever entries of other names among them; the
same entry is complained of if they are the same in the same order. -/
theorem ofText_by_document (h : Entries.ofText text = .ok entries) :
    ((∃ settings, ofText text = .ok settings) ↔ Usable entries.document) ∧
    (∀ settings, ofText text = .ok settings → Says entries.document settings) ∧
    ((∃ error, ofText text = .error error) ↔ ∃ unfit, Blames text entries unfit) ∧
    (∀ unfit, Blames text entries unfit ↔ FirstUnfit (known entries.document) unfit) ∧
    ∀ text' entries', Entries.ofText text' = .ok entries' →
      ((known entries'.document).Perm (known entries.document) →
        ∀ settings, ofText text' = .ok settings ↔ ofText text = .ok settings) ∧
      (known entries'.document = known entries.document →
        ∀ unfit, Blames text' entries' unfit ↔ Blames text entries unfit) := by
  refine ⟨usable_iff h, fun settings => says_of_ofText h, error_iff h, blames_iff h, ?_⟩
  · intro text' entries' h'
    refine ⟨fun hperm settings => ?_, fun hknown unfit => ?_⟩
    · exact ⟨ofText_of_perm h' h hperm.symm, ofText_of_perm h h' hperm⟩
    · rw [blames_iff h', hknown, blames_iff h]

/-- Two settings with another entry between them, and a wrong value after another entry and before a second
wrong one. -/
theorem ofText_by_document_among_other_entries :
    (∃ entries,
      Entries.ofText "input = \"a\"\nx = \x7by = 1\x7d\nreport_format = \x7bjson = []\x7d\n" = .ok entries ∧
      Says entries.document ⟨some "a", .json, "warn"⟩) ∧
    ∃ entries, Entries.ofText "x = 1\ninput = 7\nlog_filter = false\n" = .ok entries ∧
      Blames "x = 1\ninput = 7\nlog_filter = false\n" entries ("input", .scalar (.integer 7)) := by
  constructor
  · let text := "input = \"a\"\nx = \x7by = 1\x7d\nreport_format = \x7bjson = []\x7d\n"
    obtain ⟨entries, hentries, -⟩ : ∃ entries, Entries.ofText text = .ok entries ∧ entries.document =
        [("input", .scalar (.string "a")), ("x", .table [("y", .scalar (.integer 1))]),
          ("report_format", .table [("json", .array [])])] :=
      Entries.exists_of_document (by decide +kernel)
    have hsettings : (ofText text).toOption = some ⟨some "a", .json, "warn"⟩ := by decide +kernel
    refine ⟨entries, hentries, (ofText_by_document hentries).2.1 _ ?_⟩
    exact eq_ok_of_toOption hsettings
  · obtain ⟨entries, hentries, hdocument⟩ : ∃ entries,
        Entries.ofText "x = 1\ninput = 7\nlog_filter = false\n" = .ok entries ∧ entries.document =
          [("x", .scalar (.integer 1)), ("input", .scalar (.integer 7)), ("log_filter", .scalar (.boolean false))] :=
      Entries.exists_of_document (by decide +kernel)
    refine ⟨entries, hentries, ((ofText_by_document hentries).2.2.2.1 _).mpr ?_⟩
    rw [hdocument]
    refine .here fun hfits => ?_
    obtain ⟨path, hpath⟩ := hfits.input rfl
    cases hpath

end Settings

end CheckpointMonitor

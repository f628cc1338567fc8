/-
CheckpointMonitor/Proofs/Tally/Readback.lean

A report read again.

Each counter stands behind a label of its own, up to the end of the line in the block of text, and as
far as there are digits in the line of JSON.  A reader that knows only the labels finds the two
counters in every report (`read?_render`).  It cannot be led astray, since each label has a letter
which is in the report just once (`count_mark_render`), so that the label stands there once.

What can be read again is not lost, so reports of different counters differ (`render_lossless`).
-/
import CheckpointMonitor.Proofs.Tally.Report

namespace CheckpointMonitor.Summary

variable {tally : Tally} {format : Format} {counter : Counter}

/-! ### Labels -/

/-- The counters of a report. -/
inductive Counter where
  | recoveriesTriggered
  | persistsQueued

/-- The value of a counter. -/
def Counter.of (tally : Tally) : Counter → Nat
  | recoveriesTriggered => tally.recoveriesTriggered
  | persistsQueued => tally.persistsQueued

/-- What stands before the value of a counter. -/
def label : Format → Counter → String
  | .text, .recoveriesTriggered => "Total Recoveries Executed: "
  | .text, .persistsQueued => "Recoveries Queued: "
  | .json, .recoveriesTriggered => "\"recoveries_triggered\":"
  | .json, .persistsQueued => "\"persists_queued\":"

/-- A letter of the label that is in the report just once. -/
def mark : Format → Counter → Char
  | .text, .recoveriesTriggered => 'x'
  | .text, .persistsQueued => 'Q'
  | .json, .recoveriesTriggered => 'v'
  | .json, .persistsQueued => 'q'

/-- Whether a value goes on with the letter. -/
def goesOn : Format → Char → Bool
  | .text, c => c != '\n'
  | .json, c => c.isDigit

/-- The value that stands in a report behind the label of a counter. -/
def value? (format : Format) (report : String) (counter : Counter) : Option Nat := do
  let rest ← Text.after? (label format counter).toList report.toList
  Text.number? (rest.takeWhile (goesOn format))

/-- The counters that a report is of. -/
def read? (format : Format) (report : String) : Option Tally := do
  let recoveriesTriggered ← value? format report .recoveriesTriggered
  let persistsQueued ← value? format report .persistsQueued
  return { recoveriesTriggered, persistsQueued }

/-- A letter that is no digit is in a report as often as in its fixed pieces. -/
theorem count_render {c : Char} (hc : c.isDigit = false) (tally : Tally) (format : Format) :
    (render tally format).toList.count c = ((frame format).flatMap (·.toList)).count c := by
  have hnumber : ∀ n : Nat, n.repr.toList.count c = 0 := by
    intro n
    refine List.count_eq_zero.mpr fun hmem => ?_
    exact Bool.false_ne_true (hc.symm.trans (Text.isDigit_of_mem_repr hmem))
  cases format with
  | text =>
    unfold render renderText
    simp only [String.toList_append, List.count_append, hnumber, frame, List.flatMap_cons, List.flatMap_nil,
      List.count_nil, Nat.add_assoc, Nat.add_zero, -String.reduceAppend]
  | json =>
    unfold render renderJson
    simp only [String.toList_append, List.count_append, hnumber, frame, List.flatMap_cons, List.flatMap_nil,
      List.count_nil, Nat.add_assoc, Nat.add_zero, -String.reduceAppend]

theorem count_mark_render (tally : Tally) (format : Format) (counter : Counter) :
    (render tally format).toList.count (mark format counter) = 1 := by
  rw [count_render (by cases format <;> cases counter <;> rfl)]
  cases format <;> cases counter <;> decide +kernel

theorem mark_mem_label (format : Format) (counter : Counter) :
    mark format counter ∈ (label format counter).toList := by
  cases format <;> cases counter <;> decide

/-- Behind its label stands the value of a counter, and then a letter with which it does not go on. -/
theorem exists_behind_label (tally : Tally) (format : Format) (counter : Counter) :
    ∃ before stop rest,
      (render tally format).toList
        = before ++ ((label format counter).toList ++ ((counter.of tally).repr.toList ++ stop :: rest)) ∧
      goesOn format stop = false := by
  cases format with
  | text =>
    unfold render renderText
    simp only [String.toList_append, List.append_assoc, -String.reduceAppend]
    cases counter with
    | recoveriesTriggered => exact ⟨_, '\n', _, rfl, rfl⟩
    | persistsQueued =>
      refine ⟨"\n########## STATISTICS ##########\n".toList ++ ((label .text .recoveriesTriggered).toList ++
        (tally.recoveriesTriggered.repr.toList ++ "\n".toList)),
        '\n', "################################\n".toList, ?_, rfl⟩
      simp only [List.append_assoc]
      rfl
  | json =>
    -- the label of the first counter follows on a brace, that of the second on a comma
    have hbrace : "\x7b\"recoveries_triggered\":".toList = ['\x7b'] ++ (label .json .recoveriesTriggered).toList :=
      rfl
    have hcomma : ",\"persists_queued\":".toList = [','] ++ (label .json .persistsQueued).toList := rfl
    unfold render renderJson
    simp only [String.toList_append, hbrace, hcomma, List.append_assoc, -String.reduceAppend]
    cases counter with
    | recoveriesTriggered => exact ⟨_, ',', _, rfl, rfl⟩
    | persistsQueued =>
      refine ⟨['\x7b'] ++ ((label .json .recoveriesTriggered).toList ++
        (tally.recoveriesTriggered.repr.toList ++ [','])), '\x7d', ['\n'], ?_, rfl⟩
      simp only [List.append_assoc]
      rfl

/-- **Each label stands in a report once.** -/
theorem occurrences_label (tally : Tally) (format : Format) (counter : Counter) :
    Text.occurrences (label format counter).toList (render tally format).toList = 1 := by
  obtain ⟨before, stop, rest, hrender, -⟩ := exists_behind_label tally format counter
  refine Text.occurrences_eq_one (mark_mem_label format counter) (count_mark_render tally format counter) ?_
  exact ⟨before, _, (List.append_assoc _ _ _).trans hrender.symm⟩

/-- **The value of a counter is read again.** -/
theorem value?_render (tally : Tally) (format : Format) (counter : Counter) :
    value? format (render tally format) counter = some (counter.of tally) := by
  obtain ⟨before, stop, rest, hrender, hstop⟩ := exists_behind_label tally format counter
  have hdigit : ∀ c : Char, c.isDigit = true → goesOn format c = true := by
    intro c hc
    cases format with
    | text => exact bne_iff_ne.mpr fun h => by cases h ▸ hc
    | json => exact hc
  rw [value?, Text.after?_of_once hrender (occurrences_label tally format counter), Option.bind_eq_bind,
    Option.bind_some, List.takeWhile_append_of_pos fun c hc => hdigit c (Text.isDigit_of_mem_repr hc),
    List.takeWhile_cons_of_neg (by rw [hstop]; exact Bool.false_ne_true), List.append_nil, Text.number?_repr]

/-- **A report is read again.** -/
theorem read?_render (tally : Tally) (format : Format) : read? format (render tally format) = some tally := by
  rw [read?, value?_render, value?_render]
  rfl

/-! ### Lines -/

/-- The lines of a report. -/
def reportLines (tally : Tally) : Format → List String
  | .text =>
    ["", "########## STATISTICS ##########", "Total Recoveries Executed: " ++ tally.recoveriesTriggered.repr,
      "Recoveries Queued: " ++ tally.persistsQueued.repr, "################################"]
  | .json =>
    ["\x7b\"recoveries_triggered\":" ++ tally.recoveriesTriggered.repr ++ ",\"persists_queued\":"
      ++ tally.persistsQueued.repr ++ "\x7d"]

/-- A report is its lines written out. -/
theorem encode_render (tally : Tally) (format : Format) :
    Utf8.encode (render tally format) = Text.unlines ((reportLines tally format).map Utf8.encode) := by
  have hfeed : Utf8.encode "\n" = [lineFeed] := by decide
  have hempty : Utf8.encode "" = [] := rfl
  cases format with
  | text =>
    have htitle : "\n########## STATISTICS ##########\n" = "\n" ++ "########## STATISTICS ##########" ++ "\n" :=
      rfl
    have hrule : "################################\n" = "################################" ++ "\n" := rfl
    unfold render renderText reportLines
    rw [htitle, hrule]
    simp only [Utf8.encode_append, hfeed, hempty, List.map_cons, List.map_nil, Text.unlines_cons,
      Text.unlines_nil, List.append_assoc, List.nil_append, List.cons_append, -String.reduceAppend]
  | json =>
    have hend : "\x7d\n" = "\x7d" ++ "\n" := rfl
    unfold render renderJson reportLines
    rw [hend]
    simp only [Utf8.encode_append, hfeed, List.map_cons, List.map_nil, Text.unlines_cons,
      Text.unlines_nil, List.append_assoc, -String.reduceAppend]

/-- The lines of a report are plain ASCII, and none has the letter in it that ends a line. -/
theorem letters_reportLines (tally : Tally) (format : Format) :
    ∀ line ∈ reportLines tally format, ∀ c ∈ line.toList, c.toNat < 0x80 ∧ c ≠ '\n' := by
  have hnumber : ∀ n : Nat, ∀ c ∈ n.repr.toList, c.toNat < 0x80 ∧ c ≠ '\n' := by
    intro n c hc
    have hdigit := Text.isDigit_of_mem_repr hc
    exact ⟨Text.ascii_of_isDigit hdigit, fun h => by cases h ▸ hdigit⟩
  have hfixed {text : String} (h : text.toList.all (fun c => c.toNat < 0x80 && c != '\n') = true) :
      ∀ c ∈ text.toList, c.toNat < 0x80 ∧ c ≠ '\n' := by
    simpa only [List.all_eq_true, Bool.and_eq_true, decide_eq_true_eq, bne_iff_ne] using h
  cases format with
  | text =>
    simp only [reportLines, List.forall_mem_cons, String.toList_append, List.forall_mem_append,
      -String.reduceAppend]
    refine ⟨hfixed ?_, hfixed ?_, ⟨hfixed ?_, hnumber _⟩, ⟨hfixed ?_, hnumber _⟩, hfixed ?_, nofun⟩ <;>
      decide +kernel
  | json =>
    simp only [reportLines, List.forall_mem_cons, String.toList_append, List.forall_mem_append,
      -String.reduceAppend]
    refine ⟨⟨⟨⟨⟨hfixed ?_, hnumber _⟩, hfixed ?_⟩, hnumber _⟩, hfixed ?_⟩, nofun⟩ <;> decide +kernel

theorem lineFeed_notMem_reportLines {line : String} (hline : line ∈ reportLines tally format) :
    lineFeed ∉ Utf8.encode line := by
  have hletters := letters_reportLines tally format line hline
  intro hmem
  have hfeed := List.mem_map_of_mem (f := Utf8.asciiChar) hmem
  rw [(Utf8.encode_of_ascii fun c hc => (hletters c hc).1).2] at hfeed
  exact (hletters _ hfeed).2 rfl

/-- **The lines of a report.** -/
theorem lines_render (tally : Tally) (format : Format) :
    Text.lines (Utf8.encode (render tally format)) = (reportLines tally format).map Utf8.encode := by
  have hlines : ∀ line ∈ (reportLines tally format).map Utf8.encode, lineFeed ∉ line := by
    intro line hline
    obtain ⟨text, htext, rfl⟩ := List.mem_map.mp hline
    exact lineFeed_notMem_reportLines htext
  have hread := Text.lines_unlines_append hlines []
  rwa [List.append_nil, Text.lines_nil, List.append_nil, ← encode_render] at hread

/-! ### Nothing is lost -/

/-- A label of the block of text has a letter in it that the line of JSON lacks. -/
theorem render_text_ne_render_json (tally tally' : Tally) : render tally .text ≠ render tally' .json := by
  intro h
  have hmark := count_mark_render tally .text .recoveriesTriggered
  rw [h, count_render rfl] at hmark
  exact absurd hmark (by decide +kernel)

/-- **A report loses nothing and shows where its values end.**

Whatever was counted and in either form, the counters are read again from behind their labels, each of which
stands in the report once.  The block of text is five lines, the first of which is empty, and the
JSON is one, and no line is left open.

So reports of the same form are equal only if they are of the same counters, reports of different forms
never are, and both forms tell the same. -/
theorem render_lossless :
    (∀ tally format, read? format (render tally format) = some tally ∧
      ∀ counter, Text.occurrences (label format counter).toList (render tally format).toList = 1) ∧
    (∀ tally, (Text.lines (Utf8.encode (render tally .text))).length = 5 ∧
      (Text.lines (Utf8.encode (render tally .text))).head? = some [] ∧
      (Text.lines (Utf8.encode (render tally .json))).length = 1 ∧
      ∀ format, Text.Closed (Utf8.encode (render tally format))) ∧
    (∀ format tally tally', render tally format = render tally' format ↔ tally = tally') ∧
    (∀ tally tally', render tally .text ≠ render tally' .json) ∧
    ∀ tally, read? .text (render tally .text) = read? .json (render tally .json) := by
  refine ⟨fun tally format => ⟨read?_render tally format, occurrences_label tally format⟩, ?_, ?_,
    render_text_ne_render_json, ?_⟩
  · intro tally
    rw [lines_render, lines_render]
    exact ⟨rfl, rfl, rfl, closed_render tally⟩
  · intro format tally tally'
    refine ⟨fun h => ?_, fun h => h ▸ rfl⟩
    have hread := congrArg (read? format) h
    rw [read?_render, read?_render] at hread
    exact Option.some.inj hread
  · intro tally
    rw [read?_render, read?_render]

end CheckpointMonitor.Summary

/-
CheckpointMonitor/Proofs/Tally/Report.lean

The report as lines of a stream.  A report may be watched like anything else, when the
output of one run is the input of the next; so it matters that it carries no
marker, whatever the numbers in it are.

A report consists of digits and of fixed pieces (`forall_mem_render`).  In these each
phrase misses a letter (`foreign`): the block of text has no `p` and no `f`, of which every
phrase has one, and the line of JSON has no blank.  So the phrase does not stand in the
bytes either, nor in one of their lines.
-/
import CheckpointMonitor.Proofs.Protocol.Detection
import CheckpointMonitor.Proofs.Text.Lines
import CheckpointMonitor.Proofs.Text.Numeral
import CheckpointMonitor.Tally.Summary

namespace CheckpointMonitor

/-! ### Letters -/

theorem Utf8.encode_append (text later : String) : encode (text ++ later) = encode text ++ encode later := by
  rw [encode, String.toList_append, List.flatMap_append]
  rfl

/-- A phrase does not stand in a text that lacks one of its letters. -/
theorem Marker.not_infix_encode {k : Marker} {text : String} {c : Char}
    (hascii : ∀ c ∈ text.toList, c.toNat < 0x80) (hphrase : c ∈ k.phrase.toList) (hc : c ∉ text.toList) :
    ¬ Utf8.encode k.phrase <:+: Utf8.encode text := by
  intro hinfix
  -- both are ASCII, so the letters of the phrase would be among those of the text
  have hletters := hinfix.map Utf8.asciiChar
  rw [(Utf8.encode_of_ascii k.phrase_ascii).2, (Utf8.encode_of_ascii hascii).2] at hletters
  exact hc (hletters.subset hphrase)

namespace Summary

variable {tally : Tally} {format : Format}

/-- The fixed pieces of a report, between which the numbers stand. -/
def frame : Format → List String
  | .text =>
    ["\n########## STATISTICS ##########\n", "Total Recoveries Executed: ", "\n",
      "Recoveries Queued: ", "\n", "################################\n"]
  | .json => ["\x7b\"recoveries_triggered\":", ",\"persists_queued\":", "\x7d\n"]

/-- What holds of the digits and of the letters of the fixed pieces holds of all letters of a report. -/
theorem forall_mem_render {P : Char → Prop} (hdigit : ∀ c : Char, c.isDigit = true → P c)
    (hframe : ∀ piece ∈ frame format, ∀ c ∈ piece.toList, P c) (tally : Tally) :
    ∀ c ∈ (render tally format).toList, P c := by
  have hnumber : ∀ n : Nat, ∀ c ∈ n.repr.toList, P c :=
    fun _ c hc => hdigit c (Text.isDigit_of_mem_repr hc)
  cases format with
  | text =>
    simp only [frame, List.forall_mem_cons] at hframe
    obtain ⟨htitle, htotal, hend, hqueued, hend', hrule, -⟩ := hframe
    unfold render renderText
    simp only [String.toList_append, List.forall_mem_append, -String.reduceAppend]
    exact ⟨⟨⟨⟨⟨⟨⟨htitle, htotal⟩, hnumber _⟩, hend⟩, hqueued⟩, hnumber _⟩, hend'⟩, hrule⟩
  | json =>
    simp only [frame, List.forall_mem_cons] at hframe
    obtain ⟨hrecoveries, hqueued, hend, -⟩ := hframe
    unfold render renderJson
    simp only [String.toList_append, List.forall_mem_append, -String.reduceAppend]
    exact ⟨⟨⟨⟨hrecoveries, hnumber _⟩, hqueued⟩, hnumber _⟩, hend⟩

theorem render_ascii (tally : Tally) (format : Format) :
    ∀ c ∈ (render tally format).toList, c.toNat < 0x80 := by
  refine forall_mem_render (fun _ => Text.ascii_of_isDigit) ?_ tally
  have hframe : (frame format).all (·.toList.all (·.toNat < 0x80)) = true := by
    cases format <;> decide +kernel
  simpa only [List.all_eq_true, decide_eq_true_eq] using hframe

/-- A letter of the phrase that the report lacks. -/
def foreign : Format → Marker → Char
  | .text, .persistTriggered => 'p'
  | .text, .persistQueued => 'p'
  | .text, .bufferCleared => 'f'
  | .text, .restoreFinished => 'f'
  | .json, _ => ' '

theorem foreign_mem_phrase (format : Format) (k : Marker) : foreign format k ∈ k.phrase.toList := by
  cases format <;> cases k <;> decide

theorem foreign_notMem_render (tally : Tally) (format : Format) (k : Marker) :
    foreign format k ∉ (render tally format).toList := by
  have hne : ∀ c ∈ (render tally format).toList, c ≠ foreign format k := by
    refine forall_mem_render ?_ ?_ tally
    · rintro c hc rfl
      cases format <;> cases k <;> cases hc
    · have hframe : (frame format).all (·.toList.all (· != foreign format k)) = true := by
        cases format <;> cases k <;> decide +kernel
      simpa only [List.all_eq_true, bne_iff_ne] using hframe
  exact fun h => hne _ h rfl

/-! ### Lines -/

/-- A report leaves no line open. -/
theorem closed_render (tally : Tally) (format : Format) :
    Text.Closed (Utf8.encode (render tally format)) := by
  apply Or.inr
  cases format with
  | text =>
    have hrule : (Utf8.encode "################################\n").getLast? = some lineFeed := by
      decide +kernel
    unfold render renderText
    rw [Utf8.encode_append, List.getLast?_append, hrule, Option.some_or]
  | json =>
    have hend : (Utf8.encode "\x7d\n").getLast? = some lineFeed := by
      decide +kernel
    unfold render renderJson
    rw [Utf8.encode_append, List.getLast?_append, hend, Option.some_or]

/-- **A report carries no marker,** on none of its lines and whatever was counted. -/
theorem carriedBy_line_render {line : List UInt8} (tally : Tally) (format : Format)
    (hline : line ∈ Text.lines (Utf8.encode (render tally format))) :
    Marker.carriedBy (Utf8.decodeLossy line) = [] := by
  apply List.filter_eq_nil_iff.mpr
  intro k _ hk
  have hstands := Marker.occursIn_decodeLossy_iff.mp hk
  have hinfix := (Text.infix_iff_lines k.encode_phrase_ne_nil k.lineFeed_notMem_phrase).mpr
    ⟨line, hline, hstands⟩
  exact Marker.not_infix_encode (render_ascii tally format) (foreign_mem_phrase format k)
    (foreign_notMem_render tally format k) hinfix

/-- The block of text is five lines, the first of which is empty. -/
example : (Text.lines (Utf8.encode (render ⟨10, 0⟩ .text))).length = 5 := by decide +kernel

end Summary

end CheckpointMonitor

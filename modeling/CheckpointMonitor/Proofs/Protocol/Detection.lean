/-
CheckpointMonitor/Proofs/Protocol/Detection.lean

Which markers are found in raw bytes.  A line is looked at as text, and what is not
well-formed in it is replaced before; but the phrases are plain ASCII, and the
forgiving reading keeps ASCII where it stands, so that the markers of the text are
those whose phrases stand in the bytes themselves.  The replacement neither breaks
a phrase beside malformed bytes nor joins one from pieces that were apart.

No phrase has a line feed in it either, so none is lost and none is made when a
stream is cut into lines.
-/
import CheckpointMonitor.Proofs.Channel.Reading
import CheckpointMonitor.Proofs.Text.Lossy
import CheckpointMonitor.Protocol.Marker

namespace CheckpointMonitor

/-! ### Texts in ASCII -/

namespace Utf8

theorem utf8EncodeChar_of_ascii {c : Char} (hc : c.toNat < 0x80) :
    String.utf8EncodeChar c = [c.val.toUInt8] := by
  refine String.utf8EncodeChar_eq_singleton (Char.utf8Size_eq_one_iff.mpr ?_)
  rw [UInt32.le_iff_toNat_le]
  exact Nat.le_of_lt_succ hc

theorem toNat_toUInt8_of_ascii {c : Char} (hc : c.toNat < 0x80) :
    c.val.toUInt8.toNat = c.toNat := by
  rw [UInt32.toNat_toUInt8]
  exact Nat.mod_eq_of_lt (hc.trans (by decide))

/-- A text in ASCII is encoded with a byte for each character. -/
theorem encode_of_ascii {text : String} (h : ∀ c ∈ text.toList, c.toNat < 0x80) :
    (∀ b ∈ encode text, b < 0x80) ∧ (encode text).map asciiChar = text.toList := by
  rw [encode]
  revert h
  generalize text.toList = cs
  intro h
  induction cs with
  | nil => exact ⟨nofun, rfl⟩
  | cons c cs ih =>
    obtain ⟨hc, hcs⟩ := List.forall_mem_cons.mp h
    obtain ⟨hbytes, hmap⟩ := ih hcs
    have hcode := toNat_toUInt8_of_ascii hc
    rw [List.flatMap_cons, utf8EncodeChar_of_ascii hc, List.singleton_append]
    refine ⟨List.forall_mem_cons.mpr ⟨?_, hbytes⟩, ?_⟩
    · rw [UInt8.lt_iff_toNat_lt, hcode]
      exact hc
    · rw [List.map_cons, hmap, asciiChar, hcode, Char.ofNat_toNat]

end Utf8

/-! ### Phrases -/

namespace Marker

variable {k : Marker} {bytes : List UInt8}

/-- Every phrase is plain ASCII. -/
theorem phrase_ascii (k : Marker) : ∀ c ∈ k.phrase.toList, c.toNat < 0x80 := by
  have h : k.phrase.toList.all (fun c => c.toNat < 0x80) = true := by
    cases k <;> rfl
  intro c hc
  exact of_decide_eq_true (List.all_eq_true.mp h c hc)

theorem encode_phrase_ne_nil (k : Marker) : Utf8.encode k.phrase ≠ [] := by
  cases k <;> decide

/-- No phrase has a line feed in it. -/
theorem lineFeed_notMem_phrase (k : Marker) : lineFeed ∉ Utf8.encode k.phrase := by
  cases k <;> decide

/-- **A marker is found in the text of a line exactly if its phrase stands in the bytes.** -/
theorem occursIn_decodeLossy_iff :
    k.occursIn (Utf8.decodeLossy bytes) = true ↔ Utf8.encode k.phrase <:+: bytes := by
  -- the phrase, byte by byte, is the ASCII pattern to be looked for
  obtain ⟨hascii, hmap⟩ := Utf8.encode_of_ascii k.phrase_ascii
  rw [occursIn, Text.occurs_iff, ← hmap]
  exact (Utf8.stands_decodeLossy bytes).infix_iff k.encode_phrase_ne_nil hascii

/-- **Markers are found in raw bytes.**  The markers of a line are those of `all`, in that order and
each once, whose phrases stand in the bytes of the line, well-formed or not.  And a phrase
stands in the bytes of a stream exactly if it stands in one of the lines that are read from
it. -/
theorem carriedBy_decodeLossy :
    (∀ bytes,
      carriedBy (Utf8.decodeLossy bytes) = all.filter (fun k => Utf8.encode k.phrase <:+: bytes) ∧
      (carriedBy (Utf8.decodeLossy bytes)).Nodup) ∧
    (∀ source : Source, source.Steady → ∀ k : Marker,
      Utf8.encode k.phrase <:+: source.bytes
        ↔ ∃ line ∈ source.lines, Utf8.encode k.phrase <:+: line) := by
  constructor
  · intro bytes
    have hall : all.Nodup := by decide
    refine ⟨List.filter_congr ?_, hall.filter _⟩
    intro k _
    rw [Bool.eq_iff_iff, occursIn_decodeLossy_iff, decide_eq_true_iff]
  · intro source hsteady k
    rw [Source.lines_of_steady hsteady]
    exact Text.infix_iff_lines k.encode_phrase_ne_nil k.lineFeed_notMem_phrase

/-- A lead byte that is cut short by the phrase, which arrives in two pieces. -/
theorem exists_line_of_phrase_in_pieces :
    let source : Source :=
      [.data [0x0A, 0xE2, 0x82, 0x72, 0x65, 0x73, 0x74, 0x6F, 0x72, 0x65, 0x20], .pending,
        .data [0x66, 0x69, 0x6E, 0x69, 0x73, 0x68, 0x65, 0x64, 0xF0]]
    source.Steady ∧ Utf8.encode restoreFinished.phrase <:+: source.bytes ∧
      ∃ line ∈ source.lines, Utf8.encode restoreFinished.phrase <:+: line :=
  ⟨by decide, by decide, (carriedBy_decodeLossy.2 _ (by decide) restoreFinished).mp (by decide)⟩

end Marker

end CheckpointMonitor

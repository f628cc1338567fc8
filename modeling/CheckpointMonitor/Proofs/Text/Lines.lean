/-
CheckpointMonitor/Proofs/Text/Lines.lean

Bytes as lines.  A line ends before a line feed or at the end of the bytes; bytes
after the last line feed are a line if there are any, and nothing follows on a
line feed at the very end.

`unlines` writes lines with a line feed after each.  Written out, the lines of some
bytes are these bytes, or, if they end amid a line, these bytes and a line feed
(`unlines_lines`).

Proofs about the lines of bytes go by `lines_induction`, which takes away a whole
line at a time.  A pattern without a line feed occurs in bytes exactly if it occurs
in one of their lines (`infix_iff_lines`).
-/
import CheckpointMonitor.Channel.Source
import Mathlib.Data.List.Infix

namespace CheckpointMonitor.Text

variable {bytes line rest pattern : List UInt8}

/-! ### Lines -/

/-- The lines of the bytes, without their line feeds. -/
def lines : List UInt8 → List (List UInt8)
  | [] => []
  | byte :: rest =>
    if byte = lineFeed then [] :: lines rest
    else match lines rest with
      | [] => [[byte]]
      | line :: later => (byte :: line) :: later

/-- The lines written out, each with a line feed. -/
def unlines (lines : List (List UInt8)) : List UInt8 :=
  lines.flatMap (· ++ [lineFeed])

@[simp] theorem lines_nil : lines [] = [] := rfl

@[simp] theorem unlines_nil : unlines [] = [] := rfl

@[simp] theorem unlines_cons (line : List UInt8) (later : List (List UInt8)) :
    unlines (line :: later) = line ++ lineFeed :: unlines later := by
  simp [unlines]

theorem unlines_append (lines later : List (List UInt8)) :
    unlines (lines ++ later) = unlines lines ++ unlines later := List.flatMap_append

/-- A line with its line feed is taken away as a whole. -/
theorem lines_line (hline : lineFeed ∉ line) (rest : List UInt8) :
    lines (line ++ lineFeed :: rest) = line :: lines rest := by
  induction line with
  | nil => simp [lines]
  | cons byte line ih =>
    rw [List.mem_cons, not_or] at hline
    obtain ⟨hbyte, hline⟩ := hline
    rw [List.cons_append, lines, if_neg (Ne.symm hbyte), ih hline]

/-- Bytes without a line feed are one line. -/
theorem lines_last (hne : line ≠ []) (hline : lineFeed ∉ line) : lines line = [line] := by
  induction line with
  | nil => exact absurd rfl hne
  | cons byte line ih =>
    rw [List.mem_cons, not_or] at hline
    obtain ⟨hbyte, hline⟩ := hline
    rw [lines, if_neg (Ne.symm hbyte)]
    rcases line with - | ⟨next, line⟩
    · rfl
    · rw [ih (by simp) hline]

/-- **Induction by lines.** -/
theorem lines_induction {P : List UInt8 → Prop} (nil : P [])
    (last : ∀ line, line ≠ [] → lineFeed ∉ line → P line)
    (line : ∀ line rest, lineFeed ∉ line → P rest → P (line ++ lineFeed :: rest))
    (bytes : List UInt8) : P bytes := by
  induction h : bytes.length using Nat.strongRecOn generalizing bytes with
  | _ n ih =>
    by_cases hmem : lineFeed ∈ bytes
    · obtain ⟨l, r, rfl, hl⟩ := List.eq_append_cons_of_mem hmem
      have hr : r.length < n := by rw [← h, List.length_append, List.length_cons]; omega
      exact line l r hl (ih _ hr r rfl)
    · rcases eq_or_ne bytes [] with rfl | hne
      · exact nil
      · exact last bytes hne hmem

/-- No line has a line feed in it. -/
theorem lineFeed_notMem_of_mem_lines (h : line ∈ lines bytes) : lineFeed ∉ line := by
  induction bytes using lines_induction with
  | nil => cases h
  | last l hne hl =>
    rw [lines_last hne hl, List.mem_singleton] at h
    rwa [h]
  | line l rest hl ih =>
    rw [lines_line hl, List.mem_cons] at h
    rcases h with rfl | h
    · exact hl
    · exact ih h

/-! ### Lines written out -/

/-- Whether no line is left open at the end of the bytes. -/
def Closed (bytes : List UInt8) : Prop :=
  bytes = [] ∨ bytes.getLast? = some lineFeed

instance (bytes : List UInt8) : Decidable (Closed bytes) := by
  unfold Closed; infer_instance

theorem not_closed_of_last (hne : line ≠ []) (hline : lineFeed ∉ line) : ¬ Closed line := by
  rintro (h | h)
  · exact hne h
  · exact hline (List.mem_of_getLast? h)

theorem closed_line_iff : Closed (line ++ lineFeed :: rest) ↔ Closed rest := by
  rcases rest with - | ⟨byte, rest⟩
  · simp [Closed]
  · simp [Closed, List.getLast?_append]

/-- **The lines of bytes, written out, are these bytes,** but for the line feed that a line left
open at the end is given. -/
theorem unlines_lines (bytes : List UInt8) :
    unlines (lines bytes) = if Closed bytes then bytes else bytes ++ [lineFeed] := by
  induction bytes using lines_induction with
  | nil => rfl
  | last line hne hline =>
    rw [lines_last hne hline, if_neg (not_closed_of_last hne hline), unlines_cons, unlines_nil]
  | line line rest hline ih =>
    rw [lines_line hline, unlines_cons, ih]
    by_cases h : Closed rest
    · rw [if_pos h, if_pos (closed_line_iff.mpr h)]
    · rw [if_neg h, if_neg (mt closed_line_iff.mp h)]
      simp

/-- Lines that were written out are read again, before whatever comes after them. -/
theorem lines_unlines_append {written : List (List UInt8)} (h : ∀ line ∈ written, lineFeed ∉ line)
    (bytes : List UInt8) : lines (unlines written ++ bytes) = written ++ lines bytes := by
  induction written with
  | nil => rfl
  | cons line later ih =>
    obtain ⟨hline, hlater⟩ := List.forall_mem_cons.mp h
    rw [unlines_cons, List.append_assoc, List.cons_append, lines_line hline, ih hlater, List.cons_append]

/-- Bytes that leave no line open can be cut off. -/
theorem lines_append (hclosed : Closed bytes) (later : List UInt8) :
    lines (bytes ++ later) = lines bytes ++ lines later := by
  have h : lines (unlines (lines bytes) ++ later) = lines bytes ++ lines later :=
    lines_unlines_append (fun _ => lineFeed_notMem_of_mem_lines) later
  rwa [unlines_lines, if_pos hclosed] at h

/-- A carriage return is kept, an empty line is a line, and so is what is left open at the end. -/
example : lines [0x61, 0x0D, 0x0A, 0x0A, 0x62] = [[0x61, 0x0D], [], [0x62]] := by decide

/-! ### Patterns in lines -/

/-- A pattern without a line feed that begins in a line ends in it. -/
theorem prefix_line_iff (hp : lineFeed ∉ pattern) :
    pattern <+: line ++ lineFeed :: rest ↔ pattern <+: line := by
  induction line generalizing pattern with
  | nil =>
    rcases pattern with - | ⟨b, pattern⟩
    · simp
    · rw [List.nil_append, List.cons_prefix_cons, List.prefix_nil]
      refine iff_of_false ?_ (by simp)
      rintro ⟨rfl, -⟩
      simp at hp
  | cons byte line ih =>
    rcases pattern with - | ⟨b, pattern⟩
    · simp
    · rw [List.mem_cons, not_or] at hp
      rw [List.cons_append, List.cons_prefix_cons, List.cons_prefix_cons, ih hp.2]

/-- A pattern without a line feed does not reach over one. -/
theorem infix_line_iff (hne : pattern ≠ []) (hp : lineFeed ∉ pattern) :
    pattern <:+: line ++ lineFeed :: rest ↔ pattern <:+: line ∨ pattern <:+: rest := by
  induction line with
  | nil =>
    -- the pattern cannot begin at the line feed itself
    have hfirst : ¬ pattern <+: [] ++ lineFeed :: rest := by
      rw [prefix_line_iff hp, List.prefix_nil]
      exact hne
    rw [List.nil_append] at hfirst ⊢
    rw [List.infix_cons_iff, or_iff_right hfirst, List.infix_nil, or_iff_right hne]
  | cons byte line ih =>
    rw [List.cons_append, List.infix_cons_iff, List.infix_cons_iff, ih, or_assoc,
      ← List.cons_append, prefix_line_iff hp]

/-- **A pattern without a line feed occurs in bytes exactly if it occurs in one of their lines.** -/
theorem infix_iff_lines (hne : pattern ≠ []) (hp : lineFeed ∉ pattern) :
    pattern <:+: bytes ↔ ∃ line ∈ lines bytes, pattern <:+: line := by
  induction bytes using lines_induction with
  | nil => simp [hne]
  | last line hne' hline => simp [lines_last hne' hline]
  | line line rest hline ih => simp [lines_line hline, infix_line_iff hne hp, ih]

end CheckpointMonitor.Text

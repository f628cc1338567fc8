/-
CheckpointMonitor/Proofs/Channel/Reading.lean

What reading line after line makes of a stream, however it arrives.

`Source.bytes` forgets how the bytes were cut into pieces, and what came between
them.  A reading takes a beginning of these bytes, with no line feed in it but the
one at which it ended, and leaves the others (`bytes_readLine`).

A steady source is one on which every line is read to its end: it asks for no
shutdown, and if a read of it fails, it is begun again.  On such a source the
readings are the lines of its bytes (`lines_of_steady`), so that nothing of the
pieces is left to be seen.
-/
import CheckpointMonitor.Proofs.Text.Lines
import Mathlib.Data.List.TakeWhile

namespace CheckpointMonitor.Source

variable {source : Source} {shutdown : Bool}

/-! ### The bytes of a source -/

/-- The bytes that may still arrive. -/
def bytes : Source → List UInt8
  | [] => []
  | .data piece :: later => piece ++ bytes later
  | _ :: later => bytes later

/-- The bytes that a reading took, the line feed at its end included. -/
def Read.taken (read : Read) : List UInt8 :=
  match read.ending with
  | .lineFeed => read.bytes ++ [lineFeed]
  | _ => read.bytes

theorem Read.taken_of_lineFeed {read : Read} (h : read.ending = .lineFeed) :
    read.taken = read.bytes ++ [lineFeed] := by
  rw [taken, h]

theorem Read.taken_of_ne {read : Read} (h : read.ending ≠ .lineFeed) : read.taken = read.bytes := by
  rw [taken]
  split
  · next hend => exact absurd hend h
  · rfl

theorem Read.taken_after (piece : List UInt8) (read : Read) :
    (read.after piece).taken = piece ++ read.taken := by
  rw [taken, taken, ending_after, bytes_after]
  split <;> simp

theorem Read.size_eq_length (read : Read) : read.size = read.taken.length := by
  cases h : read.ending <;> simp [size, taken, h]

theorem lineFeed_notMem_of_dropWhile {piece : List UInt8} (h : piece.dropWhile (· != lineFeed) = []) :
    lineFeed ∉ piece := by
  intro hmem
  simpa using List.dropWhile_eq_nil_iff.mp h lineFeed hmem

/-- A reading takes the first of the bytes that may arrive, and leaves the others. -/
theorem bytes_readLine (shutdown : Bool) (source : Source) :
    source.bytes = (readLine shutdown source).taken ++ (readLine shutdown source).rest.bytes := by
  fun_induction readLine shutdown source with
  | case1 => rfl
  | case2 shutdown piece later byte left hdrop =>
    -- the line ends in this piece, at the first byte that is dropped
    have hpiece := List.takeWhile_append_dropWhile (p := (· != lineFeed)) (l := piece)
    have hbyte : byte = lineFeed := by
      have := List.head?_dropWhile_not (p := (· != lineFeed)) piece
      rw [hdrop] at this
      simpa using this
    rw [hdrop, hbyte] at hpiece
    simp only [Read.taken, bytes]
    conv_lhs => rw [← hpiece]
    simp
  | case3 shutdown piece later _ ih =>
    rw [Read.taken_after, Read.rest_after, bytes, ih, List.append_assoc]
  | case4 => rfl
  | case5 shutdown later _ ih => exact ih
  | case6 shutdown later ih => exact ih
  | case7 shutdown fault later _ ih => exact ih
  | case8 => rfl

/-- The line that was read has no line feed in it. -/
theorem lineFeed_notMem_readLine (shutdown : Bool) (source : Source) :
    lineFeed ∉ (readLine shutdown source).bytes := by
  fun_induction readLine shutdown source with
  | case1 => simp
  | case2 shutdown piece later byte left hdrop =>
    intro hmem
    simpa using List.mem_takeWhile_imp hmem
  | case3 shutdown piece later hdrop ih =>
    rw [Read.bytes_after, List.mem_append, not_or]
    exact ⟨lineFeed_notMem_of_dropWhile hdrop, ih⟩
  | case4 => simp
  | case5 shutdown later _ ih => exact ih
  | case6 shutdown later ih => exact ih
  | case7 shutdown fault later _ ih => exact ih
  | case8 => simp

/-- A reading comes to the end of the stream only by reading all of it. -/
theorem rest_of_exhausted (h : (readLine shutdown source).ending = .exhausted) :
    (readLine shutdown source).rest = [] := by
  fun_induction readLine shutdown source with
  | case1 => rfl
  | case2 => cases h
  | case3 shutdown piece later _ ih => exact ih h
  | case4 => cases h
  | case5 shutdown later _ ih => exact ih h
  | case6 shutdown later ih => exact ih h
  | case7 shutdown fault later _ ih => exact ih h
  | case8 => cases h

/-- What arrives after a line has no part in its reading. -/
theorem readLine_append (h : (readLine shutdown source).ending ≠ .exhausted) (later : Source) :
    readLine shutdown (source ++ later)
      = { readLine shutdown source with rest := (readLine shutdown source).rest ++ later } := by
  fun_induction readLine shutdown source with
  | case1 => exact absurd rfl h
  | case2 shutdown piece others byte left hdrop =>
    rw [List.cons_append, readLine, hdrop]
    rfl
  | case3 shutdown piece others hdrop ih =>
    rw [List.cons_append, readLine, hdrop]
    exact congrArg (Read.after piece) (ih h)
  | case4 => rfl
  | case5 shutdown others hshutdown ih =>
    rw [List.cons_append, readLine, if_neg hshutdown]
    exact ih h
  | case6 shutdown others ih => exact ih h
  | case7 shutdown fault others hretried ih =>
    rw [List.cons_append, readLine, if_pos hretried]
    exact ih h
  | case8 shutdown fault others hretried =>
    rw [List.cons_append, readLine, if_neg hretried]

/-! ### Complete lines -/

/-- Whether a line was read to its end: up to its line feed, or up to the end of the stream if there
were bytes before it. -/
def Read.Complete (read : Read) : Prop :=
  read.ending = .lineFeed ∨ read.ending = .exhausted ∧ read.bytes ≠ []

/-- How a reading can end: with a line, with nothing left, interrupted, or with a failure. -/
theorem Read.ending_cases (read : Read) :
    read.Complete ∨ read.ending = .exhausted ∧ read.bytes = [] ∨ read.ending = .interrupted ∨
      ∃ fault, read.ending = .failed fault := by
  rcases hend : read.ending with - | - | - | fault
  · exact Or.inl (Or.inl hend)
  · rcases hbytes : read.bytes with - | ⟨byte, line⟩
    · exact Or.inr (Or.inl ⟨rfl, rfl⟩)
    · exact Or.inl (Or.inr ⟨hend, hbytes ▸ List.cons_ne_nil byte line⟩)
  · exact Or.inr (Or.inr (Or.inl rfl))
  · exact Or.inr (Or.inr (Or.inr ⟨fault, rfl⟩))

/-- **A line that was read to its end is the first of the source's lines,** and the others are left. -/
theorem lines_of_complete (h : (readLine shutdown source).Complete) :
    Text.lines source.bytes
      = (readLine shutdown source).bytes :: Text.lines (readLine shutdown source).rest.bytes := by
  have hbytes := bytes_readLine shutdown source
  have hline := lineFeed_notMem_readLine shutdown source
  rcases h with hend | ⟨hend, hne⟩
  · rw [Read.taken, hend, List.append_assoc, List.singleton_append] at hbytes
    rw [hbytes, Text.lines_line hline]
  · rw [Read.taken, hend, rest_of_exhausted hend, bytes, List.append_nil] at hbytes
    rw [hbytes, Text.lines_last hne hline, rest_of_exhausted hend, bytes, Text.lines_nil]

/-- Where the bytes leave no line open, a line that was read to its end ends at a line feed. -/
theorem ending_of_closed (h : (readLine shutdown source).Complete)
    (hclosed : Text.Closed source.bytes) : (readLine shutdown source).ending = .lineFeed := by
  rcases h with hend | ⟨hend, hne⟩
  · exact hend
  · have hbytes := bytes_readLine shutdown source
    rw [Read.taken, hend, rest_of_exhausted hend, bytes, List.append_nil] at hbytes
    rw [hbytes] at hclosed
    exact absurd hclosed (Text.not_closed_of_last hne (lineFeed_notMem_readLine shutdown source))

/-! ### Steady sources -/

/-- Whether a line can be read on over the arrival. -/
def Arrival.isSteady : Arrival → Bool
  | .data _ => true
  | .pending => true
  | .shutdown => false
  | .failure fault => fault.isRetried

/-- Every line of the source is read to its end. -/
def Steady (source : Source) : Prop :=
  ∀ arrival ∈ source, arrival.isSteady = true

instance (source : Source) : Decidable source.Steady := by
  unfold Steady; infer_instance

theorem steady_cons {arrival : Arrival} {later : Source} :
    Steady (arrival :: later) ↔ arrival.isSteady = true ∧ Steady later :=
  List.forall_mem_cons

/-- A reading of a steady source ends at a line feed or at the very end, and leaves the source
steady. -/
theorem readLine_of_steady (h : source.Steady) :
    ((readLine false source).ending = .lineFeed ∨
      (readLine false source).ending = .exhausted ∧ (readLine false source).rest = []) ∧
    (readLine false source).shutdown = false ∧ (readLine false source).rest.Steady := by
  induction source with
  | nil => exact ⟨Or.inr ⟨rfl, rfl⟩, rfl, h⟩
  | cons arrival later ih =>
    obtain ⟨ha, hlater⟩ := steady_cons.mp h
    have ih := ih hlater
    cases arrival with
    | data piece =>
      rw [readLine]
      split
      · exact ⟨Or.inl rfl, rfl, steady_cons.mpr ⟨rfl, hlater⟩⟩
      · exact ih
    | pending => exact ih
    | shutdown => cases ha
    | failure fault =>
      have hretried : fault.isRetried = true := ha
      rw [readLine, if_pos hretried]
      exact ih

/-- A reading of a steady source finds its bytes at an end, or reads a line to its end. -/
theorem spent_or_complete (h : source.Steady) :
    (source.bytes = [] ∧ (readLine false source).ending = .exhausted ∧
      (readLine false source).bytes = []) ∨ (readLine false source).Complete := by
  rcases (readLine_of_steady h).1 with hend | ⟨hend, hnil⟩
  · exact Or.inr (Or.inl hend)
  rcases hread : (readLine false source).bytes with - | ⟨byte, line⟩
  · have hbytes := bytes_readLine false source
    rw [Read.taken, hend, hnil, hread] at hbytes
    exact Or.inl ⟨hbytes, hend, rfl⟩
  · exact Or.inr (Or.inr ⟨hend, hread ▸ List.cons_ne_nil byte line⟩)

/-! ### The lines of a source -/

/-- The lines that are read from the source one after another, until nothing is left or a reading
goes wrong. -/
def lines (source : Source) : List (List UInt8) :=
  match _h : (source.readLine false).ending with
  | .lineFeed => (source.readLine false).bytes :: lines (source.readLine false).rest
  | .exhausted =>
    if (source.readLine false).bytes.isEmpty then [] else [(source.readLine false).bytes]
  | _ => []
termination_by size source
decreasing_by
  have hle := source.size_rest_le false
  simp only [Read.size, _h] at hle
  omega

theorem lines_of_lineFeed (h : (source.readLine false).ending = .lineFeed) :
    source.lines = (source.readLine false).bytes :: (source.readLine false).rest.lines := by
  rw [lines]
  split <;> simp_all

theorem lines_of_exhausted (h : (source.readLine false).ending = .exhausted) :
    source.lines = if (source.readLine false).bytes.isEmpty then []
      else [(source.readLine false).bytes] := by
  rw [lines]
  split <;> simp_all

/-- **A steady source is read as the lines of its bytes.** -/
theorem lines_of_steady (h : source.Steady) : source.lines = Text.lines source.bytes := by
  induction hn : size source using Nat.strongRecOn generalizing source with
  | _ n ih =>
    have hbytes := bytes_readLine false source
    have hline := lineFeed_notMem_readLine false source
    have hle := source.size_rest_le false
    obtain ⟨hend, -, hrest⟩ := readLine_of_steady h
    rcases hend with hend | ⟨hend, hnil⟩
    · -- a whole line, and fewer bytes after it
      have hlt : size (source.readLine false).rest < n := by
        simp only [Read.size, hend] at hle
        omega
      rw [Read.taken, hend, List.append_assoc, List.singleton_append] at hbytes
      rw [lines_of_lineFeed hend, ih _ hlt hrest rfl, hbytes, Text.lines_line hline]
    · -- the last bytes, which are a line if there are any
      rw [Read.taken, hend, hnil, bytes, List.append_nil] at hbytes
      rw [lines_of_exhausted hend, hbytes]
      rcases hl : (source.readLine false).bytes with - | ⟨byte, line⟩
      · rfl
      · rw [hl] at hline
        exact (Text.lines_last (by simp) hline).symm

end CheckpointMonitor.Source

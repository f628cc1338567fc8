/-
CheckpointMonitor/Proofs/Text/Numeral.lean

Numbers in a text, and where they stand.

A numeral has digits only, and no zero before others; so there is one for each number, the one that is
written (`number?_repr`).

A number is found by the label before it.  That is good only if the label stands in the text just once,
which is so if the text has one of the letters of the label just once: wherever the label
stands there is such a letter, and no two places share one (`occurrences_le_count`).  What
follows on the label is then not a matter of choice (`after?_of_once`).
-/
import Mathlib.Data.List.Count
import Mathlib.Data.List.Infix

namespace CheckpointMonitor.Text

/-! ### Numerals -/

/-- The number that the letters are the numeral of, if they are one. -/
def number? (letters : List Char) : Option Nat :=
  if letters ≠ [] ∧ letters.all Char.isDigit ∧ (letters.head? = some '0' → letters = ['0']) then
    some (Nat.ofDigitChars 10 letters 0)
  else none

theorem ascii_of_isDigit {c : Char} (h : c.isDigit = true) : c.toNat < 0x80 := by
  simp only [Char.isDigit, Bool.and_eq_true, decide_eq_true_eq, UInt32.le_iff_toNat_le] at h
  exact h.2.trans_lt (by decide)

theorem isDigit_of_mem_repr {n : Nat} {c : Char} (h : c ∈ n.repr.toList) : c.isDigit = true := by
  rw [Nat.toList_repr] at h
  exact Nat.isDigit_of_mem_toDigits (by decide) (by decide) h

/-- No numeral begins with a zero but that of zero. -/
theorem eq_zero_of_head_toDigits {n : Nat} (h : (Nat.toDigits 10 n).head? = some '0') : n = 0 := by
  induction n using Nat.strongRecOn with
  | _ n ih =>
    by_cases hn : n < 10
    · have hdigit : ∀ d < 10, d.digitChar = '0' → d = 0 := by decide
      rw [Nat.toDigits_of_lt_base hn] at h
      exact hdigit n hn (Option.some.inj h)
    · -- the first digit is that of the number without its last
      rw [Nat.toDigits_of_base_le (by decide) (by omega),
        List.head?_append_of_ne_nil _ Nat.toDigits_ne_nil] at h
      have := ih (n / 10) (by omega) h
      omega

/-- **A number that is written is read again.** -/
theorem number?_repr (n : Nat) : number? n.repr.toList = some n := by
  have hnumeral : n.repr.toList ≠ [] ∧ n.repr.toList.all Char.isDigit ∧
      (n.repr.toList.head? = some '0' → n.repr.toList = ['0']) := by
    refine ⟨?_, List.all_eq_true.mpr fun c => isDigit_of_mem_repr, fun hzero => ?_⟩
    · rw [Nat.toList_repr]
      exact Nat.toDigits_ne_nil
    · rw [Nat.toList_repr] at hzero ⊢
      rw [eq_zero_of_head_toDigits hzero, Nat.toDigits_zero]
  rw [number?, if_pos hnumeral, Nat.toList_repr, Nat.ofDigitChars_ten_toDigits]

/-- A sign, a separator and a zero in front are none of a numeral. -/
example : number? "+7".toList = none ∧ number? "1_000".toList = none ∧ number? "07".toList = none := by
  decide

/-! ### Labels -/

variable {pattern text rest : List Char} {c : Char}

/-- The number of places at which the pattern stands in the text. -/
def occurrences (pattern text : List Char) : Nat :=
  text.tails.countP (pattern.isPrefixOf ·)

/-- What follows on the pattern where it stands first. -/
def after? (pattern text : List Char) : Option (List Char) :=
  (text.tails.find? (pattern.isPrefixOf ·)).map (·.drop pattern.length)

theorem occurrences_nil (pattern : List Char) :
    occurrences pattern [] = if pattern.isPrefixOf [] then 1 else 0 := by
  exact List.countP_singleton

theorem occurrences_cons (pattern : List Char) (b : Char) (text : List Char) :
    occurrences pattern (b :: text)
      = occurrences pattern text + if pattern.isPrefixOf (b :: text) then 1 else 0 := by
  rw [occurrences, List.tails_cons, List.countP_cons]
  rfl

/-- Where a pattern stands, what it begins with is followed by the rest of it. -/
theorem occurrences_cons_cons_le (a b : Char) (pattern text : List Char) :
    occurrences (a :: pattern) (b :: text) ≤ occurrences pattern text := by
  have hfirst : ∀ (b : Char) (text : List Char),
      (if (a :: pattern).isPrefixOf (b :: text) then 1 else 0)
        ≤ if pattern.isPrefixOf text then 1 else 0 := by
    intro b text
    split
    · next h =>
      rw [List.isPrefixOf_iff_prefix, List.cons_prefix_cons] at h
      rw [if_pos (List.isPrefixOf_iff_prefix.mpr h.2)]
    · exact Nat.zero_le _
  induction text generalizing b with
  | nil =>
    rw [occurrences_cons, occurrences_nil, occurrences_nil]
    exact (Nat.zero_add _).trans_le (hfirst b [])
  | cons b' text ih =>
    rw [occurrences_cons, occurrences_cons pattern b' text]
    exact Nat.add_le_add (ih b') (hfirst b (b' :: text))

/-- **A pattern stands in a text no more often than each of its letters.** -/
theorem occurrences_le_count (hc : c ∈ pattern) : occurrences pattern text ≤ text.count c := by
  induction pattern generalizing text with
  | nil => cases hc
  | cons a pattern ih =>
    rcases List.mem_cons.mp hc with rfl | hc
    · -- each place at which the pattern stands has its first letter
      induction text with
      | nil => rfl
      | cons b text ihtext =>
        rw [occurrences_cons, List.count_cons]
        refine Nat.add_le_add ihtext ?_
        split
        · next h =>
          rw [List.isPrefixOf_iff_prefix, List.cons_prefix_cons] at h
          rw [if_pos (beq_iff_eq.mpr h.1.symm)]
        · exact Nat.zero_le _
    · cases text with
      | nil => exact Nat.zero_le _
      | cons b text =>
        calc occurrences (a :: pattern) (b :: text)
            ≤ occurrences pattern text := occurrences_cons_cons_le a b pattern text
          _ ≤ text.count c := ih hc
          _ ≤ (b :: text).count c := List.count_le_count_cons

/-- A pattern that stands in a text does so once, if one of its letters is in the text just once. -/
theorem occurrences_eq_one (hc : c ∈ pattern) (hcount : text.count c = 1) (h : pattern <:+: text) :
    occurrences pattern text = 1 := by
  refine Nat.le_antisymm (hcount ▸ occurrences_le_count hc) ?_
  obtain ⟨place, hpattern, hplace⟩ := List.infix_iff_prefix_suffix.mp h
  exact List.countP_pos_iff.mpr
    ⟨place, (List.mem_tails _ _).mpr hplace, List.isPrefixOf_iff_prefix.mpr hpattern⟩

/-- A pattern that stands in a text once has just one thing following on it. -/
theorem after?_of_once {before : List Char} (htext : text = before ++ (pattern ++ rest))
    (hone : occurrences pattern text = 1) : after? pattern text = some rest := by
  rw [occurrences, List.countP_eq_length_filter, List.length_eq_one_iff] at hone
  obtain ⟨place, hplaces⟩ := hone
  have hmem : pattern ++ rest ∈ text.tails.filter (pattern.isPrefixOf ·) := by
    refine List.mem_filter.mpr ⟨?_, List.isPrefixOf_iff_prefix.mpr (List.prefix_append _ _)⟩
    exact (List.mem_tails _ _).mpr ⟨before, htext.symm⟩
  rw [hplaces, List.mem_singleton] at hmem
  rw [after?, ← List.head?_filter, hplaces, ← hmem, List.head?_cons, Option.map_some, List.drop_left]

end CheckpointMonitor.Text

/-
CheckpointMonitor/Proofs/History.lean

Counting the entries of a history by what came before them.  `History.count` looks
at each entry together with the entries before it, so that "requests that are no
duplicates" or "lines read while the monitor had not halted" are counted by their
own words, with no counter that is carried along.

A counter that some machine does carry along is compared with it one entry at a
time, from the right (`count_concat`).
-/
import Mathlib.Data.List.Range

namespace CheckpointMonitor.History

variable {α : Type}

/-- How many entries of the history satisfy a condition on the entries before and on the entry. -/
def count (P : List α → α → Bool) (history : List α) : Nat :=
  (List.range history.length).countP fun i => history[i]?.any (P (history.take i))

@[simp] theorem count_nil (P : List α → α → Bool) : count P [] = 0 := rfl

theorem count_concat (P : List α → α → Bool) (h : List α) (a : α) :
    count P (h ++ [a]) = count P h + if P h a then 1 else 0 := by
  have hbefore : ∀ i ∈ List.range h.length,
      (h ++ [a])[i]?.any (P ((h ++ [a]).take i)) = h[i]?.any (P (h.take i)) := by
    intro i hi
    have hi : i < h.length := List.mem_range.mp hi
    rw [List.getElem?_append_left hi, List.take_append_of_le_length hi.le]
  rw [count, List.length_append, List.length_singleton, List.range_succ, List.countP_append, count]
  congr 1
  · exact List.countP_congr fun i hi => by rw [hbefore i hi]
  · simp [List.countP_singleton]

/-- At most all entries are counted. -/
theorem count_le_length (P : List α → α → Bool) (h : List α) : count P h ≤ h.length := by
  simpa [count] using (List.range h.length).countP_le_length

end CheckpointMonitor.History

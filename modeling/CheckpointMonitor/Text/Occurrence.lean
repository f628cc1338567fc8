/-
CheckpointMonitor/Text/Occurrence.lean

Exact search for one sequence inside another.  The search is generic in the
element, so that it reads the same over characters and over bytes; a phrase in
plain ASCII is looked for in a decoded line and in the raw bytes of that line by
the one function.

`occurs_iff` says that the search decides the infix relation: nothing is folded,
trimmed or skipped on the way.
-/

namespace CheckpointMonitor.Text

variable {α : Type} [BEq α]

/-- Whether `pattern` stands somewhere in the sequence, as one contiguous piece. -/
def occurs (pattern : List α) : List α → Bool
  | [] => pattern.isEmpty
  | a :: rest => pattern.isPrefixOf (a :: rest) || occurs pattern rest

@[simp] theorem occurs_nil (pattern : List α) : occurs pattern [] = pattern.isEmpty := rfl

@[simp] theorem occurs_cons (pattern : List α) (a : α) (rest : List α) :
    occurs pattern (a :: rest) = (pattern.isPrefixOf (a :: rest) || occurs pattern rest) := rfl

/-- The search answers yes exactly for the sequences that contain the pattern. -/
theorem occurs_iff [LawfulBEq α] {pattern s : List α} : occurs pattern s = true ↔ pattern <:+: s := by
  induction s with
  | nil => simp
  | cons a rest ih => simp [ih, List.infix_cons_iff]

end CheckpointMonitor.Text

/-
CheckpointMonitor/Proofs/Protocol/Table.lean

The protocol's table, read backwards: from an answer to the row that gives it.

`Phase.rows` writes the table down as data, one entry for each pair of a phase and
a marker that has a row.  The pairs that are refused are exactly those without one
(`answer_eq_refuse_iff`).  `answer_cases_of_advance` and `answer_cases_of_ignore`
are the inversion lemmas by which facts about a marker are split into the rows, so
that no proof has to go through all sixteen pairs.
-/
import CheckpointMonitor.Protocol.Phase

namespace CheckpointMonitor.Phase

variable {p q : Phase} {k : Marker}

/-- The pairs that have a row in the table. -/
def rows : List (Phase × Marker) :=
  [(idle, .persistTriggered), (triggered, .persistQueued), (triggered, .bufferCleared),
    (queued, .bufferCleared), (bufferCleared, .restoreFinished), (queued, .persistTriggered)]

theorem answer_eq_refuse_iff : p.answer k = .refuse ↔ (p, k) ∉ rows := by
  cases p <;> cases k <;> decide

/-- The rows with which the protocol moves on. -/
theorem answer_cases_of_advance (h : p.answer k = .advance q) :
    (p = idle ∧ k = .persistTriggered ∧ q = triggered) ∨
    (p = triggered ∧ k = .persistQueued ∧ q = queued) ∨
    ((p = triggered ∨ p = queued) ∧ k = .bufferCleared ∧ q = bufferCleared) ∨
    (p = bufferCleared ∧ k = .restoreFinished ∧ q = idle) := by
  revert h
  cases p <;> cases k <;> simp [answer, eq_comm]

/-- The row of the duplicate. -/
theorem answer_cases_of_ignore (h : p.answer k = .ignore) :
    p = queued ∧ k = .persistTriggered := by
  revert h
  cases p <;> cases k <;> simp [answer]

end CheckpointMonitor.Phase

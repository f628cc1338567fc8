/-
CheckpointMonitor/Proofs/Monitor/Numbering.lean

Lines with other numbers.

The number of a line is noted with a violation and decides nothing.  So lines whose
numbers begin later are read as they would be from the first number on, and only the
line that is noted lies so much further down (`readLines_below`).  This is what becomes
of a reading that is taken up anew, with numbers of its own, against one that goes on.
-/
import CheckpointMonitor.Proofs.Monitor.Course
import CheckpointMonitor.Proofs.Monitor.Line

namespace CheckpointMonitor

/-! ### Further down -/

/-- The same breach, with so many more lines before it. -/
def Violation.below (before : Nat) (v : Violation) : Violation :=
  { v with line := v.line.map (before + ·) }

/-- The same refusal, with so many more lines before it. -/
def Refusal.below (before : Nat) : Refusal → Refusal
  | .violation v => .violation (v.below before)
  | .halted => .halted

theorem Refusal.below_atLine (before n : Nat) (refusal : Refusal) :
    (refusal.atLine n).below before = refusal.atLine (before + n) := by
  cases refusal <;> rfl

namespace Monitor

variable {m : Monitor}

/-- The same monitor, with so many more lines before the one on which it halted. -/
def below (before : Nat) (m : Monitor) : Monitor :=
  { m with violation := m.violation.map (·.below before) }

theorem below_of_not_halted (hm : m.isHalted = false) (before : Nat) : m.below before = m := by
  rw [below, isHalted_eq_false_iff.mp hm, Option.map_none, ← isHalted_eq_false_iff.mp hm]

theorem below_onLine (m : Monitor) (seen before n : Nat) :
    (m.onLine seen n).below before = m.onLine seen (before + n) := by
  simp only [below, onLine, Option.map_map]
  rfl

/-- The course of the same reading, with so many more lines before it. -/
def Course.below (before : Nat) (course : Course) : Course :=
  { course with
    monitor := course.monitor.below before
    refusal := course.refusal.map (·.below before) }

/-! ### Reading -/

/-- A line further down is read as it would be further up. -/
theorem readLine_below (hm : m.isHalted = false) (text : String) (before n : Nat) :
    m.readLine text (before + n)
      = { m.readLine text n with
          refusal := (m.readLine text n).refusal.map (·.below before)
          monitor := (m.readLine text n).monitor.below before } := by
  rw [readLine_eq hm, readLine_eq hm, below_onLine, Option.map_map]
  simp only [Function.comp_def, Refusal.below_atLine]

/-- A line on which a monitor halts is noted with the violation. -/
theorem line_of_readLine (hm : m.isHalted = false) {text : String} {n : Nat} {v : Violation}
    (h : (m.readLine text n).refusal = some (.violation v)) : v.line = some n := by
  rw [readLine_eq hm] at h
  obtain ⟨refusal, -, hv⟩ := Option.map_eq_some_iff.mp h
  cases refusal with
  | violation u =>
    obtain rfl := Refusal.violation.inj hv
    rfl
  | halted => cases hv

/-- A violation is on the last of the lines that were read. -/
theorem line_of_readLines (hm : m.isHalted = false) {number : Nat} {texts : List String} {v : Violation}
    (h : (m.readLines number texts).refusal = some (.violation v)) :
    ∃ n, v.line = some n ∧ n + 1 = number + (m.readLines number texts).count := by
  induction texts generalizing m number with
  | nil => cases h
  | cons text later ih =>
    rcases hread : (m.readLine text number).refusal with - | refusal
    · rw [readLines_of_accepted hread] at h ⊢
      obtain ⟨n, hline, hn⟩ := ih (not_halted_of_accepted hm hread) h
      refine ⟨n, hline, ?_⟩
      rw [hn, Course.next, Nat.add_assoc, Nat.add_comm 1]
    · rw [readLines_of_refused hread] at h ⊢
      obtain rfl := Option.some.inj h
      exact ⟨number, line_of_readLine hm hread, rfl⟩

/-- **Lines further down are read as they would be further up.** -/
theorem readLines_below (hm : m.isHalted = false) (before number : Nat) (texts : List String) :
    m.readLines (before + number) texts = (m.readLines number texts).below before := by
  induction texts generalizing m number with
  | nil => simp [Course.below, below_of_not_halted hm]
  | cons text later ih =>
    have hline := readLine_below hm text before number
    rcases hread : (m.readLine text number).refusal with - | refusal
    · -- nothing is noted on an accepted line, so the next monitor is the same
      have hnext := not_halted_of_accepted hm hread
      have haccepted : (m.readLine text (before + number)).refusal = none := by
        simp [hline, hread]
      rw [readLines_of_accepted hread, readLines_of_accepted haccepted, hline,
        below_of_not_halted hnext, Nat.add_assoc, ih hnext]
      rfl
    · have hrefused : (m.readLine text (before + number)).refusal = some (refusal.below before) := by
        simp [hline, hread]
      rw [readLines_of_refused hread, readLines_of_refused hrefused, hline]
      rfl

/-- **A reading that is taken up anew is the reading that goes on,** but for the numbers of its
lines. -/
theorem readLines_resumed (hm : m.isHalted = false) {texts : List String}
    (h : (m.readLines 1 texts).refusal = none) (later : List String) :
    m.readLines 1 (texts ++ later)
      = (((m.readLines 1 texts).monitor.readLines 1 later).below texts.length).after
          texts.length := by
  rw [readLines_append h, Nat.add_comm, readLines_below (not_halted_of_readLines hm h)]

end Monitor

end CheckpointMonitor

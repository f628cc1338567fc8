/-
CheckpointMonitor/Proofs/Monitor/Course.lean

Lines read one after another by a monitor, up to the first that it refuses.  There is
no stream here and nothing is passed on: this is what a watch over a stream comes
to for its monitor.

A monitor that had not halted refuses a line only by halting on it, so the course
of its reading ends with the lines or with the violation that it then holds
(`refusal_readLines`).

The reading of lines that were all accepted can be taken up after them
(`readLines_append`); a refusal is the last word, whatever comes after it
(`readLines_append_of_refused`).
-/
import CheckpointMonitor.Proofs.Monitor.Observation

namespace CheckpointMonitor.Monitor

variable {m : Monitor}

/-- What the reading of lines one after another came to. -/
structure Course where
  /-- The monitor afterwards. -/
  monitor : Monitor
  /-- How many lines were read, a refused one included. -/
  count : Nat
  /-- Why the reading stopped short, if it did. -/
  refusal : Option Refusal

/-- The course on which one more line was read before. -/
def Course.next (course : Course) : Course :=
  { course with count := course.count + 1 }

/-- Reads lines with their numbers, the first of which is given, up to the first that is refused. -/
def readLines (m : Monitor) (number : Nat) : List String → Course
  | [] => ⟨m, 0, none⟩
  | text :: later =>
    let reading := m.readLine text number
    match reading.refusal with
    | none => (reading.monitor.readLines (number + 1) later).next
    | some refusal => ⟨reading.monitor, 1, some refusal⟩

@[simp] theorem readLines_nil (m : Monitor) (number : Nat) : m.readLines number [] = ⟨m, 0, none⟩ := rfl

theorem readLines_of_accepted {text : String} {number : Nat}
    (h : (m.readLine text number).refusal = none) (later : List String) :
    m.readLines number (text :: later)
      = ((m.readLine text number).monitor.readLines (number + 1) later).next := by
  rw [readLines]
  rw [h]

theorem readLines_of_refused {text : String} {number : Nat} {refusal : Refusal}
    (h : (m.readLine text number).refusal = some refusal) (later : List String) :
    m.readLines number (text :: later) = ⟨(m.readLine text number).monitor, 1, some refusal⟩ := by
  rw [readLines]
  rw [h]

theorem count_readLines_le (m : Monitor) (number : Nat) (texts : List String) :
    (m.readLines number texts).count ≤ texts.length := by
  induction texts generalizing m number with
  | nil => exact Nat.le_refl 0
  | cons text later ih =>
    rcases hread : (m.readLine text number).refusal with - | refusal
    · rw [readLines_of_accepted hread]
      exact Nat.succ_le_succ (ih _ _)
    · rw [readLines_of_refused hread]
      exact Nat.succ_le_succ (Nat.zero_le _)

/-- All lines are read unless one is refused. -/
theorem count_of_accepted {number : Nat} {texts : List String}
    (h : (m.readLines number texts).refusal = none) :
    (m.readLines number texts).count = texts.length := by
  induction texts generalizing m number with
  | nil => rfl
  | cons text later ih =>
    rcases hread : (m.readLine text number).refusal with - | refusal
    · rw [readLines_of_accepted hread] at h ⊢
      rw [Course.next, ih h, List.length_cons]
    · rw [readLines_of_refused hread] at h
      cases h

theorem count_readLines_eq_zero_iff {number : Nat} {texts : List String} :
    (m.readLines number texts).count = 0 ↔ texts = [] := by
  rcases texts with - | ⟨text, later⟩
  · exact iff_of_true rfl rfl
  rcases hread : (m.readLine text number).refusal with - | refusal
  · rw [readLines_of_accepted hread]
    exact iff_of_false (Nat.succ_ne_zero _) (List.cons_ne_nil _ _)
  · rw [readLines_of_refused hread]
    exact iff_of_false Nat.one_ne_zero (List.cons_ne_nil _ _)

/-- A monitor that accepted a line has not halted on it. -/
theorem not_halted_of_accepted (hm : m.isHalted = false) {text : String} {number : Nat}
    (h : (m.readLine text number).refusal = none) :
    (m.readLine text number).monitor.isHalted = false := by
  rw [refusal_readLine hm] at h
  exact isHalted_eq_false_iff.mpr (Option.map_eq_none_iff.mp h)

/-- A monitor that had not halted reads lines up to their end or up to the violation on which it
halts. -/
theorem refusal_readLines (hm : m.isHalted = false) (number : Nat) (texts : List String) :
    (m.readLines number texts).refusal
      = (m.readLines number texts).monitor.violation.map .violation := by
  induction texts generalizing m number with
  | nil => rw [readLines_nil, isHalted_eq_false_iff.mp hm, Option.map_none]
  | cons text later ih =>
    have hviolation := refusal_readLine hm text number
    rcases hread : (m.readLine text number).refusal with - | refusal
    · rw [readLines_of_accepted hread]
      exact ih (not_halted_of_accepted hm hread) _
    · rw [readLines_of_refused hread, ← hviolation, hread]

/-- A monitor that accepted all lines has not halted on them. -/
theorem not_halted_of_readLines (hm : m.isHalted = false) {number : Nat} {texts : List String}
    (h : (m.readLines number texts).refusal = none) :
    (m.readLines number texts).monitor.isHalted = false := by
  rw [refusal_readLines hm] at h
  exact isHalted_eq_false_iff.mpr (Option.map_eq_none_iff.mp h)

/-- A monitor that had not halted counts every line that is read. -/
theorem linesSeen_readLines (hm : m.isHalted = false) (number : Nat) (texts : List String) :
    (m.readLines number texts).monitor.linesSeen = m.linesSeen + (m.readLines number texts).count := by
  induction texts generalizing m number with
  | nil => rfl
  | cons text later ih =>
    have hline : (m.readLine text number).monitor.linesSeen = m.linesSeen + 1 := by
      rw [linesSeen_readLine, hm]
      rfl
    rcases hread : (m.readLine text number).refusal with - | refusal
    · rw [readLines_of_accepted hread, Course.next, ih (not_halted_of_accepted hm hread), hline,
        Nat.add_assoc, Nat.add_comm 1]
    · rw [readLines_of_refused hread]
      exact hline

/-- A line that is refused is the last that is read, and those before it are accepted. -/
theorem exists_of_refused {number : Nat} {texts : List String} {refusal : Refusal}
    (h : (m.readLines number texts).refusal = some refusal) :
    ∃ earlier last later, texts = earlier ++ last :: later ∧
      (m.readLines number texts).count = earlier.length + 1 ∧
      (m.readLines number earlier).refusal = none ∧
      ((m.readLines number earlier).monitor.readLine last (number + earlier.length)).refusal = some refusal ∧
      ((m.readLines number earlier).monitor.readLine last (number + earlier.length)).monitor
        = (m.readLines number texts).monitor := by
  induction texts generalizing m number with
  | nil => cases h
  | cons text others ih =>
    rcases hread : (m.readLine text number).refusal with - | refusal'
    · rw [readLines_of_accepted hread] at h ⊢
      obtain ⟨earlier, last, later, rfl, hcount, haccepted, hrefused, hmonitor⟩ := ih h
      refine ⟨text :: earlier, last, later, rfl, congrArg (· + 1) hcount, ?_⟩
      rw [readLines_of_accepted hread, List.length_cons, Nat.add_comm earlier.length, ← Nat.add_assoc]
      exact ⟨haccepted, hrefused, hmonitor⟩
    · rw [readLines_of_refused hread] at h ⊢
      exact ⟨[], text, others, rfl, rfl, rfl, hread.trans h, rfl⟩

/-- Lines without markers are only counted. -/
theorem readLines_of_unmarked (hm : m.isHalted = false) (number : Nat) {texts : List String}
    (h : ∀ text ∈ texts, Marker.carriedBy text = []) :
    m.readLines number texts
      = ⟨{ m with linesSeen := m.linesSeen + texts.length }, texts.length, none⟩ := by
  induction texts generalizing m number with
  | nil => rfl
  | cons text later ih =>
    obtain ⟨htext, hlater⟩ := List.forall_mem_cons.mp h
    have hread : m.readLine text number = ⟨[], none, { m with linesSeen := m.linesSeen + 1 }⟩ := by
      rw [readLine_of_not_halted hm, htext]
      rfl
    have haccepted : (m.readLine text number).refusal = none := by
      rw [hread]
    have hnext : (m.readLine text number).monitor.isHalted = false := by
      rw [hread]
      exact hm
    rw [readLines_of_accepted haccepted, ih hnext _ hlater, hread, Course.next, List.length_cons,
      Nat.add_assoc, Nat.add_comm 1]

/-! ### Lines after lines -/

/-- The course on which so many more lines were read before. -/
def Course.after (before : Nat) (course : Course) : Course :=
  { course with count := before + course.count }

/-- **Lines after lines that were all accepted are read on.** -/
theorem readLines_append {number : Nat} {texts : List String}
    (h : (m.readLines number texts).refusal = none) (later : List String) :
    m.readLines number (texts ++ later)
      = ((m.readLines number texts).monitor.readLines (number + texts.length) later).after
          texts.length := by
  induction texts generalizing m number with
  | nil => simp [Course.after]
  | cons text others ih =>
    rcases hread : (m.readLine text number).refusal with - | refusal
    · rw [readLines_of_accepted hread] at h ⊢
      rw [List.cons_append, readLines_of_accepted hread, ih h]
      simp only [Course.next, Course.after, List.length_cons, Nat.add_assoc, Nat.add_comm 1]
    · rw [readLines_of_refused hread] at h
      cases h

/-- Nothing is read after a line that was refused. -/
theorem readLines_append_of_refused {number : Nat} {texts : List String} {refusal : Refusal}
    (h : (m.readLines number texts).refusal = some refusal) (later : List String) :
    m.readLines number (texts ++ later) = m.readLines number texts := by
  induction texts generalizing m number with
  | nil => cases h
  | cons text others ih =>
    rw [List.cons_append]
    rcases hread : (m.readLine text number).refusal with - | refusal'
    · rw [readLines_of_accepted hread] at h ⊢
      rw [readLines_of_accepted hread, ih h]
    · rw [readLines_of_refused hread, readLines_of_refused hread]

end CheckpointMonitor.Monitor

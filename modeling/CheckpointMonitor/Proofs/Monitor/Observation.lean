/-
CheckpointMonitor/Proofs/Monitor/Observation.lean

What a marker and a line can do to a monitor, said once.  `observeAt_cases` lists
the four things that a marker can do, with the guards under which they are done;
whatever holds of a monitor after a marker follows from it, and `observeAt` is not
opened again.

A line is a row of markers, so a property that every marker keeps is kept by every
line (`readMarkers_preserves`).  Two facts about lines are used all over: a monitor
that had not halted refuses a line exactly if it halts on it, and the refusal is
the violation that it then holds (`refusal_readLine`); and a line is counted
exactly if the monitor had not halted before (`linesSeen_readLine`).
-/
import CheckpointMonitor.Monitor

namespace CheckpointMonitor.Monitor

variable {m : Monitor} {line : Option Nat}

/-! ### Halting -/

theorem isHalted_eq_false_iff : m.isHalted = false ↔ m.violation = none := by
  simp [isHalted]

@[simp] theorem phase_enter (m : Monitor) (p : Phase) : (m.enter p).phase = p := rfl

@[simp] theorem tally_enter (m : Monitor) (p : Phase) :
    (m.enter p).tally = m.tally.enter p := rfl

@[simp] theorem cyclesCompleted_enter (m : Monitor) (p : Phase) :
    (m.enter p).cyclesCompleted
      = if p = .idle then m.cyclesCompleted + 1 else m.cyclesCompleted := rfl

@[simp] theorem violation_enter (m : Monitor) (p : Phase) :
    (m.enter p).violation = m.violation := rfl

@[simp] theorem linesSeen_enter (m : Monitor) (p : Phase) :
    (m.enter p).linesSeen = m.linesSeen := rfl

@[simp] theorem violation_halt (m : Monitor) (v : Violation) :
    (m.halt v).violation = some v := rfl

@[simp] theorem linesSeen_halt (m : Monitor) (v : Violation) :
    (m.halt v).linesSeen = m.linesSeen := rfl

/-! ### A marker -/

theorem observeAt_of_halted (hm : m.isHalted = true) (k : Marker) :
    observeAt line m k = (.error .halted, m) := by
  simp [observeAt, hm]

theorem observeAt_of_advance {k : Marker} {p : Phase} (hm : m.isHalted = false)
    (ha : m.phase.answer k = .advance p) :
    observeAt line m k = (.ok (.advanced k m.phase p), m.enter p) := by
  simp [observeAt, hm, ha]

theorem observeAt_of_ignore {k : Marker} (hm : m.isHalted = false)
    (ha : m.phase.answer k = .ignore) :
    observeAt line m k = (.ok (.ignored k m.phase), m) := by
  simp [observeAt, hm, ha]

theorem observeAt_of_refuse {k : Marker} (hm : m.isHalted = false)
    (ha : m.phase.answer k = .refuse) :
    observeAt line m k
      = (.error (.violation ⟨k, m.phase, line⟩), m.halt ⟨k, m.phase, line⟩) := by
  simp [observeAt, hm, ha]

/-- **What a marker can do.**  A halted monitor refuses it and stays as it is; any other does what
its phase answers. -/
theorem observeAt_cases (line : Option Nat) (m : Monitor) (k : Marker) :
    (m.isHalted = true ∧ observeAt line m k = (.error .halted, m)) ∨
    (∃ p, m.isHalted = false ∧ m.phase.answer k = .advance p ∧
      observeAt line m k = (.ok (.advanced k m.phase p), m.enter p)) ∨
    (m.isHalted = false ∧ m.phase.answer k = .ignore ∧
      observeAt line m k = (.ok (.ignored k m.phase), m)) ∨
    (m.isHalted = false ∧ m.phase.answer k = .refuse ∧
      observeAt line m k
        = (.error (.violation ⟨k, m.phase, line⟩), m.halt ⟨k, m.phase, line⟩)) := by
  rcases hm : m.isHalted with - | -
  · refine Or.inr ?_
    rcases ha : m.phase.answer k with p | - | -
    · exact Or.inl ⟨p, rfl, rfl, observeAt_of_advance hm ha⟩
    · exact Or.inr (Or.inl ⟨rfl, rfl, observeAt_of_ignore hm ha⟩)
    · exact Or.inr (Or.inr ⟨rfl, rfl, observeAt_of_refuse hm ha⟩)
  · exact Or.inl ⟨rfl, observeAt_of_halted hm k⟩

/-- No marker is counted as a line. -/
@[simp] theorem linesSeen_observeAt (line : Option Nat) (m : Monitor) (k : Marker) :
    (observeAt line m k).2.linesSeen = m.linesSeen := by
  rcases observeAt_cases line m k with ⟨-, h⟩ | ⟨p, -, -, h⟩ | ⟨-, -, h⟩ | ⟨-, -, h⟩ <;>
    simp [h]

/-! ### The markers of a line -/

/-- What every marker keeps is kept by the markers of a line. -/
theorem readMarkers_preserves {P : Monitor → Prop}
    (hstep : ∀ m k, P m → P (observeAt line m k).2) (h : P m) (ks : List Marker) :
    P (readMarkers line m ks).monitor := by
  induction ks generalizing m with
  | nil => exact h
  | cons k ks ih =>
    have hk := hstep m k h
    rcases observeAt_cases line m k with ⟨-, e⟩ | ⟨p, -, -, e⟩ | ⟨-, -, e⟩ | ⟨-, -, e⟩ <;>
      rw [e] at hk
    · simpa [readMarkers, e] using hk
    · simpa [readMarkers, e, Transition.isIgnored, Reading.after] using ih hk
    · simpa [readMarkers, e, Transition.isIgnored] using hk
    · simpa [readMarkers, e] using hk

theorem linesSeen_readMarkers (m : Monitor) (ks : List Marker) :
    (readMarkers line m ks).monitor.linesSeen = m.linesSeen :=
  readMarkers_preserves (P := fun m' => m'.linesSeen = m.linesSeen)
    (fun m' k h => by rw [linesSeen_observeAt, h]) rfl ks

/-- The markers of a line are refused exactly if the monitor halts on them, and the refusal is the
violation that it then holds. -/
theorem refusal_readMarkers (hm : m.isHalted = false) (ks : List Marker) :
    (readMarkers line m ks).refusal
      = (readMarkers line m ks).monitor.violation.map .violation := by
  induction ks generalizing m with
  | nil => simp [readMarkers, isHalted_eq_false_iff.mp hm]
  | cons k ks ih =>
    rcases observeAt_cases line m k with ⟨hh, -⟩ | ⟨p, -, -, e⟩ | ⟨-, -, e⟩ | ⟨-, -, e⟩
    · simp [hm] at hh
    · have hp : (m.enter p).isHalted = false := hm
      simpa [readMarkers, e, Transition.isIgnored, Reading.after] using ih hp
    · simp [readMarkers, e, Transition.isIgnored, isHalted_eq_false_iff.mp hm]
    · simp [readMarkers, e]

/-! ### A line -/

theorem readLine_of_halted (hm : m.isHalted = true) (text : String) (n : Nat) :
    m.readLine text n = ⟨[], some .halted, m⟩ := by
  simp [readLine, hm]

theorem readLine_of_not_halted (hm : m.isHalted = false) (text : String) (n : Nat) :
    m.readLine text n
      = readMarkers (some n) { m with linesSeen := m.linesSeen + 1 } (Marker.carriedBy text) := by
  simp [readLine, hm]

/-- A monitor that had not halted refuses a line exactly if it halts on it. -/
theorem refusal_readLine (hm : m.isHalted = false) (text : String) (n : Nat) :
    (m.readLine text n).refusal = (m.readLine text n).monitor.violation.map .violation := by
  rw [readLine_of_not_halted hm]
  exact refusal_readMarkers (m := { m with linesSeen := m.linesSeen + 1 }) hm _

/-- A line is counted exactly if the monitor had not halted before. -/
theorem linesSeen_readLine (m : Monitor) (text : String) (n : Nat) :
    (m.readLine text n).monitor.linesSeen = m.linesSeen + if m.isHalted then 0 else 1 := by
  rcases hm : m.isHalted with - | -
  · rw [readLine_of_not_halted hm, linesSeen_readMarkers]
    simp
  · rw [readLine_of_halted hm]
    simp

end CheckpointMonitor.Monitor

/-
CheckpointMonitor/Proofs/Monitor/Verdict.lean

What lines come to, when only their markers are looked at.

`groups` are the markers of the lines, line by line, with nothing left of the lines that carry
none.  `verdict` reads such groups up to the first in which a marker is refused; there are no
lines in it, no texts and no numbers.  The reading of lines is the verdict on their groups, and
all that it adds is how many lines were seen and the number of the line that was refused
(`judged`).

The induction is on the lines.  A line without markers is counted and changes nothing else, so
it is carried along in the count of the lines seen; for this the count stands beside the
monitor, and is not the monitor's own.
-/
import CheckpointMonitor.Proofs.Monitor.Course
import CheckpointMonitor.Proofs.Monitor.Trail

namespace CheckpointMonitor

/-- The markers of the lines that carry any, line by line. -/
def Marker.groups (texts : List String) : List (List Marker) :=
  (texts.map carriedBy).filter (· ≠ [])

namespace Monitor

variable {m : Monitor} {text : String} {ks : List Marker}

/-! ### Groups of markers -/

/-- What the reading of groups of markers came to. -/
structure Verdict where
  /-- What the accepted markers did, those before a refused one in its group included. -/
  transitions : List Transition
  /-- The monitor afterwards. -/
  monitor : Monitor
  /-- How many groups were read, a refused one included. -/
  position : Nat

/-- The verdict after one more group was read before. -/
def Verdict.after (reading : Reading) (verdict : Verdict) : Verdict :=
  ⟨reading.accepted ++ verdict.transitions, verdict.monitor, verdict.position + 1⟩

/-- Reads groups of markers, up to the first in which one is refused. -/
def verdict (m : Monitor) : List (List Marker) → Verdict
  | [] => ⟨[], m, 0⟩
  | ks :: later =>
    let reading := readMarkers none m ks
    match reading.refusal with
    | none => (reading.monitor.verdict later).after reading
    | some _ => ⟨reading.accepted, reading.monitor, 1⟩

theorem verdict_of_accepted (h : (readMarkers none m ks).refusal = none) (later : List (List Marker)) :
    m.verdict (ks :: later)
      = ((readMarkers none m ks).monitor.verdict later).after (readMarkers none m ks) := by
  rw [verdict]
  rw [h]

theorem verdict_of_refused {refusal : Refusal} (h : (readMarkers none m ks).refusal = some refusal)
    (later : List (List Marker)) :
    m.verdict (ks :: later) = ⟨(readMarkers none m ks).accepted, (readMarkers none m ks).monitor, 1⟩ := by
  rw [verdict]
  rw [h]

/-! ### Refusals and halting -/

/-- Markers that are refused have halted the monitor. -/
theorem halted_of_refused {reading : Reading} {refusal : Refusal}
    (h : reading.refusal = reading.monitor.violation.map .violation)
    (hrefused : reading.refusal = some refusal) : reading.monitor.isHalted = true := by
  obtain ⟨v, hv, -⟩ := Option.map_eq_some_iff.mp (h.symm.trans hrefused)
  rw [isHalted, hv]
  rfl

/-- Markers that are accepted have not. -/
theorem not_halted_of_readMarkers (hm : m.isHalted = false) (h : (readMarkers none m ks).refusal = none) :
    (readMarkers none m ks).monitor.isHalted = false := by
  rw [refusal_readMarkers hm] at h
  exact isHalted_eq_false_iff.mpr (Option.map_eq_none_iff.mp h)

/-! ### Rows of lines -/

/-- The showing of lines one after another, with their numbers, the first of which is given. -/
def Act.ofLines (number : Nat) : List String → List Act
  | [] => []
  | text :: later => .readLine text number :: ofLines (number + 1) later

theorem Act.ofLines_append (number : Nat) (texts later : List String) :
    ofLines number (texts ++ later) = ofLines number texts ++ ofLines (number + texts.length) later := by
  induction texts generalizing number with
  | nil => rfl
  | cons text others ih =>
    rw [List.cons_append, ofLines, ofLines, ih, List.cons_append, List.length_cons, Nat.add_right_comm]
    rfl

/-- Lines that are not read yield nothing. -/
theorem along_ofLines_take (hm : m.isHalted = false) (number : Nat) (texts : List String) :
    m.along transitions (Act.ofLines number (texts.take (m.readLines number texts).count))
      = m.along transitions (Act.ofLines number texts) := by
  induction texts generalizing m number with
  | nil => rfl
  | cons text later ih =>
    rcases hread : (m.readLine text number).refusal with - | refusal
    · rw [readLines_of_accepted hread, Course.next, List.take_succ_cons, Act.ofLines, Act.ofLines, along, along]
      exact congrArg _ (ih (not_halted_of_accepted hm hread) _)
    · have hhalted : (m.act (.readLine text number)).isHalted = true :=
        halted_of_refused (refusal_readLine hm text number) hread
      rw [readLines_of_refused hread, List.take_succ_cons]
      simp only [Act.ofLines, along, along_of_halted (transitions_of_halted hhalted) hhalted]

/-! ### The verdict on lines -/

/-- A line is read as its markers are, with the count of the lines beside them. -/
theorem readLine_seen (hm : m.isHalted = false) (seen : Nat) (text : String) (n : Nat) :
    Monitor.readLine { m with linesSeen := seen } text n
      = { readMarkers none m (Marker.carriedBy text) with
          refusal := (readMarkers none m (Marker.carriedBy text)).refusal.map (·.atLine n)
          monitor := (readMarkers none m (Marker.carriedBy text)).monitor.onLine (seen + 1) n } := by
  have hseen : Monitor.isHalted { m with linesSeen := seen } = false := hm
  rw [readLine_of_not_halted hseen, ← readMarkers_onLine, onLine_of_not_halted hm]

theorem groups_cons_of_unmarked (h : Marker.carriedBy text = []) (later : List String) :
    Marker.groups (text :: later) = Marker.groups later := by
  simp [Marker.groups, h]

theorem groups_cons_of_marked (h : Marker.carriedBy text ≠ []) (later : List String) :
    Marker.groups (text :: later) = Marker.carriedBy text :: Marker.groups later := by
  simp [Marker.groups, h]

/-- The lines came to the verdict on their groups of markers, after so many lines were seen by the monitor
and so many came before. -/
structure Judged (m : Monitor) (seen before : Nat) (texts : List String) : Prop where
  monitor : (Monitor.readLines { m with linesSeen := seen } (before + 1) texts).monitor
    = (m.verdict (Marker.groups texts)).monitor.onLine
        (seen + (Monitor.readLines { m with linesSeen := seen } (before + 1) texts).count)
        (before + (Monitor.readLines { m with linesSeen := seen } (before + 1) texts).count)
  transitions : along transitions { m with linesSeen := seen } (Act.ofLines (before + 1) texts)
    = (m.verdict (Marker.groups texts)).transitions
  /-- The lines that were read have the groups that were read. -/
  groups : Marker.groups (texts.take (Monitor.readLines { m with linesSeen := seen } (before + 1) texts).count)
    = (Marker.groups texts).take (m.verdict (Marker.groups texts)).position

namespace Judged

variable {seen before : Nat} {later : List String}

theorem nil (hm : m.isHalted = false) : Judged m seen before [] where
  monitor := (onLine_of_not_halted hm seen before).symm
  transitions := rfl
  groups := rfl

/-- A line without markers is only counted. -/
theorem unmarked (hm : m.isHalted = false) (hks : Marker.carriedBy text = [])
    (h : Judged m (seen + 1) (before + 1) later) : Judged m seen before (text :: later) := by
  have hread := readLine_seen hm seen text (before + 1)
  rw [hks, readMarkers, Option.map_none, onLine_of_not_halted hm] at hread
  have hcourse := readLines_of_accepted (congrArg Reading.refusal hread) later
  have hgroups := groups_cons_of_unmarked hks
  rw [hread] at hcourse
  refine ⟨?_, ?_, ?_⟩
  · rw [hcourse, hgroups]
    exact h.monitor.trans
      (congrArg₂ (onLine _) (Nat.succ_add_eq_add_succ _ _) (Nat.succ_add_eq_add_succ _ _))
  · rw [Act.ofLines, along, Monitor.transitions, act, hread, hgroups]
    exact h.transitions
  · rw [hcourse, Course.next, List.take_succ_cons, hgroups, hgroups]
    exact h.groups

/-- A line whose markers are accepted is the first group that is read. -/
theorem accepted (hm : m.isHalted = false) (hks : Marker.carriedBy text ≠ [])
    (haccepted : (readMarkers none m (Marker.carriedBy text)).refusal = none)
    (h : Judged (readMarkers none m (Marker.carriedBy text)).monitor (seen + 1) (before + 1) later) :
    Judged m seen before (text :: later) := by
  have hread := readLine_seen hm seen text (before + 1)
  rw [haccepted, Option.map_none, onLine_of_not_halted (not_halted_of_readMarkers hm haccepted)] at hread
  have hcourse := readLines_of_accepted (congrArg Reading.refusal hread) later
  have hgroups := groups_cons_of_marked hks
  rw [hread] at hcourse
  refine ⟨?_, ?_, ?_⟩
  · rw [hcourse, hgroups, verdict_of_accepted haccepted]
    exact h.monitor.trans
      (congrArg₂ (onLine _) (Nat.succ_add_eq_add_succ _ _) (Nat.succ_add_eq_add_succ _ _))
  · rw [Act.ofLines, along, Monitor.transitions, act, hread, hgroups, verdict_of_accepted haccepted]
    exact congrArg _ h.transitions
  · rw [hcourse, Course.next, List.take_succ_cons, hgroups, hgroups, verdict_of_accepted haccepted, h.groups]
    rfl

/-- A line with a refused marker is the last group that is read. -/
theorem refused (hm : m.isHalted = false) (hks : Marker.carriedBy text ≠ []) {refusal : Refusal}
    (hrefused : (readMarkers none m (Marker.carriedBy text)).refusal = some refusal) :
    Judged m seen before (text :: later) := by
  have hread := readLine_seen hm seen text (before + 1)
  rw [hrefused, Option.map_some] at hread
  have hcourse := readLines_of_refused (congrArg Reading.refusal hread) later
  have hgroups := groups_cons_of_marked hks
  -- nothing is accepted after the refusal
  have hhalted := halted_of_refused (refusal_readMarkers hm _) hrefused
  rw [hread] at hcourse
  refine ⟨?_, ?_, ?_⟩
  · rw [hcourse, hgroups, verdict_of_refused hrefused]
  · have hafter := (isHalted_onLine _ (seen + 1) (before + 1)).trans hhalted
    rw [Act.ofLines, along, Monitor.transitions, act, hread, hgroups, verdict_of_refused hrefused,
      along_of_halted (transitions_of_halted hafter) hafter, List.append_nil]
  · rw [hcourse, List.take_succ_cons, hgroups, hgroups, verdict_of_refused hrefused]
    rfl

end Judged

/-- **Lines are read as their groups of markers are.** -/
theorem judged (hm : m.isHalted = false) (seen before : Nat) (texts : List String) :
    Judged m seen before texts := by
  induction texts generalizing m seen before with
  | nil => exact Judged.nil hm
  | cons text later ih =>
    by_cases hks : Marker.carriedBy text = []
    · exact Judged.unmarked hm hks (ih hm _ _)
    rcases hrefusal : (readMarkers none m (Marker.carriedBy text)).refusal with - | refusal
    · exact Judged.accepted hm hks hrefusal (ih (not_halted_of_readMarkers hm hrefusal) _ _)
    · exact Judged.refused hm hks hrefusal

end Monitor

end CheckpointMonitor

/-
CheckpointMonitor/Proofs/Monitor/Act.lean

The two things that are done to a monitor: it is shown a marker, or a line.  All
else that happens to one is a row of these acts, so a property of monitors is
proved for the two and then holds after any row of them (`actAll_preserves`).

The counters of a monitor and its phase hang together (`Consistent`).  A checkpoint
is begun by leaving the idle phase and completed by coming back to it, so there is
one more begun than completed, except in the idle phase; and in every checkpoint a
request is merged at most once, on the way into the queued phase.  A violation
leaves everything as it was when the refused marker came, so a violation that is
recorded is always about the phase in which the monitor stands.
-/
import CheckpointMonitor.Proofs.History
import CheckpointMonitor.Proofs.Monitor.Observation
import CheckpointMonitor.Proofs.Protocol.Table

namespace CheckpointMonitor.Monitor

variable {m : Monitor} {k : Marker} {p : Phase}

/-! ### Acts -/

/-- What is done to a monitor. -/
inductive Act where
  /-- It is shown a marker. -/
  | observe (marker : Marker)
  /-- It is shown a line with its number. -/
  | readLine (line : String) (number : Nat)

/-- Whether a line is shown. -/
def Act.isLine : Act → Bool
  | observe _ => false
  | readLine .. => true

/-- The monitor after an act. -/
def act (m : Monitor) : Act → Monitor
  | .observe k => (m.observe k).2
  | .readLine line number => (m.readLine line number).monitor

/-- The monitor after a row of acts. -/
def actAll (m : Monitor) (acts : List Act) : Monitor :=
  acts.foldl act m

@[simp] theorem actAll_nil (m : Monitor) : m.actAll [] = m := rfl

@[simp] theorem actAll_cons (m : Monitor) (a : Act) (acts : List Act) :
    m.actAll (a :: acts) = (m.act a).actAll acts := rfl

theorem actAll_append (m : Monitor) (acts acts' : List Act) :
    m.actAll (acts ++ acts') = (m.actAll acts).actAll acts' := List.foldl_append

/-- What every act keeps holds after any row of acts. -/
theorem actAll_preserves {P : Monitor → Prop} (hact : ∀ m a, P m → P (m.act a)) (h : P m)
    (acts : List Act) : P (m.actAll acts) := by
  induction acts generalizing m with
  | nil => exact h
  | cons a acts ih => exact ih (hact m a h)

/-! ### Lines -/

/-- The number of acts by which a line is shown to the monitor before it halts. -/
def linesCounted (m : Monitor) (acts : List Act) : Nat :=
  History.count (fun before a => a.isLine && !(m.actAll before).isHalted) acts

theorem linesSeen_act (m : Monitor) (a : Act) :
    (m.act a).linesSeen = m.linesSeen + if a.isLine && !m.isHalted then 1 else 0 := by
  cases a with
  | observe k => simp [act, observe, Act.isLine]
  | readLine line number =>
    rw [act, linesSeen_readLine]
    rcases m.isHalted <;> rfl

/-- A monitor counts the lines that it is shown before it halts. -/
theorem linesSeen_actAll (m : Monitor) (acts : List Act) :
    (m.actAll acts).linesSeen = m.linesSeen + m.linesCounted acts := by
  induction acts using List.reverseRecOn with
  | nil => rfl
  | append_singleton acts a ih =>
    rw [actAll_append, actAll_cons, actAll_nil, linesSeen_act, ih, Nat.add_assoc]
    exact congrArg _ (History.count_concat _ acts a).symm

/-! ### The counters -/

/-- How the counters of a monitor and its phase hang together. -/
structure Consistent (m : Monitor) : Prop where
  /-- One more checkpoint is begun than completed, except in the idle phase. -/
  recoveries : m.tally.recoveriesTriggered
    = m.cyclesCompleted + if m.phase = .idle then 0 else 1
  /-- Before a request can be merged, no more were merged than checkpoints completed. -/
  merged : m.phase = .idle ∨ m.phase = .triggered → m.tally.persistsQueued ≤ m.cyclesCompleted
  /-- After that, one more may have been merged. -/
  merged_cleared : m.phase = .bufferCleared → m.tally.persistsQueued ≤ m.cyclesCompleted + 1
  /-- In the queued phase one has been. -/
  merged_queued : m.phase = .queued →
    1 ≤ m.tally.persistsQueued ∧ m.tally.persistsQueued ≤ m.cyclesCompleted + 1
  /-- A recorded violation is about the monitor's phase, and a pair without a row. -/
  violation : ∀ v, m.violation = some v → v.phase = m.phase ∧ (v.phase, v.marker) ∉ Phase.rows

theorem Consistent.cycles_le_recoveries (h : Consistent m) :
    m.cyclesCompleted ≤ m.tally.recoveriesTriggered := by
  rw [h.recoveries]
  exact Nat.le_add_right _ _

theorem Consistent.merged_le_recoveries (h : Consistent m) :
    m.tally.persistsQueued ≤ m.tally.recoveriesTriggered := by
  rw [h.recoveries]
  cases hp : m.phase with
  | idle => exact h.merged (Or.inl hp)
  | triggered => exact Nat.le_succ_of_le (h.merged (Or.inr hp))
  | queued => exact (h.merged_queued hp).2
  | bufferCleared => exact h.merged_cleared hp

theorem consistent_new : Consistent {} where
  recoveries := rfl
  merged _ := le_rfl
  merged_cleared h := by cases h
  merged_queued h := by cases h
  violation v h := by cases h

/-- The counters go on to hang together when the protocol moves on. -/
theorem Consistent.enter (h : Consistent m) (hm : m.violation = none)
    (hk : m.phase.answer k = .advance p) : Consistent (m.enter p) := by
  have hv : ∀ v, (m.enter p).violation = some v →
      v.phase = (m.enter p).phase ∧ (v.phase, v.marker) ∉ Phase.rows := by
    intro v hv
    rw [violation_enter, hm] at hv
    cases hv
  have hrec := h.recoveries
  rcases Phase.answer_cases_of_advance hk with
    ⟨hp, -, rfl⟩ | ⟨hp, -, rfl⟩ | ⟨hp, -, rfl⟩ | ⟨hp, -, rfl⟩
  · -- from idle to triggered: a checkpoint is begun
    have hq := h.merged (Or.inl hp)
    rw [hp] at hrec
    exact ⟨by simpa [Tally.enter] using hrec, fun _ => hq, nofun, nofun, hv⟩
  · -- from triggered to queued: a request is merged
    have hq := h.merged (Or.inr hp)
    rw [hp] at hrec
    exact ⟨by simpa [Tally.enter] using hrec, nofun, nofun,
      fun _ => ⟨Nat.le_add_left _ _, Nat.succ_le_succ hq⟩, hv⟩
  · -- from triggered or queued to buffer cleared: nothing is counted
    have hq : m.tally.persistsQueued ≤ m.cyclesCompleted + 1 := by
      rcases hp with hp | hp
      · exact Nat.le_succ_of_le (h.merged (Or.inr hp))
      · exact (h.merged_queued hp).2
    have hne : m.phase ≠ .idle := by rcases hp with hp | hp <;> simp [hp]
    rw [if_neg hne] at hrec
    exact ⟨by simpa [Tally.enter] using hrec, nofun, fun _ => hq, nofun, hv⟩
  · -- from buffer cleared to idle: the checkpoint is completed
    have hq := h.merged_cleared hp
    rw [hp] at hrec
    exact ⟨by simpa [Tally.enter] using hrec, fun _ => hq, nofun, nofun, hv⟩

/-- A violation changes neither phase nor counters. -/
theorem Consistent.halt (h : Consistent m) {line : Option Nat} (hk : m.phase.answer k = .refuse) :
    Consistent (m.halt ⟨k, m.phase, line⟩) := by
  refine ⟨h.recoveries, h.merged, h.merged_cleared, h.merged_queued, ?_⟩
  intro v hv
  obtain rfl := Option.some.inj hv
  exact ⟨rfl, Phase.answer_eq_refuse_iff.mp hk⟩

theorem Consistent.observeAt (line : Option Nat) (m : Monitor) (k : Marker) (h : Consistent m) :
    Consistent (observeAt line m k).2 := by
  rcases observeAt_cases line m k with ⟨-, e⟩ | ⟨p, hm, hk, e⟩ | ⟨-, -, e⟩ | ⟨-, hk, e⟩ <;> rw [e]
  · exact h
  · exact h.enter (isHalted_eq_false_iff.mp hm) hk
  · exact h
  · exact h.halt hk

/-- Every act keeps the counters consistent, also one that is refused. -/
theorem Consistent.act (m : Monitor) (a : Act) (h : Consistent m) : Consistent (m.act a) := by
  cases a with
  | observe k => exact h.observeAt none m k
  | readLine line number =>
    rcases hm : m.isHalted with - | -
    · rw [Monitor.act, readLine_of_not_halted hm]
      -- the count of lines is no part of what hangs together
      have h' : Consistent { m with linesSeen := m.linesSeen + 1 } :=
        ⟨h.recoveries, h.merged, h.merged_cleared, h.merged_queued, h.violation⟩
      exact readMarkers_preserves (Consistent.observeAt _) h' _
    · rw [Monitor.act, readLine_of_halted hm]
      exact h

/-! ### How far the counters come -/

/-- The markers that an act shows to the monitor. -/
def Act.markers : Act → List Marker
  | observe k => [k]
  | readLine line _ => Marker.carriedBy line

theorem recoveries_observeAt_le (line : Option Nat) (m : Monitor) (k : Marker) :
    (observeAt line m k).2.tally.recoveriesTriggered ≤ m.tally.recoveriesTriggered + 1 := by
  rcases observeAt_cases line m k with ⟨-, e⟩ | ⟨p, -, -, e⟩ | ⟨-, -, e⟩ | ⟨-, -, e⟩ <;> rw [e]
  · exact Nat.le_succ _
  · rw [tally_enter]
    cases p <;> simp [Tally.enter]
  · exact Nat.le_succ _
  · exact Nat.le_succ _

theorem recoveries_readMarkers_le (line : Option Nat) (m : Monitor) (ks : List Marker) :
    (readMarkers line m ks).monitor.tally.recoveriesTriggered
      ≤ m.tally.recoveriesTriggered + ks.length := by
  induction ks generalizing m with
  | nil => exact Nat.le_refl _
  | cons k ks ih =>
    have hk := recoveries_observeAt_le line m k
    have hks := ih (observeAt line m k).2
    rw [readMarkers, List.length_cons]
    split
    · next e =>
      rw [e] at hk
      exact hk.trans (by omega)
    · next e =>
      rw [e] at hk hks
      split
      · exact hk.trans (by omega)
      · exact hks.trans (by omega)

theorem recoveries_act_le (m : Monitor) (a : Act) :
    (m.act a).tally.recoveriesTriggered ≤ m.tally.recoveriesTriggered + a.markers.length := by
  cases a with
  | observe k => exact recoveries_observeAt_le none m k
  | readLine line number =>
    rcases hm : m.isHalted with - | -
    · rw [act, readLine_of_not_halted hm]
      exact recoveries_readMarkers_le (some number) { m with linesSeen := m.linesSeen + 1 } _
    · rw [act, readLine_of_halted hm]
      exact Nat.le_add_right _ _

/-- No more checkpoints are begun than markers are shown. -/
theorem recoveries_actAll_le (m : Monitor) (acts : List Act) :
    (m.actAll acts).tally.recoveriesTriggered
      ≤ m.tally.recoveriesTriggered + (acts.flatMap Act.markers).length := by
  induction acts generalizing m with
  | nil => exact Nat.le_refl _
  | cons a acts ih =>
    rw [actAll_cons, List.flatMap_cons, List.length_append]
    have ha := recoveries_act_le m a
    have hacts := ih (m.act a)
    omega

end CheckpointMonitor.Monitor

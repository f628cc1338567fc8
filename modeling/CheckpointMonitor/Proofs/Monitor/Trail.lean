/-
CheckpointMonitor/Proofs/Monitor/Trail.lean

The trail that a monitor leaves: the markers that it evaluated, and what it put on record for
each.

A halted monitor evaluates nothing.  Any other evaluates the marker that it is shown, and of a
line the markers up to the first that is passed over or refused (`evaluated`).  `Trail` says of
a row of evaluated markers all that there is to say: there is a transition for each of them,
each one a row of the table and each from where the one before it led, and the counters count
those that lead from one certain phase to another; only the last may have been refused, and
then it is the one of the recorded violation.

Trails compose as long as nothing is refused (`Trail.trans`), so from the one of a marker come
those of a line and of any row of acts (`trail_actAll`).  What is put on record on the way is
read off the transitions and the violation, and so the records account for the counters, also
for what was counted on a line that was refused in the end.
-/
import CheckpointMonitor.Log.Record
import CheckpointMonitor.Proofs.Monitor.Halting
import CheckpointMonitor.Proofs.Monitor.Line

namespace CheckpointMonitor

open Log (Record)

/-! ### Transitions as rows of the table -/

namespace Transition

theorem Linked.append {p q r : Phase} {ts ts' : List Transition} (h : Linked p ts q) (h' : Linked q ts' r) :
    Linked p (ts ++ ts') r := by
  induction ts generalizing p with
  | nil =>
    obtain rfl : p = q := h
    exact h'
  | cons t ts ih => exact ⟨h.1, ih h.2⟩

/-- The transition is what the table answers. -/
def IsRow : Transition → Prop
  | advanced marker before after => before.answer marker = .advance after
  | ignored marker phase => phase.answer marker = .ignore

/-- Whether the transition led on from the one phase to the other. -/
def moves (p q : Phase) : Transition → Bool
  | advanced _ before after => before = p && after = q
  | ignored .. => false

end Transition

namespace Monitor

variable {m m' m'' : Monitor} {k : Marker} {ks ks' : List Marker} {ts ts' : List Transition} {p : Phase}
variable {α : Type}

/-! ### Row by row -/

/-- Going from the one monitor to the other the markers were evaluated, with these transitions. -/
structure Trail (m : Monitor) (ks : List Marker) (ts : List Transition) (m' : Monitor) : Prop where
  /-- There is a transition for each marker, unless the last was refused. -/
  markers : ts.map Transition.marker ++ (m'.violation.map Violation.marker).toList = ks
  rows : ∀ t ∈ ts, t.IsRow
  linked : Transition.Linked m.phase ts m'.phase
  /-- The refused marker has no row in the phase that the transitions led to. -/
  refused : ∀ v, m'.violation = some v → v.phase = m'.phase ∧ v.phase.answer v.marker = .refuse
  recoveries : m'.tally.recoveriesTriggered
    = m.tally.recoveriesTriggered + ts.countP (Transition.moves .idle .triggered)
  queued : m'.tally.persistsQueued
    = m.tally.persistsQueued + ts.countP (Transition.moves .triggered .queued)
  cycles : m'.cyclesCompleted = m.cyclesCompleted + ts.countP (Transition.moves .bufferCleared .idle)

namespace Trail

theorem refl (hm : m.isHalted = false) : Trail m [] [] m where
  markers := by rw [isHalted_eq_false_iff.mp hm]; rfl
  rows := nofun
  linked := rfl
  refused v hv := by cases (isHalted_eq_false_iff.mp hm).symm.trans hv
  recoveries := rfl
  queued := rfl
  cycles := rfl

/-- **Trails compose** unless the first one ended on a refusal. -/
theorem trans (h : Trail m ks ts m') (hm' : m'.isHalted = false) (h' : Trail m' ks' ts' m'') :
    Trail m (ks ++ ks') (ts ++ ts') m'' where
  markers := by
    have hall := h.markers
    rw [isHalted_eq_false_iff.mp hm', Option.map_none, Option.toList_none, List.append_nil] at hall
    rw [List.map_append, List.append_assoc, hall, h'.markers]
  rows t ht := (List.mem_append.mp ht).elim (h.rows t) (h'.rows t)
  linked := h.linked.append h'.linked
  refused := h'.refused
  recoveries := by rw [h'.recoveries, h.recoveries, List.countP_append, Nat.add_assoc]
  queued := by rw [h'.queued, h.queued, List.countP_append, Nat.add_assoc]
  cycles := by rw [h'.cycles, h.cycles, List.countP_append, Nat.add_assoc]

/-- The counters count the rows that lead to where a checkpoint is begun, merged or completed. -/
theorem counts_of_advance (hk : m.phase.answer k = .advance p) :
    (m.enter p).tally.recoveriesTriggered = m.tally.recoveriesTriggered
        + [Transition.advanced k m.phase p].countP (Transition.moves .idle .triggered) ∧
      (m.enter p).tally.persistsQueued = m.tally.persistsQueued
        + [Transition.advanced k m.phase p].countP (Transition.moves .triggered .queued) ∧
      (m.enter p).cyclesCompleted = m.cyclesCompleted
        + [Transition.advanced k m.phase p].countP (Transition.moves .bufferCleared .idle) := by
  rcases Phase.answer_cases_of_advance hk with ⟨hp, -, rfl⟩ | ⟨hp, -, rfl⟩ | ⟨hp | hp, -, rfl⟩ | ⟨hp, -, rfl⟩ <;>
    simp [Tally.enter, Transition.moves, hp]

/-- A marker with which the table moves on leaves its row. -/
theorem advance (hm : m.isHalted = false) (hk : m.phase.answer k = .advance p) :
    Trail m [k] [.advanced k m.phase p] (m.enter p) where
  markers := by
    rw [violation_enter, isHalted_eq_false_iff.mp hm]
    rfl
  rows := by
    rintro t ht
    obtain rfl := List.mem_singleton.mp ht
    exact hk
  linked := ⟨rfl, rfl⟩
  refused v hv := by cases (isHalted_eq_false_iff.mp hm).symm.trans hv
  recoveries := (counts_of_advance hk).1
  queued := (counts_of_advance hk).2.1
  cycles := (counts_of_advance hk).2.2

theorem ignore (hm : m.isHalted = false) (hk : m.phase.answer k = .ignore) :
    Trail m [k] [.ignored k m.phase] m where
  markers := by
    rw [isHalted_eq_false_iff.mp hm]
    rfl
  rows := by
    rintro t ht
    obtain rfl := List.mem_singleton.mp ht
    exact hk
  linked := ⟨rfl, rfl⟩
  refused v hv := by cases (isHalted_eq_false_iff.mp hm).symm.trans hv
  recoveries := rfl
  queued := rfl
  cycles := rfl

theorem refuse (hk : m.phase.answer k = .refuse) (line : Option Nat) :
    Trail m [k] [] (m.halt ⟨k, m.phase, line⟩) where
  markers := rfl
  rows := nofun
  linked := rfl
  refused v hv := by
    obtain rfl := Option.some.inj hv
    exact ⟨rfl, hk⟩
  recoveries := rfl
  queued := rfl
  cycles := rfl

/-- The number of a line is no part of a trail. -/
theorem onLine (h : Trail m ks ts m') (seen n : Nat) : Trail m ks ts (m'.onLine seen n) where
  markers := by
    rw [← h.markers, Monitor.onLine, Option.map_map]
    rfl
  rows := h.rows
  linked := h.linked
  refused v hv := by
    obtain ⟨u, hu, rfl⟩ := Option.map_eq_some_iff.mp hv
    exact h.refused u hu
  recoveries := h.recoveries
  queued := h.queued
  cycles := h.cycles

end Trail

/-- A line leaves the trail of its markers, as far as they are shown. -/
theorem trail_readMarkers (hm : m.isHalted = false) (ks : List Marker) :
    Trail m (m.shown ks) (readMarkers none m ks).accepted (readMarkers none m ks).monitor := by
  induction ks generalizing m with
  | nil => exact Trail.refl hm
  | cons k ks ih =>
    rw [readMarkers]
    rcases hk : m.phase.answer k with p | - | -
    · -- the line is read on
      have hobserve : m.observe k = (.ok (.advanced k m.phase p), m.enter p) := observeAt_of_advance hm hk
      have hp : (m.enter p).isHalted = false := hm
      rw [shown_cons (by rw [hobserve]; rfl), hobserve, observeAt_of_advance hm hk]
      exact (Trail.advance hm hk).trans hp (ih hp)
    · have hobserve : m.observe k = (.ok (.ignored k m.phase), m) := observeAt_of_ignore hm hk
      rw [shown_cons_of_ends (by rw [hobserve]; rfl), observeAt_of_ignore hm hk]
      exact Trail.ignore hm hk
    · have hobserve : m.observe k = (.error (.violation ⟨k, m.phase, none⟩), m.halt ⟨k, m.phase, none⟩) :=
        observeAt_of_refuse hm hk
      rw [shown_cons_of_ends (by rw [hobserve]; rfl), observeAt_of_refuse hm hk]
      exact Trail.refuse hk none

/-! ### What is evaluated, and what is put on record -/

/-- What the acts yield one after another, each at the monitor that the ones before it left. -/
def along (f : Monitor → Act → List α) (m : Monitor) : List Act → List α
  | [] => []
  | a :: acts => f m a ++ along f (m.act a) acts

theorem along_append (f : Monitor → Act → List α) (m : Monitor) (acts acts' : List Act) :
    m.along f (acts ++ acts') = m.along f acts ++ (m.actAll acts).along f acts' := by
  induction acts generalizing m with
  | nil => rfl
  | cons a acts ih => rw [List.cons_append, along, along, ih, List.append_assoc, actAll_cons]

/-- What a halted monitor does not yield on one act, it does not yield on any. -/
theorem along_of_halted {f : Monitor → Act → List α} (hf : ∀ a, f m a = []) (hm : m.isHalted = true)
    (acts : List Act) : m.along f acts = [] := by
  induction acts with
  | nil => rfl
  | cons a acts ih => rw [along, hf, act_of_halted hm, ih, List.nil_append]

/-- The markers that a monitor evaluates on an act: none when it has halted, and of a line those up to
the first that is passed over or refused. -/
def evaluated (m : Monitor) : Act → List Marker
  | .observe k => if m.isHalted then [] else [k]
  | .readLine text _ => if m.isHalted then [] else m.shown (Marker.carriedBy text)

/-- What the markers did that a monitor accepted on an act, also if the act was refused in the end. -/
def transitions (m : Monitor) : Act → List Transition
  | .observe k => (m.observe k).1.toOption.toList
  | .readLine text n => (m.readLine text n).accepted

/-- What an act leaves in the log. -/
def records (m : Monitor) : Act → List Record
  | .observe k => Record.ofObservation (m.observe k).1
  | .readLine text n => Record.ofReading (m.readLine text n)

theorem evaluated_of_halted (hm : m.isHalted = true) (a : Act) : m.evaluated a = [] := by
  cases a <;> exact if_pos hm

theorem transitions_of_halted (hm : m.isHalted = true) (a : Act) : m.transitions a = [] := by
  cases a with
  | observe k => rw [transitions, observe, observeAt_of_halted hm]; rfl
  | readLine text n => rw [transitions, readLine_of_halted hm]

theorem records_of_halted (hm : m.isHalted = true) (a : Act) : m.records a = [] := by
  cases a with
  | observe k => rw [records, observe, observeAt_of_halted hm]; rfl
  | readLine text n => rw [records, readLine_of_halted hm]; rfl

/-- The records of transitions and of the violation on which the monitor halted, if it did. -/
def accountOf (ts : List Transition) (violation : Option Violation) : List Record :=
  ts.map Record.ofTransition ++ (violation.map Record.violation).toList

/-- A marker leaves its trail, and the record of it. -/
theorem trail_observe (hm : m.isHalted = false) (k : Marker) :
    Trail m [k] (m.observe k).1.toOption.toList (m.observe k).2 ∧
      Record.ofObservation (m.observe k).1
        = accountOf (m.observe k).1.toOption.toList (m.observe k).2.violation := by
  rw [observe]
  rcases hk : m.phase.answer k with p | - | -
  · rw [observeAt_of_advance hm hk]
    refine ⟨Trail.advance hm hk, ?_⟩
    rw [accountOf, violation_enter, isHalted_eq_false_iff.mp hm]
    rfl
  · rw [observeAt_of_ignore hm hk]
    refine ⟨Trail.ignore hm hk, ?_⟩
    rw [accountOf, isHalted_eq_false_iff.mp hm]
    rfl
  · rw [observeAt_of_refuse hm hk]
    exact ⟨Trail.refuse hk none, rfl⟩

/-- A line leaves its trail, and the records of it. -/
theorem trail_readLine (hm : m.isHalted = false) (text : String) (n : Nat) :
    Trail m (m.shown (Marker.carriedBy text)) (m.readLine text n).accepted (m.readLine text n).monitor ∧
      Record.ofReading (m.readLine text n)
        = accountOf (m.readLine text n).accepted (m.readLine text n).monitor.violation := by
  constructor
  · rw [readLine_eq hm]
    exact (trail_readMarkers hm _).onLine _ _
  · -- the refusal is the violation that the monitor then holds
    rw [Record.ofReading, refusal_readLine hm, accountOf]
    rcases (m.readLine text n).monitor.violation with - | v <;> rfl

/-- The marker that was refused stands on the line, and has no row in the phase to which the markers
before it led. -/
theorem carried_of_refused (hm : m.isHalted = false) {text : String} {n : Nat} {v : Violation}
    (h : (m.readLine text n).refusal = some (.violation v)) :
    v.marker.occursIn text = true ∧ v.phase = (m.readLine text n).monitor.phase ∧
      (v.phase, v.marker) ∉ Phase.rows := by
  rw [refusal_readLine hm] at h
  obtain ⟨u, hv, hu⟩ := Option.map_eq_some_iff.mp h
  obtain rfl := Refusal.violation.inj hu
  have htrail := (trail_readLine hm text n).1
  obtain ⟨hphase, hrefuse⟩ := htrail.refused u hv
  refine ⟨Marker.mem_carriedBy.mp ?_, hphase, Phase.answer_eq_refuse_iff.mp hrefuse⟩
  -- it is the last of the markers that were shown
  refine (prefix_shown m _).subset ?_
  rw [← htrail.markers, hv]
  exact List.mem_append_right _ (List.mem_singleton_self _)

theorem trail_act (hm : m.isHalted = false) (a : Act) :
    Trail m (m.evaluated a) (m.transitions a) (m.act a) ∧
      m.records a = accountOf (m.transitions a) (m.act a).violation := by
  cases a with
  | observe k =>
    rw [evaluated, hm]
    exact trail_observe hm k
  | readLine text n =>
    rw [evaluated, hm]
    exact trail_readLine hm text n

/-- **Every row of acts leaves a trail,** and the records of it: one for each evaluated marker. -/
theorem trail_actAll (hm : m.isHalted = false) (acts : List Act) :
    Trail m (m.along evaluated acts) (m.along transitions acts) (m.actAll acts) ∧
      m.along records acts = accountOf (m.along transitions acts) (m.actAll acts).violation := by
  induction acts generalizing m with
  | nil =>
    refine ⟨Trail.refl hm, ?_⟩
    rw [actAll_nil, isHalted_eq_false_iff.mp hm]
    rfl
  | cons a acts ih =>
    obtain ⟨htrail, hrecords⟩ := trail_act hm a
    rw [along, along, along, actAll_cons]
    rcases hact : (m.act a).isHalted with - | -
    · obtain ⟨htrail', hrecords'⟩ := ih hact
      refine ⟨htrail.trans hact htrail', ?_⟩
      rw [hrecords, hrecords', accountOf, accountOf, accountOf, isHalted_eq_false_iff.mp hact, Option.map_none,
        Option.toList_none, List.append_nil, List.map_append, List.append_assoc]
    · -- the monitor halted on this act, and the others leave nothing
      rw [along_of_halted (evaluated_of_halted hact) hact, along_of_halted (transitions_of_halted hact) hact,
        along_of_halted (records_of_halted hact) hact, actAll_of_halted hact]
      simp only [List.append_nil]
      exact ⟨htrail, hrecords⟩

end Monitor

end CheckpointMonitor

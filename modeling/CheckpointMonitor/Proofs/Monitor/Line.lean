/-
CheckpointMonitor/Proofs/Monitor/Line.lean

A line is read as if its markers were shown to the monitor one by one.

`shown` are the markers of a line up to the first that is passed over or refused.  What
the reading of the line accepts and refuses, and the monitor that it leaves, are what
`answers` and `observeAll` make of these (`readMarkers_eq`); the number of the line and
the count of the lines read are written down beside it and decide nothing
(`readMarkers_onLine`).

The markers of a line come in a fixed order, and only the first in this order is ever passed
over.  So a line on which a marker is passed over does nothing else
(`only_of_ignored`).
-/
import CheckpointMonitor.Proofs.Monitor.Acceptance

namespace CheckpointMonitor

/-! ### Transitions in a row -/

namespace Transition

/-- The phase in which the marker was accepted. -/
def before : Transition → Phase
  | advanced _ before _ => before
  | ignored _ phase => phase

/-- The phase to which the marker led. -/
def after : Transition → Phase
  | advanced _ _ after => after
  | ignored _ phase => phase

/-- The transitions lead from one phase to another, each from where the one before it led. -/
def Linked : Phase → List Transition → Phase → Prop
  | p, [], q => p = q
  | p, t :: ts, q => t.before = p ∧ Linked t.after ts q

end Transition

/-! ### The order of a line's markers -/

namespace Marker

/-- The markers stand in the order in which a line is read. -/
def Ordered (ks : List Marker) : Prop :=
  ks.Pairwise fun j k => all.idxOf j < all.idxOf k

theorem ordered_carriedBy (line : String) : Ordered (carriedBy line) := by
  have hall : Ordered all := by unfold Ordered; decide
  exact hall.filter _

theorem length_carriedBy_le (line : String) : (carriedBy line).length ≤ 4 :=
  List.length_filter_le _ all

/-- A request stands before all other markers. -/
theorem Ordered.request_notMem {k : Marker} {ks : List Marker} (h : Ordered (k :: ks)) :
    persistTriggered ∉ ks := by
  intro hmem
  exact absurd ((List.pairwise_cons.mp h).1 _ hmem) (Nat.not_lt_zero _)

end Marker

/-- A refusal that came on a line; a line known before is forgotten. -/
def Refusal.atLine (n : Nat) : Refusal → Refusal
  | .violation v => .violation (v.atLine n)
  | .halted => .halted

/-! ### Markers up to the end of a line's reading -/

namespace Monitor

variable {m : Monitor} {k : Marker} {ks : List Marker} {t : Transition} {ts : List Transition}

/-- Whether a line is not read on after the answer: the marker was passed over or refused. -/
def endsLine : Except Refusal Transition → Bool
  | .ok t => t.isIgnored
  | .error _ => true

/-- The markers up to the first that is passed over or refused. -/
def shown (m : Monitor) (ks : List Marker) : List Marker :=
  ks.take ((m.answers ks).findIdx endsLine + 1)

theorem prefix_shown (m : Monitor) (ks : List Marker) : m.shown ks <+: ks :=
  List.take_prefix _ ks

theorem shown_cons_of_ends (h : endsLine (m.observe k).1 = true) : m.shown (k :: ks) = [k] := by
  simp [shown, answers, List.findIdx_cons, h]

theorem shown_cons (h : endsLine (m.observe k).1 = false) :
    m.shown (k :: ks) = k :: (m.observe k).2.shown ks := by
  simp [shown, answers, List.findIdx_cons, h]

/-- **The markers of a line are read as far as they are shown.** -/
theorem readMarkers_eq (m : Monitor) (ks : List Marker) :
    (readMarkers none m ks).monitor = m.observeAll (m.shown ks) ∧
      m.answers (m.shown ks) = (readMarkers none m ks).accepted.map .ok
        ++ ((readMarkers none m ks).refusal.map .error).toList := by
  induction ks generalizing m with
  | nil => exact ⟨rfl, rfl⟩
  | cons k ks ih =>
    rcases hobserve : observeAt none m k with ⟨refusal | t, m'⟩
    · -- refused
      have hfst : m.observe k = (.error refusal, m') := hobserve
      rw [readMarkers, hobserve, shown_cons_of_ends (by rw [hfst]; rfl), answers, hfst]
      exact ⟨congrArg Prod.snd hfst.symm, rfl⟩
    have hfst : m.observe k = (.ok t, m') := hobserve
    rcases hignored : t.isIgnored with - | -
    · -- accepted, and read on
      obtain ⟨hmonitor, hanswers⟩ := ih m'
      have hends : endsLine (m.observe k).1 = false := by rw [hfst]; exact hignored
      rw [readMarkers, hobserve, shown_cons hends, answers, hfst]
      simp only [hignored, Bool.false_eq_true, if_false, Reading.after, List.map_cons, List.cons_append]
      rw [hanswers, hmonitor]
      refine ⟨?_, rfl⟩
      rw [← List.singleton_append, observeAll_append]
      exact congrArg (fun m'' : Monitor => m''.observeAll (m'.shown ks)) (congrArg Prod.snd hfst.symm)
    · -- passed over
      have hends : endsLine (m.observe k).1 = true := by rw [hfst]; exact hignored
      rw [readMarkers, hobserve, shown_cons_of_ends hends, answers, hfst]
      simp only [hignored, if_true]
      exact ⟨congrArg Prod.snd hfst.symm, rfl⟩

/-! ### The number of a line -/

/-- The monitor, had it been on a line: so many lines are seen, and the line is noted with the
violation. -/
def onLine (m : Monitor) (seen n : Nat) : Monitor :=
  { m with linesSeen := seen, violation := m.violation.map (·.atLine n) }

theorem isHalted_onLine (m : Monitor) (seen n : Nat) : (m.onLine seen n).isHalted = m.isHalted := by
  simp [isHalted, onLine]

theorem onLine_of_not_halted (hm : m.isHalted = false) (seen n : Nat) :
    m.onLine seen n = { m with linesSeen := seen } := by
  rw [onLine, isHalted_eq_false_iff.mp hm]
  rfl

/-- The line is only noted with what a marker does. -/
theorem observeAt_onLine (m : Monitor) (seen n : Nat) (k : Marker) :
    observeAt (some n) (m.onLine seen n) k
      = ((m.observe k).1.mapError (·.atLine n), (m.observe k).2.onLine seen n) := by
  have hhalted := m.isHalted_onLine seen n
  rw [observe]
  rcases observeAt_cases none m k with ⟨hm, e⟩ | ⟨p, hm, ha, e⟩ | ⟨hm, ha, e⟩ | ⟨hm, ha, e⟩
  · rw [e, observeAt_of_halted (hhalted.trans hm)]
    rfl
  · rw [e, observeAt_of_advance (hhalted.trans hm) ha]
    rfl
  · rw [e, observeAt_of_ignore (hhalted.trans hm) ha]
    rfl
  · rw [e, observeAt_of_refuse (hhalted.trans hm) ha]
    rfl

/-- The line is only noted with what its markers do. -/
theorem readMarkers_onLine (m : Monitor) (seen n : Nat) (ks : List Marker) :
    readMarkers (some n) (m.onLine seen n) ks
      = { readMarkers none m ks with
          refusal := (readMarkers none m ks).refusal.map (·.atLine n)
          monitor := (readMarkers none m ks).monitor.onLine seen n } := by
  induction ks generalizing m with
  | nil => rfl
  | cons k ks ih =>
    have hobserve := m.observeAt_onLine seen n k
    rw [readMarkers, readMarkers, hobserve, observe]
    rcases observeAt none m k with ⟨refusal | t, m'⟩
    · rfl
    · simp only [Except.mapError]
      rcases t.isIgnored with - | -
      · simp only [Bool.false_eq_true, if_false, ih m', Reading.after]
      · simp only [if_true, Option.map_none]

theorem readLine_eq (hm : m.isHalted = false) (line : String) (n : Nat) :
    m.readLine line n
      = { readMarkers none m (Marker.carriedBy line) with
          refusal := (readMarkers none m (Marker.carriedBy line)).refusal.map (·.atLine n)
          monitor := (readMarkers none m (Marker.carriedBy line)).monitor.onLine (m.linesSeen + 1) n } := by
  rw [readLine_of_not_halted hm, ← onLine_of_not_halted hm _ n, readMarkers_onLine]

/-! ### Accepted markers -/

/-- An accepted marker leads on from the phase of the monitor. -/
theorem transition_of_observe (h : (m.observe k).1 = .ok t) :
    t.marker = k ∧ t.before = m.phase ∧ t.after = (m.observe k).2.phase ∧
      (t.isIgnored = true → k = .persistTriggered ∧ m.phase = .queued) := by
  rw [observe] at h ⊢
  rcases observeAt_cases none m k with ⟨-, e⟩ | ⟨p, -, -, e⟩ | ⟨-, ha, e⟩ | ⟨-, -, e⟩ <;> rw [e] at h ⊢
  · cases h
  · obtain rfl := Except.ok.inj h
    refine ⟨rfl, rfl, rfl, ?_⟩
    intro hignored
    cases hignored
  · obtain rfl := Except.ok.inj h
    obtain ⟨hp, hk⟩ := Phase.answer_cases_of_ignore ha
    exact ⟨rfl, rfl, rfl, fun _ => ⟨hk, hp⟩⟩
  · cases h

/-- Markers that are all accepted have one transition each, and these are linked. -/
theorem linked_of_answers (h : m.answers ks = ts.map .ok) :
    ts.map Transition.marker = ks ∧ Transition.Linked m.phase ts (m.observeAll ks).phase := by
  induction ks generalizing m ts with
  | nil =>
    obtain rfl := List.map_eq_nil_iff.mp h.symm
    exact ⟨rfl, rfl⟩
  | cons k ks ih =>
    rw [answers] at h
    obtain ⟨t, ts, rfl, ht, hts⟩ := List.map_eq_cons_iff.mp h.symm
    obtain ⟨hmarker, hbefore, hafter, -⟩ := transition_of_observe ht.symm
    obtain ⟨hmarkers, hlinked⟩ := ih hts.symm
    rw [← hafter] at hlinked
    exact ⟨by rw [List.map_cons, hmarker, hmarkers], hbefore, hlinked⟩

/-- Only a request is ever passed over. -/
theorem marker_of_ignored (h : m.answers ks = ts.map .ok) (ht : t ∈ ts) (hignored : t.isIgnored = true) :
    t.marker = .persistTriggered := by
  induction ks generalizing m ts with
  | nil =>
    obtain rfl := List.map_eq_nil_iff.mp h.symm
    cases ht
  | cons k ks ih =>
    rw [answers] at h
    obtain ⟨t', ts, rfl, ht', hts⟩ := List.map_eq_cons_iff.mp h.symm
    rcases List.mem_cons.mp ht with rfl | hmem
    · obtain ⟨hmarker, -, -, hrow⟩ := transition_of_observe ht'.symm
      exact hmarker.trans (hrow hignored).1
    · exact ih hts.symm hmem

/-- All markers are shown unless the last accepted one was passed over. -/
theorem shown_eq_or_duplicate (h : m.answers (m.shown ks) = ts.map .ok) :
    m.shown ks = ks ∨ Reading.endsOnDuplicate ts = true := by
  induction ks generalizing m ts with
  | nil => exact Or.inl rfl
  | cons k ks ih =>
    rcases hends : endsLine (m.observe k).1 with - | -
    · rw [shown_cons hends, answers] at h
      obtain ⟨t, ts, rfl, -, hts⟩ := List.map_eq_cons_iff.mp h.symm
      rw [shown_cons hends]
      rcases ih hts.symm with hall | hduplicate
      · exact Or.inl (by rw [hall])
      · right
        rcases ts with - | ⟨t', ts⟩
        · cases hduplicate
        · exact hduplicate
    · rw [shown_cons_of_ends hends, answers] at h
      obtain ⟨t, ts, rfl, ht, hts⟩ := List.map_eq_cons_iff.mp h.symm
      obtain rfl := List.map_eq_nil_iff.mp hts
      rw [← ht] at hends
      exact Or.inr hends

/-- **A marker that is passed over is the only one of its line.** -/
theorem only_of_ignored (hks : Marker.Ordered ks) (h : m.answers (m.shown ks) = ts.map .ok) (ht : t ∈ ts)
    (hignored : t.isIgnored = true) :
    ts = [t] ∧ m.phase = .queued ∧ .persistTriggered ∈ ks := by
  rcases ks with - | ⟨k, ks⟩
  · obtain rfl := List.map_eq_nil_iff.mp h.symm
    cases ht
  rcases hends : endsLine (m.observe k).1 with - | -
  · -- the first marker is not passed over, and no other can be
    rw [shown_cons hends, answers] at h
    obtain ⟨t', ts, rfl, ht', hts⟩ := List.map_eq_cons_iff.mp h.symm
    rcases List.mem_cons.mp ht with rfl | hmem
    · rw [← ht'] at hends
      cases hignored.symm.trans hends
    · have hmarker := marker_of_ignored hts.symm hmem hignored
      have hmarkers := (linked_of_answers hts.symm).1
      have hshown : Marker.persistTriggered ∈ (m.observe k).2.shown ks := by
        rw [← hmarkers, ← hmarker]
        exact List.mem_map_of_mem hmem
      exact absurd ((prefix_shown _ ks).subset hshown) hks.request_notMem
  · rw [shown_cons_of_ends hends, answers] at h
    -- the first marker is the last one shown
    obtain ⟨t', ts, rfl, ht', hts⟩ := List.map_eq_cons_iff.mp h.symm
    obtain rfl := List.map_eq_nil_iff.mp hts
    obtain rfl := List.mem_singleton.mp ht
    obtain ⟨-, -, -, hrow⟩ := transition_of_observe ht'.symm
    obtain ⟨rfl, hphase⟩ := hrow hignored
    exact ⟨rfl, hphase, List.mem_cons_self⟩

/-- **A request on a line that comes in the queued phase is passed over, and nothing else is done.** -/
theorem readMarkers_of_duplicate (hm : m.isHalted = false) (hks : Marker.Ordered ks)
    (hphase : m.phase = .queued) (hmem : .persistTriggered ∈ ks) :
    readMarkers none m ks = ⟨[.ignored .persistTriggered .queued], none, m⟩ := by
  obtain ⟨ks', rfl⟩ : ∃ ks', ks = .persistTriggered :: ks' := by
    rcases ks with - | ⟨k, ks'⟩
    · cases hmem
    rcases List.mem_cons.mp hmem with rfl | hmem
    · exact ⟨ks', rfl⟩
    · exact absurd hmem hks.request_notMem
  have hanswer : m.phase.answer .persistTriggered = .ignore := by rw [hphase]; rfl
  rw [readMarkers, observeAt_of_ignore hm hanswer, hphase]
  rfl

/-! ### A line and its markers -/

/-- Of the shown markers only the last can be refused, and the violation is the one that the monitor
then holds. -/
theorem answers_shown (hm : m.isHalted = false) (ks : List Marker) :
    m.answers (m.shown ks) = (readMarkers none m ks).accepted.map .ok
        ++ ((m.observeAll (m.shown ks)).violation.map fun v => .error (.violation v)).toList := by
  obtain ⟨hmonitor, hanswers⟩ := readMarkers_eq m ks
  rw [hanswers, refusal_readMarkers hm, hmonitor, Option.map_map]
  rfl

/-- A violation that comes on no line names none. -/
theorem line_of_observeAll (hm : m.isHalted = false) (ks : List Marker) {v : Violation}
    (hv : (m.observeAll ks).violation = some v) : v.line = none := by
  have hnone : ∀ u ∈ (m.observeAll ks).violation, u.line = none := by
    clear hv
    induction ks using List.reverseRecOn with
    | nil =>
      rw [observeAll_nil, isHalted_eq_false_iff.mp hm]
      exact nofun
    | append_singleton ks k ih =>
      rw [observeAll_concat, observe]
      rcases observeAt_cases none (m.observeAll ks) k with ⟨-, e⟩ | ⟨p, -, -, e⟩ | ⟨-, -, e⟩ | ⟨-, -, e⟩
      · rwa [e]
      · rwa [e]
      · rwa [e]
      · rw [e]
        rintro u ⟨⟩
        rfl
  exact hnone v hv

/-- **A line is read as its markers are, shown to the monitor one by one.**

Let a monitor that has not halted read a line.  The line carries at most four markers, in their fixed
order; let them be shown to the monitor one by one, up to the first that is passed over or refused.
Then the reading leaves the monitor that this leaves, with one more line seen and the line's number
noted with the violation, and answers with the transitions or, if the last marker was refused, with
the violation.

The transitions of an accepted line are those of the shown markers, which are all of them unless the
last was passed over; each begins in the phase to which the one before it led.  A transition that
passes a marker over is the only one of its line: this is so exactly for a line with a request that
comes in the queued phase, and then the monitor only counts the line. -/
theorem readLine_shows_markers (hm : m.isHalted = false) (line : String) (n : Nat) :
    let ks := Marker.carriedBy line
    let shown := m.shown ks
    let last := m.observeAll shown
    let reading := m.readLine line n
    (ks.length ≤ 4 ∧ ks.Pairwise fun j k => Marker.all.idxOf j < Marker.all.idxOf k) ∧
    reading.monitor
      = { last with linesSeen := m.linesSeen + 1, violation := last.violation.map (·.atLine n) } ∧
    (∀ v, last.violation = some v → v.line = none) ∧
    ∃ ts : List Transition,
      m.answers shown
        = ts.map .ok ++ (last.violation.map fun v => .error (.violation v)).toList ∧
      reading.result = (match last.violation with
        | none => .ok ts
        | some v => .error (.violation (v.atLine n))) ∧
      (last.violation = none →
        ts.map Transition.marker = shown ∧ shown <+: ks ∧
        (shown = ks ∨ Reading.endsOnDuplicate ts = true) ∧
        Transition.Linked m.phase ts reading.monitor.phase ∧
        ts.length ≤ 4 ∧
        (∀ t ∈ ts, t.isIgnored = true → ts = [t]) ∧
        (Reading.endsOnDuplicate ts = true ↔
          m.phase = .queued ∧ Marker.persistTriggered.occursIn line = true)) ∧
      (m.phase = .queued → Marker.persistTriggered.occursIn line = true →
        ts = [.ignored .persistTriggered .queued] ∧ reading.result = .ok ts ∧
        reading.monitor = { m with linesSeen := m.linesSeen + 1 }) := by
  intro ks shown last reading
  have hks : Marker.Ordered ks := Marker.ordered_carriedBy line
  obtain ⟨hmonitor, -⟩ := readMarkers_eq m ks
  have hreading := readLine_eq hm line n
  have hlast : reading.monitor = last.onLine (m.linesSeen + 1) n := by
    rw [show reading = _ from hreading]
    exact congrArg (fun m' : Monitor => m'.onLine (m.linesSeen + 1) n) hmonitor
  have hanswers := answers_shown hm ks
  -- a monitor that had not halted refuses a marker only by halting on it
  have hresult : reading.result = (match last.violation with
      | none => .ok (readMarkers none m ks).accepted
      | some v => .error (.violation (v.atLine n))) := by
    have hrefusal : (readMarkers none m ks).refusal = _ := refusal_readMarkers hm ks
    rw [hmonitor] at hrefusal
    rw [show reading = _ from hreading, Reading.result]
    dsimp only
    rw [hrefusal]
    show _ = match (m.observeAll (m.shown ks)).violation with | none => _ | some v => _
    cases (m.observeAll (m.shown ks)).violation <;> rfl
  refine ⟨⟨Marker.length_carriedBy_le line, hks⟩, hlast, fun v => line_of_observeAll hm shown,
    (readMarkers none m ks).accepted, hanswers, hresult, ?_, ?_⟩
  · intro hnone
    have hok : m.answers shown = (readMarkers none m ks).accepted.map .ok := by
      rw [hanswers, show (m.observeAll (m.shown ks)).violation = none from hnone]
      exact List.append_nil _
    obtain ⟨hmarkers, hlinked⟩ := linked_of_answers hok
    have hprefix := prefix_shown m ks
    refine ⟨hmarkers, hprefix, shown_eq_or_duplicate hok, ?_, ?_, ?_, ?_⟩
    · rw [hlast]
      exact hlinked
    · rw [← List.length_map Transition.marker, hmarkers]
      exact Nat.le_trans hprefix.length_le (Marker.length_carriedBy_le line)
    · intro t ht hignored
      exact (only_of_ignored hks hok ht hignored).1
    · constructor
      · intro hduplicate
        obtain ⟨t, ht, hignored⟩ := Option.any_eq_true _ _ |>.mp hduplicate
        obtain ⟨-, hphase, hmem⟩ := only_of_ignored hks hok (List.mem_of_getLast? ht) hignored
        exact ⟨hphase, Marker.mem_carriedBy.mp hmem⟩
      · rintro ⟨hphase, hoccurs⟩
        rw [readMarkers_of_duplicate hm hks hphase (Marker.mem_carriedBy.mpr hoccurs)]
        rfl
  · intro hphase hoccurs
    have hread := readMarkers_of_duplicate hm hks hphase (Marker.mem_carriedBy.mpr hoccurs)
    have hreading' : reading
        = ⟨[.ignored .persistTriggered .queued], none, m.onLine (m.linesSeen + 1) n⟩ := by
      rw [show reading = _ from hreading, hread]
      rfl
    refine ⟨congrArg Reading.accepted hread, ?_, ?_⟩
    · rw [hreading', hread]
      rfl
    · rw [hreading']
      exact onLine_of_not_halted hm _ n

/-- A line whose second marker is refused, and one that ends on a duplicate. -/
theorem result_of_refused_and_of_duplicate :
    let refused := "restore finished, persist was triggered"
    let queued : Monitor := { phase := .queued }
    let duplicate := "finished clearing buffer, persist was triggered"
    Monitor.isHalted {} = false ∧ queued.isHalted = false ∧
      (readLine {} refused 3).result = .error (.violation ⟨.restoreFinished, .triggered, some 3⟩) ∧
      (readLine {} refused 3).monitor.tally.recoveriesTriggered = 1 ∧
      (queued.readLine duplicate 4).result = .ok [.ignored .persistTriggered .queued] := by
  intro refused queued duplicate
  obtain ⟨-, hmonitor, -, ts, -, hresult, -⟩ := readLine_shows_markers (m := {}) rfl refused 3
  obtain ⟨-, -, -, ts', -, -, -, hduplicate⟩ := readLine_shows_markers (m := queued) rfl duplicate 4
  obtain ⟨hts, hok, -⟩ := hduplicate rfl (by decide)
  refine ⟨rfl, rfl, hresult.trans ?_, ?_, hok.trans (congrArg Except.ok hts)⟩
  · have hlast : (observeAll {} (shown {} (Marker.carriedBy refused))).violation
        = some ⟨.restoreFinished, .triggered, none⟩ := by decide
    rw [hlast]
    rfl
  · rw [hmonitor]
    decide

end Monitor

end CheckpointMonitor

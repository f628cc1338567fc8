/-
CheckpointMonitor/Proofs/Monitor/Acceptance.lean

A monitor that is shown one marker after another accepts exactly the protocol.

A fresh monitor accepts markers as long as they are the beginning of a word of
`protocol`, refuses the first one with which they are not, and after that refuses
everything as halted.  While it accepts, its phase is the one that the markers lead
to, and its counters count them: the restores, the markers that queue a request,
and the requests that are no duplicates.

Whether a request is a duplicate is said of the markers alone (`IsDuplicate`): one
has been queued since the last restore.  It is an invariant of the monitor that
this is how things are in the queued phase, and not in the idle one (`Follows`).
The induction is on the markers from the right, since what a marker does depends
on all before it.
-/
import CheckpointMonitor.Proofs.History
import CheckpointMonitor.Proofs.Monitor.Observation
import CheckpointMonitor.Proofs.Protocol.Language
import CheckpointMonitor.Proofs.Protocol.Table
import Mathlib.Data.List.DropRight

namespace CheckpointMonitor

open Marker

variable {m : Monitor} {w v : List Marker} {k : Marker} {p : Phase}

/-! ### Duplicates -/

/-- The markers since the last restore, or since the start if there was none. -/
def sinceRestore (w : List Marker) : List Marker :=
  w.rtakeWhile (· ≠ restoreFinished)

/-- Whether a request that comes after these markers is a duplicate. -/
def IsDuplicate (before : List Marker) : Prop :=
  persistQueued ∈ sinceRestore before

instance (before : List Marker) : Decidable (IsDuplicate before) := by
  unfold IsDuplicate; infer_instance

/-- How many of the markers are requests and no duplicates. -/
def freshRequests (w : List Marker) : Nat :=
  History.count (fun before k => k = persistTriggered ∧ ¬ IsDuplicate before) w

@[simp] theorem sinceRestore_nil : sinceRestore [] = [] := List.rtakeWhile_nil _

theorem sinceRestore_concat (w : List Marker) (k : Marker) :
    sinceRestore (w ++ [k]) = if k ≠ restoreFinished then sinceRestore w ++ [k] else [] := by
  simp [sinceRestore, List.rtakeWhile_concat]

theorem isDuplicate_concat :
    IsDuplicate (w ++ [k]) ↔ k = persistQueued ∨ k ≠ restoreFinished ∧ IsDuplicate w := by
  rw [IsDuplicate, sinceRestore_concat]
  cases k <;> simp [IsDuplicate]

theorem freshRequests_concat (w : List Marker) (k : Marker) :
    freshRequests (w ++ [k])
      = freshRequests w + if k = persistTriggered ∧ ¬ IsDuplicate w then 1 else 0 := by
  simp [freshRequests, History.count_concat]

/-! ### Markers one after another -/

namespace Monitor

/-- The monitor after it was shown markers one after another. -/
def observeAll (m : Monitor) (ks : List Marker) : Monitor :=
  ks.foldl (fun m k => (m.observe k).2) m

/-- What the monitor answers to markers that it is shown one after another. -/
def answers (m : Monitor) : List Marker → List (Except Refusal Transition)
  | [] => []
  | k :: ks => (m.observe k).1 :: answers (m.observe k).2 ks

/-- What is answered to markers of which the first is refused in the phase. -/
def refusals (p : Phase) : List Marker → List (Except Refusal Transition)
  | [] => []
  | k :: ks => .error (.violation ⟨k, p, none⟩) :: ks.map fun _ => .error .halted

@[simp] theorem observeAll_nil (m : Monitor) : m.observeAll [] = m := rfl

theorem observeAll_append (m : Monitor) (ks ks' : List Marker) :
    m.observeAll (ks ++ ks') = (m.observeAll ks).observeAll ks' := List.foldl_append

@[simp] theorem observeAll_concat (m : Monitor) (ks : List Marker) (k : Marker) :
    m.observeAll (ks ++ [k]) = ((m.observeAll ks).observe k).2 := by
  rw [observeAll_append]
  rfl

theorem answers_append (m : Monitor) (ks ks' : List Marker) :
    m.answers (ks ++ ks') = m.answers ks ++ (m.observeAll ks).answers ks' := by
  induction ks generalizing m with
  | nil => rfl
  | cons k ks ih => exact congrArg _ (ih _)

theorem answers_concat (m : Monitor) (ks : List Marker) (k : Marker) :
    m.answers (ks ++ [k]) = m.answers ks ++ [((m.observeAll ks).observe k).1] :=
  answers_append m ks [k]

theorem answers_of_halted (hm : m.isHalted = true) (ks : List Marker) :
    m.answers ks = ks.map fun _ => .error .halted := by
  induction ks with
  | nil => rfl
  | cons k ks ih =>
    rw [answers, observe, observeAt_of_halted hm]
    exact congrArg _ ih

theorem answers_of_refuse (hm : m.isHalted = false) (hk : m.phase.answer k = .refuse)
    (ks : List Marker) : m.answers (k :: ks) = refusals m.phase (k :: ks) := by
  rw [answers, observe, observeAt_of_refuse hm hk]
  exact congrArg _ (answers_of_halted rfl ks)

/-! ### What the monitor has counted -/

/-- The monitor has followed the word: it stands where the word leads and has counted it. -/
structure Follows (m : Monitor) (w : List Marker) : Prop where
  /-- The word leads to the monitor's phase. -/
  phase : w ∈ m.phase.words
  violation : m.violation = none
  cycles : m.cyclesCompleted = w.count restoreFinished
  queued : m.tally.persistsQueued = w.count persistQueued
  fresh : m.tally.recoveriesTriggered = freshRequests w
  /-- In the idle phase a request is no duplicate. -/
  idle : m.phase = .idle → ¬ IsDuplicate w
  /-- In the queued phase it is one. -/
  duplicate : m.phase = .queued → IsDuplicate w

theorem Follows.not_halted (h : Follows m w) : m.isHalted = false :=
  isHalted_eq_false_iff.mpr h.violation

theorem follows_nil : Follows {} [] where
  phase := nil_mem_words.mpr rfl
  violation := rfl
  cycles := rfl
  queued := rfl
  fresh := rfl
  idle _ := by simp [IsDuplicate]
  duplicate h := by cases h

theorem Follows.words_concat (h : Follows m w) (hk : m.phase.follow? k = some p) :
    w ++ [k] ∈ p.words :=
  concat_mem_words.mpr ⟨m.phase, h.phase, hk⟩

/-- A marker with which the table moves on is followed. -/
theorem Follows.advance (h : Follows m w) (hk : m.phase.answer k = .advance p) :
    Follows (m.enter p) (w ++ [k]) := by
  have hwords : w ++ [k] ∈ p.words := h.words_concat (by rw [Phase.follow?, hk])
  rcases Phase.answer_cases_of_advance hk with
    ⟨hp, rfl, rfl⟩ | ⟨hp, rfl, rfl⟩ | ⟨-, rfl, rfl⟩ | ⟨-, rfl, rfl⟩
  · -- a request in the idle phase: no duplicate, so it is counted
    have hfresh : ¬ IsDuplicate w := h.idle hp
    exact ⟨hwords, h.violation, by simp [h.cycles], by simp [Tally.enter, h.queued],
      by simp [Tally.enter, h.fresh, freshRequests_concat, hfresh], by simp, by simp⟩
  · -- a request is queued, and the next ones are duplicates
    have hdup : IsDuplicate (w ++ [.persistQueued]) := isDuplicate_concat.mpr (Or.inl rfl)
    exact ⟨hwords, h.violation, by simp [h.cycles], by simp [Tally.enter, h.queued],
      by simp [Tally.enter, h.fresh, freshRequests_concat], by simp, fun _ => hdup⟩
  · -- the buffer is cleared: nothing is counted
    exact ⟨hwords, h.violation, by simp [h.cycles], by simp [Tally.enter, h.queued],
      by simp [Tally.enter, h.fresh, freshRequests_concat], by simp, by simp⟩
  · -- a restore: nothing has been queued since
    have hfresh : ¬ IsDuplicate (w ++ [.restoreFinished]) := by simp [isDuplicate_concat]
    exact ⟨hwords, h.violation, by simp [h.cycles], by simp [Tally.enter, h.queued],
      by simp [Tally.enter, h.fresh, freshRequests_concat], fun _ => hfresh, by simp⟩

/-- A marker that the table passes over is followed. -/
theorem Follows.ignore (h : Follows m w) (hk : m.phase.answer k = .ignore) :
    Follows m (w ++ [k]) := by
  have hwords : w ++ [k] ∈ m.phase.words := h.words_concat (by rw [Phase.follow?, hk])
  obtain ⟨hp, rfl⟩ := Phase.answer_cases_of_ignore hk
  have hdup : IsDuplicate w := h.duplicate hp
  exact ⟨hwords, h.violation, by simp [h.cycles], by simp [h.queued],
    by simp [h.fresh, freshRequests_concat, hdup], fun hi => by simp [hi] at hp,
    fun _ => isDuplicate_concat.mpr (Or.inr ⟨by simp, hdup⟩)⟩

/-! ### Where the markers are first refused -/

/-- The monitor has met the markers `w ++ v`: it accepted `w` and refused the first of `v`. -/
structure Met (w v : List Marker) : Prop where
  follows : Follows (observeAll {} w) w
  accepted : ∃ ts : List Transition, ts.map Transition.marker = w ∧ answers {} w = ts.map .ok
  refused : ∀ k ∈ v.head?, (observeAll {} w).phase.answer k = .refuse

theorem met_nil : Met [] [] where
  follows := follows_nil
  accepted := ⟨[], rfl, rfl⟩
  refused := nofun

/-- A marker is accepted and followed, or it is the first to be refused. -/
theorem Met.concat (h : Met w []) (k : Marker) : Met (w ++ [k]) [] ∨ Met w [k] := by
  obtain ⟨ts, hts, hok⟩ := h.accepted
  rcases observeAt_cases none (observeAll {} w) k with
    ⟨hh, -⟩ | ⟨p, -, hk, e⟩ | ⟨-, hk, e⟩ | ⟨-, hk, -⟩
  · simp [h.follows.not_halted] at hh
  · refine Or.inl ⟨?_, ⟨ts ++ [.advanced k (observeAll {} w).phase p], ?_, ?_⟩, nofun⟩
    · rw [observeAll_concat, observe, e]
      exact h.follows.advance hk
    · simp [hts, Transition.marker]
    · rw [answers_concat, hok, observe, e, List.map_append]
      rfl
  · refine Or.inl ⟨?_, ⟨ts ++ [.ignored k (observeAll {} w).phase], ?_, ?_⟩, nofun⟩
    · rw [observeAll_concat, observe, e]
      exact h.follows.ignore hk
    · simp [hts, Transition.marker]
    · rw [answers_concat, hok, observe, e, List.map_append]
      rfl
  · refine Or.inr ⟨h.follows, h.accepted, ?_⟩
    rintro k' ⟨⟩
    exact hk

/-- Any markers fall into those that are accepted and those from the first refused one on. -/
theorem exists_met (ks : List Marker) : ∃ w v, ks = w ++ v ∧ Met w v := by
  induction ks using List.reverseRecOn with
  | nil => exact ⟨[], [], rfl, met_nil⟩
  | append_singleton ks k ih =>
    obtain ⟨w, v, rfl, h⟩ := ih
    rcases v with - | ⟨k', v⟩
    · rcases h.concat k with hw | hv
      · exact ⟨w ++ [k], [], by simp, hw⟩
      · exact ⟨w, [k], by simp, hv⟩
    · exact ⟨w, k' :: v ++ [k], by simp, h.follows, h.accepted, h.refused⟩

/-- The first refused marker and what comes after it. -/
theorem Met.answers_refused (h : Met w v) :
    (observeAll {} w).answers v = refusals (observeAll {} w).phase v := by
  rcases v with - | ⟨k, v⟩
  · rfl
  · exact answers_of_refuse h.follows.not_halted (h.refused k rfl) v

/-- With the first refused marker the accepted ones are no longer lawful. -/
theorem Met.not_lawful (h : Met w (k :: v)) (u : List Marker) : ¬ Lawful (w ++ k :: u) := by
  intro hl
  obtain ⟨p, hp⟩ := lawful_iff.mp hl
  rw [List.append_cons] at hp
  obtain ⟨q, hq⟩ := mem_words_of_append hp
  obtain ⟨q', hq', hk⟩ := concat_mem_words.mp hq
  rw [words_unique hq' h.follows.phase, Phase.follow?, h.refused k rfl] at hk
  cases hk

/-- What is accepted is as long as can be. -/
theorem Met.longest (h : Met w v) {u : List Marker} (hu : u <+: w ++ v) (hl : Lawful u) :
    u <+: w := by
  rcases List.prefix_or_prefix_of_prefix hu (List.prefix_append w v) with hw | ⟨x, rfl⟩
  · exact hw
  · rcases x with - | ⟨k, x⟩
    · simp
    · obtain ⟨v', rfl⟩ := (List.prefix_append_right_inj w).mp hu
      exact absurd hl (h.not_lawful x)

theorem Met.answers_eq (h : Met w v) :
    answers {} (w ++ v) = answers {} w ++ refusals (observeAll {} w).phase v := by
  rw [answers_append, h.answers_refused]

/-- All is accepted exactly if it is lawful. -/
theorem Met.all_ok_iff (h : Met w v) :
    (∀ a ∈ answers {} (w ++ v), ∃ t, a = .ok t) ↔ Lawful (w ++ v) := by
  obtain ⟨ts, -, hok⟩ := h.accepted
  rw [h.answers_eq, hok]
  constructor
  · intro hall
    rcases v with - | ⟨k, v⟩
    · rw [List.append_nil]
      exact lawful_iff.mpr ⟨_, h.follows.phase⟩
    · obtain ⟨t, ht⟩ := hall (.error (.violation ⟨k, (observeAll {} w).phase, none⟩))
        (by simp [refusals])
      cases ht
  · intro hl a ha
    rcases v with - | ⟨k, v⟩
    · obtain ⟨t, -, rfl⟩ := List.mem_map.mp (by simpa [refusals] using ha)
      exact ⟨t, rfl⟩
    · exact absurd hl (h.not_lawful v)

/-! ### The accepted language -/

/-- **A monitor accepts exactly the protocol.**  Of any markers it accepts the longest lawful
beginning `w`, refuses the next one in the phase to which `w` leads, and whatever comes after
that as halted.  After `w` its phase is the one to which `w` leads, idle for a word of the
protocol, and its counters are those of `w`.  So a sequence is accepted as a whole exactly if it
is lawful. -/
theorem observeAll_accepts_protocol (ks : List Marker) :
    ∃ (w v : List Marker) (ts : List Transition), ks = w ++ v ∧
      (Lawful w ∧ ∀ u, u <+: ks → Lawful u → u <+: w) ∧
      (ts.map Transition.marker = w ∧
        answers {} ks = ts.map .ok ++ refusals (observeAll {} w).phase v) ∧
      ((observeAll {} w).phase = .idle ↔ w ∈ protocol) ∧
      (∀ p, (observeAll {} w).phase = p ↔ w ∈ p.words) ∧
      (observeAll {} w).cyclesCompleted = w.count restoreFinished ∧
      (observeAll {} w).tally.persistsQueued = w.count persistQueued ∧
      (observeAll {} w).tally.recoveriesTriggered = freshRequests w ∧
      ((∀ a ∈ answers {} ks, ∃ t, a = .ok t) ↔ Lawful ks) := by
  obtain ⟨w, v, rfl, h⟩ := exists_met ks
  obtain ⟨ts, hts, hok⟩ := h.accepted
  have hphase : ∀ p, (observeAll {} w).phase = p ↔ w ∈ p.words := by
    intro p
    constructor
    · rintro rfl
      exact h.follows.phase
    · intro hp
      exact words_unique h.follows.phase hp
  refine ⟨w, v, ts, rfl, ⟨lawful_iff.mpr ⟨_, h.follows.phase⟩, fun u hu hl => h.longest hu hl⟩,
    ⟨hts, ?_⟩, hphase .idle, hphase, h.follows.cycles, h.follows.queued, h.follows.fresh,
    h.all_ok_iff⟩
  rw [h.answers_eq, hok]

end Monitor

end CheckpointMonitor

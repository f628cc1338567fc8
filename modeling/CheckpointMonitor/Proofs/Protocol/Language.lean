/-
CheckpointMonitor/Proofs/Protocol/Language.lean

The protocol as a language.  A program that keeps to the protocol announces one
checkpoint after another, and each checkpoint reads

    triggered ; (queued ; triggered*)? ; cleared ; restored

so the whole of what may be announced is the closure of that (`protocol`).  For
each phase, `Phase.words` is the regular language of what leads there from idle:
some checkpoints, and the part of one more that is open.

The phases' table is not mentioned in these definitions.  That the two agree is
`concat_mem_words`: a word leads to a phase exactly if it is a shorter word that
leads to some phase, and a marker with which the table goes on from there.  The
equations between the languages behind it are laws of Kleene algebra.

From that one fact follow, by induction from the right: no word leads to two
phases (`words_unique`), and a word is the beginning of a word of the protocol
exactly if it leads to some phase (`lawful_iff`).
-/
import CheckpointMonitor.Protocol.Phase
import Mathlib.Computability.Language

namespace CheckpointMonitor

open scoped Computability

variable {w v : List Marker} {k : Marker} {p q : Phase}

/-! ### The languages -/

namespace Marker

/-- The marker on its own. -/
def letter (k : Marker) : Language Marker := {[k]}

@[simp] theorem mem_letter : w ∈ letter k ↔ w = [k] := Iff.rfl

end Marker

open Marker

/-- A request, and one more that is merged into it, with any number of duplicates after that. -/
def merged : Language Marker :=
  letter .persistQueued * (letter .persistTriggered)∗

/-- One checkpoint from its request to its restore. -/
def checkpoint : Language Marker :=
  letter .persistTriggered * (1 + merged) * letter .bufferCleared * letter .restoreFinished

/-- What a program that keeps to the protocol announces. -/
def protocol : Language Marker := checkpoint∗

/-- What leads from idle to the phase. -/
def Phase.words : Phase → Language Marker
  | .idle => protocol
  | .triggered => protocol * letter .persistTriggered
  | .queued => protocol * letter .persistTriggered * merged
  | .bufferCleared =>
    protocol * letter .persistTriggered * (1 + merged) * letter .bufferCleared

/-- A word with which a word of the protocol can begin. -/
def Lawful (w : List Marker) : Prop :=
  ∃ v, w ++ v ∈ protocol

/-! ### The last letter of a word -/

theorem nil_notMem_mul_letter (L : Language Marker) (k : Marker) : [] ∉ L * letter k := by
  rintro ⟨a, -, b, hb, hab⟩
  rw [mem_letter.mp hb] at hab
  simp at hab

theorem concat_mem_mul_letter {L : Language Marker} {k' : Marker} :
    w ++ [k] ∈ L * letter k' ↔ w ∈ L ∧ k = k' := by
  constructor
  · rintro ⟨a, ha, b, hb, hab⟩
    obtain rfl := mem_letter.mp hb
    obtain ⟨rfl, hk⟩ := List.append_inj' hab rfl
    exact ⟨ha, (List.singleton_inj.mp hk).symm⟩
  · rintro ⟨hw, rfl⟩
    exact ⟨w, hw, [k], rfl, rfl⟩

/-! ### How the languages hang together -/

theorem words_idle :
    Phase.idle.words = 1 + Phase.bufferCleared.words * letter .restoreFinished := by
  show checkpoint∗ = 1 + protocol * _ * _ * _ * _
  rw [← Language.one_add_kstar_mul_self_eq_kstar]
  simp only [protocol, checkpoint, mul_assoc]

theorem words_triggered :
    Phase.triggered.words = Phase.idle.words * letter .persistTriggered := rfl

theorem words_queued :
    Phase.queued.words = Phase.triggered.words * letter .persistQueued
      + Phase.queued.words * letter .persistTriggered := by
  show _ * (letter .persistQueued * (letter .persistTriggered)∗) = _
  rw [← Language.one_add_kstar_mul_self_eq_kstar]
  simp only [Phase.words, merged, mul_add, mul_one, mul_assoc]

theorem words_bufferCleared :
    Phase.bufferCleared.words
      = (Phase.triggered.words + Phase.queued.words) * letter .bufferCleared := by
  simp only [Phase.words, mul_add, mul_one]

/-! ### The languages and the table -/

/-- Where the table goes on from a phase with a marker that it does not refuse. -/
def Phase.follow? (p : Phase) (k : Marker) : Option Phase :=
  match p.answer k with
  | .advance q => some q
  | .ignore => some p
  | .refuse => none

theorem Phase.exists_iff {P : Phase → Prop} :
    (∃ q, P q) ↔ P .idle ∨ P .triggered ∨ P .queued ∨ P .bufferCleared := by
  constructor
  · rintro ⟨q, hq⟩
    cases q <;> simp [hq]
  · rintro (h | h | h | h) <;> exact ⟨_, h⟩

theorem nil_mem_words : [] ∈ p.words ↔ p = .idle := by
  cases p
  case idle => exact iff_of_true (Language.nil_mem_kstar checkpoint) rfl
  case triggered => exact iff_of_false (nil_notMem_mul_letter _ _) (by simp)
  case queued =>
    rw [words_queued, Language.mem_add]
    simp [nil_notMem_mul_letter]
  case bufferCleared => exact iff_of_false (nil_notMem_mul_letter _ _) (by simp)

/-- **The table is the protocol's.**  A word leads to a phase exactly if it is a shorter word and a
marker with which the table goes on to the phase from where the shorter word led. -/
theorem concat_mem_words : w ++ [k] ∈ p.words ↔ ∃ q : Phase, w ∈ q.words ∧ q.follow? k = some p := by
  rw [Phase.exists_iff]
  -- on the left the equation for the phase, on the right what the table has for it
  cases p
  case idle =>
    conv_lhs => rw [words_idle, Language.mem_add, concat_mem_mul_letter, Language.mem_one]
    cases k <;> simp [Phase.follow?, Phase.answer]
  case triggered =>
    conv_lhs => rw [words_triggered, concat_mem_mul_letter]
    cases k <;> simp [Phase.follow?, Phase.answer]
  case queued =>
    conv_lhs =>
      rw [words_queued, Language.mem_add, concat_mem_mul_letter, concat_mem_mul_letter]
    cases k <;> simp [Phase.follow?, Phase.answer]
  case bufferCleared =>
    conv_lhs => rw [words_bufferCleared, concat_mem_mul_letter, Language.mem_add]
    cases k <;> simp [Phase.follow?, Phase.answer]

/-- No word leads to two phases. -/
theorem words_unique (hp : w ∈ p.words) (hq : w ∈ q.words) : p = q := by
  induction w using List.reverseRecOn generalizing p q with
  | nil => rw [nil_mem_words.mp hp, nil_mem_words.mp hq]
  | append_singleton w k ih =>
    obtain ⟨p', hp', hkp⟩ := concat_mem_words.mp hp
    obtain ⟨q', hq', hkq⟩ := concat_mem_words.mp hq
    rw [ih hp' hq', hkq] at hkp
    exact (Option.some.inj hkp).symm

/-! ### Lawful words -/

/-- The beginning of a word that leads somewhere leads somewhere. -/
theorem mem_words_of_append (h : w ++ v ∈ p.words) : ∃ q : Phase, w ∈ q.words := by
  induction v using List.reverseRecOn generalizing p with
  | nil => exact ⟨p, by simpa using h⟩
  | append_singleton v k ih =>
    rw [← List.append_assoc] at h
    obtain ⟨q, hq, -⟩ := concat_mem_words.mp h
    exact ih hq

/-- What is still to be announced until the phase is idle again. -/
def Phase.remainder : Phase → List Marker
  | .idle => []
  | .triggered => [.bufferCleared, .restoreFinished]
  | .queued => [.bufferCleared, .restoreFinished]
  | .bufferCleared => [.restoreFinished]

theorem append_remainder (h : w ∈ p.words) : w ++ p.remainder ∈ protocol := by
  have restore : ∀ {u}, u ∈ Phase.bufferCleared.words → u ++ [restoreFinished] ∈ protocol :=
    fun hu => (concat_mem_words (p := .idle)).mpr ⟨_, hu, rfl⟩
  have clear : ∀ {q : Phase} {u}, q.follow? .bufferCleared = some .bufferCleared → u ∈ q.words →
      u ++ [bufferCleared, restoreFinished] ∈ protocol := by
    intro q u hq hu
    have := restore (concat_mem_words.mpr ⟨q, hu, hq⟩)
    rwa [List.append_assoc] at this
  cases p
  case idle =>
    rw [Phase.remainder, List.append_nil]
    exact h
  case triggered => exact clear rfl h
  case queued => exact clear rfl h
  case bufferCleared => exact restore h

/-- A word is the beginning of a word of the protocol exactly if it leads to some phase. -/
theorem lawful_iff : Lawful w ↔ ∃ p : Phase, w ∈ p.words := by
  constructor
  · rintro ⟨v, hv⟩
    exact mem_words_of_append (p := .idle) hv
  · rintro ⟨p, hp⟩
    exact ⟨p.remainder, append_remainder hp⟩

end CheckpointMonitor

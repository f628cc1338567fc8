/-
CheckpointMonitor/Proofs/Monitor/Halting.lean

How a monitor comes to halt, and that it stays as it is then.

The monitor that halted is the monitor at which the refused marker arrived, with the
violation noted and nothing else changed.  A marker that is shown alone arrives at the
monitor as it was; on a line the line has been counted before, and the markers to the
left of the refused one have each moved the protocol on (`Advances`): had one of them
been passed over, the line would have ended there.

So the life of a halted monitor falls into what came before one act, that act, on which
it halted (`Offends`), and what came after it and changed nothing
(`exists_offends_of_actAll`).
-/
import CheckpointMonitor.Proofs.Monitor.Act

namespace CheckpointMonitor.Monitor

variable {m m' : Monitor} {a : Act} {acts : List Act} {k : Marker} {ks : List Marker}

/-! ### After a violation -/

theorem act_of_halted (hm : m.isHalted = true) (a : Act) : m.act a = m := by
  cases a with
  | observe k => exact congrArg Prod.snd (observeAt_of_halted hm k)
  | readLine text number => exact congrArg Reading.monitor (readLine_of_halted hm text number)

/-- Nothing changes a halted monitor. -/
theorem actAll_of_halted (hm : m.isHalted = true) (acts : List Act) : m.actAll acts = m := by
  induction acts with
  | nil => rfl
  | cons a acts ih => rw [actAll_cons, act_of_halted hm, ih]

/-! ### At a violation -/

/-- The markers moved the protocol on, one after the other. -/
inductive Advances : Monitor → List Marker → Monitor → Prop where
  | refl (m : Monitor) : Advances m [] m
  | cons {m m' : Monitor} {k : Marker} {ks : List Marker} {p : Phase} (hk : m.phase.answer k = .advance p)
      (hks : Advances (m.enter p) ks m') : Advances m (k :: ks) m'

/-- **A line on which a monitor halts** carries a marker that was refused, and the ones before it moved
the protocol on. -/
theorem exists_refused {line : Option Nat} (hm : m.isHalted = false)
    (hhalted : (readMarkers line m ks).monitor.isHalted = true) :
    ∃ before k after m', ks = before ++ k :: after ∧ Advances m before m' ∧
      m'.phase.answer k = .refuse ∧
      (readMarkers line m ks).monitor = m'.halt ⟨k, m'.phase, line⟩ := by
  induction ks generalizing m with
  | nil => cases hm.symm.trans hhalted
  | cons k ks ih =>
    rw [readMarkers] at hhalted ⊢
    rcases observeAt_cases line m k with ⟨hh, -⟩ | ⟨p, -, hk, e⟩ | ⟨-, -, e⟩ | ⟨-, hk, e⟩
    · cases hm.symm.trans hh
    · -- the line is read on
      rw [e] at hhalted ⊢
      have hp : (m.enter p).isHalted = false := hm
      obtain ⟨before, k', after, m', hks, hbefore, hrefuse, hend⟩ := ih hp hhalted
      exact ⟨k :: before, k', after, m', congrArg (k :: ·) hks, .cons hk hbefore, hrefuse, hend⟩
    · -- a marker that was passed over ends the line
      rw [e] at hhalted
      cases hm.symm.trans hhalted
    · rw [e]
      exact ⟨[], k, ks, m, rfl, .refl m, hk, rfl⟩

/-- The act brought a marker that was refused; given are the monitor at which the marker arrived and
the violation. -/
inductive Offends (m : Monitor) : Act → Monitor → Violation → Prop where
  | observe {k : Marker} (hm : m.isHalted = false) (hk : m.phase.answer k = .refuse) :
      Offends m (.observe k) m ⟨k, m.phase, none⟩
  | readLine {text : String} {number : Nat} {before after : List Marker} {k : Marker} {m' : Monitor}
      (hm : m.isHalted = false) (hline : Marker.carriedBy text = before ++ k :: after)
      (hbefore : Advances { m with linesSeen := m.linesSeen + 1 } before m')
      (hk : m'.phase.answer k = .refuse) :
      Offends m (.readLine text number) m' ⟨k, m'.phase, some number⟩

/-- An act on which a monitor halts adds the violation and nothing else. -/
theorem exists_offends (hm : m.isHalted = false) (hhalted : (m.act a).isHalted = true) :
    ∃ m' v, Offends m a m' v ∧ m.act a = m'.halt v := by
  cases a with
  | observe k =>
    rcases observeAt_cases none m k with ⟨hh, -⟩ | ⟨p, -, -, e⟩ | ⟨-, -, e⟩ | ⟨-, hk, e⟩
    · cases hm.symm.trans hh
    · rw [act, observe, e] at hhalted
      cases hm.symm.trans hhalted
    · rw [act, observe, e] at hhalted
      cases hm.symm.trans hhalted
    · refine ⟨m, _, .observe hm hk, ?_⟩
      rw [act, observe, e]
  | readLine text number =>
    rw [act, readLine_of_not_halted hm] at hhalted ⊢
    -- the line is counted before its markers are looked at
    have hcounted : Monitor.isHalted { m with linesSeen := m.linesSeen + 1 } = false := hm
    obtain ⟨before, k, after, m', hline, hbefore, hk, hend⟩ := exists_refused hcounted hhalted
    exact ⟨m', _, .readLine hm hline hbefore hk, hend⟩

/-- **A halted monitor halted on one act,** and is as it was when the refused marker arrived, with the
violation noted. -/
theorem exists_offends_of_actAll (hm : m.isHalted = false) (hhalted : (m.actAll acts).isHalted = true) :
    ∃ before a after m' v, acts = before ++ a :: after ∧ Offends (m.actAll before) a m' v ∧
      m.actAll acts = m'.halt v := by
  induction acts generalizing m with
  | nil => cases hm.symm.trans hhalted
  | cons a acts ih =>
    rw [actAll_cons] at hhalted ⊢
    rcases hact : (m.act a).isHalted with - | -
    · obtain ⟨before, a', after, m', v, hacts, hoffends, hend⟩ := ih hact hhalted
      exact ⟨a :: before, a', after, m', v, congrArg (a :: ·) hacts, hoffends, hend⟩
    · -- this is the act, and the others change nothing
      obtain ⟨m', v, hoffends, hend⟩ := exists_offends hm hact
      refine ⟨[], a, acts, m', v, rfl, hoffends, ?_⟩
      rw [actAll_of_halted hact, hend]

end CheckpointMonitor.Monitor

/-
CheckpointMonitor/Proofs/Tally/Writing.lean

What a sink takes of a report.

Writing it is two steps, and the second is made only if the first succeeds: all of the
report is offered, and then the sink is flushed once.  Of the report the sink takes what fits, in
as many writes as it needs (`Sink.writeAll_eq`), so three things can come of it
(`write_cases`): all fits and the flush succeeds, all fits and the flush fails, or something
is left over.  In the last case the sink is full, and the failure is that of a write of
what is left.
-/
import CheckpointMonitor.Proofs.Channel.Writing
import CheckpointMonitor.Tally.Summary

namespace CheckpointMonitor

/-- The sink that an action leaves, whether it succeeds or fails. -/
def Sink.left : Except Failure Sink → Sink
  | .ok s => s
  | .error failure => failure.sink

/-- Nothing is left over exactly if all fits. -/
theorem Sink.eq_nil_iff_of_fitting {s : Sink} {bytes rest : List UInt8} (h : s.fitting bytes ++ rest = bytes) :
    rest = [] ↔ s.fitting bytes = bytes := by
  constructor
  · rintro rfl
    rwa [List.append_nil] at h
  · intro hfit
    rw [hfit] at h
    exact List.append_right_eq_self.mp h

namespace Summary

variable {sink : Sink} {tally : Tally} {format : Format}

/-- **What can come of writing a report.** -/
theorem write_cases (hsink : sink.perWrite ≠ some 0) (tally : Tally) (format : Format) :
    let report := Utf8.encode (render tally format)
    (sink.fitting report = report ∧ (∀ fault, sink.flushFault ≠ some (sink.flushes + 1, fault)) ∧
        write tally format sink = .ok (sink.after report 1)) ∨
    (sink.fitting report = report ∧ ∃ fault, sink.flushFault = some (sink.flushes + 1, fault) ∧
        write tally format sink = .error ⟨fault, sink.after report 1⟩) ∨
    (sink.fitting report ≠ report ∧
        write tally format sink
          = .error ⟨sink.fullFault.getD .writeZero, sink.after (sink.fitting report) 0⟩) := by
  intro report
  have hwrite : write tally format sink = (sink.writeAll report >>= Sink.flush) := rfl
  rw [hwrite, Sink.writeAll_eq hsink]
  by_cases hfit : sink.fitting report = report
  · rw [if_pos hfit]
    -- what remains to be done is the flush
    rcases (sink.accept report).flush_cases with ⟨fault, hfault, hflush⟩ | ⟨hfault, hflush⟩
    · rw [Sink.after_accept] at hflush
      exact Or.inr (Or.inl ⟨hfit, fault, hfault, hflush⟩)
    · rw [Sink.after_accept] at hflush
      exact Or.inl ⟨hfit, hfault, hflush⟩
  · rw [if_neg hfit]
    exact Or.inr (Or.inr ⟨hfit, rfl⟩)

/-- The sink has taken what fits, and it was flushed once if that was all. -/
theorem left_write (hsink : sink.perWrite ≠ some 0) (tally : Tally) (format : Format) :
    let report := Utf8.encode (render tally format)
    Sink.left (write tally format sink)
      = sink.after (sink.fitting report) (if sink.fitting report = report then 1 else 0) := by
  intro report
  rcases write_cases hsink tally format with ⟨hfit, -, hwrite⟩ | ⟨hfit, _, -, hwrite⟩ | ⟨hfit, hwrite⟩
  · rw [hwrite, hfit, if_pos rfl]
    rfl
  · rw [hwrite, hfit, if_pos rfl]
    rfl
  · rw [hwrite, if_neg hfit]
    rfl

theorem exists_written_iff (hsink : sink.perWrite ≠ some 0) :
    let report := Utf8.encode (render tally format)
    (∃ written, write tally format sink = .ok written) ↔
      sink.fitting report = report ∧ ∀ fault, sink.flushFault ≠ some (sink.flushes + 1, fault) := by
  rcases write_cases hsink tally format with ⟨hfit, hflush, hwrite⟩ | ⟨-, fault, hfault, hwrite⟩ |
    ⟨hfit, hwrite⟩
  · exact iff_of_true ⟨_, hwrite⟩ ⟨hfit, hflush⟩
  · refine iff_of_false ?_ fun h => h.2 fault hfault
    rintro ⟨written, h⟩
    cases hwrite.symm.trans h
  · refine iff_of_false ?_ fun h => hfit h.1
    rintro ⟨written, h⟩
    cases hwrite.symm.trans h

/-- A report that is not written fails at its flush, or as a write fails of what is left over. -/
theorem fault_of_write (hsink : sink.perWrite ≠ some 0) {failure : Sink.Failure} {rest : List UInt8}
    (hrest : sink.fitting (Utf8.encode (render tally format)) ++ rest = Utf8.encode (render tally format))
    (h : write tally format sink = .error failure) :
    (rest = [] ∧ sink.flushFault = some (sink.flushes + 1, failure.fault)) ∨
    (rest ≠ [] ∧ (failure.sink.write rest = .error failure ∨
      (failure.sink.write rest = .ok (0, failure.sink) ∧ failure.fault = .writeZero))) := by
  rcases write_cases hsink tally format with ⟨-, -, hwrite⟩ | ⟨hfit, fault, hfault, hwrite⟩ |
    ⟨hfit, hwrite⟩
  · cases hwrite.symm.trans h
  · obtain rfl := Except.error.inj (hwrite.symm.trans h)
    exact Or.inl ⟨(Sink.eq_nil_iff_of_fitting hrest).mpr hfit, hfault⟩
  · obtain rfl := Except.error.inj (hwrite.symm.trans h)
    have hne : rest ≠ [] := mt (Sink.eq_nil_iff_of_fitting hrest).mp hfit
    -- the sink is full, and its faults are those that it had before
    rcases Sink.write_of_full (s := sink.accept _) hsink (Sink.isFull_accept_fitting hfit) hne with
      ⟨fault, hfault, hrefused⟩ | ⟨hfault, hnothing⟩
    · have hfault : sink.fullFault = some fault := hfault
      rw [hfault]
      exact Or.inr ⟨hne, Or.inl hrefused⟩
    · have hfault : sink.fullFault = none := hfault
      rw [hfault]
      exact Or.inr ⟨hne, Or.inr ⟨hnothing, rfl⟩⟩

/-- **A sink takes of a report as much as it has room for.**

Let each write take something.  The bytes that the sink takes are the longest first part of the report for
which there is room.  A flush is tried once if nothing is left over, and not at all otherwise.

The report is written exactly if nothing is left over and the flush succeeds.  Otherwise the
failure is that of the flush, or that of a further write of what is left over, which fails or takes
nothing.

How much a single write takes has no part in any of this. -/
theorem write_longest_part (hsink : sink.perWrite ≠ some 0) (tally : Tally) (format : Format) :
    let report := Utf8.encode (render tally format)
    let result := write tally format sink
    let left := Sink.left result
    (∃ sent rest, sent ++ rest = report ∧
      sink.HasRoom sent ∧
      (∀ first, first <+: report → sink.HasRoom first → first.length ≤ sent.length) ∧
      left.taken.toList = sink.taken.toList ++ sent ∧
      left.flushes = sink.flushes + (if rest = [] then 1 else 0) ∧
      ((∃ written, result = .ok written) ↔
        rest = [] ∧ ∀ fault, sink.flushFault ≠ some (sink.flushes + 1, fault)) ∧
      ∀ failure, result = .error failure →
        (rest = [] ∧ sink.flushFault = some (sink.flushes + 1, failure.fault)) ∨
        (rest ≠ [] ∧ (failure.sink.write rest = .error failure ∨
          (failure.sink.write rest = .ok (0, failure.sink) ∧ failure.fault = .writeZero)))) ∧
    ∀ sink' : Sink, sink.Alike sink' → Sink.AlikeResult result (write tally format sink') := by
  intro report result left
  refine ⟨?_, fun sink' h => (h.writeAll report).bind fun _ _ h => h.flush⟩
  obtain ⟨rest, hrest⟩ := sink.fitting_prefix report
  have hnil := Sink.eq_nil_iff_of_fitting hrest
  have hleft : left = sink.after (sink.fitting report) (if rest = [] then 1 else 0) := by
    rw [if_congr hnil rfl rfl]
    exact left_write hsink tally format
  refine ⟨sink.fitting report, rest, hrest, sink.hasRoom_fitting report,
    fun first hfirst hroom => hroom.length_le hfirst, ?_, ?_, ?_, ?_⟩
  · rw [hleft]
    exact Array.toList_appendList
  · rw [hleft]
    rfl
  · rw [hnil]
    exact exists_written_iff hsink
  · exact fun failure hfailure => fault_of_write hsink hrest hfailure

/-- A sink that holds a byte already and so lacks room for the last one of a report; and one that takes all
of the report, a byte at a time, but the flush of which fails. -/
theorem part_of_report_for_filled_sink :
    let report := Utf8.encode (render ⟨2, 1⟩ .json)
    let filled : Sink := { perWrite := some 7, capacity := some report.length, taken := #[0x78] }
    let failing : Sink :=
      { perWrite := some 1
        capacity := some report.length
        flushFault := some (1, ⟨.brokenPipe, none⟩) }
    let left := Sink.left (write ⟨2, 1⟩ .json filled)
    let left' := Sink.left (write ⟨2, 1⟩ .json failing)
    filled.perWrite ≠ some 0 ∧ left.taken.toList = 0x78 :: report.dropLast ∧ left.flushes = 0 ∧
      failing.perWrite ≠ some 0 ∧ left'.taken.toList = report ∧ left'.flushes = 1 ∧
      ∀ failure, write ⟨2, 1⟩ .json failing = .error failure → failure.fault = ⟨.brokenPipe, none⟩ := by
  intro report filled failing left left'
  have hfilled : filled.perWrite ≠ some 0 := by decide
  have hfailing : failing.perWrite ≠ some 0 := by decide
  obtain ⟨⟨sent, rest, hsent, hroom, hlongest, htaken, hflushes, -⟩, -⟩ :=
    write_longest_part hfilled ⟨2, 1⟩ .json
  obtain ⟨⟨sent', rest', hsent', -, hlongest', htaken', hflushes', -, hfault'⟩, -⟩ :=
    write_longest_part hfailing ⟨2, 1⟩ .json
  -- there is room for all but the last byte, and not for all
  have hshort : sent.length = report.dropLast.length := by
    refine Nat.le_antisymm ?_ ?_
    · rw [List.length_dropLast]
      exact hroom _ rfl
    · refine hlongest _ (List.dropLast_prefix _) ?_
      rintro _ ⟨⟩
      rw [List.length_dropLast]
      exact Nat.le_refl _
  have hprefix : sent <+: report.dropLast :=
    List.prefix_of_prefix_length_le ⟨rest, hsent⟩ (List.dropLast_prefix _) (Nat.le_of_eq hshort)
  have hpart : sent = report.dropLast := hprefix.eq_of_length hshort
  have hrest : rest ≠ [] := by
    rintro rfl
    rw [List.append_nil, hpart] at hsent
    exact absurd hsent (by decide +kernel)
  have hall : sent' = report := by
    refine List.IsPrefix.eq_of_length_le ⟨rest', hsent'⟩ (hlongest' report (List.prefix_refl _) ?_)
    rintro _ ⟨⟩
    exact Nat.le_refl _
  have hrest' : rest' = [] := by
    rw [hall] at hsent'
    exact List.append_right_eq_self.mp hsent'
  refine ⟨hfilled, ?_, ?_, hfailing, ?_, ?_, ?_⟩
  · rw [htaken, hpart]
    rfl
  · rw [hflushes, if_neg hrest]
  · rw [htaken', hall]
    rfl
  · rw [hflushes', if_pos hrest']
  · intro failure hfailure
    rcases hfault' failure hfailure with ⟨-, hflush⟩ | ⟨hne, -⟩
    · exact (congrArg Prod.snd (Option.some.inj hflush)).symm
    · exact absurd hrest' hne

end Summary

end CheckpointMonitor

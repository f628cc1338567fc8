/-
CheckpointMonitor/Proofs/Channel/Incidents.lean

What a reading meets between the bytes: waits, failures and requests to shut down.

`failures` and `requests` are what a source still holds of them.  A reading that fails
has met the first of the failures, and any other has met none (`failures_readLine`); it
knows of a shutdown exactly if one was requested before or it met a request
(`shutdown_readLine_iff`).

Failures after which a read is begun again change nothing (`readLine_withoutRetries`),
and neither do requests, as long as the reading does not have to wait after one
(`readLine_calm`).  A line that is completed without a wait is read to its end, requests
or not (`complete_of_swift`).
-/
import CheckpointMonitor.Proofs.Channel.Reading

namespace CheckpointMonitor.Source

variable {source later : Source} {shutdown : Bool}

/-! ### Failures and requests -/

/-- The failure with which an arrival ends the reading, if it does. -/
def Arrival.failure? : Arrival → Option Fault
  | .failure fault => if fault.isRetried then none else some fault
  | _ => none

/-- Whether the arrival is a request to shut down. -/
def Arrival.isRequest : Arrival → Bool
  | .shutdown => true
  | _ => false

/-- The failure with which a reading ended, if it failed. -/
def Ending.failure? : Ending → Option Fault
  | .failed fault => some fault
  | _ => none

/-- The failures that can still end a reading, in the order in which they come. -/
def failures (source : Source) : List Fault :=
  source.filterMap Arrival.failure?

/-- The number of requests to shut down that can still be met. -/
def requests (source : Source) : Nat :=
  source.countP Arrival.isRequest

theorem failures_retried {fault : Fault} (h : fault.isRetried = true) (later : Source) :
    failures (.failure fault :: later) = failures later := by
  simp [failures, Arrival.failure?, h]

theorem failures_failure {fault : Fault} (h : fault.isRetried = false) (later : Source) :
    failures (.failure fault :: later) = fault :: failures later := by
  simp [failures, Arrival.failure?, h]

@[simp] theorem requests_data (piece : List UInt8) (later : Source) :
    requests (.data piece :: later) = requests later := by
  simp [requests, Arrival.isRequest]

@[simp] theorem requests_pending (later : Source) : requests (.pending :: later) = requests later := by
  simp [requests, Arrival.isRequest]

@[simp] theorem requests_shutdown (later : Source) :
    requests (.shutdown :: later) = requests later + 1 :=
  List.countP_cons_of_pos rfl

@[simp] theorem requests_failure (fault : Fault) (later : Source) :
    requests (.failure fault :: later) = requests later := by
  simp [requests, Arrival.isRequest]

/-- **A reading that fails has met the first failure,** and any other has met none. -/
theorem failures_readLine (shutdown : Bool) (source : Source) :
    source.failures
      = (readLine shutdown source).ending.failure?.toList ++ (readLine shutdown source).rest.failures := by
  fun_induction readLine shutdown source with
  | case1 => rfl
  | case2 => rfl
  | case3 shutdown piece later _ ih => exact ih
  | case4 => rfl
  | case5 shutdown later _ ih => exact ih
  | case6 shutdown later ih => exact ih
  | case7 shutdown fault later h ih => rwa [failures_retried h]
  | case8 shutdown fault later h => rw [failures_failure (by simpa using h)]; rfl

/-- The requests that a reading met, and what it knows of them. -/
theorem requests_readLine (shutdown : Bool) (source : Source) :
    ∃ met, source.requests = (readLine shutdown source).rest.requests + met ∧
      ((readLine shutdown source).shutdown = true ↔ shutdown = true ∨ 0 < met) := by
  fun_induction readLine shutdown source with
  | case1 => exact ⟨0, rfl, by simp⟩
  | case2 => exact ⟨0, by simp, by simp⟩
  | case3 shutdown piece later _ ih => simpa using ih
  | case4 => exact ⟨0, by simp, by simp_all⟩
  | case5 shutdown later _ ih => simpa using ih
  | case6 shutdown later ih =>
    obtain ⟨met, hmet, hshutdown⟩ := ih
    refine ⟨met + 1, ?_, ?_⟩
    · rw [requests_shutdown, hmet, Nat.add_assoc]
    · simpa using hshutdown
  | case7 shutdown fault later _ ih => simpa using ih
  | case8 => exact ⟨0, by simp, by simp⟩

theorem requests_rest_le (shutdown : Bool) (source : Source) :
    (readLine shutdown source).rest.requests ≤ source.requests := by
  obtain ⟨met, hmet, -⟩ := requests_readLine shutdown source
  omega

/-- No shutdown is requested on a steady source. -/
theorem requests_of_steady (h : source.Steady) : source.requests = 0 := by
  rw [requests, List.countP_eq_zero]
  intro arrival harrival hrequest
  have hsteady := h arrival harrival
  cases arrival <;> cases hrequest
  cases hsteady

/-- **A reading knows of a shutdown exactly if one was requested before or amid the line.** -/
theorem shutdown_readLine_iff :
    (readLine shutdown source).shutdown = true ↔
      shutdown = true ∨ (readLine shutdown source).rest.requests < source.requests := by
  obtain ⟨met, hmet, hshutdown⟩ := requests_readLine shutdown source
  rw [hshutdown]
  exact or_congr_right (by omega)

/-- Only a shutdown that was requested interrupts a reading. -/
theorem shutdown_of_interrupted (h : (readLine shutdown source).ending = .interrupted) :
    (readLine shutdown source).shutdown = true := by
  fun_induction readLine shutdown source with
  | case1 => cases h
  | case2 => cases h
  | case3 shutdown piece later _ ih => exact ih h
  | case4 => rfl
  | case5 shutdown later _ ih => exact ih h
  | case6 shutdown later ih => exact ih h
  | case7 shutdown fault later _ ih => exact ih h
  | case8 => cases h

/-! ### Lines without a wait -/

/-- Whether a line can be read on over the arrival, even if a shutdown has been requested. -/
def Arrival.isSwift : Arrival → Bool
  | .data _ => true
  | .pending => false
  | .shutdown => true
  | .failure fault => fault.isRetried

/-- Nothing in the source has to be waited for, and no read fails for good. -/
def Swift (source : Source) : Prop :=
  ∀ arrival ∈ source, arrival.isSwift = true

instance (source : Source) : Decidable source.Swift := by
  unfold Swift; infer_instance

theorem swift_cons {arrival : Arrival} : Swift (arrival :: later) ↔ arrival.isSwift = true ∧ Swift later :=
  List.forall_mem_cons

theorem ending_of_swift (h : source.Swift) :
    (readLine shutdown source).ending = .lineFeed ∨ (readLine shutdown source).ending = .exhausted := by
  fun_induction readLine shutdown source with
  | case1 => exact Or.inr rfl
  | case2 => exact Or.inl rfl
  | case3 shutdown piece later _ ih => exact ih (swift_cons.mp h).2
  | case4 => cases (swift_cons.mp h).1
  | case5 => cases (swift_cons.mp h).1
  | case6 shutdown later ih => exact ih (swift_cons.mp h).2
  | case7 shutdown fault later _ ih => exact ih (swift_cons.mp h).2
  | case8 shutdown fault later hretried => exact absurd (swift_cons.mp h).1 hretried

/-- A line that is begun and left open is read on. -/
theorem readLine_of_open {before : Source} (hbefore : before.Steady) (hopen : lineFeed ∉ before.bytes)
    (later : Source) :
    readLine false (before ++ later) = (readLine false later).after before.bytes := by
  induction before with
  | nil => rfl
  | cons arrival before ih =>
    obtain ⟨harrival, hothers⟩ := steady_cons.mp hbefore
    cases arrival with
    | data piece =>
      rw [bytes, List.mem_append, not_or] at hopen
      have hdrop : piece.dropWhile (· != lineFeed) = [] := by
        apply List.dropWhile_eq_nil_iff.mpr
        intro byte hbyte
        rw [bne_iff_ne]
        rintro rfl
        exact hopen.1 hbyte
      rw [List.cons_append, readLine, hdrop]
      show (readLine false (before ++ later)).after piece = _
      rw [ih hothers hopen.2, Read.after, Read.after, Read.after, bytes, List.append_assoc]
    | pending => exact ih hothers hopen
    | shutdown => cases harrival
    | failure fault =>
      have hretried : fault.isRetried = true := harrival
      rw [List.cons_append, readLine, if_pos hretried]
      exact ih hothers hopen

/-- **A line that is completed without a wait is read to its end,** although a shutdown was requested
amid it. -/
theorem complete_of_swift {before amid : Source} (hbefore : before.Steady)
    (hopen : lineFeed ∉ before.bytes) (hamid : amid.Swift) (hend : lineFeed ∈ amid.bytes ∨ later = [])
    (hne : (before ++ .shutdown :: amid ++ later).bytes ≠ []) :
    (readLine false (before ++ .shutdown :: amid ++ later)).Complete ∧
      (readLine false (before ++ .shutdown :: amid ++ later)).shutdown = true := by
  have hread : readLine false (before ++ .shutdown :: amid ++ later)
      = (readLine true (amid ++ later)).after before.bytes := by
    rw [List.append_assoc, readLine_of_open hbefore hopen]
    rfl
  have hending : (readLine true (amid ++ later)).ending = .lineFeed ∨
      (readLine true (amid ++ later)).ending = .exhausted := by
    rcases hend with hmem | rfl
    · -- the line feed is met before anything that comes later
      have hamidEnd : (readLine true amid).ending = .lineFeed := by
        have hswift : (readLine true amid).ending = .lineFeed ∨ _ := ending_of_swift hamid
        rcases hswift with hend | hend
        · exact hend
        · have hbytes := bytes_readLine true amid
          rw [Read.taken, hend, rest_of_exhausted hend, bytes, List.append_nil] at hbytes
          rw [hbytes] at hmem
          exact absurd hmem (lineFeed_notMem_readLine true amid)
      have hne : (readLine true amid).ending ≠ .exhausted := by
        rw [hamidEnd]
        exact Ending.noConfusion
      left
      rw [readLine_append hne later, hamidEnd]
    · rw [List.append_nil]
      exact ending_of_swift hamid
  constructor
  · rcases (readLine false (before ++ .shutdown :: amid ++ later)).ending_cases with
      hcomplete | ⟨hspent, hbytes⟩ | hinterrupted | ⟨fault, hfailed⟩
    · exact hcomplete
    · have hall := bytes_readLine false (before ++ .shutdown :: amid ++ later)
      rw [Read.taken, hspent, rest_of_exhausted hspent, hbytes] at hall
      exact absurd hall hne
    · rw [hread, Read.ending_after] at hinterrupted
      rcases hending with hend | hend <;> cases hend.symm.trans hinterrupted
    · rw [hread, Read.ending_after] at hfailed
      rcases hending with hend | hend <;> cases hend.symm.trans hfailed
  · rw [hread, Read.shutdown_after, shutdown_readLine_iff]
    exact Or.inl rfl

/-! ### What changes nothing -/

/-- Whether the arrival is a failure after which the read is begun again. -/
def Arrival.isRetry : Arrival → Bool
  | .failure fault => fault.isRetried
  | _ => false

/-- The source without the failures after which a read is begun again. -/
def withoutRetries (source : Source) : Source :=
  source.filter (!·.isRetry)

/-- The source without requests to shut down. -/
def calm (source : Source) : Source :=
  source.filter (!·.isRequest)

theorem requests_calm (source : Source) : source.calm.requests = 0 := by
  rw [requests, calm, List.countP_eq_zero]
  intro arrival harrival
  simpa using (List.mem_filter.mp harrival).2

/-- **Failures after which a read is begun again change nothing.** -/
theorem readLine_withoutRetries (shutdown : Bool) (source : Source) :
    readLine shutdown source.withoutRetries
      = { readLine shutdown source with rest := (readLine shutdown source).rest.withoutRetries } := by
  fun_induction readLine shutdown source with
  | case1 => rfl
  | case2 shutdown piece later byte left hdrop =>
    show readLine shutdown (.data piece :: withoutRetries later) = _
    rw [readLine, hdrop]
    rfl
  | case3 shutdown piece later hdrop ih =>
    show readLine shutdown (.data piece :: withoutRetries later) = _
    rw [readLine, hdrop]
    exact congrArg (Read.after piece) ih
  | case4 => rfl
  | case5 shutdown later h ih =>
    show readLine shutdown (.pending :: withoutRetries later) = _
    rwa [readLine, if_neg h]
  | case6 shutdown later ih => exact ih
  | case7 shutdown fault later h ih =>
    rw [withoutRetries, List.filter_cons_of_neg (by simpa [Arrival.isRetry] using h)]
    exact ih
  | case8 shutdown fault later h =>
    rw [withoutRetries, List.filter_cons_of_pos (by simpa [Arrival.isRetry] using h), readLine, if_neg h]
    rfl

/-- **Requests to shut down change nothing,** as long as the reading does not have to wait after
one. -/
theorem readLine_calm (h : (readLine shutdown source).ending ≠ .interrupted) :
    readLine false source.calm
      = { readLine shutdown source with shutdown := false, rest := (readLine shutdown source).rest.calm } := by
  fun_induction readLine shutdown source with
  | case1 => rfl
  | case2 shutdown piece later byte left hdrop =>
    show readLine false (.data piece :: calm later) = _
    rw [readLine, hdrop]
    rfl
  | case3 shutdown piece later hdrop ih =>
    show readLine false (.data piece :: calm later) = _
    rw [readLine, hdrop]
    exact congrArg (Read.after piece) (ih h)
  | case4 => exact absurd rfl h
  | case5 shutdown later _ ih => exact ih h
  | case6 shutdown later ih => exact ih h
  | case7 shutdown fault later hretried ih =>
    show readLine false (.failure fault :: calm later) = _
    rw [readLine, if_pos hretried]
    exact ih h
  | case8 shutdown fault later hretried =>
    show readLine false (.failure fault :: calm later) = _
    rw [readLine, if_neg hretried]

end CheckpointMonitor.Source

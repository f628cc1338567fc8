/-
CheckpointMonitor/Proofs/Journal.lean

The log of a session.

Each call leaves its own records in the log.  What a watch leaves is what its monitor puts on
record on the lines that it is shown, and at the very end, if the watch was interrupted or its
stream was over, one record that says so and nothing else (`log_run`).  So the records of the
monitor, picked out of the log of a whole session, are those of the row of acts that the
session is, and account for all that happened to the monitor (`session_journal`).

The records of the monitor and of the watch are told apart by their target.
-/
import CheckpointMonitor.Proofs.Monitor.Trail
import CheckpointMonitor.Proofs.Session
import CheckpointMonitor.Proofs.Watch.Passage

namespace CheckpointMonitor

open Log (Record)

/-! ### Records by their kind -/

namespace Log.Record

/-- Whether the record is of the way from the one phase to the other. -/
def moves (p q : Phase) : Record → Bool
  | advanced _ before after => before = p && after = q
  | _ => false

theorem moves_ofTransition (p q : Phase) (t : Transition) : (ofTransition t).moves p q = t.moves p q := by
  cases t <;> rfl

theorem target_ofTransition (t : Transition) : (ofTransition t).target = "persist_monitor::machine" := by
  cases t <;> rfl

/-- No record is finer than what is logged for debugging. -/
theorem verbosity_le (r : Record) : r.level.verbosity ≤ Level.debug.verbosity := by
  cases r <;> simp [level, Level.verbosity]

end Log.Record

/-- How weighty an accepted marker is, and how it is put into words. -/
def Transition.account : Transition → Log.Level × String
  | advanced marker before after => (.debug, marker.name ++ ": " ++ before.name ++ " -> " ++ after.name)
  | ignored .. => (.warn, "Persist triggered while another persist is queued, ignoring duplicate")

theorem Transition.account_eq (t : Transition) :
    t.account = ((Record.ofTransition t).level, (Record.ofTransition t).message) := by
  cases t <;> rfl

namespace Monitor

variable {m : Monitor} {r : Record} {ts : List Transition} {violation : Option Violation}

/-- Only the monitor speaks in an account. -/
theorem target_of_mem_accountOf (h : r ∈ accountOf ts violation) : r.target = "persist_monitor::machine" := by
  rcases List.mem_append.mp h with ht | hv
  · obtain ⟨t, -, rfl⟩ := List.mem_map.mp ht
    exact Record.target_ofTransition t
  · obtain ⟨v, -, rfl⟩ := Option.map_eq_some_iff.mp (Option.mem_toList.mp hv)
    rfl

/-- Only the monitor speaks on an act. -/
theorem target_of_mem_records {a : Act} (h : r ∈ m.records a) : r.target = "persist_monitor::machine" := by
  rcases hm : m.isHalted with - | -
  · rw [(trail_act hm a).2] at h
    exact target_of_mem_accountOf h
  · rw [records_of_halted hm] at h
    cases h

theorem target_of_mem_along {acts : List Act} (h : r ∈ m.along records acts) :
    r.target = "persist_monitor::machine" := by
  induction acts generalizing m with
  | nil => cases h
  | cons a acts ih => exact (List.mem_append.mp h).elim target_of_mem_records ih

/-- The ways from phase to phase are counted in the records as in the transitions. -/
theorem countP_accountOf (p q : Phase) (ts : List Transition) (violation : Option Violation) :
    (accountOf ts violation).countP (Record.moves p q) = ts.countP (Transition.moves p q) := by
  have hviolation : (violation.map Record.violation).toList.countP (Record.moves p q) = 0 := by
    cases violation <;> rfl
  rw [accountOf, List.countP_append, hviolation, List.countP_map, Nat.add_zero]
  exact List.countP_congr fun t _ => by rw [Function.comp_apply, Record.moves_ofTransition]

end Monitor

/-! ### The log of a watch -/

namespace Watch

variable {w w' : Watch} {bytes : List UInt8} {stop : Stop}

/-- The last record of a watch, if it has one of its own: that it was interrupted, or that its stream
was over. -/
def Finished.closing (finished : Finished) : List Record :=
  match finished.stop with
  | .ended .interrupted => [.shutdownRequested finished.watch.lines]
  | .ended .endOfStream => [.sourceClosed finished.watch.lines]
  | _ => []

/-- Nothing is put on record as a line is passed on. -/
theorem log_of_fetch_line (h : w.fetch = .line bytes w') : w'.log = w.log := by
  obtain ⟨-, -, -, sink, -, rfl⟩ := exists_of_fetch_line h
  rfl

/-- Where no line is fetched, the record of that is the last one. -/
theorem log_of_fetch_stop (h : w.fetch = .stop stop w') :
    w'.log.toList = w.log.toList ++ Finished.closing ⟨stop, w'⟩ := by
  rcases fetch_cases w with ⟨-, hf⟩ | ⟨-, ⟨_, -, -, hf⟩ | ⟨failure, -, -, hf⟩ | ⟨-, -, hf⟩ | ⟨-, hf⟩ |
    ⟨fault, -, hf⟩⟩
  · -- interrupted before anything was read
    obtain ⟨rfl, rfl⟩ := Fetched.stop.inj (hf.symm.trans h)
    exact Array.toList_push
  · cases hf.symm.trans h
  · -- the echo failed, and nothing is said
    obtain ⟨rfl, rfl⟩ := Fetched.stop.inj (hf.symm.trans h)
    exact (List.append_nil _).symm
  · obtain ⟨rfl, rfl⟩ := Fetched.stop.inj (hf.symm.trans h)
    exact Array.toList_push
  · obtain ⟨rfl, rfl⟩ := Fetched.stop.inj (hf.symm.trans h)
    exact Array.toList_push
  · -- the reading failed, and nothing is said
    obtain ⟨rfl, rfl⟩ := Fetched.stop.inj (hf.symm.trans h)
    exact (List.append_nil _).symm

/-- A watch that ends on a line leaves it to the monitor to say why. -/
theorem closing_ofRefusal (refusal : Refusal) (w : Watch) :
    Finished.closing ⟨.ofRefusal refusal, w⟩ = [] := by
  cases refusal <;> rfl

/-- **The log of a run** is what its monitor put on record, and then how it ended. -/
theorem log_run (w : Watch) :
    w.run.watch.log.toList = w.log.toList ++ (w.monitor.along Monitor.records w.acts ++ w.run.closing) := by
  fun_induction acts w with
  | case1 w stop w' hfetch =>
    rw [run_of_stop (step_of_stop hfetch)]
    exact log_of_fetch_stop hfetch
  | case2 w bytes w' hfetch ih =>
    rw [Monitor.along, Monitor.records, Monitor.act, ← monitor_of_fetch_line hfetch, ← log_of_fetch_line hfetch]
    split
    · next w'' hnext =>
      -- the records of the line stand before those of the lines after it
      obtain ⟨-, rfl⟩ := accepted_of_interpret hnext
      rw [run_of_next ((step_of_line hfetch).trans hnext), ih _ hnext, record, Array.toList_appendList,
        List.append_assoc, List.append_assoc]
    · next stop w'' hstop =>
      obtain ⟨refusal, -, rfl, rfl⟩ := refused_of_interpret hstop
      rw [run_of_stop ((step_of_line hfetch).trans hstop), closing_ofRefusal, List.append_nil, Monitor.along,
        List.append_nil, record, Array.toList_appendList]

/-- A record closes the log exactly if the run was interrupted or its stream was over, and then it
says after how many lines. -/
theorem closing_cases (finished : Finished) :
    (∃ o, finished.outcome? = some o ∧ o.termination = .interrupted ∧
        finished.closing.map Record.message
          = ["Shutdown requested after " ++ o.linesEchoed.repr ++ " lines"]) ∨
      (∃ o, finished.outcome? = some o ∧ o.termination = .endOfStream ∧
        finished.closing.map Record.message
          = ["Line source closed after " ++ o.linesEchoed.repr ++ " lines"]) ∨
      (∀ o, finished.outcome? = some o → o.termination ≠ .interrupted ∧ o.termination ≠ .endOfStream) ∧
        finished.closing = [] := by
  rcases finished with ⟨⟨termination⟩ | ⟨fault⟩ | -, w⟩
  · rcases termination with - | - | v
    · exact Or.inr (Or.inl ⟨_, rfl, rfl, rfl⟩)
    · exact Or.inl ⟨_, rfl, rfl, rfl⟩
    · refine Or.inr (Or.inr ⟨?_, rfl⟩)
      rintro o ⟨⟩
      exact ⟨nofun, nofun⟩
  · exact Or.inr (Or.inr ⟨nofun, rfl⟩)
  · exact Or.inr (Or.inr ⟨nofun, rfl⟩)

end Watch

/-! ### The log of a session -/

namespace Monitor

/-- What a call leaves in the log. -/
def logOfCall (m : Monitor) : Call → List Record
  | .observe k => Record.ofObservation (m.observe k).1
  | .readLine line number => Record.ofReading (m.readLine line number)
  | .watch source sink shutdown =>
    (Watch.run { monitor := m, source, sink, shutdown }).watch.log.toList

/-- What a session leaves in the log. -/
def logOf (m : Monitor) : List Call → List Record
  | [] => []
  | c :: calls => m.logOfCall c ++ (m.call c).logOf calls

theorem logOf_append (m : Monitor) (calls calls' : List Call) :
    m.logOf (calls ++ calls') = m.logOf calls ++ (m.callAll calls).logOf calls' := by
  induction calls generalizing m with
  | nil => rfl
  | cons c calls ih =>
    rw [List.cons_append, logOf, logOf, ih, List.append_assoc]
    rfl

/-- The records of a log that the monitor made. -/
def told (log : List Record) : List Record :=
  log.filter fun r => r.target = "persist_monitor::machine"

theorem told_of_forall {log : List Record} (h : ∀ r ∈ log, r.target = "persist_monitor::machine") :
    told log = log :=
  List.filter_eq_self.mpr fun r hr => decide_eq_true (h r hr)

theorem told_closing (finished : Watch.Finished) : told finished.closing = [] := by
  rcases finished with ⟨⟨termination⟩ | ⟨fault⟩ | -, w⟩
  · cases termination <;> rfl
  · rfl
  · rfl

/-- In what a call leaves, the monitor speaks on the acts of the call. -/
theorem told_logOfCall (m : Monitor) (c : Call) :
    told (m.logOfCall c) = m.along records (m.actsOfCall c) := by
  have hspeaks : told (m.along records (m.actsOfCall c)) = m.along records (m.actsOfCall c) :=
    told_of_forall fun r => target_of_mem_along
  cases c with
  | observe k => rwa [actsOfCall, along, along, List.append_nil] at hspeaks ⊢
  | readLine line number => rwa [actsOfCall, along, along, List.append_nil] at hspeaks ⊢
  | watch source sink shutdown =>
    rw [logOfCall, Watch.log_run, List.nil_append, told, List.filter_append]
    exact (congrArg₂ _ hspeaks (told_closing _)).trans (List.append_nil _)

/-- **In the log of a session the monitor speaks on the acts of the session.** -/
theorem told_logOf (m : Monitor) (calls : List Call) :
    told (m.logOf calls) = m.along records (m.actsOf calls) := by
  induction calls generalizing m with
  | nil => rfl
  | cons c calls ih =>
    rw [logOf, actsOf, along_append, ← told_logOfCall, ← call_eq_actAll, ← ih]
    exact List.filter_append ..

theorem countP_told (p q : Phase) (log : List Record) :
    (told log).countP (Record.moves p q) = log.countP (Record.moves p q) := by
  rw [told, List.countP_filter]
  refine List.countP_congr fun r _ => ?_
  -- a record of a way between phases is the monitor's
  cases r <;> simp [Record.moves, Record.target]

/-- **The log of a session is its audit trail.**

Take a new monitor through any session.  No record of it is finer than DEBUG.  Those that the
monitor made stand for the markers that it evaluated before it halted, one for one and in
order: each accepted marker has the record of its way from phase to phase, or the warning of
the duplicate, and the violation, if there is one, has the last.  The ways are rows of the
table, lead from the idle phase to that of the monitor without a gap, and the three counters
are the numbers of those that begin, merge or complete a checkpoint.

A run after the session adds to the log what its monitor has to say, and then at most one record
more: how many lines it read, as it was interrupted or as its stream was over. -/
theorem session_journal (calls : List Call) :
    let m := callAll {} calls
    let log := logOf {} calls
    let told := log.filter fun r => r.target = "persist_monitor::machine"
    let ts := along transitions {} (actsOf {} calls)
    (∀ r ∈ log, r.level.verbosity ≤ Log.Level.debug.verbosity) ∧
    (ts.map Transition.marker ++ (m.violation.map Violation.marker).toList
        = along evaluated {} (actsOf {} calls) ∧
      told = ts.map Record.ofTransition ++ (m.violation.map Record.violation).toList ∧
      told.map (fun r => (r.level, r.message))
        = ts.map Transition.account ++ (m.violation.map fun v => (.error, v.message)).toList ∧
      (∀ t ∈ ts, t.IsRow) ∧ Transition.Linked .idle ts m.phase ∧
      ∀ v, m.violation = some v → v.phase = m.phase ∧ v.phase.answer v.marker = .refuse) ∧
    (m.tally.recoveriesTriggered = log.countP (Record.moves .idle .triggered) ∧
      m.tally.persistsQueued = log.countP (Record.moves .triggered .queued) ∧
      m.cyclesCompleted = log.countP (Record.moves .bufferCleared .idle)) ∧
    ∀ source sink shutdown,
      let finished := Watch.run { monitor := m, source, sink, shutdown }
      ∃ said closing,
        logOf {} (calls ++ [.watch source sink shutdown]) = log ++ (said ++ closing) ∧
        finished.watch.log.toList = said ++ closing ∧
        (∀ r ∈ said, r.target = "persist_monitor::machine") ∧
        ((∃ o, finished.outcome? = some o ∧ o.termination = .interrupted ∧
            closing.map Record.message = ["Shutdown requested after " ++ o.linesEchoed.repr ++ " lines"]) ∨
          (∃ o, finished.outcome? = some o ∧ o.termination = .endOfStream ∧
            closing.map Record.message = ["Line source closed after " ++ o.linesEchoed.repr ++ " lines"]) ∨
          (∀ o, finished.outcome? = some o →
            o.termination ≠ .interrupted ∧ o.termination ≠ .endOfStream) ∧ closing = []) := by
  intro m log told ts
  obtain ⟨htrail, hrecords⟩ := trail_actAll (m := {}) rfl (actsOf {} calls)
  have hm : m = actAll {} (actsOf {} calls) := callAll_eq_actAll {} calls
  have htold : told = accountOf ts m.violation := by
    rw [show accountOf ts m.violation = _ from (hm ▸ hrecords).symm]
    exact told_logOf {} calls
  rw [← hm] at htrail
  -- the ways in the log are those in the trail
  have hcount : ∀ p q, ts.countP (Transition.moves p q) = log.countP (Record.moves p q) := by
    intro p q
    rw [← countP_told, ← countP_accountOf p q ts m.violation, ← htold]
    rfl
  refine ⟨fun r _ => r.verbosity_le,
    ⟨htrail.markers, htold, ?_, htrail.rows, htrail.linked, htrail.refused⟩, ⟨?_, ?_, ?_⟩, ?_⟩
  · rw [htold, accountOf, List.map_append, List.map_map]
    congr 1
    · exact List.map_congr_left fun t _ => t.account_eq.symm
    · rcases m.violation with - | v <;> rfl
  · rw [← hcount]
    exact htrail.recoveries.trans (Nat.zero_add _)
  · rw [← hcount]
    exact htrail.queued.trans (Nat.zero_add _)
  · rw [← hcount]
    exact htrail.cycles.trans (Nat.zero_add _)
  · intro source sink shutdown finished
    have hlog : finished.watch.log.toList = _ := Watch.log_run _
    rw [List.nil_append] at hlog
    refine ⟨_, _, ?_, hlog, fun r => target_of_mem_along, Watch.closing_cases finished⟩
    rw [logOf_append, ← hlog]
    exact congrArg _ (List.append_nil _)

/-- A line that was accepted in part is told in full, and nothing is told of what came after it. -/
theorem journal_of_line_accepted_in_part :
    let calls : List Call :=
      [.readLine "restore finished? persist was triggered" 3, .observe .persistTriggered]
    let m := callAll {} calls
    logOf {} calls
        = [.advanced .persistTriggered .idle .triggered, .violation ⟨.restoreFinished, .triggered, some 3⟩] ∧
      m.tally.recoveriesTriggered = 1 ∧
      along evaluated {} (actsOf {} calls) = [.persistTriggered, .restoreFinished] := by
  intro calls m
  obtain ⟨-, ⟨hmarkers, -⟩, ⟨hrecoveries, -⟩, -⟩ := session_journal calls
  have hlog : logOf {} calls
      = [.advanced .persistTriggered .idle .triggered, .violation ⟨.restoreFinished, .triggered, some 3⟩] := by
    decide
  have hm : (callAll {} calls).violation = some ⟨.restoreFinished, .triggered, some 3⟩ := by decide
  have hts : along transitions {} (actsOf {} calls) = [.advanced .persistTriggered .idle .triggered] := by decide
  rw [hlog] at hrecoveries
  rw [hm, hts] at hmarkers
  exact ⟨hlog, hrecoveries, hmarkers.symm⟩

end Monitor

end CheckpointMonitor

/-
CheckpointMonitor/Proofs/Watch/Cutting.lean

A run does not depend on how bytes come and go in pieces.

What counts of a source is what it delivers, and of a sink what it takes in all; where
no shutdown is requested, that decides the whole run (`run_of_delivery`).  The sources need not
keep step with each other: what is in step are the lines that are read from them.
-/
import CheckpointMonitor.Proofs.FileTree
import CheckpointMonitor.Proofs.Watch.Interruption

namespace CheckpointMonitor.Watch

variable {w w' : Watch}

/-- **Runs over sources with the same delivery come to the same,** if nothing is requested on
either. -/
theorem run_of_delivery (h : w.Alike w') (hconsumed : w.consumed = w'.consumed) (hquiet : w.Quiet)
    (hquiet' : w'.Quiet) (hdelivery : w.source.delivery = w'.source.delivery) :
    Finished.Same w.run w'.run := by
  refine h.run_same
    (P := fun source source' =>
      source.requests = 0 ∧ source'.requests = 0 ∧ source.delivery = source'.delivery)
    ?_ hconsumed hquiet' ⟨hquiet.requests, hquiet'.requests, hdelivery⟩ hquiet.not_interrupted
  rintro source source' ⟨hrequests, hrequests', hdelivery⟩ -
  obtain ⟨hbytes, hending, hrest⟩ := Source.readLine_of_delivery hrequests hrequests' hdelivery
  have hle := source.requests_rest_le false
  have hle' := source'.requests_rest_le false
  exact ⟨hbytes, hending, fun hcomplete => ⟨by omega, by omega, hrest hcomplete⟩⟩

/-- **A run does not depend on the pieces in which bytes come and go.**

Let two sources, on which no shutdown is requested, deliver the same bytes with the same ending, and
let two sinks differ at most in how much a single write takes, if it takes anything at all.  Then the
runs of a monitor over them come to the same: the outcome or the failure, the bytes in the sink and
the flushes, the bytes taken from the source, the monitor and the log.

So it is for a capture: what stands under a path, opened and watched, comes to what its delivery
comes to from any other source, be it the whole content of a file or, where reading it fails, what comes
before the failure. -/
theorem run_independent_of_pieces (m : Monitor) {source source' : Source} {sink : Sink}
    {perWrite : Option Nat} (hsource : source.requests = 0) (hsource' : source'.requests = 0)
    (hdelivery : source.delivery = source'.delivery) (hperWrite : sink.perWrite ≠ some 0)
    (hperWrite' : perWrite ≠ some 0) (hshutdown : sink.shutdownFlush = none) :
    let finished := run { monitor := m, source, sink }
    Finished.Same finished (run { monitor := m, source := source', sink := { sink with perWrite } }) ∧
    ∀ (files : Files) (path : String) (node : FileTree.Node), files path = .ok node →
      source.delivery = node.delivery →
      ∃ replayed, files.source path = .ok replayed ∧
        Finished.Same finished
          (run { monitor := m, source := replayed, sink := { sink with perWrite } }) := by
  intro finished
  have hsame : ∀ other : Source, other.requests = 0 → source.delivery = other.delivery →
      Finished.Same finished (run { monitor := m, source := other, sink := { sink with perWrite } }) := by
    intro other hother hdelivery
    have hsink : sink.Alike { sink with perWrite } :=
      ⟨iff_of_false hperWrite hperWrite', rfl, rfl, rfl, rfl, rfl⟩
    exact run_of_delivery ⟨rfl, hsink, rfl, rfl⟩ rfl ⟨rfl, hsource, hshutdown⟩ ⟨rfl, hother, hshutdown⟩
      hdelivery
  refine ⟨hsame source' hsource' hdelivery, ?_⟩
  intro files path node hnode hcontent
  obtain ⟨replayed, hopen, hrequests, hreplayed⟩ := Files.source_of_node hnode
  exact ⟨replayed, hopen, hsame replayed hrequests (hcontent.trans hreplayed.symm)⟩

/-- A marker and a line feed that fall across pieces, before a read that fails; and captures, read back
from a file that is whole and from one that fails at the same place. -/
theorem same_of_marker_across_pieces :
    let pieces : Source :=
      [.data (Utf8.encode "persist was tri"), .pending, .data [], .failure ⟨.interrupted, none⟩,
        .data (Utf8.encode "ggered"), .data (Utf8.encode "\nres")]
    let content := Utf8.encode "persist was triggered\nres"
    let failure : Source.Arrival := .failure ⟨.timedOut, none⟩
    let files : Files := fun path =>
      if path = "capture.log" then .ok (.file content) else .ok (.broken content ⟨.timedOut, none⟩)
    let sink : Sink := { perWrite := some 1, capacity := some 40 }
    (Source.requests (pieces ++ [failure, .data [lineFeed]]) = 0 ∧
        Source.requests [.data content, failure] = 0 ∧
        Source.delivery (pieces ++ [failure, .data [lineFeed]])
          = Source.delivery [.data content, failure]) ∧
      (sink.perWrite ≠ some 0 ∧ (none : Option Nat) ≠ some 0 ∧ sink.shutdownFlush = none) ∧
      Finished.Same (run { source := pieces ++ [failure, .data [lineFeed]], sink })
        (run { source := [.data content, failure], sink := { sink with perWrite := none } }) ∧
      (∃ replayed, files.source "capture.log" = .ok replayed ∧
        Finished.Same (run { source := pieces, sink })
          (run { source := replayed, sink := { sink with perWrite := none } })) ∧
      ∃ replayed, files.source "broken.log" = .ok replayed ∧
        Finished.Same (run { source := pieces ++ [failure, .data [lineFeed]], sink })
          (run { source := replayed, sink := { sink with perWrite := none } }) := by
  intro pieces content failure files sink
  have hsink : sink.perWrite ≠ some 0 := by decide
  have hnone : (none : Option Nat) ≠ some 0 := by decide
  have hrequests : Source.requests (pieces ++ [failure, .data [lineFeed]]) = 0 := by decide
  have hrequests' : Source.requests [.data content, failure] = 0 := by decide
  have hdelivery : Source.delivery (pieces ++ [failure, .data [lineFeed]])
      = Source.delivery [.data content, failure] := by decide
  obtain ⟨hsame, hbroken⟩ := run_independent_of_pieces {} hrequests hrequests' hdelivery hsink hnone rfl
  obtain ⟨-, hfile⟩ := run_independent_of_pieces {} (show pieces.requests = 0 by decide)
    (show pieces.requests = 0 by decide) rfl hsink hnone rfl
  exact ⟨⟨hrequests, hrequests', hdelivery⟩, ⟨hsink, hnone, rfl⟩, hsame,
    hfile files "capture.log" (.file content) rfl (by decide),
    hbroken files "broken.log" (.broken content ⟨.timedOut, none⟩) rfl (by decide)⟩

end CheckpointMonitor.Watch

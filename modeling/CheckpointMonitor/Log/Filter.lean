/-
CheckpointMonitor/Log/Filter.lean

Which diagnostics are shown.  A filter is a list of directives, parted by commas.
Of the directives that cover a record the one with the longest target decides; of
several with the same target one about a field comes before one about none, and a
later one before an earlier one.  What no directive covers is not shown.
-/
import CheckpointMonitor.Log.Directive

namespace CheckpointMonitor.Log

/-- Which diagnostics are shown. -/
abbrev Filter := List Directive

namespace Filter

/-- Reads a filter; nothing between two commas is no directive. -/
def parse (text : String) : Except FilterError Filter :=
  ((text.splitOn ",").filter (· ≠ "")).mapM Directive.parse

/-- The directive that decides about a record: the last of the most special ones that cover it. -/
def deciding? (filter : Filter) (record : Record) : Option Directive :=
  (filter.filter (·.covers record)).foldl (fun best directive =>
    match best with
    | some other => if other.yieldsTo directive then some directive else best
    | none => some directive) none

/-- Whether a record is shown. -/
def admits (filter : Filter) (record : Record) : Bool :=
  match filter.deciding? record with
  | some directive => directive.threshold.admits record.level
  | none => false

end Filter

end CheckpointMonitor.Log

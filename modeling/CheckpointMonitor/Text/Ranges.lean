/-
CheckpointMonitor/Text/Ranges.lean

Classes of characters as ranges of code points.
-/

namespace CheckpointMonitor.Text

/-- Ranges of code points, each given by its first and its last. -/
abbrev Ranges := List (Nat × Nat)

/-- Whether a character lies in one of the ranges. -/
def Ranges.has (ranges : Ranges) (c : Char) : Bool :=
  ranges.any fun (first, last) => first ≤ c.toNat && c.toNat ≤ last

end CheckpointMonitor.Text

/-
CheckpointMonitor/Log/Level.lean

How weighty a diagnostic is.
-/

namespace CheckpointMonitor.Log

/-- The weight of a diagnostic, from the heaviest down. -/
inductive Level where
  | error
  | warn
  | info
  | debug
  | trace
  deriving DecidableEq

namespace Level

/-- The levels from the heaviest down. -/
def all : List Level := [error, warn, info, debug, trace]

/-- The level's name as it is printed. -/
def name : Level → String
  | error => "ERROR"
  | warn => "WARN"
  | info => "INFO"
  | debug => "DEBUG"
  | trace => "TRACE"

/-- The level's place, counted from one for the heaviest. -/
def verbosity : Level → Nat
  | error => 1
  | warn => 2
  | info => 3
  | debug => 4
  | trace => 5

end Level

end CheckpointMonitor.Log

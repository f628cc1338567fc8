/-
CheckpointMonitor/Tally/Summary.lean

The report that closes a run: the two counters, as a block of text for readers
or as one line of JSON for programs.
-/
import CheckpointMonitor.Tally
import CheckpointMonitor.Channel.Sink
import CheckpointMonitor.Text.Utf8

namespace CheckpointMonitor.Summary

/-- The forms of the report. -/
inductive Format where
  | text
  | json
  deriving DecidableEq

/-- A word that names no form of the report, in small letters. -/
structure UnknownFormat where
  word : String
  deriving DecidableEq

/-- The complaint about such a word. -/
def UnknownFormat.message (unknown : UnknownFormat) : String :=
  "unknown report format '" ++ unknown.word ++ "' (expected text or json)"

namespace Format

/-- The word for the form. -/
def name : Format → String
  | text => "text"
  | json => "json"

/-- The form with exactly this name. -/
def ofName? (word : String) : Option Format :=
  [text, json].find? (·.name == word)

/-- The form that the user's word names, ASCII capitals counting as small letters. -/
def parse (word : String) : Except UnknownFormat Format :=
  let lowered := word.map Char.toLower
  match ofName? lowered with
  | some format => .ok format
  | none => .error ⟨lowered⟩

end Format

/-- The block of text. -/
def renderText (tally : Tally) : String :=
  "\n########## STATISTICS ##########\n" ++
  "Total Recoveries Executed: " ++ tally.recoveriesTriggered.repr ++ "\n" ++
  "Recoveries Queued: " ++ tally.persistsQueued.repr ++ "\n" ++
  "################################\n"

/-- The line of JSON. -/
def renderJson (tally : Tally) : String :=
  "\x7b\"recoveries_triggered\":" ++ tally.recoveriesTriggered.repr ++
  ",\"persists_queued\":" ++ tally.persistsQueued.repr ++ "\x7d\n"

/-- The report in the given form. -/
def render (tally : Tally) : Format → String
  | .text => renderText tally
  | .json => renderJson tally

/-- Writes the whole report and then flushes once. -/
def write (tally : Tally) (format : Format) (sink : Sink) : Except Sink.Failure Sink := do
  let sink ← sink.writeAll (Utf8.encode (render tally format))
  sink.flush

end CheckpointMonitor.Summary

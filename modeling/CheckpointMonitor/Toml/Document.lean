/-
CheckpointMonitor/Toml/Document.lean

A TOML document as an ordered table, and how its lines build it up.

Keys keep the order in which they were written, and every value knows where it
stands in the text.  A table is opened by a header, by a dotted key, between
braces, or only implied by a header of something inside it, and this decides by
what it may be added to later:

* a dotted key may go through tables made by dotted keys or implied by headers,
  and through the last table of an array of tables, but only a table made by
  dotted keys takes a further entry that way;
* a header may go through any table that is not between braces, and through the
  last table of an array of tables; it may take over a table that was only
  implied, and this table then moves to the end of the one that holds it.
-/
import CheckpointMonitor.Decimal.Binary64

namespace CheckpointMonitor.Toml

/-- A stretch of the text, in bytes from its beginning. -/
structure Span where
  start : Nat
  stop : Nat
  deriving DecidableEq

/-- The stretch from the beginning of one to the end of the other. -/
def Span.to (a b : Span) : Span :=
  ⟨a.start, b.stop⟩

/-- A key as it is written. -/
structure Key where
  name : String
  span : Span
  deriving DecidableEq

/-- A value that holds no further values. -/
inductive Scalar where
  | string (text : String)
  | integer (value : Int)
  | float (value : Decimal.Binary64)
  | boolean (value : Bool)
  /-- A date, a time of day or both. -/
  | moment
  deriving DecidableEq

/-- How a table came to be. -/
inductive TableKind where
  /-- Opened by a header of its own. -/
  | header
  /-- Implied by the header of something inside it. -/
  | implied
  /-- Made by a dotted key. -/
  | dotted
  /-- Written between braces. -/
  | braces
  deriving DecidableEq

/-- What stands under a key. -/
inductive Node where
  | scalar (value : Scalar) (span : Span)
  | array (elements : List Node) (span : Span)
  /-- A table; only headers and braces have a place of their own. -/
  | table (kind : TableKind) (span : Option Span) (entries : List (Key × Node))
  /-- An array of tables, each opened by a header. -/
  | tables (elements : List (Span × List (Key × Node)))

/-- The entries of a table, in order. -/
abbrev Entries := List (Key × Node)

/-- The place of a value, if it has one of its own. -/
def Node.span? : Node → Option Span
  | scalar _ span => some span
  | array _ span => some span
  | table _ span _ => span
  | tables elements =>
    match elements.head?, elements.getLast? with
    | some (first, _), some (last, _) => some (first.to last)
    | _, _ => none

/-- Why the lines do not make up a document. -/
inductive BuildError where
  /-- The key stands for something already that cannot be added to. -/
  | duplicate (key : Key)
  /-- The key stands for a value that is no table. -/
  | notTable (key : Key)
  deriving DecidableEq

namespace Entries

/-- What stands under a name. -/
def find? (entries : Entries) (name : String) : Option Node :=
  (List.find? (·.1.name == name) entries).map (·.2)

/-- The entries without the one of the given name. -/
def erase (entries : Entries) (name : String) : Entries :=
  entries.filter (·.1.name != name)

/-- The entries with another value under a name that they hold; the key stays as first written. -/
def replace (entries : Entries) (name : String) (node : Node) : Entries :=
  entries.map fun (key, old) => if key.name == name then (key, node) else (key, old)

/-- The entries with one more at the end. -/
def append (entries : Entries) (key : Key) (node : Node) : Entries :=
  entries ++ [(key, node)]

/-- How tables are passed on the way along a path. -/
inductive Way where
  /-- Along the parts of a dotted key. -/
  | byKey
  /-- Along the parts of a header. -/
  | byHeader
  deriving DecidableEq

/-- What a table is that is made on the way. -/
def Way.makes : Way → TableKind
  | byKey => .dotted
  | byHeader => .implied

/-- Whether a table may be passed on the way. -/
def Way.passes : Way → TableKind → Bool
  | byKey, .dotted | byKey, .implied => true
  | byKey, _ => false
  | byHeader, .braces => false
  | byHeader, _ => true

/-- Changes the entries of the table at the end of a path, making the tables on the way that are
missing.  `change` is told what kind of table it has come to; `kind` is that of the first. -/
def within (way : Way) (change : TableKind → Entries → Except BuildError Entries) (kind : TableKind)
    (entries : Entries) : List Key → Except BuildError Entries
  | [] => change kind entries
  | key :: path =>
    match entries.find? key.name with
    | none => do
      let inner ← within way change way.makes [] path
      return entries.append key (.table way.makes none inner)
    | some (.table kind span inner) =>
      if way.passes kind then do
        let inner ← within way change kind inner path
        return entries.replace key.name (.table kind span inner)
      else .error (.duplicate key)
    | some (.tables elements) =>
      match elements.getLast? with
      | none => .error (.notTable key)
      | some (span, inner) => do
        let inner ← within way change .header inner path
        return entries.replace key.name (.tables (elements.dropLast ++ [(span, inner)]))
    | some _ => .error (.notTable key)

end Entries

/-- A line that gives a key its value: the parts of the key before the last, the last, the value. -/
structure Assignment where
  path : List Key
  key : Key
  node : Node

/-- Adds the value of one line to a table of the given kind. -/
def Assignment.addTo (line : Assignment) (kind : TableKind) (entries : Entries) :
    Except BuildError Entries :=
  let add (reached : TableKind) (entries : Entries) : Except BuildError Entries :=
    -- a dotted key adds to nothing but tables made by dotted keys
    if !line.path.isEmpty && reached != .dotted then .error (.duplicate line.key)
    else match entries.find? line.key.name with
      | some _ => .error (.duplicate line.key)
      | none => .ok (entries.append line.key line.node)
  entries.within .byKey add kind line.path

/-- Adds the values of several lines to a table of the given kind. -/
def Assignment.addAll (kind : TableKind) (entries : Entries) (lines : List Assignment) :
    Except BuildError Entries :=
  lines.foldlM (fun entries line => line.addTo kind entries) entries

/-- A header: the parts of its name before the last, the last, its place, and whether it opens a
table of an array. -/
structure Header where
  path : List Key
  key : Key
  span : Span
  ofArray : Bool

/-- A header with the lines under it. -/
structure Block where
  header : Header
  lines : List Assignment

/-- The place of a block's table: its header, and on to the end of its last value. -/
def Block.span (block : Block) : Span :=
  match block.lines.getLast?.bind (·.node.span?) with
  | none => block.header.span
  | some last => block.header.span.to last

/-- Adds the table of a block to the entries of the table that its header leads to. -/
def Block.place (block : Block) (_ : TableKind) (entries : Entries) : Except BuildError Entries := do
  let key := block.header.key
  match block.header.ofArray, entries.find? key.name with
  | true, none =>
    let inner ← Assignment.addAll .header [] block.lines
    return entries.append key (.tables [(block.span, inner)])
  | true, some (.tables elements) =>
    let inner ← Assignment.addAll .header [] block.lines
    return entries.replace key.name (.tables (elements ++ [(block.span, inner)]))
  | false, none =>
    let inner ← Assignment.addAll .header [] block.lines
    return entries.append key (.table .header (some block.span) inner)
  | false, some (.table .implied _ old) =>
    let inner ← Assignment.addAll .header old block.lines
    return (entries.erase key.name).append key (.table .header (some block.span) inner)
  | _, some _ => .error (.duplicate key)

/-- Builds a document from the lines before the first header and the blocks after them. -/
def Entries.ofBlocks (lines : List Assignment) (blocks : List Block) : Except BuildError Entries := do
  let root ← Assignment.addAll .header [] lines
  blocks.foldlM (fun root block => root.within .byHeader block.place .header block.header.path) root

end CheckpointMonitor.Toml

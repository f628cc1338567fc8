/-
CheckpointMonitor/FileTree.lean

The files that a run can open, and what opening one by its path answers.

A path is walked component by component from the working directory.  Every step,
also one by `.`, `..` or nothing (a doubled or a last `/`), starts from a
directory; a name leads to what the directory holds under it.  Above the working
directory, and from the root, only the way up is known.

What opens need not be read to its end: a directory cannot be read at all, and a
broken file only up to some place.
-/
import CheckpointMonitor.Channel.Source
import CheckpointMonitor.Text.Utf8

namespace CheckpointMonitor

/-- Why a file cannot be opened or read. -/
inductive AccessError where
  | notFound
  | notDirectory
  | isDirectory
  | nameTooLong
  /-- The path holds a character that no path may hold. -/
  | nulInPath
  /-- The file was to be read as text and is none. -/
  | notText
  /-- Any other reason, in the system's words. -/
  | other (text : String)
  deriving DecidableEq

namespace AccessError

/-- The reason in words. -/
def text : AccessError → String
  | notFound => "No such file or directory (os error 2)"
  | notDirectory => "Not a directory (os error 20)"
  | isDirectory => "Is a directory (os error 21)"
  | nameTooLong => "File name too long (os error 36)"
  | nulInPath => "file name contained an unexpected NUL byte"
  | notText => "stream did not contain valid UTF-8"
  | other text => text

/-- The reason as a failure of a channel. -/
def fault (error : AccessError) : Fault :=
  let kind := match error with
    | notFound => .notFound
    | notText => .invalidData
    | _ => .other
  ⟨kind, some error.text⟩

end AccessError

/-- What stands under a name. -/
inductive FileTree.Node where
  | file (content : List UInt8)
  /-- A file that is read up to a place at which reading it fails for good. -/
  | broken (content : List UInt8) (fault : Fault) (final : fault.isRetried = false := by rfl)
  | directory

/-- The working directory: what stands under which path from there, each path given by its
components.  The directories above an entry are implied. -/
structure FileTree where
  entries : List (List String × FileTree.Node) := []

/-- Opens what stands under a path. -/
abbrev Files := String → Except AccessError FileTree.Node

namespace FileTree

/-- The components of a path. -/
def components (path : String) : List String :=
  path.splitOn "/"

/-- The tree with one more entry. -/
def add (tree : FileTree) (path : String) (node : Node) : FileTree :=
  { tree with entries := tree.entries ++ [(components path, node)] }

/-- What stands under the components, seen from the working directory. -/
def node? (tree : FileTree) (path : List String) : Option Node :=
  match tree.entries.find? (·.1 == path) with
  | some (_, node) => some node
  | none => if tree.entries.any (path.isPrefixOf ·.1) || path.isEmpty then some .directory else none

/-- How far the walk along a path has come. -/
inductive Place where
  /-- At what stands under the components. -/
  | inside (path : List String) (node : Node)
  /-- Above the working directory. -/
  | above

/-- The greatest number of bytes in a name. -/
def nameLimit : Nat := 255

/-- The number of bytes at which a path is too long. -/
def pathLimit : Nat := 4096

/-- The next place of the walk. -/
def walk (tree : FileTree) (place : Place) (component : String) : Except AccessError Place :=
  match place with
  | .inside _ (.file _) | .inside _ (.broken ..) => .error .notDirectory
  | .inside path .directory =>
    if component = "" ∨ component = "." then .ok place
    else if component = ".." then
      if path.isEmpty then .ok .above else .ok (.inside path.dropLast .directory)
    else if component.utf8ByteSize > nameLimit then .error .nameTooLong
    else match tree.node? (path ++ [component]) with
      | some node => .ok (.inside (path ++ [component]) node)
      | none => .error .notFound
  | .above =>
    if component = "" ∨ component = "." ∨ component = ".." then .ok .above
    else if component.utf8ByteSize > nameLimit then .error .nameTooLong
    else .error .notFound

/-- Opens what stands under a path. -/
def lookup (tree : FileTree) : Files := fun path =>
  if path.contains '\x00' then .error .nulInPath
  else if path.isEmpty then .error .notFound
  else if path.utf8ByteSize ≥ pathLimit then .error .nameTooLong
  else
    let start := if path.startsWith "/" then .above else .inside [] .directory
    match (components path).foldlM tree.walk start with
    | .error error => .error error
    | .ok (.inside _ node) => .ok node
    | .ok .above => .ok .directory

end FileTree

namespace Files

/-- The content of a file as a stream of lines, up to where reading it fails.  A directory can be opened
but not read. -/
def source (files : Files) (path : String) : Except AccessError Source :=
  match files path with
  | .error error => .error error
  | .ok (.file content) => .ok [.data content]
  | .ok (.broken content fault _) => .ok [.data content, .failure fault]
  | .ok .directory => .ok [.failure AccessError.isDirectory.fault]

/-- The content of a file as text. -/
def readText (files : Files) (path : String) : Except AccessError String :=
  match files path with
  | .error error => .error error
  | .ok .directory => .error .isDirectory
  | .ok (.broken _ fault _) => .error (.other fault.text)
  | .ok (.file content) =>
    match Utf8.decode? content with
    | some text => .ok text
    | none => .error .notText

end Files

end CheckpointMonitor

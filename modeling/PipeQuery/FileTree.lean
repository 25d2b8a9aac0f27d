import PipeQuery.Fault
import PipeQuery.OrderedMap
import PipeQuery.Text.Lines
import PipeQuery.Text.Utf8

/-!
# File trees

Files and directories as a value: the paths below a root with what they hold.
-/

namespace PipeQuery

/-- What a path holds. -/
inductive FileNode where
  | directory
  | file (bytes : List UInt8)
  deriving DecidableEq

/-- The names on the way to a file. -/
abbrev FilePath := List String

/-- Paths below a root, which is shown by a name of its own or, where paths are
relative, by none. -/
structure FileTree where
  root : String
  nodes : OrderedMap FilePath FileNode

namespace FileTree

/-- The names in a path; empty ones and single points stand for nothing. -/
def pathOf (text : String) : FilePath :=
  ((Text.splitOn '/' text.toList).map String.ofList).filter fun name => name != "" && name != "."

/-- A path as it is shown. -/
def shownPath (tree : FileTree) (path : FilePath) : String :=
  let names := (if tree.root.isEmpty then [] else [tree.root]) ++ path
  if names.isEmpty then "." else Text.join "/" names

/-- There is a directory at the path; directories are there as soon as
something is below them. -/
def isDirectory (tree : FileTree) (path : FilePath) : Bool :=
  path.isEmpty || tree.nodes.entries.any fun e =>
    path.isPrefixOf e.1 && (e.1 != path || e.2 == .directory)

/-- Follows a path from the end of the way so far, which is reversed.  A step
up undoes the step before it, and only a directory can be left. -/
def follow (tree : FileTree) (way : FilePath) : FilePath → Option FilePath
  | [] => some way.reverse
  | name :: rest =>
    if tree.isDirectory way.reverse then
      tree.follow (if name == ".." then way.drop 1 else name :: way) rest
    else none

/-- What is at the end of the path has this path, without steps up. -/
def resolve? (tree : FileTree) (path : FilePath) : Option FilePath :=
  (tree.follow [] path).filter fun way => way.isEmpty || tree.nodes.keys.any way.isPrefixOf

/-- There is a file or a directory at the path. -/
def contains (tree : FileTree) (path : FilePath) : Bool := (tree.resolve? path).isSome

/-- The bytes of a file. -/
def bytes? (tree : FileTree) (path : FilePath) : Option (List UInt8) :=
  match (tree.resolve? path).bind tree.nodes.get? with
  | some (.file bytes) => some bytes
  | _ => none

/-- The order of paths, name by name. -/
def pathLe : FilePath → FilePath → Bool
  | [], _ => true
  | _ :: _, [] => false
  | a :: rest, b :: others => if a == b then pathLe rest others else decide (a < b)

/-- The files at or below a path with their bytes, in the order of their
paths. -/
def filesUnder (tree : FileTree) (path : FilePath) : List (FilePath × List UInt8) :=
  let found := tree.nodes.entries.filterMap fun e =>
    match tree.resolve? path, e.2 with
    | some way, .file bytes => if way.isPrefixOf e.1 then some (e.1, bytes) else none
    | _, _ => none
  found.mergeSort fun a b => pathLe a.1 b.1

end FileTree

/-! ## Texts of files -/

/-- A text with plain line breaks.  Where its bytes break off, it holds the
lines that ended before. -/
structure FileText where
  chars : List Char
  fault? : Option Fault

namespace FileText

/-- The text in some bytes. -/
def ofBytes (bytes : List UInt8) : FileText :=
  let readable := Text.Utf8.read bytes
  match readable.fault? with
  | none => ⟨Text.plainBreaks readable.chars, none⟩
  | some fault => ⟨Text.endedLines readable.chars, some (.malformedText fault)⟩

/-- The whole text, or why there is none. -/
def whole (t : FileText) : Except Fault (List Char) :=
  match t.fault? with
  | none => .ok t.chars
  | some fault => .error fault

/-- The fault behind what can be read. -/
def ending {α : Type} (t : FileText) : List (Except Fault α) := (t.fault?.map .error).toList

end FileText

/-! ## Names of files -/

/-- The name before its last point and the rest from there on, which is empty
if nothing stands before or behind that point. -/
def splitSuffix (name : String) : String × String :=
  let suffix := (name.toList.reverse.takeWhile (· != '.')).reverse
  let stem := name.toList.take (name.toList.length - suffix.length - 1)
  if suffix.isEmpty || stem.isEmpty || suffix.length = name.toList.length then (name, "")
  else (String.ofList stem, String.ofList ('.' :: suffix))

end PipeQuery

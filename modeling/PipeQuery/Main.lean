import PipeQuery.Cli.Session
import PipeQuery.Platform.Standard

/-!
# The command line

The program runs one command.  The files that it works on come on standard
input, one JSON list of a path and a text on each line; what the command prints
goes to standard output and its log to standard error.
-/

namespace PipeQuery.Cli

/-- The file on a line of input. -/
def fileOnLine? (line : String) : Option (FilePath × FileNode) :=
  match Json.read line.toList with
  | .ok (.list [.text path, .text content]) =>
    some (FileTree.pathOf path, .file content.toUTF8.toList)
  | _ => none

/-- The files on all lines of input. -/
def treeOfLines (lines : List String) : FileTree :=
  ⟨"", .ofList (lines.filterMap fileOnLine?)⟩

/-- Cells with bars between them. -/
def shownRow (cells : List String) : String := Text.join " | " cells

/-- What is printed, line by line. -/
def Printed.lines : Printed → List String
  | .line text => [text]
  | .table t => t.title :: shownRow t.columns :: t.rows.map shownRow

/-- A line of the log as it is written. -/
def shownLogLine (line : LogLine) : String :=
  line.level.name ++ " [" ++ loggerName line.logger ++ "] " ++ line.message

/-- The lines of a stream, up to its end. -/
partial def readLines (stream : IO.FS.Stream) (read : List String) : IO (List String) := do
  let line ← stream.getLine
  if line.isEmpty then return read.reverse else readLines stream (line :: read)

end PipeQuery.Cli

open PipeQuery PipeQuery.Cli in
/-- Runs the command in the directory that it is called in. -/
def main (words : List String) : IO UInt32 := do
  let input ← readLines (← IO.getStdin) []
  let outcome := Cli.run (treeOfLines input) "-" words
  for line in outcome.log do IO.eprintln (shownLogLine line)
  for printed in outcome.printed do
    for line in printed.lines do IO.println line
  match outcome.fault with
  | some fault => IO.eprintln fault.message
  | none => pure ()
  return outcome.code.toUInt32

import PipeQuery.Datum.Basic

/-!
# Reading CSV

Rows of cells between commas.  A cell in double quotes may hold commas and line
breaks, and a quote in it is written twice.  A quote inside a cell that does
not start with one is a character like any other.
-/

namespace PipeQuery.Csv

/-- Where in a row a reader is. -/
inductive Place where
  | rowStart
  | cellStart
  | inCell
  | inQuotes
  /-- Behind a quote inside quotes. -/
  | behindQuote
  deriving DecidableEq

/-- The row being read: its cells and, in reverse, the characters of the cell
being read. -/
structure Row where
  place : Place
  cells : List String
  cell : List Char

namespace Row

/-- A row of which nothing has been read. -/
def start : Row := ⟨.rowStart, [], []⟩

/-- Adds a character to the cell. -/
def push (row : Row) (place : Place) (c : Char) : Row := ⟨place, row.cells, c :: row.cell⟩

/-- Ends the cell. -/
def endCell (row : Row) : Row := ⟨.cellStart, row.cells ++ [String.ofList row.cell.reverse], []⟩

/-- Takes a character that starts a cell. -/
def startCell (row : Row) (c : Char) : Row :=
  if c == '"' then { row with place := .inQuotes }
  else if c == ',' then row.endCell
  else row.push .inCell c

/-- Takes a character that does not end the row. -/
def take (row : Row) (c : Char) : Row :=
  match row.place with
  | .rowStart | .cellStart => row.startCell c
  | .inCell => if c == ',' then row.endCell else row.push .inCell c
  | .inQuotes => if c == '"' then { row with place := .behindQuote } else row.push .inQuotes c
  | .behindQuote =>
    if c == '"' then row.push .inQuotes c
    else if c == ',' then row.endCell
    else row.push .inCell c

/-- All cells of the row. -/
def finish (row : Row) : List String :=
  if row.place = .rowStart then [] else row.endCell.cells

end Row

/-- The rows of a text, of which `row` is the first.  With `cut`, a row that
the text does not end is left out. -/
def rowsFrom (cut : Bool) (row : Row) : List Char → List (List String)
  | [] => if cut || row.place = .rowStart then [] else [row.finish]
  | c :: rest =>
    if c == '\n' && row.place != .inQuotes then row.finish :: rowsFrom cut .start rest
    else rowsFrom cut (row.take c) rest

/-- The rows of a text; an empty line is a row without cells. -/
def rows (cut : Bool) (cs : List Char) : List (List String) := rowsFrom cut .start cs

/-- A row under the names of the columns: missing cells are null, and those
that have no name are listed under null. -/
def entry (names row : List String) : List (Datum × Datum) :=
  let named := (names.zip row).map fun e => (Datum.text e.1, Datum.text e.2)
  let missing := (names.drop row.length).map fun name => (Datum.text name, Datum.null)
  let nameless := row.drop names.length
  Datum.settle (named ++ missing ++
    (if nameless.isEmpty then [] else [(Datum.null, Datum.list (nameless.map Datum.text))]))

/-- The rows below the first as mappings from the names in the first; rows
without cells are left out. -/
def items (cut : Bool) (cs : List Char) : List Datum :=
  match rows cut cs with
  | [] => []
  | names :: rest =>
    (rest.filter fun row => !row.isEmpty).map fun row => Datum.mapping (entry names row)

end PipeQuery.Csv

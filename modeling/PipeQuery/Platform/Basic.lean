import PipeQuery.Datum.Basic
import PipeQuery.Fault
import PipeQuery.Time.Zone

/-!
# The platform

What the program does not compute itself but takes from where it runs: the
installed time zones, the names of characters, the room on the stack, and the
reader of YAML.  All that is assumed of them is that there is the zone `UTC` and
that a pattern without groups finds room on the stack.
-/

namespace PipeQuery

/-- Where the program runs. -/
class Platform where
  /-- The time zone of a name, if it is installed. -/
  zone? : String → Option Zone
  zone?_utc : zone? "UTC" = some .utc
  /-- The character with a name such as `EM DASH`. -/
  character? : String → Option Char
  /-- A pattern whose parts are nested too deeply for the stack.  How deep that
  is depends on what they are, and on how much of the stack is taken already. -/
  outgrownBy : String → Bool
  outgrownBy_of_flat {source : String} (flat : '(' ∉ source.toList) : outgrownBy source = false
  /-- Reads one YAML document. -/
  readYaml : List Char → Except Fault Datum

attribute [simp] Platform.zone?_utc

end PipeQuery

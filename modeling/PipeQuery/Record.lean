import PipeQuery.Cell
import PipeQuery.Time.Timestamp

/-!
# Records

One log entry: its text, when and where it came from, how well it matched, and
the fields taken from it.
-/

namespace PipeQuery

/-- A log entry. -/
structure Record where
  raw : String
  timestamp : Option Timestamp
  source : Option String
  /-- The source it was found in. -/
  collection : Option String
  score : Binary64
  fields : Fields
  deriving DecidableEq, Inhabited

namespace Record

/-- The instant in milliseconds. -/
def millis? (r : Record) : Option Int := r.timestamp.map Timestamp.millis

/-- The text of a field. -/
def get? (r : Record) (field : String) : Option String := r.fields.get? field

/-- The record with other fields. -/
def withFields (r : Record) (fields : Fields) : Record := { r with fields := fields }

/-- The record as found in a source with a score. -/
def withHit (r : Record) (score : Binary64) (collection : String) : Record :=
  { r with score := score, collection := some collection }

section Hits

variable (r : Record) (score : Binary64) (collection : String)

@[simp]
theorem score_withHit : (r.withHit score collection).score = score := rfl

@[simp]
theorem collection_withHit : (r.withHit score collection).collection = some collection := rfl

@[simp]
theorem raw_withHit : (r.withHit score collection).raw = r.raw := rfl

@[simp]
theorem timestamp_withHit : (r.withHit score collection).timestamp = r.timestamp := rfl

@[simp]
theorem source_withHit : (r.withHit score collection).source = r.source := rfl

@[simp]
theorem fields_withHit : (r.withHit score collection).fields = r.fields := rfl

end Hits

end Record

end PipeQuery

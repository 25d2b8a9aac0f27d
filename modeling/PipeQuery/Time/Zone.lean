import PipeQuery.Time.Timestamp

/-!
# Time zones

A time zone is known by its offset from UTC, which may change from one second to
the next.
-/

namespace PipeQuery

/-- A time zone: the offset from UTC, in seconds, at each instant, given in
seconds from the epoch. -/
structure Zone where
  offsetAt : Int → Int

namespace Zone

/-- The zone without an offset. -/
def utc : Zone := ⟨fun _ => 0⟩

@[simp]
theorem offsetAt_utc (seconds : Int) : utc.offsetAt seconds = 0 := rfl

/-- A UTC timestamp on the clocks of the zone. -/
def show? (zone : Zone) (t : Timestamp) : Except TimeFault Timestamp :=
  let offset := zone.offsetAt (t.instant / microsPerSecond) * microsPerSecond
  let moved : Timestamp := ⟨t.instant + offset, offset⟩
  if Date.yearInRange moved.date.year then .ok moved else .error .dateOverflow

end Zone

end PipeQuery

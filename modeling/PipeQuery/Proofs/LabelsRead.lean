import PipeQuery.Proofs.ReadBack
import PipeQuery.Proofs.SpanCounts
import Mathlib.Data.List.TakeWhile

/-!
# Labels read as dates

The label of a span shows the date, the hour and the minute of its start.  Here a label
is read again (`readLabel?`): its numbers are taken as a minute of a day of the calendar,
whose instant is found by counting days, not by the cycles that the label was made with
(`Date.instantAt`).

* `readLabel?_minuteLabel`: what a day, an hour and a minute are shown as is read as their
  instant.
* `TimeChartStage.label_read`: the label of a whole minute is read as that minute.
* `TimeChartStage.labels_read_back`: so a chart in UTC has, for spans of whole minutes,
  labels that are read as the starts of its spans, one span after the other.
-/

namespace PipeQuery

/-! ## Reading -/

/-- The date, hour and minute of a label: a year of any number of digits, and two digits
for each of the others. -/
def labelParts? (label : String) : Option (Date × Nat × Nat) :=
  let year := label.toList.takeWhile Char.isDigit
  match label.toList.dropWhile Char.isDigit with
  | ['-', m, m', '-', d, d', ' ', h, h', ':', n, n'] =>
    if year ≠ [] ∧ [m, m', d, d', h, h', n, n'].all Char.isDigit = true then
      some (⟨numberOf year, numberOf [m, m'], numberOf [d, d']⟩, numberOf [h, h'], numberOf [n, n'])
    else none
  | _ => none

/-- The instant of a label in UTC, if it shows a minute that there is. -/
def readLabel? (label : String) : Option Int :=
  (labelParts? label).bind fun (date, hour, minute) =>
    if date.IsValid ∧ hour < 24 ∧ minute < 60 then some (date.instantAt hour minute) else none

/-- Both digits of a number below 100. -/
def twoDigits (n : Nat) : List Char := [Nat.digitChar (n / 10), Nat.digitChar (n % 10)]

theorem padded_two : ∀ n < 100, (Timestamp.padded 2 n).toList = twoDigits n := by decide +kernel

theorem numberOf_twoDigits : ∀ n < 100, numberOf (twoDigits n) = n := by decide +kernel

theorem all_twoDigits : ∀ n < 100, (twoDigits n).all Char.isDigit = true := by decide +kernel

/-- A date and a time, as a label shows them. -/
def minuteLabel (d : Date) (hour minute : Nat) : String :=
  shownInt d.year ++ "-" ++ Timestamp.padded 2 d.month ++ "-" ++ Timestamp.padded 2 d.day ++ " " ++
    (Timestamp.padded 2 hour ++ ":" ++ Timestamp.padded 2 minute)

section MinuteLabel

variable {d : Date} {hour minute : Nat}

theorem toList_minuteLabel (hyear : 0 ≤ d.year) (hmonth : d.month < 100) (hday : d.day < 100)
    (hhour : hour < 100) (hminute : minute < 100) :
    (minuteLabel d hour minute).toList = Nat.toDigits 10 d.year.natAbs ++
      ('-' :: (twoDigits d.month ++ '-' :: (twoDigits d.day ++ ' ' ::
        (twoDigits hour ++ ':' :: twoDigits minute)))) := by
  rw [minuteLabel, shownInt, if_neg (by omega)]
  simp [padded_two, hmonth, hday, hhour, hminute]

theorem labelParts?_minuteLabel (hyear : 0 ≤ d.year) (hmonth : d.month < 100) (hday : d.day < 100)
    (hhour : hour < 100) (hminute : minute < 100) :
    labelParts? (minuteLabel d hour minute) = some (d, hour, minute) := by
  have hdigits : ∀ c ∈ Nat.toDigits 10 d.year.natAbs, c.isDigit = true := fun _ =>
    isDigit_of_mem_toDigits
  have hall : (twoDigits d.month ++ twoDigits d.day ++ twoDigits hour ++ twoDigits minute).all
      Char.isDigit = true := by
    simp only [List.all_append, all_twoDigits, hmonth, hday, hhour, hminute, Bool.and_self]
  have hnumber : (numberOf (Nat.toDigits 10 d.year.natAbs) : Int) = d.year := by
    rw [numberOf_toDigits]
    omega
  unfold labelParts?
  rw [toList_minuteLabel hyear hmonth hday hhour hminute, List.takeWhile_append_of_pos hdigits,
    List.dropWhile_append_of_pos hdigits, List.takeWhile_cons_of_neg (by decide),
    List.dropWhile_cons_of_neg (by decide), List.append_nil]
  refine (if_pos ⟨Nat.toDigits_ne_nil, hall⟩).trans ?_
  show some ((⟨(numberOf (Nat.toDigits 10 d.year.natAbs) : Int), numberOf (twoDigits d.month),
    numberOf (twoDigits d.day)⟩ : Date), numberOf (twoDigits hour), numberOf (twoDigits minute)) = _
  rw [hnumber, numberOf_twoDigits _ hmonth, numberOf_twoDigits _ hday, numberOf_twoDigits _ hhour,
    numberOf_twoDigits _ hminute]

theorem Date.daysInMonth_le (year : Int) (month : Nat) : daysInMonth year month ≤ 31 := by
  unfold daysInMonth
  split <;> split <;> decide

/-- **What a minute of a day is shown as** is read as its instant. -/
theorem readLabel?_minuteLabel (hdate : d.IsValid) (hhour : hour < 24) (hminute : minute < 60) :
    readLabel? (minuteLabel d hour minute) = some (d.instantAt hour minute) := by
  have hyear := hdate.year
  have hmonth := hdate.month.2
  have hday := hdate.day.2.trans (Date.daysInMonth_le d.year d.month)
  rw [readLabel?, labelParts?_minuteLabel (by omega) (by omega) (by omega) (by omega) (by omega)]
  exact if_pos ⟨hdate, hhour, hminute⟩

end MinuteLabel

/-! ## Labels of whole minutes -/

namespace TimeChartStage

theorem shownClock_minutes (m : Nat) : Timestamp.shownClock (m * 60000000) false =
    Timestamp.padded 2 (m / 60) ++ ":" ++ Timestamp.padded 2 (m % 60) := by
  have hseconds : m * 60000000 / 1000000 = m * 60 := by omega
  have hrest : m * 60000000 % 1000000 = 0 := by omega
  have hhour : m * 60 / 3600 = m / 60 := by omega
  have hsecond : m * 60 % 60 = 0 := by omega
  simp [Timestamp.shownClock, hseconds, hrest, hhour, hsecond]

/-- A whole minute is shown as its day, hour and minute. -/
theorem shownLabel_minute (q : Int) :
    shownLabel ⟨q * 60 * microsPerSecond, 0⟩ =
      minuteLabel (Date.ofDayNumber (q / 1440)) ((q % 1440).toNat / 60) ((q % 1440).toNat % 60) := by
  have hday : q * 60 * microsPerSecond / microsPerDay = q / 1440 := by
    unfold microsPerDay microsPerSecond
    omega
  have hmicros : (q * 60 * microsPerSecond % microsPerDay).toNat = (q % 1440).toNat * 60000000 := by
    unfold microsPerDay microsPerSecond
    omega
  rw [shownLabel, Timestamp.date, Timestamp.microOfDay, hday, hmicros,
    Nat.mul_div_cancel _ (by decide), shownClock_minutes, minuteLabel]

/-- **The label of a whole minute** is read as that minute. -/
theorem label_read {start : Int} (h : 60000 ∣ start) {text : String}
    (hlabel : label .utc start = .ok text) : readLabel? text = some start := by
  obtain ⟨q, rfl⟩ := h
  have hstart : 60000 * q = q * 60 * 1000 := by omega
  have hyears := (label_utc_iff (by omega)).1 ⟨text, hlabel⟩
  rw [hstart] at hlabel hyears ⊢
  obtain rfl : shownLabel ⟨q * 60 * microsPerSecond, 0⟩ = text := by
    rw [label_utc hyears] at hlabel
    exact Except.ok.inj hlabel
  have hday : q * 60 * 1000 / 86400000 = q / 1440 := by omega
  rw [yearAt, hday] at hyears
  have hordinal := Date.ordinal_ofDayNumber hyears.1
  rw [shownLabel_minute, readLabel?_minuteLabel (Date.isValid_ofDayNumber hyears.1) (by omega)
    (by omega), Date.instantAt, hordinal]
  exact congrArg some (by omega)

/-- The years before 1000 are shown without zeros. -/
example : label .utc (Date.instantAt ⟨4, 2, 29⟩ 23 59) = .ok "4-02-29 23:59" := by decide +kernel

/-! ## The labels of a chart -/

variable {s : TimeChartStage}

section Read

variable {labels : List String} {low high : Int}
  (hread : labels.map readLabel? = (s.spanStarts low high).map some)

include hread

theorem read_getElem? {i : Nat} {label : String} (h : labels[i]? = some label) :
    readLabel? label = some ((low / s.spanMillis + i) * s.spanMillis) := by
  have hi : (labels.map readLabel?)[i]? = ((s.spanStarts low high).map some)[i]? := by rw [hread]
  rw [List.getElem?_map, h, Option.map_some] at hi
  obtain ⟨hlt, hstart⟩ := List.getElem?_eq_some_iff.1 hi.symm
  rw [← hstart]
  simp [spanStarts]

/-- The labels of different spans are different. -/
theorem nodup_of_read (hspan : 0 < s.spanMillis) : labels.Nodup := by
  have hstarts : (s.spanStarts low high).Nodup := by
    refine List.nodup_range.map fun i j hij => ?_
    have hspans := Int.eq_of_mul_eq_mul_right (by omega) hij
    omega
  exact List.Nodup.of_map readLabel? (hread ▸ hstarts.map (Option.some_injective _))

/-- Each label is read as one span behind the one before. -/
theorem step_of_read {i : Nat} {label next : String} (hlabel : labels[i]? = some label)
    (hnext : labels[i + 1]? = some next) :
    ∃ start, readLabel? label = some start ∧ readLabel? next = some (start + s.spanMillis) := by
  refine ⟨_, read_getElem? hread hlabel, ?_⟩
  rw [read_getElem? hread hnext]
  congr 1
  push_cast
  ring

end Read

/-- **The labels of a chart in UTC** are read as the starts of its spans, if these are
whole minutes: so they are different, and each is one span behind the one before. -/
theorem labels_read_back (hzone : s.zone = .utc) (hspan : 0 < s.spanMillis)
    (hminutes : 60000 ∣ s.spanMillis) {records : List Record} (hyears : s.StartsInYears records) :
    ∃ c, s.bucket records = .ok c ∧
      ((∀ r ∈ records, r.millis? = none) ∧ c.labels = [] ∨
        ∃ low high, IsLeast {millis | millis ∈ instants records} low ∧
          IsGreatest {millis | millis ∈ instants records} high ∧
          c.labels.map readLabel? = (s.spanStarts low high).map some) ∧
      c.labels.Nodup ∧
      ∀ i label next, c.labels[i]? = some label → c.labels[i + 1]? = some next →
        ∃ start, readLabel? label = some start ∧ readLabel? next = some (start + s.spanMillis) := by
  have hseconds : 1000 ∣ s.spanMillis := Dvd.dvd.trans (by decide) hminutes
  rcases bucket_of_hasLabels (hyears.hasLabels hzone hseconds) with
    ⟨hnone, hbucket⟩ | ⟨low, high, labels, hlow, hhigh, hmapM, hbucket⟩
  · exact ⟨_, hbucket, .inl ⟨hnone, rfl⟩, List.nodup_nil, fun _ _ _ h => nomatch h⟩
  · have hread : labels.map readLabel? = (s.spanStarts low high).map some := by
      refine Except.map_read_of_mapM_eq_ok some (fun start hstart text htext => ?_) hmapM
      obtain ⟨i, -, rfl⟩ := List.mem_map.1 hstart
      rw [hzone] at htext
      exact label_read (Dvd.dvd.mul_left (Int.natCast_dvd_natCast.2 hminutes) _) htext
    exact ⟨_, hbucket, .inr ⟨low, high, hlow, hhigh, hread⟩, nodup_of_read hread hspan,
      fun _ _ _ => step_of_read hread⟩

/-- Spans of a day. -/
def daily : TimeChartStage := ⟨86400000, none, .utc, "UTC", ["count"]⟩

/-- Noon of the 28th of February of year 4, and the night to the first of March. -/
def leapDayRecords : List Record :=
  [{ (default : Record) with timestamp := some ⟨-62035934400000000, 0⟩ },
    { (default : Record) with timestamp := some ⟨-62035804800000000, 0⟩ }]

/-- Between them lies the 29th of February. -/
theorem labels_read_back_leapDay :
    ∃ c, daily.bucket leapDayRecords = .ok c ∧ c.labels.Nodup ∧ c.labels.map readLabel? =
      [some (Date.instantAt ⟨4, 2, 28⟩ 0 0), some (Date.instantAt ⟨4, 2, 29⟩ 0 0),
        some (Date.instantAt ⟨4, 3, 1⟩ 0 0)] := by
  have hinstants : instants leapDayRecords = [-62035934400000, -62035804800000] := by decide +kernel
  have hyears : daily.StartsInYears leapDayRecords := by
    rw [StartsInYears, hinstants, yearBegins_eq (by decide), yearBegins_eq (by decide)]
    decide
  obtain ⟨c, hc, ⟨hnone, -⟩ | ⟨low, high, hlow, hhigh, hread⟩, hnodup, -⟩ :=
    labels_read_back rfl (by decide) (by decide) hyears
  · exact absurd (hnone _ (List.mem_cons_self ..)) (by decide +kernel)
  · simp only [hinstants] at hlow hhigh
    obtain rfl : low = -62035934400000 := hlow.unique ⟨by simp, by simp [lowerBounds]⟩
    obtain rfl : high = -62035804800000 := hhigh.unique ⟨by simp, by simp [upperBounds]⟩
    exact ⟨c, hc, hnodup, hread.trans (by decide +kernel)⟩

end TimeChartStage

end PipeQuery

import PipeQuery.Dataset.Item
import PipeQuery.Proofs.Calendar

/-!
# Times that clocks show

A clock shows the years 1 to 9999, and no clock is a day or more away from UTC
(`Timestamp.OnClock`).  A timestamp could be any two numbers; that none is made
that a clock cannot show is up to those who make them.

* `Iso.exists_of_readTime`: what is read from a text is a checked date, a
  checked time of day and an offset of less than a day.
* `Timestamp.onClock_of_ofSeconds`: what is made of seconds is checked last.
* `Record.onClock_of_ofDatum`: so every record that is loaded has a time that a
  clock can show, if it has one.
-/

namespace PipeQuery

/-- A time that a clock can show: its date is in the years 1 to 9999, and its offset is less than
a day. -/
structure Timestamp.OnClock (t : Timestamp) : Prop where
  year : Date.yearInRange t.date.year = true
  offset : -microsPerDay < t.offset ∧ t.offset < microsPerDay

/-! ## Digits -/

namespace Iso

theorem digits?_lt {n value : Nat} {bytes rest : List Nat} {read : Nat}
    (h : digits? n value bytes = some (read, rest)) : read < (value + 1) * 10 ^ n := by
  induction n generalizing value bytes with
  | zero =>
      cases h
      omega
  | succ n ih =>
      cases bytes with
      | nil => cases h
      | cons b bytes =>
          rw [digits?] at h
          split at h
          · next hdigit =>
            have hnine : b - 0x30 ≤ 9 := by
              simp only [isDigit, Bool.and_eq_true, decide_eq_true_eq] at hdigit
              omega
            calc read < (10 * value + (b - 0x30) + 1) * 10 ^ n := ih h
              _ ≤ (value + 1) * 10 * 10 ^ n := Nat.mul_le_mul_right _ (by omega)
              _ = (value + 1) * 10 ^ (n + 1) := by rw [Nat.pow_succ]; ring
          · cases h

/-- A fraction is less than a second. -/
theorem micros_of_fraction? {clock c : Clock} {bytes : List Nat}
    (h : fraction? clock bytes = some c) : c.micros < 1000000 := by
  obtain ⟨⟨value, rest⟩, hdigits, rfl⟩ := Option.map_eq_some_iff.1 h
  have hvalue := digits?_lt hdigits
  have hplaces : min 6 bytes.length ≤ 6 := Nat.min_le_left _ _
  generalize min 6 bytes.length = places at hvalue hplaces ⊢
  rw [Nat.zero_add, Nat.one_mul] at hvalue
  calc value * 10 ^ (6 - places) < 10 ^ places * 10 ^ (6 - places) :=
        Nat.mul_lt_mul_of_pos_right hvalue (Nat.pow_pos (by decide))
    _ = 1000000 := by rw [← Nat.pow_add, Nat.add_sub_cancel' hplaces]

theorem micros_set (clock : Clock) (part value : Nat) :
    (clock.set part value).micros = clock.micros := by
  unfold Clock.set
  split <;> rfl

theorem micros_of_clockFrom? {left part : Nat} {colons : Bool} {clock c : Clock}
    {bytes : List Nat} (hclock : clock.micros < 1000000)
    (h : clockFrom? left part colons clock bytes = some c) : c.micros < 1000000 := by
  induction left generalizing part colons clock bytes with
  | zero => exact micros_of_fraction? h
  | succ left ih =>
      rw [clockFrom?] at h
      split at h
      · cases h
      · next value rest _ =>
        have hset : (clock.set part value).micros < 1000000 := by rwa [micros_set]
        rcases rest with _ | ⟨b, _ | ⟨b', more⟩⟩
        · cases h
          exact hset
        · cases h
          exact hset
        · -- another part, a fraction, or a part without a colon
          dsimp only at h
          generalize (if part = 0 then b == code ':' else colons) = joined at h
          split_ifs at h
          · exact ih hset h
          · exact micros_of_fraction? h
          · exact ih hset h

theorem micros_of_time? {bytes : List Nat} {clock : Clock} {offset : Option Int}
    (h : time? bytes = some (clock, offset)) : clock.micros < 1000000 := by
  have hclock : ∀ {bytes : List Nat} {c : Clock}, clock? bytes = some c → c.micros < 1000000 :=
    fun h => micros_of_clockFrom? (by decide) h
  unfold time? at h
  split at h
  · cases h
  · next hread _ =>
    split at h
    · cases h
      exact hclock hread
    · cases h
  · next hread _ =>
    split at h
    · split at h
      · cases h
        exact hclock hread
      · cases h
    · split at h
      · cases h
      · split at h
        · cases h
          exact hclock hread
        · cases h

theorem micros_of_dateTime? {bytes : List Nat} {date : Except TimeFault Date} {clock : Clock}
    {offset : Option Int} (h : dateTime? bytes = some (date, clock, offset)) :
    clock.micros < 1000000 := by
  unfold dateTime? at h
  dsimp only at h
  split at h
  · cases h
  · split at h
    · cases h
      decide
    · obtain ⟨⟨c, o⟩, htime, heq⟩ := Option.map_eq_some_iff.1 h
      cases heq
      exact micros_of_time? htime

/-- What a checked date and a checked time of day are. -/
structure Checked (date : Date) (clock : Clock) : Prop where
  year : 1 ≤ date.year ∧ date.year ≤ 9999
  month : 1 ≤ date.month ∧ date.month ≤ 12
  day : 1 ≤ date.day ∧ date.day ≤ 31
  hour : clock.hour ≤ 23
  minute : clock.minute ≤ 59
  second : clock.second ≤ 59

theorem checked_of_check {date : Date} {clock : Clock} (h : check date clock = .ok ()) :
    Checked date clock := by
  have hmonths : Date.daysInMonth date.year date.month ≤ 31 := by
    unfold Date.daysInMonth
    split_ifs <;> omega
  unfold check at h
  split_ifs at h with hyear hmonth hday hhour hminute hsecond
  rw [Bool.not_eq_true, Bool.not_eq_false', Date.yearInRange_iff] at hyear
  constructor <;> omega

theorem dayNumber_of_checked {date : Date} {clock : Clock} (h : Checked date clock) :
    -719162 ≤ date.dayNumber ∧ date.dayNumber < 2932897 := by
  obtain ⟨year, month, day⟩ := date
  have hyear := h.year
  have hmonth := h.month
  have hday := h.day
  dsimp only at hyear hmonth hday
  rcases Nat.lt_or_ge 2 month with hmarch | hjanuary
  · rw [Date.dayNumber_of_march hmarch]
    unfold Date.epochOffset Date.leapDays
    omega
  · rw [Date.dayNumber_of_january hjanuary]
    unfold Date.epochOffset Date.leapDays
    omega

/-- What is read is a checked date, a checked time of day and an offset of less than a day. -/
theorem exists_of_readTime {text : String} {wall : Int} {offset : Option Int}
    (h : readTime text = .ok (wall, offset)) :
    ∃ date clock, Checked date clock ∧ clock.micros < 1000000 ∧
      (∀ micros, offset = some micros → -microsPerDay < micros ∧ micros < microsPerDay) ∧
      wall = date.dayNumber * microsPerDay +
        ((clock.hour : Int) * 3600 + clock.minute * 60 + clock.second) * microsPerSecond +
        clock.micros := by
  unfold readTime at h
  dsimp only at h
  split at h
  · cases h
  · next date clock given hread =>
    have hchecks : (∀ micros, given = some micros → -microsPerDay < micros ∧
        micros < microsPerDay) ∧ (date.bind fun date => (check date clock).bind fun _ =>
          .ok (date.dayNumber * microsPerDay +
            ((clock.hour : Int) * 3600 + clock.minute * 60 + clock.second) * microsPerSecond +
            clock.micros, given)) = .ok (wall, offset) := by
      cases given with
      | none => exact ⟨by simp, h⟩
      | some micros =>
          by_cases hlarge : micros ≤ -microsPerDay ∨ microsPerDay ≤ micros
          · simp only [hlarge, if_true] at h
            cases h
          · simp only [hlarge, if_false] at h
            refine ⟨fun _ hsome => ?_, h⟩
            obtain rfl := Option.some.inj hsome
            omega
    obtain ⟨hoffset, hrest⟩ := hchecks
    cases date with
    | error fault => cases hrest
    | ok date =>
        cases hcheck : check date clock with
        | error fault =>
            simp only [Except.bind, hcheck] at hrest
            cases hrest
        | ok _ =>
            simp only [Except.bind, hcheck] at hrest
            cases hrest
            exact ⟨date, clock, checked_of_check hcheck, micros_of_dateTime? hread, hoffset, rfl⟩

end Iso

/-! ## Times that are read -/

namespace ClockTime

/-- **A time that is read is a time that a clock can show.** -/
theorem onClock_of_readTime {text : String} {t : ClockTime} (h : Iso.readTime text = .ok t) :
    t.toTimestamp.OnClock := by
  obtain ⟨wall, offset⟩ := t
  obtain ⟨date, clock, hchecked, hmicros, hoffset, rfl⟩ := Iso.exists_of_readTime h
  have hhour := hchecked.hour
  have hminute := hchecked.minute
  have hsecond := hchecked.second
  constructor
  · obtain ⟨hfirst, hlast⟩ := Iso.dayNumber_of_checked hchecked
    obtain ⟨hlow, hhigh⟩ := Date.year_ofDayNumber_iff date.dayNumber
    have hday : (date.dayNumber * microsPerDay +
        ((clock.hour : Int) * 3600 + clock.minute * 60 + clock.second) * microsPerSecond +
        clock.micros) / microsPerDay = date.dayNumber := by
      unfold microsPerDay microsPerSecond
      omega
    rw [Timestamp.date, toTimestamp, hday, Date.yearInRange_iff]
    exact ⟨hlow.2 hfirst, hhigh.2 hlast⟩
  · cases offset with
    | none => exact (by decide : -microsPerDay < 0 ∧ 0 < microsPerDay)
    | some micros => exact hoffset micros rfl

end ClockTime

theorem Timestamp.onClock_utc {wall : Int}
    (h : Date.yearInRange (Date.ofDayNumber (wall / microsPerDay)).year = true) :
    OnClock ⟨wall, 0⟩ :=
  ⟨h, (by decide : -microsPerDay < 0 ∧ 0 < microsPerDay)⟩

theorem Timestamp.onClock_of_ofSeconds {seconds : Binary64} {t : Timestamp}
    (h : ofSeconds seconds = .ok t) : t.OnClock := by
  unfold ofSeconds at h
  split at h
  · cases h
  · cases h
  · dsimp only at h
    split_ifs at h with hclock hcalendar hyear
    cases h
    exact onClock_utc hyear

namespace Datum

theorem onClock_of_utcTime {read : Except TimeFault Timestamp}
    (hread : ∀ t, read = .ok t → t.OnClock) {t : ClockTime} (h : utcTime read = .ok (some t)) :
    t.toTimestamp.OnClock := by
  cases read with
  | error fault => cases h
  | ok time =>
      cases h
      exact hread time rfl

theorem onClock_of_ofMillis {millis : Int} {t : ClockTime}
    (h : utcTime (Timestamp.ofMillis millis) = .ok (some t)) : t.toTimestamp.OnClock := by
  refine onClock_of_utcTime (fun time htime => ?_) h
  unfold Timestamp.ofMillis at htime
  dsimp only at htime
  split_ifs at htime
  exact Timestamp.onClock_of_ofSeconds htime

theorem onClock_of_textTime {s : String} {t : ClockTime} (h : textTime s = .ok (some t)) :
    t.toTimestamp.OnClock := by
  unfold textTime at h
  dsimp only at h
  split at h
  · split at h
    · exact onClock_of_ofMillis h
    · cases h
  · split at h
    · next hread =>
      cases h
      exact ClockTime.onClock_of_readTime hread
    · cases h

/-- Every time of a value is a time that a clock can show. -/
theorem onClock_of_time {d : Datum} {t : ClockTime} (h : d.time = .ok (some t)) :
    t.toTimestamp.OnClock := by
  unfold time at h
  split at h
  · cases h
  · exact onClock_of_ofMillis h
  · exact onClock_of_ofMillis h
  · exact onClock_of_utcTime (fun _ => Timestamp.onClock_of_ofSeconds) h
  · split at h
    · cases h
    · exact onClock_of_textTime h
  · exact onClock_of_textTime h

end Datum

/-- **The time of a loaded record** is a time that a clock can show, in whatever form its item has
it. -/
theorem Record.onClock_of_ofDatum {item : Datum} {source : String} {r : Record}
    (h : ofDatum item source = .ok r) {t : Timestamp} (ht : r.timestamp = some t) : t.OnClock := by
  unfold ofDatum at h
  cases hentries : item.toEntries with
  | error fault => simp [hentries, bind, Except.bind] at h
  | ok entries =>
      simp only [hentries, bind, Except.bind] at h
      split at h
      · cases h
      · next time htime =>
        cases h
        obtain ⟨clockTime, rfl, rfl⟩ := Option.map_eq_some_iff.1 ht
        exact Datum.onClock_of_time htime

end PipeQuery

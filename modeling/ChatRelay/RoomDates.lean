import ChatRelay.JodaTime
import ChatRelay.RoomTable

namespace ChatRelay.Client

/-!
# The dates in the table

`DATE_TIME_FORMATTER` is the Joda pattern `yyyy-MM-dd hh:mm:ss`.  Its `hh` is
the hour of the half day, and nothing in the pattern says which half it is.
-/

open ChronoIo (gmtime_r)

/-- The hour that `hh` writes: from 1 to 12. -/
def clockhourOfHalfday (hour : Int) : Nat :=
  if hour % 12 = 0 then
    12
  else
    (hour % 12).toNat

/-- What the pattern writes for the seconds of a local time. -/
def roomDate (seconds : Int) : Bytes :=
  let tm := gmtime_r seconds
  padded 4 (tm.tm_year + 1900).toNat ++
    ([0x2D] ++ (padded 2 (tm.tm_mon + 1).toNat ++
      ([0x2D] ++ (padded 2 tm.tm_mday.toNat ++
        ([0x20] ++ (padded 2 (clockhourOfHalfday tm.tm_hour) ++
          ([0x3A] ++ (padded 2 tm.tm_min.toNat ++
            ([0x3A] ++ padded 2 tm.tm_sec.toNat)))))))))

/-- The times lie in one day and at one time of its half. -/
def Alike (first second : Int) : Prop :=
  first / 86400 = second / 86400 ∧ first % 43200 = second % 43200

instance (first second : Int) : Decidable (Alike first second) :=
  inferInstanceAs (Decidable (_ ∧ _))

/-- The fields of the pattern. -/
structure SameFields (first second : ChronoIo.Tm) : Prop where
  year : first.tm_year = second.tm_year
  month : first.tm_mon = second.tm_mon
  day : first.tm_mday = second.tm_mday
  hour : first.tm_hour % 12 = second.tm_hour % 12
  minute : first.tm_min = second.tm_min
  second : first.tm_sec = second.tm_sec

/-- The fields tell times apart by their day and the time of its half. -/
theorem sameFields_iff
    (first second : Int) :
    SameFields (gmtime_r first) (gmtime_r second) ↔ Alike first second := by
  constructor
  · intro same
    obtain ⟨year, month, day, hour, minute, second'⟩ := same
    have firstDay := CivilDate.toDays_ofDays (first / 86400)
    have secondDay := CivilDate.toDays_ofDays (second / 86400)
    unfold gmtime_r at year month day hour minute second'
    dsimp only at year month day hour minute second'
    have sameDate :
        CivilDate.ofDays (first / 86400) =
          CivilDate.ofDays (second / 86400) := by
      apply CivilDate.ext
      · omega
      · omega
      · exact day
    rw [sameDate, secondDay] at firstDay
    exact ⟨firstDay.symm, by omega⟩
  · intro alike
    obtain ⟨day, half⟩ := alike
    unfold gmtime_r
    constructor
    all_goals dsimp only
    · rw [day]
    · rw [day]
    · rw [day]
    all_goals omega

/-- The two digits of the hour are those of the hour of the half day. -/
theorem clockhourOfHalfday_eq_iff
    {first second : Int} :
    clockhourOfHalfday first = clockhourOfHalfday second ↔
      first % 12 = second % 12 := by
  unfold clockhourOfHalfday
  split <;> split <;> omega

/-- The pattern tells times apart by their day and the time of its half. -/
theorem roomDate_eq_iff
    {first second : Int}
    (isFirst : (gmtime_r first).InRange)
    (isSecond : (gmtime_r second).InRange) :
    roomDate first = roomDate second ↔ Alike first second := by
  rw [← sameFields_iff]
  obtain ⟨year, month, day, hour, minute⟩ := isFirst
  obtain ⟨otherYear, otherMonth, otherDay, otherHour, otherMinute⟩ :=
    isSecond
  have clock :
      ∀ hour, clockhourOfHalfday hour < 10 ^ 2 := by
    intro hour
    unfold clockhourOfHalfday
    split <;> omega
  have seconds :
      ∀ time, 0 ≤ (gmtime_r time).tm_sec ∧ (gmtime_r time).tm_sec < 60 := by
    intro time
    unfold gmtime_r
    dsimp only
    omega
  have firstSecond := seconds first
  have secondSecond := seconds second
  unfold roomDate
  rw [padded_append_inj (by omega) (by omega),
    List.append_cancel_left_eq, padded_append_inj (by omega) (by omega),
    List.append_cancel_left_eq, padded_append_inj (by omega) (by omega),
    List.append_cancel_left_eq, padded_append_inj (clock _) (clock _),
    List.append_cancel_left_eq, padded_append_inj (by omega) (by omega),
    List.append_cancel_left_eq, padded_inj (by omega) (by omega),
    clockhourOfHalfday_eq_iff]
  constructor
  · intro same
    obtain ⟨year, month, day, hour, minute, second⟩ := same
    constructor <;> omega
  · intro same
    obtain ⟨year, month, day, hour, minute, second⟩ := same
    rw [year, month, day, minute, second]
    exact ⟨rfl, rfl, rfl, hour, rfl, rfl⟩

/-! ### The rows of two events -/

section Rows

variable {DateTime : Type}
variable (getMillis zoneOffset : DateTime → Int)

/-- The seconds of a time on the clock of its own zone. -/
def localSeconds (time : DateTime) : Int :=
  (getMillis time + zoneOffset time * 60000) / 1000

/-- Joda writes times with the pattern, in their own zone. -/
structure JodaShows (DATE_TIME_FORMATTER : DateTime → Bytes) : Prop where
  writes :
    ∀ time,
      (gmtime_r (localSeconds getMillis zoneOffset time)).InRange →
        DATE_TIME_FORMATTER time =
          roomDate (localSeconds getMillis zoneOffset time)

/-- An event that came with a time, of a year that the pattern writes. -/
def Dated
    (row : Row (LoginArguments DateTime) (MessageArguments DateTime)) :
    Prop :=
  ∃ time,
    dateTimeOf row = some time ∧
      (gmtime_r (localSeconds getMillis zoneOffset time)).InRange

/-- The times of two events are there and alike. -/
def AlikeTimes : Option DateTime → Option DateTime → Prop
  | some time, some other =>
      Alike (localSeconds getMillis zoneOffset time)
        (localSeconds getMillis zoneOffset other)
  | _, _ =>
      False

/-- Two events of one kind, of one user, with one content, at alike times. -/
def AlikeRows :
    Row (LoginArguments DateTime) (MessageArguments DateTime) →
      Row (LoginArguments DateTime) (MessageArguments DateTime) → Prop
  | .login (time, username), .login (other, otherUsername) =>
      AlikeTimes getMillis zoneOffset time other ∧
        username = otherUsername
  | .message (time, username, message),
    .message (other, otherUsername, otherMessage) =>
      AlikeTimes getMillis zoneOffset time other ∧
        username = otherUsername ∧ message = otherMessage
  | _, _ =>
      False

/--
The table tells two events apart by their kinds, users, contents and dates, but
it shows a time and the one twelve hours later on the same day alike.
-/
theorem elements_eq_iff
    {getMillis zoneOffset : DateTime → Int}
    {DATE_TIME_FORMATTER : DateTime → Bytes}
    (joda : JodaShows getMillis zoneOffset DATE_TIME_FORMATTER)
    {first second :
      Row (LoginArguments DateTime) (MessageArguments DateTime)}
    (isFirst : Dated getMillis zoneOffset first)
    (isSecond : Dated getMillis zoneOffset second) :
    elements DATE_TIME_FORMATTER first =
        elements DATE_TIME_FORMATTER second ↔
      AlikeRows getMillis zoneOffset first second := by
  obtain ⟨time, came, inRange⟩ := isFirst
  obtain ⟨other, otherCame, otherInRange⟩ := isSecond
  have dates := roomDate_eq_iff inRange otherInRange
  rw [← joda.writes _ inRange, ← joda.writes _ otherInRange] at dates
  cases first with
  | login arguments =>
      obtain ⟨dateTime, username⟩ := arguments
      obtain rfl : dateTime = some time := came
      cases second with
      | login others =>
          obtain ⟨otherTime, otherUsername⟩ := others
          obtain rfl : otherTime = some other := otherCame
          simp [elements, createLoggedInElements, AlikeRows, AlikeTimes,
            dates]
      | message others =>
          obtain ⟨otherTime, otherUsername, otherMessage⟩ := others
          obtain rfl : otherTime = some other := otherCame
          simp [elements, createLoggedInElements,
            createUserMessageElements, AlikeRows]
  | message arguments =>
      obtain ⟨dateTime, username, message⟩ := arguments
      obtain rfl : dateTime = some time := came
      cases second with
      | login others =>
          obtain ⟨otherTime, otherUsername⟩ := others
          obtain rfl : otherTime = some other := otherCame
          simp [elements, createLoggedInElements,
            createUserMessageElements, AlikeRows]
      | message others =>
          obtain ⟨otherTime, otherUsername, otherMessage⟩ := others
          obtain rfl : otherTime = some other := otherCame
          simp [elements, createUserMessageElements, AlikeRows, AlikeTimes,
            dates, and_assoc]

/-- A message of three in the morning and one of three in the afternoon. -/
theorem elements_eq_iff_afternoon :
    let morning :
        Row (LoginArguments Int) (MessageArguments Int) :=
      .message (some 10800000, "ann", "hello")
    let afternoon :
        Row (LoginArguments Int) (MessageArguments Int) :=
      .message (some 54000000, "ann", "hello")
    let DATE_TIME_FORMATTER : Int → Bytes :=
      fun time => roomDate (localSeconds id (fun _ => 0) time)
    elements DATE_TIME_FORMATTER morning =
      elements DATE_TIME_FORMATTER afternoon := by
  intro morning afternoon DATE_TIME_FORMATTER
  have joda : JodaShows id (fun _ => 0) DATE_TIME_FORMATTER :=
    ⟨fun _ _ => rfl⟩
  refine (elements_eq_iff joda ⟨_, rfl, ?_⟩ ⟨_, rfl, ?_⟩).mpr ?_
  · exact ChronoIo.gmtime_r_inRange (by decide) (by decide)
  · exact ChronoIo.gmtime_r_inRange (by decide) (by decide)
  · exact ⟨⟨by decide, by decide⟩, rfl, rfl⟩

end Rows

end ChatRelay.Client

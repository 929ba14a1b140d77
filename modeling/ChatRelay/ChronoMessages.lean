import ChatRelay.ChronoRoundTrip

namespace ChatRelay

/-!
# Messages with the vendored time format

When a time point that was written, read and written again keeps its text, and
so which messages are equal to their encoding with `chrono_io` as the format.
-/

open Instance

namespace ChronoIo

/-! ### The numbers at which the texts differ -/

section Ties

/-- The microseconds of nanoseconds whose `double` is known. -/
theorem microseconds_eq
    {nanoseconds significand : ℤ}
    {bits micros : ℕ}
    (exact : |nanoseconds| < 2 ^ 53)
    (atLeast : 2 ^ bits ≤ (nanoseconds / 1000000000 : ℚ))
    (below : (nanoseconds / 1000000000 : ℚ) < 2 ^ (bits + 1))
    (near :
      |(nanoseconds / 1000000000 : ℚ) * 2 ^ 52 / 2 ^ bits -
        significand| < 1 / 2)
    (nearest :
      |(significand * 2 ^ bits / 2 ^ 52 : ℚ) * 1000000 -
        (micros : ℤ)| < 1 / 2)
    (positive : (0 : ℚ) ≤ significand) :
    microseconds nanoseconds = micros := by
  have isDouble :
      toSeconds nanoseconds = significand * 2 ^ bits / 2 ^ 52 := by
    unfold toSeconds
    rw [BinaryFormat.round64_intCast exact,
      BinaryFormat.round64_eq atLeast below near]
  unfold microseconds
  rw [isDouble, abs_of_nonneg (by positivity), nearestEven_eq nearest]
  rfl

/-- Half a microsecond before ten seconds is rounded down. -/
theorem microseconds_ten :
    microseconds 9999999500 = 9999999 := by
  apply @microseconds_eq 9999999500 5629499252738143 3
  · decide
  all_goals norm_num [abs_lt]

/-- Half a microsecond before the minute is rounded up. -/
theorem microseconds_minute :
    microseconds 59999999500 = 60000000 := by
  apply @microseconds_eq 59999999500 8444249230950936 5
  · decide
  all_goals norm_num [abs_lt]

variable
  {nanoseconds : Int}
  (nonneg : 0 ≤ nanoseconds)
  (inMinute : nanoseconds < 60000000000)

include nonneg inMinute

/-- The nanoseconds from which on ten seconds are written. -/
theorem ten_le_microseconds :
    10000000 ≤ microseconds nanoseconds ↔ 9999999500 < nanoseconds := by
  have near := abs_le.mp (microseconds_near nonneg inMinute)
  rcases lt_trichotomy nanoseconds 9999999500 with less | same | more
  · exact iff_of_false (by omega) (by omega)
  · rw [same, microseconds_ten]
    decide
  · exact iff_of_true (by omega) more

/-- The nanoseconds from which on a whole minute is written. -/
theorem minute_le_microseconds :
    60000000 ≤ microseconds nanoseconds ↔ 59999999500 ≤ nanoseconds := by
  have near := abs_le.mp (microseconds_near nonneg inMinute)
  rcases lt_trichotomy nanoseconds 59999999500 with less | same | more
  · exact iff_of_false (by omega) (by omega)
  · rw [same, microseconds_minute]
    decide
  · exact iff_of_true (by omega) (by omega)

end Ties

/-- Whole microseconds are written as they are. -/
theorem microseconds_mul
    {micros : Nat}
    (inMinute : micros < 60000000) :
    microseconds (micros * 1000) = micros := by
  have near :=
    abs_le.mp
      (@microseconds_near (micros * 1000) (by omega) (by omega))
  omega

/-! ### The text of the time that was read -/

/-- The text of the minute. -/
def minuteText (minute : Int) : Bytes :=
  time_put (gmtime_r minute) (ascii "%F %H:%M:")

/-- The text behind the minute. -/
def secondsText (nanoseconds : Int) : Bytes :=
  wholeSeconds nanoseconds ++
    0x2E ::
      (padded 6 (microseconds nanoseconds % 1000000) ++
        0x20 :: ascii "+0000")

/-- The text of the minute is the same in all of its seconds. -/
theorem minuteText_minuteStart
    (time : Int) :
    minuteText (minuteStart time) =
      time_put (gmtime_r (to_time_t time)) (ascii "%F %H:%M:") := by
  have second :
      (gmtime_r (to_time_t time)).tm_sec = to_time_t time % 60 := by
    unfold gmtime_r
    dsimp only
    omega
  have days :
      (to_time_t time - to_time_t time % 60) / 86400 =
        to_time_t time / 86400 := by
    omega
  have hours :
      (to_time_t time - to_time_t time % 60) % 86400 / 3600 =
        to_time_t time % 86400 / 3600 := by
    omega
  have minutes :
      (to_time_t time - to_time_t time % 60) % 86400 / 60 % 60 =
        to_time_t time % 86400 / 60 % 60 := by
    omega
  unfold minuteText minuteStart
  rw [second, time_put_eq, time_put_eq]
  unfold gmtime_r
  dsimp only
  rw [days, hours, minutes]

theorem insertion_texts
    {time : Int}
    (behind : 0 ≤ nanosecondsOfMinute time) :
    insertion time =
      minuteText (minuteStart time) ++
        secondsText (nanosecondsOfMinute time) := by
  rw [insertion_eq behind, minuteText_minuteStart]
  rfl

theorem length_minuteText
    (minute : Int) :
    (minuteText minute).length = 17 := by
  unfold minuteText
  rw [time_put_eq]
  simp only [List.length_append, List.length_cons, length_padded,
    List.length_nil]

/-- The minute and its nanoseconds of a time that is read back. -/
theorem minute_of_not_beforeMinute
    {time : Int}
    (notBefore : ¬ BeforeMinute time) :
    nanosecondsOfMinute time = time % 60000000000 ∧
      minuteStart time = time / 60000000000 * 60 := by
  obtain ⟨inMinute, _, negative⟩ := nanosecondsOfMinute_bounds time
  have behind : 0 ≤ nanosecondsOfMinute time := by
    have := mt negative.mp notBefore
    omega
  have split := minuteStart_add time
  have whole : minuteStart time % 60 = 0 := by
    unfold minuteStart gmtime_r
    dsimp only
    omega
  unfold from_time_t perSecond at split
  omega

/--
A time whose seconds get another number of digits, or another minute, when
they are rounded to microseconds.
-/
def Carries (time : Int) : Prop :=
  (9999999500 < time % 60000000000 ∧
      time % 60000000000 < 10000000000) ∨
    59999999500 ≤ time % 60000000000

instance (time : Int) : Decidable (Carries time) :=
  inferInstanceAs (Decidable (_ ∨ _))

section Written

variable
  {time : Int}
  (notBefore : ¬ BeforeMinute time)

include notBefore

/-- The number of microseconds behind the minute that is written. -/
theorem written_eq :
    written time =
      time / 60000000000 * 60000000000 +
        microseconds (time % 60000000000) * 1000 := by
  obtain ⟨isNanoseconds, isMinute⟩ :=
    minute_of_not_beforeMinute notBefore
  unfold written from_time_t perSecond
  rw [isNanoseconds, isMinute]
  omega

/-- The time that is read is behind its minute, too. -/
theorem written_not_beforeMinute :
    ¬ BeforeMinute (written time) := by
  have near :=
    abs_le.mp
      (@microseconds_near (time % 60000000000) (by omega) (by omega))
  have minute :=
    @minute_le_microseconds (time % 60000000000) (by omega) (by omega)
  rw [written_eq notBefore]
  unfold BeforeMinute at *
  omega

/-- The time that is read has the text that was written, or it carries. -/
theorem insertion_written_iff :
    insertion (written time) = insertion time ↔ ¬ Carries time := by
  have inMinute : time % 60000000000 < 60000000000 := by
    omega
  have nonneg : 0 ≤ time % 60000000000 := by
    omega
  have near := abs_le.mp (microseconds_near nonneg inMinute)
  have ten := ten_le_microseconds nonneg inMinute
  have minute := minute_le_microseconds nonneg inMinute
  obtain ⟨isNanoseconds, isMinute⟩ :=
    minute_of_not_beforeMinute notBefore
  have notBefore' := written_not_beforeMinute notBefore
  obtain ⟨isNanoseconds', isMinute'⟩ :=
    minute_of_not_beforeMinute notBefore'
  have isWritten := written_eq notBefore
  rw [insertion_texts (by omega), insertion_texts (by omega),
    isNanoseconds, isMinute, isNanoseconds', isMinute']
  by_cases full : 59999999500 ≤ time % 60000000000
  · -- The minute that follows is read, with no seconds.
    have isSixty : microseconds (time % 60000000000) = 60000000 := by
      omega
    have noNanoseconds : written time % 60000000000 = 0 := by
      omega
    refine iff_of_false ?_ (not_not.mpr (Or.inr full))
    intro same
    have texts :=
      (List.append_inj same (by
        rw [length_minuteText, length_minuteText])).2
    have notBelow :
        ¬ toSeconds (time % 60000000000) < 10 :=
      mt (toSeconds_lt_ten nonneg inMinute).mp (by omega)
    have zero : microseconds 0 = 0 :=
      @microseconds_mul 0 (by decide)
    rw [noNanoseconds, secondsText, secondsText, wholeSeconds,
      wholeSeconds, if_pos ((toSeconds_lt_ten (by decide)
        (by decide)).mpr (by decide)), if_neg notBelow, isSixty,
      zero] at texts
    exact absurd texts (by decide)
  · have isMicros :
        written time % 60000000000 =
          (microseconds (time % 60000000000) : Int) * 1000 := by
      omega
    have sameMinute :
        written time / 60000000000 = time / 60000000000 := by
      omega
    have sameMicros :
        microseconds
            ((microseconds (time % 60000000000) : Int) * 1000) =
          microseconds (time % 60000000000) :=
      microseconds_mul (by omega)
    have below := toSeconds_lt_ten nonneg inMinute
    have below' :=
      @toSeconds_lt_ten
        ((microseconds (time % 60000000000) : Int) * 1000)
        (by omega) (by omega)
    rw [isMicros, sameMinute, List.append_cancel_left_eq, secondsText,
      secondsText, sameMicros, List.append_cancel_right_eq, wholeSeconds,
      wholeSeconds, sameMicros, List.append_cancel_right_eq]
    by_cases carries : Carries time
    · have few : time % 60000000000 < 10000000000 := by
        unfold Carries at carries
        omega
      rw [if_pos (below.mpr few), if_neg (mt below'.mp (by
        unfold Carries at carries
        omega))]
      exact iff_of_false (by decide) (not_not.mpr carries)
    · have sameBranch :
          (microseconds (time % 60000000000) : Int) * 1000 <
              10000000000 ↔
            time % 60000000000 < 10000000000 := by
        unfold Carries at carries
        omega
      simp only [below, below', sameBranch]
      exact iff_of_true trivial carries

end Written

end ChronoIo

/-! ### Messages -/

section Messages

open ChronoIo (insertion extraction BeforeMinute Carries)

/-- The server's platform: its time format with any JSON reader and writer. -/
def Platform.chrono
    (read_json : Bytes → Option JsonText.Tree)
    (write_json : JsonText.Tree → Bool → Option Bytes) :
    Platform where
  read_json := read_json
  write_json := write_json
  printTime := insertion
  parseTime := extraction

variable
  (read_json : Bytes → Option JsonText.Tree)
  (write_json : JsonText.Tree → Bool → Option Bytes)

/-- The time that a decoder takes from a text that was written. -/
theorem ChronoIo.printed_again_iff
    {time : TimePoint}
    (representable : ChronoIo.Representable time) :
    insertion ((extraction (insertion time)).getD 0) = insertion time ↔
      ¬ BeforeMinute time ∧ ¬ Carries time := by
  have negative := (ChronoIo.nanosecondsOfMinute_bounds time).2.2
  by_cases before : BeforeMinute time
  · have notRead :=
      ChronoIo.extraction_of_before representable (negative.mpr before)
    refine iff_of_false ?_ (fun condition => condition.1 before)
    rw [notRead, Option.getD_none]
    intro same
    have zeroRead :=
      @ChronoIo.extraction_of_behind 0 (by
        constructor <;> decide) (by decide)
    rw [same, notRead] at zeroRead
    cases zeroRead
  · have behind : 0 ≤ ChronoIo.nanosecondsOfMinute time :=
      not_lt.mp (mt negative.mp before)
    rw [ChronoIo.extraction_of_behind representable behind,
      Option.getD_some, ChronoIo.insertion_written_iff before]
    exact (and_iff_right before).symm

/-- A time that is behind its minute and does not carry is read back. -/
theorem Platform.chrono_readsBack
    {time : TimePoint}
    (representable : ChronoIo.Representable time)
    (notBefore : ¬ BeforeMinute time)
    (notCarries : ¬ Carries time) :
    (Platform.chrono read_json write_json).ReadsBack time := by
  have negative := (ChronoIo.nanosecondsOfMinute_bounds time).2.2
  have behind : 0 ≤ ChronoIo.nanosecondsOfMinute time :=
    not_lt.mp (mt negative.mp notBefore)
  exact ⟨ChronoIo.written time,
    ChronoIo.extraction_of_behind representable behind,
    (ChronoIo.insertion_written_iff notBefore).mpr notCarries⟩

/-- The two halves of a decoder that returned. -/
theorem exists_of_bind
    {Value Result : Type}
    {first : Except Fault Value}
    {next : Value → Except Fault Result}
    {result : Result}
    (returned : first >>= next = .ok result) :
    ∃ value, first = .ok value ∧ next value = .ok result := by
  cases first with
  | error fault =>
      cases returned
  | ok value =>
      exact ⟨value, rfl, returned⟩

/-- Every decoder takes its time from the common parameters. -/
theorem MessageClass.params_of_decodes
    {platform : Platform}
    (cls : MessageClass)
    {json : JsonText.Tree}
    {decoded : cls.Object}
    (decodes : cls.codec.fromJson platform json = .ok (some decoded)) :
    ∃ sender,
      extractCommonParams platform json =
        .ok (cls.codec.dateTime decoded, sender) := by
  cases cls with
  | requestLogin =>
      change Request.Login.fromJson platform json = _ at decodes
      unfold Request.Login.fromJson at decodes
      split at decodes
      · cases decodes
      · rename_i time sender params
        cases decodes
        exact ⟨sender, params⟩
  | requestMessage =>
      change Request.Message.fromJson platform json = _ at decodes
      unfold Request.Message.fromJson at decodes
      split at decodes
      · cases decodes
      · rename_i time sender params
        split at decodes
        · cases decodes
        · cases decodes
          exact ⟨sender, params⟩
  | responseLogin =>
      obtain ⟨⟨time, sender⟩, params, returned⟩ :=
        exists_of_bind decodes
      obtain ⟨joining, _, returned⟩ := exists_of_bind returned
      cases returned
      exact ⟨sender, params⟩
  | responseMessage =>
      obtain ⟨⟨time, sender⟩, params, returned⟩ :=
        exists_of_bind decodes
      obtain ⟨content, _, returned⟩ := exists_of_bind returned
      obtain ⟨originator, _, returned⟩ := exists_of_bind returned
      cases returned
      exact ⟨sender, params⟩
  | responseError =>
      obtain ⟨⟨time, sender⟩, params, returned⟩ :=
        exists_of_bind decodes
      obtain ⟨code, _, returned⟩ := exists_of_bind returned
      obtain ⟨text, _, returned⟩ := exists_of_bind returned
      obtain ⟨originator, _, returned⟩ := exists_of_bind returned
      cases returned
      exact ⟨sender, params⟩

/-- The fields of the encoding that the common parameters are read from. -/
theorem MessageClass.find_common_subToJson
    (platform : Platform)
    (cls : MessageClass)
    (message : cls.Object) :
    (cls.codec.subToJson platform message).find PROPERTY_DATETIME =
        some (.leaf (platform.printTime (cls.codec.dateTime message))) ∧
      ∃ sender,
        (cls.codec.subToJson platform message).find PROPERTY_SENDER =
          some (.leaf sender) := by
  cases cls <;> exact ⟨rfl, _, rfl⟩

/--
With the vendored time format, a message of any class is equal to its encoding
exactly if its time is neither before the epoch in the last second of a minute
nor rounded to another number of digits or another minute.
-/
theorem MessageClass.chrono_round_trip_iff
    (cls : MessageClass)
    (message : cls.Object)
    (representable :
      ChronoIo.Representable (cls.codec.dateTime message)) :
    cls.codec.RoundTrip (Platform.chrono read_json write_json) message ↔
      ¬ BeforeMinute (cls.codec.dateTime message) ∧
        ¬ Carries (cls.codec.dateTime message) := by
  constructor
  · rintro ⟨_, decoded, decodes, _, printed, _⟩
    obtain ⟨hasTime, sender, hasSender⟩ :=
      MessageClass.find_common_subToJson
        (Platform.chrono read_json write_json) cls message
    obtain ⟨other, params⟩ := cls.params_of_decodes decodes
    rw [extractCommonParams_of_find _ hasTime hasSender] at params
    have isTime :
        (extraction (insertion (cls.codec.dateTime message))).getD 0 =
          cls.codec.dateTime decoded :=
      (Prod.mk.inj (Except.ok.inj params)).1
    rw [← ChronoIo.printed_again_iff representable, isTime]
    exact printed
  · rintro ⟨notBefore, notCarries⟩
    have readsBack :=
      Platform.chrono_readsBack read_json write_json representable
        notBefore notCarries
    cases cls with
    | requestLogin =>
        exact Request.Login.round_trip message readsBack
    | requestMessage =>
        exact Request.Message.round_trip message readsBack
    | responseLogin =>
        exact Response.Login.round_trip message readsBack
    | responseMessage =>
        exact Response.Message.round_trip message readsBack
    | responseError =>
        exact Response.Error.round_trip message readsBack

/-- A message that is sent half a microsecond before a minute. -/
theorem MessageClass.chrono_round_trip_minute :
    ¬ MessageClass.responseMessage.codec.RoundTrip
        (Platform.chrono JsonText.read fun tree _ =>
          some (JsonText.value JsonText.escape tree))
        ⟨59999999500, ascii "@server", ascii "ann", ascii "hello"⟩ := by
  rw [chrono_round_trip_iff _ _ .responseMessage
    ⟨59999999500, ascii "@server", ascii "ann", ascii "hello"⟩
    ⟨by decide, by decide⟩]
  decide

end Messages

end ChatRelay

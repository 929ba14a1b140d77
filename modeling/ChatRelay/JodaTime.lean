import ChatRelay.ChronoMessages
import ChatRelay.RequestFraming

namespace ChatRelay

/-!
# The times of requests

The client's `DATETIME_FORMAT` is the Joda pattern
`yyyy-MM-dd HH:mm:ss.SSSSSS Z`; the server reads times with `chrono_io`.  A
time that the client writes in its own zone is read as the same instant.
-/

open ChronoIo (insertion extraction minuteText minuteStart
  nanosecondsOfMinute microseconds)

/-! ### ASCII texts -/

section Ascii

/-- Bytes below 128. -/
def IsAscii (bytes : Bytes) : Prop :=
  ∀ byte ∈ bytes, byte.toNat < 128

theorem isAscii_of_all
    {bytes : Bytes}
    (checked : bytes.all (fun byte => byte.toNat < 128) = true) :
    IsAscii bytes := by
  intro byte member
  exact of_decide_eq_true (List.all_eq_true.mp checked byte member)

theorem IsAscii.append
    {first second : Bytes}
    (isFirst : IsAscii first)
    (isSecond : IsAscii second) :
    IsAscii (first ++ second) := by
  intro byte member
  rcases List.mem_append.mp member with inFirst | inSecond
  · exact isFirst byte inFirst
  · exact isSecond byte inSecond

theorem IsAscii.cons
    {byte : UInt8}
    {bytes : Bytes}
    (isFirst : byte.toNat < 128)
    (isRest : IsAscii bytes) :
    IsAscii (byte :: bytes) := by
  intro other member
  rcases List.mem_cons.mp member with rfl | inRest
  · exact isFirst
  · exact isRest other inRest

theorem isAscii_padded
    {width number : Nat}
    (below : number < 10 ^ width) :
    IsAscii (padded width number) := by
  intro byte member
  have isDigit := isDigit_padded below byte member
  simp only [ChatRelay.isDigit, Bool.and_eq_true, decide_eq_true_eq,
    UInt8.le_iff_toNat_le] at isDigit
  have high : (0x39 : UInt8).toNat = 57 := rfl
  omega

/-- The string of an ASCII text. -/
def ofAscii : Bytes → String
  | [] =>
      ""
  | byte :: bytes =>
      String.singleton (Char.ofNat byte.toNat) ++ ofAscii bytes

/-- Every ASCII text is the encoding of its string. -/
theorem ascii_ofAscii
    {bytes : Bytes}
    (isAscii : IsAscii bytes) :
    ascii (ofAscii bytes) = bytes := by
  induction bytes with
  | nil =>
      rfl
  | cons byte bytes inductionHypothesis =>
      have rest :=
        inductionHypothesis fun other member =>
          isAscii other (List.mem_cons_of_mem _ member)
      have single :
          ∀ number < 128,
            ascii (String.singleton (Char.ofNat number)) =
              [UInt8.ofNat number] := by
        decide
      have isByte :=
        single byte.toNat (isAscii byte List.mem_cons_self)
      rw [UInt8.ofNat_toNat] at isByte
      have joined :
          ascii (ofAscii (byte :: bytes)) =
            ascii (String.singleton (Char.ofNat byte.toNat)) ++
              ascii (ofAscii bytes) := by
        unfold ascii
        simp [ofAscii]
      rw [joined, isByte, rest]
      rfl

end Ascii

namespace ChronoIo

/-! ### What the server writes -/

/-- Less than a hundred seconds are written. -/
theorem microseconds_lt
    {nanoseconds : Int}
    (after : -60000000000 < nanoseconds)
    (before : nanoseconds < 60000000000) :
    microseconds nanoseconds < 100000000 := by
  have near := abs_le.mp (toSeconds_near after before)
  have after' : (-60000000000 : ℚ) < nanoseconds := by
    exact_mod_cast after
  have before' : (nanoseconds : ℚ) < 60000000000 := by
    exact_mod_cast before
  have small : |toSeconds nanoseconds| ≤ 61 := by
    rw [abs_le]
    constructor <;> linarith
  have rounded :=
    abs_le.mp
      (abs_nearestEven_sub_le (|toSeconds nanoseconds| * 1000000))
  have whole :
      (nearestEven (|toSeconds nanoseconds| * 1000000) : ℚ) <
        100000000 := by
    linarith
  have whole' :
      nearestEven (|toSeconds nanoseconds| * 1000000) < 100000000 := by
    exact_mod_cast whole
  unfold microseconds
  omega

theorem isAscii_minuteText
    {minute : Int}
    (inRange : (gmtime_r minute).InRange) :
    IsAscii (minuteText minute) := by
  obtain ⟨year, month, day, hour, minute⟩ := inRange
  unfold minuteText
  rw [time_put_eq]
  refine (isAscii_padded (by omega)).append (.cons (by decide) ?_)
  refine (isAscii_padded (by omega)).append (.cons (by decide) ?_)
  refine (isAscii_padded (by omega)).append (.cons (by decide) ?_)
  refine (isAscii_padded (by omega)).append (.cons (by decide) ?_)
  refine (isAscii_padded (by omega)).append (.cons (by decide) ?_)
  intro byte member
  cases member

theorem isAscii_fixed
    {nanoseconds : Int}
    (small : microseconds nanoseconds < 100000000) :
    IsAscii (fixed (toSeconds nanoseconds)) := by
  have isFixed :
      fixed (toSeconds nanoseconds) =
        (if toSeconds nanoseconds < 0 then [0x2D] else []) ++
          (decimal (microseconds nanoseconds / 1000000) ++
            0x2E :: padded 6 (microseconds nanoseconds % 1000000)) :=
    rfl
  have sign :
      IsAscii
        (if toSeconds nanoseconds < 0 then [(0x2D : UInt8)] else []) := by
    split <;> exact isAscii_of_all rfl
  have whole :
      IsAscii (decimal (microseconds nanoseconds / 1000000)) := by
    rw [decimal_eq (by omega)]
    split
    · exact isAscii_padded (by omega)
    · exact isAscii_padded (by omega)
  rw [isFixed]
  exact sign.append
    (whole.append (.cons (by decide) (isAscii_padded (by omega))))

/-- The fields of the minute that is written are in their ranges. -/
theorem minute_inRange
    {time : Int}
    (representable : Representable time) :
    (gmtime_r (minuteStart time)).InRange := by
  have split := minuteStart_add time
  have bounds := nanosecondsOfMinute_bounds time
  obtain ⟨lower, upper⟩ := representable
  unfold from_time_t perSecond at split
  exact gmtime_r_inRange (by omega) (by omega)

/-- A time that is printed is an ASCII text. -/
theorem isAscii_insertion
    {time : Int}
    (representable : Representable time) :
    IsAscii (insertion time) := by
  obtain ⟨inMinute, after, _⟩ := nanosecondsOfMinute_bounds time
  have shape :
      insertion time =
        minuteText (minuteStart time) ++
          ((if toSeconds (nanosecondsOfMinute time) < 10 then
              [0x30]
            else
              []) ++
            (fixed (toSeconds (nanosecondsOfMinute time)) ++
              ascii " +0000")) := by
    rw [minuteText_minuteStart]
    rfl
  have zero :
      IsAscii
        (if toSeconds (nanosecondsOfMinute time) < 10 then
          [(0x30 : UInt8)]
        else
          []) := by
    split <;> exact isAscii_of_all rfl
  have zone : IsAscii (ascii " +0000") :=
    isAscii_of_all rfl
  rw [shape]
  exact (isAscii_minuteText (minute_inRange representable)).append
    (zero.append
      ((isAscii_fixed (microseconds_lt (by omega) inMinute)).append zone))

end ChronoIo

/-! ### From the client to the server -/

section Pattern

/-- What the pattern writes for a local time and a zone. -/
def dateTimeText
    (minute : Int)
    (second fraction : Nat)
    (zone : Bytes) :
    Bytes :=
  minuteText minute ++
    (padded 2 second ++
      0x2E :: (padded 6 fraction ++ 0x20 :: zone))

/-- What the pattern writes for the minutes that a zone is ahead of UTC. -/
def zoneText (offset : Int) : Bytes :=
  (if offset < 0 then 0x2D else 0x2B) ::
    (padded 2 (offset.natAbs / 60) ++ padded 2 (offset.natAbs % 60))

/-- Joda writes times with the pattern, in their own zone. -/
structure JodaWrites
    {DateTime : Type}
    (DATETIME_FORMAT : DateTime → String)
    (getMillis zoneOffset : DateTime → Int) : Prop where
  offset :
    ∀ time, -1440 < zoneOffset time ∧ zoneOffset time < 1440
  writes :
    ∀ time : DateTime,
      let millis := getMillis time + zoneOffset time * 60000
      (ChronoIo.gmtime_r (millis / 60000 * 60)).InRange →
        ascii (DATETIME_FORMAT time) =
          dateTimeText (millis / 60000 * 60)
            (millis % 60000 / 1000).toNat
            (millis % 1000 * 1000).toNat
            (zoneText (zoneOffset time))

/-- The server subtracts what a zone is ahead of UTC. -/
theorem zoneMinutes_zoneText
    {offset : Int}
    (after : -1440 < offset)
    (before : offset < 1440) :
    ChronoIo.zoneMinutes (0x20 :: zoneText offset) = some (-offset) := by
  have digits :
      ∀ number, padded 2 number =
        [digit (number / 10), digit (number % 10)] := by
    intro number
    rw [padded, padded, padded, Nat.pow_one, Nat.pow_zero, Nat.div_one]
  have value :
      ∀ number < 10, ((digit number).toNat : Int) - 48 = number := by
    intro number below
    rw [toNat_digit below]
    omega
  have areDigits :
      [digit (offset.natAbs / 60 / 10), digit (offset.natAbs / 60 % 10),
        digit (offset.natAbs % 60 / 10),
        digit (offset.natAbs % 60 % 10)].all isDigit = true := by
    simp only [List.all_cons, List.all_nil, Bool.and_true,
      Bool.and_eq_true]
    refine ⟨isDigit_digit ?_, isDigit_digit ?_, isDigit_digit ?_,
      isDigit_digit ?_⟩ <;> omega
  unfold zoneText
  rw [digits, digits]
  by_cases negative : offset < 0
  · rw [if_pos negative]
    simp only [List.cons_append, List.nil_append, ChronoIo.zoneMinutes]
    rw [if_neg (by decide), areDigits, if_neg (by decide),
      if_pos trivial, value _ (by omega), value _ (by omega),
      value _ (by omega), value _ (by omega)]
    congr 1
    omega
  · rw [if_neg negative]
    simp only [List.cons_append, List.nil_append, ChronoIo.zoneMinutes]
    rw [if_neg (by decide), areDigits, if_neg (by decide),
      if_neg (by decide), value _ (by omega), value _ (by omega),
      value _ (by omega), value _ (by omega)]
    congr 1
    omega

/-- The server reads what the pattern writes. -/
theorem extraction_dateTimeText
    {minute offset : Int}
    {second fraction : Nat}
    (inRange : (ChronoIo.gmtime_r minute).InRange)
    (isMinute : minute % 60 = 0)
    (inMinute : second < 60)
    (inSecond : fraction < 1000000)
    (after : -1440 < offset)
    (before : offset < 1440) :
    extraction (dateTimeText minute second fraction (zoneText offset)) =
      some
        ((minute - offset * 60 + second) * 1000000000 +
          fraction * 1000) := by
  have twoDigits : second < 10 ^ 2 := by
    omega
  have sixDigits : fraction < 10 ^ 6 := by
    omega
  have isNumber :
      ofDecimal (padded 2 second ++ padded 6 fraction) =
        second * 1000000 + fraction := by
    have read := ofDigitChars_padded sixDigits [] second
    rw [List.append_nil, Nat.ofDigitChars_nil] at read
    rw [ofDecimal, List.map_append, ofDigitChars_padded twoDigits,
      Nat.zero_mul, Nat.zero_add, read]
    rfl
  obtain ⟨seconds, extracted, rounded⟩ :=
    ChronoIo.extract_microseconds (by rw [padded]; simp)
      (isDigit_padded twoDigits) sixDigits isNumber (by omega)
      (zoneText offset)
  have wholeMinute : (ChronoIo.gmtime_r minute).tm_sec = 0 := by
    unfold ChronoIo.gmtime_r
    dsimp only
    omega
  unfold extraction dateTimeText minuteText
  rw [ChronoIo.time_get_time_put inRange]
  simp only [Option.bind_eq_bind, Option.bind_some, extracted, rounded,
    zoneMinutes_zoneText after before, ChronoIo.timegm_gmtime_r,
    wholeMinute]
  unfold ChronoIo.from_time_t ChronoIo.perSecond
  change some _ = some _
  congr 1
  push_cast
  omega

end Pattern

/-- The visit of a request with the instant that the server reads. -/
def RequestFraming.ClientRequest.visitedAt
    {DateTime : Type}
    (dateTime : TimePoint) :
    RequestFraming.ClientRequest DateTime → RequestCallback
  | LoginRequest _ mSender =>
      .visitLogin
        { dateTime := dateTime
          sender := ascii mSender }
  | MessageRequest _ mSender mContent =>
      .visitMessage
        { dateTime := dateTime
          sender := ascii mSender
          content := ascii mContent }

/-- The `mDateTime` of a request. -/
def RequestFraming.ClientRequest.mDateTime
    {DateTime : Type} :
    RequestFraming.ClientRequest DateTime → DateTime
  | LoginRequest mDateTime _ =>
      mDateTime
  | MessageRequest mDateTime _ _ =>
      mDateTime

/--
A request is visited with the instant at which the client made it, to the
millisecond and whatever the zone of the client is.
-/
theorem RequestFraming.visitBytes_instant
    {DateTime : Type}
    {DATETIME_FORMAT : DateTime → String}
    {getMillis zoneOffset : DateTime → Int}
    {read_json : Bytes → Option JsonText.Tree}
    {write_json : JsonText.Tree → Bool → Option Bytes}
    {escape : Bytes → Bytes}
    (joda : JodaWrites DATETIME_FORMAT getMillis zoneOffset)
    (reads : JsonText.DocumentReader read_json escape)
    (request : RequestFraming.ClientRequest DateTime)
    (representable :
      ChronoIo.Representable (getMillis request.mDateTime * 1000000)) :
    visitBytes (Platform.chrono read_json write_json)
        (request.getBytes DATETIME_FORMAT escape) =
      .ok (request.visitedAt (getMillis request.mDateTime * 1000000)) := by
  have instant :
      (extraction (ascii (DATETIME_FORMAT request.mDateTime))).getD 0 =
        getMillis request.mDateTime * 1000000 := by
    obtain ⟨after, before⟩ := joda.offset request.mDateTime
    obtain ⟨lower, upper⟩ := representable
    have inRange :=
      @ChronoIo.gmtime_r_inRange
        ((getMillis request.mDateTime +
          zoneOffset request.mDateTime * 60000) / 60000 * 60)
        (by omega) (by omega)
    rw [joda.writes request.mDateTime inRange,
      extraction_dateTimeText inRange (by omega) (by omega) (by omega)
        after before, Option.getD_some]
    generalize isMillis :
        getMillis request.mDateTime +
          zoneOffset request.mDateTime * 60000 = millis
    have seconds :
        millis % 60000 = millis % 60000 / 1000 * 1000 + millis % 1000 := by
      omega
    rw [Int.toNat_of_nonneg (by omega), Int.toNat_of_nonneg (by omega)]
    change @Eq Int _ _
    omega
  have reader :
      JsonText.DocumentReader
        (Platform.chrono read_json write_json).read_json escape :=
    reads
  rw [RequestFraming.visitBytes_getBytes reader request]
  cases request with
  | LoginRequest mDateTime mSender =>
      exact congrArg
        (fun dateTime => Except.ok (RequestCallback.visitLogin
          ⟨dateTime, ascii mSender⟩)) instant
  | MessageRequest mDateTime mSender mContent =>
      exact congrArg
        (fun dateTime => Except.ok (RequestCallback.visitMessage
          ⟨dateTime, ascii mSender, ascii mContent⟩)) instant

/-- A time with the minutes that its zone is ahead of UTC. -/
structure ZonedTime where
  getMillis : Int
  zoneOffset : Int
  inDay : -1440 < zoneOffset ∧ zoneOffset < 1440

/-- The pattern for such a time. -/
def ZonedTime.format (time : ZonedTime) : String :=
  let millis := time.getMillis + time.zoneOffset * 60000
  ofAscii
    (dateTimeText (millis / 60000 * 60)
      (millis % 60000 / 1000).toNat (millis % 1000 * 1000).toNat
      (zoneText time.zoneOffset))

theorem isAscii_zoneText
    {offset : Int}
    (inDay : -1440 < offset ∧ offset < 1440) :
    IsAscii (zoneText offset) := by
  refine .cons ?_
    ((isAscii_padded (by omega)).append (isAscii_padded (by omega)))
  split <;> decide

theorem isAscii_dateTimeText
    {minute : Int}
    {second fraction : Nat}
    {zone : Bytes}
    (inRange : (ChronoIo.gmtime_r minute).InRange)
    (inMinute : second < 100)
    (inSecond : fraction < 1000000)
    (isZone : IsAscii zone) :
    IsAscii (dateTimeText minute second fraction zone) := by
  have fields :
      IsAscii
        (padded 2 second ++
          0x2E :: (padded 6 fraction ++ 0x20 :: zone)) :=
    (isAscii_padded (by omega)).append
      (.cons (by decide)
        ((isAscii_padded (by omega)).append (.cons (by decide) isZone)))
  exact (ChronoIo.isAscii_minuteText inRange).append fields

/-- The pattern for such times writes what Joda writes. -/
theorem ZonedTime.writes :
    JodaWrites ZonedTime.format ZonedTime.getMillis
      ZonedTime.zoneOffset where
  offset := ZonedTime.inDay
  writes := fun time inRange =>
    ascii_ofAscii
      (isAscii_dateTimeText inRange (by omega) (by omega)
        (isAscii_zoneText time.inDay))

/-- A login that is sent five hours behind UTC. -/
theorem RequestFraming.visitBytes_instant_login :
    visitBytes
        (Platform.chrono JsonText.read fun tree _ =>
          some (JsonText.value JsonText.escape tree))
        ((RequestFraming.ClientRequest.LoginRequest
            (⟨1481468645123, -300, by decide⟩ : ZonedTime)
            "ann").getBytes ZonedTime.format JsonText.escape) =
      .ok (.visitLogin ⟨1481468645123000000, ascii "ann"⟩) :=
  visitBytes_instant ZonedTime.writes JsonText.reader
    (.LoginRequest ⟨1481468645123, -300, by decide⟩ "ann")
    ⟨by decide, by decide⟩

end ChatRelay

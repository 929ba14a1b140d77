import ChatRelay.ChronoIo

namespace ChatRelay.ChronoIo

/-!
# Time points that are read back
-/

open BinaryFormat (binary64)

/-! ### Numbers and fields -/

/-- The loop reads a padded number that is in its range. -/
theorem numLoop_padded
    {min max width number : Nat}
    (below : number < 10 ^ width)
    (before : Nat)
    (atLeast : min ≤ before * 10 ^ width + number)
    (atMost : before * 10 ^ width + number ≤ max)
    (rest : Bytes) :
    numLoop min max width before (padded width number ++ rest) =
      (0, before * 10 ^ width + number, rest) := by
  induction width generalizing number before with
  | zero =>
      have isZero : number = 0 := by
        simpa using below
      simp [numLoop, padded, isZero]
  | succ width inductionHypothesis =>
      have positive : 0 < 10 ^ width := Nat.pow_pos (by decide)
      have scaled : number < 10 * 10 ^ width := by
        rwa [Nat.pow_succ, Nat.mul_comm] at below
      have first : number / 10 ^ width < 10 :=
        (Nat.div_lt_iff_lt_mul positive).mpr scaled
      have remainder := Nat.mod_lt number positive
      have total :
          (before * 10 + number / 10 ^ width) * 10 ^ width +
              number % 10 ^ width =
            before * 10 ^ (width + 1) + number := by
        have split := Nat.div_add_mod number (10 ^ width)
        rw [Nat.pow_succ, Nat.add_mul]
        linarith
      have inRange :
          ¬ (max < (before * 10 + number / 10 ^ width) * 10 ^ width ∨
            (before * 10 + number / 10 ^ width) * 10 ^ width +
              10 ^ width ≤ min) := by
        omega
      rw [padded, List.cons_append, numLoop, if_pos (isDigit_digit first),
        toNat_digit first, Nat.add_sub_cancel_left]
      dsimp only
      rw [if_neg inRange,
        inductionHypothesis remainder _ (by omega) (by omega), total]

/-- A padded field that is in its range is extracted. -/
theorem extract_num_padded
    {min max length number : Nat}
    (below : number < 10 ^ length)
    (atLeast : min ≤ number)
    (atMost : number ≤ max)
    (rest : Bytes) :
    extract_num min max length (padded length number ++ rest) =
      some ((number : Int), rest) := by
  unfold extract_num
  rw [numLoop_padded below 0 (by omega) (by omega) rest,
    Nat.zero_mul, Nat.zero_add]
  rfl

/-- A field does not begin with a blank. -/
theorem dropWhile_padded
    {width number : Nat}
    (below : number < 10 ^ (width + 1))
    (rest : Bytes) :
    (padded (width + 1) number ++ rest).dropWhile isBlank =
      padded (width + 1) number ++ rest := by
  have digits := isDigit_padded below
  rw [padded] at digits ⊢
  rw [List.cons_append, List.dropWhile_cons_of_neg]
  have notBlank := (isBlank_of_isDigit (digits _ List.mem_cons_self)).1
  simp [notBlank]

/-! ### The date and the minute -/

/-- The fields of a broken-down time that the two patterns stand for. -/
structure Tm.InRange (tm : Tm) : Prop where
  year : 1000 ≤ tm.tm_year + 1900 ∧ tm.tm_year + 1900 ≤ 9999
  month : 0 ≤ tm.tm_mon ∧ tm.tm_mon ≤ 11
  day : 1 ≤ tm.tm_mday ∧ tm.tm_mday ≤ 31
  hour : 0 ≤ tm.tm_hour ∧ tm.tm_hour ≤ 23
  minute : 0 ≤ tm.tm_min ∧ tm.tm_min ≤ 59

/-- What `time_put` writes for its pattern. -/
theorem time_put_eq
    (tm : Tm) :
    time_put tm (ascii "%F %H:%M:") =
      padded 4 (tm.tm_year + 1900).toNat ++
        (0x2D :: (padded 2 (tm.tm_mon + 1).toNat ++
          (0x2D :: (padded 2 tm.tm_mday.toNat ++
            (0x20 :: (padded 2 tm.tm_hour.toNat ++
              (0x3A :: (padded 2 tm.tm_min.toNat ++ [0x3A])))))))) := by
  have pattern :
      ascii "%F %H:%M:" =
        [0x25, 0x46, 0x20, 0x25, 0x48, 0x3A, 0x25, 0x4D, 0x3A] := by
    decide
  rw [pattern]
  simp [time_put, conversion]

/-- A conversion of the pattern reads a padded field. -/
theorem time_get_field
    {tm after : Tm}
    {specifier : UInt8}
    {width number : Nat}
    {rest : Bytes}
    (read :
      extract_via_format tm (padded (width + 1) number ++ rest) specifier =
        some (after, rest))
    (pattern : Bytes) :
    time_get tm (0x25 :: specifier :: pattern)
        (padded (width + 1) number ++ rest) =
      time_get after pattern rest := by
  rw [padded, List.cons_append] at read ⊢
  rw [time_get, read]
  exact List.cons_ne_nil _ _

/-- A byte of the pattern that is neither a blank nor a conversion. -/
theorem time_get_byte
    {byte : UInt8}
    (notBlank : isBlank byte = false)
    (notConversion : byte ≠ 0x25)
    (tm : Tm)
    (pattern rest : Bytes) :
    time_get tm (byte :: pattern) (byte :: rest) =
      time_get tm pattern rest := by
  rw [time_get, notBlank]
  · simp
  · intro specifier pattern isConversion
    exact (notConversion isConversion).elim

/-- A blank of the pattern skips all blanks that are next. -/
theorem time_get_blank
    (tm : Tm)
    (pattern rest : Bytes) :
    time_get tm (0x20 :: pattern) (0x20 :: rest) =
      time_get tm pattern (rest.dropWhile isBlank) := by
  rw [time_get]
  · rfl
  · intro specifier pattern isConversion
    contradiction

/-- The fields that `time_put` writes are those that `time_get` reads. -/
theorem time_get_time_put
    {tm : Tm}
    (inRange : tm.InRange)
    (rest : Bytes) :
    time_get ⟨0, 0, 0, 0, 0, 0⟩ (ascii "%Y-%m-%d %H:%M:")
        ((time_put tm (ascii "%F %H:%M:") ++ rest).dropWhile isBlank) =
      some ({ tm with tm_sec := 0 }, rest) := by
  obtain ⟨year, month, day, hour, minute⟩ := inRange
  have pattern :
      ascii "%Y-%m-%d %H:%M:" =
        [0x25, 0x59, 0x2D, 0x25, 0x6D, 0x2D, 0x25, 0x64, 0x20, 0x25,
          0x48, 0x3A, 0x25, 0x4D, 0x3A] := by
    decide
  rw [pattern, time_put_eq]
  simp only [List.append_assoc, List.cons_append, List.nil_append]
  rw [dropWhile_padded (by omega)]
  have yearRead :=
    fun rest => @extract_num_padded 0 9999 4 (tm.tm_year + 1900).toNat
      (by omega) (by omega) (by omega) rest
  have monthRead :=
    fun rest => @extract_num_padded 1 12 2 (tm.tm_mon + 1).toNat
      (by omega) (by omega) (by omega) rest
  have dayRead :=
    fun rest => @extract_num_padded 1 31 2 tm.tm_mday.toNat
      (by omega) (by omega) (by omega) rest
  have hourRead :=
    fun rest => @extract_num_padded 0 23 2 tm.tm_hour.toNat
      (by omega) (by omega) (by omega) rest
  have minuteRead :=
    fun rest => @extract_num_padded 0 59 2 tm.tm_min.toNat
      (by omega) (by omega) (by omega) rest
  rw [time_get_field (by rw [extract_via_format, yearRead]; rfl),
    time_get_byte (by decide) (by decide),
    time_get_field (by rw [extract_via_format, monthRead]; rfl),
    time_get_byte (by decide) (by decide),
    time_get_field (by rw [extract_via_format, dayRead]; rfl),
    time_get_blank, dropWhile_padded (by omega),
    time_get_field (by rw [extract_via_format, hourRead]; rfl),
    time_get_byte (by decide) (by decide),
    time_get_field (by rw [extract_via_format, minuteRead]; rfl),
    time_get_byte (by decide) (by decide), time_get]
  have notShort : ¬ ((tm.tm_year + 1900).toNat : Int) < 0 := by
    omega
  have yearSame :
      ((tm.tm_year + 1900).toNat : Int) - 1900 = tm.tm_year := by
    omega
  have monthSame : ((tm.tm_mon + 1).toNat : Int) - 1 = tm.tm_mon := by
    omega
  simp only [if_neg notShort, yearSame, monthSame,
    Int.toNat_of_nonneg (show 0 ≤ tm.tm_mday by omega),
    Int.toNat_of_nonneg hour.1, Int.toNat_of_nonneg minute.1]

/-! ### The seconds -/

/-- A number does not begin with a sign if it begins with a digit. -/
theorem splitSign_digit
    {first : UInt8}
    (isFirst : isDigit first = true)
    (rest : Bytes) :
    splitSign (first :: rest) = (false, first :: rest) := by
  obtain ⟨_, notMinus, notPlus⟩ := isBlank_of_isDigit isFirst
  unfold splitSign
  split
  · rename_i shape
    exact absurd (List.cons.inj shape).1 notMinus
  · rename_i shape
    exact absurd (List.cons.inj shape).1 notPlus
  · rfl

/-- The digits in front of something else are found. -/
theorem span_digits
    {digits : Bytes}
    (areDigits : ∀ byte ∈ digits, isDigit byte = true)
    {next : UInt8}
    (notDigit : isDigit next = false)
    (rest : Bytes) :
    (digits ++ next :: rest).takeWhile isDigit = digits ∧
      (digits ++ next :: rest).dropWhile isDigit = next :: rest := by
  rw [List.takeWhile_append_of_pos areDigits,
    List.dropWhile_append_of_pos areDigits]
  simp [notDigit]

/-- What is no point has no fraction behind it. -/
theorem fractionPart_none
    {next : UInt8}
    (notPoint : next ≠ 0x2E)
    (rest : Bytes) :
    fractionPart (next :: rest) = ([], next :: rest) := by
  unfold fractionPart
  split
  · rename_i shape
    exact absurd (List.cons.inj shape).1 notPoint
  · rfl

/-- What is no exponent ends a number. -/
theorem exponentPart_none
    {next : UInt8}
    (notSmall : next ≠ 0x65)
    (notCapital : next ≠ 0x45)
    (rest : Bytes) :
    exponentPart (next :: rest) = some (0, next :: rest) := by
  unfold exponentPart
  split
  · rename_i shape
    exact absurd (List.cons.inj shape).1 notSmall
  · rename_i shape
    exact absurd (List.cons.inj shape).1 notCapital
  · rfl

/-- A number with a fraction and a blank behind it is extracted. -/
theorem extract_double_fraction
    {whole fraction : Bytes}
    (nonempty : whole ≠ [])
    (wholeDigits : ∀ byte ∈ whole, isDigit byte = true)
    (fractionDigits : ∀ byte ∈ fraction, isDigit byte = true)
    (rest : Bytes)
    {value : ℚ}
    (isValue :
      binary64.round
          (ofDecimal (whole ++ fraction) * 10 ^ (0 - (fraction.length : ℤ))) =
        value)
    (finite : value < 2 ^ 1024) :
    extract_double (whole ++ 0x2E :: (fraction ++ 0x20 :: rest)) =
      some (value, 0x20 :: rest) := by
  obtain ⟨first, others, rfl⟩ := List.exists_cons_of_ne_nil nonempty
  have sign :
      splitSign (first :: others ++ 0x2E :: (fraction ++ 0x20 :: rest)) =
        (false, first :: others ++ 0x2E :: (fraction ++ 0x20 :: rest)) :=
    splitSign_digit (wholeDigits first List.mem_cons_self) _
  have point : isDigit 0x2E = false := by
    decide
  have blank : isDigit 0x20 = false := by
    decide
  obtain ⟨wholeTaken, wholeDropped⟩ :=
    span_digits wholeDigits point (fraction ++ 0x20 :: rest)
  obtain ⟨fractionTaken, fractionDropped⟩ :=
    span_digits fractionDigits blank rest
  unfold extract_double
  rw [sign]
  dsimp only
  rw [wholeTaken, wholeDropped]
  simp only [fractionPart, fractionTaken, fractionDropped]
  rw [if_neg (by simp), exponentPart_none (by decide) (by decide)]
  simp only [isValue]
  rw [if_neg (not_le.mpr finite), if_neg (by decide)]

/-- A zero in front of a minus sign is a number of its own. -/
theorem extract_double_zero
    (rest : Bytes) :
    extract_double (0x30 :: 0x2D :: rest) = some (0, 0x2D :: rest) := by
  have zero : isDigit 0x30 = true := by
    decide
  have minus : isDigit 0x2D = false := by
    decide
  have number : ofDecimal [0x30] = 0 := by
    decide
  unfold extract_double
  rw [splitSign_digit zero]
  simp only [List.takeWhile_cons, List.dropWhile_cons, zero, minus,
    if_true, Bool.false_eq_true, if_false,
    fractionPart_none (show (0x2D : UInt8) ≠ 0x2E by decide),
    exponentPart_none (show (0x2D : UInt8) ≠ 0x65 by decide)
      (by decide), List.append_nil, number, Nat.cast_zero, zero_mul,
    BinaryFormat.round_zero]
  norm_num

/-! ### Rounding -/

/-- A `double` close to a number of microseconds is rounded to that number. -/
theorem roundMicroseconds_eq
    {seconds : ℚ}
    {micros : Int}
    (nonneg : 0 ≤ micros)
    (small : micros < 2 ^ 30)
    (near : |seconds * 1000000 - micros| < 1 / 100) :
    roundMicroseconds seconds = micros := by
  have nonneg' : (0 : ℚ) ≤ micros := by
    exact_mod_cast nonneg
  have small' : (micros : ℚ) < 1073741824 := by
    exact_mod_cast (show micros < 1073741824 by omega)
  have close := abs_lt.mp near
  have size : |seconds * 1000000| < 2 ^ 31 := by
    rw [abs_lt]
    constructor <;> norm_num <;> linarith
  have product :=
    abs_le.mp (BinaryFormat.abs_round64_sub_le 31 size)
  unfold roundMicroseconds
  set d := binary64.round (seconds * 1000000)
  have above : (micros : ℚ) - 1 / 50 < d := by
    norm_num at product
    linarith
  have below : d < micros + 1 / 50 := by
    norm_num at product
    linarith
  have truncated :
      truncate d = micros ∨ truncate d = micros - 1 ∧ d < micros := by
    unfold truncate
    split
    · by_cases reached : (micros : ℚ) ≤ d
      · refine Or.inl (Int.floor_eq_iff.mpr ⟨reached, by linarith⟩)
      · refine Or.inr ⟨Int.floor_eq_iff.mpr ⟨?_, ?_⟩, by linarith⟩
        · push_cast
          linarith
        · push_cast
          linarith
    · rename_i negative
      have isZero : micros = 0 := by
        have : (micros : ℚ) < 1 := by
          linarith
        have : micros < 1 := by
          exact_mod_cast this
        omega
      subst isZero
      refine Or.inl (Int.ceil_eq_iff.mpr ⟨?_, ?_⟩)
      · push_cast at *
        linarith
      · push_cast at *
        linarith
  -- The differences decide for the nearer one of the two candidates.
  have exact0 : binary64.round (truncate d) = truncate d :=
    BinaryFormat.round64_intCast (abs_lt.mpr (by omega))
  have exact1 : binary64.round (truncate d + 1 : Int) = (truncate d + 1 : Int) :=
    BinaryFormat.round64_intCast (abs_lt.mpr (by omega))
  dsimp only
  rw [exact0, exact1]
  have difference :
      ∀ value : ℚ, |value| < 2 ^ 1 →
        |binary64.round value - value| ≤ 1 / 1000 := by
    intro value bounded
    have error := BinaryFormat.abs_round64_sub_le 1 bounded
    norm_num at error ⊢
    linarith
  rcases truncated with isMicros | ⟨isMicros, notReached⟩
  · have low :=
      abs_le.mp (difference (d - (truncate d : Int)) (by
        rw [isMicros, abs_lt]
        constructor <;> linarith))
    have high :=
      abs_le.mp (difference ((truncate d + 1 : Int) - d) (by
        rw [isMicros, abs_lt]
        push_cast
        constructor <;> linarith))
    rw [isMicros] at low high ⊢
    push_cast at low high ⊢
    rw [if_neg (by intro same; linarith), if_pos (by linarith)]
  · have low :=
      abs_le.mp (difference (d - (truncate d : Int)) (by
        rw [isMicros, abs_lt]
        push_cast
        constructor <;> linarith))
    have high :=
      abs_le.mp (difference ((truncate d + 1 : Int) - d) (by
        rw [isMicros, abs_lt]
        push_cast
        constructor <;> linarith))
    rw [isMicros] at low high ⊢
    push_cast at low high ⊢
    rw [if_neg (by intro same; linarith), if_neg (by linarith)]
    omega

/-- The microseconds that are written for a number of nanoseconds. -/
def microseconds (nanoseconds : Int) : Nat :=
  (nearestEven (|toSeconds nanoseconds| * 1000000)).toNat

section Minute

variable
  {nanoseconds : Int}
  (nonneg : 0 ≤ nanoseconds)
  (inMinute : nanoseconds < 60000000000)

/-- How far the `double` is from the nanoseconds it stands for. -/
theorem toSeconds_near
    (after : -60000000000 < nanoseconds)
    (before : nanoseconds < 60000000000) :
    |toSeconds nanoseconds - nanoseconds / 1000000000| ≤
      1 / 100000000000 := by
  have exact : binary64.round nanoseconds = nanoseconds :=
    BinaryFormat.round64_intCast (abs_lt.mpr (by omega))
  have after' : (-60000000000 : ℚ) < nanoseconds := by
    exact_mod_cast after
  have before' : (nanoseconds : ℚ) < 60000000000 := by
    exact_mod_cast before
  have size : |(nanoseconds : ℚ) / 1000000000| < 2 ^ 6 := by
    rw [abs_lt, div_lt_iff₀ (by norm_num), lt_div_iff₀ (by norm_num)]
    constructor <;> norm_num <;> linarith
  unfold toSeconds
  rw [exact]
  exact (BinaryFormat.abs_round64_sub_le 6 size).trans (by norm_num)

/-- Nanoseconds before the minute are a negative number of seconds. -/
theorem toSeconds_neg
    (after : -1000000000 < nanoseconds)
    (negative : nanoseconds < 0) :
    toSeconds nanoseconds < 0 := by
  have near :=
    abs_le.mp (@toSeconds_near nanoseconds (by omega) (by omega))
  have below : (nanoseconds : ℚ) ≤ -1 := by
    exact_mod_cast (show nanoseconds ≤ -1 by omega)
  linarith

include nonneg

theorem toSeconds_nonneg :
    0 ≤ toSeconds nanoseconds := by
  have nonneg' : (0 : ℚ) ≤ nanoseconds := by
    exact_mod_cast nonneg
  exact BinaryFormat.round_nonneg _
    (div_nonneg (BinaryFormat.round_nonneg _ nonneg') (by norm_num))

include inMinute

/-- The `double` is below ten exactly if the nanoseconds are. -/
theorem toSeconds_lt_ten :
    toSeconds nanoseconds < 10 ↔ nanoseconds < 10000000000 := by
  have near := abs_le.mp (toSeconds_near (by omega) inMinute)
  rcases lt_trichotomy nanoseconds 10000000000 with less | same | more
  · have below : (nanoseconds : ℚ) ≤ 9999999999 := by
      exact_mod_cast (show nanoseconds ≤ 9999999999 by omega)
    exact iff_of_true (by linarith) less
  · subst same
    have exact :
        binary64.round (10000000000 : Int) = (10000000000 : Int) :=
      BinaryFormat.round64_intCast (by decide)
    have ten : binary64.round (10 : Int) = (10 : Int) :=
      BinaryFormat.round64_intCast (by decide)
    have isTen : toSeconds 10000000000 = 10 := by
      unfold toSeconds
      rw [exact]
      norm_num at ten ⊢
      exact ten
    rw [isTen]
    norm_num
  · have above : (10000000001 : ℚ) ≤ nanoseconds := by
      exact_mod_cast (show 10000000001 ≤ nanoseconds by omega)
    exact iff_of_false (by linarith) (by omega)

/-- The microseconds that are written are the nearest ones. -/
theorem microseconds_near :
    |1000 * (microseconds nanoseconds : Int) - nanoseconds| ≤ 500 := by
  have near := abs_le.mp (toSeconds_near (by omega) inMinute)
  have positive := toSeconds_nonneg nonneg
  have scaled : 0 ≤ toSeconds nanoseconds * 1000000 :=
    mul_nonneg positive (by norm_num)
  have whole := nearestEven_nonneg scaled
  have rounded :=
    abs_le.mp (abs_nearestEven_sub_le (toSeconds nanoseconds * 1000000))
  have isMicros :
      (microseconds nanoseconds : Int) =
        nearestEven (toSeconds nanoseconds * 1000000) := by
    rw [microseconds, abs_of_nonneg positive, Int.toNat_of_nonneg whole]
  rw [isMicros]
  set micros := nearestEven (toSeconds nanoseconds * 1000000)
  have upper : (1000 * micros - nanoseconds : ℚ) < 501 := by
    linarith
  have lower : (-501 : ℚ) < 1000 * micros - nanoseconds := by
    linarith
  have upper' : 1000 * micros - nanoseconds < 501 := by
    exact_mod_cast upper
  have lower' : -501 < 1000 * micros - nanoseconds := by
    exact_mod_cast lower
  rw [abs_le]
  omega

end Minute

/-! ### The minute and what is behind it -/

/-- The nanoseconds that are written behind the minute. -/
def nanosecondsOfMinute (time : Int) : Int :=
  time - from_time_t (to_time_t time) +
    (gmtime_r (to_time_t time)).tm_sec * perSecond

/-- The second in which the minute that is written begins. -/
def minuteStart (time : Int) : Int :=
  to_time_t time - (gmtime_r (to_time_t time)).tm_sec

/-- A time point is the minute that is written and the nanoseconds behind. -/
theorem minuteStart_add
    (time : Int) :
    from_time_t (minuteStart time) + nanosecondsOfMinute time = time := by
  unfold minuteStart nanosecondsOfMinute from_time_t
  rw [sub_mul]
  omega

/-- The broken-down minute is put together again. -/
theorem timegm_gmtime_r
    (time : Int) :
    timegm { gmtime_r time with tm_sec := 0 } =
      time - (gmtime_r time).tm_sec := by
  have day := CivilDate.toDays_ofDays (time / 86400)
  unfold timegm gmtime_r
  simp only [sub_add_cancel]
  rw [day]
  omega

/-- The fields of a time that 64 bits of nanoseconds can hold. -/
theorem gmtime_r_inRange
    {time : Int}
    (after : -9300000000 < time)
    (before : time < 9300000000) :
    (gmtime_r time).InRange := by
  have bounds := CivilDate.ofDays_bounds (time / 86400)
  have year :=
    @CivilDate.ofDays_year (time / 86400) (by omega) (by omega)
  unfold gmtime_r
  constructor <;> dsimp only <;> omega

/-- Where a time lies in its second, whose number is truncated. -/
theorem to_time_t_spec
    (time : Int) :
    ∃ fraction,
      time = to_time_t time * perSecond + fraction ∧
        (0 ≤ time → 0 ≤ fraction) ∧
        (time < 0 → fraction ≤ 0) ∧
        -perSecond < fraction ∧ fraction < perSecond := by
  refine ⟨time.tmod perSecond, ?_, ?_, ?_, ?_, ?_⟩
  · rw [to_time_t, mul_comm]
    exact (Int.mul_tdiv_add_tmod time perSecond).symm
  · intro nonneg
    exact Int.tmod_nonneg perSecond nonneg
  · intro negative
    have positive := Int.tmod_nonneg perSecond (show 0 ≤ -time by omega)
    rw [Int.neg_tmod] at positive
    omega
  · exact Int.lt_tmod_of_pos time (by decide)
  · exact Int.tmod_lt_of_pos time (by decide)

/--
A time before the epoch in the last second of a minute: its second is
truncated to the minute that follows.
-/
def BeforeMinute (time : Int) : Prop :=
  time < 0 ∧ 59000000000 < time % 60000000000

instance (time : Int) : Decidable (BeforeMinute time) :=
  inferInstanceAs (Decidable (_ ∧ _))

/-- The nanoseconds are behind the minute except in that case. -/
theorem nanosecondsOfMinute_bounds
    (time : Int) :
    nanosecondsOfMinute time < 60000000000 ∧
      -1000000000 < nanosecondsOfMinute time ∧
      (nanosecondsOfMinute time < 0 ↔ BeforeMinute time) := by
  obtain ⟨fraction, split, nonneg, negative, after, before⟩ :=
    to_time_t_spec time
  have second :
      (gmtime_r (to_time_t time)).tm_sec = to_time_t time % 60 := by
    unfold gmtime_r
    dsimp only
    omega
  unfold nanosecondsOfMinute from_time_t BeforeMinute
  rw [second]
  unfold perSecond at *
  generalize to_time_t time = whole at *
  omega

/-! ### The text of the seconds -/

/-- The digits in front of the point. -/
def wholeSeconds (nanoseconds : Int) : Bytes :=
  (if toSeconds nanoseconds < 10 then [0x30] else []) ++
    decimal (microseconds nanoseconds / 1000000)

/-- What is written behind the minute for nanoseconds that follow it. -/
theorem secondsText_eq
    {nanoseconds : Int}
    (nonneg : 0 ≤ nanoseconds) :
    (if toSeconds nanoseconds < 10 then [0x30] else []) ++
        fixed (toSeconds nanoseconds) =
      wholeSeconds nanoseconds ++
        0x2E :: padded 6 (microseconds nanoseconds % 1000000) := by
  have notNegative := not_lt.mpr (toSeconds_nonneg nonneg)
  unfold fixed wholeSeconds microseconds
  dsimp only
  rw [if_neg notNegative, List.nil_append, List.append_assoc]

/-- The whole seconds are at most two digits behind at most one zero. -/
theorem wholeSeconds_cases
    {nanoseconds : Int}
    (small : microseconds nanoseconds / 1000000 < 100) :
    ∃ zeros width,
      wholeSeconds nanoseconds =
          padded zeros 0 ++
            padded (width + 1) (microseconds nanoseconds / 1000000) ∧
        zeros ≤ 1 ∧
        microseconds nanoseconds / 1000000 < 10 ^ (width + 1) := by
  have zeros :
      ∃ zeros ≤ 1,
        (if toSeconds nanoseconds < 10 then [(0x30 : UInt8)] else []) =
          padded zeros 0 := by
    split
    · exact ⟨1, by decide, by decide⟩
    · exact ⟨0, by decide, by decide⟩
  obtain ⟨zeros, atMostOne, isZeros⟩ := zeros
  unfold wholeSeconds
  rw [isZeros, decimal_eq small]
  split
  · exact ⟨zeros, 0, rfl, atMostOne, by omega⟩
  · exact ⟨zeros, 1, rfl, atMostOne, by omega⟩

/-- The whole seconds are digits, and with six more they are the number. -/
theorem wholeSeconds_spec
    {nanoseconds : Int}
    (small : microseconds nanoseconds / 1000000 < 100) :
    wholeSeconds nanoseconds ≠ [] ∧
      (∀ byte ∈ wholeSeconds nanoseconds, isDigit byte = true) ∧
      ofDecimal
          (wholeSeconds nanoseconds ++
            padded 6 (microseconds nanoseconds % 1000000)) =
        microseconds nanoseconds := by
  obtain ⟨zeros, width, isWhole, _, fits⟩ := wholeSeconds_cases small
  have zero : 0 < 10 ^ zeros := Nat.pow_pos (by decide)
  have remainder : microseconds nanoseconds % 1000000 < 10 ^ 6 :=
    Nat.mod_lt _ (by decide)
  rw [isWhole]
  refine ⟨?_, ?_, ?_⟩
  · rw [padded]
    simp
  · intro byte member
    rcases List.mem_append.mp member with inZeros | inDigits
    · exact isDigit_padded zero byte inZeros
    · exact isDigit_padded fits byte inDigits
  · have read := ofDigitChars_padded remainder []
      (microseconds nanoseconds / 1000000)
    rw [List.append_nil, Nat.ofDigitChars_nil] at read
    rw [ofDecimal, List.append_assoc, List.map_append, List.map_append,
      ofDigitChars_padded zero, ofDigitChars_padded fits, Nat.zero_mul,
      Nat.add_zero, Nat.zero_mul, Nat.zero_add, read]
    omega

/-- Seconds with six decimals are read as their number of microseconds. -/
theorem extract_microseconds
    {whole : Bytes}
    {fraction micros : Nat}
    (nonempty : whole ≠ [])
    (areDigits : ∀ byte ∈ whole, isDigit byte = true)
    (inSecond : fraction < 10 ^ 6)
    (isNumber : ofDecimal (whole ++ padded 6 fraction) = micros)
    (small : micros < 100000000)
    (rest : Bytes) :
    ∃ seconds,
      extract_double
          ((whole ++ 0x2E :: (padded 6 fraction ++ 0x20 :: rest)).dropWhile
            isBlank) =
        some (seconds, 0x20 :: rest) ∧
      roundMicroseconds seconds = micros := by
  have bound : (micros : ℚ) < 100000000 := by
    exact_mod_cast small
  have positive : (0 : ℚ) ≤ micros :=
    Nat.cast_nonneg _
  set value : ℚ := micros * 10 ^ (0 - ((6 : ℕ) : ℤ)) with isValue
  have scaled : value * 1000000 = micros := by
    rw [isValue]
    norm_num
    ring
  have size : |value| < 2 ^ 7 := by
    rw [abs_lt]
    constructor <;> norm_num <;> linarith
  have error := abs_le.mp (BinaryFormat.abs_round64_sub_le 7 size)
  norm_num at error
  refine ⟨binary64.round value, ?_, ?_⟩
  · have large : (2 : ℚ) ^ 8 < 2 ^ 1024 :=
      pow_lt_pow_right₀ (by norm_num) (by norm_num)
    have finite : binary64.round value < 2 ^ 1024 :=
      lt_trans (by norm_num; linarith) large
    have extracted :=
      extract_double_fraction nonempty areDigits
        (isDigit_padded inSecond) rest
        (show _ = binary64.round value by
          rw [isNumber, length_padded]) finite
    obtain ⟨first, others, rfl⟩ :=
      List.exists_cons_of_ne_nil nonempty
    have notBlank :=
      (isBlank_of_isDigit (areDigits first List.mem_cons_self)).1
    rw [List.cons_append, List.dropWhile_cons_of_neg (by simp [notBlank])]
    exact extracted
  · apply roundMicroseconds_eq
    · exact Int.natCast_nonneg _
    · omega
    · rw [abs_lt, Int.cast_natCast, ← scaled]
      constructor <;> linarith

/-! ### The round trip -/

/-- `system_clock` counts nanoseconds in 64 bits; sums need a minute more. -/
def Representable (time : Int) : Prop :=
  -9223372036854775808 + 60000000000 ≤ time ∧
    time ≤ 9223372036854775807 - 60000000000

/-- What is written for a time point behind its minute. -/
theorem insertion_eq
    {time : Int}
    (behind : 0 ≤ nanosecondsOfMinute time) :
    insertion time =
      time_put (gmtime_r (to_time_t time)) (ascii "%F %H:%M:") ++
        (wholeSeconds (nanosecondsOfMinute time) ++
          0x2E ::
            (padded 6 (microseconds (nanosecondsOfMinute time) % 1000000) ++
              0x20 :: ascii "+0000")) := by
  have seconds :
      secondsWritten time = toSeconds (nanosecondsOfMinute time) :=
    rfl
  have zone : ascii " +0000" = 0x20 :: ascii "+0000" := by
    decide
  unfold insertion
  dsimp only
  rw [seconds, ← List.append_assoc (ite _ _ _), secondsText_eq behind, zone]
  simp only [List.append_assoc, List.cons_append]

/-- The fields of the time that is written are in their ranges. -/
theorem inRange_of_representable
    {time : Int}
    (representable : Representable time) :
    (gmtime_r (to_time_t time)).InRange := by
  obtain ⟨fraction, split, _, _, after, before⟩ := to_time_t_spec time
  obtain ⟨lower, upper⟩ := representable
  unfold perSecond at *
  exact gmtime_r_inRange (by omega) (by omega)

/-- The microsecond that the text of a time point stands for. -/
def written (time : Int) : Int :=
  from_time_t (minuteStart time) +
    microseconds (nanosecondsOfMinute time) * 1000

/-- The text of a time point behind its minute is read. -/
theorem extraction_of_behind
    {time : Int}
    (representable : Representable time)
    (behind : 0 ≤ nanosecondsOfMinute time) :
    extraction (insertion time) = some (written time) := by
  have inMinute := (nanosecondsOfMinute_bounds time).1
  have near := abs_le.mp (microseconds_near behind inMinute)
  obtain ⟨nonempty, areDigits, isNumber⟩ :=
    @wholeSeconds_spec (nanosecondsOfMinute time) (by omega)
  have inSecond :
      microseconds (nanosecondsOfMinute time) % 1000000 < 10 ^ 6 :=
    Nat.mod_lt _ (by decide)
  obtain ⟨seconds, extracted, rounded⟩ :=
    extract_microseconds nonempty areDigits inSecond isNumber
      (by omega) (ascii "+0000")
  have zone : zoneMinutes (0x20 :: ascii "+0000") = some 0 := by
    decide
  unfold extraction
  rw [insertion_eq behind,
    time_get_time_put (inRange_of_representable representable)]
  simp only [Option.bind_eq_bind, Option.bind_some, extracted, zone,
    rounded, timegm_gmtime_r, zero_mul, add_zero]
  rfl

/-- The text of a time point before its minute is not read. -/
theorem extraction_of_before
    {time : Int}
    (representable : Representable time)
    (before : nanosecondsOfMinute time < 0) :
    extraction (insertion time) = none := by
  have after := (nanosecondsOfMinute_bounds time).2.1
  have negative := toSeconds_neg after before
  have seconds :
      secondsWritten time = toSeconds (nanosecondsOfMinute time) :=
    rfl
  have blank : isBlank 0x30 = false := by
    decide
  unfold extraction insertion
  dsimp only
  rw [time_get_time_put (inRange_of_representable representable), seconds,
    if_pos (by linarith), fixed, if_pos negative]
  simp only [Option.bind_eq_bind, Option.bind_some, List.cons_append,
    List.nil_append, List.dropWhile_cons, blank, Bool.false_eq_true,
    if_false, extract_double_zero]
  rfl

/--
The text of a time point is read as the nearest microsecond, unless the time
is before the epoch in the last second of a minute: then it is not read.
-/
theorem extraction_insertion
    (time : Int)
    (representable : Representable time) :
    (BeforeMinute time → extraction (insertion time) = none) ∧
    (¬ BeforeMinute time →
      ∃ read : Int,
        extraction (insertion time) = some read ∧
          read % 1000 = 0 ∧ |read - time| ≤ 500) := by
  obtain ⟨inMinute, _, negative⟩ := nanosecondsOfMinute_bounds time
  constructor
  · intro before
    exact extraction_of_before representable (negative.mpr before)
  · intro notBefore
    have behind : 0 ≤ nanosecondsOfMinute time := by
      have := mt negative.mp notBefore
      omega
    have near := abs_le.mp (microseconds_near behind inMinute)
    have split := minuteStart_add time
    refine
      ⟨written time, extraction_of_behind representable behind, ?_, ?_⟩
    · unfold written from_time_t perSecond
      omega
    · unfold written
      rw [abs_le]
      omega

/-- A time point with nine decimals, and one before the epoch. -/
theorem extraction_insertion_epoch :
    extraction (insertion (-500000000)) = none ∧
      ∃ read : Int,
        extraction (insertion 1481468645123456789) = some read ∧
          read % 1000 = 0 ∧ |read - 1481468645123456789| ≤ 500 :=
  ⟨(extraction_insertion (-500000000) ⟨by decide, by decide⟩).1
      (by decide),
    (extraction_insertion 1481468645123456789
      ⟨by decide, by decide⟩).2 (by decide)⟩

end ChatRelay.ChronoIo

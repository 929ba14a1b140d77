import Mathlib.Data.Int.Log
import Mathlib.Data.Rat.Floor
import Mathlib.Tactic.Linarith

namespace ChatRelay

/-!
# Rounding to binary floating point

A format has a precision and a least exponent; an operation on its numbers
returns the number of the format that is nearest to the exact result, and of
two equally near ones the even one.  What later proofs use is how far a result
can be from the exact one, given how large the exact one is.
-/

/-- The nearest integer; halfway between two of them, the even one. -/
def nearestEven (value : ℚ) : ℤ :=
  let below := ⌊value⌋
  let rest := value - below
  if rest < 1 / 2 then
    below
  else if 1 / 2 < rest then
    below + 1
  else if below % 2 = 0 then
    below
  else
    below + 1

/-- An integer that is nearest to a number is at most a half away from it. -/
theorem abs_nearestEven_sub_le
    (value : ℚ) :
    |(nearestEven value : ℚ) - value| ≤ 1 / 2 := by
  have below := Int.floor_le value
  have above := Int.lt_floor_add_one value
  unfold nearestEven
  dsimp only
  rw [abs_le]
  split_ifs <;> push_cast <;> constructor <;> linarith

/-- A number that is closer than a half to an integer is rounded to it. -/
theorem nearestEven_eq
    {value : ℚ}
    {integer : ℤ}
    (near : |value - integer| < 1 / 2) :
    nearestEven value = integer := by
  have rounded := abs_le.mp (abs_nearestEven_sub_le value)
  have close := abs_lt.mp near
  have lower : (integer : ℚ) - 1 < nearestEven value := by
    linarith
  have upper : (nearestEven value : ℚ) < integer + 1 := by
    linarith
  have lower' : integer - 1 < nearestEven value := by
    exact_mod_cast lower
  have upper' : nearestEven value < integer + 1 := by
    exact_mod_cast upper
  omega

/-- The nearest integer of a number that is not negative is not negative. -/
theorem nearestEven_nonneg
    {value : ℚ}
    (nonneg : 0 ≤ value) :
    0 ≤ nearestEven value := by
  have rounded := abs_le.mp (abs_nearestEven_sub_le value)
  have above : (-1 : ℚ) < nearestEven value := by
    linarith
  have above' : (-1 : ℤ) < nearestEven value := by
    exact_mod_cast above
  omega

/-- A binary format: the bits of its significands and its least exponent. -/
structure BinaryFormat where
  precision : ℕ
  minExponent : ℤ

namespace BinaryFormat

/-- The format of `double`. -/
def binary64 : BinaryFormat where
  precision := 53
  minExponent := -1074

variable (format : BinaryFormat)

/-- The exponent of the unit in the last place of the numbers around a value. -/
def exponent (value : ℚ) : ℤ :=
  max (Int.log 2 |value| + 1 - format.precision) format.minExponent

/-- The unit in the last place. -/
def unit (value : ℚ) : ℚ :=
  2 ^ format.exponent value

/-- The number of the format that is nearest to a value. -/
def round (value : ℚ) : ℚ :=
  nearestEven (value / format.unit value) * format.unit value

theorem unit_pos
    (value : ℚ) :
    0 < format.unit value :=
  zpow_pos (by norm_num) _

/-- A result is at most half a unit away from the exact value. -/
theorem abs_round_sub_le
    (value : ℚ) :
    |format.round value - value| ≤ format.unit value / 2 := by
  have positive := format.unit_pos value
  have scaled := abs_nearestEven_sub_le (value / format.unit value)
  have factored :
      format.round value - value =
        (nearestEven (value / format.unit value) -
            value / format.unit value) *
          format.unit value := by
    rw [sub_mul, div_mul_cancel₀ _ positive.ne']
    rfl
  rw [factored, abs_mul, abs_of_pos positive]
  calc
    |(nearestEven (value / format.unit value) : ℚ) -
          value / format.unit value| * format.unit value
        ≤ 1 / 2 * format.unit value :=
      mul_le_mul_of_nonneg_right scaled positive.le
    _ = format.unit value / 2 := by
      ring

/-- Below a power of two the unit is that many bits smaller. -/
theorem unit_le
    {value : ℚ}
    {bound : ℤ}
    (nonzero : value ≠ 0)
    (below : |value| < 2 ^ bound)
    (normal : format.minExponent ≤ bound - format.precision) :
    format.unit value ≤ 2 ^ (bound - format.precision) := by
  have positive : 0 < |value| := abs_pos.mpr nonzero
  have logBelow : Int.log 2 |value| < bound := by
    apply (Int.lt_zpow_iff_log_lt (by norm_num) positive).mp
    exact_mod_cast below
  apply zpow_le_zpow_right₀ (by norm_num)
  unfold exponent
  omega

/-- Zero is a number of the format. -/
@[simp] theorem round_zero :
    format.round 0 = 0 := by
  have zero : nearestEven 0 = 0 :=
    nearestEven_eq (by norm_num)
  unfold round
  rw [zero_div, zero, Int.cast_zero, zero_mul]

/-- How far a result can be from an exact value below a power of two. -/
theorem abs_round_sub_le_of_lt
    {value : ℚ}
    {bound : ℤ}
    (below : |value| < 2 ^ bound)
    (normal : format.minExponent ≤ bound - format.precision) :
    |format.round value - value| ≤ 2 ^ (bound - format.precision) / 2 := by
  by_cases isZero : value = 0
  · subst isZero
    rw [round_zero, sub_zero, abs_zero]
    exact div_nonneg (zpow_pos (by norm_num) _).le (by norm_num)
  · have unitLe := format.unit_le isZero below normal
    exact (format.abs_round_sub_le value).trans (by linarith)

/-- An integer whose bits fit is a number of the format. -/
theorem round_intCast
    {integer : ℤ}
    (fits : |(integer : ℚ)| < 2 ^ (format.precision : ℤ))
    (normal : format.minExponent ≤ 0) :
    format.round integer = integer := by
  by_cases isZero : integer = 0
  · rw [isZero, Int.cast_zero, round_zero]
  · have positive : 0 < |(integer : ℚ)| := by
      exact_mod_cast abs_pos.mpr isZero
    have logBelow : Int.log 2 |(integer : ℚ)| < format.precision := by
      apply (Int.lt_zpow_iff_log_lt (by norm_num) positive).mp
      exact_mod_cast fits
    have exponentLe : format.exponent integer ≤ 0 := by
      unfold exponent
      omega
    -- The value is a whole number of units.
    obtain ⟨bits, isBits⟩ := Int.eq_ofNat_of_zero_le
      (show 0 ≤ -format.exponent integer by omega)
    have units :
        (integer : ℚ) / format.unit integer =
          ((integer * 2 ^ bits : ℤ) : ℚ) := by
      rw [unit, div_eq_mul_inv, ← zpow_neg, isBits]
      push_cast
      rfl
    have exact : nearestEven ((integer : ℚ) / format.unit integer) =
        integer * 2 ^ bits := by
      apply nearestEven_eq
      rw [units, sub_self, abs_zero]
      norm_num
    rw [round, exact, ← units,
      div_mul_cancel₀ _ (format.unit_pos integer).ne']

/-- A result that is not negative stays so. -/
theorem round_nonneg
    {value : ℚ}
    (nonneg : 0 ≤ value) :
    0 ≤ format.round value := by
  have positive := format.unit_pos value
  have whole :=
    nearestEven_nonneg (div_nonneg nonneg positive.le)
  exact mul_nonneg (by exact_mod_cast whole) positive.le

/-- How far a `double` can be from an exact value with a number of bits. -/
theorem abs_round64_sub_le
    {value : ℚ}
    (bits : ℕ)
    (below : |value| < 2 ^ bits) :
    |binary64.round value - value| ≤ 2 ^ bits / 2 ^ 54 := by
  have bound :
      |binary64.round value - value| ≤
        2 ^ ((bits : ℤ) - (binary64.precision : ℤ)) / 2 :=
    binary64.abs_round_sub_le_of_lt
      (by exact_mod_cast below) (by unfold binary64; simp; omega)
  have same :
      (2 : ℚ) ^ ((bits : ℤ) - (binary64.precision : ℤ)) / 2 =
        2 ^ bits / 2 ^ 54 := by
    rw [zpow_sub₀ (by norm_num)]
    norm_num [binary64]
    ring
  rwa [same] at bound

/-- A `double` holds every integer of 53 bits. -/
theorem round64_intCast
    {integer : ℤ}
    (fits : |integer| < 2 ^ 53) :
    binary64.round integer = integer := by
  apply binary64.round_intCast
  · exact_mod_cast fits
  · decide

/-- The significand of the `double` that a value is rounded to. -/
theorem round64_eq
    {value : ℚ}
    {bits : ℕ}
    {significand : ℤ}
    (atLeast : 2 ^ bits ≤ value)
    (below : value < 2 ^ (bits + 1))
    (near : |value * 2 ^ 52 / 2 ^ bits - significand| < 1 / 2) :
    binary64.round value = significand * 2 ^ bits / 2 ^ 52 := by
  have positive : 0 < value :=
    lt_of_lt_of_le (by positivity) atLeast
  have isLog : Int.log 2 |value| = bits := by
    rw [abs_of_pos positive]
    have low : (bits : ℤ) ≤ Int.log 2 value := by
      apply (Int.zpow_le_iff_le_log (by norm_num) positive).mp
      exact_mod_cast atLeast
    have high : Int.log 2 value < (bits : ℤ) + 1 := by
      apply (Int.lt_zpow_iff_log_lt (by norm_num) positive).mp
      exact_mod_cast below
    omega
  have isUnit : binary64.unit value = 2 ^ bits / 2 ^ 52 := by
    have isExponent : binary64.exponent value = (bits : ℤ) - 52 := by
      unfold exponent binary64
      rw [isLog]
      dsimp only
      omega
    rw [unit, isExponent, zpow_sub₀ (by norm_num)]
    norm_cast
  have scaled :
      value / binary64.unit value = value * 2 ^ 52 / 2 ^ bits := by
    rw [isUnit, div_div_eq_mul_div]
  rw [round, scaled, nearestEven_eq near, isUnit, mul_div_assoc]

end BinaryFormat

end ChatRelay

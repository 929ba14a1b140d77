import Mathlib.Tactic.Linarith
import ChatRelay.MessageCodec

namespace ChatRelay

/-!
# Numbers of a fixed width

Texts of decimal digits as dates and times are made of: numbers padded with
zeros to a width, and numbers written with as many digits as they need.
-/

/-- The digit of a number below ten. -/
def digit (number : Nat) : UInt8 :=
  UInt8.ofNat (0x30 + number)

/-- A number below `10 ^ width` with leading zeros. -/
def padded : Nat → Nat → Bytes
  | 0, _ =>
      []
  | width + 1, number =>
      digit (number / 10 ^ width) :: padded width (number % 10 ^ width)

/-- A number with as many digits as it needs. -/
def decimal (number : Nat) : Bytes :=
  (Nat.toDigits 10 number).map Char.toUInt8

theorem toNat_digit
    {number : Nat}
    (below : number < 10) :
    (digit number).toNat = 48 + number := by
  unfold digit
  rw [UInt8.toNat_ofNat']
  omega

theorem isDigit_digit
    {number : Nat}
    (below : number < 10) :
    isDigit (digit number) = true := by
  simp only [isDigit, Bool.and_eq_true, decide_eq_true_eq,
    UInt8.le_iff_toNat_le, toNat_digit below]
  have low : (0x30 : UInt8).toNat = 48 := rfl
  have high : (0x39 : UInt8).toNat = 57 := rfl
  omega

theorem length_padded
    (width number : Nat) :
    (padded width number).length = width := by
  induction width generalizing number with
  | zero =>
      rfl
  | succ width inductionHypothesis =>
      rw [padded, List.length_cons, inductionHypothesis]

theorem isDigit_padded
    {width number : Nat}
    (below : number < 10 ^ width) :
    ∀ byte ∈ padded width number, isDigit byte = true := by
  induction width generalizing number with
  | zero =>
      intro byte member
      cases member
  | succ width inductionHypothesis =>
      have positive : 0 < 10 ^ width := Nat.pow_pos (by decide)
      rw [Nat.pow_succ, Nat.mul_comm] at below
      intro byte member
      rcases List.mem_cons.mp member with rfl | inRest
      · exact isDigit_digit
          ((Nat.div_lt_iff_lt_mul positive).mpr below)
      · exact inductionHypothesis (Nat.mod_lt _ positive) byte inRest

/-- A digit is the character of its number. -/
theorem char_digit
    {number : Nat}
    (below : number < 10) :
    Char.ofNat (digit number).toNat = number.digitChar := by
  rw [toNat_digit below]
  have all :
      ∀ small < 10, Char.ofNat (48 + small) = small.digitChar := by
    decide
  exact all number below

/-- Reading digits behind a number that has been read. -/
theorem ofDigitChars_padded
    {width number : Nat}
    (below : number < 10 ^ width)
    (others : List Char)
    (before : Nat) :
    Nat.ofDigitChars 10
        ((padded width number).map (fun byte => Char.ofNat byte.toNat) ++
          others)
        before =
      Nat.ofDigitChars 10 others (before * 10 ^ width + number) := by
  induction width generalizing number before with
  | zero =>
      have isZero : number = 0 := by
        simpa using below
      simp [padded, isZero]
  | succ width inductionHypothesis =>
      have positive : 0 < 10 ^ width := Nat.pow_pos (by decide)
      rw [Nat.pow_succ, Nat.mul_comm] at below
      have first : number / 10 ^ width < 10 :=
        (Nat.div_lt_iff_lt_mul positive).mpr below
      rw [padded, List.map_cons, List.cons_append, char_digit first,
        Nat.ofDigitChars_cons_digitChar_of_lt_ten first,
        inductionHypothesis (Nat.mod_lt _ positive)]
      congr 1
      have split := Nat.div_add_mod number (10 ^ width)
      rw [Nat.pow_succ, Nat.add_mul]
      linarith

/-- The number of a padded text. -/
theorem ofDecimal_padded
    {width number : Nat}
    (below : number < 10 ^ width) :
    ofDecimal (padded width number) = number := by
  have read := ofDigitChars_padded below [] 0
  rw [List.append_nil, Nat.ofDigitChars_nil, Nat.zero_mul,
    Nat.zero_add] at read
  exact read

/-- Texts of one width tell numbers apart. -/
theorem padded_inj
    {width first second : Nat}
    (isFirst : first < 10 ^ width)
    (isSecond : second < 10 ^ width) :
    padded width first = padded width second ↔ first = second := by
  constructor
  · intro same
    have read := congrArg ofDecimal same
    rwa [ofDecimal_padded isFirst, ofDecimal_padded isSecond] at read
  · rintro rfl
    rfl

/-- So do texts that begin with them. -/
theorem padded_append_inj
    {width first second : Nat}
    (isFirst : first < 10 ^ width)
    (isSecond : second < 10 ^ width)
    {rest others : Bytes} :
    padded width first ++ rest = padded width second ++ others ↔
      first = second ∧ rest = others := by
  rw [← padded_inj isFirst isSecond]
  constructor
  · intro same
    exact List.append_inj same (by rw [length_padded, length_padded])
  · rintro ⟨numbers, rfl⟩
    rw [numbers]

/-- Up to two digits, a number is written as if it were padded. -/
theorem decimal_eq
    {number : Nat}
    (below : number < 100) :
    decimal number =
      if number < 10 then
        padded 1 number
      else
        padded 2 number := by
  have all :
      ∀ small < 100,
        decimal small =
          if small < 10 then padded 1 small else padded 2 small := by
    decide
  exact all number below

end ChatRelay

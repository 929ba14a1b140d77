import Mathlib.Algebra.Group.Int.Defs
import Mathlib.Computability.RegularExpressions

namespace ChatRelay

/-!
# Java texts

Strings as sequences of UTF-16 code units, the decimal integers that they
denote, and patterns that have to match a whole string.
-/

/-- `java.lang.String` -/
abbrev JavaString :=
  List UInt16

/-- The code units of a string literal; it has no supplementary characters. -/
def utf16 (text : String) : JavaString :=
  text.toList.map fun character => UInt16.ofNat character.toNat

/-- The code units from one character to another. -/
def unitsFrom (first last : Char) : JavaString :=
  (List.range' first.toNat (last.toNat + 1 - first.toNat)).map UInt16.ofNat

/-- The units of a range lie between its ends. -/
theorem mem_unitsFrom
    {first last : Char}
    (isUnit : last.toNat < 65536)
    {unit : UInt16} :
    unit ∈ unitsFrom first last ↔
      first.toNat ≤ unit.toNat ∧ unit.toNat ≤ last.toNat := by
  unfold unitsFrom
  rw [List.mem_map]
  constructor
  · rintro ⟨code, member, rfl⟩
    rw [List.mem_range'_1] at member
    have small : code < 65536 := by omega
    rw [UInt16.toNat_ofNat_of_lt' small]
    omega
  · rintro ⟨lower, upper⟩
    refine ⟨unit.toNat, ?_, UInt16.ofNat_toNat⟩
    rw [List.mem_range'_1]
    omega

/-! ## Integers -/

namespace JavaInteger

/-- The zeros of the decimal digits of the basic multilingual plane. -/
def decimalZeros : List UInt16 :=
  [0x0030, 0x0660, 0x06F0, 0x07C0, 0x0966, 0x09E6, 0x0A66, 0x0AE6, 0x0B66,
    0x0BE6, 0x0C66, 0x0CE6, 0x0D66, 0x0DE6, 0x0E50, 0x0ED0, 0x0F20, 0x1040,
    0x1090, 0x17E0, 0x1810, 0x1946, 0x19D0, 0x1A80, 0x1A90, 0x1B50, 0x1BB0,
    0x1C40, 0x1C50, 0xA620, 0xA8D0, 0xA900, 0xA9D0, 0xA9F0, 0xAA50, 0xABF0,
    0xFF10]

/-- `Character.digit(unit, 10)`; `none` stands for -1. -/
def digit (unit : UInt16) : Option Nat :=
  decimalZeros.findSome? fun zero =>
    if zero ≤ unit ∧ unit ≤ zero + 9 then
      some (unit - zero).toNat
    else
      none

/-- The value of a sequence of digits, the first one given. -/
def digits : Nat → JavaString → Option Nat
  | value, [] =>
      some value
  | value, unit :: rest =>
      match digit unit with
      | none =>
          none
      | some d =>
          digits (10 * value + d) rest

/-- At least one digit, and nothing else. -/
def magnitude : JavaString → Option Nat
  | [] =>
      none
  | unit :: rest =>
      digits 0 (unit :: rest)

/-- The range of `int`. -/
def inRange (value : Int) : Option Int :=
  if -2 ^ 31 ≤ value ∧ value < 2 ^ 31 then
    some value
  else
    none

/-- `Integer.parseInt`; `none` stands for a `NumberFormatException`. -/
def parseInt : JavaString → Option Int
  | [] =>
      none
  | first :: rest =>
      if first = 0x2D then
        (magnitude rest).bind fun value => inRange (-value)
      else if first = 0x2B then
        (magnitude rest).bind fun value => inRange value
      else
        (magnitude (first :: rest)).bind fun value => inRange value

example : parseInt (utf16 "9001") = some 9001 := by decide +kernel

example : parseInt (utf16 "2147483648") = none := by decide +kernel

end JavaInteger

/-! ## Patterns -/

namespace JavaPattern

open RegularExpression

/-- A character class. -/
def oneOf {Letter : Type} : List Letter → RegularExpression Letter
  | [] =>
      0
  | letter :: rest =>
      char letter + oneOf rest

/-- `\d` -/
def decimalDigits : JavaString :=
  unitsFrom '0' '9'

/-- `\w` -/
def wordUnits : JavaString :=
  unitsFrom 'a' 'z' ++ unitsFrom 'A' 'Z' ++ utf16 "_" ++ decimalDigits

section Letters

variable {Letter : Type}

/-- The letters that occur in a pattern. -/
def letters : RegularExpression Letter → List Letter
  | .zero =>
      []
  | .epsilon =>
      []
  | .char letter =>
      [letter]
  | .plus first second =>
      letters first ++ letters second
  | .comp first second =>
      letters first ++ letters second
  | .star repeated =>
      letters repeated

/-- What a pattern matches is made of the letters that occur in it. -/
theorem mem_letters
    {pattern : RegularExpression Letter}
    {text : List Letter}
    (matched : text ∈ pattern.matches')
    {letter : Letter}
    (member : letter ∈ text) :
    letter ∈ letters pattern := by
  induction pattern generalizing text with
  | zero =>
      exact matched.elim
  | epsilon =>
      rw [Set.mem_singleton_iff.mp matched] at member
      contradiction
  | char only =>
      rw [Set.mem_singleton_iff.mp matched] at member
      exact member
  | plus first second inFirst inSecond =>
      rw [letters, List.mem_append]
      rcases matched with matched | matched
      · exact Or.inl (inFirst matched member)
      · exact Or.inr (inSecond matched member)
  | comp first second inFirst inSecond =>
      rw [letters, List.mem_append]
      obtain ⟨front, isFront, back, isBack, rfl⟩ :=
        Language.mem_mul.mp matched
      rcases List.mem_append.mp member with member | member
      · exact Or.inl (inFirst isFront member)
      · exact Or.inr (inSecond isBack member)
  | star repeated inRepeated =>
      obtain ⟨parts, rfl, each⟩ := Language.mem_kstar.mp matched
      obtain ⟨part, isPart, member⟩ := List.mem_flatten.mp member
      exact inRepeated (each part isPart) member

end Letters

section Membership

variable {Letter : Type}

/-- A class matches its letters. -/
theorem mem_oneOf
    {alphabet : List Letter}
    {text : List Letter} :
    text ∈ (oneOf alphabet).matches' ↔
      ∃ letter ∈ alphabet, text = [letter] := by
  induction alphabet with
  | nil =>
      simp only [List.not_mem_nil, false_and, exists_false, iff_false]
      exact Set.notMem_empty text
  | cons first rest inductionHypothesis =>
      rw [oneOf, matches'_add, Language.mem_add, inductionHypothesis,
        List.exists_mem_cons_iff]
      exact or_congr_left Set.mem_singleton_iff

/-- A repeated class matches the texts over its letters. -/
theorem mem_star_oneOf
    {alphabet : List Letter}
    {text : List Letter} :
    text ∈ (RegularExpression.star (oneOf alphabet)).matches' ↔
      ∀ letter ∈ text, letter ∈ alphabet := by
  rw [matches'_star, Language.mem_kstar]
  constructor
  · rintro ⟨parts, rfl, each⟩ letter member
    obtain ⟨part, isPart, inPart⟩ := List.mem_flatten.mp member
    obtain ⟨only, isLetter, rfl⟩ := mem_oneOf.mp (each part isPart)
    obtain rfl := List.mem_singleton.mp inPart
    exact isLetter
  · intro each
    refine ⟨text.map fun letter => [letter], ?_, ?_⟩
    · induction text with
      | nil =>
          rfl
      | cons first rest inductionHypothesis =>
          have restEach : ∀ letter ∈ rest, letter ∈ alphabet :=
            fun letter member =>
              each letter (List.mem_cons_of_mem first member)
          rw [List.map_cons, List.flatten_cons,
            ← inductionHypothesis restEach]
          rfl
    · intro part isPart
      obtain ⟨letter, member, rfl⟩ := List.mem_map.mp isPart
      exact mem_oneOf.mpr ⟨letter, each letter member, rfl⟩

/-- A letter of one class, or a text over another class between two of them. -/
theorem mem_delimited
    {ends inner : List Letter}
    (subset : ends ⊆ inner)
    {text : List Letter} :
    text ∈
        (oneOf ends +
          oneOf ends * .star (oneOf inner) * oneOf ends).matches' ↔
      text ≠ [] ∧
        (∀ letter ∈ text, letter ∈ inner) ∧
        (∀ first ∈ text.head?, first ∈ ends) ∧
        ∀ last ∈ text.getLast?, last ∈ ends := by
  rw [matches'_add, Language.mem_add, mem_oneOf, matches'_mul,
    matches'_mul]
  constructor
  · rintro (⟨only, isEnd, rfl⟩ | long)
    · simpa using And.intro (subset isEnd) isEnd
    · obtain ⟨front, isFront, back, isBack, rfl⟩ := Language.mem_mul.mp long
      obtain ⟨head, isHead, middle, isMiddle, rfl⟩ :=
        Language.mem_mul.mp isFront
      obtain ⟨first, firstEnd, rfl⟩ := mem_oneOf.mp isHead
      obtain ⟨last, lastEnd, rfl⟩ := mem_oneOf.mp isBack
      have each := mem_star_oneOf.mp isMiddle
      refine ⟨by simp, ?_, by simpa using firstEnd, ?_⟩
      · intro letter member
        rcases List.mem_append.mp member with inFront | isLast
        · rcases List.mem_append.mp inFront with isFirst | inMiddle
          · exact subset (List.mem_singleton.mp isFirst ▸ firstEnd)
          · exact each letter inMiddle
        · exact subset (List.mem_singleton.mp isLast ▸ lastEnd)
      · rw [List.getLast?_concat]
        simpa using lastEnd
  · rintro ⟨nonempty, each, begins, stops⟩
    cases text with
    | nil =>
        exact (nonempty rfl).elim
    | cons first rest =>
        have firstEnd : first ∈ ends := begins first rfl
        rcases List.eq_nil_or_concat rest with rfl | ⟨middle, last, rfl⟩
        · exact Or.inl ⟨first, firstEnd, rfl⟩
        · right
          rw [List.concat_eq_append] at *
          have lastEnd : last ∈ ends := by
            apply stops
            rw [← List.cons_append]
            exact List.getLast?_concat
          have inner : ∀ letter ∈ middle, letter ∈ inner := by
            intro letter member
            apply each
            exact List.mem_cons_of_mem first (List.mem_append_left _ member)
          exact Language.append_mem_mul
            (Language.append_mem_mul (mem_oneOf.mpr ⟨first, firstEnd, rfl⟩)
              (mem_star_oneOf.mpr inner))
            (mem_oneOf.mpr ⟨last, lastEnd, rfl⟩)

/-- Texts with a terminator behind each of them. -/
theorem mem_star_terminated
    {pattern : RegularExpression Letter}
    {terminator : Letter}
    {text : List Letter} :
    text ∈
        (RegularExpression.star (pattern * char terminator)).matches' ↔
      ∃ parts : List (List Letter),
        (∀ part ∈ parts, part ∈ pattern.matches') ∧
          text = parts.flatMap fun part => part ++ [terminator] := by
  rw [matches'_star, Language.mem_kstar]
  constructor
  · rintro ⟨blocks, rfl, each⟩
    induction blocks with
    | nil =>
        exact ⟨[], by simp, rfl⟩
    | cons block rest inductionHypothesis =>
        obtain ⟨part, isPart, ending, isEnding, shape⟩ :=
          Language.mem_mul.mp (each block List.mem_cons_self)
        obtain rfl := Set.mem_singleton_iff.mp isEnding
        obtain ⟨parts, eachPart, flat⟩ :=
          inductionHypothesis fun other member =>
            each other (List.mem_cons_of_mem block member)
        refine ⟨part :: parts, ?_, ?_⟩
        · exact List.forall_mem_cons.mpr ⟨isPart, eachPart⟩
        · rw [List.flatten_cons, flat, ← shape, List.flatMap_cons]
  · rintro ⟨parts, each, rfl⟩
    refine ⟨parts.map fun part => part ++ [terminator], ?_, ?_⟩
    · exact List.flatMap_def ..
    · intro block isBlock
      obtain ⟨part, member, rfl⟩ := List.mem_map.mp isBlock
      exact Language.append_mem_mul (each part member) rfl

/-- A separator terminates all parts but the last. -/
theorem flatMap_terminated
    (separator : Letter)
    (fronts : List (List Letter))
    (last : List Letter) :
    (fronts.flatMap fun part => part ++ [separator]) ++ last =
      [separator].intercalate (fronts ++ [last]) := by
  induction fronts with
  | nil =>
      exact List.intercalate_singleton.symm
  | cons first rest inductionHypothesis =>
      rw [List.cons_append, List.intercalate_cons_of_ne_nil (by simp),
        ← inductionHypothesis, List.flatMap_cons]
      simp

/-- Texts with a separator between them. -/
theorem mem_separated
    {pattern : RegularExpression Letter}
    {separator : Letter}
    {text : List Letter} :
    text ∈
        (RegularExpression.star (pattern * char separator) *
          pattern).matches' ↔
      ∃ parts,
        parts ≠ [] ∧
          (∀ part ∈ parts, part ∈ pattern.matches') ∧
          text = [separator].intercalate parts := by
  rw [matches'_mul, Language.mem_mul]
  constructor
  · rintro ⟨front, isFront, last, isLast, rfl⟩
    obtain ⟨fronts, each, rfl⟩ := mem_star_terminated.mp isFront
    refine ⟨fronts ++ [last], by simp, ?_,
      flatMap_terminated separator fronts last⟩
    intro part member
    rcases List.mem_append.mp member with inFronts | isLastPart
    · exact each part inFronts
    · exact List.mem_singleton.mp isLastPart ▸ isLast
  · rintro ⟨parts, nonempty, each, rfl⟩
    rcases List.eq_nil_or_concat parts with rfl | ⟨fronts, last, rfl⟩
    · exact (nonempty rfl).elim
    · rw [List.concat_eq_append] at *
      refine ⟨fronts.flatMap fun part => part ++ [separator], ?_, last, ?_,
        flatMap_terminated separator fronts last⟩
      · exact mem_star_terminated.mpr
          ⟨fronts, fun part member =>
            each part (List.mem_append_left _ member), rfl⟩
      · exact each last (List.mem_append_right _ List.mem_cons_self)

end Membership

end JavaPattern

end ChatRelay

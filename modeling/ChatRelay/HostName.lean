import Mathlib.Computability.RegularExpressions
import ChatRelay.JavaText

namespace ChatRelay

/-!
# Host names

The two patterns of `LoginFragment` and the check of an address against them.
`matches` asks for the whole address, so the anchors add nothing, and the
classes are the same in either case.

The addresses that pass are labels with dots between them.  Four numbers with
dots between them are such labels, whatever their size.
-/

open JavaPattern
open RegularExpression

namespace HostName

/-- A character that stands for itself. -/
def literal (character : Char) : RegularExpression UInt16 :=
  .char (UInt16.ofNat character.toNat)

/-- `\w` -/
def wordClass : RegularExpression UInt16 :=
  oneOf wordUnits

/-- `\d` -/
def digitClass : RegularExpression UInt16 :=
  oneOf decimalDigits

/-- `(?:\w|\w[\w\-]*\w)` -/
def hostLabel : RegularExpression UInt16 :=
  wordClass +
    wordClass * .star (oneOf (wordUnits ++ utf16 "-")) * wordClass

/-- `P_HOSTNAME` -/
def P_HOSTNAME : RegularExpression UInt16 :=
  .star (hostLabel * literal '.') * hostLabel

/-- `(?:\d|[1-9]\d|1\d{2}|2[0-4]\d|25[0-5])` -/
def octet : RegularExpression UInt16 :=
  digitClass +
    oneOf (unitsFrom '1' '9') * digitClass +
    literal '1' * digitClass ^ 2 +
    literal '2' * oneOf (unitsFrom '0' '4') * digitClass +
    literal '2' * literal '5' * oneOf (unitsFrom '0' '5')

/-- `P_IPADDR` -/
def P_IPADDR : RegularExpression UInt16 :=
  (octet * literal '.') ^ 3 * octet

/-- `LoginFragment::isValidHostname` -/
def isValidHostname (address : JavaString) : Bool :=
  P_HOSTNAME.rmatch address || P_IPADDR.rmatch address

/-- The units that a valid host name can have. -/
def hostUnits : JavaString :=
  wordUnits ++ utf16 "-."

/-! ## The language of host names -/

def dot : UInt16 :=
  0x2E

def hyphen : UInt16 :=
  0x2D

def underscore : UInt16 :=
  0x5F

/-- An ASCII letter. -/
def IsLetter (unit : UInt16) : Prop :=
  (0x41 ≤ unit ∧ unit ≤ 0x5A) ∨ (0x61 ≤ unit ∧ unit ≤ 0x7A)

/-- An ASCII digit. -/
def IsDigit (unit : UInt16) : Prop :=
  0x30 ≤ unit ∧ unit ≤ 0x39

instance (unit : UInt16) : Decidable (IsLetter unit) :=
  inferInstanceAs
    (Decidable ((0x41 ≤ unit ∧ unit ≤ 0x5A) ∨ (0x61 ≤ unit ∧ unit ≤ 0x7A)))

instance (unit : UInt16) : Decidable (IsDigit unit) :=
  inferInstanceAs (Decidable (0x30 ≤ unit ∧ unit ≤ 0x39))

/-- A label of a host name. -/
structure IsLabel (label : JavaString) : Prop where
  nonempty : label ≠ []
  units :
    ∀ unit ∈ label,
      IsLetter unit ∨ IsDigit unit ∨ unit = underscore ∨ unit = hyphen
  begins : label.head? ≠ some hyphen
  ends : label.getLast? ≠ some hyphen

/-- The units are checked one after the other. -/
theorem isLabel_iff_all
    {label : JavaString} :
    IsLabel label ↔
      label ≠ [] ∧
        (label.all fun unit =>
          decide
            (IsLetter unit ∨ IsDigit unit ∨
              unit = underscore ∨ unit = hyphen)) = true ∧
        label.head? ≠ some hyphen ∧ label.getLast? ≠ some hyphen := by
  simp only [List.all_eq_true, decide_eq_true_eq]
  constructor
  · intro isLabel
    exact ⟨isLabel.nonempty, isLabel.units, isLabel.begins, isLabel.ends⟩
  · rintro ⟨nonempty, units, begins, ends⟩
    exact ⟨nonempty, units, begins, ends⟩

instance (label : JavaString) : Decidable (IsLabel label) :=
  decidable_of_iff _ isLabel_iff_all.symm

/-- Labels, at least one of them, with single dots between them. -/
def IsHostName (address : JavaString) : Prop :=
  ∃ labels,
    labels ≠ [] ∧
      (∀ label ∈ labels, IsLabel label) ∧
      address = [dot].intercalate labels

/-- The word characters are the letters, the digits and the underscore. -/
theorem mem_wordUnits
    {unit : UInt16} :
    unit ∈ wordUnits ↔
      IsLetter unit ∨ IsDigit unit ∨ unit = underscore := by
  have isUnderscore : unit ∈ utf16 "_" ↔ unit = underscore := by
    have single : utf16 "_" = [underscore] := by
      decide +kernel
    rw [single, List.mem_singleton]
  have isDigit : unit ∈ decimalDigits ↔ IsDigit unit :=
    mem_unitsFrom (by decide)
  have isLetter :
      unit ∈ unitsFrom 'a' 'z' ∨ unit ∈ unitsFrom 'A' 'Z' ↔
        IsLetter unit := by
    rw [mem_unitsFrom (by decide), mem_unitsFrom (by decide), or_comm]
    rfl
  rw [wordUnits, List.mem_append, List.mem_append, List.mem_append,
    isLetter, isUnderscore, isDigit, or_assoc,
    or_comm (a := unit = underscore)]

theorem hyphen_not_word : hyphen ∉ wordUnits := by
  decide +kernel

theorem IsLabel.dot_not_mem
    {label : JavaString}
    (isLabel : IsLabel label) :
    dot ∉ label := by
  intro member
  have noUnit :
      ¬ (IsLetter dot ∨ IsDigit dot ∨ dot = underscore ∨ dot = hyphen) := by
    decide
  exact noUnit (isLabel.units dot member)

/-- The labels of a host name are what stands between its dots. -/
theorem isHostName_iff_splitOn
    {address : JavaString} :
    IsHostName address ↔
      ((address.splitOn dot).all fun label =>
        decide (IsLabel label)) = true := by
  simp only [List.all_eq_true, decide_eq_true_eq]
  constructor
  · rintro ⟨labels, nonempty, each, rfl⟩
    rw [List.splitOn_intercalate dot
      (fun label member => (each label member).dot_not_mem) nonempty]
    exact each
  · intro each
    exact ⟨address.splitOn dot, List.splitOn_ne_nil dot address, each,
      (List.intercalate_splitOn dot).symm⟩

instance (address : JavaString) : Decidable (IsHostName address) :=
  decidable_of_iff _ isHostName_iff_splitOn.symm

example : IsHostName (utf16 "a.b") := by decide +kernel

example : ¬ IsHostName (utf16 "a-.b") := by decide +kernel

/-- Inside a label there are word characters and hyphens. -/
theorem mem_labelUnits
    {unit : UInt16} :
    unit ∈ wordUnits ++ utf16 "-" ↔
      unit ∈ wordUnits ∨ unit = hyphen := by
  have single : utf16 "-" = [hyphen] := by
    decide +kernel
  rw [single, List.mem_append, List.mem_singleton]

/-- The pattern of a label matches the labels. -/
theorem mem_hostLabel
    {label : JavaString} :
    label ∈ hostLabel.matches' ↔ IsLabel label := by
  have delimited :=
    @mem_delimited _ wordUnits (wordUnits ++ utf16 "-")
      (List.subset_append_left ..) label
  have wordOrHyphen
      {unit : UInt16} :
      unit ∈ wordUnits ++ utf16 "-" ↔
        IsLetter unit ∨ IsDigit unit ∨
          unit = underscore ∨ unit = hyphen := by
    rw [mem_labelUnits, mem_wordUnits, or_assoc, or_assoc]
  refine delimited.trans ?_
  constructor
  · rintro ⟨nonempty, each, begins, ends⟩
    refine ⟨nonempty, ?_, ?_, ?_⟩
    · intro unit member
      exact wordOrHyphen.mp (each unit member)
    · intro isHyphen
      exact hyphen_not_word (begins hyphen isHyphen)
    · intro isHyphen
      exact hyphen_not_word (ends hyphen isHyphen)
  · intro isLabel
    have each : ∀ unit ∈ label, unit ∈ wordUnits ++ utf16 "-" :=
      fun unit member => wordOrHyphen.mpr (isLabel.units unit member)
    refine ⟨isLabel.nonempty, each, ?_, ?_⟩
    · intro first isFirst
      rcases mem_labelUnits.mp
        (each first (List.mem_of_mem_head? isFirst)) with word | rfl
      · exact word
      · exact (isLabel.begins isFirst).elim
    · intro last isLast
      rcases mem_labelUnits.mp
        (each last (List.mem_of_mem_getLast? isLast)) with word | rfl
      · exact word
      · exact (isLabel.ends isLast).elim

/-- The host name pattern matches the host names. -/
theorem mem_P_HOSTNAME
    {address : JavaString} :
    address ∈ P_HOSTNAME.matches' ↔ IsHostName address := by
  refine mem_separated.trans ?_
  simp only [mem_hostLabel]
  rfl

/-- A number from 0 to 255 is a label. -/
theorem hostLabel_of_octet
    {text : JavaString}
    (matched : text ∈ octet.matches') :
    text ∈ hostLabel.matches' := by
  have digits : letters octet ⊆ wordUnits := by
    decide +kernel
  have nonempty : text ≠ [] := by
    rintro rfl
    have noEpsilon : octet.rmatch [] = false := by
      decide +kernel
    have isEmpty := (rmatch_iff_matches' octet []).mpr matched
    rw [noEpsilon] at isEmpty
    contradiction
  have word {unit : UInt16} (member : unit ∈ text) : unit ∈ wordUnits :=
    digits (mem_letters matched member)
  refine mem_hostLabel.mpr ⟨nonempty, ?_, ?_, ?_⟩
  · intro unit member
    rw [← or_assoc, ← or_assoc, or_assoc (a := IsLetter unit)]
    exact Or.inl (mem_wordUnits.mp (word member))
  · intro isHyphen
    exact hyphen_not_word (word (List.mem_of_mem_head? isHyphen))
  · intro isHyphen
    exact hyphen_not_word (word (List.mem_of_mem_getLast? isHyphen))

/-- Four octets are labels of a host name. -/
theorem mem_P_HOSTNAME_of_octets
    {address : JavaString}
    (matched : address ∈ P_IPADDR.matches') :
    address ∈ P_HOSTNAME.matches' := by
  have octets : octet.matches' ≤ hostLabel.matches' :=
    fun _ => hostLabel_of_octet
  have fourLabels :
      (octet.matches' * (literal '.').matches') ^ 3 * octet.matches' ≤
        KStar.kstar (hostLabel.matches' * (literal '.').matches') *
          hostLabel.matches' :=
    calc
      (octet.matches' * (literal '.').matches') ^ 3 * octet.matches' ≤
          KStar.kstar (octet.matches' * (literal '.').matches') *
            octet.matches' :=
        mul_le_mul' pow_le_kstar le_rfl
      _ ≤ KStar.kstar (hostLabel.matches' * (literal '.').matches') *
            hostLabel.matches' :=
        mul_le_mul' (kstar_mono (mul_le_mul' octets le_rfl)) octets
  rw [P_IPADDR, matches'_mul, matches'_pow, matches'_mul] at matched
  exact fourLabels matched

/-- What the address pattern matches is matched by the other pattern. -/
theorem hostname_of_ipaddr
    {address : JavaString}
    (isAddress : P_IPADDR.rmatch address = true) :
    P_HOSTNAME.rmatch address = true := by
  rw [rmatch_iff_matches'] at isAddress ⊢
  exact mem_P_HOSTNAME_of_octets isAddress

/-- The check is a check against the host name pattern alone. -/
theorem isValidHostname_eq
    (address : JavaString) :
    isValidHostname address = P_HOSTNAME.rmatch address := by
  unfold isValidHostname
  cases isAddress : P_IPADDR.rmatch address with
  | false =>
      exact Bool.or_false _
  | true =>
      rw [hostname_of_ipaddr isAddress]
      rfl

/--
The check accepts the host names, and the pattern for addresses decides
nothing: what it matches is matched by the other pattern.
-/
theorem isValidHostname_iff
    (address : JavaString) :
    (isValidHostname address = true ↔ IsHostName address) ∧
      (P_IPADDR.rmatch address = true →
        P_HOSTNAME.rmatch address = true) ∧
      isValidHostname address = P_HOSTNAME.rmatch address := by
  refine ⟨?_, hostname_of_ipaddr, isValidHostname_eq address⟩
  rw [isValidHostname_eq, rmatch_iff_matches']
  exact mem_P_HOSTNAME

/-- A valid host name is made of word characters, hyphens and dots. -/
theorem mem_hostUnits
    {address : JavaString}
    (valid : isValidHostname address = true)
    {unit : UInt16}
    (member : unit ∈ address) :
    unit ∈ hostUnits := by
  have units : letters P_HOSTNAME ⊆ hostUnits := by
    decide +kernel
  rw [isValidHostname_eq, rmatch_iff_matches'] at valid
  exact units (mem_letters valid member)

/-- A valid host name is not empty. -/
theorem ne_nil_of_valid
    {address : JavaString}
    (valid : isValidHostname address = true) :
    address ≠ [] := by
  rintro rfl
  have invalid : isValidHostname [] = false := by
    decide +kernel
  rw [invalid] at valid
  contradiction

end HostName

end ChatRelay

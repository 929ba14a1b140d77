import Mathlib.Data.List.Basic

namespace ChatRelay

/-!
# Text in buffers

C strings: what a constructor that takes a pointer to characters makes of an
array, which is the characters before the first NUL.  An array without NUL has
no such string; the scan for its end then leaves the array.

Lines: what a stream of characters holds up to its last newline.
-/

namespace CString

/-- The string that starts with an array, if its end lies in the array. -/
def ofArray (cells : List UInt8) : Option (List UInt8) :=
  if 0 ∈ cells then
    some (cells.takeWhile (· ≠ 0))
  else
    none

/--
The number of cells that the scan for the end looks at; without NUL it looks
at one cell more than the array has.
-/
def looked (cells : List UInt8) : Nat :=
  (cells.takeWhile (· ≠ 0)).length + 1

/-- Characters other than NUL are all scanned. -/
theorem takeWhile_append
    {text : List UInt8}
    (noNul : 0 ∉ text)
    (rest : List UInt8) :
    (text ++ rest).takeWhile (· ≠ 0) =
      text ++ rest.takeWhile (· ≠ 0) := by
  apply List.takeWhile_append_of_pos
  intro byte member
  simp only [ne_eq, decide_eq_true_eq]
  rintro rfl
  exact noNul member

/-- An array holds the text before its first NUL. -/
@[simp] theorem ofArray_terminated
    {text : List UInt8}
    (noNul : 0 ∉ text)
    (rest : List UInt8) :
    ofArray (text ++ 0 :: rest) = some text := by
  have holdsNul : (0 : UInt8) ∈ text ++ 0 :: rest := by
    simp
  rw [ofArray, if_pos holdsNul, takeWhile_append noNul]
  simp

/-- The scan of a text ends at its NUL. -/
@[simp] theorem looked_terminated
    {text : List UInt8}
    (noNul : 0 ∉ text)
    (rest : List UInt8) :
    looked (text ++ 0 :: rest) = text.length + 1 := by
  rw [looked, takeWhile_append noNul]
  simp

/-- Only an array without NUL has no string. -/
theorem ofArray_eq_none
    {cells : List UInt8} :
    ofArray cells = none ↔ 0 ∉ cells := by
  simp [ofArray]

/-- An array with a NUL is a text, the NUL and a rest. -/
theorem terminated_of_mem
    {cells : List UInt8}
    (holdsNul : 0 ∈ cells) :
    ∃ text rest, cells = text ++ 0 :: rest ∧ 0 ∉ text :=
  List.eq_append_cons_of_mem holdsNul

/-- The scan of an array with a NUL stays in it. -/
theorem looked_le_length
    {cells : List UInt8}
    (holdsNul : 0 ∈ cells) :
    looked cells ≤ cells.length := by
  obtain ⟨text, rest, rfl, noNul⟩ := terminated_of_mem holdsNul
  rw [looked_terminated noNul]
  simp

/-- The string of an array is what precedes a NUL of it. -/
theorem ofArray_eq_some
    {cells text : List UInt8} :
    ofArray cells = some text ↔
      0 ∉ text ∧ ∃ rest, cells = text ++ 0 :: rest := by
  constructor
  · intro found
    by_cases holdsNul : (0 : UInt8) ∈ cells
    · obtain ⟨before, rest, rfl, noNul⟩ := terminated_of_mem holdsNul
      rw [ofArray_terminated noNul, Option.some.injEq] at found
      subst found
      exact ⟨noNul, rest, rfl⟩
    · rw [ofArray_eq_none.mpr holdsNul] at found
      cases found
  · rintro ⟨noNul, rest, rfl⟩
    exact ofArray_terminated noNul rest

end CString

namespace TextLines

variable {Symbol : Type} [DecidableEq Symbol]
variable {newline : Symbol}

/-- The lines of a text that a newline ends, without the newlines. -/
def complete (newline : Symbol) (text : List Symbol) : List (List Symbol) :=
  (text.splitOn newline).dropLast

@[simp] theorem complete_nil :
    complete newline [] = [] :=
  rfl

/-- A text without newline has no complete line. -/
theorem complete_eq_nil
    {text : List Symbol}
    (noNewline : newline ∉ text) :
    complete newline text = [] := by
  rw [complete, List.splitOn_eq_splitOnP, List.splitOnP_eq_singleton]
  · rfl
  · intro symbol member
    simp only [beq_eq_false_iff_ne, ne_eq]
    rintro rfl
    exact noNewline member

/-- The first newline of a text ends its first line. -/
theorem complete_line
    {line : List Symbol}
    (noNewline : newline ∉ line)
    (rest : List Symbol) :
    complete newline (line ++ newline :: rest) =
      line :: complete newline rest := by
  have different : ∀ symbol ∈ line, (symbol == newline) = false := by
    intro symbol member
    simp only [beq_eq_false_iff_ne, ne_eq]
    rintro rfl
    exact noNewline member
  rw [complete, List.splitOn_eq_splitOnP,
    List.splitOnP_append_cons_of_forall_mem different newline (by simp),
    List.dropLast_cons_of_ne_nil (List.splitOnP_ne_nil _ rest)]
  rfl

/-- The first line of a text is what precedes its first newline. -/
theorem complete_eq_cons
    {text line : List Symbol}
    {lines : List (List Symbol)}
    (shape : complete newline text = line :: lines) :
    ∃ rest,
      text = line ++ newline :: rest ∧
        newline ∉ line ∧ complete newline rest = lines := by
  by_cases holdsNewline : newline ∈ text
  · obtain ⟨before, rest, rfl, noNewline⟩ :=
      List.eq_append_cons_of_mem holdsNewline
    rw [complete_line noNewline, List.cons.injEq] at shape
    obtain ⟨rfl, sameLines⟩ := shape
    exact ⟨rest, rfl, noNewline, sameLines⟩
  · rw [complete_eq_nil holdsNewline] at shape
    cases shape

/-- No complete line holds a newline. -/
theorem not_mem_of_complete
    {lines : List (List Symbol)}
    {text : List Symbol}
    (shape : complete newline text = lines)
    {line : List Symbol}
    (member : line ∈ lines) :
    newline ∉ line := by
  induction lines generalizing text with
  | nil =>
      cases member
  | cons first rest inductionHypothesis =>
      obtain ⟨after, _, noNewline, remaining⟩ := complete_eq_cons shape
      rcases List.mem_cons.mp member with rfl | later
      · exact noNewline
      · exact inductionHypothesis remaining later

end TextLines

end ChatRelay

import Mathlib.Data.List.Basic
import ChatRelay.JsonReader
import ChatRelay.MessageInstance

namespace ChatRelay

/-!
# Text clean-up before parsing

`msg::json::from` first cuts the text behind its last line feed, then behind
its last closing brace, and hands the rest to Boost.  `msg::json::to` is the
writer alone.
-/

open JsonText

/--
A platform to evaluate definitions on: the JSON reader of this development,
its compact writer, and times printed as decimal numbers.
-/
def Platform.reference : Platform where
  read_json := JsonText.read
  write_json := fun tree _ => some (JsonText.value JsonText.escape tree)
  printTime := fun time => ascii (toString time)
  parseTime := fun _ => none

/-- The writer has a text for every response, on one line or on several. -/
def Platform.Writes (platform : Platform) : Prop :=
  ∀ (response : Response) pretty,
    ∃ text,
      platform.write_json (response.toJson platform) pretty = some text

/--
The writer's text of a response on one line: strings are escaped in one way,
and something may stand behind the last brace.
-/
def Platform.WritesCompact
    (platform : Platform)
    (escape : Bytes → Bytes)
    (ending : Bytes) : Prop :=
  ∀ response : Response,
    platform.write_json (response.toJson platform) false =
      some (value escape (response.toJson platform) ++ ending)

theorem Platform.reference_writes : Platform.reference.Writes :=
  fun _ _ => ⟨_, rfl⟩

theorem Platform.reference_writesCompact :
    Platform.reference.WritesCompact JsonText.escape [] :=
  fun _ => congrArg some (List.append_nil _).symm

/-- The compact JSON text of a request. -/
def Request.text
    (platform : Platform)
    (escape : Bytes → Bytes)
    (request : Request) :
    Bytes :=
  JsonText.value escape (request.toJson platform)

namespace MessageJson

/-- `std::string::rfind` of one byte; `none` is `npos`. -/
def rfind (byte : UInt8) : Bytes → Option Nat
  | [] =>
      none
  | head :: tail =>
      match rfind byte tail with
      | some index =>
          some (index + 1)
      | none =>
          if head = byte then
            some 0
          else
            none

/-- The copy of the input that `msg::json::from` parses. -/
def clean (input : Bytes) : Bytes :=
  let cpy :=
    match rfind newline input with
    | some idx =>
        input.take (idx + 1)
    | none =>
        input
  match rfind closeBrace cpy with
  | some lastBraceIdx =>
      if lastBraceIdx ≠ cpy.length - 1 then
        cpy.take (lastBraceIdx + 1)
      else
        cpy
  | none =>
      cpy

/-- `msg::json::from`. -/
def «from»
    (platform : Platform)
    (input : Bytes) :
    Except Fault Tree :=
  match platform.read_json (clean input) with
  | none =>
      .error .jsonParserError
  | some ptree =>
      .ok ptree

/-- `msg::json::to`. -/
def «to»
    (platform : Platform)
    (ptree : Tree)
    (pretty : Bool) :
    Except Fault Bytes :=
  match platform.write_json ptree pretty with
  | none =>
      .error .jsonParserError
  | some text =>
      .ok text

/-- The text of a response that is sent. -/
theorem to_response
    {platform : Platform}
    {escape : Bytes → Bytes}
    {ending : Bytes}
    (writes : platform.WritesCompact escape ending)
    (response : Response) :
    «to» platform (response.toJson platform) false =
      .ok (value escape (response.toJson platform) ++ ending) := by
  rw [«to», writes response]

/-- `rfind` fails exactly when the byte does not occur. -/
theorem rfind_eq_none
    {byte : UInt8}
    {text : Bytes} :
    rfind byte text = none ↔ byte ∉ text := by
  induction text with
  | nil =>
      simp [rfind]
  | cons head tail inductionHypothesis =>
      simp only [rfind, List.mem_cons, not_or]
      cases found : rfind byte tail with
      | some index =>
          have inTail : byte ∈ tail := by
            by_contra absent
            rw [inductionHypothesis.mpr absent] at found
            contradiction
          simp [inTail]
      | none =>
          have absent := inductionHypothesis.mp found
          by_cases isHead : head = byte
          · simp [isHead]
          · simp [isHead, absent, Ne.symm isHead]

/-- `rfind` finds the occurrence behind which the byte does not occur again. -/
theorem rfind_last
    {byte : UInt8}
    (front : Bytes)
    {back : Bytes}
    (absent : byte ∉ back) :
    rfind byte (front ++ byte :: back) = some front.length := by
  induction front with
  | nil =>
      simp [rfind, rfind_eq_none.mpr absent]
  | cons head tail inductionHypothesis =>
      simp [rfind, inductionHypothesis]

/-- A byte that occurs has a last occurrence. -/
theorem exists_last
    {byte : UInt8}
    {text : Bytes}
    (member : byte ∈ text) :
    ∃ front back,
      text = front ++ byte :: back ∧ byte ∉ back := by
  induction text with
  | nil =>
      simp at member
  | cons head tail inductionHypothesis =>
      by_cases inTail : byte ∈ tail
      · obtain ⟨front, back, shape, absent⟩ :=
          inductionHypothesis inTail
        exact ⟨head :: front, back, by rw [shape]; rfl, absent⟩
      · have isHead : byte = head :=
          (List.mem_cons.mp member).resolve_right inTail
        subst byte
        exact ⟨[], tail, rfl, inTail⟩

/-- Without line feeds the text is cut behind its last closing brace. -/
theorem clean_brace
    {front back : Bytes}
    (noNewline : newline ∉ front ++ closeBrace :: back)
    (lastBrace : closeBrace ∉ back) :
    clean (front ++ closeBrace :: back) = front ++ [closeBrace] := by
  unfold clean
  simp only [rfind_eq_none.mpr noNewline, rfind_last front lastBrace]
  split
  · rw [List.append_cons, List.take_left' (by simp)]
  · rename_i atEnd
    have backEmpty : back = [] := by
      simp only [List.length_append, List.length_cons,
        ne_eq, Decidable.not_not] at atEnd
      exact List.eq_nil_of_length_eq_zero (by omega)
    rw [backEmpty]

/-- What is left after the clean-up is the front of the text. -/
theorem clean_prefix
    (text : Bytes) :
    clean text <+: text := by
  have cutBrace :
      ∀ cpy : Bytes,
        cpy <+: text →
        (match rfind closeBrace cpy with
          | some lastBraceIdx =>
              if lastBraceIdx ≠ cpy.length - 1 then
                cpy.take (lastBraceIdx + 1)
              else
                cpy
          | none => cpy) <+: text := by
    intro cpy front
    split
    · split
      · exact (List.take_prefix _ _).trans front
      · exact front
    · exact front
  refine cutBrace _ ?_
  split
  · exact List.take_prefix _ _
  · exact List.prefix_rfl

end MessageJson

end ChatRelay

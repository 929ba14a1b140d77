import Mathlib.Data.List.Basic
import ChatRelay.PropertyTree

namespace ChatRelay

/-!
# JSON texts as byte strings

Texts are lists of bytes, because both ends of the wire divide them at byte
positions.  This module fixes the lexical facts that framing arguments need:
what may stand inside a string, what a compact object text looks like, and the
three laws of a reader that accepts exactly one document.

Objects and strings are enough here; trees whose nodes are objects or strings
are called `Representable`.
-/

/-- A byte string: the contents of a `std::string` or of a socket read. -/
abbrev Bytes :=
  List UInt8

/-- The bytes of a string literal. -/
def ascii (text : String) : Bytes :=
  text.toUTF8.data.toList

namespace JsonText

/-- Property trees over byte strings. -/
abbrev Tree :=
  PropertyTree Bytes Bytes

/-- `"` -/
def quote : UInt8 := 0x22
/-- `\` -/
def backslash : UInt8 := 0x5C
/-- `{` -/
def openBrace : UInt8 := 0x7B
/-- `}` -/
def closeBrace : UInt8 := 0x7D
/-- `:` -/
def colon : UInt8 := 0x3A
/-- `,` -/
def comma : UInt8 := 0x2C
/-- Line feed. -/
def newline : UInt8 := 0x0A

/-- JSON white space. -/
def isSpace (byte : UInt8) : Bool :=
  byte == 0x20 || byte == 0x09 || byte == 0x0A || byte == 0x0D

/-- A text of white space only. -/
def Spaces (text : Bytes) : Prop :=
  ∀ byte ∈ text, isSpace byte = true

/--
What may stand between the two quotes of a string: printable bytes other than
quote and backslash, and backslashes each followed by one printable byte.
-/
inductive StringBody : Bytes → Prop where
  | nil :
      StringBody []
  | plain
      {byte : UInt8}
      {rest : Bytes} :
      byte ≠ quote →
      byte ≠ backslash →
      0x20 ≤ byte →
      StringBody rest →
      StringBody (byte :: rest)
  | escaped
      {byte : UInt8}
      {rest : Bytes} :
      0x20 ≤ byte →
      StringBody rest →
      StringBody (backslash :: byte :: rest)

namespace StringBody

/-- A string body holds no line feed. -/
theorem newline_not_mem
    {body : Bytes}
    (stringBody : StringBody body) :
    newline ∉ body := by
  have low : ∀ {byte : UInt8}, 0x20 ≤ byte → newline ≠ byte := by
    intro byte printable same
    subst byte
    exact absurd printable (by decide)
  induction stringBody with
  | nil =>
      simp
  | plain _ _ printable _ inductionHypothesis =>
      simp only [List.mem_cons, not_or]
      exact ⟨low printable, inductionHypothesis⟩
  | escaped printable _ inductionHypothesis =>
      simp only [List.mem_cons, not_or]
      exact ⟨by decide, low printable, inductionHypothesis⟩

/-- Bodies can be joined. -/
theorem append
    {first second : Bytes}
    (firstBody : StringBody first)
    (secondBody : StringBody second) :
    StringBody (first ++ second) := by
  induction firstBody with
  | nil =>
      exact secondBody
  | plain notQuote notBackslash printable _ inductionHypothesis =>
      exact .plain notQuote notBackslash printable inductionHypothesis
  | escaped printable _ inductionHypothesis =>
      exact .escaped printable inductionHypothesis

/--
A suffix of a string body is again a body, except that it may begin with the
byte whose backslash was cut off.
-/
theorem suffix
    {first second : Bytes}
    (body : StringBody (first ++ second)) :
    StringBody second ∨
      ∃ byte rest, second = byte :: rest ∧ StringBody rest := by
  generalize shape : first ++ second = whole at body
  induction body generalizing first with
  | nil =>
      obtain ⟨_, rfl⟩ := List.append_eq_nil_iff.mp shape
      exact Or.inl .nil
  | plain notQuote notBackslash printable restBody
      inductionHypothesis =>
      cases first with
      | nil =>
          simp only [List.nil_append] at shape
          subst second
          exact Or.inl
            (.plain notQuote notBackslash printable restBody)
      | cons head tail =>
          simp only [List.cons_append, List.cons.injEq] at shape
          exact inductionHypothesis shape.2
  | @escaped byte rest printable restBody inductionHypothesis =>
      cases first with
      | nil =>
          simp only [List.nil_append] at shape
          subst second
          exact Or.inl (.escaped printable restBody)
      | cons head tail =>
          simp only [List.cons_append, List.cons.injEq] at shape
          cases tail with
          | nil =>
              simp only [List.nil_append] at shape
              exact Or.inr ⟨byte, rest, shape.2, restBody⟩
          | cons next more =>
              simp only [List.cons_append, List.cons.injEq] at shape
              exact inductionHypothesis shape.2.2

end StringBody

/--
A text that opens an object and then, up to white space, a member: a key in
quotes followed by a colon.
-/
def StartsMember (text : Bytes) : Prop :=
  ∃ before inside key after rest,
    Spaces before ∧
      Spaces inside ∧
      StringBody key ∧
      Spaces after ∧
      text =
        before ++ openBrace ::
          (inside ++ quote ::
            (key ++ quote :: (after ++ colon :: rest)))

/-- Trees that have a JSON text: data only at the leaves, no childless object. -/
inductive Representable : Tree → Prop where
  | leaf
      (data : Bytes) :
      Representable (.leaf data)
  | object
      {members : List (Bytes × Tree)} :
      members ≠ [] →
      (∀ member ∈ members, Representable member.2) →
      Representable (.node [] members)

/-- Representable trees whose keys and data are the bytes of Unicode strings. -/
inductive Legible : Tree → Prop where
  | leaf
      (data : String) :
      Legible (.leaf (ascii data))
  | object
      {members : List (Bytes × Tree)} :
      members ≠ [] →
      (∀ member ∈ members, ∃ key, member.1 = ascii key) →
      (∀ member ∈ members, Legible member.2) →
      Legible (.node [] members)

/-- A legible tree is representable. -/
theorem Legible.representable
    {tree : Tree}
    (legible : Legible tree) :
    Representable tree := by
  induction legible with
  | leaf data =>
      exact .leaf (ascii data)
  | object nonempty _ _ inductionHypothesis =>
      exact .object nonempty inductionHypothesis

/-- An upper or lower case letter of ASCII. -/
def isLetter (byte : UInt8) : Bool :=
  (0x41 ≤ byte && byte ≤ 0x5A) || (0x61 ≤ byte && byte ≤ 0x7A)

/-- A letter is not a control character. -/
theorem isLetter_printable
    {byte : UInt8}
    (letter : isLetter byte = true) :
    0x20 ≤ byte := by
  simp only [isLetter, Bool.or_eq_true, Bool.and_eq_true,
    decide_eq_true_eq] at letter
  rcases letter with ⟨upper, _⟩ | ⟨lower, _⟩
  · exact UInt8.le_trans (by decide) upper
  · exact UInt8.le_trans (by decide) lower

section Compact

variable (escape : Bytes → Bytes)

/-- A string in quotes. -/
def quoted (data : Bytes) : Bytes :=
  quote :: (escape data ++ [quote])

mutual

/-- The text of a value: an object when it has members, else a string. -/
def value : Tree → Bytes
  | .node data [] =>
      quoted escape data
  | .node _ (first :: rest) =>
      openBrace :: (member first ++ tailMembers rest ++ [closeBrace])

/-- The text of one member. -/
def member : Bytes × Tree → Bytes
  | (key, tree) =>
      quoted escape key ++ colon :: value tree

/-- The text of all members after the first, each with its leading comma. -/
def tailMembers : List (Bytes × Tree) → Bytes
  | [] =>
      []
  | first :: rest =>
      comma :: (member first ++ tailMembers rest)

end

end Compact

/--
The laws of a reader of documents written with a given escape function.
Escaped data is a string body, and letters are not escaped.  The reader returns
the tree of a compact text, it accepts nothing but white space after a complete
object, and a tree with a named child was read from an object text.
-/
structure DocumentReader
    (read : Bytes → Option Tree)
    (escape : Bytes → Bytes) : Prop where
  escape_body :
    ∀ data, StringBody (escape data)
  escape_letters :
    ∀ {text : Bytes},
      (∀ byte ∈ text, isLetter byte = true) →
      escape text = text
  read_value :
    ∀ {tree : Tree},
      Legible tree →
      tree.children ≠ [] →
      read (value escape tree) = some tree
  one_document :
    ∀ {first second : Bytes} {tree other : Tree},
      read first = some tree →
      tree.children ≠ [] →
      read (first ++ second) = some other →
      Spaces second
  starts_member :
    ∀ {text key : Bytes} {tree child : Tree},
      read text = some tree →
      key ≠ [] →
      tree.find key = some child →
      StartsMember text

end JsonText

end ChatRelay

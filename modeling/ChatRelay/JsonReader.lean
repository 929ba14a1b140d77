import Mathlib.Data.List.Basic
import ChatRelay.JsonText

namespace ChatRelay.JsonText

/-!
# A reference reader for object texts

The framing theorems are about any reader that satisfies `DocumentReader`.
This module gives one: a recursive-descent reader for objects and strings,
with the usual escapes, together with a matching escape function.  It shows
that the laws can be met, and it is what concrete runs are evaluated with.

Both recursive functions take fuel.  A reader that succeeds keeps succeeding
with more fuel and more text behind what it consumed, and this one extension
lemma carries the law that a text holds a single document.
-/

/-- Drop leading white space. -/
def skipSpaces : Bytes → Bytes
  | [] =>
      []
  | byte :: rest =>
      if isSpace byte then
        skipSpaces rest
      else
        byte :: rest

/-- Skip white space and consume one given byte. -/
def expect
    (byte : UInt8)
    (text : Bytes) :
    Option Bytes :=
  match skipSpaces text with
  | [] =>
      none
  | next :: rest =>
      if next = byte then
        some rest
      else
        none

/-- The byte that a one-letter escape stands for. -/
def unescape (byte : UInt8) : Option UInt8 :=
  if byte = quote then some quote
  else if byte = backslash then some backslash
  else if byte = 0x2F then some 0x2F
  else if byte = 0x62 then some 0x08
  else if byte = 0x66 then some 0x0C
  else if byte = 0x6E then some 0x0A
  else if byte = 0x72 then some 0x0D
  else if byte = 0x74 then some 0x09
  else none

/-- The value of a hexadecimal digit. -/
def hexValue (byte : UInt8) : Option UInt8 :=
  if 0x30 ≤ byte ∧ byte ≤ 0x39 then some (byte - 0x30)
  else if 0x61 ≤ byte ∧ byte ≤ 0x66 then some (byte - 0x57)
  else if 0x41 ≤ byte ∧ byte ≤ 0x46 then some (byte - 0x37)
  else none

/-- The control character written as the last two digits of `\u00XY`. -/
def controlValue
    (zero zero' high low : UInt8) :
    Option UInt8 :=
  if zero = 0x30 ∧ zero' = 0x30 then
    match hexValue high, hexValue low with
    | some first, some second =>
        if first < 2 then
          some (first * 16 + second)
        else
          none
    | _, _ =>
        none
  else
    none

/-- Split a text after an opening quote at its closing quote. -/
def splitBody : Bytes → Option (Bytes × Bytes)
  | [] =>
      none
  | byte :: rest =>
      if byte = quote then
        some ([], rest)
      else if byte = backslash then
        match rest with
        | [] =>
            none
        | escaped :: rest' =>
            if escaped < 0x20 then
              none
            else
              (splitBody rest').map fun (body, after) =>
                (backslash :: escaped :: body, after)
      else if byte < 0x20 then
        none
      else
        (splitBody rest).map fun (body, after) =>
          (byte :: body, after)

/-- Replace the escapes of a string body by what they stand for. -/
def decodeBody : Bytes → Option Bytes
  | [] =>
      some []
  | byte :: rest =>
      if byte = backslash then
        match rest with
        | 0x75 :: zero :: zero' :: high :: low :: rest' =>
            match controlValue zero zero' high low with
            | none =>
                none
            | some decoded =>
                (decodeBody rest').map (decoded :: ·)
        | escaped :: rest' =>
            match unescape escaped with
            | none =>
                none
            | some decoded =>
                (decodeBody rest').map (decoded :: ·)
        | [] =>
            none
      else
        (decodeBody rest).map (byte :: ·)

/-- Read the rest of a string after its opening quote. -/
def readString (text : Bytes) : Option (Bytes × Bytes) :=
  match splitBody text with
  | none =>
      none
  | some (body, rest) =>
      (decodeBody body).map fun data => (data, rest)

mutual

/-- Read one value: a string or an object. -/
def readValue : Nat → Bytes → Option (Tree × Bytes)
  | 0, _ =>
      none
  | fuel + 1, text =>
      match expect quote text with
      | some body =>
          (readString body).map fun (data, rest) =>
            (.leaf data, rest)
      | none =>
          match expect openBrace text with
          | none =>
              none
          | some inside =>
              match expect closeBrace inside with
              | some rest =>
                  some (.leaf [], rest)
              | none =>
                  (readMembers fuel inside).map
                    fun (members, rest) =>
                      (.node [] members, rest)

/-- Read members up to and including the closing brace. -/
def readMembers :
    Nat → Bytes → Option (List (Bytes × Tree) × Bytes)
  | 0, _ =>
      none
  | fuel + 1, text =>
      match expect quote text with
      | none =>
          none
      | some body =>
          match readString body with
          | none =>
              none
          | some (key, afterKey) =>
              match expect colon afterKey with
              | none =>
                  none
              | some valueText =>
                  match readValue fuel valueText with
                  | none =>
                      none
                  | some (tree, afterValue) =>
                      match expect comma afterValue with
                      | some more =>
                          (readMembers fuel more).map
                            fun (members, rest) =>
                              ((key, tree) :: members, rest)
                      | none =>
                          (expect closeBrace afterValue).map
                            fun rest => ([(key, tree)], rest)

end

/-- Read a text that holds one value and nothing else but white space. -/
def read (text : Bytes) : Option Tree :=
  match readValue (text.length + 1) text with
  | none =>
      none
  | some (tree, rest) =>
      if rest.all isSpace then
        some tree
      else
        none

/-- A hexadecimal digit. -/
def hexDigit (digit : UInt8) : UInt8 :=
  if digit < 10 then
    digit + 0x30
  else
    digit + 0x57

/-- Escape quotes, backslashes and control characters. -/
def escapeByte (byte : UInt8) : Bytes :=
  if byte = quote then
    [backslash, quote]
  else if byte = backslash then
    [backslash, backslash]
  else if byte < 0x20 then
    [backslash, 0x75, 0x30, 0x30,
      hexDigit (byte / 16), hexDigit (byte % 16)]
  else
    [byte]

/-- Escape a whole string. -/
def escape (data : Bytes) : Bytes :=
  data.flatMap escapeByte

/-! ### Consuming tokens -/

/-- White space in front makes no difference. -/
theorem skipSpaces_spaces
    {spaces : Bytes}
    (onlySpaces : Spaces spaces)
    (text : Bytes) :
    skipSpaces (spaces ++ text) = skipSpaces text := by
  induction spaces with
  | nil =>
      rfl
  | cons head tail inductionHypothesis =>
      obtain ⟨space, spacesTail⟩ := List.forall_mem_cons.mp onlySpaces
      simp only [List.cons_append, skipSpaces, space, ↓reduceIte]
      exact inductionHypothesis spacesTail

/-- What is skipped is white space. -/
theorem skipSpaces_shape
    (text : Bytes) :
    ∃ spaces,
      Spaces spaces ∧ text = spaces ++ skipSpaces text := by
  induction text with
  | nil =>
      exact ⟨[], by simp [Spaces], rfl⟩
  | cons head tail inductionHypothesis =>
      obtain ⟨spaces, allSpaces, shape⟩ := inductionHypothesis
      by_cases space : isSpace head = true
      · refine ⟨head :: spaces, ?_, ?_⟩
        · intro byte member
          rcases List.mem_cons.mp member with rfl | inSpaces
          · exact space
          · exact allSpaces byte inSpaces
        · simp only [skipSpaces, space, ↓reduceIte, List.cons_append]
          rw [← shape]
      · refine ⟨[], by simp [Spaces], ?_⟩
        simp [skipSpaces, space]

/-- A byte is consumed exactly when it is the first one behind white space. -/
theorem expect_eq_some
    {byte : UInt8}
    {text rest : Bytes} :
    expect byte text = some rest ↔
      skipSpaces text = byte :: rest := by
  unfold expect
  cases skipSpaces text with
  | nil =>
      simp
  | cons next tail =>
      by_cases sameByte : next = byte
      · simp [sameByte]
      · simp [sameByte]

/-- Consuming a byte leaves what stands behind it and white space. -/
theorem expect_shape
    {byte : UInt8}
    {text rest : Bytes}
    (consumed : expect byte text = some rest) :
    ∃ spaces,
      Spaces spaces ∧ text = spaces ++ byte :: rest := by
  obtain ⟨spaces, allSpaces, shape⟩ := skipSpaces_shape text
  rw [expect_eq_some.mp consumed] at shape
  exact ⟨spaces, allSpaces, shape⟩

/-- A text whose first token is one byte does not offer another. -/
theorem expect_other
    {byte other : UInt8}
    {text rest : Bytes}
    (consumed : expect byte text = some rest)
    (different : byte ≠ other) :
    expect other text = none := by
  unfold expect
  rw [expect_eq_some.mp consumed]
  simp [different]

/-- A byte right at the front is consumed. -/
theorem expect_cons
    {byte : UInt8}
    (rest : Bytes)
    (notSpace : isSpace byte = false) :
    expect byte (byte :: rest) = some rest := by
  simp [expect, skipSpaces, notSpace]

/-- A byte behind white space is consumed. -/
theorem expect_spaces
    {byte : UInt8}
    {spaces : Bytes}
    (onlySpaces : Spaces spaces)
    (rest : Bytes)
    (notSpace : isSpace byte = false) :
    expect byte (spaces ++ byte :: rest) = some rest := by
  unfold expect
  rw [skipSpaces_spaces onlySpaces]
  exact expect_cons rest notSpace

/-! ### Strings -/

theorem splitBody_quote
    (rest : Bytes) :
    splitBody (quote :: rest) = some ([], rest) := by
  rw [splitBody.eq_def]
  simp

theorem splitBody_backslash
    (escaped : UInt8)
    (rest : Bytes) :
    splitBody (backslash :: escaped :: rest) =
      if escaped < 0x20 then
        none
      else
        (splitBody rest).map fun (body, after) =>
          (backslash :: escaped :: body, after) := by
  have notQuote : backslash ≠ quote := by decide
  rw [splitBody.eq_def]
  simp [notQuote]

theorem splitBody_plain
    {byte : UInt8}
    (notQuote : byte ≠ quote)
    (notBackslash : byte ≠ backslash)
    (rest : Bytes) :
    splitBody (byte :: rest) =
      if byte < 0x20 then
        none
      else
        (splitBody rest).map fun (body, after) =>
          (byte :: body, after) := by
  rw [splitBody.eq_def]
  simp [notQuote, notBackslash]

/-- Splitting finds a string body and its closing quote. -/
theorem splitBody_sound
    {text body rest : Bytes}
    (split : splitBody text = some (body, rest)) :
    StringBody body ∧ text = body ++ quote :: rest := by
  induction text using splitBody.induct generalizing body with
  | case1 =>
      simp [splitBody] at split
  | case2 tail =>
      rw [splitBody_quote] at split
      obtain ⟨rfl, rfl⟩ := Prod.mk.inj (Option.some.inj split)
      exact ⟨.nil, rfl⟩
  | case3 notQuote =>
      simp [splitBody, notQuote] at split
  | case4 escaped tail low notQuote =>
      simp [splitBody_backslash, low] at split
  | case5 escaped tail printable notQuote inductionHypothesis =>
      simp only [splitBody_backslash, ↓reduceIte, printable,
        Option.map_eq_some_iff, Prod.mk.injEq, Prod.exists] at split
      obtain ⟨inner, after, innerSplit, rfl, rfl⟩ := split
      obtain ⟨innerBody, shape⟩ := inductionHypothesis innerSplit
      exact ⟨.escaped (UInt8.not_lt.mp printable) innerBody,
        by rw [shape]; rfl⟩
  | case6 byte tail notQuote notBackslash low =>
      simp [splitBody_plain notQuote notBackslash, low] at split
  | case7 byte tail notQuote notBackslash printable
      inductionHypothesis =>
      simp only [splitBody_plain notQuote notBackslash, ↓reduceIte,
        printable, Option.map_eq_some_iff, Prod.mk.injEq,
        Prod.exists] at split
      obtain ⟨inner, after, innerSplit, rfl, rfl⟩ := split
      obtain ⟨innerBody, shape⟩ := inductionHypothesis innerSplit
      exact
        ⟨.plain notQuote notBackslash
          (UInt8.not_lt.mp printable) innerBody,
          by rw [shape]; rfl⟩

/-- Splitting behind a string body finds exactly that body. -/
theorem splitBody_complete
    {body : Bytes}
    (stringBody : StringBody body)
    (rest : Bytes) :
    splitBody (body ++ quote :: rest) = some (body, rest) := by
  induction stringBody with
  | nil =>
      exact splitBody_quote rest
  | plain notQuote notBackslash printable _ inductionHypothesis =>
      simp [splitBody_plain notQuote notBackslash,
        UInt8.not_lt.mpr printable, inductionHypothesis]
  | escaped printable _ inductionHypothesis =>
      simp [splitBody_backslash, UInt8.not_lt.mpr printable,
        inductionHypothesis]

/-- A string is read up to its closing quote, whatever stands behind it. -/
theorem readString_consumes
    {text data rest : Bytes}
    (readText : readString text = some (data, rest)) :
    ∃ body,
      StringBody body ∧
        text = body ++ quote :: rest ∧
        ∀ more,
          readString (body ++ quote :: more) = some (data, more) := by
  unfold readString at readText
  cases split : splitBody text with
  | none =>
      simp [split] at readText
  | some parts =>
      rcases parts with ⟨body, after⟩
      simp only [split, Option.map_eq_some_iff,
        Prod.mk.injEq] at readText
      obtain ⟨decoded, decodes, rfl, rfl⟩ := readText
      obtain ⟨stringBody, shape⟩ := splitBody_sound split
      refine ⟨body, stringBody, shape, ?_⟩
      intro more
      simp [readString, splitBody_complete stringBody more, decodes]

/-! ### Members and objects -/

/-- What a successful reading of members has consumed. -/
theorem readMembers_cases
    {fuel : Nat}
    {text rest : Bytes}
    {members : List (Bytes × Tree)}
    (readText :
      readMembers (fuel + 1) text = some (members, rest)) :
    ∃ body key afterKey valueText tree afterValue,
      expect quote text = some body ∧
        readString body = some (key, afterKey) ∧
        expect colon afterKey = some valueText ∧
        readValue fuel valueText = some (tree, afterValue) ∧
        ((∃ more others,
            expect comma afterValue = some more ∧
              readMembers fuel more = some (others, rest) ∧
              members = (key, tree) :: others) ∨
          (expect closeBrace afterValue = some rest ∧
            members = [(key, tree)])) := by
  rw [readMembers] at readText
  cases opened : expect quote text with
  | none =>
      simp [opened] at readText
  | some body =>
      simp only [opened] at readText
      cases readKey : readString body with
      | none =>
          simp [readKey] at readText
      | some keyParts =>
          rcases keyParts with ⟨key, afterKey⟩
          simp only [readKey] at readText
          cases separated : expect colon afterKey with
          | none =>
              simp [separated] at readText
          | some valueText =>
              simp only [separated] at readText
              cases readTree : readValue fuel valueText with
              | none =>
                  simp [readTree] at readText
              | some treeParts =>
                  rcases treeParts with ⟨tree, afterValue⟩
                  simp only [readTree] at readText
                  refine ⟨body, key, afterKey, valueText, tree,
                    afterValue, rfl, readKey, separated, readTree, ?_⟩
                  cases continued : expect comma afterValue with
                  | some more =>
                      simp only [continued, Option.map_eq_some_iff,
                        Prod.mk.injEq, Prod.exists] at readText
                      obtain ⟨others, _, readMore, rfl, rfl⟩ := readText
                      exact Or.inl ⟨more, others, rfl, readMore, rfl⟩
                  | none =>
                      simp only [continued, Option.map_eq_some_iff,
                        Prod.mk.injEq] at readText
                      obtain ⟨_, closed, rfl, rfl⟩ := readText
                      exact Or.inr ⟨closed, rfl⟩

/-- What a successful reading of a value has consumed. -/
theorem readValue_cases
    {fuel : Nat}
    {text rest : Bytes}
    {tree : Tree}
    (readText : readValue (fuel + 1) text = some (tree, rest)) :
    (∃ body data,
        expect quote text = some body ∧
          readString body = some (data, rest) ∧
          tree = .leaf data) ∨
      (∃ inside,
        expect openBrace text = some inside ∧
          expect closeBrace inside = some rest ∧
          tree = .leaf []) ∨
      (∃ inside members,
        expect openBrace text = some inside ∧
          expect closeBrace inside = none ∧
          readMembers fuel inside = some (members, rest) ∧
          tree = .node [] members) := by
  rw [readValue] at readText
  cases string : expect quote text with
  | some body =>
      simp only [string, Option.map_eq_some_iff, Prod.mk.injEq,
        Prod.exists] at readText
      obtain ⟨data, _, readBody, rfl, rfl⟩ := readText
      exact Or.inl ⟨body, data, rfl, readBody, rfl⟩
  | none =>
      simp only [string] at readText
      cases object : expect openBrace text with
      | none =>
          simp [object] at readText
      | some inside =>
          simp only [object] at readText
          cases closed : expect closeBrace inside with
          | some after =>
              simp only [closed, Option.some.injEq,
                Prod.mk.injEq] at readText
              obtain ⟨rfl, rfl⟩ := readText
              exact Or.inr (Or.inl ⟨inside, rfl, closed, rfl⟩)
          | none =>
              simp only [closed, Option.map_eq_some_iff,
                Prod.mk.injEq, Prod.exists] at readText
              obtain ⟨members, _, readInside, rfl, rfl⟩ := readText
              exact Or.inr
                (Or.inr ⟨inside, members, rfl, closed, readInside, rfl⟩)

/-- Members never begin with a closing brace. -/
theorem expect_quote_of_readMembers
    {fuel : Nat}
    {text rest : Bytes}
    {members : List (Bytes × Tree)}
    (readText : readMembers fuel text = some (members, rest)) :
    ∃ body, expect quote text = some body := by
  cases fuel with
  | zero =>
      simp [readMembers] at readText
  | succ fuel =>
      obtain ⟨body, _, _, _, _, _, opened, _⟩ :=
        readMembers_cases readText
      exact ⟨body, opened⟩

/--
A reading has consumed a text that ends in a token, and consumes it again with
any text behind it.
-/
def Consumes
    {Result : Type}
    (reading : Nat → Bytes → Option (Result × Bytes))
    (text rest : Bytes)
    (result : Result) : Prop :=
  ∃ consumed last,
    text = consumed ++ last :: rest ∧
      isSpace last = false ∧
      ∀ (more : Bytes) {fuel : Nat},
        consumed.length + 1 < fuel →
        reading fuel (consumed ++ last :: more) = some (result, more)

/-- A string value consumes its quotes and what stands between them. -/
theorem consumes_string
    {text body data rest : Bytes}
    (opened : expect quote text = some body)
    (readBody : readString body = some (data, rest)) :
    Consumes readValue text rest (.leaf data) := by
  obtain ⟨spaces, onlySpaces, rfl⟩ := expect_shape opened
  obtain ⟨inner, _, rfl, readInner⟩ := readString_consumes readBody
  refine ⟨spaces ++ quote :: inner, quote, by simp, by decide, ?_⟩
  intro more fuel enough
  obtain ⟨fuel, rfl⟩ :=
    Nat.exists_eq_add_one.mpr (Nat.zero_lt_of_lt enough)
  have openedMore := expect_spaces onlySpaces (inner ++ quote :: more)
    (show isSpace quote = false by decide)
  rw [readValue]
  simp [openedMore, readInner more]

/-- An object without members consumes its braces. -/
theorem consumes_empty
    {text inside rest : Bytes}
    (opened : expect openBrace text = some inside)
    (closed : expect closeBrace inside = some rest) :
    Consumes readValue text rest (.leaf []) := by
  obtain ⟨spaces, onlySpaces, rfl⟩ := expect_shape opened
  obtain ⟨between, onlyBetween, rfl⟩ := expect_shape closed
  refine ⟨spaces ++ openBrace :: between, closeBrace, by simp,
    by decide, ?_⟩
  intro more fuel enough
  obtain ⟨fuel, rfl⟩ :=
    Nat.exists_eq_add_one.mpr (Nat.zero_lt_of_lt enough)
  have openedMore := expect_spaces onlySpaces
    (between ++ closeBrace :: more)
    (show isSpace openBrace = false by decide)
  have notString := expect_other openedMore
    (show openBrace ≠ quote by decide)
  have closedMore := expect_spaces onlyBetween more
    (show isSpace closeBrace = false by decide)
  rw [readValue]
  simp [openedMore, notString, closedMore]

/-- An object consumes its opening brace and its members. -/
theorem consumes_object
    {text inside rest : Bytes}
    {members : List (Bytes × Tree)}
    (opened : expect openBrace text = some inside)
    (readInside : Consumes readMembers inside rest members) :
    Consumes readValue text rest (.node [] members) := by
  obtain ⟨spaces, onlySpaces, rfl⟩ := expect_shape opened
  obtain ⟨consumed, last, rfl, notSpace, again⟩ := readInside
  refine ⟨spaces ++ openBrace :: consumed, last, by simp,
    notSpace, ?_⟩
  intro more fuel enough
  obtain ⟨fuel, rfl⟩ :=
    Nat.exists_eq_add_one.mpr (Nat.zero_lt_of_lt enough)
  have enough' : consumed.length + 1 < fuel := by
    simp only [List.length_append, List.length_cons] at enough
    omega
  have readMore := again more enough'
  have openedMore := expect_spaces onlySpaces (consumed ++ last :: more)
    (show isSpace openBrace = false by decide)
  have notString := expect_other openedMore
    (show openBrace ≠ quote by decide)
  obtain ⟨body, keyMore⟩ := expect_quote_of_readMembers readMore
  have notClosed := expect_other keyMore
    (show quote ≠ closeBrace by decide)
  rw [readValue]
  simp [openedMore, notString, notClosed, readMore]

/-- Behind a member stands a comma or the closing brace. -/
theorem readMembers_opened
    {fuel : Nat}
    {text body key afterKey valueText afterValue : Bytes}
    {tree : Tree}
    (opened : expect quote text = some body)
    (readKey : readString body = some (key, afterKey))
    (separated : expect colon afterKey = some valueText)
    (readTree : readValue fuel valueText = some (tree, afterValue)) :
    readMembers (fuel + 1) text =
      match expect comma afterValue with
      | some more =>
          (readMembers fuel more).map
            fun (members, rest) => ((key, tree) :: members, rest)
      | none =>
          (expect closeBrace afterValue).map
            fun rest => ([(key, tree)], rest) := by
  rw [readMembers]
  simp only [opened, readKey, separated, readTree]

/-- A member is read up to the end of its value, whatever follows. -/
theorem readMembers_member
    {text body key afterKey valueText afterValue : Bytes}
    {tree : Tree}
    (opened : expect quote text = some body)
    (readKey : readString body = some (key, afterKey))
    (separated : expect colon afterKey = some valueText)
    (readTree : Consumes readValue valueText afterValue tree) :
    ∃ front,
      text = front ++ afterValue ∧
        ∀ (after : Bytes) {fuel : Nat},
          front.length < fuel →
          readMembers (fuel + 1) (front ++ after) =
            match expect comma after with
            | some more =>
                (readMembers fuel more).map
                  fun (members, rest) => ((key, tree) :: members, rest)
            | none =>
                (expect closeBrace after).map
                  fun rest => ([(key, tree)], rest) := by
  obtain ⟨before, onlyBefore, rfl⟩ := expect_shape opened
  obtain ⟨inner, _, rfl, readInner⟩ := readString_consumes readKey
  obtain ⟨between, onlyBetween, rfl⟩ := expect_shape separated
  obtain ⟨consumed, last, rfl, _, again⟩ := readTree
  refine ⟨before ++ quote :: (inner ++ quote ::
    (between ++ colon :: (consumed ++ [last]))), by simp, ?_⟩
  intro after fuel enough
  have enough' : consumed.length + 1 < fuel := by
    simp only [List.length_append, List.length_cons] at enough
    omega
  have openedMore := expect_spaces onlyBefore
    (inner ++ quote :: (between ++ colon :: (consumed ++ last :: after)))
    (show isSpace quote = false by decide)
  have separatedMore := expect_spaces onlyBetween
    (consumed ++ last :: after)
    (show isSpace colon = false by decide)
  have shape :
      before ++ quote :: (inner ++ quote ::
          (between ++ colon :: (consumed ++ [last]))) ++ after =
        before ++ quote :: (inner ++ quote ::
          (between ++ colon :: (consumed ++ last :: after))) := by
    simp
  rw [shape]
  exact readMembers_opened openedMore (readInner _) separatedMore
    (again after enough')

/-- The last member consumes the closing brace behind it. -/
theorem consumes_last
    {text body key afterKey valueText afterValue rest : Bytes}
    {tree : Tree}
    (opened : expect quote text = some body)
    (readKey : readString body = some (key, afterKey))
    (separated : expect colon afterKey = some valueText)
    (readTree : Consumes readValue valueText afterValue tree)
    (closed : expect closeBrace afterValue = some rest) :
    Consumes readMembers text rest [(key, tree)] := by
  obtain ⟨front, rfl, again⟩ :=
    readMembers_member opened readKey separated readTree
  obtain ⟨spaces, onlySpaces, rfl⟩ := expect_shape closed
  refine ⟨front ++ spaces, closeBrace, by simp, by decide, ?_⟩
  intro more fuel enough
  obtain ⟨fuel, rfl⟩ :=
    Nat.exists_eq_add_one.mpr (Nat.zero_lt_of_lt enough)
  have enough' : front.length < fuel := by
    rw [List.length_append] at enough
    omega
  have closedMore := expect_spaces onlySpaces more
    (show isSpace closeBrace = false by decide)
  have notContinued := expect_other closedMore
    (show closeBrace ≠ comma by decide)
  rw [List.append_assoc, again _ enough']
  simp [notContinued, closedMore]

/-- A member in front of others consumes the comma behind it. -/
theorem consumes_more
    {text body key afterKey valueText afterValue othersText rest : Bytes}
    {tree : Tree}
    {others : List (Bytes × Tree)}
    (opened : expect quote text = some body)
    (readKey : readString body = some (key, afterKey))
    (separated : expect colon afterKey = some valueText)
    (readTree : Consumes readValue valueText afterValue tree)
    (continued : expect comma afterValue = some othersText)
    (readOthers : Consumes readMembers othersText rest others) :
    Consumes readMembers text rest ((key, tree) :: others) := by
  obtain ⟨front, rfl, again⟩ :=
    readMembers_member opened readKey separated readTree
  obtain ⟨spaces, onlySpaces, rfl⟩ := expect_shape continued
  obtain ⟨consumed, last, rfl, notSpace, againOthers⟩ := readOthers
  refine ⟨front ++ (spaces ++ comma :: consumed), last, by simp,
    notSpace, ?_⟩
  intro more fuel enough
  obtain ⟨fuel, rfl⟩ :=
    Nat.exists_eq_add_one.mpr (Nat.zero_lt_of_lt enough)
  simp only [List.length_append, List.length_cons] at enough
  have enoughFront : front.length < fuel := by omega
  have enoughOthers : consumed.length + 1 < fuel := by omega
  have continuedMore := expect_spaces onlySpaces (consumed ++ last :: more)
    (show isSpace comma = false by decide)
  have shape :
      front ++ (spaces ++ comma :: consumed) ++ last :: more =
        front ++ (spaces ++ comma :: (consumed ++ last :: more)) := by
    simp
  rw [shape, again _ enoughFront]
  simp [continuedMore, againOthers more enoughOthers]

/--
Every successful reading consumes what it has read.  The two statements are
proved together, by induction on the fuel.
-/
theorem read_consumes
    (fuel : Nat) :
    (∀ {text rest : Bytes} {tree : Tree},
        readValue fuel text = some (tree, rest) →
        Consumes readValue text rest tree) ∧
      (∀ {text rest : Bytes} {members : List (Bytes × Tree)},
        readMembers fuel text = some (members, rest) →
        Consumes readMembers text rest members) := by
  induction fuel with
  | zero =>
      constructor
      · intro text rest tree readText
        simp [readValue] at readText
      · intro text rest members readText
        simp [readMembers] at readText
  | succ fuel inductionHypothesis =>
      obtain ⟨consumesValue, consumesMembers⟩ := inductionHypothesis
      constructor
      · intro text rest tree readText
        rcases readValue_cases readText with
            ⟨body, data, string, readBody, rfl⟩ |
            ⟨inside, opened, closed, rfl⟩ |
            ⟨inside, members, opened, _, readInside, rfl⟩
        · exact consumes_string string readBody
        · exact consumes_empty opened closed
        · exact consumes_object opened (consumesMembers readInside)
      · intro text rest members readText
        obtain ⟨body, key, afterKey, valueText, tree, afterValue,
            opened, readKey, separated, readTree, ending⟩ :=
          readMembers_cases readText
        have value := consumesValue readTree
        rcases ending with
            ⟨others, tail, continued, readOthers, rfl⟩ |
            ⟨closed, rfl⟩
        · exact consumes_more opened readKey separated value continued
            (consumesMembers readOthers)
        · exact consumes_last opened readKey separated value closed

/-! ### Reading back what was written -/

theorem decodeBody_plain
    {byte : UInt8}
    (notBackslash : byte ≠ backslash)
    (rest : Bytes) :
    decodeBody (byte :: rest) =
      (decodeBody rest).map (byte :: ·) := by
  rw [decodeBody.eq_def]
  simp [notBackslash]

theorem decodeBody_escape
    {escaped decoded : UInt8}
    (notUnicode : escaped ≠ 0x75)
    (stands : unescape escaped = some decoded)
    (rest : Bytes) :
    decodeBody (backslash :: escaped :: rest) =
      (decodeBody rest).map (decoded :: ·) := by
  rw [decodeBody.eq_def]
  simp [notUnicode, stands]

theorem decodeBody_control
    {zero zero' high low decoded : UInt8}
    (stands : controlValue zero zero' high low = some decoded)
    (rest : Bytes) :
    decodeBody
        (backslash :: 0x75 :: zero :: zero' :: high :: low :: rest) =
      (decodeBody rest).map (decoded :: ·) := by
  rw [decodeBody.eq_def]
  simp [stands]

/-- The two digits of a control character are printable and read back. -/
theorem hexDigit_control
    {byte : UInt8}
    (control : byte < 0x20) :
    controlValue 0x30 0x30
        (hexDigit (byte / 16)) (hexDigit (byte % 16)) = some byte ∧
      StringBody
        [hexDigit (byte / 16), hexDigit (byte % 16)] := by
  have table :
      ∀ index : Fin 32,
        controlValue 0x30 0x30
            (hexDigit (UInt8.ofNat index.val / 16))
            (hexDigit (UInt8.ofNat index.val % 16)) =
          some (UInt8.ofNat index.val) ∧
        ((hexDigit (UInt8.ofNat index.val / 16) ≠ quote ∧
          hexDigit (UInt8.ofNat index.val / 16) ≠ backslash ∧
          0x20 ≤ hexDigit (UInt8.ofNat index.val / 16)) ∧
        (hexDigit (UInt8.ofNat index.val % 16) ≠ quote ∧
          hexDigit (UInt8.ofNat index.val % 16) ≠ backslash ∧
          0x20 ≤ hexDigit (UInt8.ofNat index.val % 16))) := by
    decide
  have entry := table ⟨byte.toNat, UInt8.lt_iff_toNat_lt.mp control⟩
  simp only [UInt8.ofNat_toNat] at entry
  obtain ⟨reads, ⟨highQuote, highBackslash, highPrintable⟩,
      lowQuote, lowBackslash, lowPrintable⟩ := entry
  exact ⟨reads,
    .plain highQuote highBackslash highPrintable
      (.plain lowQuote lowBackslash lowPrintable .nil)⟩

/-- One escaped byte is a string body. -/
theorem escapeByte_body
    (byte : UInt8) :
    StringBody (escapeByte byte) := by
  unfold escapeByte
  split
  · exact .escaped (by decide) .nil
  · rename_i notQuote
    split
    · exact .escaped (by decide) .nil
    · rename_i notBackslash
      split
      · rename_i control
        exact .escaped (by decide)
          (.plain (by decide) (by decide) (by decide)
            (.plain (by decide) (by decide) (by decide)
              (hexDigit_control control).2))
      · rename_i printable
        exact .plain notQuote notBackslash
          (UInt8.not_lt.mp printable) .nil

/-- A letter is not escaped. -/
theorem escapeByte_letter
    {byte : UInt8}
    (letter : isLetter byte = true) :
    escapeByte byte = [byte] := by
  have notQuote : byte ≠ quote := by
    rintro rfl
    exact absurd letter (by decide)
  have notBackslash : byte ≠ backslash := by
    rintro rfl
    exact absurd letter (by decide)
  have notControl : ¬ byte < 0x20 :=
    UInt8.not_lt.mpr (isLetter_printable letter)
  simp [escapeByte, notQuote, notBackslash, notControl]

/-- Decoding undoes the escape of one byte. -/
theorem decodeBody_escapeByte
    (byte : UInt8)
    (rest : Bytes) :
    decodeBody (escapeByte byte ++ rest) =
      (decodeBody rest).map (byte :: ·) := by
  unfold escapeByte
  split
  · rename_i isQuote
    subst byte
    exact decodeBody_escape (by decide) (by decide) rest
  · split
    · rename_i isBackslash
      subst byte
      exact decodeBody_escape (by decide) (by decide) rest
    · rename_i notBackslash
      split
      · rename_i control
        exact decodeBody_control (hexDigit_control control).1 rest
      · exact decodeBody_plain notBackslash rest

/-- Escaped data is a string body. -/
theorem escape_body
    (data : Bytes) :
    StringBody (escape data) := by
  induction data with
  | nil =>
      exact .nil
  | cons byte rest inductionHypothesis =>
      exact (escapeByte_body byte).append inductionHypothesis

/-- Letters are not escaped. -/
theorem escape_letters
    {text : Bytes}
    (letters : ∀ byte ∈ text, isLetter byte = true) :
    escape text = text := by
  induction text with
  | nil =>
      rfl
  | cons byte rest inductionHypothesis =>
      obtain ⟨letter, lettersRest⟩ := List.forall_mem_cons.mp letters
      have shape : escape (byte :: rest) = escapeByte byte ++ escape rest :=
        rfl
      rw [shape, escapeByte_letter letter,
        inductionHypothesis lettersRest]
      rfl

/-- Decoding undoes escaping. -/
theorem decodeBody_of_escape
    (data : Bytes) :
    decodeBody (escape data) = some data := by
  induction data with
  | nil =>
      rfl
  | cons byte rest inductionHypothesis =>
      have shape : escape (byte :: rest) = escapeByte byte ++ escape rest :=
        rfl
      rw [shape, decodeBody_escapeByte, inductionHypothesis]
      rfl

/-- A quoted string is read back. -/
theorem readString_quoted
    (data rest : Bytes) :
    readString (escape data ++ quote :: rest) = some (data, rest) := by
  unfold readString
  rw [splitBody_complete (escape_body data)]
  simp [decodeBody_of_escape]

/-- A written member is read up to the end of its value. -/
theorem readMembers_written
    {fuel : Nat}
    {tree : Tree}
    {rest : Bytes}
    (key : Bytes)
    (readTree :
      readValue fuel (value escape tree ++ rest) = some (tree, rest)) :
    readMembers (fuel + 1) (member escape (key, tree) ++ rest) =
      match expect comma rest with
      | some more =>
          (readMembers fuel more).map
            fun (members, rest) => ((key, tree) :: members, rest)
      | none =>
          (expect closeBrace rest).map
            fun rest => ([(key, tree)], rest) := by
  have opened := expect_cons
    (escape key ++ quote :: colon :: (value escape tree ++ rest))
    (show isSpace quote = false by decide)
  have separated := expect_cons (value escape tree ++ rest)
    (show isSpace colon = false by decide)
  have shape :
      member escape (key, tree) ++ rest =
        quote :: (escape key ++ quote :: colon ::
          (value escape tree ++ rest)) := by
    simp [member, quoted]
  rw [shape]
  exact readMembers_opened opened (readString_quoted _ _) separated
    readTree

/-- Members are read back when each of their values is. -/
theorem readMembers_text
    {first : Bytes × Tree}
    {others : List (Bytes × Tree)}
    (each :
      ∀ entry ∈ first :: others,
        ∀ (rest : Bytes) {fuel : Nat},
          (value escape entry.2).length < fuel →
          readValue fuel (value escape entry.2 ++ rest) =
            some (entry.2, rest))
    (rest : Bytes)
    {fuel : Nat}
    (enough :
      (member escape first ++ tailMembers escape others).length < fuel) :
    readMembers fuel
        (member escape first ++ tailMembers escape others ++
          closeBrace :: rest) =
      some (first :: others, rest) := by
  induction others generalizing first fuel with
  | nil =>
      obtain ⟨fuel, rfl⟩ :=
        Nat.exists_eq_add_one.mpr (Nat.zero_lt_of_lt enough)
      rcases first with ⟨key, tree⟩
      have room : (value escape tree).length < fuel := by
        simp [member, tailMembers, quoted] at enough
        omega
      have readTree :=
        each (key, tree) (by simp) (closeBrace :: rest) room
      have closed := expect_cons rest
        (show isSpace closeBrace = false by decide)
      have notContinued := expect_other closed
        (show closeBrace ≠ comma by decide)
      rw [tailMembers, List.append_nil, readMembers_written key readTree]
      simp [notContinued, closed]
  | cons next others inductionHypothesis =>
      obtain ⟨fuel, rfl⟩ :=
        Nat.exists_eq_add_one.mpr (Nat.zero_lt_of_lt enough)
      rcases first with ⟨key, tree⟩
      simp only [member, tailMembers, quoted, List.length_append,
        List.length_cons, List.length_nil] at enough
      have readOthers :
          readMembers fuel
              (member escape next ++ tailMembers escape others ++
                closeBrace :: rest) =
            some (next :: others, rest) := by
        apply inductionHypothesis
        · intro entry inOthers
          exact each entry (List.mem_cons_of_mem _ inOthers)
        · rw [List.length_append]
          omega
      have readTree :=
        each (key, tree) (by simp)
          (comma :: (member escape next ++ tailMembers escape others ++
            closeBrace :: rest))
          (show (value escape tree).length < fuel by omega)
      have continued := expect_cons
        (member escape next ++ tailMembers escape others ++
          closeBrace :: rest)
        (show isSpace comma = false by decide)
      rw [tailMembers, List.append_assoc, List.cons_append,
        readMembers_written key readTree]
      simp only [continued, readOthers, Option.map_some]

/-- A value is read back, with any text behind it. -/
theorem readValue_value
    {tree : Tree}
    (representable : Representable tree) :
    ∀ (rest : Bytes) {fuel : Nat},
      (value escape tree).length < fuel →
      readValue fuel (value escape tree ++ rest) =
        some (tree, rest) := by
  induction representable with
  | leaf data =>
      intro rest fuel enough
      obtain ⟨fuel, rfl⟩ :=
        Nat.exists_eq_add_one.mpr (Nat.zero_lt_of_lt enough)
      have opened := expect_cons (escape data ++ quote :: rest)
        (show isSpace quote = false by decide)
      rw [readValue]
      simp [PropertyTree.leaf, value, quoted, opened,
        readString_quoted]
  | @object members nonempty _ inductionHypothesis =>
      intro rest fuel enough
      obtain ⟨fuel, rfl⟩ :=
        Nat.exists_eq_add_one.mpr (Nat.zero_lt_of_lt enough)
      obtain ⟨first, others, rfl⟩ := List.exists_cons_of_ne_nil nonempty
      have opened := expect_cons
        (member escape first ++ tailMembers escape others ++
          closeBrace :: rest)
        (show isSpace openBrace = false by decide)
      have notString := expect_other opened
        (show openBrace ≠ quote by decide)
      have readInside :=
        readMembers_text inductionHypothesis rest
          (show (member escape first ++
              tailMembers escape others).length < fuel by
            simp only [value, List.length_cons, List.length_append,
              List.length_nil] at enough
            rw [List.length_append]
            omega)
      obtain ⟨body, firstKey⟩ := expect_quote_of_readMembers readInside
      have notClosed := expect_other firstKey
        (show quote ≠ closeBrace by decide)
      simp only [List.append_assoc] at opened notString
      simp only [List.append_assoc] at readInside notClosed
      rw [readValue]
      simp [value, opened, notString, notClosed, readInside]

/-! ### The laws -/

/-- What a text was read as, and what is left of it. -/
theorem read_eq_some
    {text : Bytes}
    {tree : Tree}
    (accepted : read text = some tree) :
    ∃ rest,
      readValue (text.length + 1) text = some (tree, rest) ∧
        Spaces rest := by
  unfold read at accepted
  cases readText : readValue (text.length + 1) text with
  | none =>
      simp [readText] at accepted
  | some parts =>
      rcases parts with ⟨found, rest⟩
      simp only [readText] at accepted
      split at accepted
      · rename_i onlySpaces
        injection accepted with sameTree
        subst found
        exact ⟨rest, rfl, by simpa [Spaces] using onlySpaces⟩
      · contradiction

/-- A text that is accepted ends in a token, up to white space. -/
theorem read_ends
    {text : Bytes}
    {tree : Tree}
    (accepted : read text = some tree) :
    ∃ front last spaces,
      text = front ++ last :: spaces ∧
        isSpace last = false ∧ Spaces spaces ∧
        ∀ more,
          readValue ((front ++ last :: more).length + 1)
            (front ++ last :: more) = some (tree, more) := by
  obtain ⟨rest, readText, onlySpaces⟩ := read_eq_some accepted
  obtain ⟨front, last, rfl, notSpace, again⟩ :=
    (read_consumes _).1 readText
  refine ⟨front, last, rest, rfl, notSpace, onlySpaces, ?_⟩
  intro more
  apply again more
  simp only [List.length_append, List.length_cons]
  omega

/-- White space behind the token that ends a text does not matter. -/
theorem read_of_ends
    {front spaces : Bytes}
    {last : UInt8}
    {tree : Tree}
    (again :
      ∀ more,
        readValue ((front ++ last :: more).length + 1)
          (front ++ last :: more) = some (tree, more))
    (onlySpaces : Spaces spaces) :
    read (front ++ last :: spaces) = some tree := by
  have allSpaces : spaces.all isSpace = true :=
    List.all_eq_true.mpr onlySpaces
  unfold read
  rw [again spaces]
  simp only [allSpaces, ↓reduceIte]

/-- Behind a text that was accepted, only white space is accepted. -/
theorem read_one_document
    {first second : Bytes}
    {tree other : Tree}
    (accepted : read first = some tree)
    (acceptedMore : read (first ++ second) = some other) :
    Spaces second := by
  obtain ⟨front, last, spaces, rfl, _, _, again⟩ := read_ends accepted
  obtain ⟨rest, readBoth, spacesMore⟩ := read_eq_some acceptedMore
  have readAgain := again (spaces ++ second)
  rw [List.append_assoc, List.cons_append] at readBoth
  rw [readAgain] at readBoth
  injection readBoth with sameParts
  injection sameParts with _ sameRest
  intro byte member
  exact spacesMore byte
    (by rw [← sameRest]; exact List.mem_append_right spaces member)

/-- White space behind a text makes no difference. -/
theorem read_trailing
    {spaces : Bytes}
    (onlySpaces : Spaces spaces)
    (text : Bytes) :
    read (text ++ spaces) = read text := by
  apply Option.ext
  intro tree
  constructor
  · intro accepted
    obtain ⟨front, last, rest, shape, notSpace, onlyRest, again⟩ :=
      read_ends accepted
    have notInSpaces : last ∉ spaces := by
      intro member
      rw [onlySpaces last member] at notSpace
      cases notSpace
    rcases List.append_eq_append_iff.mp shape with
      ⟨after, _, inSpaces⟩ | ⟨after, rfl, behind⟩
    · exact (notInSpaces (by simp [inSpaces])).elim
    · cases after with
      | nil =>
          have member : last ∈ [] ++ spaces :=
            behind ▸ List.mem_cons_self
          exact (notInSpaces member).elim
      | cons byte after =>
          obtain ⟨rfl, rfl⟩ := List.cons.inj behind
          apply read_of_ends again
          intro byte member
          exact onlyRest byte (List.mem_append_left spaces member)
  · intro accepted
    obtain ⟨front, last, rest, rfl, _, onlyRest, again⟩ :=
      read_ends accepted
    rw [List.append_assoc, List.cons_append]
    apply read_of_ends again
    intro byte member
    rcases List.mem_append.mp member with inRest | inSpaces
    · exact onlyRest byte inRest
    · exact onlySpaces byte inSpaces

/-- A tree with children was read from an object with a first member. -/
theorem read_starts_member
    {text : Bytes}
    {tree : Tree}
    (accepted : read text = some tree)
    (hasChildren : tree.children ≠ []) :
    StartsMember text := by
  obtain ⟨rest, readText, _⟩ := read_eq_some accepted
  rcases readValue_cases readText with
      ⟨_, _, _, _, rfl⟩ | ⟨_, _, _, rfl⟩ |
      ⟨inside, members, opened, _, readInside, _⟩
  · exact (hasChildren rfl).elim
  · exact (hasChildren rfl).elim
  · obtain ⟨before, spacesBefore, openedShape⟩ := expect_shape opened
    cases fuel : text.length with
    | zero =>
        rw [fuel] at readInside
        simp [readMembers] at readInside
    | succ fuel' =>
        rw [fuel] at readInside
        obtain ⟨body, key, afterKey, valueText, _, _, quoted,
            readKey, separated, _⟩ :=
          readMembers_cases readInside
        obtain ⟨between, spacesBetween, insideShape⟩ :=
          expect_shape quoted
        obtain ⟨keyBody, keyIsBody, bodyShape, _⟩ :=
          readString_consumes readKey
        obtain ⟨after, spacesAfter, afterShape⟩ :=
          expect_shape separated
        exact ⟨before, between, keyBody, after, valueText,
          spacesBefore, spacesBetween, keyIsBody, spacesAfter, by
            rw [openedShape, insideShape, bodyShape, afterShape]⟩

/-- A compact text is read back as its tree, with white space around it. -/
theorem read_spaced
    {tree : Tree}
    (representable : Representable tree)
    {before after : Bytes}
    (spacesBefore : Spaces before)
    (spacesAfter : Spaces after) :
    read (before ++ (value escape tree ++ after)) = some tree := by
  have expectSame :
      ∀ byte text,
        expect byte (before ++ text) = expect byte text := by
    intro byte text
    unfold expect
    rw [skipSpaces_spaces spacesBefore]
  have readSame :
      ∀ fuel text,
        readValue fuel (before ++ text) = readValue fuel text := by
    intro fuel text
    cases fuel with
    | zero =>
        rfl
    | succ fuel =>
        simp only [readValue, expectSame]
  have enough :
      (value escape tree).length <
        (before ++ (value escape tree ++ after)).length + 1 := by
    simp only [List.length_append]
    omega
  have readText := readValue_value representable after enough
  unfold read
  rw [readSame, readText]
  have onlySpaces : after.all isSpace = true :=
    List.all_eq_true.mpr spacesAfter
  simp [onlySpaces]

/-- A compact text is read back as its tree. -/
theorem read_value
    {tree : Tree}
    (representable : Representable tree) :
    read (value escape tree) = some tree := by
  have none : Spaces [] := by
    simp [Spaces]
  simpa using read_spaced representable none none

/-- The reference reader satisfies every law of a document reader. -/
theorem reader : DocumentReader read escape where
  escape_body :=
    escape_body
  escape_letters :=
    escape_letters
  read_value legible _ :=
    read_value legible.representable
  one_document accepted _ acceptedMore :=
    read_one_document accepted acceptedMore
  starts_member accepted _ found := by
    apply read_starts_member accepted
    intro noChildren
    simp [PropertyTree.find, noChildren,
      PropertyTree.lookup] at found

/-- A member whose key is a string, a nested object, escapes and spaces. -/
example :
    (read (ascii
        "\x7b \"a\" : \x7b\"b\":\"x\\n\"\x7d, \"c\":\"\x7d\" \x7d")).map
        (fun tree =>
          (tree.get [ascii "a", ascii "b"], tree.get [ascii "c"])) =
      some (some [0x78, 0x0A], some [closeBrace]) := by
  decide

end ChatRelay.JsonText

import Mathlib.Data.List.Basic
import ChatRelay.MessageJson

namespace ChatRelay

/-!
# What the clean-up leaves of a document

`msg::json::from` cuts a text twice before it is parsed: behind the last line
feed, and then behind the last closing brace of what is left.  Both cuts spare
a document if the line feeds that follow its closing brace, or the lack of any,
keep the first cut behind that brace.
-/

open JsonText

/-- White space behind a text makes no difference to a reader. -/
def SkipsTrailing (read : Bytes → Option Tree) : Prop :=
  ∀ {spaces : Bytes},
    Spaces spaces →
    ∀ text,
      read (text ++ spaces) = read text

/--
What is documented of a JSON reader: white space behind a text makes no
difference, and no part of an object that stops before its closing brace is
accepted.
-/
structure ReadsObjects (read : Bytes → Option Tree) : Prop where
  trailing : SkipsTrailing read
  unfinished :
    ∀ {before inner after first rest : Bytes} {tree : Tree},
      Spaces before →
      Spaces after →
      read (before ++ openBrace :: (inner ++ closeBrace :: after)) =
        some tree →
      before ++ openBrace :: inner = first ++ rest →
      read first = none

/--
What is documented of the texts that the writer writes: they are read back,
their last byte up to line feeds is the brace that closes the root, they end in
a line feed when they are indented, and they hold no other when they are not.
-/
structure WritesObjects (platform : Platform) : Prop where
  read_back :
    ∀ {tree : Tree} {pretty : Bool} {text : Bytes},
      platform.write_json tree pretty = some text →
      platform.read_json text = some tree
  shape :
    ∀ {tree : Tree} {pretty : Bool} {text : Bytes},
      platform.write_json tree pretty = some text →
      ∃ document ending,
        text = document ++ closeBrace :: ending ∧
          (∀ byte ∈ ending, byte = newline) ∧
          (pretty = true → ending ≠ []) ∧
          (pretty = false → newline ∉ document)

/-- White space holds no closing brace. -/
theorem Spaces.closeBrace_not_mem
    {spaces : Bytes}
    (onlySpaces : Spaces spaces) :
    closeBrace ∉ spaces := by
  intro member
  have isSpace := onlySpaces closeBrace member
  revert isSpace
  decide

/-- The reference reader has the documented properties. -/
theorem readsObjects_read : ReadsObjects JsonText.read where
  trailing onlySpaces text :=
    read_trailing onlySpaces text
  unfinished {before inner after first rest tree} _ _ accepted shape := by
    cases reading : JsonText.read first with
    | none =>
        rfl
    | some other =>
        have whole :
            before ++ openBrace :: (inner ++ closeBrace :: after) =
              first ++ (rest ++ closeBrace :: after) := by
          rw [← List.append_assoc first, ← shape]
          simp
        rw [whole] at accepted
        have onlySpaces := read_one_document reading accepted
        exact (Spaces.closeBrace_not_mem onlySpaces (by simp)).elim

namespace MessageJson

/-- Nothing behind the last line feed is kept. -/
theorem clean_newline
    (front : Bytes)
    {back : Bytes}
    (lastNewline : newline ∉ back) :
    clean (front ++ newline :: back) <+: front ++ [newline] := by
  have cut :
      (front ++ newline :: back).take (front.length + 1) =
        front ++ [newline] := by
    rw [List.append_cons, List.take_left' (by simp)]
  unfold clean
  simp only [rfind_last front lastNewline, cut]
  split
  · split
    · exact List.take_prefix _ _
    · exact List.prefix_rfl
  · exact List.prefix_rfl

/-- If a line feed follows the last closing brace, the text up to it is kept. -/
theorem clean_brace_newline
    (front : Bytes)
    {back : Bytes}
    (lastBrace : closeBrace ∉ back)
    (holdsNewline : newline ∈ back) :
    clean (front ++ closeBrace :: back) = front ++ [closeBrace] := by
  obtain ⟨between, after, rfl, lastNewline⟩ := exists_last holdsNewline
  have noBrace : closeBrace ∉ between ++ [newline] := by
    intro member
    rcases List.mem_append.mp member with inBetween | isNewline
    · exact lastBrace (List.mem_append_left _ inBetween)
    · revert isNewline
      decide
  have shape :
      front ++ closeBrace :: (between ++ newline :: after) =
        (front ++ closeBrace :: between) ++ newline :: after := by
    simp
  have cut :
      (front ++ closeBrace :: between ++ newline :: after).take
          ((front ++ closeBrace :: between).length + 1) =
        front ++ closeBrace :: (between ++ [newline]) := by
    rw [List.append_cons (front ++ closeBrace :: between) newline after,
      List.take_left' (by simp; omega)]
    simp
  unfold clean
  rw [shape]
  simp only [rfind_last (front ++ closeBrace :: between) lastNewline, cut,
    rfind_last front noBrace]
  split
  · rw [List.append_cons, List.take_left' (by simp)]
  · rename_i atEnd
    simp at atEnd

/--
Both cuts fall behind the last closing brace, if a line feed follows it or
there is no line feed at all.
-/
theorem clean_closed
    {front back : Bytes}
    (lastBrace : closeBrace ∉ back)
    (newlines : newline ∈ back ∨ newline ∉ front ++ closeBrace :: back) :
    clean (front ++ closeBrace :: back) = front ++ [closeBrace] := by
  rcases newlines with holdsNewline | noNewline
  · exact clean_brace_newline front lastBrace holdsNewline
  · exact clean_brace noNewline lastBrace

/-- What is read of a text whose clean-up is a document. -/
theorem from_of_clean
    {platform : Platform}
    {input document : Bytes}
    {tree : Tree}
    (cleaned : clean input = document)
    (accepted : platform.read_json document = some tree) :
    «from» platform input = .ok tree := by
  rw [«from», cleaned, accepted]

/--
A text that ends in a line feed if it is indented, and has none if it is not,
has the last line feed where the clean-up wants it, whatever its tail is.
-/
theorem newline_of_written
    {document ending tail : Bytes}
    {pretty : Bool}
    (onlyNewlines : ∀ byte ∈ ending, byte = newline)
    (indented : pretty = true → ending ≠ [])
    (compact : pretty = false → newline ∉ document) :
    newline ∈ ending ++ tail ∨
      newline ∉ document ++ closeBrace :: (ending ++ tail) := by
  by_cases holdsNewline : newline ∈ ending ++ tail
  · exact .inl holdsNewline
  · right
    have noEnding : ending = [] := by
      cases ending with
      | nil =>
          rfl
      | cons byte rest =>
          have isNewline := onlyNewlines byte List.mem_cons_self
          exact (holdsNewline (by simp [isNewline])).elim
    have notPretty : pretty = false := by
      cases pretty with
      | false =>
          rfl
      | true =>
          exact (indented rfl noEnding).elim
    intro member
    rcases List.mem_append.mp member with inDocument | behind
    · exact compact notPretty inDocument
    · rcases List.mem_cons.mp behind with isBrace | inTail
      · revert isBrace
        decide
      · exact holdsNewline inTail

/--
A written text is read back with any tail behind it that has no closing brace,
indented or not.
-/
theorem from_to_append
    {platform : Platform}
    (skips : SkipsTrailing platform.read_json)
    (writes : WritesObjects platform)
    {tree : Tree}
    {pretty : Bool}
    {text : Bytes}
    (written : «to» platform tree pretty = .ok text)
    {tail : Bytes}
    (noBrace : closeBrace ∉ tail) :
    «from» platform (text ++ tail) = .ok tree := by
  have written' : platform.write_json tree pretty = some text := by
    unfold «to» at written
    split at written
    · cases written
    · rename_i found
      rw [found, Except.ok.inj written]
  obtain ⟨document, ending, rfl, onlyNewlines, indented, compact⟩ :=
    writes.shape written'
  have onlySpaces : Spaces ending := by
    intro byte member
    rw [onlyNewlines byte member]
    decide
  have lastBrace : closeBrace ∉ ending ++ tail := by
    intro member
    rcases List.mem_append.mp member with inEnding | inTail
    · exact Spaces.closeBrace_not_mem onlySpaces inEnding
    · exact noBrace inTail
  have accepted :
      platform.read_json (document ++ [closeBrace]) = some tree := by
    have readBack := writes.read_back written'
    rw [List.append_cons, skips onlySpaces] at readBack
    exact readBack
  rw [List.append_assoc, List.cons_append]
  apply from_of_clean _ accepted
  exact clean_closed lastBrace
    (newline_of_written onlyNewlines indented compact)

/-- The text of an object with one string, as the writer indents it. -/
def oneMember (pretty : Bool) (key data : Bytes) : Bytes :=
  if pretty then
    openBrace :: (newline :: List.replicate 4 0x20 ++
      quote :: (escape key ++ quote :: (colon :: ([0x20] ++
        quote :: (escape data ++ quote :: ([newline] ++
          closeBrace :: [newline]))))))
  else
    openBrace :: (quote :: (escape key ++ quote :: (colon ::
      (quote :: (escape data ++ quote :: (closeBrace :: []))))))

/-- A platform that writes objects with one string and no other trees. -/
def oneMemberPlatform : Platform :=
  { Platform.reference with
    write_json := fun tree pretty =>
      match tree with
      | .node [] [(key, .node data [])] =>
          some (oneMember pretty key data)
      | _ =>
          none }

/-- An object with one string, token by token. -/
theorem readValue_oneMember
    {text inside body key afterKey valueText content data afterValue
      rest : Bytes}
    (opened : expect openBrace text = some inside)
    (atKey : expect quote inside = some body)
    (readKey : readString body = some (key, afterKey))
    (separated : expect colon afterKey = some valueText)
    (atData : expect quote valueText = some content)
    (readData : readString content = some (data, afterValue))
    (closed : expect closeBrace afterValue = some rest)
    (fuel : Nat) :
    readValue (fuel + 3) text =
      some (.node [] [(key, .leaf data)], rest) := by
  have notString := expect_other opened (show openBrace ≠ quote by decide)
  have notClosed := expect_other atKey (show quote ≠ closeBrace by decide)
  have notContinued := expect_other closed
    (show closeBrace ≠ comma by decide)
  have readLeaf :
      readValue (fuel + 1) valueText = some (.leaf data, afterValue) := by
    rw [readValue]
    simp only [atData, readData, Option.map_some]
  have readInside := readMembers_opened atKey readKey separated readLeaf
  rw [readValue]
  simp only [opened, notString, notClosed, readInside, notContinued, closed,
    Option.map_some]

/-- An object with one string is read back, with white space between tokens. -/
theorem read_oneMember
    {inside between front behind key data : Bytes}
    (spacesInside : Spaces inside)
    (spacesBetween : Spaces between)
    (spacesFront : Spaces front)
    (spacesBehind : Spaces behind) :
    JsonText.read
        (openBrace :: (inside ++ quote :: (escape key ++ quote :: (colon ::
          (between ++ quote :: (escape data ++ quote :: (front ++
            closeBrace :: behind))))))) =
      some (.node [] [(key, .leaf data)]) := by
  have closed := expect_spaces spacesFront behind
    (show isSpace closeBrace = false by decide)
  have atData := expect_spaces spacesBetween
    (escape data ++ quote :: (front ++ closeBrace :: behind))
    (show isSpace quote = false by decide)
  have separated := expect_cons
    (between ++ quote :: (escape data ++ quote :: (front ++
      closeBrace :: behind)))
    (show isSpace colon = false by decide)
  have atKey := expect_spaces spacesInside
    (escape key ++ quote :: (colon :: (between ++ quote :: (escape data ++
      quote :: (front ++ closeBrace :: behind)))))
    (show isSpace quote = false by decide)
  have opened := expect_cons
    (inside ++ quote :: (escape key ++ quote :: (colon ::
      (between ++ quote :: (escape data ++ quote :: (front ++
        closeBrace :: behind))))))
    (show isSpace openBrace = false by decide)
  have readText := readValue_oneMember opened atKey
    (readString_quoted _ _) separated atData (readString_quoted _ _) closed
  have allSpaces : behind.all isSpace = true :=
    List.all_eq_true.mpr spacesBehind
  unfold JsonText.read
  obtain ⟨fuel, enough⟩ :
      ∃ fuel,
        (openBrace :: (inside ++ quote :: (escape key ++ quote ::
          (colon :: (between ++ quote :: (escape data ++ quote ::
            (front ++ closeBrace :: behind))))))).length + 1 =
          fuel + 3 := by
    apply Nat.exists_eq_add_of_le'
    simp only [List.length_cons, List.length_append]
    omega
  rw [enough, readText fuel]
  simp only [allSpaces, ↓reduceIte]

/-- The writer writes one of the two texts of an object with one string. -/
theorem oneMemberPlatform_write
    {tree : Tree}
    {pretty : Bool}
    {text : Bytes}
    (written : oneMemberPlatform.write_json tree pretty = some text) :
    ∃ key data,
      tree = .node [] [(key, .leaf data)] ∧
        text = oneMember pretty key data := by
  simp only [oneMemberPlatform] at written
  split at written
  · rename_i key data
    exact ⟨key, data, rfl, (Option.some.inj written).symm⟩
  · cases written

/-- Those texts have the documented properties. -/
theorem oneMemberPlatform_writes : WritesObjects oneMemberPlatform where
  read_back {tree pretty text} written := by
    obtain ⟨key, data, rfl, rfl⟩ := oneMemberPlatform_write written
    cases pretty with
    | false =>
        exact @read_oneMember [] [] [] [] key data (by simp [Spaces])
          (by simp [Spaces]) (by simp [Spaces]) (by simp [Spaces])
    | true =>
        exact read_oneMember (by simp [Spaces, newline, isSpace])
          (by simp [Spaces, isSpace]) (by simp [Spaces, newline, isSpace])
          (by simp [Spaces, newline, isSpace])
  shape {tree pretty text} written := by
    obtain ⟨key, data, rfl, rfl⟩ := oneMemberPlatform_write written
    cases pretty with
    | false =>
        refine ⟨openBrace :: (quote :: (escape key ++ quote :: (colon ::
          (quote :: (escape data ++ [quote]))))), [], by simp [oneMember],
          by simp, by simp, ?_⟩
        intro _
        have inKey := (escape_body key).newline_not_mem
        have inData := (escape_body data).newline_not_mem
        simp only [List.mem_cons, List.mem_append, List.not_mem_nil, inKey,
          inData]
        decide
    | true =>
        exact ⟨openBrace :: (newline :: List.replicate 4 0x20 ++
          quote :: (escape key ++ quote :: (colon :: ([0x20] ++
            quote :: (escape data ++ quote :: [newline]))))), [newline],
          by simp [oneMember], by simp, by simp, by simp⟩

/-- An indented object with a NUL, a line feed and half a text behind it. -/
theorem from_to_append_indented :
    «from» oneMemberPlatform
        (oneMember true (ascii "a") [closeBrace] ++
          (0 :: newline :: ascii "\x7b\"a\"")) =
      .ok (.node [] [(ascii "a", .leaf [closeBrace])]) := by
  have written :
      «to» oneMemberPlatform (.node [] [(ascii "a", .leaf [closeBrace])])
          true =
        .ok (oneMember true (ascii "a") [closeBrace]) :=
    rfl
  exact from_to_append readsObjects_read.trailing
    oneMemberPlatform_writes written (by decide)

/-- A text of one object, with white space around it. -/
def ObjectText (text : Bytes) : Prop :=
  ∃ before inner after,
    Spaces before ∧ Spaces after ∧
      text = before ++ openBrace :: (inner ++ closeBrace :: after)

/-- No line feed precedes the last closing brace, unless one follows it. -/
def EndsAfterBrace (text : Bytes) : Prop :=
  ∀ idx,
    rfind newline text = some idx →
    ∀ lastBraceIdx,
      rfind closeBrace text = some lastBraceIdx →
      lastBraceIdx < idx

instance (text : Bytes) : Decidable (EndsAfterBrace text) :=
  decidable_of_iff
    (∀ idx ∈ rfind newline text,
      ∀ lastBraceIdx ∈ rfind closeBrace text, lastBraceIdx < idx)
    Iff.rfl

/-- The last line feed stands before or behind the last closing brace. -/
theorem endsAfterBrace_iff
    {front back : Bytes}
    (lastBrace : closeBrace ∉ back) :
    EndsAfterBrace (front ++ closeBrace :: back) ↔
      newline ∈ back ∨ newline ∉ front ++ closeBrace :: back := by
  unfold EndsAfterBrace
  rw [rfind_last front lastBrace]
  by_cases inBack : newline ∈ back
  · obtain ⟨between, after, rfl, lastNewline⟩ := exists_last inBack
    have shape :
        front ++ closeBrace :: (between ++ newline :: after) =
          (front ++ closeBrace :: between) ++ newline :: after := by
      simp
    rw [shape, rfind_last _ lastNewline]
    simp
  · by_cases inFront : newline ∈ front
    · obtain ⟨before, after, rfl, lastNewline⟩ := exists_last inFront
      have notBehind : newline ∉ after ++ closeBrace :: back := by
        simp only [List.mem_append, List.mem_cons, not_or]
        exact ⟨lastNewline, by decide, inBack⟩
      have shape :
          before ++ newline :: after ++ closeBrace :: back =
            before ++ newline :: (after ++ closeBrace :: back) := by
        simp
      rw [shape, rfind_last before notBehind]
      simp [inBack]
    · have nowhere : newline ∉ front ++ closeBrace :: back := by
        simp only [List.mem_append, List.mem_cons, not_or]
        exact ⟨inFront, by decide, inBack⟩
      simp [rfind_eq_none.mpr nowhere, nowhere]

/--
A text that the reader accepts as one object comes through the clean-up
exactly if its last line feed follows its last closing brace, or it has none.
-/
theorem from_eq_read_iff
    {platform : Platform}
    (reads : ReadsObjects platform.read_json)
    {input : Bytes}
    (object : ObjectText input)
    {tree : Tree}
    (accepted : platform.read_json input = some tree) :
    «from» platform input = .ok tree ↔ EndsAfterBrace input := by
  obtain ⟨before, inner, after, spacesBefore, spacesAfter, rfl⟩ := object
  have lastBrace : closeBrace ∉ after :=
    Spaces.closeBrace_not_mem spacesAfter
  have shape :
      before ++ openBrace :: (inner ++ closeBrace :: after) =
        (before ++ openBrace :: inner) ++ closeBrace :: after := by
    simp
  constructor
  · intro parsed
    by_contra endsBefore
    rw [shape, endsAfterBrace_iff lastBrace, not_or,
      Decidable.not_not] at endsBefore
    obtain ⟨notBehind, somewhere⟩ := endsBefore
    -- The last line feed stands inside the object or in front of it.
    have inFront : newline ∈ before ++ openBrace :: inner := by
      rcases List.mem_append.mp somewhere with inFront | behind
      · exact inFront
      · rcases List.mem_cons.mp behind with isBrace | inAfter
        · exact absurd isBrace (by decide)
        · exact (notBehind inAfter).elim
    obtain ⟨first, second, split, lastNewline⟩ := exists_last inFront
    have noneBehind : newline ∉ second ++ closeBrace :: after := by
      simp only [List.mem_append, List.mem_cons, not_or]
      exact ⟨lastNewline, by decide, notBehind⟩
    have kept := clean_newline first noneBehind
    have whole :
        before ++ openBrace :: (inner ++ closeBrace :: after) =
          first ++ newline :: (second ++ closeBrace :: after) := by
      rw [shape, split]
      simp
    rw [← whole] at kept
    obtain ⟨rest, cut⟩ := kept
    have stops :
        before ++ openBrace :: inner =
          clean (before ++ openBrace ::
            (inner ++ closeBrace :: after)) ++ (rest ++ second) := by
      rw [← List.append_assoc, cut, split]
      simp
    have unfinished :=
      reads.unfinished spacesBefore spacesAfter accepted stops
    rw [«from», unfinished] at parsed
    cases parsed
  · intro endsAfter
    rw [shape, endsAfterBrace_iff lastBrace] at endsAfter
    have document :
        platform.read_json (before ++ openBrace :: inner ++ [closeBrace]) =
          some tree := by
      rw [shape, List.append_cons, reads.trailing spacesAfter] at accepted
      exact accepted
    rw [shape]
    exact from_of_clean (clean_closed lastBrace endsAfter) document

/-- An object on two lines with a line feed behind it. -/
def twoLines : Bytes :=
  ascii "\x7b\n\"a\":\"b\"\x7d\n"

theorem twoLines_objectText : ObjectText twoLines :=
  ⟨[], ascii "\n\"a\":\"b\"", [newline],
    by simp [Spaces], by simp [Spaces, newline, isSpace], by decide⟩

theorem from_eq_read_iff_twoLines :
    «from» Platform.reference twoLines =
        .ok (.node [] [(ascii "a", .leaf (ascii "b"))]) ↔
      EndsAfterBrace twoLines :=
  from_eq_read_iff readsObjects_read twoLines_objectText (by rfl)

/-- An object on two lines that ends with its closing brace. -/
def openedLine : Bytes :=
  ascii "\x7b\n\"a\":\"b\"\x7d"

/-- It is accepted, and refused once it has been cleaned up. -/
theorem clean_up_damages_object :
    ObjectText openedLine ∧
      Platform.reference.read_json openedLine =
        some (.node [] [(ascii "a", .leaf (ascii "b"))]) ∧
      «from» Platform.reference openedLine = .error .jsonParserError :=
  ⟨⟨[], ascii "\n\"a\":\"b\"", [], by simp [Spaces], by simp [Spaces],
    by decide⟩, by rfl, by rfl⟩

end MessageJson

end ChatRelay

import Mathlib.Data.Bool.AllAny
import Mathlib.Data.List.Basic
import ChatRelay.JsonText

namespace ChatRelay.JsonText

/-!
# Where an object can start inside a tagged text

A compact text of a type tag and an object of string fields holds many opening
braces once the strings may hold them.  None of those can be taken for the
beginning of an object with a member: behind a brace inside a string the next
quote closes that string, and what follows is never a colon.  So a reader that
starts in the middle of such a text finds an object only at the inner brace.
-/

/-- What may follow the opening quote of a key. -/
def CompletesKey (text : Bytes) : Prop :=
  ∃ key after rest,
    StringBody key ∧
      Spaces after ∧
      text = key ++ quote :: (after ++ colon :: rest)

/-- No member starts at any byte of a text that a second text follows. -/
def StartsNowhere : Bytes → Bytes → Prop
  | [], _ =>
      True
  | byte :: rest, follow =>
      ¬ StartsMember (byte :: (rest ++ follow)) ∧
        StartsNowhere rest follow

/-- A key that needs no escapes. -/
def PlainKey (key : Bytes) : Prop :=
  key ≠ [] ∧ ∀ byte ∈ key, isLetter byte = true

/-- Plain keys are recognised letter by letter. -/
theorem plainKey_of_all
    {key : Bytes}
    (nonempty : key ≠ [])
    (letters : key.all isLetter = true) :
    PlainKey key :=
  ⟨nonempty, List.all_eq_true.mp letters⟩

/-- Members whose values are strings. -/
def leaves
    (fields : List (Bytes × Bytes)) :
    List (Bytes × Tree) :=
  fields.map fun field => (field.1, .leaf field.2)

/-- A tree of a string member and an object member. -/
def taggedTree
    (typeKey type objectKey : Bytes)
    (fields : List (Bytes × Bytes)) :
    Tree :=
  .node []
    [(typeKey, .leaf type),
      (objectKey, .node [] (leaves fields))]

/-! ### Starting a member -/

/-- The start of a member stays one when more text follows. -/
theorem StartsMember.append
    {text : Bytes}
    (starts : StartsMember text)
    (more : Bytes) :
    StartsMember (text ++ more) := by
  obtain ⟨before, inside, key, after, rest, spacesBefore,
      spacesInside, keyBody, spacesAfter, rfl⟩ := starts
  exact ⟨before, inside, key, after, rest ++ more, spacesBefore,
    spacesInside, keyBody, spacesAfter, by simp⟩

/-- Behind the opening quote of a member its key is completed. -/
theorem StartsMember.completesKey
    {text : Bytes}
    (starts : StartsMember text) :
    ∃ opening rest,
      (∀ byte ∈ opening, byte ≠ quote ∧ byte ≠ backslash) ∧
        opening ≠ [] ∧
        CompletesKey rest ∧
        text = opening ++ quote :: rest := by
  obtain ⟨before, inside, key, after, rest, spacesBefore,
      spacesInside, keyBody, spacesAfter, rfl⟩ := starts
  have space :
      ∀ {byte : UInt8},
        isSpace byte = true →
        byte ≠ quote ∧ byte ≠ backslash := by
    intro byte isSpace
    constructor
    · rintro rfl
      exact absurd isSpace (by decide)
    · rintro rfl
      exact absurd isSpace (by decide)
  refine ⟨before ++ openBrace :: inside,
    key ++ quote :: (after ++ colon :: rest), ?_, by simp,
    ⟨key, after, rest, keyBody, spacesAfter, rfl⟩, by simp⟩
  intro byte inOpening
  rcases List.mem_append.mp inOpening with inBefore | inRest
  · exact space (spacesBefore byte inBefore)
  · rcases List.mem_cons.mp inRest with rfl | inInside
    · exact ⟨by decide, by decide⟩
    · exact space (spacesInside byte inInside)

/-- A byte that is neither white space nor an opening brace starts nothing. -/
theorem not_startsMember_cons
    {byte : UInt8}
    (notSpace : isSpace byte = false)
    (notBrace : byte ≠ openBrace)
    (rest : Bytes) :
    ¬ StartsMember (byte :: rest) := by
  rintro ⟨before, inside, key, after, more, spacesBefore, _, _, _,
    shape⟩
  cases before with
  | nil =>
      exact notBrace (List.cons.inj shape).1
  | cons first others =>
      have sameByte : byte = first :=
        (List.cons.inj shape).1
      have firstSpace := spacesBefore first (List.mem_cons_self ..)
      rw [← sameByte, notSpace] at firstSpace
      contradiction

/-! ### Texts in which nothing starts -/

theorem startsNowhere_append
    {first second follow : Bytes} :
    StartsNowhere (first ++ second) follow ↔
      StartsNowhere first (second ++ follow) ∧
        StartsNowhere second follow := by
  induction first with
  | nil =>
      simp [StartsNowhere]
  | cons byte rest inductionHypothesis =>
      simp only [List.cons_append, StartsNowhere, List.append_assoc,
        inductionHypothesis, and_assoc]

/-- Nothing starts at a suffix either. -/
theorem StartsNowhere.not_startsMember
    {front back follow : Bytes}
    (nowhere : StartsNowhere (front ++ back) follow)
    (nonempty : back ≠ []) :
    ¬ StartsMember (back ++ follow) := by
  cases back with
  | nil =>
      exact (nonempty rfl).elim
  | cons byte rest =>
      exact (startsNowhere_append.mp nowhere).2.1

/-- It is enough to look at every suffix. -/
theorem startsNowhere_of_suffixes
    {text follow : Bytes}
    (suffixes :
      ∀ front back,
        text = front ++ back →
        back ≠ [] →
        ¬ StartsMember (back ++ follow)) :
    StartsNowhere text follow := by
  induction text with
  | nil =>
      trivial
  | cons byte rest inductionHypothesis =>
      constructor
      · exact suffixes [] (byte :: rest) rfl (List.cons_ne_nil _ _)
      · apply inductionHypothesis
        intro front back shape nonempty
        exact suffixes (byte :: front) back (by rw [shape]; rfl)
          nonempty

/-- Nothing starts in a text without white space and braces. -/
theorem startsNowhere_of_plain
    {text : Bytes}
    (plain :
      ∀ byte ∈ text, isSpace byte = false ∧ byte ≠ openBrace)
    (follow : Bytes) :
    StartsNowhere text follow := by
  induction text with
  | nil =>
      trivial
  | cons byte rest inductionHypothesis =>
      obtain ⟨plainByte, plainRest⟩ := List.forall_mem_cons.mp plain
      exact ⟨not_startsMember_cons plainByte.1 plainByte.2 _,
        inductionHypothesis plainRest⟩

/-! ### Keys and string bodies -/

/-- A letter is neither white space nor a mark of the syntax. -/
theorem isLetter_plain
    {byte : UInt8}
    (letter : isLetter byte = true) :
    (isSpace byte = false ∧ byte ≠ openBrace) ∧
      byte ≠ quote ∧ byte ≠ colon := by
  refine ⟨⟨?_, ?_⟩, ?_, ?_⟩
  · simp only [isSpace, Bool.or_eq_false_iff, beq_eq_false_iff_ne]
    refine ⟨⟨⟨?_, ?_⟩, ?_⟩, ?_⟩ <;>
      · rintro rfl
        exact absurd letter (by decide)
  all_goals
    rintro rfl
    exact absurd letter (by decide)

/-- The first quote behind a string body, when the other side has none before. -/
theorem StringBody.first_quote
    {body bodyRest opening openingRest : Bytes}
    (stringBody : StringBody body)
    (noMark : ∀ byte ∈ opening, byte ≠ quote ∧ byte ≠ backslash)
    (same :
      body ++ quote :: bodyRest =
        opening ++ quote :: openingRest) :
    body = opening ∧ bodyRest = openingRest := by
  induction stringBody generalizing opening with
  | nil =>
      cases opening with
      | nil =>
          simpa using same
      | cons first others =>
          simp only [List.nil_append, List.cons_append,
            List.cons.injEq] at same
          exact ((noMark first (List.mem_cons_self ..)).1
            same.1.symm).elim
  | plain notQuote _ _ _ inductionHypothesis =>
      cases opening with
      | nil =>
          simp only [List.cons_append, List.nil_append,
            List.cons.injEq] at same
          exact (notQuote same.1).elim
      | cons first others =>
          simp only [List.cons_append, List.cons.injEq] at same
          obtain ⟨sameBody, sameRest⟩ :=
            inductionHypothesis
              (List.forall_mem_cons.mp noMark).2 same.2
          exact ⟨by rw [same.1, sameBody], sameRest⟩
  | escaped _ _ _ =>
      cases opening with
      | nil =>
          simp only [List.cons_append, List.nil_append,
            List.cons.injEq] at same
          exact absurd same.1 (by decide)
      | cons first others =>
          simp only [List.cons_append, List.cons.injEq] at same
          exact ((noMark first (List.mem_cons_self ..)).2
            same.1.symm).elim

/-- A quote that anything but white space or a colon follows ends no key. -/
theorem not_completesKey_quote
    {opening rest : Bytes}
    {byte : UInt8}
    (noMark : ∀ byte ∈ opening, byte ≠ quote ∧ byte ≠ backslash)
    (notSpace : isSpace byte = false)
    (notColon : byte ≠ colon) :
    ¬ CompletesKey (opening ++ quote :: byte :: rest) := by
  rintro ⟨key, after, more, keyBody, spacesAfter, shape⟩
  obtain ⟨_, sameRest⟩ := keyBody.first_quote noMark shape.symm
  cases after with
  | nil =>
      exact notColon (List.cons.inj sameRest).1.symm
  | cons first others =>
      have sameByte : first = byte :=
        (List.cons.inj sameRest).1
      have firstSpace := spacesAfter first (List.mem_cons_self ..)
      rw [sameByte, notSpace] at firstSpace
      contradiction

/-- Without a quote no key ends. -/
theorem not_completesKey_of_no_quote
    {text : Bytes}
    (noQuote : quote ∉ text) :
    ¬ CompletesKey text := by
  rintro ⟨key, after, more, _, _, rfl⟩
  simp at noQuote

/-- Nothing starts inside a string whose closing quote completes no key. -/
theorem startsNowhere_body
    {body rest : Bytes}
    (stringBody : StringBody body)
    (noKey : ¬ CompletesKey rest) :
    StartsNowhere body (quote :: rest) := by
  apply startsNowhere_of_suffixes
  rintro front back rfl nonempty starts
  obtain ⟨opening, behind, noMark, openingNonempty, completes,
      shape⟩ := starts.completesKey
  rcases stringBody.suffix with backBody |
      ⟨byte, bodyRest, rfl, restBody⟩
  · obtain ⟨_, sameRest⟩ := backBody.first_quote noMark shape
    rw [sameRest] at noKey
    exact noKey completes
  · -- The suffix begins with the byte whose backslash was cut off.
    obtain ⟨first, others, rfl⟩ :=
      List.exists_cons_of_ne_nil openingNonempty
    simp only [List.cons_append, List.cons.injEq] at shape
    obtain ⟨_, sameRest⟩ :=
      restBody.first_quote (List.forall_mem_cons.mp noMark).2 shape.2
    rw [sameRest] at noKey
    exact noKey completes

/-! ### Members and tagged texts -/

section Fields

variable
  {escape : Bytes → Bytes}
  (escapeBody : ∀ data, StringBody (escape data))
  (escapeLetters :
    ∀ {text : Bytes},
      (∀ byte ∈ text, isLetter byte = true) →
      escape text = text)

include escapeLetters

/-- The text of a member with a plain key and a string value. -/
theorem member_leaf
    {key : Bytes}
    (plainKey : PlainKey key)
    (data : Bytes) :
    member escape (key, .leaf data) =
      (quote :: (key ++ [quote, colon, quote])) ++
        (escape data ++ [quote]) := by
  simp [member, PropertyTree.leaf, value, quoted,
    escapeLetters plainKey.2]

omit escapeLetters in
/-- A plain key behind a comma is not the colon that would complete a key. -/
theorem not_completesKey_comma
    {key : Bytes}
    (plainKey : PlainKey key)
    (rest : Bytes) :
    ¬ CompletesKey (comma :: quote :: (key ++ rest)) := by
  obtain ⟨first, others, rfl⟩ :=
    List.exists_cons_of_ne_nil plainKey.1
  have letter := isLetter_plain
    (plainKey.2 first (List.mem_cons_self ..))
  exact @not_completesKey_quote [comma] _ _
    (List.all_iff_forall_prop.mp (by decide)) letter.1.1 letter.2.2

omit escapeLetters in
/-- Nothing starts in a quoted plain key. -/
theorem startsNowhere_key
    {key marks : Bytes}
    (plainKey : PlainKey key)
    (plainMarks :
      ∀ byte ∈ marks, isSpace byte = false ∧ byte ≠ openBrace)
    (follow : Bytes) :
    StartsNowhere (quote :: (key ++ marks)) follow := by
  apply startsNowhere_of_plain
  intro byte inText
  rcases List.mem_cons.mp inText with rfl | inRest
  · exact ⟨by decide, by decide⟩
  · rcases List.mem_append.mp inRest with inKey | inMarks
    · exact (isLetter_plain (plainKey.2 byte inKey)).1
    · exact plainMarks byte inMarks

include escapeBody

/-- Nothing starts in a member with a string value. -/
theorem startsNowhere_member
    {key follow : Bytes}
    (plainKey : PlainKey key)
    (data : Bytes)
    (noKey : ¬ CompletesKey follow) :
    StartsNowhere (member escape (key, .leaf data)) follow := by
  rw [member_leaf escapeLetters plainKey, startsNowhere_append,
    startsNowhere_append]
  exact ⟨startsNowhere_key plainKey
      (List.all_iff_forall_prop.mp (by decide)) _,
    startsNowhere_body (escapeBody data) noKey,
    not_startsMember_cons (by decide) (by decide) _, trivial⟩

/-- Nothing starts in the members behind the first. -/
theorem startsNowhere_tailMembers
    {fields : List (Bytes × Bytes)}
    {follow : Bytes}
    (plainKeys : ∀ field ∈ fields, PlainKey field.1)
    (noKey : ¬ CompletesKey follow) :
    StartsNowhere (tailMembers escape (leaves fields)) follow ∧
      ¬ CompletesKey
        (tailMembers escape (leaves fields) ++ follow) := by
  induction fields with
  | nil =>
      exact ⟨trivial, noKey⟩
  | cons first others inductionHypothesis =>
      rcases first with ⟨key, data⟩
      obtain ⟨plainKey, plainOthers⟩ :=
        List.forall_mem_cons.mp plainKeys
      obtain ⟨nowhere, noKeyBehind⟩ :=
        inductionHypothesis plainOthers
      have shape :
          tailMembers escape (leaves ((key, data) :: others)) =
            comma :: (member escape (key, .leaf data) ++
              tailMembers escape (leaves others)) :=
        rfl
      rw [shape]
      refine ⟨⟨not_startsMember_cons (by decide) (by decide) _,
        startsNowhere_append.mpr
          ⟨startsNowhere_member escapeBody escapeLetters plainKey data
            noKeyBehind, nowhere⟩⟩, ?_⟩
      rw [member_leaf escapeLetters plainKey]
      simpa using not_completesKey_comma plainKey _

/--
A member that starts strictly inside a tagged text starts at the inner object,
provided that the text behind does not complete a key.
-/
theorem object_of_startsMember
    {typeKey type objectKey front back follow : Bytes}
    {fields : List (Bytes × Bytes)}
    (plainType : PlainKey typeKey)
    (plainObject : PlainKey objectKey)
    (plainKeys : ∀ field ∈ fields, PlainKey field.1)
    (nonempty : fields ≠ [])
    (noKey : ¬ CompletesKey (closeBrace :: closeBrace :: follow))
    (split :
      value escape (taggedTree typeKey type objectKey fields) =
        front ++ back)
    (inside : front ≠ [])
    (remaining : back ≠ [])
    (starts : StartsMember (back ++ follow)) :
    back = value escape (.node [] (leaves fields)) ++ [closeBrace] := by
  obtain ⟨⟨key, data⟩, others, rfl⟩ :=
    List.exists_cons_of_ne_nil nonempty
  obtain ⟨plainKey, plainOthers⟩ := List.forall_mem_cons.mp plainKeys
  let head :=
    member escape (typeKey, .leaf type) ++
      comma :: (quote :: (objectKey ++ [quote, colon]))
  let tail :=
    member escape (key, .leaf data) ++
      (tailMembers escape (leaves others) ++ [closeBrace, closeBrace])
  have inner :
      value escape (.node [] (leaves ((key, data) :: others))) ++
          [closeBrace] =
        openBrace :: tail := by
    simp [leaves, value, tail]
  have whole :
      value escape
          (taggedTree typeKey type objectKey ((key, data) :: others)) =
        openBrace :: (head ++ openBrace :: tail) := by
    rw [← inner]
    simp [taggedTree, head, value, tailMembers,
      member, quoted, escapeLetters plainObject.2]
  have headNowhere :
      ∀ behind, StartsNowhere head behind := by
    intro behind
    refine startsNowhere_append.mpr
      ⟨startsNowhere_member escapeBody escapeLetters plainType type ?_,
        not_startsMember_cons (by decide) (by decide) _,
        startsNowhere_key plainObject
          (List.all_iff_forall_prop.mp (by decide)) _⟩
    simpa using
      not_completesKey_comma plainObject ([quote, colon] ++ behind)
  have tailNowhere : StartsNowhere tail follow := by
    obtain ⟨nowhere, noKeyBehind⟩ :=
      startsNowhere_tailMembers escapeBody escapeLetters plainOthers
        noKey
    refine startsNowhere_append.mpr
      ⟨startsNowhere_member escapeBody escapeLetters plainKey data ?_,
        startsNowhere_append.mpr ⟨nowhere, ?_⟩⟩
    · simpa using noKeyBehind
    · exact startsNowhere_of_plain
        (List.all_iff_forall_prop.mp (by decide)) _
  obtain ⟨first, front, rfl⟩ := List.exists_cons_of_ne_nil inside
  rw [whole, List.cons_append, List.cons.injEq] at split
  rw [inner]
  rcases List.append_eq_append_iff.mp split.2 with
      ⟨between, rfl, tailShape⟩ | ⟨between, headShape, rfl⟩
  · cases between with
    | nil =>
        exact tailShape.symm
    | cons byte rest =>
        rw [List.cons_append, List.cons.injEq] at tailShape
        rw [tailShape.2] at tailNowhere
        exact (tailNowhere.not_startsMember remaining starts).elim
  · cases between with
    | nil =>
        rfl
    | cons byte rest =>
        have nowhere := headNowhere (openBrace :: tail ++ follow)
        rw [headShape] at nowhere
        rw [List.append_assoc] at starts
        exact (nowhere.not_startsMember (List.cons_ne_nil _ _)
          starts).elim

omit escapeBody escapeLetters in
/-- A plain key holds no line feed. -/
theorem PlainKey.newline_not_mem
    {key : Bytes}
    (plainKey : PlainKey key) :
    newline ∉ key := by
  intro inKey
  exact absurd (plainKey.2 newline inKey) (by decide)

/-- A member with a string value holds no line feed. -/
theorem newline_not_mem_member
    {key : Bytes}
    (plainKey : PlainKey key)
    (data : Bytes) :
    newline ∉ member escape (key, .leaf data) := by
  rw [member_leaf escapeLetters plainKey]
  have inData := (escapeBody data).newline_not_mem
  simp only [List.mem_append, List.mem_cons, List.not_mem_nil,
    not_or, plainKey.newline_not_mem, inData]
  decide

/-- Nor do the members behind the first. -/
theorem newline_not_mem_tailMembers
    {fields : List (Bytes × Bytes)}
    (plainKeys : ∀ field ∈ fields, PlainKey field.1) :
    newline ∉ tailMembers escape (leaves fields) := by
  induction fields with
  | nil =>
      simp [leaves, tailMembers]
  | cons first others inductionHypothesis =>
      obtain ⟨plainKey, plainOthers⟩ :=
        List.forall_mem_cons.mp plainKeys
      have shape :
          tailMembers escape (leaves (first :: others)) =
            comma :: (member escape (first.1, .leaf first.2) ++
              tailMembers escape (leaves others)) :=
        rfl
      rw [shape, List.mem_cons, List.mem_append]
      rintro (isComma | inFirst | inOthers)
      · exact absurd isComma (by decide)
      · exact newline_not_mem_member escapeBody escapeLetters plainKey
          first.2 inFirst
      · exact inductionHypothesis plainOthers inOthers

/-- A tagged text holds no line feed. -/
theorem newline_not_mem_tagged
    {typeKey objectKey : Bytes}
    (type : Bytes)
    {fields : List (Bytes × Bytes)}
    (plainType : PlainKey typeKey)
    (plainObject : PlainKey objectKey)
    (plainKeys : ∀ field ∈ fields, PlainKey field.1)
    (nonempty : fields ≠ []) :
    newline ∉
      value escape (taggedTree typeKey type objectKey fields) := by
  obtain ⟨first, others, rfl⟩ := List.exists_cons_of_ne_nil nonempty
  obtain ⟨plainKey, plainOthers⟩ := List.forall_mem_cons.mp plainKeys
  have inType :=
    newline_not_mem_member escapeBody escapeLetters plainType type
  have inFirst :=
    newline_not_mem_member escapeBody escapeLetters plainKey first.2
  have inOthers :=
    newline_not_mem_tailMembers escapeBody escapeLetters plainOthers
  have shape :
      value escape
          (taggedTree typeKey type objectKey (first :: others)) =
        openBrace :: (member escape (typeKey, .leaf type) ++
          comma :: quote :: (objectKey ++ quote :: colon :: openBrace ::
            (member escape (first.1, .leaf first.2) ++
              (tailMembers escape (leaves others) ++
                [closeBrace, closeBrace])))) := by
    simp [taggedTree, leaves, value, tailMembers, member, quoted,
      escapeLetters plainObject.2]
  rw [shape]
  simp only [List.mem_cons, List.mem_append, List.not_mem_nil,
    inType, inFirst, inOthers, plainObject.newline_not_mem]
  decide

end Fields

/-- An object text ends with its closing brace. -/
theorem value_closes
    (escape : Bytes → Bytes)
    {members : List (Bytes × Tree)}
    (nonempty : members ≠ []) :
    ∃ front,
      value escape (.node [] members) = front ++ [closeBrace] := by
  obtain ⟨first, others, rfl⟩ := List.exists_cons_of_ne_nil nonempty
  exact ⟨openBrace ::
    (member escape first ++ tailMembers escape others), by
      simp [value]⟩

/-- A tagged tree of string fields has a text. -/
theorem taggedTree_representable
    (typeKey type objectKey : Bytes)
    {fields : List (Bytes × Bytes)}
    (nonempty : fields ≠ []) :
    Representable (taggedTree typeKey type objectKey fields) := by
  apply Representable.object (List.cons_ne_nil _ _)
  intro entry inMembers
  rcases List.mem_cons.mp inMembers with rfl | inRest
  · exact .leaf type
  · rw [List.mem_singleton.mp inRest]
    apply Representable.object
    · simpa [leaves] using nonempty
    · intro field inFields
      obtain ⟨original, _, rfl⟩ := List.mem_map.mp inFields
      exact .leaf original.2

/-- A tagged tree over strings is legible. -/
theorem taggedTree_legible
    (typeKey type objectKey : String)
    {fields : List (String × String)}
    (nonempty : fields ≠ []) :
    Legible
        (.node [] (leaves (fields.map fun field =>
          (ascii field.1, ascii field.2)))) ∧
      Legible
        (taggedTree (ascii typeKey) (ascii type) (ascii objectKey)
          (fields.map fun field => (ascii field.1, ascii field.2))) := by
  have inner :
      Legible
        (.node [] (leaves (fields.map fun field =>
          (ascii field.1, ascii field.2)))) := by
    apply Legible.object
    · simpa [leaves] using nonempty
    · intro entry inFields
      simp only [leaves, List.map_map, List.mem_map] at inFields
      obtain ⟨field, _, rfl⟩ := inFields
      exact ⟨field.1, rfl⟩
    · intro entry inFields
      simp only [leaves, List.map_map, List.mem_map] at inFields
      obtain ⟨field, _, rfl⟩ := inFields
      exact .leaf field.2
  refine ⟨inner, .object (List.cons_ne_nil _ _) ?_ ?_⟩
  · intro entry inMembers
    rcases List.mem_cons.mp inMembers with rfl | inRest
    · exact ⟨typeKey, rfl⟩
    · rw [List.mem_singleton.mp inRest]
      exact ⟨objectKey, rfl⟩
  · intro entry inMembers
    rcases List.mem_cons.mp inMembers with rfl | inRest
    · exact .leaf type
    · rw [List.mem_singleton.mp inRest]
      exact inner

/-- There is no white space at the end of a text that ends with a brace. -/
theorem Spaces.eq_nil_of_closes
    {spaces first front : Bytes}
    (onlySpaces : Spaces spaces)
    (closes : first ++ spaces = front ++ [closeBrace]) :
    spaces = [] := by
  rcases List.eq_nil_or_concat spaces with rfl | ⟨rest, last, rfl⟩
  · rfl
  · rw [List.concat_eq_append, ← List.append_assoc] at closes
    have sameLast := (List.append_inj' closes rfl).2
    have space := onlySpaces last (by simp)
    rw [(List.cons.inj sameLast).1] at space
    exact absurd space (by decide)

/--
Two documents at the front of one text are the same when the first ends with
its closing brace and no white space follows it.
-/
theorem DocumentReader.unique
    {read : Bytes → Option Tree}
    {escape : Bytes → Bytes}
    (reader : DocumentReader read escape)
    {first second firstRest secondRest : Bytes}
    {tree other : Tree}
    (readFirst : read first = some tree)
    (readSecond : read second = some other)
    (firstChildren : tree.children ≠ [])
    (secondChildren : other.children ≠ [])
    (same : first ++ firstRest = second ++ secondRest)
    (closes : ∃ front, first = front ++ [closeBrace])
    (noSpace : ∀ byte ∈ firstRest.head?, isSpace byte = false) :
    second = first := by
  rcases List.append_eq_append_iff.mp same with
      ⟨between, rfl, rfl⟩ | ⟨between, rfl, _⟩
  · have spaces := reader.one_document readFirst firstChildren readSecond
    cases between with
    | nil =>
        exact List.append_nil first
    | cons byte rest =>
        have space := spaces byte (List.mem_cons_self ..)
        rw [noSpace byte rfl] at space
        contradiction
  · have spaces := reader.one_document readSecond secondChildren readFirst
    obtain ⟨front, shape⟩ := closes
    rw [spaces.eq_nil_of_closes shape, List.append_nil]

end ChatRelay.JsonText

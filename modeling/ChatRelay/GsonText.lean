import Mathlib.Data.List.Basic
import ChatRelay.JsonReader
import ChatRelay.ResponseThread
import ChatRelay.TaggedText

namespace ChatRelay.Client

/-!
# What the client relies on Gson for

The framing of responses is about any parser that meets the two laws below.
The parser of this development, followed by a translation of its trees, is one.
-/

open JsonText

/-- The bytes of a Unicode string. -/
def Unicode (bytes : Bytes) : Prop :=
  ∃ text : String, bytes = ascii text

/-- String members as Gson parses them. -/
def primitives
    (fields : List (Bytes × Bytes)) :
    JsonMembers :=
  fields.map fun field => (field.1, .JsonPrimitive field.2)

/--
The laws of `fromJson` on texts written with a given escape function: a tagged
text is parsed with any white space around it, and behind a text that was
parsed there is room for white space only.
-/
structure GsonReader
    (fromJson : Bytes → Except JavaException (Option JsonMembers))
    (escape : Bytes → Bytes) : Prop where
  read_tagged :
    ∀ {typeKey type objectKey : Bytes}
      {fields : List (Bytes × Bytes)}
      {before after : Bytes},
      Unicode typeKey →
      Unicode type →
      Unicode objectKey →
      (∀ field ∈ fields, Unicode field.1 ∧ Unicode field.2) →
      typeKey ≠ objectKey →
      (fields.map Prod.fst).Nodup →
      fields ≠ [] →
      Spaces before →
      Spaces after →
      fromJson
          (before ++
            (value escape (taggedTree typeKey type objectKey fields) ++
              after)) =
        .ok (some
          [(typeKey, .JsonPrimitive type),
            (objectKey, .JsonObject (primitives fields))])
  one_document :
    ∀ {first second : Bytes} {members others : JsonMembers},
      fromJson first = .ok (some members) →
      fromJson (first ++ second) = .ok (some others) →
      Spaces second

/-! ### A reference parser -/

mutual

/-- The parse tree that Gson would build. -/
def ofTree : Tree → JsonElement
  | .node data [] =>
      .JsonPrimitive data
  | .node _ (first :: others) =>
      .JsonObject (ofMember first :: ofMembers others)

/-- The translation of one member. -/
def ofMember : Bytes × Tree → Bytes × JsonElement
  | (key, tree) =>
      (key, ofTree tree)

/-- The translation of all members. -/
def ofMembers : List (Bytes × Tree) → JsonMembers
  | [] =>
      []
  | first :: others =>
      ofMember first :: ofMembers others

end

/-- A client over the parser of this development, with times as they are written. -/
def ClientPlatform.reference : ClientPlatform Bytes where
  fromJson := fun text =>
    if text.all isSpace then
      .ok none
    else
      match JsonText.read text with
      | some (.node _ (first :: others)) =>
          .ok (some (ofMembers (first :: others)))
      | _ =>
          .error .JsonSyntaxException
  parseDateTime := some
  otherClass := fun _ => false

theorem ofMembers_leaves
    (fields : List (Bytes × Bytes)) :
    ofMembers (leaves fields) = primitives fields := by
  induction fields with
  | nil =>
      rfl
  | cons field fields inductionHypothesis =>
      exact congrArg (List.cons _) inductionHypothesis

/-- A text that is parsed as an object is one for the underlying reader. -/
theorem read_of_fromJson
    {text : Bytes}
    {members : JsonMembers}
    (accepted :
      ClientPlatform.reference.fromJson text = .ok (some members)) :
    ∃ tree, JsonText.read text = some tree := by
  cases readText : JsonText.read text with
  | some tree =>
      exact ⟨tree, rfl⟩
  | none =>
      simp only [ClientPlatform.reference, readText] at accepted
      split at accepted
      · injection accepted with noMembers
        contradiction
      · contradiction

/-- The reference parser satisfies the laws. -/
theorem gsonReader :
    GsonReader ClientPlatform.reference.fromJson escape where
  read_tagged := by
    intro typeKey type objectKey fields before after _ _ _ _ _ _
      nonempty spacesBefore spacesAfter
    obtain ⟨first, others, rfl⟩ := List.exists_cons_of_ne_nil nonempty
    have readText :=
      read_spaced
        (taggedTree_representable typeKey type objectKey nonempty)
        spacesBefore spacesAfter
    have notBlank :
        (before ++
          (value escape
              (taggedTree typeKey type objectKey (first :: others)) ++
            after)).all isSpace = false := by
      have brace : isSpace openBrace = false := by
        decide
      simp [taggedTree, value, brace]
    simp only [ClientPlatform.reference, notBlank, readText]
    have inner := ofMembers_leaves (first :: others)
    simp only [taggedTree, leaves, List.map_cons, ofMembers, ofMember,
      ofTree, PropertyTree.leaf] at inner ⊢
    rw [inner]
    rfl
  one_document := by
    intro text second members others accepted acceptedMore
    obtain ⟨tree, readFirst⟩ := read_of_fromJson accepted
    obtain ⟨other, readMore⟩ := read_of_fromJson acceptedMore
    exact read_one_document readFirst readMore

end ChatRelay.Client

import Mathlib.Data.List.Basic
import ChatRelay.VisitorClassification

namespace ChatRelay

/-!
# Decoding as a given class

`instance::fromJson<T>` takes a tree apart into its tag and its object, and
decodes the object as a `T`.  The tag is not looked at, so an object of another
class is decoded as long as it has the fields that `T` requires.
-/

open JsonText (Tree)
open Instance (extractFrom)

/-- `instance::fromJson<T>`; a null pointer is `none`. -/
def Instance.fromJson
    {S : Type}
    (codec : Codec S)
    (platform : Platform)
    (json : Tree) :
    Except Fault (Option S) :=
  let params := extractFrom json
  match params with
  | none =>
      .ok none
  | some (_, obj) =>
      codec.fromJson platform obj

namespace MessageClass

/-- `instance::fromJson<T>` returns an instance. -/
def Returns
    (platform : Platform)
    (cls : MessageClass)
    (json : Tree) : Prop :=
  ∃ message, Instance.fromJson cls.codec platform json = .ok (some message)

/--
An instance of a class is returned only for the tag of the class, which is the
class that a visitor's table has under the tag, if it has the class at all.
-/
structure RespectsTag
    (platform : Platform)
    (cls : MessageClass)
    (json : Tree) : Prop where
  tagged :
    cls.Returns platform json →
    ∃ obj, extractFrom json = some (cls.codec.TYPE, obj)
  selected :
    cls.Returns platform json →
    ∀ {Result : Type} (visitor : TableVisitor Result),
      cls ∈ visitor.classes →
      ∃ type obj entry,
        extractFrom json = some (type, obj) ∧
          visitor.propMap type = some entry ∧ entry.cls = cls

/--
Whatever tag and object the tree has, the tag is that of the class or the
object lacks a field that the class requires.
-/
def TaggedOrIncomplete (cls : MessageClass) (json : Tree) : Prop :=
  ∀ type obj,
    extractFrom json = some (type, obj) →
    type = cls.codec.TYPE ∨ ¬ cls.codec.Complete obj

/-- An instance is returned for an object that has the required fields. -/
theorem returns_iff
    (platform : Platform)
    (cls : MessageClass)
    (json : Tree) :
    cls.Returns platform json ↔
      ∃ type obj,
        extractFrom json = some (type, obj) ∧
          cls.codec.Complete obj := by
  unfold Returns Instance.fromJson
  cases extractFrom json with
  | none =>
      simp
  | some params =>
      rcases params with ⟨type, obj⟩
      have decodes := decodes_iff platform obj cls
      unfold Codec.Decodes at decodes
      simp only [decodes, Option.some.injEq, Prod.mk.injEq]
      constructor
      · intro complete
        exact ⟨type, obj, ⟨rfl, rfl⟩, complete⟩
      · rintro ⟨_, _, ⟨rfl, rfl⟩, complete⟩
        exact complete

/-- A table has its classes under their own tags. -/
theorem propMap_TYPE
    {Result : Type}
    (visitor : TableVisitor Result)
    {cls : MessageClass}
    (member : cls ∈ visitor.classes) :
    ∃ entry,
      visitor.propMap cls.codec.TYPE = some entry ∧ entry.cls = cls := by
  obtain ⟨listed, inEntries, rfl⟩ := List.mem_map.mp member
  cases found : visitor.propMap listed.cls.codec.TYPE with
  | none =>
      have different := List.find?_eq_none.mp found listed inEntries
      simp at different
  | some entry =>
      refine ⟨entry, rfl, TYPE_injective ?_⟩
      simpa using List.find?_some found

/-- The tag is respected unless an object of another class is complete. -/
theorem respectsTag_iff
    (platform : Platform)
    (cls : MessageClass)
    (json : Tree) :
    cls.RespectsTag platform json ↔ cls.TaggedOrIncomplete json := by
  constructor
  · intro respects type obj parts
    by_cases complete : cls.codec.Complete obj
    · left
      obtain ⟨other, tagged⟩ :=
        respects.tagged ((returns_iff platform cls json).mpr
          ⟨type, obj, parts, complete⟩)
      rw [parts, Option.some.injEq, Prod.mk.injEq] at tagged
      exact tagged.1
    · exact .inr complete
  · intro tagged
    have isTagged :
        cls.Returns platform json →
        ∃ obj, extractFrom json = some (cls.codec.TYPE, obj) := by
      intro returns
      obtain ⟨type, obj, parts, complete⟩ :=
        (returns_iff platform cls json).mp returns
      rcases tagged type obj parts with rfl | incomplete
      · exact ⟨obj, parts⟩
      · exact (incomplete complete).elim
    refine ⟨isTagged, ?_⟩
    intro returns Result visitor member
    obtain ⟨obj, parts⟩ := isTagged returns
    obtain ⟨entry, found, same⟩ := propMap_TYPE visitor member
    exact ⟨_, obj, entry, parts, found, same⟩

/-! ### Objects of one class decoded as another -/

/-- The fields that the second class requires are fields of the first. -/
def CoveredBy (first second : MessageClass) : Prop :=
  second = .requestLogin ∨
    first = .responseMessage ∧ second = .requestMessage

instance (first second : MessageClass) :
    Decidable (CoveredBy first second) :=
  inferInstanceAs (Decidable (_ ∨ _))

/-- A message is written with the fields that its class requires. -/
theorem find_subToJson
    (platform : Platform)
    (cls : MessageClass)
    (message : cls.Object)
    (key : Bytes) :
    ((cls.codec.subToJson platform message).find key).isSome = true ↔
      key ∈ cls.codec.required := by
  have nothing :
      ((PropertyTree.empty : Tree).find key).isSome = false :=
    rfl
  cases cls <;>
    simp only [codec, Request.Login.subToJson, Request.Message.subToJson,
      Response.Login.subToJson, Response.Message.subToJson,
      Response.Error.subToJson, Instance.baseJson,
      PropertyTree.isSome_find_put, nothing, Bool.false_eq_true,
      List.mem_cons, List.not_mem_nil] <;>
    grind

/-- Whether one class covers another shows in the keys they require. -/
theorem coveredBy_iff
    {first second : MessageClass}
    (different : first ≠ second) :
    CoveredBy first second ↔
      ∀ key ∈ second.codec.required, key ∈ first.codec.required := by
  cases first <;> cases second <;>
    first
      | exact absurd rfl different
      | decide

/-- Which objects of other classes are complete for a class. -/
theorem complete_subToJson_iff
    (platform : Platform)
    {first second : MessageClass}
    (different : first ≠ second)
    (message : first.Object) :
    second.codec.Complete (first.codec.subToJson platform message) ↔
      CoveredBy first second := by
  rw [coveredBy_iff different]
  constructor
  · intro complete key isRequired
    exact (find_subToJson platform first message key).mp
      (complete.found key isRequired)
  · intro covered
    refine ⟨?_, ?_⟩
    · intro key isRequired
      exact (find_subToJson platform first message key).mpr
        (covered key isRequired)
    · -- A class with a number is covered by no other.
      have noNumber : second.codec.numbers = [] := by
        have isCovered := (coveredBy_iff different).mpr covered
        rcases isCovered with rfl | ⟨rfl, rfl⟩ <;> rfl
      simp [noNumber]

/-- A message is decoded as another class exactly if it covers that class. -/
theorem returns_toJson_iff
    (platform : Platform)
    {first second : MessageClass}
    (different : first ≠ second)
    (message : first.Object) :
    second.Returns platform (first.codec.toJson platform message) ↔
      CoveredBy first second := by
  rw [returns_iff, Codec.extractFrom_toJson,
    ← complete_subToJson_iff platform different message]
  constructor
  · rintro ⟨_, _, parts, complete⟩
    cases parts
    exact complete
  · intro complete
    exact ⟨_, _, rfl, complete⟩

/--
`instance::fromJson<T>` respects the tag of a tree exactly if the tag is that
of `T` or the object is not complete for `T`; an instance of another class is
refused exactly if `T` is not the class of logins, and not that of requests
with a message while the instance is a response with a message.
-/
theorem typed_decoding_iff
    (platform : Platform) :
    (∀ cls json,
        RespectsTag platform cls json ↔ TaggedOrIncomplete cls json) ∧
      ∀ first second : MessageClass,
        first ≠ second →
        ∀ message : first.Object,
          (¬ second.Returns platform
              (first.codec.toJson platform message) ↔
            ¬ CoveredBy first second) := by
  refine ⟨respectsTag_iff platform, ?_⟩
  intro first second different message
  exact not_congr (returns_toJson_iff platform different message)

/-- A message of a client is decoded as a login. -/
theorem message_decoded_as_login :
    let json :=
      (codec .requestMessage).toJson epochPlatform
        ⟨0, ascii "ann", ascii "hello"⟩
    Instance.fromJson (codec .requestLogin) epochPlatform json =
        .ok (some ⟨0, ascii "ann"⟩) ∧
      ¬ RespectsTag epochPlatform .requestLogin json := by
  intro json
  have decoded :
      Instance.fromJson (codec .requestLogin) epochPlatform json =
        .ok (some ⟨0, ascii "ann"⟩) := by
    rfl
  refine ⟨decoded, ?_⟩
  intro respects
  obtain ⟨obj, tagged⟩ := respects.tagged ⟨_, decoded⟩
  rw [Codec.extractFrom_toJson, Option.some.injEq,
    Prod.mk.injEq] at tagged
  exact absurd (TYPE_injective tagged.1) (by decide)

end MessageClass

end ChatRelay

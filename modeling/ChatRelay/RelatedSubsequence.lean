import Mathlib.Data.List.Forall2

namespace ChatRelay.RelatedSubsequence

/-!
# Related subsequences

`List.SublistForall₂` relates the items of a list, one by one and in order, to
items of another list.  Such relations compose along a chain of lists, and
survive when both lists are filtered alike.
-/

open List (Forall₂ Sublist SublistForall₂)

variable {First Second Third : Type}
variable {Related : First → Second → Prop}
variable {firsts : List First} {seconds : List Second}

/-- One relation after another. -/
theorem comp
    {Next : Second → Third → Prop}
    {Both : First → Third → Prop}
    {thirds : List Third}
    (both :
      ∀ first second third,
        Related first second → Next second third → Both first third)
    (related : SublistForall₂ Related firsts seconds)
    (next : SublistForall₂ Next seconds thirds) :
    SublistForall₂ Both firsts thirds := by
  induction next generalizing firsts with
  | nil =>
      cases related with
      | nil =>
          exact .nil
  | cons head tail inductionHypothesis =>
      cases related with
      | nil =>
          exact .nil
      | cons first rest =>
          exact .cons (both _ _ _ first head) (inductionHypothesis rest)
      | cons_right rest =>
          exact .cons_right (inductionHypothesis rest)
  | cons_right tail inductionHypothesis =>
      exact .cons_right (inductionHypothesis related)

/-- Fewer items are related to more of them. -/
theorem mono
    {fewer : List First}
    {more : List Second}
    (isFewer : fewer.Sublist firsts)
    (related : SublistForall₂ Related firsts seconds)
    (isMore : seconds.Sublist more) :
    SublistForall₂ Related fewer more := by
  have front : SublistForall₂ Eq fewer firsts :=
    isFewer.sublistForall₂
  have back : SublistForall₂ Eq seconds more :=
    isMore.sublistForall₂
  have middle : SublistForall₂ Related fewer seconds := by
    refine @comp _ _ _ Eq fewer firsts Related Related seconds ?_
      front related
    rintro first _ second rfl isRelated
    exact isRelated
  refine @comp _ _ _ Related fewer seconds Eq Related more ?_ middle back
  rintro first second _ isRelated rfl
  exact isRelated

/-- Lists that are related one by one. -/
theorem of_forall₂
    (related : Forall₂ Related firsts seconds) :
    SublistForall₂ Related firsts seconds :=
  List.sublistForall₂_iff.mpr ⟨seconds, related, List.Sublist.refl _⟩

/-- Related items are kept or dropped together. -/
theorem filter
    {keepFirst : First → Bool}
    {keepSecond : Second → Bool}
    (alike :
      ∀ first second,
        Related first second → keepFirst first = keepSecond second)
    (related : SublistForall₂ Related firsts seconds) :
    SublistForall₂ Related (firsts.filter keepFirst)
      (seconds.filter keepSecond) := by
  induction related with
  | nil =>
      exact .nil
  | @cons first second _ _ head tail inductionHypothesis =>
      rw [List.filter_cons, List.filter_cons, alike first second head]
      split
      · exact .cons head inductionHypothesis
      · exact inductionHypothesis
  | cons_right tail inductionHypothesis =>
      rw [List.filter_cons]
      split
      · exact .cons_right inductionHypothesis
      · exact inductionHypothesis

/-- What is found in the items of a list comes in the order of the items. -/
theorem of_filterMap
    {Found : Type}
    (find? : First → Option Found)
    (items : List First) :
    SublistForall₂ (fun found item => find? item = some found)
      (items.filterMap find?) items := by
  induction items with
  | nil =>
      exact .nil
  | cons item items inductionHypothesis =>
      cases isFound : find? item with
      | none =>
          rw [List.filterMap_cons_none isFound]
          exact .cons_right inductionHypothesis
      | some found =>
          rw [List.filterMap_cons_some isFound]
          exact .cons isFound inductionHypothesis

end ChatRelay.RelatedSubsequence

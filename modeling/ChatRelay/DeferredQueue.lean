import Mathlib.Data.List.Basic
import Mathlib.Data.List.Count
import Mathlib.Data.List.Nodup
import Mathlib.Data.List.Perm.Basic

namespace ChatRelay

/-!
# A queue that puts items off

Items are posted to a queue and leave it at its head: they are handled, or put
off to be posted again later, in the order in which they were put off.  The
laws say what this keeps and what it does not.  Nothing is lost or doubled, and
an item that was never put off stays in front of everything posted after it.
-/

/-- What can happen to the queue. -/
inductive QueueEvent (Item : Type) where
  | quiet : QueueEvent Item
  | post (item : Item) : QueueEvent Item
  | handle (item : Item) : QueueEvent Item
  | putOff (item : Item) : QueueEvent Item
  | repost (item : Item) : QueueEvent Item

namespace QueueEvent

variable {Item : Type}

/-- The item that an event posts for the first time. -/
def posted? : QueueEvent Item → Option Item
  | .post item =>
      some item
  | _ =>
      none

/-- The item that an event puts off. -/
def putOff? : QueueEvent Item → Option Item
  | .putOff item =>
      some item
  | _ =>
      none

end QueueEvent

/-- The items handled, those in the queue and those put off. -/
structure DeferredQueue (Item : Type) where
  handled : List Item
  waiting : List Item
  deferred : List Item

namespace DeferredQueue

open QueueEvent
open scoped List

variable {Item : Type}

/-- Everything that was posted, in order. -/
def posted (events : List (QueueEvent Item)) : List Item :=
  events.filterMap posted?

/-- Everything that was put off, as often as it was. -/
def putOffs (events : List (QueueEvent Item)) : List Item :=
  events.filterMap putOff?

/-- The steps of the queue. -/
inductive Step :
    DeferredQueue Item →
      QueueEvent Item →
      DeferredQueue Item → Prop where
  | quiet
      (queue : DeferredQueue Item) :
      Step queue .quiet queue
  | post
      (handled waiting deferred : List Item)
      (item : Item) :
      Step ⟨handled, waiting, deferred⟩ (.post item)
        ⟨handled, waiting ++ [item], deferred⟩
  | handle
      (handled waiting deferred : List Item)
      (item : Item) :
      Step ⟨handled, item :: waiting, deferred⟩ (.handle item)
        ⟨handled ++ [item], waiting, deferred⟩
  | putOff
      (handled waiting deferred : List Item)
      (item : Item) :
      Step ⟨handled, item :: waiting, deferred⟩ (.putOff item)
        ⟨handled, waiting, deferred ++ [item]⟩
  | repost
      (handled waiting deferred : List Item)
      (item : Item) :
      Step ⟨handled, waiting, item :: deferred⟩ (.repost item)
        ⟨handled, waiting ++ [item], deferred⟩

/-- Handled items followed by those in the queue, in the order they leave it. -/
def line (queue : DeferredQueue Item) : List Item :=
  queue.handled ++ queue.waiting

/-- What is in the queue or put off was so before, or has just been posted. -/
theorem Step.pending
    {queue next : DeferredQueue Item}
    {event : QueueEvent Item}
    (step : Step queue event next)
    {item : Item}
    (isPending : item ∈ next.waiting ++ next.deferred) :
    item ∈ queue.waiting ++ queue.deferred ∨
      event.posted? = some item := by
  cases step with
  | quiet =>
      exact Or.inl isPending
  | post handled waiting deferred new =>
      simp only [List.append_assoc, List.mem_append,
        List.mem_singleton] at isPending
      rcases isPending with before | rfl | before
      · exact Or.inl (List.mem_append_left _ before)
      · exact Or.inr rfl
      · exact Or.inl (List.mem_append_right _ before)
  | handle handled waiting deferred head =>
      exact Or.inl (List.mem_cons_of_mem head isPending)
  | putOff handled waiting deferred head =>
      refine Or.inl (List.Perm.subset ?_ isPending)
      rw [← List.append_assoc]
      exact List.perm_append_comm
  | repost handled waiting deferred head =>
      refine Or.inl (List.Perm.subset ?_ isPending)
      rw [List.append_assoc]
      exact .refl _

/-- Everything in the queue was there before, or has just been posted. -/
theorem Step.mem
    {queue next : DeferredQueue Item}
    {event : QueueEvent Item}
    (step : Step queue event next)
    {item : Item}
    (isThere : item ∈ next.line ++ next.deferred) :
    item ∈ queue.line ++ queue.deferred ∨
      event.posted? = some item := by
  cases step with
  | quiet =>
      exact Or.inl isThere
  | post handled waiting deferred new =>
      simp only [line, List.mem_append, List.mem_singleton] at isThere ⊢
      rcases isThere with (before | before | rfl) | before
      · exact Or.inl (Or.inl (Or.inl before))
      · exact Or.inl (Or.inl (Or.inr before))
      · exact Or.inr rfl
      · exact Or.inl (Or.inr before)
  | handle handled waiting deferred head =>
      simp only [line, List.mem_append, List.mem_cons,
        List.not_mem_nil, or_false] at isThere ⊢
      tauto
  | putOff handled waiting deferred head =>
      simp only [line, List.mem_append, List.mem_cons,
        List.not_mem_nil, or_false] at isThere ⊢
      tauto
  | repost handled waiting deferred head =>
      simp only [line, List.mem_append, List.mem_cons,
        List.not_mem_nil, or_false] at isThere ⊢
      tauto

/-! ### Lists and histories -/

section Lists

variable
  {events : List (QueueEvent Item)}
  {event : QueueEvent Item}

theorem posted_concat :
    posted (events ++ [event]) =
      posted events ++ (posted? event).toList := by
  unfold posted
  rw [List.filterMap_append]
  cases event <;> rfl

/-- An event that posts nothing adds nothing. -/
theorem posted_concat_same
    (events : List (QueueEvent Item))
    {event : QueueEvent Item}
    (noPost : event.posted? = none) :
    posted (events ++ [event]) = posted events := by
  rw [posted_concat, noPost]
  exact List.append_nil _

theorem putOffs_concat :
    putOffs (events ++ [event]) =
      putOffs events ++ (putOff? event).toList := by
  unfold putOffs
  rw [List.filterMap_append]
  cases event <;> rfl

/-- Two items in front of a new one stand as they did without it. -/
theorem pair_sublist_of_concat
    {items : List Item}
    {first second new : Item}
    (present : second ∈ items)
    (fresh : new ∉ items)
    (ordered : [first, second] <+ items ++ [new]) :
    [first, second] <+ items := by
  have different : second ≠ new := by
    rintro rfl
    exact fresh present
  have reversed :
      [second, first] <+ new :: items.reverse := by
    simpa using ordered.reverse
  cases reversed with
  | cons _ rest =>
      simpa using rest.reverse
  | cons_cons _ _ =>
      exact (different rfl).elim

/-- Of two different items of a list one stands in front of the other. -/
theorem pair_sublist_or
    {items : List Item}
    {first second : Item}
    (firstIn : first ∈ items)
    (secondIn : second ∈ items)
    (different : first ≠ second) :
    [first, second] <+ items ∨ [second, first] <+ items := by
  induction items with
  | nil =>
      contradiction
  | cons head rest inductionHypothesis =>
      rcases List.mem_cons.mp firstIn with rfl | firstRest
      · have secondRest :=
          (List.mem_cons.mp secondIn).resolve_left different.symm
        exact Or.inl
          ((List.singleton_sublist.mpr secondRest).cons_cons first)
      · rcases List.mem_cons.mp secondIn with rfl | secondRest
        · exact Or.inr
            ((List.singleton_sublist.mpr firstRest).cons_cons second)
        · rcases inductionHypothesis firstRest secondRest with
            ordered | ordered
          · exact Or.inl (ordered.cons head)
          · exact Or.inr (ordered.cons head)

/-- A new item comes between those in front and those behind. -/
theorem pairwise_insert
    {Old New : Item → Item → Prop}
    {front back : List Item}
    {new : Item}
    (old : (front ++ back).Pairwise Old)
    (keeps :
      ∀ ahead ∈ front ++ back,
        ∀ behind ∈ front ++ back, Old ahead behind → New ahead behind)
    (inFront : ∀ ahead ∈ front, New ahead new)
    (inBack : ∀ behind ∈ back, New new behind) :
    (front ++ [new] ++ back).Pairwise New := by
  have kept : (front ++ back).Pairwise New :=
    old.imp_of_mem fun isAhead isBehind =>
      keeps _ isAhead _ isBehind
  obtain ⟨fronts, backs, across⟩ := List.pairwise_append.mp kept
  rw [List.append_assoc]
  refine List.pairwise_append.mpr
    ⟨fronts, List.pairwise_cons.mpr ⟨inBack, backs⟩, ?_⟩
  intro ahead isAhead behind isBehind
  rcases List.mem_cons.mp isBehind with rfl | isBack
  · exact inFront ahead isAhead
  · exact across ahead isAhead behind isBack

/-- An item goes behind all the others. -/
theorem pairwise_rotate
    {Old New : Item → Item → Prop}
    {front rest : List Item}
    {item : Item}
    (old : (front ++ item :: rest).Pairwise Old)
    (distinct : (front ++ item :: rest).Nodup)
    (keeps :
      ∀ ahead behind,
        ahead ≠ item →
        behind ≠ item →
        Old ahead behind →
        New ahead behind)
    (last : ∀ other ∈ front ++ rest, New other item) :
    (front ++ rest ++ [item]).Pairwise New := by
  have fewer : front ++ rest <+ front ++ item :: rest :=
    (List.Sublist.refl front).append (List.sublist_cons_self ..)
  have notItem : item ∉ front ++ rest :=
    (List.nodup_cons.mp (List.nodup_middle.mp distinct)).1
  have different : ∀ other ∈ front ++ rest, other ≠ item := by
    rintro other isOther rfl
    exact notItem isOther
  refine List.pairwise_append.mpr
    ⟨(old.sublist fewer).imp_of_mem ?_, List.pairwise_singleton _ _, ?_⟩
  · intro ahead behind isAhead isBehind
    exact keeps _ _ (different _ isAhead) (different _ isBehind)
  · intro other isOther _ isItem
    rw [List.mem_singleton.mp isItem]
    exact last other isOther

end Lists

/-! ### The laws -/

section Laws

variable [DecidableEq Item]

/-- How often an item has been put off. -/
def laps (events : List (QueueEvent Item)) (item : Item) : Nat :=
  (putOffs events).count item

/-- An item is ahead of one that was posted before it only by a lap. -/
def AheadByLap
    (events : List (QueueEvent Item))
    (ahead behind : Item) : Prop :=
  [behind, ahead] <+ posted events →
  laps events ahead < laps events behind

/-- An item that comes first in the ring is no lap ahead of a later one. -/
def AtMostLevel
    (events : List (QueueEvent Item))
    (ahead behind : Item) : Prop :=
  [ahead, behind] <+ posted events →
  laps events behind ≤ laps events ahead

/-- What the history says about the queue. -/
structure Invariant
    (events : List (QueueEvent Item))
    (queue : DeferredQueue Item) : Prop where
  distinct : (posted events).Nodup
  conserved :
    (queue.line ++ queue.deferred).Perm (posted events)
  onlyPosted :
    ∀ item ∈ putOffs events, item ∈ posted events
  putOff :
    ∀ item ∈ queue.deferred, 0 < laps events item
  ordered :
    (queue.line ++ queue.deferred).Pairwise (AheadByLap events)
  ring :
    (queue.waiting ++ queue.deferred).Pairwise (AtMostLevel events)

section Steps

variable
  {events : List (QueueEvent Item)}
  {queue next : DeferredQueue Item}
  {event : QueueEvent Item}

/-- Only the item that an event puts off falls behind. -/
theorem laps_concat
    (events : List (QueueEvent Item))
    (event : QueueEvent Item)
    (item : Item) :
    laps (events ++ [event]) item =
      laps events item + (putOff? event).toList.count item := by
  rw [laps, putOffs_concat, List.count_append]
  rfl

theorem laps_concat_same
    (events : List (QueueEvent Item))
    {event : QueueEvent Item}
    {item : Item}
    (notPutOff : event.putOff? ≠ some item) :
    laps (events ++ [event]) item = laps events item := by
  rw [laps_concat, List.count_eq_zero.mpr, Nat.add_zero]
  exact fun isItem => notPutOff (Option.mem_toList.mp isItem)

theorem laps_le_concat
    (events : List (QueueEvent Item))
    (event : QueueEvent Item)
    (item : Item) :
    laps events item ≤ laps (events ++ [event]) item := by
  rw [laps_concat]
  exact Nat.le_add_right _ _

theorem laps_putOff
    (events : List (QueueEvent Item))
    (item : Item) :
    laps (events ++ [.putOff item]) item = laps events item + 1 := by
  rw [laps_concat, putOff?, Option.toList_some, List.count_singleton_self]

theorem Invariant.initial :
    Invariant ([] : List (QueueEvent Item)) ⟨[], [], []⟩ where
  distinct := .nil
  conserved := .refl _
  onlyPosted := by
    intro item inNothing
    contradiction
  putOff := by
    intro item inNothing
    contradiction
  ordered := .nil
  ring := .nil

/-- A posted item goes behind everything that was posted before. -/
theorem Invariant.post
    {handled waiting deferred : List Item}
    {item : Item}
    (invariant : Invariant events ⟨handled, waiting, deferred⟩)
    (fresh : item ∉ posted events) :
    Invariant (events ++ [.post item])
      ⟨handled, waiting ++ [item], deferred⟩ := by
  have isPosted :
      ∀ other ∈ (handled ++ waiting) ++ deferred,
        other ∈ posted events :=
    fun other isThere => invariant.conserved.subset isThere
  have inRing :
      ∀ other ∈ waiting ++ deferred,
        other ∈ (handled ++ waiting) ++ deferred := by
    intro other isThere
    rw [List.append_assoc]
    exact List.mem_append_right _ isThere
  have samePosted :
      posted (events ++ [.post item]) = posted events ++ [item] :=
    posted_concat
  have sameLaps (other : Item) :
      laps (events ++ [.post item]) other = laps events other :=
    laps_concat_same events nofun
  have noLap : laps events item = 0 :=
    List.count_eq_zero.mpr fun inPutOffs =>
      fresh (invariant.onlyPosted item inPutOffs)
  have notFirst :
      ∀ other ∈ posted events,
        ¬ [item, other] <+ posted events ++ [item] := by
    intro other isOld inOrder
    have old := pair_sublist_of_concat isOld fresh inOrder
    exact fresh (old.subset List.mem_cons_self)
  refine ⟨?_, ?_, ?_, ?_, ?_, ?_⟩
  · rw [samePosted]
    exact List.nodup_append.mpr
      ⟨invariant.distinct, List.nodup_singleton item, by
        rintro other isOld _ isNew rfl
        exact fresh (List.mem_singleton.mp isNew ▸ isOld)⟩
  · rw [samePosted]
    have rearranged :
        ((handled ++ (waiting ++ [item])) ++ deferred).Perm
          ((handled ++ waiting ++ deferred) ++ [item]) := by
      rw [← List.append_assoc, List.append_assoc _ [item] deferred]
      exact (List.perm_append_comm.append_left _).trans
        (by rw [List.append_assoc _ deferred])
    exact rearranged.trans (invariant.conserved.append_right [item])
  · rw [samePosted, putOffs_concat]
    intro other inPutOffs
    exact List.mem_append_left _
      (invariant.onlyPosted other (by simpa [putOff?] using inPutOffs))
  · intro other inDeferred
    rw [sameLaps]
    exact invariant.putOff other inDeferred
  · show ((handled ++ (waiting ++ [item])) ++ deferred).Pairwise _
    rw [← List.append_assoc handled]
    refine pairwise_insert invariant.ordered ?_ ?_ ?_
    · intro ahead isAhead behind _ byLap inOrder
      rw [sameLaps, sameLaps]
      rw [samePosted] at inOrder
      exact byLap
        (pair_sublist_of_concat (isPosted ahead isAhead) fresh inOrder)
    · intro ahead isAhead inOrder
      rw [samePosted] at inOrder
      exact (notFirst ahead
        (isPosted ahead (List.mem_append_left _ isAhead)) inOrder).elim
    · intro behind isBehind _
      rw [sameLaps, sameLaps, noLap]
      exact invariant.putOff behind isBehind
  · refine pairwise_insert invariant.ring ?_ ?_ ?_
    · intro ahead _ behind isBehind level inOrder
      rw [sameLaps, sameLaps]
      rw [samePosted] at inOrder
      exact level
        (pair_sublist_of_concat (isPosted behind (inRing behind isBehind))
          fresh inOrder)
    · intro ahead _ _
      rw [sameLaps, sameLaps, noLap]
      exact Nat.zero_le _
    · intro behind isBehind inOrder
      rw [samePosted] at inOrder
      exact (notFirst behind
        (isPosted behind (List.mem_append_right _ isBehind))
        inOrder).elim

/-- The laws survive when nothing is posted or put off, and the ring shrinks. -/
theorem Invariant.keep
    (invariant : Invariant events queue)
    (noPost : event.posted? = none)
    (noPutOff : event.putOff? = none)
    (same : next.line ++ next.deferred = queue.line ++ queue.deferred)
    (ring :
      next.waiting ++ next.deferred <+ queue.waiting ++ queue.deferred)
    (deferred : next.deferred ⊆ queue.deferred) :
    Invariant (events ++ [event]) next := by
  have samePosted := posted_concat_same events noPost
  have samePutOffs : putOffs (events ++ [event]) = putOffs events := by
    rw [putOffs_concat, noPutOff]
    exact List.append_nil _
  refine ⟨?_, ?_, ?_, ?_, ?_, ?_⟩
  · rw [samePosted]
    exact invariant.distinct
  · rw [samePosted, same]
    exact invariant.conserved
  · rw [samePosted, samePutOffs]
    exact invariant.onlyPosted
  · unfold laps
    rw [samePutOffs]
    exact fun item inDeferred => invariant.putOff item (deferred inDeferred)
  · unfold AheadByLap laps
    rw [samePosted, samePutOffs, same]
    exact invariant.ordered
  · unfold AtMostLevel laps
    rw [samePosted, samePutOffs]
    exact invariant.ring.sublist ring

/-- An item that is put off goes to the end of the ring, a lap behind. -/
theorem Invariant.fallBehind
    {handled waiting deferred : List Item}
    {item : Item}
    (invariant : Invariant events ⟨handled, item :: waiting, deferred⟩) :
    Invariant (events ++ [.putOff item])
      ⟨handled, waiting, deferred ++ [item]⟩ := by
  have samePosted :
      posted (events ++ [.putOff item]) = posted events :=
    posted_concat_same events rfl
  have more := laps_le_concat events (.putOff item)
  have sameLaps {other : Item} (different : other ≠ item) :
      laps (events ++ [.putOff item]) other = laps events other :=
    laps_concat_same events fun same =>
      different (Option.some.inj same).symm
  have oneMore := laps_putOff events item
  have shape :
      (handled ++ item :: waiting) ++ deferred =
        handled ++ item :: (waiting ++ deferred) := by
    simp
  have distinct :
      (handled ++ item :: (waiting ++ deferred)).Nodup := by
    rw [← shape]
    exact invariant.conserved.nodup_iff.mpr invariant.distinct
  have ordered :
      (handled ++ item :: (waiting ++ deferred)).Pairwise
        (AheadByLap events) := by
    rw [← shape]
    exact invariant.ordered
  have notItem : item ∉ handled ++ (waiting ++ deferred) :=
    (List.nodup_cons.mp (List.nodup_middle.mp distinct)).1
  have different : ∀ other ∈ handled ++ (waiting ++ deferred),
      other ≠ item := by
    rintro other isOther rfl
    exact notItem isOther
  obtain ⟨_, orderedRing, across⟩ := List.pairwise_append.mp ordered
  have byLap := (List.pairwise_cons.mp orderedRing).1
  have level := (List.pairwise_cons.mp invariant.ring).1
  refine ⟨?_, ?_, ?_, ?_, ?_, ?_⟩
  · rw [samePosted]
    exact invariant.distinct
  · rw [samePosted]
    refine List.Perm.trans ?_ invariant.conserved
    show ((handled ++ waiting) ++ (deferred ++ [item])).Perm
      ((handled ++ item :: waiting) ++ deferred)
    rw [shape, List.append_assoc, ← List.append_assoc waiting]
    exact (List.perm_append_singleton _ _).append_left handled
  · rw [samePosted, putOffs_concat]
    intro other inPutOffs
    rcases List.mem_append.mp inPutOffs with before | isItem
    · exact invariant.onlyPosted other before
    · obtain rfl := List.mem_singleton.mp isItem
      exact invariant.conserved.subset (by simp [line])
  · intro other inDeferred
    rcases List.mem_append.mp inDeferred with before | isItem
    · exact Nat.lt_of_lt_of_le (invariant.putOff other before) (more other)
    · rw [List.mem_singleton.mp isItem, oneMore]
      exact Nat.succ_pos _
  · show ((handled ++ waiting) ++ (deferred ++ [item])).Pairwise _
    rw [← List.append_assoc, List.append_assoc handled]
    refine pairwise_rotate ordered distinct ?_ ?_
    · intro ahead behind notAhead notBehind aheadByLap inOrder
      rw [samePosted] at inOrder
      rw [sameLaps notAhead, sameLaps notBehind]
      exact aheadByLap inOrder
    · intro other isOther inOrder
      rw [samePosted] at inOrder
      rw [sameLaps (different other isOther), oneMore]
      rcases List.mem_append.mp isOther with isHandled | inRing
      · exact Nat.lt_succ_of_lt
          (across other isHandled item List.mem_cons_self inOrder)
      · exact Nat.lt_succ_of_le (level other inRing inOrder)
  · show (waiting ++ (deferred ++ [item])).Pairwise _
    rw [← List.append_assoc]
    refine @pairwise_rotate _ _ _ [] _ _ invariant.ring ?_ ?_ ?_
    · exact (List.nodup_append.mp distinct).2.1
    · intro ahead behind notAhead notBehind atMostLevel inOrder
      rw [samePosted] at inOrder
      rw [sameLaps notAhead, sameLaps notBehind]
      exact atMostLevel inOrder
    · intro other inRing inOrder
      rw [samePosted] at inOrder
      rw [oneMore,
        sameLaps (different other (List.mem_append_right _ inRing))]
      exact byLap other inRing inOrder

/-- Every step keeps the laws, if what it posts is new. -/
theorem Invariant.step
    (invariant : Invariant events queue)
    (fresh : ∀ item, event = .post item → item ∉ posted events)
    (step : Step queue event next) :
    Invariant (events ++ [event]) next := by
  cases step with
  | quiet =>
      exact invariant.keep rfl rfl rfl (List.Sublist.refl _) fun _ => id
  | post handled waiting deferred item =>
      exact invariant.post (fresh item rfl)
  | handle handled waiting deferred item =>
      refine invariant.keep rfl rfl ?_ ?_ fun _ => id
      · simp [line]
      · exact List.sublist_cons_self ..
  | putOff handled waiting deferred item =>
      exact invariant.fallBehind
  | repost handled waiting deferred item =>
      refine invariant.keep rfl rfl ?_ ?_ (List.subset_cons_self _ _)
      · simp [line]
      · simp

end Steps

/--
Two items are handled in the order in which they were posted, unless the first
one has been put off more often than the second one.
-/
theorem Invariant.overtaken
    {events : List (QueueEvent Item)}
    {queue : DeferredQueue Item}
    (invariant : Invariant events queue)
    {first second : Item}
    (inOrder : [first, second] <+ posted events)
    (secondHandled : second ∈ queue.handled) :
    [first, second] <+ queue.handled ∨
      laps events second < laps events first := by
  have different : first ≠ second :=
    invariant.distinct.forall_sublist inOrder
  have somewhere :
      first ∈ queue.handled ++ (queue.waiting ++ queue.deferred) := by
    rw [← List.append_assoc]
    exact invariant.conserved.symm.subset
      (inOrder.subset List.mem_cons_self)
  have ordered :
      (queue.handled ++ (queue.waiting ++ queue.deferred)).Pairwise
        (AheadByLap events) := by
    rw [← List.append_assoc]
    exact invariant.ordered
  obtain ⟨handled, _, across⟩ := List.pairwise_append.mp ordered
  rcases List.mem_append.mp somewhere with firstHandled | inRing
  · rcases pair_sublist_or firstHandled secondHandled different with
      kept | swapped
    · exact Or.inl kept
    · have byLap := List.pairwise_pair.mp (handled.sublist swapped)
      exact Or.inr (byLap inOrder)
  · exact Or.inr (across second secondHandled first inRing inOrder)

end Laws

end DeferredQueue

end ChatRelay

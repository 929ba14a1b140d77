import Mathlib.Logic.Relation
import Mathlib.Order.WellFounded

namespace ChatRelay.LockOrder

/-!
# Deadlock freedom from a lock order

A thread waits for another one when it requests a mutex that the other holds.
If every mutex that a thread holds is ranked below the one it requests, the
requested ranks rise along every chain of waiting threads: no chain returns to
its start, and where the ranks cannot rise forever, every chain ends at a thread
that does not wait.
-/

open Relation

variable {Thread Mutex Rank : Type}
variable (requests : Thread → Option Mutex)
variable (holder : Mutex → Option Thread)

/-- The first thread requests a mutex that the second one holds. -/
def WaitsFor (waiting holding : Thread) : Prop :=
  ∃ mutex,
    requests waiting = some mutex ∧ holder mutex = some holding

/-- A requested mutex is ranked above every mutex the thread holds. -/
def Ordered [LT Rank] (rank : Mutex → Rank) : Prop :=
  ∀ thread requested held,
    requests thread = some requested →
    holder held = some thread →
    rank held < rank requested

variable {requests holder}
variable [Preorder Rank] {rank : Mutex → Rank}

/-- Along a chain of waiting threads the requested ranks rise. -/
theorem Ordered.rank_lt
    (ordered : Ordered requests holder rank)
    {first last : Thread}
    (chain : TransGen (WaitsFor requests holder) first last)
    {firstMutex lastMutex : Mutex}
    (firstRequests : requests first = some firstMutex)
    (lastRequests : requests last = some lastMutex) :
    rank firstMutex < rank lastMutex := by
  induction chain generalizing lastMutex with
  | single waits =>
      obtain ⟨mutex, requested, held⟩ := waits
      obtain rfl := Option.some.inj (firstRequests.symm.trans requested)
      exact ordered _ _ _ lastRequests held
  | tail _ waits inductionHypothesis =>
      obtain ⟨mutex, requested, held⟩ := waits
      exact (inductionHypothesis requested).trans
        (ordered _ _ _ lastRequests held)

/-- No chain of waiting threads returns to its start. -/
theorem Ordered.acyclic
    (ordered : Ordered requests holder rank)
    (thread : Thread) :
    ¬ TransGen (WaitsFor requests holder) thread thread := by
  intro cycle
  obtain ⟨next, ⟨mutex, requested, _⟩, _⟩ := TransGen.head'_iff.mp cycle
  exact lt_irrefl _ (ordered.rank_lt cycle requested requested)

/-- No thread requests a mutex that it holds. -/
theorem Ordered.not_held
    (ordered : Ordered requests holder rank)
    {thread : Thread}
    {mutex : Mutex}
    (requested : requests thread = some mutex) :
    holder mutex ≠ some thread := by
  intro held
  exact ordered.acyclic thread (.single ⟨mutex, requested, held⟩)

/-- No two threads wait for each other. -/
theorem Ordered.not_mutual
    (ordered : Ordered requests holder rank)
    {first second : Thread}
    (waits : WaitsFor requests holder first second) :
    ¬ WaitsFor requests holder second first := by
  intro back
  exact ordered.acyclic first (.tail (.single waits) back)

/-- Every chain of waiting threads ends at one that does not wait. -/
theorem Ordered.exists_ready
    [WellFoundedGT Rank]
    (ordered : Ordered requests holder rank)
    (thread : Thread) :
    ∃ ready,
      ReflTransGen (WaitsFor requests holder) thread ready ∧
        ∀ other, ¬ WaitsFor requests holder ready other := by
  -- The induction is on the rank that the thread requests, from above.
  have rising :
      ∀ (value : Rank) (thread : Thread) (mutex : Mutex),
        requests thread = some mutex →
        rank mutex = value →
        ∃ ready,
          ReflTransGen (WaitsFor requests holder) thread ready ∧
            ∀ other, ¬ WaitsFor requests holder ready other := by
    intro value
    induction value using WellFoundedGT.induction with
    | ind value inductionHypothesis =>
        intro thread mutex requested ranked
        by_cases waiting :
            ∃ other, WaitsFor requests holder thread other
        · obtain ⟨other, waits⟩ := waiting
          cases requestsNext : requests other with
          | none =>
              refine ⟨other, .single waits, ?_⟩
              rintro third ⟨_, requests, _⟩
              rw [requestsNext] at requests
              contradiction
          | some next =>
              have higher : value < rank next :=
                ranked ▸
                  ordered.rank_lt (.single waits) requested requestsNext
              obtain ⟨ready, chain, free⟩ :=
                inductionHypothesis _ higher other next requestsNext rfl
              exact ⟨ready, .head waits chain, free⟩
        · exact ⟨thread, .refl, fun other waits => waiting ⟨other, waits⟩⟩
  cases requested : requests thread with
  | none =>
      refine ⟨thread, .refl, ?_⟩
      rintro other ⟨_, requests, _⟩
      rw [requested] at requests
      contradiction
  | some mutex =>
      exact rising _ thread mutex requested rfl

end ChatRelay.LockOrder

import ChatRelay.LabelledRun

namespace ChatRelay

/-!
# Runs that end

A run is complete when no label is enabled behind it.  If every step makes a
measure smaller, no run is longer than the measure of its first state, and
every run can be completed.
-/

namespace LabelledRun

variable {State Label : Type}

/-- No label is enabled. -/
def Complete
    (step? : State → Label → Option State)
    (state : State) : Prop :=
  ∀ label, step? state label = none

/-- Every step from a state that satisfies the invariant makes it smaller. -/
structure Decreases
    (step? : State → Label → Option State)
    (Holds : State → Prop)
    (measure : State → Nat) : Prop where
  preserved :
    ∀ {state label next},
      Holds state → step? state label = some next → Holds next
  smaller :
    ∀ {state label next},
      Holds state →
      step? state label = some next →
      measure next < measure state

variable
  {step? : State → Label → Option State}
  {Holds : State → Prop}
  {measure : State → Nat}
  (decreases : Decreases step? Holds measure)

include decreases

/-- A run has at most as many steps as the measure loses. -/
theorem Decreases.length_le
    {state final : State}
    {labels : List Label}
    (holds : Holds state)
    (accepted : run? step? state labels = some final) :
    labels.length + measure final ≤ measure state := by
  induction labels generalizing state with
  | nil =>
      obtain rfl : state = final :=
        Option.some.inj accepted
      simp
  | cons label rest inductionHypothesis =>
      obtain ⟨middle, taken, reached⟩ := run?_cons_eq_some.mp accepted
      have shorter :=
        inductionHypothesis (decreases.preserved holds taken) reached
      have smaller := decreases.smaller holds taken
      rw [List.length_cons]
      omega

/-- Every run can be completed. -/
theorem Decreases.exists_complete
    {state : State}
    (holds : Holds state) :
    ∃ labels final,
      run? step? state labels = some final ∧ Complete step? final := by
  induction size : measure state using Nat.strongRecOn
    generalizing state with
  | ind bound inductionHypothesis =>
      by_cases enabled : ∃ label next, step? state label = some next
      · obtain ⟨label, next, taken⟩ := enabled
        have smaller := decreases.smaller holds taken
        obtain ⟨labels, final, accepted, complete⟩ :=
          inductionHypothesis (measure next) (size ▸ smaller)
            (decreases.preserved holds taken) rfl
        exact ⟨label :: labels, final,
          run?_cons_eq_some.mpr ⟨next, taken, accepted⟩, complete⟩
      · refine ⟨[], state, rfl, ?_⟩
        intro label
        rw [Option.eq_none_iff_forall_ne_some]
        intro next taken
        exact enabled ⟨label, next, taken⟩

end LabelledRun

end ChatRelay

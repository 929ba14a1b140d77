import Mathlib.Data.List.Induction

namespace ChatRelay

/-!
# Runs of labelled step functions

A system is given by a partial step function: the label names the component
that moves together with every choice the environment makes, so that one label
has at most one successor.  A run is a list of labels, and the list doubles as
the history of the run.

The invariant rules below are stated over that history, because the properties
of interest relate the current state to what has already happened.  Nothing in
this module depends on a particular system.
-/

namespace LabelledRun

variable {State Label : Type}

/-- Execute a list of labels; `none` means that some label was not enabled. -/
def run?
    (step? : State → Label → Option State) :
    State → List Label → Option State
  | state, [] =>
      some state
  | state, label :: rest =>
      match step? state label with
      | none =>
          none
      | some next =>
          run? step? next rest

/-- A step that is taken when its guard holds. -/
def guarded
    (enabled : Prop)
    [Decidable enabled]
    (next : State) :
    Option State :=
  if enabled then
    some next
  else
    none

/-- A guarded step was taken from a state that satisfies the guard. -/
theorem guarded_eq_some
    {enabled : Prop}
    [Decidable enabled]
    {next taken : State} :
    guarded enabled next = some taken ↔
      enabled ∧ taken = next := by
  unfold guarded
  by_cases holds : enabled
  · simp [holds, eq_comm]
  · simp [holds]

/--
A property of histories and states holds in every state that the run passes
through, its first and last state included.
-/
def Always
    (step? : State → Label → Option State)
    (initial : State)
    (Holds : List Label → State → Prop)
    (labels : List Label) : Prop :=
  ∀ past future,
    labels = past ++ future →
    ∀ state,
      run? step? initial past = some state →
      Holds past state

/-- A condition holds of every step of the run, in the state before the step. -/
def EveryStep
    (step? : State → Label → Option State)
    (initial : State)
    (Meets : List Label → State → Label → Prop)
    (labels : List Label) : Prop :=
  ∀ past label future,
    labels = past ++ label :: future →
    ∀ state,
      run? step? initial past = some state →
      Meets past state label

/-- Check every step of a run on its way. -/
def checkSteps
    (step? : State → Label → Option State)
    (check : State → Label → Bool) :
    State → List Label → Bool
  | _, [] =>
      true
  | state, label :: rest =>
      check state label &&
        match step? state label with
        | none =>
            true
        | some next =>
            checkSteps step? check next rest

/-- What is read off the steps of a run, one by one. -/
def trace
    {Event : Type}
    (step? : State → Label → Option State)
    (read : State → Label → Event) :
    State → List Label → List Event
  | _, [] =>
      []
  | state, label :: rest =>
      read state label ::
        match step? state label with
        | none =>
            []
        | some next =>
            trace step? read next rest

section Rules

variable {step? : State → Label → Option State}
variable {initial : State}

@[simp] theorem run?_nil
    (state : State) :
    run? step? state [] = some state :=
  rfl

/-- A run that begins with a label takes that step first. -/
theorem run?_cons_eq_some
    {state final : State}
    {label : Label}
    {rest : List Label} :
    run? step? state (label :: rest) = some final ↔
      ∃ middle,
        step? state label = some middle ∧
          run? step? middle rest = some final := by
  simp only [run?]
  cases step? state label with
  | none =>
      simp
  | some middle =>
      simp

/-- Running a concatenation runs the two parts one after the other. -/
theorem run?_append
    (state : State)
    (first second : List Label) :
    run? step? state (first ++ second) =
      (run? step? state first).bind
        fun middle => run? step? middle second := by
  induction first generalizing state with
  | nil =>
      rfl
  | cons label rest inductionHypothesis =>
      simp only [List.cons_append, run?]
      cases step? state label with
      | none =>
          rfl
      | some next =>
          exact inductionHypothesis next

/-- A run of one more step is a run followed by a step. -/
theorem run?_concat
    (state : State)
    (labels : List Label)
    (label : Label) :
    run? step? state (labels ++ [label]) =
      (run? step? state labels).bind
        fun middle => step? middle label := by
  rw [run?_append]
  congr 1
  funext middle
  simp only [run?]
  cases step? middle label <;> rfl

/-- The state before the last step of a run. -/
theorem run?_concat_eq_some
    {state final : State}
    {labels : List Label}
    {label : Label}
    (accepted :
      run? step? state (labels ++ [label]) = some final) :
    ∃ middle,
      run? step? state labels = some middle ∧
        step? middle label = some final := by
  rw [run?_concat] at accepted
  exact Option.bind_eq_some_iff.mp accepted

/-- The last step of a run is read in the state before it. -/
theorem trace_concat
    {Event : Type}
    (read : State → Label → Event)
    {state middle : State}
    {labels : List Label}
    (accepted : run? step? state labels = some middle)
    (label : Label) :
    trace step? read state (labels ++ [label]) =
      trace step? read state labels ++ [read middle label] := by
  induction labels generalizing state with
  | nil =>
      cases accepted
      cases taken : step? middle label <;> simp [trace, taken]
  | cons first rest inductionHypothesis =>
      obtain ⟨next, taken, reached⟩ := run?_cons_eq_some.mp accepted
      simp only [List.cons_append, trace, taken,
        inductionHypothesis reached]

/-- Every prefix of a run is a run. -/
theorem run?_prefix
    {state final : State}
    {first second : List Label}
    (accepted :
      run? step? state (first ++ second) = some final) :
    ∃ middle,
      run? step? state first = some middle ∧
        run? step? middle second = some final := by
  rw [run?_append] at accepted
  exact Option.bind_eq_some_iff.mp accepted

/-- A projection that commutes with the steps commutes with the runs. -/
theorem run?_map
    {Other : Type}
    {otherStep? : Other → Label → Option Other}
    {project : State → Other}
    (commutes :
      ∀ state label,
        (step? state label).map project =
          otherStep? (project state) label)
    (state : State)
    (labels : List Label) :
    (run? step? state labels).map project =
      run? otherStep? (project state) labels := by
  induction labels generalizing state with
  | nil =>
      rfl
  | cons label rest inductionHypothesis =>
      simp only [run?]
      rw [← commutes]
      cases step? state label with
      | none =>
          rfl
      | some next =>
          exact inductionHypothesis next

/--
The invariant rule: what holds initially and is preserved by every step holds
after every run.  Histories grow at the end, so the induction peels off the
last label.
-/
theorem invariant
    {Holds : List Label → State → Prop}
    (base : Holds [] initial)
    (preserved :
      ∀ past state label next,
        run? step? initial past = some state →
        Holds past state →
        step? state label = some next →
        Holds (past ++ [label]) next)
    {labels : List Label}
    {final : State}
    (accepted : run? step? initial labels = some final) :
    Holds labels final := by
  induction labels using List.reverseRecOn generalizing final with
  | nil =>
      simp only [run?_nil, Option.some.injEq] at accepted
      subst final
      exact base
  | append_singleton past label inductionHypothesis =>
      obtain ⟨middle, before, last⟩ :=
        run?_concat_eq_some accepted
      exact preserved past middle label final before
        (inductionHypothesis before) last

/-- The invariant rule for a property of states alone. -/
theorem stateInvariant
    {Holds : State → Prop}
    (base : Holds initial)
    (preserved :
      ∀ state label next,
        Holds state →
        step? state label = some next →
        Holds next)
    {labels : List Label}
    {final : State}
    (accepted : run? step? initial labels = some final) :
    Holds final :=
  @invariant State Label step? initial
    (fun _ state => Holds state)
    base
    (fun _ state label next _ holds taken =>
      preserved state label next holds taken)
    labels final accepted

/-- What holds along a run holds in its last state. -/
theorem Always.final
    {Holds : List Label → State → Prop}
    {labels : List Label}
    {final : State}
    (always : Always step? initial Holds labels)
    (accepted : run? step? initial labels = some final) :
    Holds labels final :=
  always labels [] (List.append_nil labels).symm final accepted

/-- A condition on every step of a run holds of the steps of each prefix. -/
theorem EveryStep.of_append
    {Meets : List Label → State → Label → Prop}
    {first second : List Label}
    (every : EveryStep step? initial Meets (first ++ second)) :
    EveryStep step? initial Meets first := by
  intro past label future shape
  apply every past label (future ++ second)
  rw [shape, List.append_assoc, List.cons_append]

/-- A condition on every step of a run holds of its last step. -/
theorem EveryStep.last
    {Meets : List Label → State → Label → Prop}
    {past : List Label}
    {label : Label}
    {state : State}
    (every : EveryStep step? initial Meets (past ++ [label]))
    (accepted : run? step? initial past = some state) :
    Meets past state label :=
  every past label [] rfl state accepted

/-- A condition on labels alone holds of every step if it holds of each. -/
theorem EveryStep.of_labels
    {Meets : List Label → State → Label → Prop}
    {labels : List Label}
    (each :
      ∀ label ∈ labels,
        ∀ past state, Meets past state label) :
    EveryStep step? initial Meets labels := by
  intro past label future shape state _
  apply each
  rw [shape]
  exact List.mem_append_right past List.mem_cons_self

/-- Conditions that agree in every state of a run hold of the same runs. -/
theorem everyStep_congr
    {Meets Other : List Label → State → Label → Prop}
    (agree :
      ∀ past state label,
        run? step? initial past = some state →
        (Meets past state label ↔ Other past state label))
    {labels : List Label} :
    EveryStep step? initial Meets labels ↔
      EveryStep step? initial Other labels := by
  constructor
  · intro every past label future shape state reached
    exact (agree past state label reached).mp
      (every past label future shape state reached)
  · intro every past label future shape state reached
    exact (agree past state label reached).mpr
      (every past label future shape state reached)

/-- Conditions that agree at every step that is taken hold of the same runs. -/
theorem everyStep_congr_taken
    {Meets Other : List Label → State → Label → Prop}
    {labels : List Label}
    {final : State}
    (accepted : run? step? initial labels = some final)
    (agree :
      ∀ past state label next,
        run? step? initial past = some state →
        step? state label = some next →
        (Meets past state label ↔ Other past state label)) :
    EveryStep step? initial Meets labels ↔
      EveryStep step? initial Other labels := by
  have each :
      ∀ past label future,
        labels = past ++ label :: future →
        ∀ state,
          run? step? initial past = some state →
          (Meets past state label ↔ Other past state label) := by
    intro past label future shape state reached
    rw [shape] at accepted
    obtain ⟨middle, ranPast, ranRest⟩ := run?_prefix accepted
    obtain rfl := Option.some.inj (reached.symm.trans ranPast)
    obtain ⟨next, taken, _⟩ := run?_cons_eq_some.mp ranRest
    exact agree past state label next reached taken
  constructor
  · intro every past label future shape state reached
    exact (each past label future shape state reached).mp
      (every past label future shape state reached)
  · intro every past label future shape state reached
    exact (each past label future shape state reached).mpr
      (every past label future shape state reached)

/-- Two conditions hold of every step exactly if both do together. -/
theorem everyStep_and
    {Meets Other : List Label → State → Label → Prop}
    {labels : List Label} :
    EveryStep step? initial Meets labels ∧
        EveryStep step? initial Other labels ↔
      EveryStep step? initial
        (fun past state label =>
          Meets past state label ∧ Other past state label) labels := by
  constructor
  · rintro ⟨meets, other⟩ past label future shape state reached
    exact ⟨meets past label future shape state reached,
      other past label future shape state reached⟩
  · intro both
    exact ⟨fun past label future shape state reached =>
        (both past label future shape state reached).1,
      fun past label future shape state reached =>
        (both past label future shape state reached).2⟩

/-- A check of every step decides a condition on the states before the steps. -/
theorem EveryStep.of_check
    {check : State → Label → Bool}
    {labels : List Label}
    (checked : checkSteps step? check initial labels = true) :
    EveryStep step? initial
      (fun _ state label => check state label = true) labels := by
  intro past label future shape state reached
  subst shape
  induction past generalizing initial with
  | nil =>
      simp only [run?_nil, Option.some.injEq] at reached
      subst reached
      simp only [List.nil_append, checkSteps, Bool.and_eq_true] at checked
      exact checked.1
  | cons first past inductionHypothesis =>
      obtain ⟨middle, taken, reached⟩ := run?_cons_eq_some.mp reached
      simp only [List.cons_append, checkSteps, taken,
        Bool.and_eq_true] at checked
      exact inductionHypothesis reached checked.2

/-- A property along a run extends by one step. -/
theorem Always.concat
    {Holds : List Label → State → Prop}
    {labels : List Label}
    {label : Label}
    (always : Always step? initial Holds labels)
    (last :
      ∀ state,
        run? step? initial (labels ++ [label]) = some state →
        Holds (labels ++ [label]) state) :
    Always step? initial Holds (labels ++ [label]) := by
  intro past future shape state accepted
  rcases List.eq_nil_or_concat future with rfl | ⟨front, final, rfl⟩
  · rw [List.append_nil] at shape
    subst past
    exact last state accepted
  · rw [List.concat_eq_append, ← List.append_assoc] at shape
    have sameFront : labels = past ++ front :=
      (List.append_inj' shape rfl).1
    exact always past front sameFront state accepted

/--
When a step preserves a property as long as it meets a condition, the property
holds along every run whose steps all meet the condition.
-/
theorem always_of_everyStep
    {Holds : List Label → State → Prop}
    {Meets : List Label → State → Label → Prop}
    (base : Holds [] initial)
    (preserved :
      ∀ past state label next,
        run? step? initial past = some state →
        Holds past state →
        Meets past state label →
        step? state label = some next →
        Holds (past ++ [label]) next)
    {labels : List Label}
    (every : EveryStep step? initial Meets labels) :
    Always step? initial Holds labels := by
  induction labels using List.reverseRecOn with
  | nil =>
      intro past future shape state accepted
      obtain ⟨rfl, rfl⟩ := List.nil_eq_append_iff.mp shape
      simp only [run?_nil, Option.some.injEq] at accepted
      subst state
      exact base
  | append_singleton past label inductionHypothesis =>
      have before := inductionHypothesis every.of_append
      apply before.concat
      intro state accepted
      obtain ⟨middle, reached, last⟩ :=
        run?_concat_eq_some accepted
      exact preserved past middle label state reached
        (before.final reached) (every.last reached) last

/--
When a step preserves a property exactly if it meets a condition, the property
holds along a run exactly if every step of the run meets the condition.
-/
theorem always_iff_everyStep
    {Holds : List Label → State → Prop}
    {Meets : List Label → State → Label → Prop}
    (base : Holds [] initial)
    (exact_step :
      ∀ past state label next,
        run? step? initial past = some state →
        Holds past state →
        step? state label = some next →
        (Holds (past ++ [label]) next ↔ Meets past state label))
    {labels : List Label}
    {final : State}
    (accepted : run? step? initial labels = some final) :
    Always step? initial Holds labels ↔
      EveryStep step? initial Meets labels := by
  constructor
  · intro always past label future shape state reached
    rw [shape, List.append_cons] at accepted
    obtain ⟨next, through, _⟩ := run?_prefix accepted
    have taken : step? state label = some next := by
      rw [run?_concat, reached] at through
      exact through
    have before : Holds past state :=
      always past (label :: future) shape state reached
    have after : Holds (past ++ [label]) next :=
      always (past ++ [label]) future
        (by rw [shape, List.append_cons]) next through
    exact (exact_step past state label next
      reached before taken).mp after
  · intro every
    apply always_of_everyStep base _ every
    intro past state label next reached holds meets taken
    exact (exact_step past state label next
      reached holds taken).mpr meets

end Rules

end LabelledRun

end ChatRelay

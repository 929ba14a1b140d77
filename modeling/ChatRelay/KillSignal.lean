import Mathlib.Algebra.Group.Nat.Defs
import Mathlib.Data.List.Basic
import ChatRelay.FlexWaiter

namespace ChatRelay

/-!
# Killing a wait

One thread calls `kill` on a `flex_waiter` while another calls `wait` on it
again and again.  The event that carries the signal is created by the first
call of `wait`; both functions look at its descriptor under the mutex
`_mut_killEvent`, which `wait` releases before it calls `::select`.

A step goes from one acquisition or release of the mutex, or one system call,
to the next.
-/

open LabelledRun (guarded guarded_eq_some)

namespace KillSignal

/-- `KILL_SIGNAL` -/
def KILL_SIGNAL : Nat := 9

/-- The largest value that the counter of an event can have. -/
def counterMax : Nat := 2 ^ 64 - 2

/-- The function that holds the mutex. -/
inductive Caller where
  | wait : Caller
  | kill : Caller
  deriving Repr, DecidableEq

/-- Where the thread that calls `wait` stands. -/
inductive WaitPc where
  | outside : WaitPc
  | lockKillEvent : WaitPc
  | createEvent : WaitPc
  | select : WaitPc
  | dispatch (ready : List Nat) : WaitPc
  deriving Repr, DecidableEq

/-- Where the thread that calls `kill` stands. -/
inductive KillPc where
  | outside : KillPc
  | lockKillEvent : KillPc
  | write : KillPc
  deriving Repr, DecidableEq

/--
The waiter with its registered sources, the event and its counter, the mutex
and the two threads.
-/
structure State where
  waiter : FlexWaiter
  _killEventFD : Option Nat
  counter : Nat
  _mut_killEvent : Option Caller
  waitPc : WaitPc
  killPc : KillPc
  deriving Repr, DecidableEq

/-- A new waiter. -/
def initial : State where
  waiter := ⟨none, []⟩
  _killEventFD := none
  counter := 0
  _mut_killEvent := none
  waitPc := .outside
  killPc := .outside

/-- A step of the thread that calls `wait`. -/
inductive WaitAction where
  | enter (waiter : FlexWaiter) : WaitAction
  | lockKillEvent : WaitAction
  | createEvent (eventfd : Option Nat) : WaitAction
  | select (selected : Option (List Nat)) : WaitAction
  | readKill (ready : List Nat) : WaitAction
  | callHandler
      (ready : List Nat)
      (readStdin : Option Bytes) : WaitAction
  deriving Repr, DecidableEq

/-- A step of the thread that calls `kill`. -/
inductive KillAction where
  | begin : KillAction
  | lockKillEvent : KillAction
  | write : KillAction
  deriving Repr, DecidableEq

inductive Label where
  | wait : WaitAction → Label
  | kill : KillAction → Label
  deriving Repr, DecidableEq

namespace State

/-- The kill event is in a ready set. -/
def killIn (state : State) (ready : List Nat) : Bool :=
  match state._killEventFD with
  | none =>
      false
  | some killEventFD =>
      decide (killEventFD ∈ ready)

/--
What `::select` can report: watched descriptors, the kill event among them
exactly if its counter is not 0.
-/
def CanSelect (state : State) (ready : List Nat) : Prop :=
  (∀ killEventFD ∈ state._killEventFD,
    ready ⊆ (state.waiter.watch killEventFD).theSet) ∧
      (state.killIn ready = true ↔ state.counter ≠ 0)

instance
    (state : State)
    (ready : List Nat) :
    Decidable (state.CanSelect ready) :=
  inferInstanceAs (Decidable (_ ∧ _))

/-- The steps of `wait`. -/
def waitStep?
    (state : State) :
    WaitAction → Option State
  | .enter waiter =>
      guarded (state.waitPc = .outside)
        { state with
          waiter := waiter
          waitPc := .lockKillEvent }
  | .lockKillEvent =>
      guarded
        (state.waitPc = .lockKillEvent ∧ state._mut_killEvent = none)
        { state with
          _mut_killEvent := some .wait
          waitPc := .createEvent }
  | .createEvent eventfd =>
      guarded (state.waitPc = .createEvent)
        (match FlexWaiter.killEvent state._killEventFD eventfd with
        | none =>
            -- The exception leaves `wait`.
            { state with
              _mut_killEvent := none
              waitPc := .outside }
        | some killEventFD =>
            { state with
              _killEventFD := some killEventFD
              _mut_killEvent := none
              waitPc := .select })
  | .select none =>
      guarded (state.waitPc = .select)
        { state with waitPc := .outside }
  | .select (some ready) =>
      guarded (state.waitPc = .select ∧ state.CanSelect ready)
        { state with
          waitPc := if ready = [] then .outside else .dispatch ready }
  | .readKill ready =>
      guarded
        (state.waitPc = .dispatch ready ∧ state.killIn ready = true ∧
          0 < state.counter)
        { state with
          counter := 0
          waitPc := .outside }
  | .callHandler ready _ =>
      guarded
        (state.waitPc = .dispatch ready ∧ state.killIn ready = false)
        { state with waitPc := .outside }

/-- The steps of `kill`; a write waits until the counter has room. -/
def killStep?
    (state : State) :
    KillAction → Option State
  | .begin =>
      guarded (state.killPc = .outside)
        { state with killPc := .lockKillEvent }
  | .lockKillEvent =>
      guarded
        (state.killPc = .lockKillEvent ∧ state._mut_killEvent = none)
        { state with
          _mut_killEvent := some .kill
          killPc := .write }
  | .write =>
      guarded
        (state.killPc = .write ∧
          (state._killEventFD ≠ none →
            state.counter + KILL_SIGNAL ≤ counterMax))
        { state with
          counter :=
            if state._killEventFD = none then state.counter
            else state.counter + KILL_SIGNAL
          _mut_killEvent := none
          killPc := .outside }

def step?
    (state : State) :
    Label → Option State
  | .wait action =>
      state.waitStep? action
  | .kill action =>
      state.killStep? action

/-- The handlers that the rest of a call of `wait` calls for a ready set. -/
def handlerCalls
    (state : State)
    (ready : List Nat)
    (readStdin : Option Bytes) : List FlexWaiter.Handler :=
  match state._killEventFD with
  | none =>
      []
  | some killEventFD =>
      (state.waiter.afterSelect killEventFD ready
        ⟨none, some ready, 8, readStdin⟩).calls

end State

/-! ## What has to be observed -/

/--
Whether a call of `wait` has been entered, whether the call of `kill` in
progress began after that, and whether such a call has ended since `wait` last
read the kill event.
-/
structure Observer where
  waitEntered : Bool
  killCounts : Bool
  unobserved : Bool
  deriving Repr, DecidableEq

def Observer.next (observer : Observer) : Label → Observer
  | .wait (.enter _) =>
      { observer with waitEntered := true }
  | .wait (.readKill _) =>
      { observer with unobserved := false }
  | .kill .begin =>
      { observer with killCounts := observer.waitEntered }
  | .kill .write =>
      { observer with
        unobserved := observer.unobserved || observer.killCounts }
  | _ =>
      observer

/-- What a history says about its calls of `kill`. -/
def observe (past : List Label) : Observer :=
  past.foldl Observer.next ⟨false, false, false⟩

@[simp] theorem observe_nil :
    observe [] = ⟨false, false, false⟩ :=
  rfl

@[simp] theorem observe_concat
    (past : List Label)
    (label : Label) :
    observe (past ++ [label]) = (observe past).next label := by
  rw [observe, List.foldl_append]
  rfl

/--
No signal is lost: while a call of `kill` is unobserved, `::select` reports the
kill event whenever it returns, it can return, no handler is then called, and
the thread in `wait` is not held up for good.
-/
structure NoLostKill (past : List Label) (state : State) : Prop where
  reported :
    (observe past).unobserved = true →
    ∀ ready,
      state.CanSelect ready →
      state.killIn ready = true ∧
        ∀ readStdin, state.handlerCalls ready readStdin = []
  wakes :
    (observe past).unobserved = true →
    state.waitPc = .select →
    ∃ ready, state.CanSelect ready
  proceeds :
    (observe past).unobserved = true →
    state.waitPc ≠ .outside →
    (∃ action, (state.waitStep? action).isSome = true) ∨
      (state.killStep? .write).isSome = true

/--
The condition on a call of `kill` when it takes the mutex: a call that began
after a `wait` was entered finds the event created, and its counter has room.
-/
def FindsEvent
    (past : List Label)
    (state : State)
    (label : Label) : Prop :=
  label = .kill .lockKillEvent →
  ((observe past).killCounts = true → state._killEventFD ≠ none) ∧
    state.counter + KILL_SIGNAL ≤ counterMax

/-! ## The invariant -/

/-- The signal is kept in the counter of the event until it is read. -/
structure KeepsSignal (observer : Observer) (state : State) : Prop where
  signalled :
    observer.unobserved = true →
    state._killEventFD ≠ none ∧ 0 < state.counter
  created :
    state.waitPc ≠ .outside →
    state.waitPc ≠ .lockKillEvent →
    state.waitPc ≠ .createEvent →
    state._killEventFD ≠ none
  waitHolds :
    state._mut_killEvent = some .wait ↔ state.waitPc = .createEvent
  killHolds :
    state._mut_killEvent = some .kill ↔ state.killPc = .write
  counted :
    state.killPc = .write →
    observer.killCounts = true →
    state._killEventFD ≠ none
  room :
    state.killPc = .write →
    state.counter + KILL_SIGNAL ≤ counterMax
  readable :
    ∀ ready,
      state.waitPc = .dispatch ready →
      state.killIn ready = true →
      0 < state.counter

theorem initial_keepsSignal :
    KeepsSignal (observe []) initial := by
  constructor <;> simp [initial]

namespace KeepsSignal

variable {observer : Observer}
variable {state next : State}

/-- A step of `wait` keeps the signal, or reads it. -/
theorem waitStep
    (keeps : KeepsSignal observer state)
    {action : WaitAction}
    (taken : state.waitStep? action = some next) :
    KeepsSignal (observer.next (.wait action)) next := by
  obtain ⟨signalled, created, waitHolds, killHolds, counted, room,
    readable⟩ := keeps
  cases action with
  | enter waiter =>
      obtain ⟨atStart, rfl⟩ := guarded_eq_some.mp taken
      constructor <;> simp_all [Observer.next]
  | lockKillEvent =>
      obtain ⟨⟨atLock, isFree⟩, rfl⟩ := guarded_eq_some.mp taken
      constructor <;> simp_all [Observer.next]
  | createEvent eventfd =>
      obtain ⟨atCreate, rfl⟩ := guarded_eq_some.mp taken
      cases event :
          FlexWaiter.killEvent state._killEventFD eventfd with
      | none =>
          constructor <;> simp_all [Observer.next]
      | some killEventFD =>
          constructor <;> simp_all [Observer.next]
  | select selected =>
      cases selected with
      | none =>
          obtain ⟨atSelect, rfl⟩ := guarded_eq_some.mp taken
          constructor <;> simp_all [Observer.next]
      | some ready =>
          obtain ⟨⟨atSelect, canSelect⟩, rfl⟩ := guarded_eq_some.mp taken
          have readable' :
              state.killIn ready = true → 0 < state.counter :=
            fun isKilled => Nat.pos_of_ne_zero (canSelect.2.mp isKilled)
          by_cases timedOut : ready = []
          · constructor <;> simp_all [Observer.next]
          · constructor <;> simp_all [Observer.next, State.killIn]
  | readKill ready =>
      obtain ⟨⟨atDispatch, killReady, readable⟩, rfl⟩ :=
        guarded_eq_some.mp taken
      have hasRoom : KILL_SIGNAL ≤ counterMax := by decide
      constructor <;> simp_all [Observer.next]
  | callHandler ready readStdin =>
      obtain ⟨⟨atDispatch, notKilled⟩, rfl⟩ := guarded_eq_some.mp taken
      constructor <;> simp_all [Observer.next]

/-- A step of `kill` that meets its condition keeps the signal. -/
theorem killStep
    (keeps : KeepsSignal observer state)
    {action : KillAction}
    (finds :
      action = .lockKillEvent →
      (observer.killCounts = true → state._killEventFD ≠ none) ∧
        state.counter + KILL_SIGNAL ≤ counterMax)
    (taken : state.killStep? action = some next) :
    KeepsSignal (observer.next (.kill action)) next := by
  obtain ⟨signalled, created, waitHolds, killHolds, counted, room,
    readable⟩ := keeps
  cases action with
  | begin =>
      obtain ⟨atStart, rfl⟩ := guarded_eq_some.mp taken
      constructor <;> simp_all [Observer.next, State.killIn]
  | lockKillEvent =>
      obtain ⟨⟨atLock, isFree⟩, rfl⟩ := guarded_eq_some.mp taken
      constructor <;> simp_all [Observer.next, State.killIn]
  | write =>
      obtain ⟨⟨atWrite, hasRoom⟩, rfl⟩ := guarded_eq_some.mp taken
      by_cases noEvent : state._killEventFD = none
      · constructor <;> simp_all [Observer.next, State.killIn]
      · constructor <;> simp_all [Observer.next, KILL_SIGNAL]

/-- What is reported while the counter is not 0 calls no handler. -/
theorem reported
    (keeps : KeepsSignal observer state)
    (pending : observer.unobserved = true)
    {ready : List Nat}
    (canSelect : state.CanSelect ready) :
    state.killIn ready = true ∧
      ∀ readStdin, state.handlerCalls ready readStdin = [] := by
  obtain ⟨hasEvent, positive⟩ := keeps.signalled pending
  have isKilled : state.killIn ready = true :=
    canSelect.2.mpr (Nat.ne_of_gt positive)
  refine ⟨isKilled, ?_⟩
  intro readStdin
  obtain ⟨killEventFD, event⟩ := Option.ne_none_iff_exists'.mp hasEvent
  have killReady : killEventFD ∈ ready := by
    simpa [State.killIn, event] using isKilled
  rw [State.handlerCalls, event]
  exact (FlexWaiter.dispatch_afterSelect state.waiter killEventFD ready
    ⟨none, some ready, 8, readStdin⟩ none).calls_of_killed killReady

/-- The kill event alone can be reported while its counter is not 0. -/
theorem wakes
    (keeps : KeepsSignal observer state)
    (pending : observer.unobserved = true) :
    ∃ ready, state.CanSelect ready := by
  obtain ⟨hasEvent, positive⟩ := keeps.signalled pending
  obtain ⟨killEventFD, event⟩ := Option.ne_none_iff_exists'.mp hasEvent
  refine ⟨[killEventFD], ?_, ?_⟩
  · intro watched isEvent
    obtain rfl : killEventFD = watched :=
      Option.some.inj (event.symm.trans isEvent)
    intro fd member
    obtain rfl := List.mem_singleton.mp member
    exact (state.waiter.mem_watch fd fd).mpr (.inl rfl)
  · simp [State.killIn, event, Nat.ne_of_gt positive]

/-- A thread in `wait` can go on, unless `kill` holds the mutex and can. -/
theorem proceeds
    (keeps : KeepsSignal observer state)
    (pending : observer.unobserved = true)
    (inWait : state.waitPc ≠ .outside) :
    (∃ action, (state.waitStep? action).isSome = true) ∨
      (state.killStep? .write).isSome = true := by
  cases atPc : state.waitPc with
  | outside =>
      exact (inWait atPc).elim
  | lockKillEvent =>
      cases holder : state._mut_killEvent with
      | none =>
          exact .inl ⟨.lockKillEvent,
            by simp [State.waitStep?, guarded, atPc, holder]⟩
      | some caller =>
          cases caller with
          | wait =>
              have elsewhere := keeps.waitHolds.mp holder
              rw [atPc] at elsewhere
              cases elsewhere
          | kill =>
              have atWrite := keeps.killHolds.mp holder
              have hasRoom := keeps.room atWrite
              exact .inr
                (by simp [State.killStep?, guarded, atWrite, hasRoom])
  | createEvent =>
      exact .inl ⟨.createEvent none,
        by simp [State.waitStep?, guarded, atPc]⟩
  | select =>
      obtain ⟨ready, canSelect⟩ := keeps.wakes pending
      exact .inl ⟨.select (some ready),
        by simp [State.waitStep?, guarded, atPc, canSelect]⟩
  | dispatch ready =>
      cases isKilled : state.killIn ready with
      | true =>
          have positive := (keeps.signalled pending).2
          exact .inl ⟨.readKill ready,
            by simp [State.waitStep?, guarded, atPc, isKilled, positive]⟩
      | false =>
          exact .inl ⟨.callHandler ready none,
            by simp [State.waitStep?, guarded, atPc, isKilled]⟩

end KeepsSignal

/-- A step keeps the signal if `kill` finds the event. -/
theorem keepsSignal_step
    {past : List Label}
    {state next : State}
    {label : Label}
    (keeps : KeepsSignal (observe past) state)
    (finds : FindsEvent past state label)
    (taken : state.step? label = some next) :
    KeepsSignal (observe (past ++ [label])) next := by
  rw [observe_concat]
  cases label with
  | wait action =>
      exact keeps.waitStep taken
  | kill action =>
      apply keeps.killStep _ taken
      rintro rfl
      exact finds rfl

/--
In every run in which each call of `kill` that begins after a `wait` has been
entered finds the event created and its counter with room, no such call is
lost.
-/
theorem no_lost_kill
    {labels : List Label}
    (finds :
      LabelledRun.EveryStep State.step? initial FindsEvent labels) :
    LabelledRun.Always State.step? initial NoLostKill labels := by
  have keeps :=
    @LabelledRun.always_of_everyStep State Label State.step? initial
      (fun past state => KeepsSignal (observe past) state) FindsEvent
      initial_keepsSignal
      (fun _ _ _ _ _ before meets taken =>
        keepsSignal_step before meets taken)
      labels finds
  intro past future shape state reached
  have invariant := keeps past future shape state reached
  constructor
  case reported =>
    intro pending ready canSelect
    exact invariant.reported pending canSelect
  case wakes =>
    intro pending _
    exact invariant.wakes pending
  case proceeds =>
    exact invariant.proceeds

/-- A call of `wait` is killed after it has created the event. -/
def killedRun : List Label :=
  [.wait (.enter ⟨some 3, []⟩), .wait .lockKillEvent,
    .wait (.createEvent (some 4)), .kill .begin, .kill .lockKillEvent,
    .kill .write, .wait (.select (some [4])), .wait (.readKill [4])]

/-- The event is there, whenever the call of `kill` began. -/
def eventReady (state : State) (label : Label) : Bool :=
  decide (label = .kill .lockKillEvent →
    state._killEventFD ≠ none ∧ state.counter + KILL_SIGNAL ≤ counterMax)

theorem killedRun_findsEvent :
    LabelledRun.EveryStep State.step? initial FindsEvent killedRun := by
  intro past label future shape state reached isLock
  have checked :=
    @LabelledRun.EveryStep.of_check State Label State.step? initial
      eventReady killedRun (by decide)
      past label future shape state reached
  obtain ⟨hasEvent, hasRoom⟩ := of_decide_eq_true checked isLock
  exact ⟨fun _ => hasEvent, hasRoom⟩

/-- The signal sent during that call is not lost. -/
theorem no_lost_kill_killedRun :
    LabelledRun.Always State.step? initial NoLostKill killedRun :=
  no_lost_kill killedRun_findsEvent

/-- The first call of `wait` is killed before it has created the event. -/
def lostRun : List Label :=
  [.wait (.enter ⟨some 3, []⟩), .kill .begin, .kill .lockKillEvent,
    .kill .write, .wait .lockKillEvent, .wait (.createEvent (some 4))]

/--
The signal goes nowhere: `::select` can time out, or report a source that is
not the kill event, although the call of `wait` was entered before that of
`kill` began.
-/
theorem kill_lost :
    ¬ LabelledRun.Always State.step? initial NoLostKill lostRun := by
  intro always
  have accepted :
      LabelledRun.run? State.step? initial lostRun =
        some ⟨⟨some 3, []⟩, some 4, 0, none, .select, .outside⟩ := by
    decide
  have holds := always.final accepted
  have reported := (holds.reported (by decide) [3] (by decide)).1
  revert reported
  decide

end KillSignal

end ChatRelay

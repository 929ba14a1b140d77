import ChatRelay.FlexWaiter
import ChatRelay.ServerSteps

namespace ChatRelay

/-!
# The server over its waiter

The process model lets `select` report anything that is watched.  Here what is
reported is computed: the kernel returns a ready set, and the branches of
`flex_waiter::wait` pick a handler.  A run of this server is a run of the
process model.

The branches look at stdin before the server socket and the clients.  At the
end of its file stdin is always ready, and its line is always empty.
-/

open LabelledRun (run? run?_cons_eq_some guarded guarded_eq_some
  EveryStep)
open FlexWaiter (SystemCalls WaitResult STDIN_FILENO)

/-- A step of the process, or the part of `wait` behind `::select`. -/
inductive WaitLabel where
  | step (label : ServerLabel) : WaitLabel
  | wait (watched : List Nat) (kernel : SystemCalls) : WaitLabel

/-- The label of the process model for a return of `::select`. -/
def ServerLabel.isSelect : ServerLabel → Bool
  | .listen (.select _ _) =>
      true
  | _ =>
      false

namespace Server

/-- What the process model reports for what `wait` has done. -/
def report
    (state : Server)
    (result : WaitResult) :
    Ready :=
  match result.calls with
  | [.onSocketServer _] =>
      .serverSocket
  | [.onSTDIN (some line)] =>
      .stdin line
  | [.onSocket child] =>
      match state._sockets.find? (state.heap · = child) with
      | some socket =>
          .client socket
      | none =>
          .timeout
  | _ =>
      if result.reads = [] then
        .timeout
      else
        .killEvent

/-- `wait` from the return of `::select` on. -/
def afterWait
    (state : Server)
    (serverFD killEventFD : Nat)
    (kernel : SystemCalls) :
    Server :=
  match kernel.select with
  | none =>
      state.throw .listen
        (.runtimeError "Unexpected error in synchronization object")
  | some theSet =>
      let result : WaitResult :=
        if theSet = [] then
          {}
        else
          (state.waiter serverFD).afterSelect killEventFD theSet kernel
      match result.fault with
      | some fault =>
          state.throw .listen fault
      | none =>
          state.dispatch (state.report result)

/--
What the kernel returns: ready descriptors that were watched, the kill event
among them exactly if it is signalled, eight bytes of its counter, and a line
of stdin that ends within the buffer.
-/
structure Returns
    (state : Server)
    (serverFD killEventFD : Nat)
    (watched : List Nat)
    (kernel : SystemCalls) : Prop where
  ready :
    ∀ theSet ∈ kernel.select,
      theSet ⊆ killEventFD :: STDIN_FILENO :: serverFD :: watched
  signalled :
    ∀ theSet ∈ kernel.select,
      (killEventFD ∈ theSet ↔ state._killEvent.getD 0 ≠ 0)
  readKill : kernel.readKill = 8
  inBuffer :
    ∀ chunk ∈ kernel.readStdin, (FlexWaiter.input chunk).isSome = true

instance
    (state : Server)
    (serverFD killEventFD : Nat)
    (watched : List Nat)
    (kernel : SystemCalls) :
    Decidable (state.Returns serverFD killEventFD watched kernel) :=
  decidable_of_iff
    ((∀ theSet ∈ kernel.select,
        theSet ⊆ killEventFD :: STDIN_FILENO :: serverFD :: watched) ∧
      (∀ theSet ∈ kernel.select,
        (killEventFD ∈ theSet ↔ state._killEvent.getD 0 ≠ 0)) ∧
      kernel.readKill = 8 ∧
      ∀ chunk ∈ kernel.readStdin,
        (FlexWaiter.input chunk).isSome = true)
    ⟨fun ⟨ready, signalled, readKill, inBuffer⟩ =>
        ⟨ready, signalled, readKill, inBuffer⟩,
      fun ⟨ready, signalled, readKill, inBuffer⟩ =>
        ⟨ready, signalled, readKill, inBuffer⟩⟩

/-- A step of the process in which `wait` computes what it reports. -/
def waitStep?
    (platform : Platform)
    (serverFD killEventFD : Nat)
    (state : Server) :
    WaitLabel → Option Server
  | .step label =>
      if label.isSelect then
        none
      else
        state.step? platform label
  | .wait watched kernel =>
      guarded
        (state.fault = none ∧
          state.listenPc = .select watched ∧
          state.Returns serverFD killEventFD watched kernel)
        (state.afterWait serverFD killEventFD kernel)

end Server

/-- The label of the process model for a step of this server. -/
def WaitLabel.Refines : WaitLabel → ServerLabel → Prop
  | .step label, other =>
      other = label
  | .wait watched _, other =>
      ∃ ready, other = .listen (.select watched ready)

namespace Server

variable {platform : Platform}
variable {state next : Server}
variable {serverFD killEventFD : Nat}
variable {watched : List Nat}
variable {kernel : SystemCalls}

/-- The socket that `wait` passes on is found among the registered ones. -/
theorem report_socket
    {result : WaitResult}
    {socket : SocketRef}
    (registered : socket ∈ state._sockets)
    (calls : result.calls = [.onSocket (state.heap socket)]) :
    ∃ found ∈ state._sockets,
      state.heap found = state.heap socket ∧
        state.report result = .client found := by
  unfold report
  rw [calls]
  dsimp only
  cases search :
      state._sockets.find? (state.heap · = state.heap socket) with
  | none =>
      have missing := List.find?_eq_none.mp search socket registered
      simp at missing
  | some found =>
      have same : state.heap found = state.heap socket := by
        simpa using List.find?_some search
      exact ⟨found, List.mem_of_find?_eq_some search, same, rfl⟩

/-- What `wait` reports is something that the process model can report. -/
theorem Returns.canReport
    (returns : state.Returns serverFD killEventFD watched kernel)
    {theSet : List Nat}
    (selected : kernel.select = some theSet)
    (someReady : theSet ≠ [])
    (returned :
      ((state.waiter serverFD).afterSelect killEventFD theSet
        kernel).fault = none) :
    state.CanReport watched
      (state.report
        ((state.waiter serverFD).afterSelect killEventFD theSet
          kernel)) := by
  have ready := returns.ready theSet selected
  have signalled := returns.signalled theSet selected
  have quiet : killEventFD ∉ theSet → state._killEvent.getD 0 = 0 := by
    intro notKilled
    by_contra isSignalled
    exact notKilled (signalled.mpr isSignalled)
  have dispatch :
      (state.waiter serverFD).Dispatch killEventFD theSet kernel
        ((state.waiter serverFD).afterSelect killEventFD theSet kernel) :=
    FlexWaiter.dispatch_afterSelect _ _ _ _
      ((state.waiter serverFD).afterSelect killEventFD theSet
        kernel).select
  cases dispatch with
  | timedOut noneReady =>
      exact (someReady noneReady).elim
  | killed killReady calls reads =>
      unfold report
      rw [calls, reads]
      exact signalled.mp killReady
  | stdinFailed _ _ _ _ _ fault =>
      rw [returned] at fault
      cases fault
  | stdin chunk notKilled _ read calls =>
      obtain ⟨line, isLine⟩ :=
        Option.isSome_iff_exists.mp (returns.inBuffer chunk read)
      unfold report
      rw [calls, isLine]
      exact quiet notKilled
  | socketServer masterFD notKilled _ _ calls =>
      unfold report
      rw [calls]
      exact quiet notKilled
  | socket child notKilled notStdin notMaster member isReady calls =>
      obtain ⟨socket, registered, rfl⟩ := List.mem_map.mp member
      obtain ⟨found, member, same, isReport⟩ :=
        report_socket registered calls
      rw [isReport]
      refine ⟨quiet notKilled, member, ?_⟩
      rw [same]
      have among := ready isReady
      simp only [List.mem_cons] at among
      rcases among with isKill | isStdin | isMaster | isWatched
      · exact (notKilled (isKill ▸ isReady)).elim
      · exact (notStdin (isStdin ▸ isReady)).elim
      · exact (notMaster serverFD rfl (isMaster ▸ isReady)).elim
      · exact isWatched
  | fallThrough notKilled _ _ _ calls reads =>
      unfold report
      rw [calls, reads]
      exact quiet notKilled

/-- A return of `::select` is a step of the process model, or it throws. -/
theorem waitStep?_refines
    {label : WaitLabel}
    (taken :
      state.waitStep? platform serverFD killEventFD label = some next)
    (alive : next.fault = none) :
    ∃ other,
      label.Refines other ∧ state.step? platform other = some next := by
  cases label with
  | step label =>
      simp only [waitStep?] at taken
      split at taken
      · contradiction
      · exact ⟨label, rfl, taken⟩
  | wait watched kernel =>
      obtain ⟨⟨living, pc, returns⟩, rfl⟩ := guarded_eq_some.mp taken
      have steps :
          ∀ ready,
            state.CanReport watched ready →
            ∃ other,
              (WaitLabel.wait watched kernel).Refines other ∧
                state.step? platform other =
                  some (state.dispatch ready) := by
        intro ready canReport
        refine ⟨.listen (.select watched ready), ⟨ready, rfl⟩, ?_⟩
        unfold step?
        rw [if_pos living]
        exact guarded_eq_some.mpr ⟨⟨pc, canReport⟩, rfl⟩
      unfold afterWait at alive ⊢
      cases selected : kernel.select with
      | none =>
          simp [selected, throw] at alive
      | some theSet =>
          by_cases noneReady : theSet = []
          · subst noneReady
            simp only [selected] at alive ⊢
            refine steps .timeout ?_
            by_contra isSignalled
            have killReady :=
              (returns.signalled [] selected).mpr isSignalled
            cases killReady
          · simp only [selected, if_neg noneReady] at alive ⊢
            cases returned :
                ((state.waiter serverFD).afterSelect killEventFD theSet
                  kernel).fault with
            | some fault =>
                simp [returned, throw] at alive
            | none =>
                exact steps _
                  (returns.canReport selected noneReady returned)

/--
Where `wait` is entered, its set holds the kill event, stdin, the server socket
and what the process model watches from then on, and nothing else.
-/
def PassesWatched
    (serverFD killEventFD : Nat)
    (state : Server) : WaitLabel → Prop
  | .step (.listen .enterWait) =>
      ∀ platform next,
        state.step? platform (.listen .enterWait) = some next →
        ∃ watched,
          next.listenPc = .lockKillEvent watched ∧
            ∀ fd,
              fd ∈ ((state.waiter serverFD).watch killEventFD).theSet ↔
                fd ∈ killEventFD :: STDIN_FILENO :: serverFD :: watched
  | _ =>
      True

/-- The set of `wait` is the one of the process model in every state. -/
theorem passesWatched
    (serverFD killEventFD : Nat)
    (state : Server)
    (label : WaitLabel) :
    state.PassesWatched serverFD killEventFD label := by
  unfold PassesWatched
  split
  · intro platform next taken
    obtain ⟨_, step⟩ := step?_sound taken
    cases step with
    | listen step =>
        cases step with
        | enterWait pc running =>
            refine ⟨state.watchedDescriptors, rfl, ?_⟩
            intro fd
            rw [mem_watch_waiter]
            simp only [List.mem_cons, or_assoc]
  · trivial

/-- A step is taken by a living process. -/
theorem alive_of_waitStep?
    {label : WaitLabel}
    (taken :
      state.waitStep? platform serverFD killEventFD label = some next) :
    state.fault = none := by
  cases label with
  | step label =>
      simp only [waitStep?] at taken
      split at taken
      · contradiction
      · exact (step?_sound taken).1
  | wait watched kernel =>
      exact (guarded_eq_some.mp taken).1.1

/-- A run in which `wait` computes what it reports is one of the process model. -/
theorem run_of_waits
    {labels : List WaitLabel}
    {final : Server}
    (ran :
      run? (waitStep? platform serverFD killEventFD) state labels =
        some final)
    (alive : final.fault = none) :
    ∃ others,
      List.Forall₂ WaitLabel.Refines labels others ∧
        run? (step? platform) state others = some final := by
  induction labels generalizing state with
  | nil =>
      exact ⟨[], .nil, ran⟩
  | cons label rest inductionHypothesis =>
      obtain ⟨middle, taken, reached⟩ := run?_cons_eq_some.mp ran
      have living : middle.fault = none := by
        cases rest with
        | nil =>
            cases reached
            exact alive
        | cons following rest =>
            obtain ⟨_, more, _⟩ := run?_cons_eq_some.mp reached
            exact alive_of_waitStep? more
      obtain ⟨other, refines, step⟩ :=
        waitStep?_refines taken living
      obtain ⟨others, refine, run⟩ := inductionHypothesis reached
      exact ⟨other :: others, .cons refines refine,
        run?_cons_eq_some.mpr ⟨middle, step, run⟩⟩

/--
Every run in which `wait` computes what it reports is a run of the process
model, label by label; and wherever `wait` is entered, the set that it builds is
the one that the process model watches.
-/
theorem waits_refine
    {labels : List WaitLabel}
    {final : Server}
    (ran :
      run? (waitStep? platform serverFD killEventFD) state labels =
        some final)
    (alive : final.fault = none) :
    (∃ others,
      List.Forall₂ WaitLabel.Refines labels others ∧
        run? (step? platform) state others = some final) ∧
      EveryStep (waitStep? platform serverFD killEventFD) state
        (fun _ before label =>
          before.PassesWatched serverFD killEventFD label) labels :=
  ⟨run_of_waits ran alive,
    .of_labels fun label _ _ before =>
      passesWatched serverFD killEventFD before label⟩

/-- The log of one `wait` that computes what it reports. -/
def computedWait
    (watched : List Nat)
    (kernel : SystemCalls) :
    List WaitLabel :=
  [.step (.listen .enterWait),
    .step (.listen (.lockKillEvent watched)),
    .step (.listen (.unlockKillEvent watched)),
    .wait watched kernel]

/-- A client connects and then its socket is ready. -/
theorem waits_refine_connect :
    let labels :=
      computedWait [] ⟨none, some [3], 8, none⟩ ++
        ([.step (.listen (.accept 0 5)), .step (.listen (.lockAdd 0)),
          .step (.listen (.add 0))] ++
          computedWait [5] ⟨none, some [5], 8, none⟩)
    ∃ final others,
      final.listenPc = .read 0 ∧
        List.Forall₂ WaitLabel.Refines labels others ∧
        run? (step? .reference) (initial [0, 3, 4]) others =
          some final := by
  intro labels
  have finished :
      (run? (waitStep? .reference 3 4) (initial [0, 3, 4]) labels).map
          (fun state => (state.listenPc, state.fault)) =
        some (.read 0, none) := by
    decide
  obtain ⟨final, ran, control⟩ := Option.map_eq_some_iff.mp finished
  obtain ⟨pc, alive⟩ := Prod.mk.inj control
  obtain ⟨⟨others, refines, run⟩, _⟩ := waits_refine ran alive
  exact ⟨final, others, pc, refines, run⟩

/-! ### Stdin at its end -/

/-- The line of a read that returns 0. -/
theorem input_nil :
    FlexWaiter.input [] = some [] := by
  have cells :
      FlexWaiter.buffer [] =
        0 :: List.replicate (FlexWaiter.BUFFER_SIZE - 1) 0 :=
    rfl
  have string : CString.ofArray (FlexWaiter.buffer []) = some [] := by
    rw [cells, CString.ofArray, if_pos List.mem_cons_self,
      List.takeWhile_cons_of_neg (by decide)]
  unfold FlexWaiter.input
  rw [string]
  rfl

/-- With stdin at its end, `wait` calls `onSTDIN` with the empty line. -/
theorem afterWait_ended
    (quiet : state._killEvent.getD 0 = 0)
    (returns : state.Returns serverFD killEventFD watched kernel)
    {theSet : List Nat}
    (selected : kernel.select = some theSet)
    (stdinReady : STDIN_FILENO ∈ theSet)
    (ended : kernel.readStdin = some []) :
    state.afterWait serverFD killEventFD kernel =
      { state with listenPc := .loop } := by
  have notKilled : killEventFD ∉ theSet := by
    intro killReady
    exact (returns.signalled theSet selected).mp killReady quiet
  have someReady : theSet ≠ [] :=
    List.ne_nil_of_mem stdinReady
  have result :
      (state.waiter serverFD).afterSelect killEventFD theSet kernel =
        { reads := [STDIN_FILENO], calls := [.onSTDIN (some [])] } := by
    rw [FlexWaiter.afterSelect, if_neg notKilled, if_pos stdinReady,
      ended]
    dsimp only
    rw [input_nil]
  have notExit : ([] : Bytes) ≠ ascii "exit" := by
    decide
  unfold afterWait
  rw [selected]
  dsimp only
  rw [if_neg someReady, result]
  simp [report, dispatch, notExit]

end Server

/-- In every call of `wait`, stdin is ready and at its end. -/
def WaitLabel.StdinEnded : WaitLabel → Prop
  | .wait _ kernel =>
      (∃ theSet ∈ kernel.select, STDIN_FILENO ∈ theSet) ∧
        kernel.readStdin = some []
  | .step _ =>
      True

/-- A step that serves nobody: one of `wait` or of `sendMessages`. -/
def WaitLabel.ServesNobody : WaitLabel → Prop
  | .step (.listen .enterWait)
  | .step (.listen (.lockKillEvent _))
  | .step (.listen (.unlockKillEvent _))
  | .step (.send _)
  | .wait _ _ =>
      True
  | .step (.listen _) =>
      False

namespace Server

variable {platform : Platform}
variable {state next : Server}
variable {serverFD killEventFD : Nat}

/-- The listener waits, has not been told to end, and no event is signalled. -/
structure Waits (state : Server) : Prop where
  inWait : state.InWait
  running : state.killed = false
  quiet : state._killEvent.getD 0 = 0

/-- With stdin at its end, a waiting server goes on waiting. -/
theorem Waits.step
    {label : WaitLabel}
    (waits : state.Waits)
    (ended : label.StdinEnded)
    (taken :
      state.waitStep? platform serverFD killEventFD label = some next) :
    next.Waits ∧
      label.ServesNobody ∧
      next.sockets = state.sockets ∧
      next._sockets = state._sockets ∧
      next.openDescriptors = state.openDescriptors ∧
      (next.messageQueue = state.messageQueue ∨
        next.messageQueue = []) := by
  obtain ⟨inWait, running, quiet⟩ := waits
  cases label with
  | wait watched kernel =>
      obtain ⟨⟨theSet, selected, stdinReady⟩, stdinEnded⟩ := ended
      obtain ⟨⟨alive, pc, returns⟩, rfl⟩ := guarded_eq_some.mp taken
      rw [afterWait_ended quiet returns selected stdinReady
        stdinEnded]
      exact ⟨⟨trivial, running, quiet⟩, trivial, rfl, rfl, rfl,
        Or.inl rfl⟩
  | step label =>
      simp only [waitStep?] at taken
      split at taken
      · contradiction
      · rename_i notSelect
        obtain ⟨alive, step⟩ := step?_sound taken
        cases step with
        | listen step =>
            cases step with
            | leaveLoop pc killed =>
                rw [running] at killed
                contradiction
            | enterWait pc | lockKillEvent pc =>
                exact ⟨⟨trivial, running, quiet⟩, trivial, rfl, rfl, rfl,
                  Or.inl rfl⟩
            | unlockKillEvent pc =>
                exact ⟨⟨trivial, running, by simpa using quiet⟩,
                  trivial, rfl, rfl, rfl, Or.inl rfl⟩
            | selectNothing | selectExit | selectServerSocket |
              selectClient =>
                simp [ServerLabel.isSelect] at notSelect
            | _ =>
                simp_all [InWait]
        | send step =>
            cases step with
            | clear pc =>
                exact ⟨⟨inWait, running, quiet⟩, trivial, rfl, rfl, rfl,
                  Or.inr rfl⟩
            | _ =>
                exact ⟨⟨inWait, running, quiet⟩, trivial, rfl, rfl, rfl,
                  Or.inl rfl⟩

/--
A server whose stdin has come to its end serves nobody: however the threads
interleave and whoever is ready, no connection is accepted, no client is read
or removed, nothing is queued, and the server is not told to end.
-/
theorem stdin_ended_serves_nobody
    (waits : state.Waits)
    {labels : List WaitLabel}
    (ended : ∀ label ∈ labels, label.StdinEnded)
    {final : Server}
    (ran :
      run? (waitStep? platform serverFD killEventFD) state labels =
        some final) :
    final.Waits ∧
      (∀ label ∈ labels, label.ServesNobody) ∧
      final.sockets = state.sockets ∧
      final._sockets = state._sockets ∧
      final.openDescriptors = state.openDescriptors ∧
      (final.messageQueue = state.messageQueue ∨
        final.messageQueue = []) := by
  induction labels generalizing state with
  | nil =>
      cases ran
      exact ⟨waits, by simp, rfl, rfl, rfl, Or.inl rfl⟩
  | cons label rest inductionHypothesis =>
      obtain ⟨middle, taken, reached⟩ := run?_cons_eq_some.mp ran
      obtain ⟨endedFirst, endedRest⟩ := List.forall_mem_cons.mp ended
      obtain ⟨middleWaits, servesFirst, sockets, registered, descriptors,
        queue⟩ := waits.step endedFirst taken
      obtain ⟨finalWaits, servesRest, socketsRest, registeredRest,
        descriptorsRest, queueRest⟩ :=
        inductionHypothesis middleWaits endedRest reached
      refine ⟨finalWaits, List.forall_mem_cons.mpr
        ⟨servesFirst, servesRest⟩, socketsRest.trans sockets,
        registeredRest.trans registered,
        descriptorsRest.trans descriptors, ?_⟩
      rcases queueRest with same | empty
      · rcases queue with sameFirst | emptyFirst
        · exact Or.inl (same.trans sameFirst)
        · exact Or.inr (same.trans emptyFirst)
      · exact Or.inr empty

/-- A client that connects is not accepted. -/
theorem stdin_ended_serves_nobody_connect :
    let labels :=
      computedWait [] ⟨none, some [3, 0], 8, some []⟩
    ∃ final,
      run? (waitStep? .reference 3 4) (initial [0, 3, 4]) labels =
          some final ∧
        final.Waits ∧ final.sockets = [] := by
  intro labels
  have finished :
      (run? (waitStep? .reference 3 4) (initial [0, 3, 4])
          labels).isSome = true := by
    decide
  obtain ⟨final, ran⟩ := Option.isSome_iff_exists.mp finished
  have ended : ∀ label ∈ labels, label.StdinEnded := by
    intro label member
    simp only [labels, computedWait, List.mem_cons, List.not_mem_nil,
      or_false] at member
    rcases member with rfl | rfl | rfl | rfl
    · trivial
    · trivial
    · trivial
    · exact ⟨⟨[3, 0], rfl, by decide⟩, rfl⟩
  have waiting : (initial [0, 3, 4]).Waits :=
    ⟨trivial, rfl, rfl⟩
  obtain ⟨waits, _, sockets, _⟩ :=
    stdin_ended_serves_nobody waiting ended ran
  exact ⟨final, ran, waits, sockets⟩

end Server

end ChatRelay

import ChatRelay.BoundedRun
import ChatRelay.DescriptorLifecycle
import ChatRelay.ServerDeadlock
import ChatRelay.ServerSurvival

namespace ChatRelay

/-!
# Shutting the server down

After `exit` was read, both threads have only so many steps left, whatever is
queued.  `stop` closes the sockets and keeps them in the list, and the sending
thread does not look whether a socket is open: what is pending then is not
delivered, and with a client connected the first write of it throws.
-/

open LabelledRun (run? run?_append stateInvariant Complete Decreases)

/-- The steps of `listen` that are left once `exit` was read. -/
def ListenPc.stopSteps : ListenPc → Nat
  | .lockStop => 6
  | .closeAll => 5
  | .lockKill => 4
  | .kill => 3
  | .unlockStop => 2
  | .loop => 1
  | _ => 0

/-- The thread stands behind the loop of `stop` that closes the sockets. -/
def ListenPc.BehindClose : ListenPc → Prop
  | .lockKill | .kill | .unlockStop | .loop | .returned =>
      True
  | _ =>
      False

/--
The steps of `sendMessages` that are left once `exit` was read, for a number of
listed clients and a number of queued messages.
-/
def SenderPc.stopSteps (clients queued : Nat) : SenderPc → Nat
  | .returned => 0
  | .loop => 1
  | .unlockQueue => 2
  | .nextMessage remaining =>
      remaining.length * (clients + 3) + 3
  | .lockSockets _ _ remaining =>
      remaining.length * (clients + 3) + 3 + (clients + 2)
  | .writing _ _ targets remaining =>
      remaining.length * (clients + 3) + 3 + (targets.length + 1)
  | .lockQueue =>
      queued * (clients + 3) + 4

/-- A write of `sendMessages`. -/
def ServerLabel.isSenderWrite : ServerLabel → Bool
  | .send (.write _ _ _ _ _ _) =>
      true
  | _ =>
      false

namespace Server

/-- The steps of the process that are left once `exit` was read. -/
def stopSteps (state : Server) : Nat :=
  if state.fault = none then
    state.listenPc.stopSteps +
      state.senderPc.stopSteps state.sockets.length
        state.messageQueue.length
  else
    0

/-- The process has read `exit`. -/
structure Stopping (state : Server) : Prop where
  killed : state.killed = true
  stops : state.StopsWhenKilled

variable {platform : Platform}
variable {state next : Server}

/-- A step that throws takes the last steps of the process. -/
theorem stopSteps_throw
    (state : Server)
    (thread : Thread)
    (fault : Fault) :
    (state.throw thread fault).stopSteps = 0 := by
  simp [stopSteps, throw]

theorem Stopping.step
    {label : ServerLabel}
    (stopping : state.Stopping)
    (taken : state.step? platform label = some next) :
    next.Stopping := by
  obtain ⟨_, step⟩ := step?_sound taken
  exact ⟨step.killed stopping.killed, step.stopsWhenKilled stopping.stops⟩

/-- Every step of a process that has read `exit` is one of those left. -/
theorem Stopping.smaller
    {label : ServerLabel}
    (stopping : state.Stopping)
    (taken : state.step? platform label = some next) :
    next.stopSteps < state.stopSteps := by
  obtain ⟨killed, stops⟩ := stopping
  obtain ⟨alive, step⟩ := step?_sound taken
  have pcs := stops killed
  cases step with
  | listen step =>
      cases step with
      | @remove socket pc =>
          simp [pc] at pcs
      | closeAll pc =>
          obtain ⟨_, _, closed⟩ :=
            @closeSockets_frame state (state.sockets.map Prod.fst)
          rw [closed]
          simp [stopSteps, alive, pc, ListenPc.stopSteps]
      | _ =>
          simp_all [stopSteps, ListenPc.stopSteps]
  | send step =>
      cases step with
      | serialiseThrows pc =>
          rw [stopSteps_throw, stopSteps, if_pos alive, pc,
            SenderPc.stopSteps]
          omega
      | writeThrows pc =>
          rw [stopSteps_throw, stopSteps, if_pos alive, pc,
            SenderPc.stopSteps]
          omega
      | _ =>
          simp_all [stopSteps, SenderPc.stopSteps, setSocket,
            Nat.succ_mul]
          try omega

theorem Stopping.decreases :
    Decreases (step? platform) Stopping stopSteps where
  preserved := Stopping.step
  smaller := Stopping.smaller

variable {descriptors : List Nat}
variable {past future : List ServerLabel}
variable {final : Server}

theorem stopping_of_run
    (reached :
      run? (step? platform) (initial descriptors) past = some state)
    (killed : state.killed = true) :
    state.Stopping :=
  ⟨killed, stopsWhenKilled_of_run reached⟩

/-- A living process that cannot move has ended both of its threads. -/
theorem returned_of_complete
    (reached :
      run? (step? platform) (initial descriptors) past = some state)
    (alive : state.fault = none)
    (complete : Complete (step? platform) state) :
    state.listenPc = .returned ∧ state.senderPc = .returned := by
  have ends :
      ∀ thread, state.HasReturned thread := by
    intro thread
    by_contra notReturned
    obtain ⟨label, next, taken⟩ :=
      process_moves reached alive notReturned
    rw [complete label] at taken
    contradiction
  exact ⟨ends .listen, ends .sendMessages⟩

/--
Once `exit` was read, the process ends: it takes at most the steps that are
left, and where it can take no further one, both threads have returned or an
exception has left one of them.
-/
theorem shutdown_bounded
    (reached :
      run? (step? platform) (initial descriptors) past = some state)
    (killed : state.killed = true) :
    (∀ future final,
      run? (step? platform) state future = some final →
        future.length ≤ state.stopSteps ∧
          (Complete (step? platform) final →
            final.fault = none →
            final.listenPc = .returned ∧
              final.senderPc = .returned)) ∧
    ∃ future final,
      run? (step? platform) state future = some final ∧
        Complete (step? platform) final := by
  have stopping := stopping_of_run reached killed
  refine ⟨?_, Stopping.decreases.exists_complete stopping⟩
  intro future final ran
  have bound := Stopping.decreases.length_le stopping ran
  refine ⟨by omega, ?_⟩
  intro complete alive
  have whole :
      run? (step? platform) (initial descriptors) (past ++ future) =
        some final := by
    rw [run?_append, reached]
    exact ran
  exact returned_of_complete whole alive complete

/-- A client is logged in, its login is queued, and `exit` is read. -/
theorem shutdown_bounded_exit :
    let login : Request.Login := ⟨0, ascii "ann"⟩
    let bytes :=
      (Request.login login).text .reference JsonText.escape
    let labels :=
      ServerLabel.connect [] 0 4 ++
        (ServerLabel.logIn [4] 0 bytes login 0 ++
          (.send .sleep :: ServerLabel.wait [4] (.stdin (ascii "exit"))))
    ∃ state,
      run? (step? .reference) (initial [0, 1, 2, 3]) labels =
          some state ∧
        ∀ future final,
          run? (step? .reference) state future = some final →
            future.length ≤ 14 := by
  intro login bytes labels
  have finished :
      (run? (step? .reference) (initial [0, 1, 2, 3]) labels).map
          (fun state => (state.killed, state.stopSteps)) =
        some (true, 14) := by
    decide
  obtain ⟨state, reached, control⟩ :=
    Option.map_eq_some_iff.mp finished
  obtain ⟨killed, steps⟩ := Prod.mk.inj control
  refine ⟨state, reached, ?_⟩
  intro future final ran
  rw [← steps]
  exact ((shutdown_bounded reached killed).1 future final ran).1

/-! ### What was pending is not delivered -/

/-- The responses that `sendMessages` has still to write to some client. -/
def pending (state : Server) : List Response :=
  match state.senderPc with
  | .lockQueue =>
      state.messageQueue
  | .nextMessage remaining =>
      remaining
  | .lockSockets message _ remaining =>
      message :: remaining
  | .writing message _ targets remaining =>
      if targets = [] then
        remaining
      else
        message :: remaining
  | _ =>
      []

/-- The sending thread writes to listed clients only. -/
def TargetsListed (state : Server) : Prop :=
  ∀ ref ∈ state.targets, ref ∈ state.sockets.map Prod.fst

/-- `stop` has closed the sockets. -/
structure Stopped (state : Server) : Prop where
  killed : state.killed = true
  behind : state.listenPc.BehindClose
  closed : ∀ entry ∈ state.sockets, (state.heap entry.1).isOpen = false
  listed : state.TargetsListed

/-- No target is left outside of the section of the write loop. -/
theorem targets_of_outside
    (outside : state.senderPc.holdsSockets = false) :
    state.targets = [] := by
  unfold targets
  cases pc : state.senderPc <;> simp_all [SenderPc.holdsSockets]

/-- A step that keeps both threads' lists keeps the targets listed. -/
theorem TargetsListed.step
    {label : ServerLabel}
    (listed : state.TargetsListed)
    (locks : state.LocksHeld)
    (step : Step platform state label next) :
    next.TargetsListed := by
  cases step with
  | listen step =>
      have same : next.targets = state.targets := by
        unfold targets
        rw [step.senderPc]
      -- Inside of a section of the list there are no targets.
      have inside :
          state.listenPc.holdsSockets = true → next.TargetsListed := by
        intro listening
        have none := targets_of_outside (locks.sockets_exclusive listening)
        unfold TargetsListed
        rw [same, none]
        simp
      cases step with
      | @remove socket pc | associate pc | add pc | closeAll pc =>
          exact inside (by rw [pc]; rfl)
      | _ =>
          exact listed
  | send step =>
      cases step with
      | lockSockets pc free =>
          intro ref member
          exact member
      | write pc isOpen =>
          intro ref member
          refine listed ref ?_
          rw [targets, pc]
          exact List.mem_cons_of_mem _ member
      | serialiseThrows | writeThrows =>
          exact listed
      | _ =>
          intro ref member
          cases member

theorem targetsListed_of_run
    (reached :
      run? (step? platform) (initial descriptors) past = some state) :
    state.TargetsListed := by
  refine @LabelledRun.invariant _ _ _ _
    (fun _ state => state.TargetsListed) ?_ ?_ _ _ reached
  · intro ref member
    cases member
  · intro past state label next reached listed taken
    obtain ⟨alive, step⟩ := step?_sound taken
    exact listed.step (LocksHeld.of_run reached alive) step

/-- Behind its loop, `stop` has closed every listed socket. -/
def ClosedBehind (state : Server) : Prop :=
  state.killed = true →
    state.listenPc.BehindClose →
      ∀ entry ∈ state.sockets, (state.heap entry.1).isOpen = false

/-- Closing sockets leaves none of them open. -/
theorem closeSockets_isOpen
    (refs : List SocketRef) :
    ∀ ref,
      ref ∈ refs ∨ (state.heap ref).isOpen = false →
        ((refs.foldl closeSocket state).heap ref).isOpen = false := by
  induction refs generalizing state with
  | nil =>
      intro ref closed
      exact closed.resolve_left List.not_mem_nil
  | cons first rest inductionHypothesis =>
      intro ref closed
      rw [List.foldl_cons]
      apply inductionHypothesis
      have afterClose :
          ((state.closeSocket first).heap first).isOpen = false := by
        cases isOpen : (state.heap first).isOpen <;>
          simp [closeSocket, Socket.close, isOpen, setSocket]
      have others :
          ref ≠ first →
            (state.closeSocket first).heap ref = state.heap ref := by
        intro other
        cases isOpen : (state.heap first).isOpen <;>
          simp [closeSocket, Socket.close, isOpen, setSocket,
            Function.update_of_ne other]
      by_cases same : ref = first
      · subst same
        exact Or.inr afterClose
      · rw [others same]
        rcases closed with member | closed
        · exact Or.inl ((List.mem_cons.mp member).resolve_left same)
        · exact Or.inr closed

theorem ClosedBehind.step
    {label : ServerLabel}
    (closed : state.ClosedBehind)
    (stops : state.StopsWhenKilled)
    (step : Step platform state label next) :
    next.ClosedBehind := by
  intro killed behind
  cases step with
  | listen step =>
      cases step with
      | @remove socket pc =>
          obtain ⟨_, _, _, _, removed⟩ :=
            @removeEntry_frame state socket
          rw [removed] at killed
          simpa [pc] using stops killed
      | closeAll pc =>
          obtain ⟨heap, _, frame⟩ :=
            @closeSockets_frame state (state.sockets.map Prod.fst)
          intro entry member
          refine closeSockets_isOpen _ _ (Or.inl ?_)
          rw [frame] at member
          exact List.mem_map_of_mem member
      | lockKill pc | kill pc | unlockStop pc | leaveLoop pc =>
          exact closed killed (by rw [pc]; trivial)
      | _ =>
          simp_all [StopsWhenKilled, ListenPc.BehindClose, throw,
            setSocket]
  | send step =>
      have same : next.sockets = state.sockets ∧
          next.killed = state.killed ∧
          next.listenPc = state.listenPc := by
        cases step <;> exact ⟨rfl, rfl, rfl⟩
      intro entry member
      rw [same.1] at member
      rw [same.2.1] at killed
      rw [same.2.2] at behind
      exact step.stays_closed (closed killed behind entry member)

theorem closedBehind_of_run
    (reached :
      run? (step? platform) (initial descriptors) past = some state) :
    state.ClosedBehind := by
  refine @LabelledRun.invariant _ _ _ _
    (fun _ state => state.ClosedBehind) ?_ ?_ _ _ reached
  · intro _ _ entry member
    cases member
  · intro past state label next reached closed taken
    exact closed.step (stopsWhenKilled_of_run reached)
      (step?_sound taken).2

theorem stopped_of_run
    (reached :
      run? (step? platform) (initial descriptors) past = some state)
    (killed : state.killed = true)
    (behind : state.listenPc.BehindClose) :
    state.Stopped :=
  ⟨killed, behind, closedBehind_of_run reached killed behind,
    targetsListed_of_run reached⟩

/--
What a step does behind the loop of `stop`.  It keeps the list of clients; it
is no write and keeps whether something is pending, unless it is a write that
throws, with something pending and a client listed.
-/
theorem Stopped.step
    (writes : platform.Writes)
    (stopped : state.Stopped)
    (alive : state.fault = none)
    {label : ServerLabel}
    (step : Step platform state label next) :
    next.sockets = state.sockets ∧
      ((next.fault = none ∧
          next.listenPc.BehindClose ∧
          label.isSenderWrite = false ∧
          (state.sockets ≠ [] →
            (next.pending = [] ↔ state.pending = []))) ∨
        (next.WroteToClosed ∧
          next.senderPc ≠ .returned ∧
          state.sockets ≠ [] ∧
          state.pending ≠ [])) := by
  obtain ⟨killed, behind, closed, listed⟩ := stopped
  cases step with
  | listen step =>
      have samePending :
          next.messageQueue = state.messageQueue →
            next.pending = state.pending := by
        intro sameQueue
        unfold pending
        rw [step.senderPc, sameQueue]
      cases step with
      | leaveLoop pc | lockKill pc | kill pc | unlockStop pc =>
          refine ⟨rfl, Or.inl ⟨alive, trivial, rfl, fun _ => ?_⟩⟩
          rw [samePending rfl]
      | enterWait pc running =>
          rw [killed] at running
          contradiction
      | _ =>
          simp_all [ListenPc.BehindClose]
  | send step =>
      cases step with
      | sleep pc running =>
          rw [killed] at running
          contradiction
      | serialiseThrows pc unwritable =>
          exact (not_unwritable writes _ _ unwritable).elim
      | writeThrows pc isClosed =>
          refine ⟨rfl, Or.inr ⟨rfl, ?_, ?_, ?_⟩⟩
          · simp [throw, pc]
          · intro empty
            have target := listed _ (by
              rw [targets, pc]
              exact List.mem_cons_self)
            rw [empty] at target
            cases target
          · simp [pending, pc]
      | @write message text socket targets' remaining outcome pc isOpen =>
          have target := listed socket (by
            rw [targets, pc]
            exact List.mem_cons_self)
          obtain ⟨entry, member, rfl⟩ := List.mem_map.mp target
          rw [closed entry member] at isOpen
          contradiction
      | lockSockets pc =>
          refine ⟨rfl, Or.inl ⟨alive, behind, rfl, ?_⟩⟩
          intro nonempty
          simp [pending, pc, nonempty]
      | _ =>
          refine ⟨rfl, Or.inl ⟨alive, behind, rfl, fun _ => ?_⟩⟩
          simp_all [pending]

/-- What a run behind the loop of `stop` can come to. -/
theorem Stopped.run
    (writes : platform.Writes)
    (reached :
      run? (step? platform) (initial descriptors) past = some state)
    (alive : state.fault = none)
    (killed : state.killed = true)
    (behind : state.listenPc.BehindClose)
    (ran : run? (step? platform) state future = some final) :
    final.sockets = state.sockets ∧
      ((final.fault = none ∧
          final.listenPc.BehindClose ∧
          (∀ label ∈ future, label.isSenderWrite = false) ∧
          (state.sockets ≠ [] →
            (final.pending = [] ↔ state.pending = []))) ∨
        (final.WroteToClosed ∧
          state.sockets ≠ [] ∧
          state.pending ≠ [])) := by
  refine @LabelledRun.invariant _ _ _ _
    (fun future final =>
      final.sockets = state.sockets ∧
        ((final.fault = none ∧
            final.listenPc.BehindClose ∧
            (∀ label ∈ future, label.isSenderWrite = false) ∧
            (state.sockets ≠ [] →
              (final.pending = [] ↔ state.pending = []))) ∨
          (final.WroteToClosed ∧
            state.sockets ≠ [] ∧
            state.pending ≠ [])))
    ?_ ?_ _ _ ran
  · exact ⟨rfl, Or.inl ⟨alive, behind, by simp, fun _ => Iff.rfl⟩⟩
  · intro future middle label next through holds taken
    obtain ⟨living, step⟩ := step?_sound taken
    obtain ⟨same, holds⟩ := holds
    have whole :
        run? (step? platform) (initial descriptors) (past ++ future) =
          some middle := by
      rw [run?_append, reached]
      exact through
    have stopping : middle.Stopping := by
      refine stateInvariant (stopping_of_run reached killed) ?_ through
      intro state label next stopping taken
      exact stopping.step taken
    rcases holds with ⟨_, middleBehind, noWrite, keeps⟩ | ⟨threw, _⟩
    · have stopped :=
        stopped_of_run whole stopping.killed middleBehind
      obtain ⟨sameNext, outcome⟩ := stopped.step writes living step
      refine ⟨sameNext.trans same, ?_⟩
      rw [same] at outcome
      rcases outcome with
        ⟨nextAlive, nextBehind, noSend, keepsNext⟩ |
          ⟨threw, _, nonempty, isPending⟩
      · refine Or.inl ⟨nextAlive, nextBehind, ?_, ?_⟩
        · intro other member
          rcases List.mem_append.mp member with inFuture | isLast
          · exact noWrite other inFuture
          · rw [List.mem_singleton.mp isLast]
            exact noSend
        · intro nonempty
          exact (keepsNext nonempty).trans (keeps nonempty)
      · refine Or.inr ⟨threw, nonempty, ?_⟩
        exact mt (keeps nonempty).mpr isPending
    · rw [WroteToClosed, living] at threw
      contradiction

/--
Behind the loop of `stop`, `sendMessages` delivers nothing any more: it makes
no write, or it ends with the exception of a write to a closed socket.  Where
both threads have come to their end, it has thrown exactly if a response was
pending and a client listed.
-/
theorem stop_delivers_nothing
    (writes : platform.Writes)
    (reached :
      run? (step? platform) (initial descriptors) past = some state)
    (alive : state.fault = none)
    (killed : state.killed = true)
    (behind : state.listenPc.BehindClose) :
    ∀ future final,
      run? (step? platform) state future = some final →
        ((final.fault = none ∧
            ∀ label ∈ future, label.isSenderWrite = false) ∨
          final.WroteToClosed) ∧
        (Complete (step? platform) final →
          (final.WroteToClosed ↔
            state.pending ≠ [] ∧ state.sockets ≠ [])) := by
  intro future final ran
  obtain ⟨_, outcome⟩ :=
    Stopped.run writes reached alive killed behind ran
  have whole :
      run? (step? platform) (initial descriptors) (past ++ future) =
        some final := by
    rw [run?_append, reached]
    exact ran
  rcases outcome with
    ⟨finalAlive, _, noWrite, keeps⟩ | ⟨threw, nonempty, isPending⟩
  · refine ⟨Or.inl ⟨finalAlive, noWrite⟩, ?_⟩
    intro complete
    have notThrown : ¬ final.WroteToClosed := by
      rw [WroteToClosed, finalAlive]
      simp
    have sender :=
      (returned_of_complete whole finalAlive complete).2
    have nothing : final.pending = [] := by
      rw [pending, sender]
    refine iff_of_false notThrown ?_
    rintro ⟨isPending, nonempty⟩
    exact isPending ((keeps nonempty).mp nothing)
  · exact ⟨Or.inr threw, fun _ =>
      iff_of_true threw ⟨isPending, nonempty⟩⟩

/-- A login is queued when `stop` has closed the only client. -/
theorem stop_delivers_nothing_login :
    let login : Request.Login := ⟨0, ascii "ann"⟩
    let bytes :=
      (Request.login login).text .reference JsonText.escape
    let labels :=
      ServerLabel.connect [] 0 4 ++
        (ServerLabel.logIn [4] 0 bytes login 0 ++
          (.send .sleep ::
            (ServerLabel.wait [4] (.stdin (ascii "exit")) ++
              [.listen .lockStop, .listen .closeAll])))
    ∃ state,
      run? (step? .reference) (initial [0, 1, 2, 3]) labels =
          some state ∧
        ∀ future final,
          run? (step? .reference) state future = some final →
            Complete (step? .reference) final →
              final.WroteToClosed := by
  intro login bytes labels
  have finished :
      (run? (step? .reference) (initial [0, 1, 2, 3]) labels).map
          (fun state =>
            ((state.killed, state.listenPc, state.fault),
              (state.pending.length, state.sockets.length))) =
        some ((true, .lockKill, none), (1, 1)) := by
    decide
  obtain ⟨state, reached, control⟩ :=
    Option.map_eq_some_iff.mp finished
  simp only [Prod.mk.injEq] at control
  obtain ⟨⟨killed, pc, alive⟩, isPending, listed⟩ := control
  have writes := Platform.reference_writes
  refine ⟨state, reached, ?_⟩
  intro future final ran complete
  have throws :=
    (stop_delivers_nothing writes reached alive killed
      (by rw [pc]; trivial) future final ran).2 complete
  refine throws.mpr ⟨?_, ?_⟩
  · exact List.ne_nil_of_length_pos (by omega)
  · exact List.ne_nil_of_length_pos (by omega)

end Server

end ChatRelay

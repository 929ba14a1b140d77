import Mathlib.Data.List.Basic
import ChatRelay.ServerSteps

namespace ChatRelay

/-!
# Listed sockets that are open

A socket is closed by a read that returns 0 or -1, by a write that fails and
by `stop`.  None of them takes the socket out of the list before another thread
can look, and two of them never do.  As long as none of them happens, every
listed socket is open and the sending thread never writes to a closed one.
-/

namespace Server

/-- Every entry of `server::sockets` is an open socket. -/
def EntriesOpen (state : Server) : Prop :=
  ∀ entry ∈ state.sockets, (state.heap entry.1).isOpen = true

/--
When nobody holds the mutex of the list, the listed sockets are open; and the
sending thread has not written to a closed socket.
-/
def NoDeadEntry (state : Server) : Prop :=
  (state.socketsLock = none → state.EntriesOpen) ∧
    ¬ state.WroteToClosed

/--
A step that closes no socket: reads return data, writes succeed, and `stop`
finds no client to close.
-/
def ClosesNothing
    (state : Server) :
    ServerLabel → Prop
  | .listen (.read _ outcome _) =>
      ∃ bytes, outcome = .data bytes
  | .listen (.write _ _ outcome) =>
      ∃ length, outcome = .written length
  | .listen .closeAll =>
      state.sockets = []
  | .send (.write _ _ _ _ _ outcome) =>
      ∃ length, outcome = .written length
  | _ =>
      True

/-- Every socket object is open and nobody is about to remove one. -/
structure AllOpen (state : Server) : Prop where
  allocated_open :
    ∀ ref, ref < state.nextSocket → (state.heap ref).isOpen = true
  entries_allocated :
    ∀ ref ∈ state.sockets.map Prod.fst, ref < state.nextSocket
  targets_allocated :
    ∀ ref ∈ state.targets, ref < state.nextSocket
  joining_allocated :
    ∀ ref,
      state.listenPc = .lockAdd ref ∨ state.listenPc = .add ref →
      ref < state.nextSocket
  nobody_leaves :
    ∀ ref,
      state.listenPc ≠ .lockRemove ref ∧
        state.listenPc ≠ .remove ref

variable {platform : Platform}
variable {state next : Server}

theorem AllOpen.initial
    (descriptors : List Nat) :
    AllOpen (Server.initial descriptors) := by
  constructor <;> simp [Server.initial, targets]

/-- A step that closes nothing keeps every socket open. -/
theorem AllOpen.step
    {label : ServerLabel}
    (allOpen : state.AllOpen)
    (closes : ClosesNothing state label)
    (step : Step platform state label next) :
    next.AllOpen := by
  obtain ⟨allocated, entries, targets, joining, nobody⟩ := allOpen
  cases step with
  | listen step =>
      cases step with
      | readClosed | visitLoginThrows | writeThrows | acceptFailed =>
          exact ⟨allocated, entries, targets, joining, nobody⟩
      | readEnded =>
          obtain ⟨bytes, impossible⟩ := closes
          contradiction
      | readLogin | readMessage =>
          obtain ⟨bytes, rfl⟩ := closes
          simp only [Socket.afterRead, setSocket_self]
          exact ⟨allocated, entries, targets, by simp, by simp⟩
      | readMessageThrows | readThrows =>
          obtain ⟨bytes, rfl⟩ := closes
          simp only [Socket.afterRead, setSocket_self]
          exact ⟨allocated, entries, targets, joining, nobody⟩
      | write =>
          obtain ⟨length, rfl⟩ := closes
          simp only [Socket.afterWrite, setSocket_self]
          exact ⟨allocated, entries, targets, by simp, by simp⟩
      | lockRemove pc =>
          exact ((nobody _).1 pc).elim
      | remove pc =>
          exact ((nobody _).2 pc).elim
      | @associate socket username _ _ =>
          refine ⟨allocated, ?_, targets, by simp, by simp⟩
          intro ref member
          rw [map_associate socket username] at member
          exact entries ref member
      | @accept connectionFD _ _ =>
          refine ⟨?_, ?_, ?_, ?_, by simp⟩
          · intro ref below
            by_cases isNew : ref = state.nextSocket
            · subst ref
              simp [Socket.ofDescriptor]
            · simp only [Function.update_of_ne isNew]
              exact allocated ref
                (Nat.lt_of_le_of_ne (Nat.le_of_lt_succ below) isNew)
          · intro ref member
            exact Nat.lt_succ_of_lt (entries ref member)
          · intro ref member
            exact Nat.lt_succ_of_lt (targets ref member)
          · rintro ref (same | impossible)
            · cases same
              exact Nat.lt_succ_self _
            · contradiction
      | lockAdd pc =>
          refine ⟨allocated, entries, targets, ?_, by simp⟩
          rintro ref (impossible | same)
          · contradiction
          · cases same
            exact joining _ (Or.inl pc)
      | @add newClient pc =>
          refine ⟨allocated, ?_, targets, by simp, by simp⟩
          intro ref member
          simp only [List.map_append, List.map_singleton,
            List.mem_append, List.mem_singleton] at member
          rcases member with old | rfl
          · exact entries ref old
          · exact joining ref (Or.inr pc)
      | closeAll =>
          have noEntries : state.sockets = [] := closes
          simp only [noEntries, List.map_nil, List.foldl_nil]
          exact ⟨allocated, by simp, targets, by simp, by simp⟩
      | _ =>
          exact ⟨allocated, entries, targets, by simp, by simp⟩
  | send step =>
      cases step with
      | lockSockets =>
          exact ⟨allocated, entries, entries, joining, nobody⟩
      | @write message text socket rest remaining outcome pc =>
          obtain ⟨length, rfl⟩ := closes
          simp only [Socket.afterWrite, setSocket_self]
          refine ⟨allocated, entries, ?_, joining, nobody⟩
          intro ref member
          apply targets
          simp only [Server.targets, pc]
          exact List.mem_cons_of_mem socket member
      | writeThrows | serialiseThrows =>
          exact ⟨allocated, entries, targets, joining, nobody⟩
      | _ =>
          exact ⟨allocated, entries, by simp [Server.targets],
            joining, nobody⟩

/-- The writer fails with a parser error. -/
theorem unwritable_fault
    {response : Response}
    {fault : Fault}
    (unwritable : Unwritable platform response fault) :
    fault = .jsonParserError := by
  obtain ⟨pretty, failed⟩ := unwritable
  unfold MessageJson.«to» at failed
  split at failed
  · simpa using failed.symm
  · contradiction

/-- A sending thread whose targets are open writes to open sockets. -/
theorem AllOpen.not_wroteToClosed
    {label : ServerLabel}
    (allOpen : state.AllOpen)
    (alive : state.fault = none)
    (step : Step platform state label next) :
    ¬ next.WroteToClosed := by
  unfold WroteToClosed
  cases step with
  | listen step =>
      cases step with
      | @remove socket _ =>
          obtain ⟨_, _, _, _, removed⟩ :=
            @removeEntry_frame state socket
          rw [removed]
          simp [alive]
      | closeAll _ =>
          obtain ⟨_, _, closed⟩ :=
            @closeSockets_frame state (state.sockets.map Prod.fst)
          rw [closed]
          simp [alive]
      | _ =>
          simp [setSocket, throw, alive]
  | send step =>
      cases step with
      | @writeThrows _ _ socket _ _ _ pc closed =>
          have target : socket ∈ state.targets := by
            simp [targets, pc]
          have isOpen :=
            allOpen.allocated_open socket
              (allOpen.targets_allocated socket target)
          rw [isOpen] at closed
          contradiction
      | serialiseThrows _ unwritable =>
          rw [unwritable_fault unwritable]
          simp [throw]
      | _ =>
          simp [setSocket, alive]

/-- Open socket objects are open entries. -/
theorem AllOpen.entriesOpen
    (allOpen : state.AllOpen) :
    state.EntriesOpen := by
  intro entry member
  exact allOpen.allocated_open entry.1
    (allOpen.entries_allocated entry.1 (List.mem_map_of_mem member))

/--
In every run whose steps close no socket, whenever the mutex of the list is
free every listed socket is open, and the sending thread is never ended by a
write to a closed socket.
-/
theorem noDeadEntry_of_closesNothing
    (platform : Platform)
    (descriptors : List Nat)
    (labels : List ServerLabel)
    (closesNothing :
      LabelledRun.EveryStep (step? platform) (initial descriptors)
        (fun _ state label => ClosesNothing state label) labels) :
    LabelledRun.Always (step? platform) (initial descriptors)
      (fun _ state => state.NoDeadEntry) labels := by
  have kept :
      LabelledRun.Always (step? platform) (initial descriptors)
        (fun _ state => state.AllOpen ∧ ¬ state.WroteToClosed)
        labels := by
    refine LabelledRun.always_of_everyStep ?_ ?_ closesNothing
    · exact ⟨.initial descriptors,
        by simp [WroteToClosed, initial]⟩
    · rintro past state label next _ ⟨allOpen, _⟩ closes taken
      obtain ⟨alive, step⟩ := step?_sound taken
      exact ⟨allOpen.step closes step,
        allOpen.not_wroteToClosed alive step⟩
  intro past future shape state reached
  obtain ⟨allOpen, notWrote⟩ := kept past future shape state reached
  exact ⟨fun _ => allOpen.entriesOpen, notWrote⟩

/-- Two clients connect, one logs in, and both are written its login. -/
theorem noDeadEntry_logIn :
    let login : Request.Login := ⟨0, ascii "ann"⟩
    let bytes :=
      (Request.login login).text .reference JsonText.escape
    let response : Response :=
      .login (Response.Login.ofUsername 0 login.sender)
    let text :=
      JsonText.value JsonText.escape (response.toJson .reference)
    let labels :=
      ServerLabel.connect [] 0 4 ++
        (ServerLabel.connect [4] 1 5 ++
          (ServerLabel.logIn [5, 4] 0 bytes login 0 ++
            [.send .sleep, .send .lockQueue,
              .send (.serialise response []),
              .send (.lockSockets response text []),
              .send
                (.write response text 0 [1] [] (.written text.length)),
              .send
                (.write response text 1 [] [] (.written text.length)),
              .send (.unlockSockets response text []),
              .send .clear, .send .unlockQueue]))
    ((LabelledRun.run? (step? .reference) (initial [0, 1, 2, 3])
        labels).map Server.senderPc =
      some .loop) ∧
      LabelledRun.Always (step? .reference) (initial [0, 1, 2, 3])
        (fun _ state => state.NoDeadEntry) labels := by
  intro login bytes response text labels
  refine ⟨by decide, ?_⟩
  apply noDeadEntry_of_closesNothing
  apply LabelledRun.EveryStep.of_labels
  simp [labels, ServerLabel.connect, ServerLabel.logIn,
    ServerLabel.wait, ClosesNothing]

/--
A client logs in, and while its login response is being broadcast it ends the
connection: the sending thread comes between the read of 0 and the removal.
-/
theorem deadEntry_written :
    let login : Request.Login := ⟨0, ascii "ann"⟩
    let bytes :=
      (Request.login login).text .reference JsonText.escape
    let response : Response :=
      .login (Response.Login.ofUsername 0 login.sender)
    let text :=
      JsonText.value JsonText.escape (response.toJson .reference)
    let before :=
      ServerLabel.connect [] 0 4 ++
        (ServerLabel.logIn [4] 0 bytes login 0 ++
          (ServerLabel.wait [4] (.client 0) ++
            [.listen (.read 0 .closed 0)]))
    let broadcast : List ServerLabel :=
      [.send .sleep, .send .lockQueue,
        .send (.serialise response []),
        .send (.lockSockets response text []),
        .send (.write response text 0 [] [] (.written 0))]
    (LabelledRun.run? (step? .reference) (initial [0, 1, 2, 3])
        before).map
          (fun state =>
            (state.socketsLock,
              state.sockets.map fun entry =>
                (state.heap entry.1).isOpen)) =
        some (none, [false]) ∧
      (LabelledRun.run? (step? .reference) (initial [0, 1, 2, 3])
        (before ++ broadcast)).map Server.fault =
        some (some (.sendMessages,
          .runtimeError "Can not write to closed socket.")) := by
  decide

end Server

end ChatRelay

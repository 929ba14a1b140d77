import Mathlib.Data.List.Basic
import Mathlib.Data.List.Count
import ChatRelay.ServerLogin

namespace ChatRelay

/-!
# The life of a descriptor

A socket object owns the descriptor it is built on, and one flag says both that
the peer can be talked to and that the descriptor is still to be closed.  A
`recv` that returns 0 or -1 and a `write` that returns -1 clear the flag, and
then neither `close` nor the destructor closes the descriptor any more.
-/

/-! ### One socket object -/

/-- A call of a method of a socket, with the outcome of its system call. -/
inductive SocketCall where
  | read : RecvOutcome → SocketCall
  | readString : RecvOutcome → SocketCall
  | write : WriteOutcome → SocketCall
  | close : SocketCall
  deriving Repr, DecidableEq

/-- A system call on a descriptor. -/
inductive SystemCall where
  | recv : Nat → SystemCall
  | write : Nat → SystemCall
  | close : Nat → SystemCall
  deriving Repr, DecidableEq

/-- The system call fails, or reports that the peer has closed. -/
def SocketCall.Fails : SocketCall → Prop
  | .read (.data _) | .readString (.data _) | .write (.written _) | .close =>
      False
  | _ =>
      True

/-- No system call before `close` fails or reports that the peer has closed. -/
def NeverFails : List SocketCall → Prop
  | [] | .close :: _ =>
      True
  | call :: rest =>
      ¬ call.Fails ∧ NeverFails rest

namespace Socket

/--
`socket::read(std::string*)`: a closed socket is not read, and the value
returned says so; otherwise the flag changes as in the other `read`.
-/
def readString
    (socket : Socket)
    (outcome : RecvOutcome) :
    Socket × Int :=
  if !socket.isOpen then
    (socket, -1)
  else
    match outcome with
    | .failed =>
        ({ socket with isOpen := false }, -1)
    | .closed =>
        ({ socket with isOpen := false }, 0)
    | .data bytes =>
        (socket, bytes.length)

/-- A call of a method: the socket afterwards and the system calls made. -/
def perform
    (socket : Socket) :
    SocketCall → Socket × List SystemCall
  | .read outcome =>
      match socket.read outcome with
      | .error _ =>
          (socket, [])
      | .ok (after, _, _) =>
          (after, [.recv socket.fd])
  | .readString outcome =>
      ((socket.readString outcome).1,
        if socket.isOpen then [.recv socket.fd] else [])
  | .write outcome =>
      match socket.write outcome with
      | .error _ =>
          (socket, [])
      | .ok (after, _) =>
          (after, [.write socket.fd])
  | .close =>
      match socket.close with
      | (after, none) =>
          (after, [])
      | (after, some fd) =>
          (after, [.close fd])

/-- Calls in sequence. -/
def performAll
    (socket : Socket) :
    List SocketCall → Socket × List SystemCall
  | [] =>
      (socket, [])
  | call :: rest =>
      let (after, made) := socket.perform call
      let (final, more) := after.performAll rest
      (final, made ++ more)

/-- The destructor: it calls `close` on a socket that is open. -/
def destroy (socket : Socket) : List SystemCall :=
  if socket.isOpen then
    (socket.perform .close).2
  else
    []

/-- The system calls from the construction on a descriptor to the destruction. -/
def lifetime
    (fd : Nat)
    (calls : List SocketCall) :
    List SystemCall :=
  let (final, made) := (ofDescriptor fd).performAll calls
  made ++ final.destroy

/-- A closed socket stays closed, and no system call is made on it. -/
theorem perform_closed
    {socket : Socket}
    (closed : socket.isOpen = false)
    (call : SocketCall) :
    socket.perform call = (socket, []) := by
  cases call with
  | read outcome =>
      simp [perform, read_closed closed]
  | readString outcome =>
      simp [perform, readString, closed]
  | write outcome =>
      simp [perform, write_closed closed]
  | close =>
      simp [perform, Socket.close, closed]

theorem performAll_closed
    {socket : Socket}
    (closed : socket.isOpen = false)
    (calls : List SocketCall) :
    socket.performAll calls = (socket, []) := by
  induction calls with
  | nil =>
      rfl
  | cons call rest inductionHypothesis =>
      simp [performAll, perform_closed closed, inductionHypothesis]

/--
What a call does to an open socket: `close` closes the descriptor, a system call
that fails only clears the flag, and any other call leaves the socket alone.
-/
theorem perform_open
    {socket : Socket}
    (isOpen : socket.isOpen = true)
    (call : SocketCall) :
    (call = .close ∧
      socket.perform call =
        ({ socket with isOpen := false }, [.close socket.fd])) ∨
    (call.Fails ∧
      ∃ made,
        SystemCall.close socket.fd ∉ made ∧
          socket.perform call =
            ({ socket with isOpen := false }, made)) ∨
    (call ≠ .close ∧ ¬ call.Fails ∧
      ∃ made,
        SystemCall.close socket.fd ∉ made ∧
          socket.perform call = (socket, made)) := by
  cases call with
  | read outcome =>
      cases outcome <;>
        simp [perform, read_open isOpen, afterRead, SocketCall.Fails]
  | readString outcome =>
      cases outcome <;>
        simp [perform, readString, isOpen, SocketCall.Fails]
  | write outcome =>
      cases outcome <;>
        simp [perform, write_open isOpen, afterWrite, SocketCall.Fails]
  | close =>
      simp [perform, Socket.close, isOpen]

/-- How often a sequence of calls and the destruction close the descriptor. -/
theorem count_close_iff
    {socket : Socket}
    (isOpen : socket.isOpen = true)
    (calls : List SocketCall) :
    ((socket.performAll calls).2 ++
        (socket.performAll calls).1.destroy).count
          (.close socket.fd) = 1 ↔
      NeverFails calls := by
  induction calls with
  | nil =>
      simp [performAll, destroy, isOpen, perform, Socket.close, NeverFails]
  | cons call rest inductionHypothesis =>
      rcases perform_open isOpen call with
        ⟨rfl, done⟩ | ⟨fails, made, noClose, done⟩ |
          ⟨notClose, succeeds, made, noClose, done⟩
      · have closed :=
          @performAll_closed { socket with isOpen := false } rfl rest
        simp [performAll, done, closed, destroy, NeverFails]
      · have closed :=
          @performAll_closed { socket with isOpen := false } rfl rest
        have fails' : ¬ NeverFails (call :: rest) := by
          cases call <;> simp_all [NeverFails, SocketCall.Fails]
        simp [performAll, done, closed, destroy, fails',
          List.count_eq_zero.mpr noClose]
      · have continues :
            NeverFails (call :: rest) ↔ NeverFails rest := by
          cases call <;> simp_all [NeverFails]
        rw [continues, ← inductionHypothesis]
        simp [performAll, done, List.count_append,
          List.count_eq_zero.mpr noClose]

end Socket

/-! ### The descriptors of the server -/

namespace Server

open LabelledRun (run? Always EveryStep stateInvariant
  always_iff_everyStep)

/-- The connection that `onSocketServer` has accepted and not yet listed. -/
def joining (state : Server) : List SocketRef :=
  match state.listenPc with
  | .lockAdd newClient | .add newClient =>
      [newClient]
  | _ =>
      []

/-- The descriptors of the connections, the one that is joining included. -/
def connectionDescriptors (state : Server) : List Nat :=
  (state.joining ++ state.sockets.map Prod.fst).map fun ref =>
    (state.heap ref).fd

/--
Besides those that were open at the start, the open descriptors are exactly
those of the connections.
-/
def Accounted
    (descriptors : List Nat)
    (state : Server) : Prop :=
  state.openDescriptors.Perm
    (state.connectionDescriptors ++ descriptors)

/--
No connection is removed because its client has ended it, and `stop` finds no
listed connection open.
-/
def ReleasesNothing (state : Server) : ServerLabel → Prop
  | .listen (.remove _) =>
      False
  | .listen .closeAll =>
      ∀ entry ∈ state.sockets, (state.heap entry.1).isOpen = false
  | _ =>
      True

variable {platform : Platform}
variable {state next : Server}

/-- Closing a closed socket changes nothing. -/
theorem closeSocket_closed
    {ref : SocketRef}
    (closed : (state.heap ref).isOpen = false) :
    state.closeSocket ref = state := by
  simp [closeSocket, Socket.close, closed, setSocket]

theorem closeSockets_closed
    {refs : List SocketRef}
    (closed : ∀ ref ∈ refs, (state.heap ref).isOpen = false) :
    refs.foldl closeSocket state = state := by
  induction refs with
  | nil =>
      rfl
  | cons ref rest inductionHypothesis =>
      rw [List.foldl_cons,
        closeSocket_closed (closed ref (List.mem_cons_self ..))]
      exact inductionHypothesis fun ref member =>
        closed ref (List.mem_cons_of_mem _ member)

/-- Closing sockets keeps their descriptors and opens none. -/
theorem closeSockets_descriptors
    (refs : List SocketRef) :
    (∀ ref,
      ((refs.foldl closeSocket state).heap ref).fd =
        (state.heap ref).fd) ∧
      (refs.foldl closeSocket state).openDescriptors.length ≤
        state.openDescriptors.length := by
  induction refs generalizing state with
  | nil =>
      exact ⟨fun _ => rfl, Nat.le_refl _⟩
  | cons ref rest inductionHypothesis =>
      obtain ⟨same, fewer⟩ := @inductionHypothesis (state.closeSocket ref)
      rw [List.foldl_cons]
      have first :
          (∀ other,
            ((state.closeSocket ref).heap other).fd =
              (state.heap other).fd) ∧
            (state.closeSocket ref).openDescriptors.length ≤
              state.openDescriptors.length := by
        cases isOpen : (state.heap ref).isOpen with
        | false =>
            rw [closeSocket_closed isOpen]
            exact ⟨fun _ => rfl, Nat.le_refl _⟩
        | true =>
            simp only [closeSocket, Socket.close, isOpen, if_true,
              setSocket]
            refine ⟨?_, List.length_erase_le⟩
            intro other
            by_cases same : other = ref
            · subst other
              rw [Function.update_self]
            · rw [Function.update_of_ne same]
      exact ⟨fun other => (same other).trans (first.1 other),
        Nat.le_trans fewer first.2⟩

/-- Closing sockets of which one is open closes a descriptor. -/
theorem closeSockets_fewer
    {refs : List SocketRef}
    (ledger :
      ∀ ref ∈ refs, (state.heap ref).fd ∈ state.openDescriptors)
    (someOpen : ∃ ref ∈ refs, (state.heap ref).isOpen = true) :
    (refs.foldl closeSocket state).openDescriptors.length <
      state.openDescriptors.length := by
  induction refs with
  | nil =>
      simp at someOpen
  | cons ref rest inductionHypothesis =>
      rw [List.foldl_cons]
      cases isOpen : (state.heap ref).isOpen with
      | false =>
          rw [closeSocket_closed isOpen]
          refine inductionHypothesis ?_ ?_
          · exact fun ref member =>
              ledger ref (List.mem_cons_of_mem _ member)
          · obtain ⟨other, member, otherOpen⟩ := someOpen
            rcases List.mem_cons.mp member with rfl | inRest
            · rw [isOpen] at otherOpen
              contradiction
            · exact ⟨other, inRest, otherOpen⟩
      | true =>
          refine Nat.lt_of_le_of_lt
            (closeSockets_descriptors rest).2 ?_
          have member := ledger ref (List.mem_cons_self ..)
          simp only [closeSocket, Socket.close, isOpen, if_true]
          rw [List.length_erase_of_mem member]
          exact Nat.sub_lt (List.length_pos_of_mem member) Nat.one_pos

/-- Once the process has been told to end, no handler but `stop` runs. -/
def StopsWhenKilled (state : Server) : Prop :=
  state.killed = true →
    state.listenPc = .loop ∨ state.listenPc = .returned ∨
      state.listenPc = .lockStop ∨ state.listenPc = .closeAll ∨
      state.listenPc = .lockKill ∨ state.listenPc = .kill ∨
      state.listenPc = .unlockStop

/-- A connection that is being removed has been closed by a read of 0. -/
def RemovesClosed (state : Server) : Prop :=
  ∀ socket,
    state.listenPc = .lockRemove socket ∨
      state.listenPc = .remove socket →
    (state.heap socket).isOpen = false

theorem Step.stopsWhenKilled
    {label : ServerLabel}
    (step : Step platform state label next)
    (stops : state.StopsWhenKilled) :
    next.StopsWhenKilled := by
  unfold StopsWhenKilled at *
  cases step with
  | listen step =>
      cases step with
      | @remove socket pc =>
          simp
      | closeAll pc =>
          simp
      | _ =>
          simp_all [throw, setSocket]
  | send step =>
      cases step <;> exact stops

/-- A step of `sendMessages` opens no socket. -/
theorem SenderStep.stays_closed
    {action : SenderAction}
    (step : SenderStep platform state action next)
    {ref : SocketRef}
    (closed : (state.heap ref).isOpen = false) :
    (next.heap ref).isOpen = false := by
  cases step with
  | @write message text socket targets remaining outcome pc isOpen =>
      have other : ref ≠ socket := by
        rintro rfl
        rw [closed] at isOpen
        contradiction
      simpa [setSocket, Function.update_of_ne other] using closed
  | _ =>
      exact closed

theorem Step.removesClosed
    {label : ServerLabel}
    (step : Step platform state label next)
    (removes : state.RemovesClosed) :
    next.RemovesClosed := by
  intro socket leaving
  cases step with
  | listen step =>
      cases step with
      | @readEnded reader now pc isOpen =>
          simp only [ListenPc.lockRemove.injEq, reduceCtorEq,
            or_false] at leaving
          subst reader
          simp [setSocket, Socket.afterRead]
      | @lockRemove leaver pc free =>
          simp only [ListenPc.remove.injEq, reduceCtorEq,
            false_or] at leaving
          subst leaver
          exact removes socket (Or.inl pc)
      | readClosed | readMessageThrows | readThrows |
        visitLoginThrows | writeThrows | acceptFailed =>
          simp_all [throw, setSocket]
      | _ =>
          simp at leaving
  | send step =>
      refine step.stays_closed (removes socket ?_)
      cases step <;> exact leaving

/-- A method that keeps the descriptor of a socket keeps all of them. -/
theorem setSocket_fd
    {ref : SocketRef}
    {socket : Socket}
    (same : socket.fd = (state.heap ref).fd)
    (other : SocketRef) :
    ((state.setSocket ref socket).heap other).fd =
      (state.heap other).fd :=
  congrFun
    (congrArg ConnectionTable.descriptor (table_setSocket same)) other

/-- A step that neither opens nor lists anything. -/
theorem connectionDescriptors_same
    (descriptors : ∀ ref, (next.heap ref).fd = (state.heap ref).fd)
    (listed : next.sockets.map Prod.fst = state.sockets.map Prod.fst)
    (joining : next.joining = state.joining) :
    next.connectionDescriptors = state.connectionDescriptors := by
  unfold connectionDescriptors
  simp only [listed, joining, descriptors]

/-- Descriptors are opened for connections, and none is closed. -/
theorem Step.opens
    {label : ServerLabel}
    (step : Step platform state label next)
    (fresh :
      state.listenPc = .accept →
      ∀ ref ∈ state.sockets.map Prod.fst, ref ≠ state.nextSocket)
    (noRemove : ∀ socket, label ≠ .listen (.remove socket))
    (noStop : label ≠ .listen .closeAll) :
    ∃ opened,
      next.openDescriptors = opened ++ state.openDescriptors ∧
        next.connectionDescriptors.Perm
          (opened ++ state.connectionDescriptors) := by
  have quiet
      (descriptors : ∀ ref, (next.heap ref).fd = (state.heap ref).fd)
      (opened : next.openDescriptors = state.openDescriptors)
      (listed : next.sockets.map Prod.fst = state.sockets.map Prod.fst)
      (joining : next.joining = state.joining) :
      ∃ opened,
        next.openDescriptors = opened ++ state.openDescriptors ∧
          next.connectionDescriptors.Perm
            (opened ++ state.connectionDescriptors) := by
    refine ⟨[], opened, ?_⟩
    rw [connectionDescriptors_same descriptors listed joining]
    exact .refl _
  cases step with
  | listen step =>
      cases step with
      | remove pc =>
          exact absurd rfl (noRemove _)
      | closeAll pc =>
          exact absurd rfl noStop
      | @accept connectionFD pc unused =>
          refine ⟨[connectionFD], rfl, ?_⟩
          have listed :
              (state.sockets.map Prod.fst).map
                  (fun ref =>
                    (Function.update state.heap state.nextSocket
                      (Socket.ofDescriptor connectionFD) ref).fd) =
                (state.sockets.map Prod.fst).map
                  (fun ref => (state.heap ref).fd) := by
            apply List.map_congr_left
            intro ref member
            rw [Function.update_of_ne (fresh pc ref member)]
          simp only [connectionDescriptors, Server.joining, pc,
            List.nil_append, List.singleton_append, List.map_cons,
            listed, Function.update_self]
          exact .refl _
      | @add newClient pc =>
          refine ⟨[], rfl, ?_⟩
          simp only [connectionDescriptors, Server.joining, pc,
            List.nil_append, List.map_append, List.map_cons,
            List.map_nil, List.singleton_append]
          exact List.perm_append_singleton _ _
      | associate pc =>
          refine quiet (fun _ => rfl) rfl (map_associate _ _) ?_
          simp [Server.joining, pc]
      | readEnded | readLogin | readMessage | readMessageThrows |
        readThrows =>
          refine quiet ?_ rfl rfl ?_
          · exact setSocket_fd (Socket.afterRead_fd _ _)
          · simp_all [Server.joining, throw, setSocket]
      | write pc _ =>
          refine quiet ?_ rfl rfl ?_
          · exact setSocket_fd (Socket.afterWrite_fd _ _)
          · simp [Server.joining, pc]
      | _ =>
          refine quiet (fun _ => rfl) rfl rfl ?_
          simp_all [Server.joining, throw]
  | send step =>
      obtain ⟨pc, sockets, descriptors⟩ := step.frame
      refine quiet descriptors ?_ (by rw [sockets]) ?_
      · cases step <;> rfl
      · unfold Server.joining
        rw [pc]

/-- The removal of an ended connection leaves its descriptor open. -/
theorem remove_leaks
    {socket : SocketRef}
    (wellFormed : state.table.WellFormed)
    (listed : socket ∈ state.sockets.map Prod.fst)
    (closed : (state.heap socket).isOpen = false) :
    (state.removeEntry socket).openDescriptors = state.openDescriptors ∧
      (state.removeEntry socket).heap = state.heap ∧
      (state.sockets.map Prod.fst).Perm
        (socket :: (state.removeEntry socket).sockets.map Prod.fst) := by
  have removed :
      state.removeEntry socket =
        { state with
          _sockets := state._sockets.erase socket
          sockets := ConnectionTable.without state.sockets socket } := by
    rw [removeEntry_listed wellFormed listed]
    unfold dropPointer
    split
    · rfl
    · exact closeSocket_closed closed
  rw [removed]
  refine ⟨rfl, rfl, ?_⟩
  rw [ConnectionTable.map_without]
  exact List.perm_cons_erase listed

section Runs

variable {descriptors : List Nat}
variable {labels : List ServerLabel}

theorem stopsWhenKilled_of_run
    (reached :
      run? (step? platform) (initial descriptors) labels = some state) :
    state.StopsWhenKilled := by
  refine stateInvariant ?_ ?_ reached
  · intro killed
    contradiction
  · intro state label next stops taken
    exact (step?_sound taken).2.stopsWhenKilled stops

theorem removesClosed_of_run
    (reached :
      run? (step? platform) (initial descriptors) labels = some state) :
    state.RemovesClosed := by
  refine stateInvariant ?_ ?_ reached
  · simp [RemovesClosed, initial]
  · intro state label next removes taken
    exact (step?_sound taken).2.removesClosed removes

/-- The table is well formed while the listener has not begun to stop. -/
theorem wellFormed_of_listening
    (reached :
      run? (step? platform) (initial descriptors) labels = some state)
    (alive : state.fault = none)
    (listening :
      ¬ (state.listenPc = .loop ∨ state.listenPc = .returned ∨
        state.listenPc = .lockStop ∨ state.listenPc = .closeAll ∨
        state.listenPc = .lockKill ∨ state.listenPc = .kill ∨
        state.listenPc = .unlockStop)) :
    state.table.WellFormed := by
  have running : state.killed = false := by
    rw [Bool.eq_false_iff]
    intro killed
    exact listening (stopsWhenKilled_of_run reached killed)
  exact wellFormed_of_run reached alive running

/-- A new connection is none of the listed ones. -/
theorem accept_fresh
    (reached :
      run? (step? platform) (initial descriptors) labels = some state)
    (alive : state.fault = none)
    (pc : state.listenPc = .accept) :
    ∀ ref ∈ state.sockets.map Prod.fst, ref ≠ state.nextSocket := by
  have wellFormed :=
    wellFormed_of_listening reached alive (by simp [pc])
  intro ref member
  exact Nat.ne_of_lt (wellFormed.connections_allocated member)

/-- The close branch of `onSocket` gives one descriptor up unclosed. -/
theorem Step.leaks
    {socket : SocketRef}
    (reached :
      run? (step? platform) (initial descriptors) labels = some state)
    (alive : state.fault = none)
    (step : Step platform state (.listen (.remove socket)) next) :
    next.openDescriptors = state.openDescriptors ∧
      state.connectionDescriptors.Perm
        ((state.heap socket).fd :: next.connectionDescriptors) := by
  cases step with
  | listen step =>
      cases step with
      | remove pc =>
          have wellFormed :=
            wellFormed_of_listening reached alive (by simp [pc])
          have listed : socket ∈ state.sockets.map Prod.fst :=
            wellFormed.serving_listed socket
              (Or.inr (Or.inl (congrArg tablePhase pc)))
          have closed :=
            removesClosed_of_run reached socket (Or.inr pc)
          obtain ⟨opened, heap, sockets⟩ :=
            remove_leaks wellFormed listed closed
          refine ⟨opened, ?_⟩
          simp only [connectionDescriptors, Server.joining, pc,
            List.nil_append, heap]
          exact sockets.map _

/-- `stop` leaves the connections listed that it closes. -/
theorem accounted_closeAll
    (accounted : Accounted descriptors state)
    (step : Step platform state (.listen .closeAll) next) :
    Accounted descriptors next ↔
      state.ReleasesNothing (.listen .closeAll) := by
  cases step with
  | listen step =>
      cases step with
      | closeAll pc =>
          obtain ⟨same, _⟩ :=
            @closeSockets_descriptors state
              (state.sockets.map Prod.fst)
          have listed :
              ∀ ref ∈ state.sockets.map Prod.fst,
                (state.heap ref).fd ∈ state.openDescriptors := by
            intro ref member
            refine accounted.mem_iff.mpr (List.mem_append_left _ ?_)
            exact List.mem_map_of_mem (List.mem_append_right _ member)
          have kept :
              Server.connectionDescriptors
                  { (state.sockets.map Prod.fst).foldl closeSocket
                      state with
                    listenPc := .lockKill } =
                state.connectionDescriptors := by
            obtain ⟨_, _, frame⟩ :=
              @closeSockets_frame state (state.sockets.map Prod.fst)
            refine connectionDescriptors_same same ?_ ?_
            · rw [frame]
            · simp [Server.joining, pc]
          unfold Accounted
          rw [kept]
          constructor
          · intro after entry member
            by_contra isOpen
            have someOpen :
                ∃ ref ∈ state.sockets.map Prod.fst,
                  (state.heap ref).isOpen = true :=
              ⟨entry.1, List.mem_map_of_mem member, by
                simpa using isOpen⟩
            have fewer := closeSockets_fewer listed someOpen
            have before := accounted.length_eq
            have now := after.length_eq
            dsimp only at now
            omega
          · intro closed
            have nothing :
                (state.sockets.map Prod.fst).foldl closeSocket state =
                  state := by
              refine closeSockets_closed ?_
              intro ref member
              obtain ⟨entry, listed, rfl⟩ := List.mem_map.mp member
              exact closed entry listed
            rw [nothing]
            exact accounted

/-- A step keeps the descriptors accounted for exactly if it releases none. -/
theorem accounted_step
    {label : ServerLabel}
    (reached :
      run? (step? platform) (initial descriptors) labels = some state)
    (accounted : Accounted descriptors state)
    (taken : state.step? platform label = some next) :
    Accounted descriptors next ↔ state.ReleasesNothing label := by
  obtain ⟨alive, step⟩ := step?_sound taken
  by_cases removes : ∃ socket, label = .listen (.remove socket)
  · obtain ⟨socket, rfl⟩ := removes
    obtain ⟨opened, leaked⟩ := step.leaks reached alive
    refine iff_of_false ?_ id
    intro after
    have before := accounted.length_eq
    have now := after.length_eq
    have fewer := leaked.length_eq
    rw [opened] at now
    simp only [List.length_append, List.length_cons] at before now fewer
    omega
  · by_cases stops : label = .listen .closeAll
    · subst stops
      exact accounted_closeAll accounted step
    · obtain ⟨opened, more, listed⟩ :=
        step.opens (accept_fresh reached alive)
          (fun socket same => removes ⟨socket, same⟩) stops
      refine iff_of_true ?_ ?_
      · unfold Accounted at *
        rw [more]
        calc
          (opened ++ state.openDescriptors).Perm
              (opened ++
                (state.connectionDescriptors ++ descriptors)) :=
            accounted.append_left opened
          _ = opened ++ state.connectionDescriptors ++ descriptors :=
            (List.append_assoc ..).symm
          List.Perm _ (next.connectionDescriptors ++ descriptors) :=
            (listed.append_right descriptors).symm
      · unfold ReleasesNothing
        split <;> simp_all

/-- How many connections have been removed. -/
def removals (labels : List ServerLabel) : Nat :=
  labels.countP fun
    | .listen (.remove _) =>
        true
    | _ =>
        false

/--
Before `stop`, every removed connection has left one descriptor open that
belongs to no connection.
-/
theorem descriptors_leak
    (reached :
      run? (step? platform) (initial descriptors) labels = some state)
    (running : state.killed = false) :
    ∃ leaked : List Nat,
      leaked.length = removals labels ∧
        state.openDescriptors.Perm
          (state.connectionDescriptors ++ (leaked ++ descriptors)) := by
  have keeps :
      state.killed = false →
      ∃ leaked : List Nat,
        leaked.length = removals labels ∧
          state.openDescriptors.Perm
            (state.connectionDescriptors ++
              (leaked ++ descriptors)) := by
    refine @LabelledRun.invariant _ _ _ _
      (fun labels state =>
        state.killed = false →
        ∃ leaked : List Nat,
          leaked.length = removals labels ∧
            state.openDescriptors.Perm
              (state.connectionDescriptors ++
                (leaked ++ descriptors)))
      ?_ ?_ _ _ reached
    · intro _
      exact ⟨[], rfl, .refl _⟩
    · intro past state label next before ledger taken running
      obtain ⟨alive, step⟩ := step?_sound taken
      have earlier := step.not_killed running
      obtain ⟨leaked, count, perm⟩ := ledger earlier
      unfold removals at *
      rw [List.countP_append]
      by_cases removes : ∃ socket, label = .listen (.remove socket)
      · obtain ⟨socket, rfl⟩ := removes
        obtain ⟨opened, listed⟩ := step.leaks before alive
        refine ⟨(state.heap socket).fd :: leaked, by simp [count], ?_⟩
        rw [opened]
        refine perm.trans ((listed.append_right _).trans ?_)
        exact List.perm_middle.symm
      · have notStop : label ≠ .listen .closeAll := by
          rintro rfl
          cases step with
          | listen step =>
              cases step with
              | closeAll pc =>
                  have told :=
                    (keepsTable before).stops (Or.inr (Or.inl pc))
                  rw [earlier] at told
                  contradiction
        obtain ⟨gained, more, listed⟩ :=
          step.opens (accept_fresh before alive)
            (fun socket same => removes ⟨socket, same⟩) notStop
        refine ⟨leaked, ?_, ?_⟩
        · rw [count]
          cases label with
          | listen action =>
              cases action <;> simp_all
          | send action =>
              simp
        · rw [more]
          refine (perm.append_left gained).trans ?_
          rw [← List.append_assoc]
          exact listed.symm.append_right _
  exact keeps running

end Runs

/--
A socket object closes its descriptor once exactly if no system call on it fails
or finds the connection ended before it is closed, and it makes no system call
once it is closed; the descriptors of a run of the server are those of its
connections all along exactly if no connection is ever removed and `stop` finds
none open; and each removal before `stop` costs one descriptor.
-/
theorem descriptors_released_iff
    (platform : Platform)
    (descriptors : List Nat)
    (labels : List ServerLabel)
    (final : Server)
    (reached :
      run? (step? platform) (initial descriptors) labels = some final) :
    (∀ fd calls,
      (Socket.lifetime fd calls).count (.close fd) = 1 ↔
        NeverFails calls) ∧
    (∀ fd past rest,
      ((Socket.ofDescriptor fd).performAll past).1.isOpen = false →
      (((Socket.ofDescriptor fd).performAll past).1.performAll
        rest).2 = []) ∧
    (Always (step? platform) (initial descriptors)
        (fun _ state => Accounted descriptors state) labels ↔
      EveryStep (step? platform) (initial descriptors)
        (fun _ state label => state.ReleasesNothing label) labels) ∧
    (final.killed = false →
      ∃ leaked : List Nat,
        leaked.length = removals labels ∧
          final.openDescriptors.Perm
            (final.connectionDescriptors ++
              (leaked ++ descriptors))) := by
  refine ⟨?_, ?_, ?_, descriptors_leak reached⟩
  · intro fd calls
    exact Socket.count_close_iff
      (show (Socket.ofDescriptor fd).isOpen = true from rfl) calls
  · intro fd past rest closed
    rw [Socket.performAll_closed closed]
  · refine always_iff_everyStep ?_ ?_ reached
    · exact .refl _
    · intro past state label next before accounted taken
      exact accounted_step before accounted taken

/-- One of two clients leaves, and the server is stopped with the other one. -/
theorem descriptors_released_iff_connect :
    let labels :=
      ServerLabel.connect [] 0 4 ++
        (ServerLabel.connect [4] 1 5 ++
          (ServerLabel.wait [5, 4] (.client 0) ++
            ([.listen (.read 0 .closed 0), .listen (.lockRemove 0),
                .listen (.remove 0)] ++
              (ServerLabel.wait [5] (.stdin (ascii "exit")) ++
                [.listen .lockStop, .listen .closeAll,
                  .listen .lockKill, .listen .kill,
                  .listen .unlockStop]))))
    ∃ final,
      run? (step? .reference) (initial [0, 1, 2, 3]) labels =
          some final ∧
        (final.openDescriptors, final.sockets, removals labels) =
            ([4, 0, 1, 2, 3], [(1, [])], 1) ∧
          (Always (step? .reference) (initial [0, 1, 2, 3])
              (fun _ state => Accounted [0, 1, 2, 3] state) labels ↔
            EveryStep (step? .reference) (initial [0, 1, 2, 3])
              (fun _ state label => state.ReleasesNothing label)
              labels) := by
  intro labels
  have finished :
      (run? (step? .reference) (initial [0, 1, 2, 3]) labels).map
          (fun final =>
            (final.openDescriptors, final.sockets, removals labels)) =
        some ([4, 0, 1, 2, 3], [(1, [])], 1) := by
    decide
  obtain ⟨final, reached, values⟩ := Option.map_eq_some_iff.mp finished
  exact ⟨final, reached, values,
    (descriptors_released_iff .reference [0, 1, 2, 3] labels final
      reached).2.2.1⟩

/--
A read of 0 keeps a socket from ever closing its descriptor; a client that has
come and gone leaves its descriptor open, and no connection has it.
-/
theorem descriptor_leaked :
    let labels :=
      ServerLabel.connect [] 0 4 ++
        (ServerLabel.wait [4] (.client 0) ++
          [.listen (.read 0 .closed 0), .listen (.lockRemove 0),
            .listen (.remove 0)])
    Socket.lifetime 4 [.read .closed, .close] = [.recv 4] ∧
      (run? (step? .reference) (initial [0, 1, 2, 3]) labels).map
          (fun final => (final.openDescriptors, final.sockets)) =
        some ([4, 0, 1, 2, 3], []) ∧
      ¬ Always (step? .reference) (initial [0, 1, 2, 3])
          (fun _ state => Accounted [0, 1, 2, 3] state) labels := by
  intro labels
  have values :
      (run? (step? .reference) (initial [0, 1, 2, 3]) labels).map
          (fun final =>
            (final.openDescriptors, final.connectionDescriptors)) =
        some ([4, 0, 1, 2, 3], []) := by
    decide
  refine ⟨by decide, by decide, ?_⟩
  intro always
  obtain ⟨final, reached, same⟩ := Option.map_eq_some_iff.mp values
  obtain ⟨opened, connections⟩ := Prod.mk.inj same
  have accounted : Accounted [0, 1, 2, 3] final := always.final reached
  have lengths := accounted.length_eq
  rw [opened, connections] at lengths
  exact absurd lengths (by decide)

end Server

end ChatRelay

import Mathlib.Data.List.Basic
import ChatRelay.ConnectionTable
import ChatRelay.ServerSteps

namespace ChatRelay

/-!
# The name table of the server

`server::sockets` and `flex_waiter::_sockets` are kept as a connection table is
kept: the thread that runs `listen` is the owner of the table, and every step
of the process before `stop` is a step of the table or leaves it alone.  The
three updates that the server keys by descriptor are the updates that the table
keys by connection, because listed connections have distinct descriptors.
-/

namespace Server

/-- The connection that the listening thread works on. -/
def tablePhase : ListenPc → TablePhase Bytes
  | .read socket =>
      .serving socket
  | .lockNames socket _ =>
      .serving socket
  | .visitLogin socket _ =>
      .serving socket
  | .write socket _ =>
      .serving socket
  | .lockQueue socket _ =>
      .serving socket
  | .pushBack socket _ =>
      .serving socket
  | .lockRemove socket =>
      .leaving socket
  | .remove socket =>
      .leaving socket
  | .lockAssociate socket username _ =>
      .renaming socket username
  | .associate socket username _ =>
      .renaming socket username
  | .lockAdd newClient =>
      .joining newClient
  | .add newClient =>
      .joining newClient
  | _ =>
      .idle

/-- The table that a state of the process holds. -/
def table (state : Server) : ConnectionTable Bytes where
  descriptor := fun socket => (state.heap socket).fd
  nextConnection := state.nextSocket
  openDescriptors := state.openDescriptors
  entries := state.sockets
  watched := state._sockets
  phase := tablePhase state.listenPc

/-- What a step of the process means for the table. -/
def tableEvent : ServerLabel → TableEvent Bytes
  | .listen (.accept newClient connectionFD) =>
      .connect newClient connectionFD
  | .listen (.add newClient) =>
      .join newClient
  | .listen (.read socket .closed _) =>
      .depart socket
  | .listen (.remove socket) =>
      .remove socket
  | .listen (.visitLogin socket login _ (.login _)) =>
      .grant socket login.sender
  | .listen (.associate socket username _) =>
      .rename socket username
  | _ =>
      .quiet

/-- Inside `stop` the process has been told to end. -/
def StopsOnlyKilled (state : Server) : Prop :=
  (state.listenPc = .lockStop ∨
    state.listenPc = .closeAll ∨
    state.listenPc = .lockKill ∨
    state.listenPc = .kill ∨
    state.listenPc = .unlockStop) →
  state.killed = true

variable {platform : Platform}
variable {state next : Server}

/-- Between two handlers the table is not worked on. -/
theorem InWait.idle
    (between : state.InWait) :
    state.table.phase = .idle := by
  unfold InWait at between
  unfold table
  cases pc : state.listenPc <;> rw [pc] at between <;>
    first
      | rfl
      | exact between.elim

/-- A method that keeps the descriptor of a socket keeps the table. -/
theorem table_setSocket
    {ref : SocketRef}
    {socket : Socket}
    (sameDescriptor : socket.fd = (state.heap ref).fd) :
    (state.setSocket ref socket).table = state.table := by
  have descriptors :
      (fun tested =>
        (Function.update state.heap ref socket tested).fd) =
        fun tested => (state.heap tested).fd := by
    funext tested
    by_cases same : tested = ref
    · subst tested
      rw [Function.update_self, sameDescriptor]
    · rw [Function.update_of_ne same]
  simp only [table, setSocket, descriptors]

/-- Among listed connections, equal descriptors mean the same connection. -/
theorem sameDescriptor_eq
    (wellFormed : state.table.WellFormed)
    {socket : SocketRef}
    (listed : socket ∈ state.sockets.map Prod.fst)
    {entry : Entry}
    (member : entry ∈ state.sockets) :
    state.sameDescriptor socket entry = (entry.1 == socket) := by
  have sublist := @ConnectionTable.connections_sublist _ state.table
  have entryListed : entry.1 ∈ state.sockets.map Prod.fst :=
    List.mem_map_of_mem member
  rw [Bool.eq_iff_iff]
  simp only [sameDescriptor, beq_iff_eq]
  constructor
  · intro same
    exact
      (wellFormed.descriptor_injective (sublist.subset listed)
        (sublist.subset entryListed) same).symm
  · intro same
    rw [same]

/-- The loop of `onSocket` renames one connection. -/
theorem associate_eq_renamed
    (wellFormed : state.table.WellFormed)
    {socket : SocketRef}
    (listed : socket ∈ state.sockets.map Prod.fst)
    (username : Bytes) :
    state.associate socket username =
      ConnectionTable.renamed state.sockets socket username := by
  apply List.map_congr_left
  intro entry member
  rw [sameDescriptor_eq wellFormed listed member]
  by_cases same : entry.1 = socket <;> simp [same]

/-- The close branch of `onSocket` finds a listed connection and erases it. -/
theorem removeEntry_listed
    (wellFormed : state.table.WellFormed)
    {socket : SocketRef}
    (listed : socket ∈ state.sockets.map Prod.fst) :
    state.removeEntry socket =
      { state with
        _sockets := state._sockets.erase socket
        sockets :=
          ConnectionTable.without state.sockets socket
      }.dropPointer socket := by
  have found :
      state.sockets.any (state.sameDescriptor socket) = true := by
    obtain ⟨entry, member, rfl⟩ := List.mem_map.mp listed
    rw [List.any_eq_true]
    exact ⟨entry, member, by simp [sameDescriptor]⟩
  have erased :
      state.sockets.eraseP (state.sameDescriptor socket) =
        ConnectionTable.without state.sockets socket :=
    ConnectionTable.eraseP_congr fun entry member =>
      sameDescriptor_eq wellFormed listed member
  rw [removeEntry, if_pos found, erased]

/-- The close branch of `onSocket` removes one connection. -/
theorem removeEntry_table
    (wellFormed : state.table.WellFormed)
    {socket : SocketRef}
    (listed : socket ∈ state.sockets.map Prod.fst) :
    ∃ openDescriptors,
      (∀ descriptor ∈ state.openDescriptors,
        descriptor = (state.heap socket).fd ∨
          descriptor ∈ openDescriptors) ∧
      ({ state.removeEntry socket with
          socketsLock := none
          listenPc := .loop } : Server).table =
        { state.table with
          entries := ConnectionTable.without state.sockets socket
          watched := state._sockets.erase socket
          openDescriptors := openDescriptors
          phase := .idle } := by
  have notListed :
      socket ∉
        (ConnectionTable.without state.sockets socket).map Prod.fst := by
    rw [ConnectionTable.map_without]
    exact wellFormed.connections_nodup.not_mem_erase
  have notWatched : socket ∉ state._sockets.erase socket := by
    have distinct : state._sockets.Nodup :=
      wellFormed.watched_perm.nodup_iff.mpr
        wellFormed.connections_nodup
    exact distinct.not_mem_erase
  obtain ⟨after, openDescriptors, sameFd, kept, closed⟩ :=
    closeSocket_cases
      { state with
        _sockets := state._sockets.erase socket
        sockets := ConnectionTable.without state.sockets socket }
      socket
  refine ⟨openDescriptors, kept, ?_⟩
  have removed :
      state.removeEntry socket =
        { state.setSocket socket after with
          _sockets := state._sockets.erase socket
          sockets := ConnectionTable.without state.sockets socket
          openDescriptors := openDescriptors } := by
    rw [removeEntry_listed wellFormed listed]
    simp only [dropPointer, notListed, notWatched, or_self, if_false,
      closed]
    rfl
  have descriptors :
      (state.setSocket socket after).table = state.table :=
    table_setSocket sameFd
  rw [removed]
  exact congrArg
    (fun table : ConnectionTable Bytes =>
      { table with
        entries := ConnectionTable.without state.sockets socket
        watched := state._sockets.erase socket
        openDescriptors := openDescriptors
        phase := .idle })
    descriptors

/-- A step of `sendMessages` leaves the table alone. -/
theorem SenderStep.table
    {action : SenderAction}
    (step : SenderStep platform state action next) :
    next.table = state.table := by
  cases step with
  | write _ _ =>
      exact table_setSocket (Socket.afterWrite_fd _ _)
  | _ =>
      rfl

/-- A handler that changed one socket and moved on. -/
theorem table_withSocket
    {ref : SocketRef}
    {socket : Socket}
    {listenPc : ListenPc}
    (sameDescriptor : socket.fd = (state.heap ref).fd) :
    ({ state.setSocket ref socket with
        listenPc := listenPc } : Server).table =
      { state.table with phase := tablePhase listenPc } := by
  rw [← table_setSocket sameDescriptor]
  rfl

/-- The socket of a new connection is bound to the descriptor accepted. -/
theorem table_accept
    {connectionFD : Nat} :
    ({ state with
        heap :=
          Function.update state.heap state.nextSocket
            (Socket.ofDescriptor connectionFD)
        nextSocket := state.nextSocket + 1
        openDescriptors := connectionFD :: state.openDescriptors
        listenPc := .lockAdd state.nextSocket } : Server).table =
      { state.table with
        descriptor :=
          Function.update state.table.descriptor
            state.table.nextConnection connectionFD
        nextConnection := state.table.nextConnection + 1
        openDescriptors := connectionFD :: state.table.openDescriptors
        phase := .joining state.table.nextConnection } := by
  have descriptors :
      (fun tested =>
        (Function.update state.heap state.nextSocket
          (Socket.ofDescriptor connectionFD) tested).fd) =
        Function.update (fun tested => (state.heap tested).fd)
          state.nextSocket connectionFD := by
    funext tested
    by_cases same : tested = state.nextSocket
    · subst tested
      rw [Function.update_self, Function.update_self]
      rfl
    · rw [Function.update_of_ne same, Function.update_of_ne same]
  simp only [Server.table, descriptors, tablePhase]

/-- Only a read of 0 ends a connection. -/
theorem tableEvent_read
    {socket : SocketRef}
    {outcome : RecvOutcome}
    {now : TimePoint}
    (more : outcome ≠ .closed) :
    tableEvent (.listen (.read socket outcome now)) = .quiet := by
  cases outcome with
  | closed =>
      contradiction
  | data bytes =>
      rfl
  | failed =>
      rfl

/-- Moving on inside one phase leaves the table alone. -/
theorem table_quiet
    {listenPc : ListenPc}
    (same : tablePhase listenPc = tablePhase state.listenPc)
    (sameTable :
      next.table =
        { state.table with phase := tablePhase listenPc }) :
    ConnectionTable.Step [] state.table .quiet next.table := by
  have unchanged : next.table = state.table := by
    rw [sameTable, same]
    rfl
  rw [unchanged]
  exact .stay _

/-- A step of `listen` before `stop` is a step of the table. -/
theorem ListenStep.table
    {action : ListenAction}
    (step : ListenStep platform state action next)
    (wellFormed : state.table.WellFormed)
    (stops : state.StopsOnlyKilled)
    (survived : ∀ fault, next.fault ≠ some (.listen, fault))
    (running : next.killed = false) :
    ConnectionTable.Step [] state.table
      (tableEvent (.listen action)) next.table := by
  have listed := wellFormed.serving_listed
  have phase :
      ∀ {listenPc},
        state.listenPc = listenPc →
        state.table.phase = tablePhase listenPc := by
    intro listenPc pc
    exact congrArg tablePhase pc
  have stopped : ¬ state.killed = true := by
    simp [(Step.listen step).not_killed running]
  cases step with
  | leaveLoop pc killed =>
      exact (stopped killed).elim
  | selectExit pc =>
      contradiction
  | selectClient pc watched _ =>
      exact .serve state.table (phase pc) watched
  | readEnded pc _ =>
      rw [table_withSocket (Socket.afterRead_fd _ _)]
      exact .depart state.table (phase pc)
  | readLogin pc _ more _ =>
      rw [tableEvent_read more]
      refine table_quiet ?_
        (table_withSocket (Socket.afterRead_fd _ _))
      rw [pc]
      rfl
  | readMessage pc _ more _ =>
      rw [tableEvent_read more]
      refine table_quiet ?_
        (table_withSocket (Socket.afterRead_fd _ _))
      rw [pc]
      rfl
  | readClosed | readMessageThrows | readThrows | visitLoginThrows |
    writeThrows | acceptFailed =>
      exact (survived _ rfl).elim
  | remove pc =>
      obtain ⟨openDescriptors, kept, removed⟩ :=
        removeEntry_table wellFormed
          (listed _ (Or.inr (Or.inl (phase pc))))
      rw [removed]
      exact .remove state.table (phase pc) kept
  | acceptName pc free =>
      exact .grant state.table (phase pc) free
  | write pc _ =>
      rw [table_withSocket (Socket.afterWrite_fd _ _)]
      exact .finish state.table (phase pc)
  | associate pc =>
      have member := listed _ (Or.inr (Or.inr ⟨_, phase pc⟩))
      rw [associate_eq_renamed wellFormed member]
      exact .rename state.table (phase pc)
  | pushBack pc =>
      exact .finish state.table (phase pc)
  | accept pc fresh =>
      rw [table_accept]
      exact .connect state.table (phase pc) fresh
  | add pc =>
      exact .join state.table (phase pc)
  | lockStop | closeAll | lockKill | kill | unlockStop =>
      exact (stopped (stops (by simp [*]))).elim
  | _ =>
      refine table_quiet ?_ rfl
      rw [‹state.listenPc = _›]
      rfl

/-- `stop` is entered by telling the process to end. -/
theorem Step.stopsOnlyKilled
    {label : ServerLabel}
    (step : Step platform state label next)
    (stops : state.StopsOnlyKilled) :
    next.StopsOnlyKilled := by
  have kept := step.killed
  intro inside
  cases step with
  | listen step =>
      cases step with
      | selectExit =>
          rfl
      | lockStop | closeAll | lockKill | kill =>
          exact kept (stops (by simp [*]))
      | readClosed | readMessageThrows | readThrows |
        visitLoginThrows | writeThrows | acceptFailed =>
          exact kept (stops inside)
      | _ =>
          simp at inside
  | send step =>
      cases step <;> exact kept (stops inside)

/-- An exception leaves the listening thread inside a handler. -/
theorem Step.faultInHandler
    {label : ServerLabel}
    (step : Step platform state label next)
    (alive : state.fault = none)
    {fault : Fault}
    (thrown : next.fault = some (.listen, fault)) :
    ¬ next.InWait := by
  cases step with
  | listen step =>
      cases step with
      | readClosed | readMessageThrows | readThrows |
        visitLoginThrows | writeThrows | acceptFailed =>
          simp [InWait, throw, setSocket, *]
      | @remove socket =>
          obtain ⟨_, _, _, _, removed⟩ :=
            @removeEntry_frame state socket
          rw [removed] at thrown
          simp [alive] at thrown
      | closeAll =>
          simp [InWait]
      | _ =>
          simp [setSocket, alive] at thrown
  | send step =>
      cases step <;> simp [setSocket, throw, alive] at thrown

/-- What every run keeps: the table and where its exceptions arise. -/
structure KeepsTable
    (labels : List ServerLabel)
    (state : Server) : Prop where
  stops :
    state.StopsOnlyKilled
  faultInHandler :
    ∀ fault,
      state.fault = some (.listen, fault) →
      ¬ state.InWait
  table :
    state.killed = false →
    (∀ fault, state.fault ≠ some (.listen, fault)) →
    ConnectionTable.Invariant [] (labels.map tableEvent) state.table

/-- A step extends the history that the table follows. -/
theorem KeepsTable.step
    {labels : List ServerLabel}
    {label : ServerLabel}
    (keeps : KeepsTable labels state)
    (taken : state.step? platform label = some next) :
    KeepsTable (labels ++ [label]) next := by
  obtain ⟨alive, step⟩ := step?_sound taken
  refine ⟨step.stopsOnlyKilled keeps.stops, ?_, ?_⟩
  · intro fault thrown
    exact step.faultInHandler alive thrown
  · intro running survived
    have before : state.killed = false :=
      step.not_killed running
    have invariant := keeps.table before (by simp [alive])
    rw [List.map_append, List.map_singleton]
    apply invariant.step
    cases step with
    | listen step =>
        exact step.table invariant.wellFormed keeps.stops
          survived running
    | send step =>
        rw [step.table]
        exact .stay _

/-- Every run keeps the table. -/
theorem keepsTable
    {descriptors : List Nat}
    {labels : List ServerLabel}
    (reached :
      LabelledRun.run? (step? platform)
        (initial descriptors) labels = some state) :
    KeepsTable labels state := by
  refine LabelledRun.invariant ?_ ?_ reached
  · refine ⟨?_, ?_, ?_⟩
    · simp [StopsOnlyKilled, initial]
    · simp [initial]
    · intro _ _
      exact ConnectionTable.Invariant.initial rfl rfl rfl
  · intro past before label after _ keeps taken
    exact keeps.step taken

/-- Before `stop`, a living process keeps its connections in order. -/
theorem wellFormed_of_run
    {descriptors : List Nat}
    {labels : List ServerLabel}
    (reached :
      LabelledRun.run? (step? platform)
        (initial descriptors) labels = some state)
    (alive : state.fault = none)
    (running : state.killed = false) :
    state.table.WellFormed :=
  ((keepsTable reached).table running (by simp [alive])).wellFormed

section History

/-- The connection was accepted. -/
def Accepted
    (labels : List ServerLabel)
    (socket : SocketRef) : Prop :=
  ∃ connectionFD,
    ServerLabel.listen (.accept socket connectionFD) ∈ labels

/-- A read of 0 from the connection was handled or is being handled. -/
def ClosedByPeer
    (labels : List ServerLabel)
    (socket : SocketRef) : Prop :=
  ∃ now, ServerLabel.listen (.read socket .closed now) ∈ labels

/-- The sender of a login that was accepted from the connection. -/
def acceptedLogin
    (socket : SocketRef) :
    ServerLabel → Option Bytes
  | .listen (.visitLogin reader login _ (.login _)) =>
      if reader = socket then
        some login.sender
      else
        none
  | _ =>
      none

/-- The sender of the last accepted login, empty if there was none. -/
def lastLogin
    (labels : List ServerLabel)
    (socket : SocketRef) :
    Bytes :=
  (labels.reverse.findSome? (acceptedLogin socket)).getD []

theorem tableEvent_eq_connect
    {label : ServerLabel}
    {socket : SocketRef}
    {connectionFD : Nat} :
    tableEvent label = .connect socket connectionFD ↔
      label = .listen (.accept socket connectionFD) := by
  cases label with
  | listen action =>
      cases action with
      | read _ outcome _ =>
          cases outcome <;> simp [tableEvent]
      | visitLogin _ _ _ response =>
          cases response <;> simp [tableEvent]
      | _ =>
          simp [tableEvent]
  | send action =>
      simp [tableEvent]

theorem tableEvent_eq_depart
    {label : ServerLabel}
    {socket : SocketRef} :
    tableEvent label = .depart socket ↔
      ∃ now, label = .listen (.read socket .closed now) := by
  cases label with
  | listen action =>
      cases action with
      | read _ outcome _ =>
          cases outcome <;> simp [tableEvent]
      | visitLogin _ _ _ response =>
          cases response <;> simp [tableEvent]
      | _ =>
          simp [tableEvent]
  | send action =>
      simp [tableEvent]

theorem grantedName_tableEvent
    (socket : SocketRef)
    (label : ServerLabel) :
    ConnectionTable.grantedName socket (tableEvent label) =
      acceptedLogin socket label := by
  cases label with
  | listen action =>
      cases action with
      | read _ outcome _ =>
          cases outcome <;> rfl
      | visitLogin _ _ _ response =>
          cases response <;> rfl
      | _ =>
          rfl
  | send action =>
      rfl

theorem connected_iff_accepted
    {labels : List ServerLabel}
    {socket : SocketRef} :
    ConnectionTable.Connected (labels.map tableEvent) socket ↔
      Accepted labels socket := by
  simp only [ConnectionTable.Connected, Accepted, List.mem_map,
    tableEvent_eq_connect, exists_eq_right]

theorem departed_iff_closedByPeer
    {labels : List ServerLabel}
    {socket : SocketRef} :
    ConnectionTable.Departed (labels.map tableEvent) socket ↔
      ClosedByPeer labels socket := by
  simp only [ConnectionTable.Departed, ClosedByPeer, List.mem_map,
    tableEvent_eq_depart]
  constructor
  · rintro ⟨label, member, now, rfl⟩
    exact ⟨now, member⟩
  · rintro ⟨now, member⟩
    exact ⟨_, member, now, rfl⟩

theorem lastGranted_eq_lastLogin
    (labels : List ServerLabel)
    (socket : SocketRef) :
    (ConnectionTable.lastGranted
        (labels.map tableEvent) socket).getD [] =
      lastLogin labels socket := by
  have sameNames :
      ConnectionTable.grantedName socket ∘ tableEvent =
        acceptedLogin socket :=
    funext (grantedName_tableEvent socket)
  rw [ConnectionTable.lastGranted, lastLogin, ← List.map_reverse,
    List.findSome?_map, sameNames]

end History

/--
Between two handler calls before `stop`, in the loop of `listen` and anywhere in
`wait`, the list and the watched set hold exactly the connections that were
accepted and have not ended, each once and on a descriptor of its own; each
carries the sender of its last accepted login; and a name that is not empty
belongs to one connection.
-/
theorem name_table
    (platform : Platform)
    (descriptors : List Nat)
    (labels : List ServerLabel)
    (state : Server)
    (reached :
      LabelledRun.run? (step? platform)
        (initial descriptors) labels = some state)
    (between : state.InWait)
    (running : state.killed = false) :
    (∀ socket,
      socket ∈ state.sockets.map Prod.fst ↔
        Accepted labels socket ∧ ¬ ClosedByPeer labels socket) ∧
    (∀ socket,
      socket ∈ state._sockets ↔
        Accepted labels socket ∧ ¬ ClosedByPeer labels socket) ∧
    (state.sockets.map Prod.fst).Nodup ∧
    state._sockets.Nodup ∧
    (state.sockets.map fun entry => (state.heap entry.1).fd).Nodup ∧
    (∀ entry ∈ state.sockets,
      entry.2 = lastLogin labels entry.1) ∧
    (∀ first ∈ state.sockets,
      ∀ second ∈ state.sockets,
        first.1 ≠ second.1 →
        first.2 ≠ [] →
        first.2 ≠ second.2) := by
  have keeps := keepsTable reached
  have invariant := keeps.table running
    (fun fault thrown => keeps.faultInHandler fault thrown between)
  obtain ⟨wellFormed, unique, follows⟩ := invariant
  have phase := between.idle
  have members : state.table.members = state.table.connections :=
    ConnectionTable.members_of_not_joining (by simp [phase])
  have listed :
      ∀ socket,
        socket ∈ state.sockets.map Prod.fst ↔
          Accepted labels socket ∧ ¬ ClosedByPeer labels socket := by
    intro socket
    have same := follows.members_iff socket
    rw [members, connected_iff_accepted,
      departed_iff_closedByPeer] at same
    simp only [phase, reduceCtorEq, imp_false] at same
    exact same
  have descriptorsDistinct := wellFormed.descriptors_nodup
  rw [members, ConnectionTable.connections, List.map_map]
    at descriptorsDistinct
  refine ⟨listed, ?_, wellFormed.connections_nodup, ?_,
    descriptorsDistinct, ?_, ?_⟩
  · intro socket
    rw [← listed socket]
    exact wellFormed.watched_perm.mem_iff
  · exact wellFormed.watched_perm.nodup_iff.mpr
      wellFormed.connections_nodup
  · intro entry member
    rw [← lastGranted_eq_lastLogin, ← follows.names entry member]
    simp [ConnectionTable.carried, phase]
  · intro first firstMember second secondMember
    exact unique.distinct firstMember secondMember

/-- Two clients have connected, the second one has logged in; `wait` goes on. -/
theorem name_table_logIn :
    let login : Request.Login := ⟨0, ascii "ann"⟩
    let bytes :=
      (Request.login login).text .reference JsonText.escape
    let labels :=
      ServerLabel.connect [] 0 4 ++
        (ServerLabel.connect [4] 1 5 ++
          (ServerLabel.logIn [5, 4] 1 bytes login 0 ++
            [.listen .enterWait]))
    ∃ state,
      LabelledRun.run? (step? .reference)
          (initial [0, 1, 2, 3]) labels = some state ∧
        (state.listenPc, state.killed) =
            (.lockKillEvent [5, 4], false) ∧
          (state.sockets.map Prod.fst).Nodup := by
  intro login bytes labels
  have finished :
      (LabelledRun.run? (step? .reference)
        (initial [0, 1, 2, 3]) labels).map
          (fun state => (state.listenPc, state.killed)) =
        some (.lockKillEvent [5, 4], false) := by
    decide
  obtain ⟨state, reached, control⟩ :=
    Option.map_eq_some_iff.mp finished
  obtain ⟨pc, running⟩ := Prod.mk.inj control
  have between : state.InWait := by
    unfold InWait
    rw [pc]
    trivial
  exact ⟨state, reached, control,
    (name_table .reference [0, 1, 2, 3] labels state
      reached between running).2.2.1⟩

end Server

end ChatRelay

import Mathlib.Data.List.Basic
import ChatRelay.ServerAcceptance
import ChatRelay.ServerSurvival

namespace ChatRelay

/-!
# One login from the read to its answer

A login is decided in one section of `socketsLock`, the name is written in a
second one and the response is pushed in a section of `messageQueueLock`; steps
of `sendMessages` may come in between.  They leave the names alone, so that the
decision still fits when the name is written.  What they can do is to close the
socket of the connection that is to be told of a refusal, or to end the process.
The refusal itself is one `::write`, which can fail or take only a part.
-/

open LabelledRun (run?)

namespace Server

/-- A listed connection holds the name. -/
def NameTaken (state : Server) (username : Bytes) : Prop :=
  ∃ entry ∈ state.sockets, entry.2 = username

section Handler

/-- The steps of the listening thread. -/
def listenActions (labels : List ServerLabel) : List ListenAction :=
  labels.filterMap fun
    | .listen action =>
        some action
    | .send _ =>
        none

/-- The listening thread stays in the handler that it is in. -/
def StaysInHandler : ServerLabel → Prop
  | .listen .enterWait | .listen .leaveLoop =>
      False
  | _ =>
      True

/-- What the handlers have written to connections by themselves, whole. -/
def answers (labels : List ServerLabel) : List (SocketRef × Bytes) :=
  labels.filterMap fun
    | .listen (.write socket text outcome) =>
        if outcome = .written text.length then
          some (socket, text)
        else
          none
    | _ =>
        none

/-- A write of a handler takes the whole text. -/
def AnswersWhole : ServerLabel → Prop
  | .listen (.write _ text outcome) =>
      outcome = .written text.length
  | _ =>
      True

/-- `sendMessages` fails to write to the connection. -/
def BreaksOff
    (socket : SocketRef)
    (labels : List ServerLabel) : Prop :=
  ∃ message text targets remaining,
    ServerLabel.send
      (.write message text socket targets remaining .failed) ∈ labels

/-- What the queue becomes in a step. -/
def queueStep
    (queue : List Response) :
    ServerLabel → List Response
  | .listen (.pushBack _ response) =>
      queue ++ [response]
  | .send .clear =>
      []
  | _ =>
      queue

/-- The server has returned a login response to the login. -/
def Accepts
    (socket : SocketRef)
    (login : Request.Login)
    (labels : List ServerLabel) : Prop :=
  ∃ now response,
    ServerLabel.listen
      (.visitLogin socket login now (.login response)) ∈ labels

/--
An accepted login changes the name of its connection and appends one login
response to the queue, and the handler writes to nobody.
-/
structure LoginAccepted
    (before : Server)
    (socket : SocketRef)
    (login : Request.Login)
    (labels : List ServerLabel)
    (after : Server) : Prop where
  renamed :
    after.sockets =
      ConnectionTable.renamed before.sockets socket login.sender
  pushed :
    ∃ now,
      pushes labels =
        [(socket,
          .login (Response.Login.ofUsername now login.sender))]
  unanswered :
    answers labels = []

/--
A refused login leaves the connections and the queue alone, and the handler
writes one error response, to its connection.
-/
structure LoginRefused
    (platform : Platform)
    (before : Server)
    (socket : SocketRef)
    (labels : List ServerLabel)
    (after : Server) : Prop where
  sockets :
    after.sockets = before.sockets
  unpushed :
    pushes labels = []
  answered :
    ∃ text error,
      answers labels = [(socket, text)] ∧
        error.code = ErrorCode.USER_NAME_IN_USE ∧
        MessageJson.«to» platform
          ((Response.error error).toJson platform) false = .ok text

/--
The handler has returned, the login is accepted exactly if nobody holds its
name, and it has had the effects of an accepted or of a refused one.
-/
structure LoginHandled
    (platform : Platform)
    (before : Server)
    (socket : SocketRef)
    (login : Request.Login)
    (labels : List ServerLabel)
    (after : Server) : Prop where
  returned :
    after.listenPc = .loop
  decided :
    Accepts socket login labels ↔ ¬ before.NameTaken login.sender
  queue :
    after.messageQueue = labels.foldl queueStep before.messageQueue
  accepted :
    ¬ before.NameTaken login.sender →
    LoginAccepted before socket login labels after
  refused :
    before.NameTaken login.sender →
    LoginRefused platform before socket labels after

end Handler

variable {platform : Platform}
variable {state next before : Server}
variable {socket : SocketRef} {login : Request.Login}

/-! ### What single steps do -/

/-- The queue changes only by a push and by `clear`. -/
theorem Step.queueStep
    {label : ServerLabel}
    (step : Step platform state label next) :
    next.messageQueue = queueStep state.messageQueue label := by
  cases step with
  | listen step =>
      cases step with
      | @remove socket pc =>
          obtain ⟨_, _, _, _, removed⟩ :=
            @removeEntry_frame state socket
          rw [removed]
          rfl
      | closeAll pc =>
          obtain ⟨_, _, closed⟩ :=
            @closeSockets_frame state (state.sockets.map Prod.fst)
          rw [closed]
          rfl
      | _ =>
          rfl
  | send step =>
      cases step <;> rfl

/-- A step of `sendMessages` leaves the handler and the names alone. -/
theorem SenderStep.frame
    {action : SenderAction}
    (step : SenderStep platform state action next) :
    next.listenPc = state.listenPc ∧
      next.sockets = state.sockets ∧
      ∀ ref, (next.heap ref).fd = (state.heap ref).fd := by
  have table := step.table
  refine ⟨?_, congrArg ConnectionTable.entries table,
    congrFun (congrArg ConnectionTable.descriptor table)⟩
  cases step <;> rfl

/-- A connection is closed by `sendMessages` only if a write to it fails. -/
theorem SenderStep.isOpen_iff
    {action : SenderAction}
    (step : SenderStep platform state action next)
    (alive : next.fault = none) :
    (next.heap socket).isOpen = true ↔
      (state.heap socket).isOpen = true ∧
        ¬ BreaksOff socket [.send action] := by
  unfold BreaksOff
  cases step with
  | writeThrows | serialiseThrows =>
      simp [throw] at alive
  | @write message text written targets remaining outcome pc isOpen =>
      by_cases same : written = socket
      · subst written
        cases outcome <;> simp [setSocket, Socket.afterWrite, isOpen]
      · have other : socket ≠ written := Ne.symm same
        simp [setSocket, other]
  | _ =>
      simp

/-! ### Where the handler can go on -/

section Inversion

variable {action : ListenAction}

theorem ListenStep.at_lockNames
    (pc : state.listenPc = .lockNames socket login)
    (step : ListenStep platform state action next) :
    action = .lockNames socket login ∧
      next =
        { state with
          socketsLock := some .listen
          listenPc := .visitLogin socket login } := by
  cases step <;> simp_all

/-- The login is decided by the names that the connections hold now. -/
theorem ListenStep.at_visitLogin
    (writes : platform.Writes)
    (pc : state.listenPc = .visitLogin socket login)
    (step : ListenStep platform state action next) :
    ∃ now,
      (¬ state.NameTaken login.sender ∧
        action =
          .visitLogin socket login now
            (.login (Response.Login.ofUsername now login.sender)) ∧
        next =
          { state with
            socketsLock := none
            listenPc :=
              .lockAssociate socket login.sender
                (.login
                  (Response.Login.ofUsername now login.sender)) }) ∨
      (state.NameTaken login.sender ∧
        action =
          .visitLogin socket login now (usernameInUse now) ∧
        ∃ text,
          MessageJson.«to» platform
              ((usernameInUse now).toJson platform) false =
            .ok text ∧
          next =
            { state with
              socketsLock := none
              listenPc := .write socket text }) := by
  cases step with
  | @acceptName other otherLogin now at_ fresh =>
      obtain ⟨rfl, rfl⟩ :=
        ListenPc.visitLogin.inj (at_.symm.trans pc)
      refine ⟨now, Or.inl ⟨?_, rfl, rfl⟩⟩
      rintro ⟨entry, member, holds⟩
      exact fresh entry member holds
  | @refuseName other otherLogin now text at_ taken written =>
      obtain ⟨rfl, rfl⟩ :=
        ListenPc.visitLogin.inj (at_.symm.trans pc)
      exact ⟨now, Or.inr ⟨taken, rfl, text, written, rfl⟩⟩
  | visitLoginThrows _ _ unwritable =>
      exact (not_unwritable writes _ _ unwritable).elim
  | _ =>
      simp_all

theorem ListenStep.at_write
    {text : Bytes}
    (pc : state.listenPc = .write socket text)
    (step : ListenStep platform state action next) :
    ∃ outcome,
      action = .write socket text outcome ∧
        next.sockets = state.sockets ∧
        (∀ ref, (next.heap ref).fd = (state.heap ref).fd) ∧
        (if (state.heap socket).isOpen = true then
          next.listenPc = .loop
        else
          next.listenPc ≠ .loop ∧ next.fault ≠ none) := by
  cases step with
  | @write other otherText outcome at_ isOpen =>
      obtain ⟨rfl, rfl⟩ := ListenPc.write.inj (at_.symm.trans pc)
      refine ⟨outcome, rfl, rfl, ?_, ?_⟩
      · have table :
            (state.setSocket other
              ((state.heap other).afterWrite outcome)).table =
              state.table :=
          table_setSocket (Socket.afterWrite_fd _ _)
        exact congrFun (congrArg ConnectionTable.descriptor table)
      rw [if_pos isOpen]
  | @writeThrows other otherText outcome at_ closed =>
      obtain ⟨rfl, rfl⟩ := ListenPc.write.inj (at_.symm.trans pc)
      refine ⟨outcome, rfl, rfl, fun _ => rfl, ?_⟩
      rw [if_neg (by simp [closed])]
      simp [throw, pc]
  | _ =>
      simp_all

theorem ListenStep.at_lockAssociate
    {username : Bytes}
    {response : Response}
    (pc : state.listenPc = .lockAssociate socket username response)
    (step : ListenStep platform state action next) :
    action = .lockAssociate socket username response ∧
      next =
        { state with
          socketsLock := some .listen
          listenPc := .associate socket username response } := by
  cases step <;> simp_all

theorem ListenStep.at_associate
    {username : Bytes}
    {response : Response}
    (pc : state.listenPc = .associate socket username response)
    (step : ListenStep platform state action next) :
    action = .associate socket username response ∧
      next =
        { state with
          sockets := state.associate socket username
          socketsLock := none
          listenPc := .lockQueue socket response } := by
  cases step <;> simp_all

theorem ListenStep.at_lockQueue
    {response : Response}
    (pc : state.listenPc = .lockQueue socket response)
    (step : ListenStep platform state action next) :
    action = .lockQueue socket response ∧
      next =
        { state with
          messageQueueLock := some .listen
          listenPc := .pushBack socket response } := by
  cases step <;> simp_all

theorem ListenStep.at_pushBack
    {response : Response}
    (pc : state.listenPc = .pushBack socket response)
    (step : ListenStep platform state action next) :
    action = .pushBack socket response ∧
      next =
        { state with
          messageQueue := state.messageQueue ++ [response]
          messageQueueLock := none
          listenPc := .loop } := by
  cases step <;> simp_all

/-- From the loop the thread leaves the handler. -/
theorem ListenStep.at_loop
    (pc : state.listenPc = .loop)
    (step : ListenStep platform state action next) :
    ¬ StaysInHandler (.listen action) ∧
      next.listenPc ≠ .loop ∧ next.fault = state.fault := by
  cases step <;> simp_all [StaysInHandler]

/-- A handler that returns throws nothing. -/
theorem ListenStep.fault_of_returned
    (step : ListenStep platform state action next)
    (returned : next.listenPc = .loop) :
    next.fault = state.fault := by
  cases step with
  | @remove socket pc =>
      obtain ⟨_, _, _, _, removed⟩ := @removeEntry_frame state socket
      rw [removed]
  | closeAll pc =>
      contradiction
  | readClosed | readMessageThrows | readThrows | visitLoginThrows |
    writeThrows | acceptFailed =>
      simp_all [throw, setSocket]
  | _ =>
      rfl

end Inversion

/-! ### How far a login has got -/

/-- The section in which the names are looked through. -/
def decision
    (socket : SocketRef)
    (login : Request.Login)
    (now : TimePoint)
    (response : Response) :
    List ListenAction :=
  [.lockNames socket login, .visitLogin socket login now response]

/-- The response to a login that is accepted. -/
def granted
    (login : Request.Login)
    (now : TimePoint) :
    Response :=
  .login (Response.Login.ofUsername now login.sender)

/--
Where the handler stands, after which of its steps, and which connections are
listed then.
-/
inductive LoginProgress
    (platform : Platform)
    (before : Server)
    (socket : SocketRef)
    (login : Request.Login) :
    ListenPc → List ListenAction → List Entry → Prop where
  | asked :
      LoginProgress platform before socket login
        (.lockNames socket login) [] before.sockets
  | looking :
      LoginProgress platform before socket login
        (.visitLogin socket login) [.lockNames socket login]
        before.sockets
  | refusing {now : TimePoint} {text : Bytes} :
      before.NameTaken login.sender →
      MessageJson.«to» platform
          ((usernameInUse now).toJson platform) false = .ok text →
      LoginProgress platform before socket login
        (.write socket text)
        (decision socket login now (usernameInUse now))
        before.sockets
  | refused
      {now : TimePoint}
      {text : Bytes}
      {outcome : WriteOutcome} :
      before.NameTaken login.sender →
      MessageJson.«to» platform
          ((usernameInUse now).toJson platform) false = .ok text →
      LoginProgress platform before socket login
        .loop
        (decision socket login now (usernameInUse now) ++
          [.write socket text outcome])
        before.sockets
  | granting {now : TimePoint} :
      ¬ before.NameTaken login.sender →
      LoginProgress platform before socket login
        (.lockAssociate socket login.sender (granted login now))
        (decision socket login now (granted login now))
        before.sockets
  | naming {now : TimePoint} :
      ¬ before.NameTaken login.sender →
      LoginProgress platform before socket login
        (.associate socket login.sender (granted login now))
        (decision socket login now (granted login now) ++
          [.lockAssociate socket login.sender (granted login now)])
        before.sockets
  | named {now : TimePoint} :
      ¬ before.NameTaken login.sender →
      LoginProgress platform before socket login
        (.lockQueue socket (granted login now))
        (decision socket login now (granted login now) ++
          [.lockAssociate socket login.sender (granted login now),
            .associate socket login.sender (granted login now)])
        (ConnectionTable.renamed before.sockets socket login.sender)
  | pushing {now : TimePoint} :
      ¬ before.NameTaken login.sender →
      LoginProgress platform before socket login
        (.pushBack socket (granted login now))
        (decision socket login now (granted login now) ++
          [.lockAssociate socket login.sender (granted login now),
            .associate socket login.sender (granted login now),
            .lockQueue socket (granted login now)])
        (ConnectionTable.renamed before.sockets socket login.sender)
  | pushed {now : TimePoint} :
      ¬ before.NameTaken login.sender →
      LoginProgress platform before socket login
        .loop
        (decision socket login now (granted login now) ++
          [.lockAssociate socket login.sender (granted login now),
            .associate socket login.sender (granted login now),
            .lockQueue socket (granted login now),
            .pushBack socket (granted login now)])
        (ConnectionTable.renamed before.sockets socket login.sender)

/-- What holds of a handler that has read a login, until it returns. -/
structure InLogin
    (platform : Platform)
    (before : Server)
    (socket : SocketRef)
    (login : Request.Login)
    (labels : List ServerLabel)
    (state : Server) : Prop where
  progress :
    LoginProgress platform before socket login
      state.listenPc (listenActions labels) state.sockets
  descriptors :
    ∀ ref, (state.heap ref).fd = (before.heap ref).fd
  queue :
    state.messageQueue = labels.foldl queueStep before.messageQueue
  isOpen :
    state.listenPc ≠ .loop →
    ((state.heap socket).isOpen = true ↔ ¬ BreaksOff socket labels)

section Progress

variable {labels : List ServerLabel}

theorem listenActions_concat
    (label : ServerLabel) :
    listenActions (labels ++ [label]) =
      listenActions labels ++ listenActions [label] :=
  List.filterMap_append

theorem breaksOff_concat
    (label : ServerLabel) :
    BreaksOff socket (labels ++ [label]) ↔
      BreaksOff socket labels ∨ BreaksOff socket [label] := by
  unfold BreaksOff
  constructor
  · rintro ⟨message, text, targets, remaining, member⟩
    rcases List.mem_append.mp member with earlier | last
    · exact Or.inl ⟨message, text, targets, remaining, earlier⟩
    · exact Or.inr ⟨message, text, targets, remaining, last⟩
  · rintro (⟨message, text, targets, remaining, earlier⟩ |
      ⟨message, text, targets, remaining, last⟩)
    · exact ⟨message, text, targets, remaining,
        List.mem_append_left _ earlier⟩
    · exact ⟨message, text, targets, remaining,
        List.mem_append_right _ last⟩

/-- A step of the listening thread breaks off nothing. -/
theorem not_breaksOff_listen
    (action : ListenAction) :
    ¬ BreaksOff socket [.listen action] := by
  simp [BreaksOff]

/-- Renaming goes by the descriptors that the connections had before. -/
theorem associate_eq_renamed_before
    (wellFormed : before.table.WellFormed)
    (listed : socket ∈ before.sockets.map Prod.fst)
    (sockets : state.sockets = before.sockets)
    (descriptors :
      ∀ ref, (state.heap ref).fd = (before.heap ref).fd)
    (username : Bytes) :
    state.associate socket username =
      ConnectionTable.renamed before.sockets socket username := by
  rw [← associate_eq_renamed wellFormed listed username]
  unfold associate sameDescriptor
  simp only [sockets, descriptors]

/-- A read of a login starts its handling. -/
theorem InLogin.start
    {bytes : Bytes}
    {now : TimePoint}
    (decoded : visitBytes platform bytes = .ok (.visitLogin login))
    (step :
      ListenStep platform before (.read socket (.data bytes) now) next)
    (alive : next.fault = none) :
    InLogin platform before socket login [] next := by
  cases step with
  | readLogin pc isOpen more other =>
      have same := other.symm.trans decoded
      simp only [Except.ok.injEq, RequestCallback.visitLogin.injEq]
        at same
      subst same
      refine ⟨.asked, ?_, rfl, ?_⟩
      · simp [Socket.afterRead, setSocket_self]
      · simp [Socket.afterRead, setSocket_self, isOpen, BreaksOff]
  | readMessage pc isOpen more other =>
      have same := other.symm.trans decoded
      simp at same
  | readClosed | readMessageThrows | readThrows =>
      simp [throw] at alive

/-- Steps of `sendMessages` come in between. -/
theorem InLogin.send
    {action : SenderAction}
    (inLogin : InLogin platform before socket login labels state)
    (step : SenderStep platform state action next)
    (alive : next.fault = none) :
    InLogin platform before socket login
      (labels ++ [.send action]) next := by
  obtain ⟨pc, sockets, descriptors⟩ := step.frame
  refine ⟨?_, ?_, ?_, ?_⟩
  · rw [listenActions_concat, pc, sockets]
    simpa [listenActions] using inLogin.progress
  · intro ref
    rw [descriptors, inLogin.descriptors]
  · rw [List.foldl_append, ← inLogin.queue]
    exact (Step.send step).queueStep
  · intro busy
    rw [pc] at busy
    rw [step.isOpen_iff alive, inLogin.isOpen busy, breaksOff_concat,
      not_or]

/-- A step of the handler that leaves the sockets alone. -/
theorem InLogin.move
    {action : ListenAction}
    (inLogin : InLogin platform before socket login labels state)
    (step : ListenStep platform state action next)
    (busy : state.listenPc ≠ .loop)
    (heap : next.heap = state.heap)
    (progress :
      LoginProgress platform before socket login next.listenPc
        (listenActions labels ++ [action]) next.sockets) :
    InLogin platform before socket login
      (labels ++ [.listen action]) next := by
  refine ⟨?_, ?_, ?_, ?_⟩
  · rw [listenActions_concat]
    exact progress
  · rw [heap]
    exact inLogin.descriptors
  · rw [List.foldl_append, ← inLogin.queue]
    exact (Step.listen step).queueStep
  · intro _
    rw [heap, inLogin.isOpen busy, breaksOff_concat]
    simp [not_breaksOff_listen]

/-- The handler of a login goes from step to step. -/
theorem InLogin.listen
    {action : ListenAction}
    (writes : platform.Writes)
    (wellFormed : before.table.WellFormed)
    (listed : socket ∈ before.sockets.map Prod.fst)
    (inLogin : InLogin platform before socket login labels state)
    (step : ListenStep platform state action next)
    (stays : StaysInHandler (.listen action))
    (alive : next.fault = none) :
    InLogin platform before socket login
      (labels ++ [.listen action]) next := by
  have progress := inLogin.progress
  generalize listed_ : state.sockets = sockets at progress
  generalize taken_ : listenActions labels = actions at progress
  generalize pc : state.listenPc = at_ at progress
  cases progress with
  | asked =>
      obtain ⟨rfl, rfl⟩ := step.at_lockNames pc
      refine inLogin.move step (by simp [pc]) rfl ?_
      rw [taken_]
      change LoginProgress _ _ _ _ _ _ state.sockets
      rw [listed_]
      exact .looking
  | looking =>
      have sameNames :
          state.NameTaken login.sender ↔
            before.NameTaken login.sender := by
        unfold NameTaken
        rw [listed_]
      obtain ⟨now, decided⟩ := step.at_visitLogin writes pc
      rcases decided with
        ⟨free, rfl, rfl⟩ | ⟨taken, rfl, text, written, rfl⟩
      · refine inLogin.move step (by simp [pc]) rfl ?_
        rw [taken_]
        change LoginProgress _ _ _ _ _ _ state.sockets
        rw [listed_]
        exact .granting (sameNames.not.mp free)
      · refine inLogin.move step (by simp [pc]) rfl ?_
        rw [taken_]
        change LoginProgress _ _ _ _ _ _ state.sockets
        rw [listed_]
        exact .refusing (sameNames.mp taken) written
  | @refusing now text taken written =>
      obtain ⟨outcome, rfl, sockets, descriptors, written_⟩ :=
        step.at_write pc
      have returned : next.listenPc = .loop := by
        split at written_
        · exact written_
        · exact absurd alive written_.2
      refine ⟨?_, ?_, ?_, ?_⟩
      · rw [listenActions_concat, taken_, returned, sockets, listed_]
        exact .refused taken written
      · intro ref
        rw [descriptors, inLogin.descriptors]
      · rw [List.foldl_append, ← inLogin.queue]
        exact (Step.listen step).queueStep
      · intro busy
        exact absurd returned busy
  | granting free =>
      obtain ⟨rfl, rfl⟩ := step.at_lockAssociate pc
      refine inLogin.move step (by simp [pc]) rfl ?_
      rw [taken_]
      change LoginProgress _ _ _ _ _ _ state.sockets
      rw [listed_]
      exact .naming free
  | naming free =>
      obtain ⟨rfl, rfl⟩ := step.at_associate pc
      refine inLogin.move step (by simp [pc]) rfl ?_
      rw [taken_]
      change LoginProgress _ _ _ _ _ _ (state.associate _ _)
      rw [associate_eq_renamed_before wellFormed listed listed_
        inLogin.descriptors]
      exact .named free
  | named free =>
      obtain ⟨rfl, rfl⟩ := step.at_lockQueue pc
      refine inLogin.move step (by simp [pc]) rfl ?_
      rw [taken_]
      change LoginProgress _ _ _ _ _ _ state.sockets
      rw [listed_]
      exact .pushing free
  | pushing free =>
      obtain ⟨rfl, rfl⟩ := step.at_pushBack pc
      refine inLogin.move step (by simp [pc]) rfl ?_
      rw [taken_]
      change LoginProgress _ _ _ _ _ _ state.sockets
      rw [listed_]
      exact .pushed free
  | refused taken written =>
      exact absurd stays (step.at_loop pc).1
  | pushed free =>
      exact absurd stays (step.at_loop pc).1

/-- Whatever comes in between, the handler of a login makes its way. -/
theorem InLogin.of_run
    {start : Server}
    {bytes : Bytes}
    {now : TimePoint}
    (writes : platform.Writes)
    (wellFormed : before.table.WellFormed)
    (listed : socket ∈ before.sockets.map Prod.fst)
    (decoded : visitBytes platform bytes = .ok (.visitLogin login))
    (read :
      before.step? platform (.listen (.read socket (.data bytes) now)) =
        some start)
    (handled : run? (step? platform) start labels = some state)
    (stays : ∀ label ∈ labels, StaysInHandler label)
    (alive : state.fault = none) :
    InLogin platform before socket login labels state := by
  have keeps :
      (∀ label ∈ labels, StaysInHandler label) →
        state.fault = none →
        InLogin platform before socket login labels state := by
    refine @LabelledRun.invariant _ _ _ _
      (fun labels state =>
        (∀ label ∈ labels, StaysInHandler label) →
          state.fault = none →
          InLogin platform before socket login labels state)
      ?_ ?_ _ _ handled
    · intro _ alive
      obtain ⟨_, step⟩ := step?_sound read
      cases step with
      | listen step =>
          exact .start decoded step alive
    · intro past middle label after _ inLogin taken stays alive
      obtain ⟨living, step⟩ := step?_sound taken
      have earlier :=
        inLogin
          (fun label member => stays label (List.mem_append_left _ member))
          living
      have last :=
        stays label (List.mem_append_right _ (List.mem_singleton_self _))
      cases step with
      | listen step =>
          exact earlier.listen writes wellFormed listed step last alive
      | send step =>
          exact earlier.send step alive
  exact keeps stays alive

end Progress

/-! ### What has happened when it returns -/

section Outcome

variable {labels : List ServerLabel}

/-- The pushes and the answers are steps of the listening thread. -/
theorem pushes_listenActions :
    pushes labels = pushes ((listenActions labels).map .listen) := by
  unfold pushes listenActions
  rw [List.filterMap_map, List.filterMap_filterMap]
  congr 1
  funext label
  cases label <;> rfl

theorem answers_listenActions :
    answers labels = answers ((listenActions labels).map .listen) := by
  unfold answers listenActions
  rw [List.filterMap_map, List.filterMap_filterMap]
  congr 1
  funext label
  cases label <;> rfl

theorem mem_listenActions
    {action : ListenAction} :
    ServerLabel.listen action ∈ labels ↔
      action ∈ listenActions labels := by
  induction labels with
  | nil =>
      simp [listenActions]
  | cons label labels inductionHypothesis =>
      cases label with
      | listen other =>
          simpa [listenActions] using or_congr_right inductionHypothesis
      | send other =>
          simpa [listenActions] using inductionHypothesis

/-- What a refusal has written, if its `::write` took the whole text. -/
theorem answers_refused
    {now : TimePoint}
    {response : Response}
    {text : Bytes}
    {outcome : WriteOutcome}
    (taken :
      listenActions labels =
        decision socket login now response ++
          [.write socket text outcome]) :
    answers labels =
      if outcome = .written text.length then [(socket, text)] else [] := by
  rw [answers_listenActions, taken]
  by_cases whole : outcome = .written text.length
  · simp [answers, decision, whole]
  · simp [answers, decision, whole]

/-- A handler that has returned has handled its login, if it answers whole. -/
theorem InLogin.handled
    (inLogin : InLogin platform before socket login labels state)
    (returned : state.listenPc = .loop)
    (whole :
      before.NameTaken login.sender →
        ∀ label ∈ labels, AnswersWhole label) :
    LoginHandled platform before socket login labels state := by
  have progress := inLogin.progress
  have queue := inLogin.queue
  rw [returned] at progress
  generalize listed_ : state.sockets = sockets at progress
  generalize taken_ : listenActions labels = actions at progress
  cases progress with
  | @refused now text outcome taken written =>
      have isWhole : outcome = .written text.length := by
        apply whole taken (.listen (.write socket text outcome))
        rw [mem_listenActions, taken_]
        exact List.mem_append_right _ (List.mem_singleton_self _)
      refine ⟨returned, ?_, queue, ?_, ?_⟩
      · refine iff_of_false ?_ (not_not_intro taken)
        rintro ⟨later, response, member⟩
        rw [mem_listenActions, taken_] at member
        simp [decision, usernameInUse] at member
      · intro free
        exact absurd taken free
      · intro _
        refine ⟨listed_, ?_, text, _, ?_, ?_, written⟩
        · rw [pushes_listenActions, taken_]
          rfl
        · rw [answers_refused taken_, if_pos isWhole]
        · rfl
  | @pushed now free =>
      refine ⟨returned, ?_, queue, ?_, ?_⟩
      · refine iff_of_true ?_ free
        refine ⟨now, Response.Login.ofUsername now login.sender, ?_⟩
        rw [mem_listenActions, taken_]
        simp [decision, granted]
      · intro _
        refine ⟨listed_, ⟨now, ?_⟩, ?_⟩
        · rw [pushes_listenActions, taken_]
          rfl
        · rw [answers_listenActions, taken_]
          rfl
      · intro taken
        exact absurd taken free

/-- Before the handler returns it has written nothing. -/
theorem InLogin.unanswered
    (inLogin : InLogin platform before socket login labels state)
    (busy : state.listenPc ≠ .loop)
    {label : ServerLabel}
    (isPast : label ∈ labels) :
    AnswersWhole label := by
  have progress := inLogin.progress
  generalize state.sockets = sockets at progress
  generalize taken_ : listenActions labels = actions at progress
  generalize pc : state.listenPc = at_ at progress busy
  cases label with
  | send action =>
      trivial
  | listen action =>
      rw [mem_listenActions, taken_] at isPast
      cases progress with
      | refused | pushed =>
          contradiction
      | asked =>
          contradiction
      | looking | refusing | granting | naming | named | pushing =>
          simp only [decision, List.cons_append, List.nil_append,
            List.mem_cons, List.not_mem_nil, or_false] at isPast
          rcases isPast with rfl | rfl | rfl | rfl | rfl <;> trivial

/-- The last step of a handler that returns or throws. -/
theorem InLogin.last
    {action : ListenAction}
    (writes : platform.Writes)
    (inLogin : InLogin platform before socket login labels state)
    (step : ListenStep platform state action next)
    (ended : next.listenPc = .loop ∨ next.fault ≠ none)
    (alive : state.fault = none)
    (busy : state.listenPc ≠ .loop) :
    StaysInHandler (.listen action) ∧
      (next.listenPc = .loop ↔
        (before.NameTaken login.sender → ¬ BreaksOff socket labels)) := by
  have progress := inLogin.progress
  generalize listed_ : state.sockets = sockets at progress
  generalize taken_ : listenActions labels = actions at progress
  generalize pc : state.listenPc = at_ at progress
  have goesOn
      (away : next.listenPc ≠ .loop)
      (sane : next.fault = state.fault) :
      False := by
    rcases ended with returned | thrown
    · exact away returned
    · exact thrown (sane.trans alive)
  cases progress with
  | asked =>
      obtain ⟨rfl, rfl⟩ := step.at_lockNames pc
      exact (goesOn (by simp) rfl).elim
  | looking =>
      obtain ⟨now, ⟨_, rfl, rfl⟩ | ⟨_, rfl, text, _, rfl⟩⟩ :=
        step.at_visitLogin writes pc
      · exact (goesOn (by simp) rfl).elim
      · exact (goesOn (by simp) rfl).elim
  | @refusing now text taken written =>
      obtain ⟨outcome, rfl, _, _, written_⟩ := step.at_write pc
      refine ⟨trivial, ?_⟩
      have open_iff := inLogin.isOpen busy
      by_cases isOpen : (state.heap socket).isOpen = true
      · rw [if_pos isOpen] at written_
        exact iff_of_true written_ fun _ => open_iff.mp isOpen
      · rw [if_neg isOpen] at written_
        refine iff_of_false written_.1 ?_
        intro kept
        exact isOpen (open_iff.mpr (kept taken))
  | granting free =>
      obtain ⟨rfl, rfl⟩ := step.at_lockAssociate pc
      exact (goesOn (by simp) rfl).elim
  | naming free =>
      obtain ⟨rfl, rfl⟩ := step.at_associate pc
      exact (goesOn (by simp) rfl).elim
  | named free =>
      obtain ⟨rfl, rfl⟩ := step.at_lockQueue pc
      exact (goesOn (by simp) rfl).elim
  | pushing free =>
      obtain ⟨rfl, rfl⟩ := step.at_pushBack pc
      exact ⟨trivial, iff_of_true rfl fun taken => absurd taken free⟩
  | refused | pushed =>
      exact absurd pc busy

/-- A refusal that counts as an answer was taken whole. -/
theorem InLogin.whole_of_handled
    {label : ServerLabel}
    (inLogin :
      InLogin platform before socket login (labels ++ [label]) next)
    (taken : before.NameTaken login.sender)
    (handled :
      LoginHandled platform before socket login (labels ++ [label]) next) :
    AnswersWhole label := by
  have progress := inLogin.progress
  rw [handled.returned] at progress
  generalize next.sockets = sockets at progress
  generalize taken_ : listenActions (labels ++ [label]) = actions at progress
  cases progress with
  | @refused now text outcome _ written =>
      obtain ⟨text', error, answered, _⟩ := (handled.refused taken).answered
      rw [answers_refused taken_] at answered
      have isWhole : outcome = .written text.length := by
        by_contra cut
        rw [if_neg cut] at answered
        contradiction
      cases label with
      | send action =>
          trivial
      | listen action =>
          rw [listenActions_concat] at taken_
          have isLast : action = .write socket text outcome :=
            (List.append_inj' taken_ rfl).2 |> List.singleton_inj.mp
          rw [isLast]
          exact isWhole
  | pushed free =>
      exact absurd taken free

end Outcome

/--
A login that is read from a listed connection before `stop` is handled as its
name demands, up to the step with which the handler returns or the process ends,
exactly if that step is no write of `sendMessages` to a closed connection, and
the name is free or `sendMessages` has not failed to write to the connection and
the refusal is written whole.
-/
theorem login_handled_iff
    (platform : Platform)
    (writes : platform.Writes)
    (descriptors : List Nat)
    (past : List ServerLabel)
    (before : Server)
    (reached :
      run? (step? platform) (initial descriptors) past = some before)
    (running : before.killed = false)
    (socket : SocketRef)
    (listed : socket ∈ before.sockets.map Prod.fst)
    (bytes : Bytes)
    (now : TimePoint)
    (login : Request.Login)
    (decoded : visitBytes platform bytes = .ok (.visitLogin login))
    (inner : List ServerLabel)
    (stays : ∀ label ∈ inner, StaysInHandler label)
    (middle : Server)
    (through :
      run? (step? platform) before
          (.listen (.read socket (.data bytes) now) :: inner) =
        some middle)
    (busy : middle.listenPc ≠ .loop)
    (last : ServerLabel)
    (after : Server)
    (taken : middle.step? platform last = some after)
    (ended : after.listenPc = .loop ∨ after.fault ≠ none) :
    LoginHandled platform before socket login (inner ++ [last]) after ↔
      (∀ action, last = .send action → middle.SenderReady action) ∧
        (before.NameTaken login.sender →
          ¬ BreaksOff socket inner ∧ AnswersWhole last) := by
  obtain ⟨start, read, rest⟩ := LabelledRun.run?_cons_eq_some.mp through
  obtain ⟨alive, step⟩ := step?_sound taken
  have wellFormed : before.table.WellFormed :=
    wellFormed_of_run reached (step?_sound read).1 running
  have inLogin :=
    InLogin.of_run writes wellFormed listed decoded read rest stays alive
  cases step with
  | listen step =>
      obtain ⟨lastStays, returned⟩ :=
        inLogin.last writes step ended alive busy
      have inLast (isReturned : after.listenPc = .loop) :=
        inLogin.listen writes wellFormed listed step lastStays
          ((step.fault_of_returned isReturned).trans alive)
      constructor
      · intro handled
        refine ⟨fun action isSend => by contradiction, ?_⟩
        intro isTaken
        exact ⟨returned.mp handled.returned isTaken,
          (inLast handled.returned).whole_of_handled isTaken handled⟩
      · rintro ⟨_, refusal⟩
        have isReturned :=
          returned.mpr (fun isTaken => (refusal isTaken).1)
        refine (inLast isReturned).handled isReturned ?_
        intro isTaken label member
        rcases List.mem_append.mp member with isPast | isLast
        · exact inLogin.unanswered busy isPast
        · rw [List.mem_singleton.mp isLast]
          exact (refusal isTaken).2
  | @send action _ step =>
      have same := step.frame.1
      have away : after.listenPc ≠ .loop :=
        fun returned => busy (same.symm.trans returned)
      refine iff_of_false (fun handled => away handled.returned) ?_
      rintro ⟨ready, _⟩
      have isOpen := ready action rfl
      have thrown := ended.resolve_left away
      cases step with
      | serialiseThrows _ unwritable =>
          exact not_unwritable writes _ _ unwritable
      | writeThrows _ closed =>
          rw [SenderReady, closed] at isOpen
          contradiction
      | _ =>
          exact thrown alive

/-- A client logs in under a free name while `sendMessages` sleeps. -/
theorem login_handled_iff_logIn :
    let login : Request.Login := ⟨0, ascii "ann"⟩
    let bytes :=
      (Request.login login).text .reference JsonText.escape
    let response := granted login 0
    let past :=
      ServerLabel.connect [] 0 4 ++ ServerLabel.wait [4] (.client 0)
    let inner : List ServerLabel :=
      [.listen (.lockNames 0 login),
        .send .sleep,
        .listen (.visitLogin 0 login 0 response),
        .listen (.lockAssociate 0 login.sender response),
        .listen (.associate 0 login.sender response),
        .listen (.lockQueue 0 response)]
    let last : ServerLabel := .listen (.pushBack 0 response)
    ∃ before middle after,
      run? (step? .reference) (initial [0, 1, 2, 3]) past =
          some before ∧
        run? (step? .reference) before
            (.listen (.read 0 (.data bytes) 0) :: inner) =
          some middle ∧
        middle.step? .reference last = some after ∧
        (LoginHandled .reference before 0 login (inner ++ [last]) after ↔
          (∀ action, last = .send action → middle.SenderReady action) ∧
            (before.NameTaken login.sender →
              ¬ BreaksOff 0 inner ∧ AnswersWhole last)) := by
  intro login bytes response past inner last
  have arrived :
      (run? (step? .reference) (initial [0, 1, 2, 3]) past).map
          (fun before => (before.killed, before.sockets)) =
        some (false, [(0, [])]) := by
    decide +kernel
  have goesOn :
      (run? (step? .reference) (initial [0, 1, 2, 3])
          (past ++ .listen (.read 0 (.data bytes) 0) :: inner)).map
          (fun middle =>
            (middle.listenPc == .loop,
              (middle.step? .reference last).map fun after =>
                after.listenPc == .loop)) =
        some (false, some true) := by
    decide +kernel
  obtain ⟨middle, whole, values⟩ := Option.map_eq_some_iff.mp goesOn
  obtain ⟨standing, ends⟩ := Prod.mk.inj values
  obtain ⟨after, taken, returned⟩ := Option.map_eq_some_iff.mp ends
  obtain ⟨before, reached, through⟩ := LabelledRun.run?_prefix whole
  rw [reached, Option.map_some, Option.some.injEq] at arrived
  obtain ⟨running, sockets⟩ := Prod.mk.inj arrived
  refine ⟨before, middle, after, reached, through, taken, ?_⟩
  refine login_handled_iff .reference Platform.reference_writes
    [0, 1, 2, 3] past before reached running 0 ?_ bytes 0 login ?_ inner
    ?_ middle through ?_ last after taken (Or.inl (eq_of_beq returned))
  · rw [sockets]
    exact List.mem_singleton_self _
  · decide +kernel
  · intro label member
    simp only [inner, List.mem_cons, List.not_mem_nil, or_false] at member
    rcases member with rfl | rfl | rfl | rfl | rfl | rfl <;> trivial
  · intro returned
    rw [returned] at standing
    exact absurd standing (by decide)

/--
A client logs in twice under one name.  Between the refusal and its write,
`sendMessages` fails to write the first response to the client: the handler
throws, and the client is sent no error.
-/
theorem refusal_unwritten :
    let login : Request.Login := ⟨0, ascii "ann"⟩
    let bytes :=
      (Request.login login).text .reference JsonText.escape
    let response := granted login 0
    let text :=
      JsonText.value JsonText.escape (response.toJson .reference)
    let refusal :=
      JsonText.value JsonText.escape
        ((usernameInUse 0).toJson .reference)
    let past :=
      ServerLabel.connect [] 0 4 ++
        (ServerLabel.logIn [4] 0 bytes login 0 ++
          ([.send .sleep, .send .lockQueue,
              .send (.serialise response [])] ++
            ServerLabel.wait [4] (.client 0)))
    let inner : List ServerLabel :=
      [.listen (.lockNames 0 login),
        .listen (.visitLogin 0 login 0 (usernameInUse 0)),
        .send (.lockSockets response text []),
        .send (.write response text 0 [] [] .failed)]
    let labels := inner ++ [.listen (.write 0 refusal (.written 0))]
    ∃ before after,
      run? (step? .reference) (initial [0, 1, 2, 3]) past =
          some before ∧
        run? (step? .reference) before
            (.listen (.read 0 (.data bytes) 0) :: labels) =
          some after ∧
        after.fault =
          some (.listen,
            .runtimeError "Can not write to closed socket.") ∧
        before.NameTaken login.sender ∧
        ¬ LoginHandled .reference before 0 login labels after := by
  intro login bytes response text refusal past inner labels
  have named :
      (run? (step? .reference) (initial [0, 1, 2, 3]) past).map
          sockets =
        some [(0, ascii "ann")] := by
    decide +kernel
  have ended :
      (run? (step? .reference) (initial [0, 1, 2, 3])
          (past ++ .listen (.read 0 (.data bytes) 0) :: labels)).map
          (fun after => (after.fault, after.listenPc == .loop)) =
        some
          (some (.listen,
              .runtimeError "Can not write to closed socket."),
            false) := by
    decide +kernel
  obtain ⟨after, whole, values⟩ := Option.map_eq_some_iff.mp ended
  obtain ⟨thrown, standing⟩ := Prod.mk.inj values
  obtain ⟨before, reached, handled⟩ := LabelledRun.run?_prefix whole
  rw [reached] at named
  have sockets := Option.some.inj named
  refine ⟨before, after, reached, handled, thrown, ?_, ?_⟩
  · refine ⟨(0, ascii "ann"), ?_, rfl⟩
    rw [sockets]
    exact List.mem_singleton_self _
  · intro handled
    rw [handled.returned] at standing
    exact absurd standing (by decide)

end Server

end ChatRelay

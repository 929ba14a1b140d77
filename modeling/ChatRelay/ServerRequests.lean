import Mathlib.Data.List.Forall2
import ChatRelay.ServerSteps

namespace ChatRelay

/-!
# Every request is answered once

The requests that the server has read, the responses that its visitor has built
for them, and what has become of those: a response is queued, or it is written
to the socket of its request, or that write fails or stops early.  The listener
is done with a request before it reads the next one, so the three follow each
other one by one; only the last request can be on its way.
-/

open LabelledRun (run? run?_prefix run?_cons_eq_some EveryStep)

/-- A response that was built for a request, at the socket it was read from. -/
structure Visit where
  socket : SocketRef
  request : Request
  response : Response
  deriving Repr, DecidableEq

/-- The request of a visit, with its socket. -/
def Visit.asked (visit : Visit) : SocketRef × Request :=
  (visit.socket, visit.request)

/-- What becomes of a response: an `unsent` one was not written whole. -/
inductive Answer where
  | queued (socket : SocketRef) (response : Response) : Answer
  | refused (socket : SocketRef) (text : Bytes) : Answer
  | unsent (socket : SocketRef) (text : Bytes) : Answer
  deriving Repr, DecidableEq

/-- The request of a read, with the socket that was read. -/
def requestOf
    (platform : Platform) :
    ServerLabel → Option (SocketRef × Request)
  | .listen (.read socket outcome _) =>
      if outcome = .closed then
        none
      else
        match visitBytes platform outcome.contents with
        | .ok (.visitLogin login) =>
            some (socket, .login login)
        | .ok (.visitMessage msg) =>
            some (socket, .message msg)
        | _ =>
            none
  | _ =>
      none

/-- The visit that a step completes; `visitMessage` is called by the read. -/
def visitOf
    (platform : Platform) :
    ServerLabel → Option Visit
  | .listen (.read socket outcome now) =>
      if outcome = .closed then
        none
      else
        match visitBytes platform outcome.contents with
        | .ok (.visitMessage msg) =>
            some ⟨socket, .message msg, Server.visitMessage now msg⟩
        | _ =>
            none
  | .listen (.visitLogin socket login _ response) =>
      some ⟨socket, .login login, response⟩
  | _ =>
      none

/-- The answer that a step completes. -/
def answerOf : ServerLabel → Option Answer
  | .listen (.pushBack socket response) =>
      some (.queued socket response)
  | .listen (.write socket text outcome) =>
      if outcome = .written text.length then
        some (.refused socket text)
      else
        some (.unsent socket text)
  | _ =>
      none

/--
What becomes of the response of a visit, at the socket of its request: the
response to a message and the one to a name that is granted are queued, and for
a name that is refused the text of `usernameInUse` is written, if it can be.
-/
inductive Answers (platform : Platform) : Visit → Answer → Prop where
  | message
      (socket : SocketRef)
      (msg : Request.Message)
      (now : TimePoint) :
      Answers platform
        ⟨socket, .message msg, Server.visitMessage now msg⟩
        (.queued socket (Server.visitMessage now msg))
  | login
      (socket : SocketRef)
      (login : Request.Login)
      (now : TimePoint) :
      Answers platform
        ⟨socket, .login login,
          .login (Response.Login.ofUsername now login.sender)⟩
        (.queued socket
          (.login (Response.Login.ofUsername now login.sender)))
  | refused
      (socket : SocketRef)
      (login : Request.Login)
      {now : TimePoint}
      {text : Bytes}
      (isText :
        MessageJson.«to» platform
          ((Server.usernameInUse now).toJson platform) false =
            .ok text) :
      Answers platform
        ⟨socket, .login login, Server.usernameInUse now⟩
        (.refused socket text)
  | unsent
      (socket : SocketRef)
      (login : Request.Login)
      {now : TimePoint}
      {text : Bytes}
      (isText :
        MessageJson.«to» platform
          ((Server.usernameInUse now).toJson platform) false =
            .ok text) :
      Answers platform
        ⟨socket, .login login, Server.usernameInUse now⟩
        (.unsent socket text)

/-- How far the listening thread has come with a request. -/
inductive Pending where
  | nothing : Pending
  | asked (request : SocketRef × Request) : Pending
  | visited (visit : Visit) : Pending
  deriving Repr, DecidableEq

namespace Pending

/-- The request that is without an answer. -/
def request? : Pending → Option (SocketRef × Request)
  | nothing =>
      none
  | asked request =>
      some request
  | visited visit =>
      some visit.asked

/-- The response that is on its way. -/
def visit? : Pending → Option Visit
  | visited visit =>
      some visit
  | _ =>
      none

end Pending

/-- The request that the listening thread is answering where it stands. -/
def BeingAnswered
    (platform : Platform)
    (pending : Pending) :
    ListenPc → Prop
  | .lockNames socket login | .visitLogin socket login =>
      pending = .asked (socket, .login login)
  | .lockAssociate socket _ response | .associate socket _ response |
    .lockQueue socket response | .pushBack socket response =>
      ∃ visit,
        pending = .visited visit ∧
          Answers platform visit (.queued socket response)
  | .write socket text =>
      ∃ visit,
        pending = .visited visit ∧
          Answers platform visit (.refused socket text)
  | _ =>
      pending = .nothing

namespace Server

/-- The response is the one that the visitor builds in the state. -/
def Builds (state : Server) (visit : Visit) : Prop :=
  ∃ now,
    match visit.request with
    | .login login =>
        visit.response = state.visitLogin now login
    | .message msg =>
        visit.response = visitMessage now msg

variable {platform : Platform}
variable {state next : Server}
variable {labels : List ServerLabel}

/-- The requests that were read are answered, but for one at most. -/
def RequestsAnswered
    (platform : Platform)
    (labels : List ServerLabel)
    (state : Server) : Prop :=
  ∃ answered pending,
    labels.filterMap (requestOf platform) =
        answered.map Visit.asked ++ pending.request?.toList ∧
      labels.filterMap (visitOf platform) =
        answered ++ pending.visit?.toList ∧
      List.Forall₂ (Answers platform) answered
        (labels.filterMap answerOf) ∧
      BeingAnswered platform pending state.listenPc

/-- A write of the listener gives an answer, whole or not. -/
theorem answers_of_write
    {visit : Visit}
    {socket : SocketRef}
    {text : Bytes}
    (answers : Answers platform visit (.refused socket text))
    (outcome : WriteOutcome) :
    ∃ answer,
      answerOf (.listen (.write socket text outcome)) = some answer ∧
        Answers platform visit answer := by
  cases answers with
  | refused socket login isText =>
      simp only [answerOf]
      split
      · exact ⟨_, rfl, .refused socket login isText⟩
      · exact ⟨_, rfl, .unsent socket login isText⟩

/-- A step moves the request that is pending on, and may take up another. -/
theorem RequestsAnswered.turn
    {label : ServerLabel}
    (holds : RequestsAnswered platform labels state)
    (turn :
      ∀ pending,
        BeingAnswered platform pending state.listenPc →
        ∃ done after,
          pending.request?.toList ++
                (requestOf platform label).toList =
              done.map Visit.asked ++ after.request?.toList ∧
            pending.visit?.toList ++ (visitOf platform label).toList =
              done ++ after.visit?.toList ∧
            List.Forall₂ (Answers platform) done
              (answerOf label).toList ∧
            BeingAnswered platform after next.listenPc) :
    RequestsAnswered platform (labels ++ [label]) next := by
  obtain ⟨answered, pending, requests, visits, answers, stands⟩ := holds
  obtain ⟨done, after, moreRequests, moreVisits, moreAnswers,
      standsNext⟩ :=
    turn pending stands
  have last {Item : Type} (read : ServerLabel → Option Item) :
      (labels ++ [label]).filterMap read =
        labels.filterMap read ++ (read label).toList := by
    rw [List.filterMap_append]
    cases found : read label <;> simp [found]
  refine ⟨answered ++ done, after, ?_, ?_, ?_, standsNext⟩
  · rw [last, requests, List.append_assoc, moreRequests, List.map_append,
      List.append_assoc]
  · rw [last, visits, List.append_assoc, moreVisits, List.append_assoc]
  · rw [last]
    exact List.rel_append answers moreAnswers

/-- A step that has nothing to do with the requests. -/
theorem RequestsAnswered.quiet
    {label : ServerLabel}
    (holds : RequestsAnswered platform labels state)
    (noRequest : requestOf platform label = none)
    (noVisit : visitOf platform label = none)
    (noAnswer : answerOf label = none)
    (goesOn :
      ∀ pending,
        BeingAnswered platform pending state.listenPc →
          BeingAnswered platform pending next.listenPc) :
    RequestsAnswered platform (labels ++ [label]) next := by
  apply holds.turn
  intro pending stands
  rw [noRequest, noVisit, noAnswer]
  exact ⟨[], pending, List.append_nil _, List.append_nil _, .nil,
    goesOn pending stands⟩

/-- A step that completes the answer to a request. -/
theorem RequestsAnswered.answer
    {label : ServerLabel}
    (holds : RequestsAnswered platform labels state)
    (noRequest : requestOf platform label = none)
    (noVisit : visitOf platform label = none)
    (answering :
      ∀ pending,
        BeingAnswered platform pending state.listenPc →
        ∃ visit answer,
          pending = .visited visit ∧
            answerOf label = some answer ∧
              Answers platform visit answer)
    (ends : BeingAnswered platform .nothing next.listenPc) :
    RequestsAnswered platform (labels ++ [label]) next := by
  apply holds.turn
  intro pending stands
  obtain ⟨visit, answer, rfl, isAnswer, answers⟩ :=
    answering pending stands
  rw [noRequest, noVisit, isAnswer]
  exact ⟨[visit], .nothing, rfl, rfl, .cons answers .nil, ends⟩

/-- Every step that throws nothing keeps the answers behind the requests. -/
theorem RequestsAnswered.step
    {label : ServerLabel}
    (holds : RequestsAnswered platform labels state)
    (step : Step platform state label next)
    (alive : next.fault = none) :
    RequestsAnswered platform (labels ++ [label]) next := by
  cases step with
  | listen step =>
      cases step with
      | readClosed | readMessageThrows | readThrows |
        visitLoginThrows | writeThrows | acceptFailed =>
          simp [throw] at alive
      | readEnded pc isOpen =>
          apply holds.quiet
          · simp [requestOf]
          · simp [visitOf]
          · rfl
          · rw [pc]
            exact fun _ => id
      | @readLogin socket outcome now login pc isOpen more decoded =>
          apply holds.turn
          intro pending stands
          rw [pc] at stands
          obtain rfl := stands
          refine ⟨[], .asked (socket, .login login), ?_, ?_, .nil, rfl⟩
          · simp only [requestOf, if_neg more, decoded]
            rfl
          · simp only [visitOf, if_neg more, decoded]
            rfl
      | @readMessage socket outcome now msg pc isOpen more decoded =>
          apply holds.turn
          intro pending stands
          rw [pc] at stands
          obtain rfl := stands
          refine ⟨[],
            .visited ⟨socket, .message msg, visitMessage now msg⟩,
            ?_, ?_, .nil, ⟨_, rfl, .message socket msg now⟩⟩
          · simp only [requestOf, if_neg more, decoded]
            rfl
          · simp only [visitOf, if_neg more, decoded]
            rfl
      | @acceptName socket login now pc unused =>
          apply holds.turn
          intro pending stands
          rw [pc] at stands
          obtain rfl := stands
          exact ⟨[], .visited _, rfl, rfl, .nil,
            ⟨_, rfl, .login socket login now⟩⟩
      | @refuseName socket login now text pc used isText =>
          apply holds.turn
          intro pending stands
          rw [pc] at stands
          obtain rfl := stands
          exact ⟨[], .visited _, rfl, rfl, .nil,
            ⟨_, rfl, .refused socket login isText⟩⟩
      | @write socket text outcome pc =>
          apply holds.answer rfl rfl
          · intro pending stands
            rw [pc] at stands
            obtain ⟨visit, isVisited, answers⟩ := stands
            obtain ⟨answer, isAnswer, isItsAnswer⟩ :=
              answers_of_write answers outcome
            exact ⟨visit, answer, isVisited, isAnswer, isItsAnswer⟩
          · rfl
      | pushBack pc =>
          apply holds.answer rfl rfl
          · intro pending stands
            rw [pc] at stands
            obtain ⟨visit, isVisited, answers⟩ := stands
            exact ⟨visit, _, isVisited, rfl, answers⟩
          · rfl
      | @remove socket pc =>
          apply holds.quiet rfl rfl rfl
          rw [pc]
          exact fun _ => id
      -- the handler for another descriptor, and the loop around it
      | selectNothing pc | selectExit pc | selectServerSocket pc
      | selectClient pc | leaveLoop pc | enterWait pc
      | lockKillEvent pc | unlockKillEvent pc | lockRemove pc
      | lockNames pc | lockAssociate pc | associate pc
      | lockQueue pc | accept pc | lockAdd pc | add pc
      | lockStop pc | closeAll pc | lockKill pc | kill pc
      | unlockStop pc =>
          apply holds.quiet rfl rfl rfl
          rw [pc]
          exact fun _ => id
  | send step =>
      have same : next.listenPc = state.listenPc := by
        cases step <;> rfl
      apply holds.quiet rfl rfl rfl
      rw [same]
      exact fun _ => id

theorem requestsAnswered_of_run
    {descriptors : List Nat}
    (reached :
      run? (step? platform) (initial descriptors) labels = some state)
    (alive : state.fault = none) :
    RequestsAnswered platform labels state := by
  have keeps :
      state.fault = none → RequestsAnswered platform labels state := by
    refine @LabelledRun.invariant _ _ _ _
      (fun labels state =>
        state.fault = none → RequestsAnswered platform labels state)
      ?_ ?_ _ _ reached
    · exact fun _ => ⟨[], .nothing, rfl, rfl, .nil, rfl⟩
    · intro past state label next _ holds taken nextAlive
      obtain ⟨living, step⟩ := step?_sound taken
      exact (holds living).step step nextAlive
  exact keeps alive

/-- What a step has visited is what the visitor builds there. -/
theorem builds_of_step
    {label : ServerLabel}
    (taken : state.step? platform label = some next)
    {visit : Visit}
    (isVisit : visitOf platform label = some visit) :
    state.Builds visit := by
  cases label with
  | send action =>
      contradiction
  | listen action =>
      cases action with
      | read socket outcome now =>
          simp only [visitOf] at isVisit
          split at isVisit
          · contradiction
          · split at isVisit
            · cases isVisit
              exact ⟨now, rfl⟩
            · contradiction
      | visitLogin socket login now response =>
          cases isVisit
          have stepped :
              state.listenStep? platform
                  (.visitLogin socket login now response) =
                some next := by
            unfold step? at taken
            split at taken
            · exact taken
            · contradiction
          simp only [listenStep?, guarded_some] at stepped
          exact ⟨now, stepped.1.2⟩
      | _ =>
          contradiction

/--
In every run in which nothing is thrown, what has become of the responses that
the visitor built for the requests is told one by one and in order: a response
is queued, or a refusal is written to the socket of its request, or that write
fails or stops early.  Every response is the one that the visitor builds in the
state in which it is called.  Only the last request can be without an answer,
and only while the listening thread is on its way to it.
-/
theorem requests_answered
    {descriptors : List Nat}
    (reached :
      run? (step? platform) (initial descriptors) labels = some state)
    (alive : state.fault = none) :
    (∃ answered pending,
      labels.filterMap (requestOf platform) =
          answered.map Visit.asked ++ pending.request?.toList ∧
        labels.filterMap (visitOf platform) =
            answered ++ pending.visit?.toList ∧
          List.Forall₂ (Answers platform) answered
              (labels.filterMap answerOf) ∧
            BeingAnswered platform pending state.listenPc) ∧
      EveryStep (step? platform) (initial descriptors)
        (fun _ before label =>
          ∀ visit ∈ visitOf platform label, before.Builds visit)
        labels := by
  refine ⟨requestsAnswered_of_run reached alive, ?_⟩
  intro past label future shape before ran visit isVisit
  rw [shape] at reached
  obtain ⟨middle, ranPast, ranRest⟩ := run?_prefix reached
  obtain rfl := Option.some.inj (ran.symm.trans ranPast)
  obtain ⟨after, taken, _⟩ := run?_cons_eq_some.mp ranRest
  exact builds_of_step taken isVisit

/--
One client is named, the other one is refused the same name, and its refusal is
written whole.
-/
theorem requests_answered_login :
    let login : Request.Login := ⟨0, ascii "ann"⟩
    let bytes :=
      (Request.login login).text .reference JsonText.escape
    let refusal :=
      JsonText.value JsonText.escape
        ((usernameInUse 0).toJson .reference)
    let granted : Response :=
      .login (Response.Login.ofUsername 0 (ascii "ann"))
    let labels :=
      ServerLabel.connect [] 0 4 ++
        (ServerLabel.connect [4] 1 5 ++
          (ServerLabel.logIn [5, 4] 0 bytes login 0 ++
            (ServerLabel.wait [5, 4] (.client 1) ++
              [.listen (.read 1 (.data bytes) 0),
                .listen (.lockNames 1 login),
                .listen (.visitLogin 1 login 0 (usernameInUse 0)),
                .listen
                  (.write 1 refusal (.written refusal.length))])))
    labels.filterMap answerOf =
        [.queued 0 granted, .refused 1 refusal] ∧
      ∃ state answered pending,
        run? (step? .reference) (initial [0, 1, 2, 3]) labels =
            some state ∧
          labels.filterMap (requestOf .reference) =
              answered.map Visit.asked ++ pending.request?.toList ∧
            List.Forall₂ (Answers .reference) answered
                (labels.filterMap answerOf) ∧
              BeingAnswered .reference pending state.listenPc := by
  intro login bytes refusal granted labels
  have finished :
      (run? (step? .reference) (initial [0, 1, 2, 3]) labels).map
          (fun state => state.fault) =
        some none := by
    decide +kernel
  obtain ⟨state, reached, alive⟩ :=
    Option.map_eq_some_iff.mp finished
  obtain ⟨⟨answered, pending, requests, _, answers, stands⟩, _⟩ :=
    requests_answered reached alive
  exact ⟨by decide +kernel, state, answered, pending, reached, requests,
    answers, stands⟩

end Server

end ChatRelay

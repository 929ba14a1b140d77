import Mathlib.Data.List.Forall2
import ChatRelay.LoginAgreement
import ChatRelay.ServerRequests

namespace ChatRelay

/-!
# Where the rows of a client come from

Every row that a client has shown, or has still to show, is the answer of the
server to a request that it has read.  Neither the queue of the server, nor the
network, nor the handlers of the clients make rows of their own.
-/

open LabelledRun
open Client (Activity ActivityLabel Row)
open Client.Activity

/-- The requests that the server has read, with their sockets. -/
def requestsRead
    (platform : Platform)
    (log : List ServerLabel) :
    List (SocketRef × Request) :=
  log.filterMap (requestOf platform)

/-- One more label of the log. -/
theorem requestsRead_concat
    (platform : Platform)
    (log : List ServerLabel)
    (label : ServerLabel) :
    requestsRead platform (log ++ [label]) =
      requestsRead platform log ++ (requestOf platform label).toList := by
  rw [requestsRead, requestsRead, List.filterMap_append]
  cases isRequest : requestOf platform label <;>
    simp [isRequest]

/--
The row announces a login that was read from its origin, or shows a message
that was read from some connection.
-/
def FromRequest
    (platform : Platform)
    (log : List ServerLabel) :
    Row Announcement Response.Message → Prop
  | .login login =>
      ∃ request now,
        (login.origin, .login request) ∈ requestsRead platform log ∧
          login.response = Response.Login.ofUsername now request.sender
  | .message response =>
      ∃ socket msg now,
        (socket, .message msg) ∈ requestsRead platform log ∧
          Server.visitMessage now msg = .message response

/-- A request that was read stays read. -/
theorem FromRequest.mono
    {platform : Platform}
    {before after : List ServerLabel}
    {row : Row Announcement Response.Message}
    (fromRequest : FromRequest platform before row)
    (more : before ⊆ after) :
    FromRequest platform after row := by
  have grows :
      ∀ asked ∈ requestsRead platform before,
        asked ∈ requestsRead platform after := by
    intro asked isRead
    obtain ⟨label, member, isRequest⟩ := List.mem_filterMap.mp isRead
    exact List.mem_filterMap.mpr ⟨label, more member, isRequest⟩
  cases row with
  | login login =>
      obtain ⟨request, now, isRead, named⟩ := fromRequest
      exact ⟨request, now, grows _ isRead, named⟩
  | message response =>
      obtain ⟨socket, msg, now, isRead, answered⟩ := fromRequest
      exact ⟨socket, msg, now, grows _ isRead, answered⟩

/-- Every related item has a partner. -/
theorem exists_of_forall₂
    {First Second : Type}
    {Related : First → Second → Prop}
    {firsts : List First}
    {seconds : List Second}
    (related : List.Forall₂ Related firsts seconds)
    {second : Second}
    (isSecond : second ∈ seconds) :
    ∃ first ∈ firsts, Related first second := by
  induction related with
  | nil =>
      contradiction
  | cons head tail inductionHypothesis =>
      rcases List.mem_cons.mp isSecond with rfl | inTail
      · exact ⟨_, List.mem_cons_self, head⟩
      · obtain ⟨first, isFirst, partner⟩ := inductionHypothesis inTail
        exact ⟨first, List.mem_cons_of_mem _ isFirst, partner⟩

namespace Server

variable {platform : Platform}
variable {state : Server}
variable {labels : List ServerLabel}

/-- What is being written answers a request that was read. -/
theorem written_answers
    {descriptors : List Nat}
    (reached :
      run? (step? platform) (initial descriptors) labels = some state)
    (alive : state.fault = none)
    {message : Response}
    {text : Bytes}
    {targets : List SocketRef}
    {remaining : List Response}
    (writing :
      state.senderPc = .writing message text targets remaining) :
    ∃ origin,
      writtenPush? labels = some (origin, message) ∧
        ∃ visit : Visit,
          visit.asked ∈ requestsRead platform labels ∧
            Answers platform visit (.queued origin message) := by
  obtain ⟨origin, isNext, _⟩ := written_push reached writing
  refine ⟨origin, isNext, ?_⟩
  have isAnswer :
      Answer.queued origin message ∈ labels.filterMap answerOf := by
    have isPush := List.mem_of_getElem? isNext
    obtain ⟨label, member, pushed⟩ := List.mem_filterMap.mp isPush
    refine List.mem_filterMap.mpr ⟨label, member, ?_⟩
    cases label with
    | listen action =>
        cases action <;> simp_all [answerOf]
    | send action =>
        contradiction
  obtain ⟨answered, pending, requests, _, answers, _⟩ :=
    requestsAnswered_of_run reached alive
  obtain ⟨visit, isAnswered, isItsAnswer⟩ :=
    exists_of_forall₂ answers isAnswer
  refine ⟨visit, ?_, isItsAnswer⟩
  rw [requestsRead, requests]
  exact List.mem_append_left _ (List.mem_map_of_mem isAnswered)

/-- The row of a response that is being written comes from a request. -/
theorem fromRequest_of_answers
    {visit : Visit}
    {origin : SocketRef}
    {message : Response}
    (isRead : visit.asked ∈ requestsRead platform labels)
    (answers : Answers platform visit (.queued origin message))
    {row : Row Announcement Response.Message}
    (isRow : (Delivery.broadcast origin message).row? = some row) :
    FromRequest platform labels row := by
  cases answers with
  | message socket msg now =>
      cases isRow
      exact ⟨_, msg, now, isRead, rfl⟩
  | login socket login now =>
      cases isRow
      exact ⟨login, now, isRead, rfl⟩

end Server

namespace ChatSystem

variable {ClientId DateTime : Type}

/-- The row comes from a request, wherever it is. -/
structure RowsFromRequests
    (platform : Platform)
    (system : ChatSystem ClientId DateTime) : Prop where
  delivered :
    ∀ link,
      ∀ delivery ∈ system.responses link,
      ∀ row,
        delivery.row? = some row → FromRequest platform system.log row
  posted :
    ∀ client,
      ∀ obj ∈ (system.clients client).queue.line ++
        (system.clients client).queue.deferred,
      FromRequest platform system.log obj.row

section Steps

variable [DecidableEq ClientId] [DecidableEq DateTime]
variable
  {platform : Platform}
  {DATETIME_FORMAT : DateTime → String}
  {escape : Bytes → Bytes}
  {descriptors : List Nat}
  {system next : ChatSystem ClientId DateTime}

omit [DecidableEq ClientId] [DecidableEq DateTime] in
/-- What the server sends comes from a request. -/
theorem RowsFromRequests.sent
    (keeps : KeepsAnnouncements platform descriptors system)
    {label : ServerLabel}
    {after : Server}
    (stepped : system.server.step? platform label = some after)
    {delivery : Delivery}
    (isSent : IsSent system.log label delivery)
    {row : Row Announcement Response.Message}
    (isRow : delivery.row? = some row) :
    FromRequest platform system.log row := by
  cases isSent with
  | reply text =>
      contradiction
  | @broadcast message pushed text socket origin targets remaining
      outcome next =>
      obtain ⟨alive, step⟩ := Server.step?_sound stepped
      have writing :
          system.server.senderPc =
            .writing message text (socket :: targets) remaining := by
        cases step with
        | send step =>
            cases step <;> assumption
      obtain ⟨other, isNext, visit, isRead, answers⟩ :=
        Server.written_answers keeps.served alive writing
      rw [next] at isNext
      obtain ⟨rfl, rfl⟩ := Prod.mk.inj (Option.some.inj isNext)
      exact Server.fromRequest_of_answers isRead answers isRow

theorem RowsFromRequests.server
    (rows : RowsFromRequests platform system)
    (keeps : KeepsAnnouncements platform descriptors system)
    {label : ServerLabel}
    (taken :
      step? platform DATETIME_FORMAT escape system (.server label) =
        some next) :
    RowsFromRequests platform next := by
  obtain ⟨after, stepped, rfl⟩ := step?_server taken
  have sends := @afterServer_sends _ _ system _ label
  have more : system.log ⊆ system.log ++ [label] :=
    List.subset_append_left _ _
  refine ⟨?_, ?_⟩
  · intro link delivery isDelivery row isRow
    rcases sends.responses link delivery isDelivery with before | isSent
    · exact (rows.delivered link delivery before row isRow).mono more
    · exact (RowsFromRequests.sent keeps stepped isSent isRow).mono more
  · intro client obj isPosted
    change obj ∈ ((system.afterServer label).clients client).queue.line ++
      ((system.afterServer label).clients client).queue.deferred at isPosted
    rw [sends.clients] at isPosted
    exact (rows.posted client obj isPosted).mono more

theorem RowsFromRequests.client
    (rows : RowsFromRequests platform system)
    (keeps : KeepsAnnouncements platform descriptors system)
    {client : ClientId}
    {label : ActivityLabel DateTime Announcement Response.Message}
    (taken :
      step? platform DATETIME_FORMAT escape system
          (.client client label) =
        some next) :
    RowsFromRequests platform next := by
  obtain ⟨permitted, after, stepped, rfl⟩ := step?_client taken
  have sends :=
    @afterClient_sends _ _ system _ DATETIME_FORMAT escape client label
  obtain ⟨_, sameLog⟩ :=
    @afterClient_server _ _ system _ DATETIME_FORMAT escape client label
  obtain ⟨step, _⟩ := queue_step (keeps.roomExists client) stepped
  refine ⟨?_, ?_⟩
  · dsimp only
    rw [sameLog]
    intro link delivery isDelivery
    rcases sends.responses link delivery isDelivery with before | sent
    · exact rows.delivered link delivery before
    · contradiction
  · dsimp only
    rw [sameLog]
    refine (Function.forall_update_iff system.clients
      (p := fun _ activity =>
        ∀ obj ∈ activity.queue.line ++ activity.queue.deferred,
          FromRequest platform system.log obj.row)).mpr
        ⟨?_, fun other _ => rows.posted other⟩
    intro obj isPosted
    rcases step.mem isPosted with before | isPost
    · exact rows.posted client obj before
    · rw [posted?_queueEvent] at isPost
      obtain ⟨row, visited, rfl⟩ := Option.map_eq_some_iff.mp isPost
      cases label with
      | visitRow connection other =>
          cases visited
          obtain ⟨delivery, isHead, isRow⟩ := permitted
          exact rows.delivered _ delivery (List.mem_of_mem_head? isHead)
            row isRow
      | _ =>
          contradiction

theorem RowsFromRequests.of_run
    {labels : List (SystemLabel ClientId DateTime)}
    (reached :
      run? (step? platform DATETIME_FORMAT escape)
        (initial descriptors) labels = some system) :
    RowsFromRequests platform system := by
  refine @LabelledRun.invariant _ _ _ _
    (fun _ system => RowsFromRequests platform system)
    ?_ ?_ _ _ reached
  · refine ⟨?_, ?_⟩
    · intro link delivery inNothing
      contradiction
    · intro client obj inNothing
      contradiction
  · intro past state label next before rows taken
    have keeps := keepsAnnouncements before
    cases label with
    | server label =>
        exact rows.server keeps taken
    | client client label =>
        exact rows.client keeps taken

/--
In every run of the server with any number of clients, everything that a client
has shown or has still to show answers a request that the server has read: a
login is that of a request from the connection that it announces, and a message
has the originator and the content of a request.
-/
theorem rows_answer_requests
    {labels : List (SystemLabel ClientId DateTime)}
    (reached :
      run? (step? platform DATETIME_FORMAT escape)
        (initial descriptors) labels = some system) :
    ∀ client,
      ∀ obj ∈ (system.clients client).shownRows ++
        (system.clients client).waitingRows ++
          (system.clients client).stalledRows,
      FromRequest platform system.log obj.row :=
  (RowsFromRequests.of_run reached).posted

/-- A client that logs in puts off the row of its own login. -/
theorem rows_answer_requests_logInAlone :
    ∃ final,
      run? referenceStep? (initial [0, 1, 2, 3]) logInAlone =
          some final ∧
        (final.clients 0).stalledRows =
            [⟨0, .login ⟨0, answer "ann"⟩⟩] ∧
          FromRequest .reference final.log
            (.login ⟨0, answer "ann"⟩) := by
  have finished :
      (run? referenceStep? (initial [0, 1, 2, 3]) logInAlone).map
          (fun final => (final.clients 0).stalledRows) =
        some [⟨0, .login ⟨0, answer "ann"⟩⟩] := by
    decide +kernel
  obtain ⟨final, reached, stalled⟩ := Option.map_eq_some_iff.mp finished
  refine ⟨final, reached, stalled, ?_⟩
  refine rows_answer_requests reached 0
    ⟨0, .login ⟨0, answer "ann"⟩⟩ (List.mem_append_right _ ?_)
  rw [stalled]
  exact List.mem_singleton_self _

end Steps

end ChatSystem

end ChatRelay

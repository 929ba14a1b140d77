import ChatRelay.AgreedOrder
import ChatRelay.RelatedSubsequence
import ChatRelay.RequestOrder

namespace ChatRelay

/-!
# From one client to another, in order

A request goes from its sender to the listening thread, through the queue to
the sending thread, and as a response to the reader of another client.  Each of
these ways keeps the order, and none of them doubles anything.  So what a
client posts from one connection of another client is what was sent over that
connection, in the same order and each at most once.
-/

open LabelledRun
open Client (Row)
open Client.Activity (OneLive)
open JsonText (DocumentReader)
open List (SublistForall₂)
open RequestFraming (ClientRequest)

namespace Server

variable {platform : Platform}
variable {state next : Server}
variable {labels : List ServerLabel}

/-- The response that an answer queues, with its socket. -/
def queued? : Answer → Option (SocketRef × Response)
  | .queued socket response =>
      some (socket, response)
  | .refused _ _ | .unsent _ _ =>
      none

/-- What is pushed are the answers that are queued. -/
theorem pushes_eq_queued
    (labels : List ServerLabel) :
    pushes labels = (labels.filterMap answerOf).filterMap queued? := by
  rw [pushes, List.filterMap_filterMap]
  congr 1
  funext label
  cases label with
  | listen action =>
      cases action with
      | write socket text outcome =>
          simp only [answerOf]
          split <;> rfl
      | _ =>
          rfl
  | send action =>
      rfl

/-- An answer is given where the request for it stands. -/
theorem Step.answering
    {label : ServerLabel}
    (step : Step platform state label next)
    {answer : Answer}
    (isAnswer : answerOf label = some answer)
    {pending : Pending}
    (stands : BeingAnswered platform pending state.listenPc) :
    ∃ visit, pending = .visited visit ∧ Answers platform visit answer := by
  cases step with
  | listen step =>
      cases step with
      | @write _ _ outcome pc _ | @writeThrows _ _ outcome pc _ =>
          rw [pc] at stands
          obtain ⟨visit, isVisited, answers⟩ := stands
          obtain ⟨other, isOther, isItsAnswer⟩ :=
            answers_of_write answers outcome
          obtain rfl := Option.some.inj (isOther.symm.trans isAnswer)
          exact ⟨visit, isVisited, isItsAnswer⟩
      | pushBack pc =>
          cases isAnswer
          rw [pc] at stands
          exact stands
      | _ =>
          contradiction
  | send step =>
      contradiction

/-- The answers of a run belong to its first requests, also if it throws. -/
theorem answers_of_run
    {descriptors : List Nat}
    (reached :
      run? (step? platform) (initial descriptors) labels = some state) :
    ∃ answered pending,
      requestsRead platform labels =
          answered.map Visit.asked ++ pending ∧
        List.Forall₂ (Answers platform) answered
          (labels.filterMap answerOf) := by
  rcases List.eq_nil_or_concat labels with rfl | ⟨past, label, rfl⟩
  · exact ⟨[], [], rfl, .nil⟩
  · rw [List.concat_eq_append] at reached ⊢
    obtain ⟨middle, before, taken⟩ := run?_concat_eq_some reached
    obtain ⟨alive, step⟩ := step?_sound taken
    obtain ⟨answered, pending, requests, _, answers, stands⟩ :=
      requestsAnswered_of_run before alive
    rw [requestsRead_concat, requestsRead, requests,
      List.filterMap_append]
    cases isAnswer : answerOf label with
    | none =>
        refine ⟨answered,
          pending.request?.toList ++ (requestOf platform label).toList,
          List.append_assoc .., ?_⟩
        rw [List.filterMap_cons_none isAnswer, List.filterMap_nil,
          List.append_nil]
        exact answers
    | some answer =>
        obtain ⟨visit, rfl, isItsAnswer⟩ :=
          step.answering isAnswer stands
        refine ⟨answered ++ [visit],
          (requestOf platform label).toList, ?_, ?_⟩
        · rw [List.map_append]
          rfl
        · rw [List.filterMap_cons_some isAnswer, List.filterMap_nil]
          exact List.rel_append answers (.cons isItsAnswer .nil)

/-- The response was built for the request and is queued. -/
def Queues
    (platform : Platform)
    (push : SocketRef × Response)
    (asked : SocketRef × Request) : Prop :=
  ∃ visit : Visit,
    visit.asked = asked ∧
      Answers platform visit (.queued push.1 push.2)

/-- The pushes of a run answer its requests, in order. -/
theorem pushes_answer
    {descriptors : List Nat}
    (reached :
      run? (step? platform) (initial descriptors) labels = some state) :
    SublistForall₂ (Queues platform) (pushes labels)
      (requestsRead platform labels) := by
  obtain ⟨answered, pending, requests, answers⟩ :=
    answers_of_run reached
  have found :=
    RelatedSubsequence.of_filterMap queued?
      (labels.filterMap answerOf)
  have asking :
      List.Forall₂
        (fun asked answer =>
          ∃ visit : Visit,
            visit.asked = asked ∧ Answers platform visit answer)
        (answered.map Visit.asked) (labels.filterMap answerOf) := by
    rw [List.forall₂_map_left_iff]
    exact answers.imp fun visit answer isItsAnswer =>
      ⟨visit, rfl, isItsAnswer⟩
  rw [pushes_eq_queued, requests]
  refine RelatedSubsequence.mono (List.Sublist.refl _)
    (RelatedSubsequence.comp ?_ found
      (RelatedSubsequence.of_forall₂ asking.flip))
    (List.sublist_append_left _ _)
  intro push answer asked isQueued isItsAnswer
  cases answer with
  | queued socket response =>
      cases isQueued
      exact isItsAnswer
  | refused socket text | unsent socket text =>
      contradiction

/-- A queued response is at the socket of its request. -/
theorem Queues.socket
    {push : SocketRef × Response}
    {asked : SocketRef × Request}
    (queues : Queues platform push asked) :
    push.1 = asked.1 := by
  obtain ⟨visit, rfl, answers⟩ := queues
  obtain ⟨socket, response⟩ := push
  cases answers <;> rfl

end Server

namespace ChatSystem

variable {ClientId DateTime : Type}

/-- The response shows the name and the text of a request of a client. -/
inductive ShowsSent : Response → ClientRequest DateTime → Prop where
  | login
      (now : TimePoint)
      (mDateTime : DateTime)
      (mSender : String) :
      ShowsSent
        (.login (Response.Login.ofUsername now (ascii mSender)))
        (.LoginRequest mDateTime mSender)
  | message
      (now : TimePoint)
      (mDateTime : DateTime)
      (mSender mContent : String) :
      ShowsSent
        (.message
          (Response.Message.ofContent now (ascii mSender)
            (ascii mContent)))
        (.MessageRequest mDateTime mSender mContent)

/-- The queued answer to a request shows what the client has sent. -/
theorem ShowsSent.of_queues
    {platform : Platform}
    {DATETIME_FORMAT : DateTime → String}
    {sent : ClientRequest DateTime}
    {asked : SocketRef × Request}
    {push : SocketRef × Response}
    (carries : Carries platform DATETIME_FORMAT sent asked.2)
    (queues : Server.Queues platform push asked) :
    ShowsSent push.2 sent := by
  obtain ⟨visit, rfl, answers⟩ := queues
  obtain ⟨origin, response⟩ := push
  cases answers with
  | message socket msg now =>
      cases sent with
      | LoginRequest mDateTime mSender =>
          contradiction
      | MessageRequest mDateTime mSender mContent =>
          cases carries
          exact .message now mDateTime mSender mContent
  | login socket login now =>
      cases sent with
      | LoginRequest mDateTime mSender =>
          cases carries
          exact .login now mDateTime mSender
      | MessageRequest mDateTime mSender mContent =>
          contradiction

section Runs

variable [DecidableEq ClientId] [DecidableEq DateTime]
variable
  {platform : Platform}
  {DATETIME_FORMAT : DateTime → String}
  {escape : Bytes → Bytes}
  {descriptors : List Nat}
  {labels : List (SystemLabel ClientId DateTime)}
  {system : ChatSystem ClientId DateTime}

/-- The pushes that came from a connection. -/
def cameFrom
    (system : ChatSystem ClientId DateTime)
    (link : Link ClientId)
    (pushed : List (SocketRef × Response)) :
    List (SocketRef × Response) :=
  pushed.filter fun push => system.peer? push.1 = some link

/-- Every push answers a request that came from a client. -/
theorem peer_of_pushed
    (reader : DocumentReader platform.read_json escape)
    (reached :
      run? (step? platform DATETIME_FORMAT escape)
        (initial descriptors) labels = some system)
    {push : SocketRef × Response}
    (isPushed : push ∈ Server.pushes system.log) :
    ∃ link, system.peer? push.1 = some link := by
  have served := (keepsAnnouncements reached).served
  obtain ⟨answered, answers, fewer⟩ :=
    List.sublistForall₂_iff.mp (Server.pushes_answer served)
  obtain ⟨asked, isAsked, queues⟩ :=
    exists_of_forall₂ answers.flip isPushed
  obtain ⟨link, isPeer⟩ :=
    (ReadInOrder.of_run reader reached).peers asked
      (fewer.subset isAsked)
  exact ⟨link, Server.Queues.socket queues ▸ isPeer⟩

/-- What is pushed from one connection was sent over it, in order. -/
theorem pushes_in_sent_order
    (reader : DocumentReader platform.read_json escape)
    (reached :
      run? (step? platform DATETIME_FORMAT escape)
        (initial descriptors) labels = some system)
    (link : Link ClientId) :
    SublistForall₂
      (fun (push : SocketRef × Response) sent => ShowsSent push.2 sent)
      (system.cameFrom link (Server.pushes system.log))
      (sentOver labels link) := by
  have served := (keepsAnnouncements reached).served
  obtain ⟨delivered, pending, isSent, carried, _⟩ :=
    (ReadInOrder.of_run reader reached).carried link
  have answering :=
    @RelatedSubsequence.filter _ _ _ _ _
      (fun push => system.peer? push.1 = some link)
      (fun asked => system.peer? asked.1 = some link)
      (fun push asked queues => by
        rw [queues.socket])
      (Server.pushes_answer served)
  have carrying :=
    RelatedSubsequence.of_forall₂
      (List.forall₂_map_right_iff.mp carried).flip
  rw [isSent]
  refine RelatedSubsequence.mono (List.Sublist.refl _)
    (RelatedSubsequence.comp ?_ answering carrying)
    (List.sublist_append_left _ _)
  intro push asked sent queues carries
  exact ShowsSent.of_queues carries queues

/--
In every run of the server with any number of clients, and however the network
cuts the bytes: what the readers of a client post to its handler, over all its
connections, comes from connections of clients, if the client has at most one
live connection at a time.  From each connection it posts the names and the
texts that were sent over it, in the order in which they were sent, each at
most once.
-/
theorem rows_in_sent_order
    (reader : DocumentReader platform.read_json escape)
    (reached :
      run? (step? platform DATETIME_FORMAT escape)
        (initial descriptors) labels = some system)
    {client : ClientId}
    (oneLive :
      Always (step? platform DATETIME_FORMAT escape)
        (initial descriptors)
        (fun _ system => OneLive (system.clients client)) labels) :
    ∃ posted : List (SocketRef × Response),
      List.Forall₂ (fun row push => pushedRow? push = some row)
          (postedRows labels client) posted ∧
        (∀ push ∈ posted, ∃ link, system.peer? push.1 = some link) ∧
          ∀ link,
            SublistForall₂
              (fun (push : SocketRef × Response) sent =>
                ShowsSent push.2 sent)
              (system.cameFrom link posted) (sentOver labels link) := by
  have inOrder := postedRows_of_run reached oneLive
  have rows :=
    RelatedSubsequence.mono inOrder
      (RelatedSubsequence.of_filterMap pushedRow?
        (Server.pushes system.log))
      (List.Sublist.refl _)
  obtain ⟨posted, isPosted, fewer⟩ := List.sublistForall₂_iff.mp rows
  refine ⟨posted, isPosted, ?_, ?_⟩
  · intro push isPush
    exact peer_of_pushed reader reached (fewer.subset isPush)
  · intro link
    exact RelatedSubsequence.mono (fewer.filter _)
      (pushes_in_sent_order reader reached link)
      (List.Sublist.refl _)

end Runs

/-- The second of two clients posts the login that the first one has sent. -/
theorem rows_in_sent_order_logInTogether :
    ∃ final posted,
      run? referenceStep? (initial [0, 1, 2, 3]) logInTogether =
          some final ∧
        postedRows logInTogether 1 = [.login ⟨0, answer "ann"⟩] ∧
          List.Forall₂
              (fun row (push : SocketRef × Response) =>
                pushedRow? push = some row)
              (postedRows logInTogether 1) posted ∧
            ∀ link,
              SublistForall₂
                (fun (push : SocketRef × Response) sent =>
                  ShowsSent push.2 sent)
                (final.cameFrom link posted)
                (sentOver logInTogether link) := by
  have finished :
      ((run? referenceStep? (initial [0, 1, 2, 3]) logInTogether).map
          fun _ => ()) =
        some () := by
    decide +kernel
  obtain ⟨final, reached, _⟩ := Option.map_eq_some_iff.mp finished
  obtain ⟨posted, isPosted, _, inOrder⟩ :=
    rows_in_sent_order JsonText.reader reached
      (always_oneLive (EveryStep.of_check logInTogether_connectsOnce))
  exact ⟨final, posted, reached, logInTogether_posted, isPosted, inOrder⟩

end ChatSystem

end ChatRelay

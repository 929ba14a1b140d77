import ChatRelay.ClientTyping
import ChatRelay.RequestOrder

namespace ChatRelay.ChatSystem

/-!
# Everything that is shown was typed

A row that some client shows has come a long way: from a text field through a
background task, as bytes in whatever pieces, through a read of the server and
its queue, and through the handler of another client.  Wherever the pieces are
cut, what arrives is what some user has typed, under a name with which that
user has asked to log in.
-/

open LabelledRun
open Client (Activity ActivityLabel Row)
open Client.Activity
open JsonText (DocumentReader)
open RequestFraming (ClientRequest)

variable {ClientId DateTime : Type}
variable [DecidableEq ClientId]

/-- What a client has done in a run of the system. -/
def clientLabels
    (labels : List (SystemLabel ClientId DateTime))
    (client : ClientId) :
    List (ActivityLabel DateTime Announcement Response.Message) :=
  labels.filterMap fun
    | .client other label =>
        if other = client then
          some label
        else
          none
    | .server _ =>
        none

/-- The request was typed by the user of some client. -/
def TypedRequest
    (labels : List (SystemLabel ClientId DateTime)) :
    Request → Prop
  | .login login =>
      ∃ client mSender,
        Named (clientLabels labels client) mSender ∧
          login.sender = ascii mSender
  | .message msg =>
      ∃ client mSender mContent,
        ActivityLabel.clickSend mContent ∈ clientLabels labels client ∧
          (mSender = "" ∨ Named (clientLabels labels client) mSender) ∧
            msg.sender = ascii mSender ∧
              msg.content = ascii mContent

/-- The row shows what was typed by the user of some client. -/
def TypedRow
    (labels : List (SystemLabel ClientId DateTime)) :
    Row Announcement Response.Message → Prop
  | .login login =>
      ∃ client mSender,
        Named (clientLabels labels client) mSender ∧
          login.response.joiningUsername = ascii mSender
  | .message response =>
      ∃ client mSender mContent,
        ActivityLabel.clickSend mContent ∈ clientLabels labels client ∧
          (mSender = "" ∨ Named (clientLabels labels client) mSender) ∧
            response.originator = ascii mSender ∧
              response.content = ascii mContent

theorem clientLabels_subset
    (labels : List (SystemLabel ClientId DateTime))
    (label : SystemLabel ClientId DateTime)
    (client : ClientId) :
    clientLabels labels client ⊆
      clientLabels (labels ++ [label]) client := by
  unfold clientLabels
  rw [List.filterMap_append]
  exact List.subset_append_left _ _

theorem clientLabels_self
    (labels : List (SystemLabel ClientId DateTime))
    (client : ClientId)
    (label : ActivityLabel DateTime Announcement Response.Message) :
    clientLabels (labels ++ [.client client label]) client =
      clientLabels labels client ++ [label] := by
  simp [clientLabels, List.filterMap_append]

/-- A step of the server is not one of a client. -/
theorem clientLabels_server
    (labels : List (SystemLabel ClientId DateTime))
    (label : ServerLabel)
    (client : ClientId) :
    clientLabels (labels ++ [.server label]) client =
      clientLabels labels client := by
  simp [clientLabels, List.filterMap_append]

/-- A request that carries what was typed is a typed one. -/
theorem TypedRequest.of_carries
    {platform : Platform}
    {labels : List (SystemLabel ClientId DateTime)}
    {client : ClientId}
    {DATETIME_FORMAT : DateTime → String}
    {sent : ClientRequest DateTime}
    {request : Request}
    (typed : Typed (clientLabels labels client) sent)
    (carries : Carries platform DATETIME_FORMAT sent request) :
    TypedRequest labels request := by
  cases sent with
  | LoginRequest mDateTime mSender =>
      cases request with
      | login login =>
          injection carries with isLogin
          exact ⟨client, mSender, typed, by rw [← isLogin]⟩
      | message msg =>
          contradiction
  | MessageRequest mDateTime mSender mContent =>
      cases request with
      | login login =>
          contradiction
      | message msg =>
          injection carries with isMessage
          exact ⟨client, mSender, mContent, typed.1, typed.2,
            by rw [← isMessage], by rw [← isMessage]⟩

/-! ### What the clients send -/

/-- The clients hold, and have sent, nothing but what was typed. -/
structure SendsTyped
    (labels : List (SystemLabel ClientId DateTime))
    (system : ChatSystem ClientId DateTime) : Prop where
  clients :
    ∀ client,
      HoldsTyped (clientLabels labels client) (system.clients client)
  sent :
    ∀ link,
      ∀ message ∈ sentOver labels link,
        Typed (clientLabels labels link.1) message

section Runs

variable
  {platform : Platform}
  {DATETIME_FORMAT : DateTime → String}
  {escape : Bytes → Bytes}
  {descriptors : List Nat}
  {labels : List (SystemLabel ClientId DateTime)}
  {system next : ChatSystem ClientId DateTime}

/-- A request that a step sends is the first task of its client. -/
theorem mem_sentOver_singleton
    {label : SystemLabel ClientId DateTime}
    {link : Link ClientId}
    {message : ClientRequest DateTime}
    (isSent : message ∈ sentOver [label] link) :
    label =
      .client link.1
        (.background (.send link.2 message) (.ok ())) := by
  unfold sentOver at isSent
  obtain ⟨⟨other, _⟩, isItem, rfl⟩ := List.mem_map.mp isSent
  obtain ⟨isStep, isLink⟩ := List.mem_filter.mp isItem
  obtain rfl : other = link := of_decide_eq_true isLink
  obtain ⟨step, isLabel, sends⟩ := List.mem_filterMap.mp isStep
  obtain rfl := List.mem_singleton.mp isLabel
  unfold sentBy? at sends
  split at sends
  · cases sends
    rfl
  · contradiction

variable [DecidableEq DateTime]

theorem SendsTyped.server
    (sends : SendsTyped labels system)
    {label : ServerLabel}
    (taken :
      step? platform DATETIME_FORMAT escape system (.server label) =
        some next) :
    SendsTyped (labels ++ [.server label]) next := by
  obtain ⟨after, _, rfl⟩ := step?_server taken
  have kept := @afterServer_sends _ _ system _ label
  refine ⟨?_, ?_⟩
  · intro client
    dsimp only
    rw [clientLabels_server, kept.clients]
    exact sends.clients client
  · intro link message isSent
    rw [sentOver_concat, List.mem_append] at isSent
    rw [clientLabels_server]
    rcases isSent with before | isNew
    · exact sends.sent link message before
    · cases mem_sentOver_singleton isNew

theorem SendsTyped.client
    (sends : SendsTyped labels system)
    {client : ClientId}
    {label : ActivityLabel DateTime Announcement Response.Message}
    (taken :
      step? platform DATETIME_FORMAT escape system
          (.client client label) =
        some next) :
    SendsTyped (labels ++ [.client client label]) next := by
  obtain ⟨_, after, stepped, rfl⟩ := step?_client taken
  have more := clientLabels_subset labels (.client client label)
  refine ⟨?_, ?_⟩
  · intro other
    dsimp only
    by_cases same : other = client
    · subst same
      rw [clientLabels_self, Function.update_self]
      exact (sends.clients other).step stepped
    · rw [Function.update_of_ne same]
      exact (sends.clients other).mono (more other)
  · intro link message isSent
    rw [sentOver_concat, List.mem_append] at isSent
    rcases isSent with before | isNew
    · exact Typed.mono (sends.sent link message before) (more link.1)
    · cases mem_sentOver_singleton isNew
      exact Typed.mono ((sends.clients link.1).sent stepped)
        (more link.1)

theorem SendsTyped.of_run
    (reached :
      run? (step? platform DATETIME_FORMAT escape)
        (initial descriptors) labels = some system) :
    SendsTyped labels system := by
  refine @LabelledRun.invariant _ _ _ _ SendsTyped ?_ ?_ _ _ reached
  · refine ⟨?_, ?_⟩
    · intro client
      refine ⟨?_, ?_, Or.inl rfl⟩
      · intro task inNothing
        contradiction
      · intro task inNothing
        contradiction
    · intro link message inNothing
      contradiction
  · intro past state label next _ sends taken
    cases label with
    | server label =>
        exact sends.server taken
    | client client label =>
        exact sends.client taken

/-- Every request that the server has read was typed. -/
theorem requests_typed
    (reader : DocumentReader platform.read_json escape)
    (reached :
      run? (step? platform DATETIME_FORMAT escape)
        (initial descriptors) labels = some system) :
    ∀ asked ∈ requestsRead platform system.log,
      TypedRequest labels asked.2 := by
  have inOrder := ReadInOrder.of_run reader reached
  have sends := SendsTyped.of_run reached
  intro asked isRead
  obtain ⟨link, isPeer⟩ := inOrder.peers asked isRead
  obtain ⟨delivered, pending, isSent, carried, _⟩ :=
    inOrder.carried link
  have isOver : asked.2 ∈ readOver platform system link :=
    List.mem_map_of_mem
      (List.mem_filter.mpr ⟨isRead, decide_eq_true isPeer⟩)
  obtain ⟨sent, isDelivered, carries⟩ :=
    exists_of_forall₂ carried isOver
  have typed := sends.sent link sent
    (isSent ▸ List.mem_append_left pending isDelivered)
  exact .of_carries typed carries

omit [DecidableEq DateTime] in
/-- The answer to a typed request shows what was typed. -/
theorem TypedRow.of_request
    {log : List ServerLabel}
    (read :
      ∀ asked ∈ requestsRead platform log, TypedRequest labels asked.2)
    {row : Row Announcement Response.Message}
    (fromRequest : FromRequest platform log row) :
    TypedRow labels row := by
  cases row with
  | login login =>
      obtain ⟨request, now, isRead, isResponse⟩ := fromRequest
      obtain ⟨client, mSender, named, same⟩ := read _ isRead
      refine ⟨client, mSender, named, ?_⟩
      rw [isResponse]
      exact same
  | message response =>
      obtain ⟨socket, msg, now, isRead, isResponse⟩ := fromRequest
      obtain ⟨client, mSender, mContent, clicked, named, sender, content⟩ :=
        read _ isRead
      cases isResponse
      exact ⟨client, mSender, mContent, clicked, named, sender, content⟩

/--
In every run of the server with any number of clients, and however the network
cuts the bytes, everything that a client has shown or has still to show was
typed by the user of some client: a login under a name that was given to
`login` there, and a message whose text was sent there, from nobody or from a
name that was given to `login` there.
-/
theorem rows_typed
    (reader : DocumentReader platform.read_json escape)
    (reached :
      run? (step? platform DATETIME_FORMAT escape)
        (initial descriptors) labels = some system) :
    ∀ client,
      ∀ obj ∈ (system.clients client).shownRows ++
        (system.clients client).waitingRows ++
          (system.clients client).stalledRows,
      TypedRow labels obj.row := by
  have rows := RowsFromRequests.of_run reached
  intro client obj isRow
  exact .of_request (requests_typed reader reached)
    (rows.posted client obj isRow)

end Runs

/-- The row of a client that logs in shows the name that was typed. -/
theorem rows_typed_logInAlone :
    ∃ final,
      run? referenceStep? (initial [0, 1, 2, 3]) logInAlone =
          some final ∧
        (final.clients 0).stalledRows =
            [⟨0, .login ⟨0, answer "ann"⟩⟩] ∧
          TypedRow logInAlone (.login ⟨0, answer "ann"⟩) := by
  have finished :
      (run? referenceStep? (initial [0, 1, 2, 3]) logInAlone).map
          (fun final => (final.clients 0).stalledRows) =
        some [⟨0, .login ⟨0, answer "ann"⟩⟩] := by
    decide +kernel
  obtain ⟨final, reached, stalled⟩ := Option.map_eq_some_iff.mp finished
  refine ⟨final, reached, stalled, ?_⟩
  refine rows_typed JsonText.reader reached 0
    ⟨0, .login ⟨0, answer "ann"⟩⟩ (List.mem_append_right _ ?_)
  rw [stalled]
  exact List.mem_singleton_self _

end ChatRelay.ChatSystem

import Mathlib.Data.List.Basic
import ChatRelay.ClientActivity

namespace ChatRelay.Client

/-!
# What the user has typed

The requests that a client sends carry what its user has typed: a login the
name that was given to `login`, a message the text of the message field.  The
name of a message is one that the client has asked to log in with, or empty.
-/

open LabelledRun
open RequestFraming (ClientRequest)

/-- The request that waits in a task of the main thread. -/
def MainTask.request?
    {DateTime Login Chat : Type} :
    MainTask DateTime Login Chat → Option (ClientRequest DateTime)
  | .connectPostExecute _ req _ | .sendPostExecute _ req _ =>
      some req
  | .handleMessage _ =>
      none

/-- The text that waits to be sent in a message. -/
def MainTask.text?
    {DateTime Login Chat : Type} :
    MainTask DateTime Login Chat → Option String
  | .handleMessage (.SendMessage obj) =>
      some obj
  | _ =>
      none

/-- The request that waits in a background task. -/
def BackgroundTask.request?
    {DateTime Login Chat : Type} :
    BackgroundTask DateTime Login Chat → Option (ClientRequest DateTime)
  | .socketConnect _ req | .send _ req =>
      some req
  | .resend _ =>
      none

namespace Activity

variable {DateTime Login Chat : Type}

/-- The user has asked to log in under a name. -/
def Named
    (past : List (ActivityLabel DateTime Login Chat))
    (mSender : String) : Prop :=
  ∃ mDateTime, ActivityLabel.login mDateTime mSender ∈ past

/-- The request carries what the user has typed. -/
def Typed
    (past : List (ActivityLabel DateTime Login Chat)) :
    ClientRequest DateTime → Prop
  | .LoginRequest _ mSender =>
      Named past mSender
  | .MessageRequest _ mSender mContent =>
      .clickSend mContent ∈ past ∧ (mSender = "" ∨ Named past mSender)

/-- The client holds nothing but what its user has typed. -/
structure HoldsTyped
    (past : List (ActivityLabel DateTime Login Chat))
    (state : Activity DateTime Login Chat) : Prop where
  executor :
    ∀ task ∈ state.executor,
      ∀ req ∈ task.request?, Typed past req
  mainQueue :
    ∀ task ∈ state.mainQueue,
      (∀ req ∈ task.request?, Typed past req) ∧
        ∀ obj ∈ task.text?, .clickSend obj ∈ past
  username :
    state.username = "" ∨ Named past state.username

variable {past : List (ActivityLabel DateTime Login Chat)}
variable {state : Activity DateTime Login Chat}

theorem Typed.mono
    {req : ClientRequest DateTime}
    (typed : Typed past req)
    {now : List (ActivityLabel DateTime Login Chat)}
    (more : past ⊆ now) :
    Typed now req := by
  have named :
      ∀ mSender : String, Named past mSender → Named now mSender :=
    fun mSender ⟨mDateTime, isIn⟩ => ⟨mDateTime, more isIn⟩
  cases req with
  | LoginRequest mDateTime mSender =>
      exact named mSender typed
  | MessageRequest mDateTime mSender mContent =>
      exact ⟨more typed.1, typed.2.imp id (named mSender)⟩

theorem HoldsTyped.mono
    (holds : HoldsTyped past state)
    {now : List (ActivityLabel DateTime Login Chat)}
    (more : past ⊆ now) :
    HoldsTyped now state := by
  refine ⟨?_, ?_, ?_⟩
  · intro task waits req isReq
    exact (holds.executor task waits req isReq).mono more
  · intro task waits
    obtain ⟨requests, texts⟩ := holds.mainQueue task waits
    exact ⟨fun req isReq => (requests req isReq).mono more,
      fun obj isText => more (texts obj isText)⟩
  · exact holds.username.imp id
      fun ⟨mDateTime, isIn⟩ => ⟨mDateTime, more isIn⟩

/-- One more task waits for the main thread. -/
theorem HoldsTyped.post
    (holds : HoldsTyped past state)
    {task : MainTask DateTime Login Chat}
    (requests : ∀ req ∈ task.request?, Typed past req)
    (texts : ∀ obj ∈ task.text?, .clickSend obj ∈ past) :
    HoldsTyped past
      { state with mainQueue := state.mainQueue ++ [task] } := by
  refine ⟨holds.executor, ?_, holds.username⟩
  intro other waits
  rcases List.mem_append.mp waits with before | isNew
  · exact holds.mainQueue other before
  · rw [List.mem_singleton.mp isNew]
    exact ⟨requests, texts⟩

/-- A message of the handler that is not to be sent. -/
theorem HoldsTyped.sendMessage
    (holds : HoldsTyped past state)
    {msg : HandlerMessage Login Chat}
    (noText :
      (.handleMessage msg : MainTask DateTime Login Chat).text? = none) :
    HoldsTyped past (state.sendMessage msg) := by
  refine holds.post ?_ ?_
  · simp [MainTask.request?]
  · simp [noText]

theorem HoldsTyped.execute
    (holds : HoldsTyped past state)
    {task : BackgroundTask DateTime Login Chat}
    (requests : ∀ req ∈ task.request?, Typed past req) :
    HoldsTyped past (state.execute task) := by
  refine ⟨?_, holds.mainQueue, holds.username⟩
  intro other waits
  rcases List.mem_append.mp waits with before | isNew
  · exact holds.executor other before
  · rw [List.mem_singleton.mp isNew]
    exact requests

theorem HoldsTyped.closeConnection
    (holds : HoldsTyped past state) :
    HoldsTyped past state.closeConnection := by
  unfold Activity.closeConnection
  split
  · exact holds
  · dsimp only
    split
    · exact holds
    · exact ⟨holds.executor, holds.mainQueue, holds.username⟩

theorem HoldsTyped.onSendError
    (holds : HoldsTyped past state)
    (message : ClientRequest DateTime)
    (text : String) :
    HoldsTyped past (state.onSendError message text) := by
  cases message with
  | LoginRequest mDateTime mSender =>
      exact HoldsTyped.closeConnection (holds.sendMessage rfl)
  | MessageRequest mDateTime mSender mContent =>
      exact holds.sendMessage rfl

/-- A typed request is sent. -/
theorem HoldsTyped.send
    (holds : HoldsTyped past state)
    {message : ClientRequest DateTime}
    (typed : Typed past message) :
    HoldsTyped past (state.send message) := by
  have isRequest :
      ∀ connection,
        ∀ req ∈
          (BackgroundTask.send connection message :
            BackgroundTask DateTime Login Chat).request?,
        Typed past req := by
    intro connection req isReq
    rw [← Option.some.inj isReq]
    exact typed
  unfold Activity.send
  split
  · exact ⟨holds.executor, holds.mainQueue, holds.username⟩
  · split
    · exact holds.execute (isRequest _)
    · exact HoldsTyped.execute (holds.onSendError message _) (isRequest _)

theorem HoldsTyped.display
    (holds : HoldsTyped past state)
    (obj : Display Login Chat) :
    HoldsTyped past (state.display obj) := by
  unfold Activity.display
  split
  · split <;> exact ⟨holds.executor, holds.mainQueue, holds.username⟩
  · refine holds.execute ?_
    simp [BackgroundTask.request?]

/-- What the main thread runs posts and sends nothing that was not typed. -/
theorem HoldsTyped.runMain
    (holds : HoldsTyped past state)
    (now : DateTime)
    {task : MainTask DateTime Login Chat}
    (requests : ∀ req ∈ task.request?, Typed past req)
    (texts : ∀ obj ∈ task.text?, .clickSend obj ∈ past) :
    HoldsTyped past (state.runMain now task) := by
  cases task with
  | handleMessage inputMessage =>
      cases inputMessage with
      | SendMessage obj =>
          exact holds.send ⟨texts obj rfl, holds.username⟩
      | ExpectingLogin | DisplayError =>
          exact ⟨holds.executor, holds.mainQueue, holds.username⟩
      | SocketAWOL =>
          have left : HoldsTyped past state.lost :=
            ⟨holds.executor, holds.mainQueue, Or.inl rfl⟩
          exact left.closeConnection
      | Display obj =>
          rcases obj with ⟨ref, row⟩
          cases row with
          | login login =>
              have accepted : HoldsTyped past state.acceptLogin := by
                unfold acceptLogin
                split
                · exact ⟨holds.executor, holds.mainQueue, holds.username⟩
                · exact holds
              exact accepted.display _
          | message chat =>
              exact holds.display _
  | connectPostExecute connection req result =>
      cases result with
      | error text =>
          exact holds.sendMessage rfl
      | ok done =>
          have reading :
              HoldsTyped past
                (state.setConnection connection
                  { state.connections connection with
                    readThread := .running }) :=
            ⟨holds.executor, holds.mainQueue, holds.username⟩
          exact reading.send (requests req rfl)
  | sendPostExecute connection message result =>
      cases result with
      | error text =>
          exact holds.onSendError message text
      | ok done =>
          cases message with
          | LoginRequest mDateTime mSender =>
              have named :
                  HoldsTyped past { state with username := mSender } :=
                ⟨holds.executor, holds.mainQueue,
                  Or.inr (requests _ rfl)⟩
              exact named.sendMessage rfl
          | MessageRequest mDateTime mSender mContent =>
              exact holds

section Steps

variable [DecidableEq DateTime] [DecidableEq Login] [DecidableEq Chat]
variable {next : Activity DateTime Login Chat}
variable {label : ActivityLabel DateTime Login Chat}

/-- Every step of the client handles what its user has typed. -/
theorem HoldsTyped.step
    (holds : HoldsTyped past state)
    (taken : step? state label = some next) :
    HoldsTyped (past ++ [label]) next := by
  have grown : HoldsTyped (past ++ [label]) state :=
    holds.mono (List.subset_append_left _ _)
  have isLast : label ∈ past ++ [label] :=
    List.mem_append_right _ (List.mem_singleton_self _)
  cases label with
  | login mDateTime mSender =>
      obtain ⟨_, rfl⟩ := guarded_eq_some.mp taken
      have connecting :
          HoldsTyped (past ++ [.login mDateTime mSender])
            { state with
              mConnection := some state.nextConnection
              nextConnection := state.nextConnection + 1 } :=
        ⟨grown.executor, grown.mainQueue, grown.username⟩
      refine connecting.execute ?_
      intro req isReq
      rw [← Option.some.inj isReq]
      exact ⟨mDateTime, isLast⟩
  | clickSend text =>
      obtain ⟨_, rfl⟩ := guarded_eq_some.mp taken
      refine grown.post (by simp [MainTask.request?]) ?_
      intro obj isText
      rw [← Option.some.inj isText]
      exact isLast
  | main task now =>
      obtain ⟨⟨_, first⟩, rfl⟩ := guarded_eq_some.mp taken
      have waits := grown.mainQueue task (List.mem_of_mem_head? first)
      have left :
          HoldsTyped (past ++ [.main task now])
            { state with mainQueue := state.mainQueue.tail } :=
        ⟨grown.executor,
          fun other after =>
            grown.mainQueue other (List.mem_of_mem_tail after),
          grown.username⟩
      exact left.runMain now waits.1 waits.2
  | background task result =>
      obtain ⟨⟨_, first, _⟩, rfl⟩ := guarded_eq_some.mp taken
      have requests := grown.executor task (List.mem_of_mem_head? first)
      have left :
          HoldsTyped (past ++ [.background task result])
            { state with executor := state.executor.tail } :=
        ⟨fun other after =>
            grown.executor other (List.mem_of_mem_tail after),
          grown.mainQueue, grown.username⟩
      cases task with
      | socketConnect connection req =>
          have posted :=
            @HoldsTyped.post _ _ _ _ _ left
              (.connectPostExecute connection req result)
              requests (by simp [MainTask.text?])
          exact ⟨posted.executor, posted.mainQueue, posted.username⟩
      | send connection message =>
          exact
            @HoldsTyped.post _ _ _ _ _ left
              (.sendPostExecute connection message result)
              requests (by simp [MainTask.text?])
      | resend obj =>
          exact left.sendMessage rfl
  | visitRow | visitError =>
      obtain ⟨_, rfl⟩ := guarded_eq_some.mp taken
      refine HoldsTyped.sendMessage ?_ rfl
      exact ⟨grown.executor, grown.mainQueue, grown.username⟩
  | readFails | reportLost =>
      obtain ⟨_, rfl⟩ := guarded_eq_some.mp taken
      refine HoldsTyped.sendMessage ?_ rfl
      exact ⟨grown.executor, grown.mainQueue, grown.username⟩
  | _ =>
      obtain ⟨_, rfl⟩ := guarded_eq_some.mp taken
      exact ⟨grown.executor, grown.mainQueue, grown.username⟩

/-- What a client sends was typed by its user. -/
theorem HoldsTyped.sent
    {connection : Nat}
    {message : ClientRequest DateTime}
    (holds : HoldsTyped past state)
    {result : Except String Unit}
    (taken :
      step? state (.background (.send connection message) result) =
        some next) :
    Typed past message := by
  obtain ⟨⟨_, first, _⟩, _⟩ := guarded_eq_some.mp taken
  exact holds.executor _ (List.mem_of_mem_head? first) message rfl

end Steps

end Activity

end ChatRelay.Client

import Mathlib.Data.List.Basic
import ChatRelay.JsonText

namespace ChatRelay.Client

/-!
# The callbacks of a send

`SocketManager::send` reports from two places.  It looks at the socket when it
is called, and the task that it submits reports what became of the message,
from the fields that the background thread has left in it.  The check at the
call does not return.
-/

namespace SocketManager

/--
`java.net.Socket`.  Closing it leaves `isConnected` as it is; a peer that has
gone is noticed only by a failing write.
-/
structure JavaSocket where
  isConnected : Bool
  isClosed : Bool
  deriving Repr, DecidableEq

structure IOException where
  message : String
  deriving Repr, DecidableEq

/--
How the calls on the socket end, if they are made.  A failing write has sent
some bytes all the same.
-/
structure Outcomes where
  getOutputStream : Except IOException Unit
  write : Except (Nat × IOException) Unit
  flush : Except IOException Unit

/-- What can be observed of a send; a null reference is `none`. -/
inductive Event (T : Type) where
  | lock : Event T
  | unlock : Event T
  | write (bytes : Bytes) : Event T
  | flush : Event T
  | onSuccess (o : Option T) : Event T
  | onError (e : Option IOException) : Event T
  deriving Repr, DecidableEq

namespace Event

variable {T : Type}

/-- Keep the callbacks and discard all other events. -/
def callback? : Event T → Option (Event T)
  | onSuccess o => some (onSuccess o)
  | onError e => some (onError e)
  | _ => none

/-- The bytes that an event has sent. -/
def sent : Event T → Bytes
  | write bytes => bytes
  | _ => []

/--
What an event does to the lock, which counts how often its holder has taken
it; a thread can only unlock what it holds, and only a holder sends.
-/
def holdCount : Nat → Event T → Option Nat
  | count, lock => some (count + 1)
  | 0, unlock => none
  | count + 1, unlock => some count
  | 0, write _ => none
  | 0, flush => none
  | count, _ => some count

end Event

section Send

variable {T : Type}

/-- The callbacks of a send, in their order. -/
def callbacks (events : List (Event T)) : List (Event T) :=
  events.filterMap Event.callback?

/-- The whole message was written and flushed. -/
def Delivered
    (bytes : Bytes)
    (events : List (Event T)) : Prop :=
  events.flatMap Event.sent = bytes ∧ Event.flush ∈ events

/-- The send takes the lock, sends only under it, and gives it back. -/
def ReleasesLock (events : List (Event T)) : Prop :=
  ∀ count, events.foldlM Event.holdCount count = some count

/-- `Socket::getOutputStream` -/
def JavaSocket.getOutputStream
    (sock : JavaSocket)
    (outcome : Except IOException Unit) : Except IOException Unit :=
  if sock.isClosed then
    .error ⟨"Socket is closed"⟩
  else if !sock.isConnected then
    .error ⟨"Socket is not connected"⟩
  else
    outcome

/-- The fields of the task, and what its background part returns. -/
structure SendTask (T : Type) where
  success : Bool
  except : Option IOException
  result : Option T
  deriving Repr, DecidableEq

/-- The `try` block, under the lock. -/
def transmit
    (sock : JavaSocket)
    (outcomes : Outcomes)
    (bytes : Bytes) : List (Event T) × Except IOException Unit :=
  match sock.getOutputStream outcomes.getOutputStream with
  | .error e =>
      ([], .error e)
  | .ok () =>
      match outcomes.write with
      | .error (count, e) =>
          ([.write (bytes.take count)], .error e)
      | .ok () =>
          match outcomes.flush with
          | .error e =>
              ([.write bytes], .error e)
          | .ok () =>
              ([.write bytes, .flush], .ok ())

/-- The fields after the `try` block has ended or an exception was caught. -/
def SendTask.ofOutcome
    (message : T) : Except IOException Unit → SendTask T
  | .ok () =>
      { success := true
        except := none
        result := some message }
  | .error e =>
      { success := false
        except := some e
        result := none }

/-- `doInBackground`; `finally` unlocks whatever has happened. -/
def doInBackground
    (getBytes : T → Bytes)
    (sock : JavaSocket)
    (outcomes : Outcomes)
    (message : T) : List (Event T) × SendTask T :=
  let tried := transmit sock outcomes (getBytes message)
  ([.lock] ++ tried.1 ++ [.unlock], .ofOutcome message tried.2)

/-- `onPostExecute`; the flag says whether there is a success handler. -/
def onPostExecute
    (successHandler : Bool)
    (task : SendTask T) : List (Event T) :=
  (if task.success && successHandler then
    [.onSuccess task.result]
  else
    []) ++
  if !task.success then
    [.onError task.except]
  else
    []

/-- The check at the call. -/
def sanityCheck (sock : JavaSocket) : List (Event T) :=
  if !sock.isConnected then
    [.onError (some ⟨"Socket is not connected."⟩)]
  else
    []

/--
`SocketManager::send`, from the call to the end of its task.  The socket may
have changed before the task gets to run.
-/
def send
    (getBytes : T → Bytes)
    (atCall atTask : JavaSocket)
    (outcomes : Outcomes)
    (successHandler : Bool)
    (message : T) : List (Event T) :=
  let background := doInBackground getBytes atTask outcomes message
  sanityCheck atCall ++ background.1 ++
    onPostExecute successHandler background.2

/-- What a caller of `send` may rely on. -/
structure OneCallback
    (getBytes : T → Bytes)
    (successHandler : Bool)
    (message : T)
    (events : List (Event T)) : Prop where
  succeeds :
    successHandler = true →
    Delivered (getBytes message) events →
    callbacks events = [.onSuccess (some message)]
  fails :
    successHandler = true →
    ¬ Delivered (getBytes message) events →
    ∃ e, callbacks events = [.onError (some e)]
  withoutHandler :
    successHandler = false →
    callbacks events = [] ∨
      ¬ Delivered (getBytes message) events ∧
        ∃ e, callbacks events = [.onError (some e)]
  released : ReleasesLock events

namespace OneCallback

variable {getBytes : T → Bytes}
variable {successHandler : Bool}
variable {message : T}
variable {events : List (Event T)}
variable {e : Option IOException}
variable {rest : List (Event T)}

/-- An error that comes first comes alone, and the message was not delivered. -/
theorem of_error
    (promise : OneCallback getBytes successHandler message events)
    (reported : callbacks events = .onError e :: rest) :
    ¬ Delivered (getBytes message) events ∧ rest = [] := by
  have single :
      ¬ Delivered (getBytes message) events ∧
        ∃ e, callbacks events = [.onError (some e)] := by
    cases successHandler with
    | true =>
        by_cases delivered : Delivered (getBytes message) events
        · have succeeds := promise.succeeds rfl delivered
          rw [reported] at succeeds
          simp at succeeds
        · exact ⟨delivered, promise.fails rfl delivered⟩
    | false =>
        rcases promise.withoutHandler rfl with none | failed
        · rw [reported] at none
          contradiction
        · exact failed
  obtain ⟨failed, _, alone⟩ := single
  rw [reported, List.cons.injEq] at alone
  exact ⟨failed, alone.2⟩

end OneCallback

/-! ## The two halves of a send -/

theorem sanityCheck_connected
    {sock : JavaSocket}
    (connected : sock.isConnected = true) :
    (sanityCheck sock : List (Event T)) = [] := by
  rw [sanityCheck, connected]
  rfl

theorem sanityCheck_unconnected
    {sock : JavaSocket}
    (unconnected : sock.isConnected = false) :
    (sanityCheck sock : List (Event T)) =
      [.onError (some ⟨"Socket is not connected."⟩)] := by
  rw [sanityCheck, unconnected]
  rfl

section Halves

variable (sock : JavaSocket)
variable (outcomes : Outcomes)
variable (bytes : Bytes)
variable (message : T)
variable (successHandler : Bool)

/-- How a transmission can end, and what it has sent then. -/
theorem transmit_cases :
    (transmit sock outcomes bytes : List (Event T) × _) =
        ([.write bytes, .flush], .ok ()) ∨
      ∃ events e,
        transmit sock outcomes bytes = (events, .error e) ∧
          (events = [] ∨ ∃ chunk, events = [Event.write (T := T) chunk]) := by
  unfold transmit
  split
  · rename_i e _
    exact Or.inr ⟨[], e, rfl, Or.inl rfl⟩
  · split
    · rename_i count e _
      exact Or.inr ⟨_, e, rfl, Or.inr ⟨bytes.take count, rfl⟩⟩
    · split
      · rename_i e _
        exact Or.inr ⟨_, e, rfl, Or.inr ⟨bytes, rfl⟩⟩
      · exact Or.inl rfl

/-- No callback is made while the lock is held. -/
theorem callbacks_transmit :
    callbacks (transmit sock outcomes bytes : List (Event T) × _).1 = [] := by
  rcases transmit_cases sock outcomes bytes with
    result | ⟨events, e, result, rfl | ⟨chunk, rfl⟩⟩
  all_goals
    rw [result]
    rfl

/-- A holder of the lock still holds it after a transmission. -/
theorem holdCount_transmit (count : Nat) :
    (transmit sock outcomes bytes : List (Event T) × _).1.foldlM
        Event.holdCount (count + 1) =
      some (count + 1) := by
  rcases transmit_cases sock outcomes bytes with
    result | ⟨events, e, result, rfl | ⟨chunk, rfl⟩⟩
  all_goals
    rw [result]
    rfl

/-- The transmission ends without an exception if the message is delivered. -/
theorem transmit_ok_iff :
    (transmit sock outcomes bytes : List (Event T) × _).2 = .ok () ↔
      Delivered bytes
        (transmit sock outcomes bytes : List (Event T) × _).1 := by
  rcases transmit_cases sock outcomes bytes with
    result | ⟨events, e, result, rfl | ⟨chunk, rfl⟩⟩
  all_goals
    rw [result]
    simp [Delivered, Event.sent]

/-- The task reports a delivered message to the success handler, if there is one. -/
theorem onPostExecute_ok :
    onPostExecute successHandler (.ofOutcome message (.ok ())) =
      if successHandler then [.onSuccess (some message)] else [] := by
  cases successHandler <;> rfl

/-- The task reports an exception to the error handler. -/
theorem onPostExecute_error (e : IOException) :
    onPostExecute successHandler (.ofOutcome message (.error e)) =
      [.onError (some e)] := by
  cases successHandler <;> rfl

end Halves

/-! ## The callbacks of a whole send -/

section Whole

variable (getBytes : T → Bytes)
variable (atCall atTask : JavaSocket)
variable (outcomes : Outcomes)
variable (successHandler : Bool)
variable (message : T)

theorem callbacks_append
    (first second : List (Event T)) :
    callbacks (first ++ second) = callbacks first ++ callbacks second :=
  List.filterMap_append

/-- The callbacks are those of the check and those of the task. -/
theorem callbacks_send :
    callbacks
        (send getBytes atCall atTask outcomes successHandler message) =
      sanityCheck atCall ++
        onPostExecute successHandler
          (.ofOutcome message
            (transmit atTask outcomes (getBytes message) :
              List (Event T) × _).2) := by
  have check :
      callbacks (sanityCheck (T := T) atCall) = sanityCheck atCall := by
    unfold sanityCheck
    split <;> rfl
  have background :
      callbacks (doInBackground getBytes atTask outcomes message).1 = [] := by
    unfold doInBackground
    rw [callbacks_append, callbacks_append, callbacks_transmit]
    rfl
  have post :
      ∀ task : SendTask T,
        callbacks (onPostExecute successHandler task) =
          onPostExecute successHandler task := by
    intro task
    unfold onPostExecute
    cases task.success <;> cases successHandler <;> rfl
  unfold send
  rw [callbacks_append, callbacks_append, check, background, post,
    List.append_nil]
  rfl

/-- What is sent is sent by the task. -/
theorem delivered_send :
    Delivered (getBytes message)
        (send getBytes atCall atTask outcomes successHandler message) ↔
      (transmit atTask outcomes (getBytes message) :
        List (Event T) × _).2 = .ok () := by
  rw [transmit_ok_iff]
  have check :
      (sanityCheck (T := T) atCall).flatMap Event.sent = [] ∧
        Event.flush ∉ sanityCheck (T := T) atCall := by
    unfold sanityCheck
    split <;> simp [Event.sent]
  have post :
      ∀ task : SendTask T,
        (onPostExecute successHandler task).flatMap Event.sent = [] ∧
          Event.flush ∉ onPostExecute successHandler task := by
    intro task
    unfold onPostExecute
    cases task.success <;> cases successHandler <;> simp [Event.sent]
  simp [Delivered, send, doInBackground, check, post, Event.sent]

/-- The lock is given back on every path, whatever the check has found. -/
theorem releasesLock_send :
    ReleasesLock
      (send getBytes atCall atTask outcomes successHandler message) := by
  intro count
  have check :
      (sanityCheck (T := T) atCall).foldlM Event.holdCount count =
        some count := by
    unfold sanityCheck
    split <;> cases count <;> rfl
  have post :
      ∀ task : SendTask T,
        (onPostExecute successHandler task).foldlM Event.holdCount count =
          some count := by
    intro task
    unfold onPostExecute
    cases task.success <;> cases successHandler <;> cases count <;> rfl
  have background :
      (doInBackground getBytes atTask outcomes message).1.foldlM
          Event.holdCount count =
        some count := by
    unfold doInBackground
    rw [List.foldlM_append, List.foldlM_append]
    change
      ((transmit atTask outcomes (getBytes message) :
          List (Event T) × _).1.foldlM Event.holdCount (count + 1) >>=
        fun held => [Event.unlock].foldlM Event.holdCount held) = _
    rw [holdCount_transmit]
    rfl
  unfold send
  rw [List.foldlM_append, List.foldlM_append, check]
  simp only [Option.bind_eq_bind, Option.bind_some, background, post]

/--
A send keeps its promise exactly if the socket is connected when it is called.
Otherwise the error handler is called at once, and the task reports as well.
-/
theorem oneCallback_iff :
    OneCallback getBytes successHandler message
        (send getBytes atCall atTask outcomes successHandler message) ↔
      atCall.isConnected = true := by
  have reported :=
    callbacks_send getBytes atCall atTask outcomes successHandler message
  have delivered :=
    delivered_send getBytes atCall atTask outcomes successHandler message
  constructor
  · intro promise
    by_contra unconnected
    rw [sanityCheck_unconnected (eq_false_of_ne_true unconnected)]
      at reported
    obtain ⟨failed, none⟩ := promise.of_error reported
    cases ended :
        (transmit atTask outcomes (getBytes message) :
          List (Event T) × _).2 with
    | ok done =>
        exact failed (delivered.mpr ended)
    | error e =>
        rw [ended, onPostExecute_error] at none
        contradiction
  · intro connected
    rw [sanityCheck_connected connected, List.nil_append] at reported
    have released :=
      releasesLock_send getBytes atCall atTask outcomes successHandler
        message
    cases ended :
        (transmit atTask outcomes (getBytes message) :
          List (Event T) × _).2 with
    | ok done =>
        rw [ended, onPostExecute_ok] at reported
        have isDelivered := delivered.mpr ended
        refine ⟨?_, fun _ failed => absurd isDelivered failed, ?_, released⟩
        · intro handler _
          rw [reported, if_pos handler]
        · intro noHandler
          left
          rw [reported, noHandler]
          rfl
    | error e =>
        rw [ended, onPostExecute_error] at reported
        have failed :
            ¬ Delivered (getBytes message)
              (send getBytes atCall atTask outcomes successHandler
                message) := by
          rw [delivered, ended]
          simp
        exact ⟨fun _ isDelivered => absurd isDelivered failed,
          fun _ _ => ⟨e, reported⟩, fun _ => Or.inr ⟨failed, e, reported⟩,
          released⟩

end Whole

end Send

/--
On a socket that was never connected the same failure is reported twice, and
when the connection comes up between the call and the task, the success handler
is called after the error handler.
-/
theorem unconnected_send_reports_twice :
    let outcomes : Outcomes := ⟨.ok (), .ok (), .ok ()⟩
    let never : JavaSocket := ⟨false, false⟩
    let connected : JavaSocket := ⟨true, false⟩
    callbacks (send id never never outcomes true (ascii "hi")) =
        [.onError (some ⟨"Socket is not connected."⟩),
          .onError (some ⟨"Socket is not connected"⟩)] ∧
      callbacks (send id never connected outcomes true (ascii "hi")) =
        [.onError (some ⟨"Socket is not connected."⟩),
          .onSuccess (some (ascii "hi"))] ∧
      ¬ OneCallback id true (ascii "hi")
        (send id never never outcomes true (ascii "hi")) := by
  have twice :
      callbacks
          (send id ⟨false, false⟩ ⟨false, false⟩
            ⟨.ok (), .ok (), .ok ()⟩ true (ascii "hi")) =
        [.onError (some ⟨"Socket is not connected."⟩),
          .onError (some ⟨"Socket is not connected"⟩)] := by
    rfl
  refine ⟨twice, rfl, ?_⟩
  intro promise
  have alone := (promise.of_error twice).2
  contradiction

end SocketManager

end ChatRelay.Client

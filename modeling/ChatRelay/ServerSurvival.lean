import Mathlib.Data.List.Basic
import ChatRelay.ServerSteps

namespace ChatRelay

/-!
# When the listening thread survives

Nobody catches anything, so the thread that runs `listen` lives exactly as long
as no function below it throws, no null response is used, and the other thread
does not end the process.  The steps that decide this are the read of a client
socket, the write of an error response, `accept`, and the writes of
`sendMessages`.
-/

namespace Server

/-- A write of `sendMessages` finds its connection open. -/
def SenderReady (state : Server) : SenderAction → Prop
  | .write _ _ socket _ _ _ =>
      (state.heap socket).isOpen = true
  | _ =>
      True

/--
A step that the threads are ready for.  A socket that is read is open, and the
read returns 0 or a request; a socket that either thread writes to is open; and
`accept` returns a connection.
-/
def HandledStep
    (platform : Platform)
    (state : Server) :
    ServerLabel → Prop
  | .listen (.read socket outcome _) =>
      (state.heap socket).isOpen = true ∧
        (outcome = .closed ∨
          ∃ bytes,
            outcome = .data bytes ∧ WellFormedRequest platform bytes)
  | .listen (.write socket _ _) =>
      (state.heap socket).isOpen = true
  | .listen (.acceptFailed _) =>
      False
  | .listen _ =>
      True
  | .send action =>
      state.SenderReady action

/-- No exception has left a thread: one that does ends them both. -/
def ListenAlive (state : Server) : Prop :=
  state.fault = none

variable {platform : Platform}
variable {state next : Server}

/-- A response that has a text can be written. -/
theorem not_unwritable
    (writes : platform.Writes)
    (response : Response)
    (fault : Fault) :
    ¬ Unwritable platform response fault := by
  rintro ⟨pretty, failed⟩
  obtain ⟨text, written⟩ := writes response pretty
  simp [MessageJson.«to», written] at failed

/-- A step keeps the listening thread alive exactly if it is one of those. -/
theorem Step.listenAlive_iff
    {label : ServerLabel}
    (writes : platform.Writes)
    (rejectsEmpty : platform.read_json [] = none)
    (alive : state.fault = none)
    (step : Step platform state label next) :
    next.ListenAlive ↔ HandledStep platform state label := by
  cases step with
  | listen step =>
      cases step with
      | readClosed _ closed =>
          simp [ListenAlive, HandledStep, throw, closed]
      | readEnded _ isOpen =>
          simp [ListenAlive, HandledStep, setSocket, alive, isOpen]
      | readLogin _ isOpen more decoded =>
          have request := data_of_wellFormedRequest rejectsEmpty more
            ((wellFormedRequest_iff platform _).mp
              (Or.inl ⟨_, decoded⟩))
          simp only [ListenAlive, HandledStep, setSocket, alive,
            isOpen, request, or_true, and_true]
      | readMessage _ isOpen more decoded =>
          have request := data_of_wellFormedRequest rejectsEmpty more
            ((wellFormedRequest_iff platform _).mp
              (Or.inr ⟨_, decoded⟩))
          simp only [ListenAlive, HandledStep, setSocket, alive,
            isOpen, request, or_true, and_true]
      | readMessageThrows _ _ _ _ unwritable =>
          exact (not_unwritable writes _ _ unwritable).elim
      | @readThrows socket outcome now _ _ _ more notLogin notMessage =>
          have unhandled :
              ¬ HandledStep platform state
                (.listen (.read socket outcome now)) := by
            rintro ⟨_, rfl | ⟨bytes, rfl, request⟩⟩
            · contradiction
            · rcases (wellFormedRequest_iff platform bytes).mpr
                  request with
                ⟨login, decoded⟩ | ⟨msg, decoded⟩
              · exact notLogin login decoded
              · exact notMessage msg decoded
          simp only [unhandled, iff_false]
          simp [ListenAlive, throw]
      | visitLoginThrows _ _ unwritable =>
          exact (not_unwritable writes _ _ unwritable).elim
      | write _ isOpen =>
          simp [ListenAlive, HandledStep, setSocket, alive, isOpen]
      | writeThrows _ closed =>
          simp [ListenAlive, HandledStep, throw, closed]
      | acceptFailed _ =>
          simp [ListenAlive, HandledStep, throw]
      | @remove socket _ =>
          obtain ⟨_, _, _, _, removed⟩ :=
            @removeEntry_frame state socket
          rw [removed]
          simp [ListenAlive, HandledStep, alive]
      | closeAll _ =>
          obtain ⟨_, _, closed⟩ :=
            @closeSockets_frame state (state.sockets.map Prod.fst)
          rw [closed]
          simp [ListenAlive, HandledStep, alive]
      | _ =>
          simp [ListenAlive, HandledStep, alive]
  | send step =>
      cases step with
      | serialiseThrows _ unwritable =>
          exact (not_unwritable writes _ _ unwritable).elim
      | write _ isOpen =>
          simp [ListenAlive, HandledStep, SenderReady, setSocket, alive,
            isOpen]
      | writeThrows _ closed =>
          simp [ListenAlive, HandledStep, SenderReady, throw, closed]
      | _ =>
          simp [ListenAlive, HandledStep, SenderReady, alive]

/--
In every run, the thread that runs `listen` is alive all along exactly if every
step of the run is one that the threads are ready for.
-/
theorem listen_survives_iff
    (platform : Platform)
    (writes : platform.Writes)
    (rejectsEmpty : platform.read_json [] = none)
    (descriptors : List Nat)
    (labels : List ServerLabel)
    (final : Server)
    (reached :
      LabelledRun.run? (step? platform)
        (initial descriptors) labels = some final) :
    LabelledRun.Always (step? platform) (initial descriptors)
        (fun _ state => state.ListenAlive) labels ↔
      LabelledRun.EveryStep (step? platform) (initial descriptors)
        (fun _ state label => HandledStep platform state label)
        labels := by
  refine LabelledRun.always_iff_everyStep ?_ ?_ reached
  · rfl
  · intro past state label next _ _ taken
    obtain ⟨alive, step⟩ := step?_sound taken
    exact step.listenAlive_iff writes rejectsEmpty alive

/-- A client that connects and logs in meets threads that are ready. -/
theorem listen_survives_logIn :
    let login : Request.Login := ⟨0, ascii "ann"⟩
    let bytes :=
      (Request.login login).text .reference JsonText.escape
    let labels :=
      ServerLabel.connect [] 0 4 ++
        ServerLabel.logIn [4] 0 bytes login 0
    ∃ final,
      LabelledRun.run? (step? .reference)
          (initial [0, 1, 2, 3]) labels = some final ∧
        (LabelledRun.Always (step? .reference) (initial [0, 1, 2, 3])
            (fun _ state => state.ListenAlive) labels ↔
          LabelledRun.EveryStep (step? .reference)
            (initial [0, 1, 2, 3])
            (fun _ state label => HandledStep .reference state label)
            labels) := by
  intro login bytes labels
  have finished :
      (LabelledRun.run? (step? .reference)
        (initial [0, 1, 2, 3]) labels).isSome = true := by
    decide
  obtain ⟨final, reached⟩ := Option.isSome_iff_exists.mp finished
  exact ⟨final, reached,
    listen_survives_iff .reference Platform.reference_writes (by decide)
      [0, 1, 2, 3] labels final reached⟩

/--
A client connects, and then sends a text that is not JSON, or a text that is no
request, or resets the connection: an exception ends `listen` each time, a null
pointer in the second case.
-/
theorem listen_throws :
    let escaped (outcome : RecvOutcome) :=
      (LabelledRun.run? (step? .reference) (initial [0, 1, 2, 3])
        (ServerLabel.connect [] 0 4 ++
          (ServerLabel.wait [4] (.client 0) ++
            [.listen (.read 0 outcome 0)]))).map Server.fault
    escaped (.data (ascii "hello")) =
        some (some (.listen, .jsonParserError)) ∧
      escaped (.data (ascii "\x7b\x7d")) =
        some (some (.listen, .nullPointer)) ∧
      escaped .failed =
        some (some (.listen, .jsonParserError)) := by
  decide

end Server

end ChatRelay

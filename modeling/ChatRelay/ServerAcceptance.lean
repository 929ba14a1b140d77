import Mathlib.Data.List.Basic
import ChatRelay.ServerBroadcast

namespace ChatRelay

/-!
# Accepted logins

A login response is on its way to the clients only if the server has accepted
the login that it answers, and the response that is being written is the one
that was pushed for the connection whose turn it is.
-/

namespace Server

section History

variable (labels : List ServerLabel)

/-- The responses pushed on the queue, each with the connection it answers. -/
def pushes : List (SocketRef × Response) :=
  labels.filterMap fun
    | .listen (.pushBack socket response) =>
        some (socket, response)
    | _ =>
        none

/-- The push whose response comes next in a write loop, or is in it. -/
def writtenPush? : Option (SocketRef × Response) :=
  (pushes labels)[(endedLoops labels).length]?

/-- The server has accepted a login and answered it with the response. -/
def AcceptedLogin
    (socket : SocketRef)
    (response : Response.Login) : Prop :=
  ∃ login now,
    ServerLabel.listen
        (.visitLogin socket login now (.login response)) ∈ labels ∧
      login.sender = response.joiningUsername

end History

variable {platform : Platform}
variable {state next : Server}
variable {labels : List ServerLabel}

theorem AcceptedLogin.mono
    {socket : SocketRef}
    {response : Response.Login}
    {before after : List ServerLabel}
    (accepted : AcceptedLogin before socket response)
    (more : before ⊆ after) :
    AcceptedLogin after socket response := by
  obtain ⟨login, now, visited, named⟩ := accepted
  exact ⟨login, now, more visited, named⟩

theorem pushes_concat
    (label : ServerLabel) :
    pushes (labels ++ [label]) = pushes labels ++ pushes [label] :=
  List.filterMap_append

/-- Without the connections the pushes are the responses pushed. -/
theorem pushes_responses
    (labels : List ServerLabel) :
    (pushes labels).map Prod.snd = pushedResponses labels := by
  unfold pushes pushedResponses
  rw [List.map_filterMap]
  congr 1
  funext label
  rcases label with action | action
  · cases action <;> rfl
  · rfl

/-- A thread is on its way to push a login response or has just accepted it. -/
theorem Step.owesLogin_before
    {label : ServerLabel}
    {socket : SocketRef}
    {response : Response.Login}
    (step : Step platform state label next)
    (owes : next.OwesLogin socket (.login response)) :
    state.OwesLogin socket (.login response) ∨
      AcceptedLogin [label] socket response := by
  unfold OwesLogin at *
  cases step with
  | listen step =>
      cases step with
      | @acceptName other login now pc fresh =>
          refine Or.inr ?_
          simp only [ListenPc.lockAssociate.injEq, reduceCtorEq,
            or_false] at owes
          obtain ⟨username, rfl, _, same⟩ := owes
          injection same with same
          subst same
          exact ⟨login, now, List.mem_singleton.mpr rfl, rfl⟩
      | _ =>
          refine Or.inl ?_
          rcases owes with ⟨username, at_ | at_⟩ | at_ | at_ <;>
            simp_all [throw, setSocket, visitMessage]
  | send step =>
      refine Or.inl ?_
      cases step <;> exact owes

/-- Every login response on its way or pushed has been accepted. -/
structure AcceptedFirst
    (labels : List ServerLabel)
    (state : Server) : Prop where
  owed :
    ∀ socket response,
      state.OwesLogin socket (.login response) →
      AcceptedLogin labels socket response
  pushed :
    ∀ socket response,
      (socket, .login response) ∈ pushes labels →
      AcceptedLogin labels socket response

theorem AcceptedFirst.step
    {label : ServerLabel}
    (accepted : AcceptedFirst labels state)
    (step : Step platform state label next) :
    AcceptedFirst (labels ++ [label]) next := by
  have more : labels ⊆ labels ++ [label] :=
    List.subset_append_left labels [label]
  refine ⟨?_, ?_⟩
  · intro socket response owes
    rcases step.owesLogin_before owes with before | now
    · exact (accepted.owed socket response before).mono more
    · exact now.mono (List.subset_append_right labels [label])
  · intro socket response inPushes
    rw [pushes_concat] at inPushes
    rcases List.mem_append.mp inPushes with before | now
    · exact (accepted.pushed socket response before).mono more
    · -- What is pushed now was owed before.
      obtain ⟨pushing, isLabel, isPush⟩ := List.mem_filterMap.mp now
      rw [List.mem_singleton.mp isLabel] at isPush
      have owed : state.OwesLogin socket (.login response) := by
        cases step with
        | listen step =>
            cases step with
            | pushBack pc =>
                simp only [Option.some.injEq, Prod.mk.injEq] at isPush
                obtain ⟨rfl, rfl⟩ := isPush
                exact Or.inr (Or.inr pc)
            | _ =>
                contradiction
        | send step =>
            contradiction
      exact (accepted.owed socket response owed).mono more

theorem acceptedFirst
    {descriptors : List Nat}
    (reached :
      LabelledRun.run? (step? platform)
        (initial descriptors) labels = some state) :
    AcceptedFirst labels state := by
  refine LabelledRun.invariant ?_ ?_ reached
  · refine ⟨?_, ?_⟩
    · simp [OwesLogin, initial]
    · simp [pushes]
  · intro past middle label after _ accepted taken
    exact accepted.step (step?_sound taken).2

/--
A response that is written was pushed for the connection whose turn it is, and
a login response that is written has been accepted for it.
-/
theorem written_push
    {descriptors : List Nat}
    {message : Response}
    {text : Bytes}
    {targets : List SocketRef}
    {remaining : List Response}
    (reached :
      LabelledRun.run? (step? platform)
        (initial descriptors) labels = some state)
    (writing :
      state.senderPc = .writing message text targets remaining) :
    ∃ origin,
      writtenPush? labels = some (origin, message) ∧
        ∀ response,
          message = .login response →
          AcceptedLogin labels origin response := by
  have fifo := (keepsBroadcasts reached).queue.fifo
  simp only [outstanding, writing] at fifo
  have next :
      ((pushes labels).map Prod.snd)[(endedLoops labels).length]? =
        some message := by
    rw [pushes_responses, fifo]
    simp
  rw [List.getElem?_map] at next
  obtain ⟨⟨origin, pushed⟩, isNext, rfl⟩ :=
    Option.map_eq_some_iff.mp next
  refine ⟨origin, isNext, ?_⟩
  rintro response rfl
  exact (acceptedFirst reached).pushed origin response
    (List.mem_of_getElem? isNext)

end Server

end ChatRelay

import Mathlib.Data.List.Basic
import ChatRelay.ServerLogin

namespace ChatRelay

/-!
# The empty user name

`visitLogin` compares the name of a login with the names of the connections and
with nothing else.  A connection that has not logged in is listed under the
empty name, so the empty name is refused as long as there is such a connection,
and accepted as soon as every connection has a name.
-/

open LabelledRun (run? Always EveryStep always_iff_everyStep)

namespace Server

/--
Every login with the empty name has been answered with an error, and no response
that announces the empty name has been queued or written.
-/
structure RefusesEmptyName (labels : List ServerLabel) : Prop where
  refused :
    ∀ socket login now response,
      ServerLabel.listen (.visitLogin socket login now response) ∈
        labels →
      login.sender = [] →
      response = usernameInUse now
  unqueued :
    ∀ socket response,
      (socket, .login response) ∈ pushes labels →
      response.joiningUsername ≠ []
  unwritten :
    ∀ response text socket targets remaining outcome,
      ServerLabel.send
          (.write (.login response) text socket targets remaining
            outcome) ∈ labels →
      response.joiningUsername ≠ []

/-- A login with the empty name comes when a listed connection has no name. -/
def MeetsUnnamed (state : Server) : ServerLabel → Prop
  | .listen (.visitLogin _ login _ _) =>
      login.sender = [] → state.NameTaken []
  | _ =>
      True

variable {platform : Platform}
variable {state next : Server}
variable {labels : List ServerLabel}

/-- No name that has been refused throughout has been accepted. -/
theorem AcceptedLogin.named
    {socket : SocketRef}
    {response : Response.Login}
    (refused :
      ∀ socket login now response,
        ServerLabel.listen (.visitLogin socket login now response) ∈
          labels →
        login.sender = [] →
        response = usernameInUse now)
    (accepted : AcceptedLogin labels socket response) :
    response.joiningUsername ≠ [] := by
  obtain ⟨login, now, visited, named⟩ := accepted
  intro empty
  have error :=
    refused socket login now _ visited (named.trans empty)
  simp [usernameInUse] at error

/-- A name that a connection holds is refused, and no other one. -/
theorem visitLogin_eq_refusal_iff
    (now : TimePoint)
    (login : Request.Login) :
    state.visitLogin now login = usernameInUse now ↔
      state.NameTaken login.sender := by
  unfold Server.visitLogin NameTaken
  by_cases taken :
      (state.sockets.any fun socket => login.sender == socket.2) = true
  · rw [if_pos taken]
    obtain ⟨entry, member, same⟩ := List.any_eq_true.mp taken
    exact iff_of_true rfl ⟨entry, member, (beq_iff_eq.mp same).symm⟩
  · rw [if_neg taken]
    refine iff_of_false (by simp [usernameInUse]) ?_
    rintro ⟨entry, member, same⟩
    exact taken
      (List.any_eq_true.mpr ⟨entry, member, beq_iff_eq.mpr same.symm⟩)

/-- `visitLogin` answers as the names in the list demand. -/
theorem Step.visitLogin_response
    {socket : SocketRef}
    {login : Request.Login}
    {now : TimePoint}
    {response : Response}
    (taken :
      state.step? platform
          (.listen (.visitLogin socket login now response)) =
        some next) :
    response = state.visitLogin now login := by
  unfold step? at taken
  split at taken
  · exact (LabelledRun.guarded_eq_some.mp taken).1.2
  · contradiction

/-- A step refuses the empty name exactly if it meets an unnamed connection. -/
theorem refusesEmptyName_step
    {descriptors : List Nat}
    {label : ServerLabel}
    (reached :
      run? (step? platform) (initial descriptors) labels = some state)
    (refuses : RefusesEmptyName labels)
    (taken : state.step? platform label = some next) :
    RefusesEmptyName (labels ++ [label]) ↔
      state.MeetsUnnamed label := by
  constructor
  · intro refuses
    unfold MeetsUnnamed
    split
    · rename_i socket login now response
      intro empty
      have visited :=
        refuses.refused socket login now response (by simp) empty
      rw [Step.visitLogin_response taken,
        visitLogin_eq_refusal_iff, empty] at visited
      exact visited
    · trivial
  · intro meets
    have refused :
        ∀ socket login now response,
          ServerLabel.listen (.visitLogin socket login now response) ∈
            labels ++ [label] →
          login.sender = [] →
          response = usernameInUse now := by
      intro socket login now response member empty
      rcases List.mem_append.mp member with earlier | last
      · exact refuses.refused socket login now response earlier empty
      · obtain rfl := (List.mem_singleton.mp last).symm
        rw [Step.visitLogin_response taken, visitLogin_eq_refusal_iff,
          empty]
        exact meets empty
    have extended :
        run? (step? platform) (initial descriptors)
          (labels ++ [label]) = some next := by
      rw [LabelledRun.run?_concat, reached]
      exact taken
    refine ⟨refused, ?_, ?_⟩
    · intro socket response member
      exact
        ((acceptedFirst extended).pushed socket response member).named
          refused
    · intro response text socket targets remaining outcome member
      rcases List.mem_append.mp member with earlier | last
      · exact refuses.unwritten response text socket targets remaining
          outcome earlier
      · -- What is being written has been pushed and accepted before.
        obtain rfl := (List.mem_singleton.mp last).symm
        obtain ⟨_, step⟩ := step?_sound taken
        have writing :
            state.senderPc =
              .writing (.login response) text (socket :: targets)
                remaining := by
          cases step with
          | send step =>
              cases step with
              | write pc _ => exact pc
              | writeThrows pc _ => exact pc
        obtain ⟨origin, _, accepted⟩ := written_push reached writing
        exact (accepted response rfl).named refuses.refused

/--
In every run, the empty name is refused and announced to nobody exactly if
every login with it comes when a listed connection has no name.
-/
theorem refusesEmptyName_iff
    (platform : Platform)
    (descriptors : List Nat)
    (labels : List ServerLabel)
    (final : Server)
    (reached :
      run? (step? platform) (initial descriptors) labels = some final) :
    Always (step? platform) (initial descriptors)
        (fun past _ => RefusesEmptyName past) labels ↔
      EveryStep (step? platform) (initial descriptors)
        (fun _ state label => state.MeetsUnnamed label) labels := by
  refine always_iff_everyStep ?_ ?_ reached
  · exact ⟨by simp, by simp [pushes], by simp⟩
  · intro past state label next before refuses taken
    exact refusesEmptyName_step before refuses taken

/-- A client that has not logged in asks for the empty name. -/
theorem refusesEmptyName_iff_connect :
    let login : Request.Login := ⟨0, []⟩
    let bytes :=
      (Request.login login).text .reference JsonText.escape
    let labels :=
      ServerLabel.connect [] 0 4 ++
        (ServerLabel.wait [4] (.client 0) ++
          [.listen (.read 0 (.data bytes) 0),
            .listen (.lockNames 0 login),
            .listen (.visitLogin 0 login 0 (usernameInUse 0))])
    ∃ final,
      run? (step? .reference) (initial [0, 1, 2, 3]) labels =
          some final ∧
        (Always (step? .reference) (initial [0, 1, 2, 3])
            (fun past _ => RefusesEmptyName past) labels ↔
          EveryStep (step? .reference) (initial [0, 1, 2, 3])
            (fun _ state label => state.MeetsUnnamed label) labels) := by
  intro login bytes labels
  have finished :
      (run? (step? .reference) (initial [0, 1, 2, 3]) labels).isSome =
        true := by
    decide +kernel
  obtain ⟨final, reached⟩ := Option.isSome_iff_exists.mp finished
  exact ⟨final, reached,
    refusesEmptyName_iff .reference [0, 1, 2, 3] labels final reached⟩

/--
The only client has logged in as `ann` and then logs in with the empty name:
the login is accepted and queued for everybody.
-/
theorem empty_name_accepted :
    let first : Request.Login := ⟨0, ascii "ann"⟩
    let second : Request.Login := ⟨0, []⟩
    let labels :=
      ServerLabel.connect [] 0 4 ++
        (ServerLabel.logIn [4] 0
            ((Request.login first).text .reference JsonText.escape)
            first 0 ++
          ServerLabel.logIn [4] 0
            ((Request.login second).text .reference JsonText.escape)
            second 0)
    (run? (step? .reference) (initial [0, 1, 2, 3]) labels).map
          (fun final => (final.sockets, final.messageQueue)) =
        some
          ([(0, [])],
            [.login ⟨0, ascii "@server", ascii "ann"⟩,
              .login ⟨0, ascii "@server", []⟩]) ∧
      ¬ Always (step? .reference) (initial [0, 1, 2, 3])
          (fun past _ => RefusesEmptyName past) labels := by
  intro first second labels
  have values :
      (run? (step? .reference) (initial [0, 1, 2, 3]) labels).map
          (fun final => (final.sockets, final.messageQueue)) =
        some
          ([(0, [])],
            [.login ⟨0, ascii "@server", ascii "ann"⟩,
              .login ⟨0, ascii "@server", []⟩]) := by
    decide +kernel
  refine ⟨values, ?_⟩
  intro always
  obtain ⟨final, reached, _⟩ := Option.map_eq_some_iff.mp values
  have refuses : RefusesEmptyName labels := always.final reached
  refine refuses.unqueued 0 ⟨0, ascii "@server", []⟩ ?_ rfl
  decide +kernel

end Server

end ChatRelay

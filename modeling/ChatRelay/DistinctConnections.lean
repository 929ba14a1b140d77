import Mathlib.Data.List.Basic
import Mathlib.Data.List.Nodup
import ChatRelay.ServerSteps

namespace ChatRelay.Server

/-!
# The connections of a write loop

Every connection is listed once, also after `stop`, and a new one is a new
object.  A write loop goes through the connections that were listed when it
began, so it writes to no connection twice and to none that was accepted later.
-/

/-- The connections of the server, and those of a write loop, are distinct. -/
structure Distinct (state : Server) : Prop where
  listed : (state.sockets.map Prod.fst).Nodup
  listed_allocated :
    ∀ ref ∈ state.sockets.map Prod.fst, ref < state.nextSocket
  joining :
    ∀ ref,
      state.listenPc = .lockAdd ref ∨ state.listenPc = .add ref →
      ref < state.nextSocket ∧ ref ∉ state.sockets.map Prod.fst
  targets : state.targets.Nodup
  targets_allocated :
    ∀ ref ∈ state.targets, ref < state.nextSocket

variable {platform : Platform}
variable {state next : Server}

theorem Distinct.initial
    (descriptors : List Nat) :
    Distinct (Server.initial descriptors) := by
  constructor <;> simp [Server.initial, Server.targets]

/-- Removing an entry keeps the others in their order. -/
theorem removeEntry_sublist
    (socket : SocketRef) :
    (state.removeEntry socket).sockets.Sublist state.sockets := by
  unfold removeEntry
  split
  · have erased := @List.eraseP_sublist _ (state.sameDescriptor socket)
      state.sockets
    unfold dropPointer
    split
    · exact erased
    · obtain ⟨_, _, _, _, closed⟩ :=
        closeSocket_cases
          { state with
            _sockets := state._sockets.erase socket
            sockets :=
              state.sockets.eraseP (state.sameDescriptor socket) }
          socket
      rw [closed]
      exact erased
  · exact List.Sublist.refl _

/-- Connections stay distinct when some leave and none is added. -/
theorem Distinct.of_sublist
    (distinct : Distinct state)
    (listed :
      (next.sockets.map Prod.fst).Sublist (state.sockets.map Prod.fst))
    (nextSocket : next.nextSocket = state.nextSocket)
    (joining :
      ∀ ref,
        next.listenPc = .lockAdd ref ∨ next.listenPc = .add ref →
        state.listenPc = .lockAdd ref ∨ state.listenPc = .add ref)
    (targets :
      next.targets.Sublist state.targets ∨
        next.targets.Sublist (state.sockets.map Prod.fst)) :
    Distinct next := by
  refine ⟨distinct.listed.sublist listed, ?_, ?_, ?_, ?_⟩
  · rw [nextSocket]
    exact fun ref member =>
      distinct.listed_allocated ref (listed.subset member)
  · intro ref joins
    obtain ⟨below, fresh⟩ := distinct.joining ref (joining ref joins)
    rw [nextSocket]
    exact ⟨below, fun member => fresh (listed.subset member)⟩
  · rcases targets with fewer | begun
    · exact distinct.targets.sublist fewer
    · exact distinct.listed.sublist begun
  · rw [nextSocket]
    intro ref member
    rcases targets with fewer | begun
    · exact distinct.targets_allocated ref (fewer.subset member)
    · exact distinct.listed_allocated ref (begun.subset member)

/-- A step of `listen` keeps the connections distinct. -/
theorem Distinct.listen
    {action : ListenAction}
    (distinct : Distinct state)
    (step : ListenStep platform state action next) :
    Distinct next := by
  have same : state.targets.Sublist state.targets :=
    List.Sublist.refl _
  cases step with
  | @remove socket pc =>
      obtain ⟨_, _, sockets, _, removed⟩ := @removeEntry_frame state socket
      have fewer := @removeEntry_sublist state socket
      rw [removed] at fewer ⊢
      exact distinct.of_sublist (fewer.map Prod.fst) rfl (by simp)
        (Or.inl same)
  | @associate socket username response pc =>
      refine distinct.of_sublist ?_ rfl (by simp) (Or.inl same)
      rw [map_associate socket username]
  | accept pc fresh =>
      obtain ⟨listed, listed_allocated, _, targets, targets_allocated⟩ :=
        distinct
      refine ⟨listed, ?_, ?_, targets, ?_⟩
      · exact fun ref member =>
          Nat.lt_succ_of_lt (listed_allocated ref member)
      · rintro ref (isNew | impossible)
        · cases isNew
          refine ⟨Nat.lt_succ_self _, ?_⟩
          intro member
          exact absurd (listed_allocated _ member) (Nat.lt_irrefl _)
        · contradiction
      · exact fun ref member =>
          Nat.lt_succ_of_lt (targets_allocated ref member)
  | lockAdd pc =>
      refine distinct.of_sublist (List.Sublist.refl _) rfl ?_
        (Or.inl same)
      rintro ref (impossible | isNew)
      · contradiction
      · cases isNew
        exact Or.inl pc
  | @add newClient pc =>
      obtain ⟨below, fresh⟩ := distinct.joining newClient (Or.inr pc)
      obtain ⟨listed, listed_allocated, _, targets, targets_allocated⟩ :=
        distinct
      have members :
          (state.sockets ++ [(newClient, [])]).map Prod.fst =
            state.sockets.map Prod.fst ++ [newClient] :=
        List.map_append
      refine ⟨?_, ?_, by simp, targets, targets_allocated⟩
      · rw [members]
        rw [← List.concat_eq_append]
        exact (List.nodup_concat _ newClient).mpr ⟨fresh, listed⟩
      · rw [members]
        intro ref member
        rcases List.mem_append.mp member with old | isNew
        · exact listed_allocated ref old
        · rw [List.mem_singleton.mp isNew]
          exact below
  | closeAll pc =>
      obtain ⟨_, _, closed⟩ :=
        @closeSockets_frame state (state.sockets.map Prod.fst)
      rw [closed]
      exact distinct.of_sublist (List.Sublist.refl _) rfl (by simp)
        (Or.inl same)
  | readClosed | readMessageThrows | readThrows | visitLoginThrows |
    writeThrows | acceptFailed =>
      exact distinct.of_sublist (List.Sublist.refl _) rfl
        (fun _ => id) (Or.inl same)
  | _ =>
      exact distinct.of_sublist (List.Sublist.refl _) rfl (by simp)
        (Or.inl same)

/-- A step of `sendMessages` keeps the connections distinct. -/
theorem Distinct.send
    {action : SenderAction}
    (distinct : Distinct state)
    (step : SenderStep platform state action next) :
    Distinct next := by
  cases step with
  | lockSockets pc free =>
      exact distinct.of_sublist (List.Sublist.refl _) rfl
        (fun _ => id) (Or.inr (List.Sublist.refl _))
  | @write message text socket targets remaining outcome pc isOpen =>
      refine distinct.of_sublist (List.Sublist.refl _) rfl
        (fun _ => id) (Or.inl ?_)
      have before : state.targets = socket :: targets := by
        simp only [Server.targets, pc]
      rw [before]
      exact List.sublist_cons_self socket targets
  | writeThrows | serialiseThrows =>
      exact distinct.of_sublist (List.Sublist.refl _) rfl
        (fun _ => id) (Or.inl (List.Sublist.refl _))
  | _ =>
      exact distinct.of_sublist (List.Sublist.refl _) rfl
        (fun _ => id) (Or.inr (List.nil_sublist _))

/-- Every step keeps the connections distinct. -/
theorem Distinct.step
    {label : ServerLabel}
    (distinct : Distinct state)
    (taken : state.step? platform label = some next) :
    Distinct next := by
  obtain ⟨_, step⟩ := step?_sound taken
  cases step with
  | listen step =>
      exact distinct.listen step
  | send step =>
      exact distinct.send step

/-- A write to an open connection moves the write loop on. -/
theorem Step.write_targets
    {message : Response}
    {text : Bytes}
    {socket : SocketRef}
    {targets : List SocketRef}
    {remaining : List Response}
    {outcome : WriteOutcome}
    (isOpen : (state.heap socket).isOpen = true)
    (step :
      Step platform state
        (.send (.write message text socket targets remaining outcome))
        next) :
    state.targets = socket :: targets ∧ next.targets = targets := by
  cases step with
  | send step =>
      cases step with
      | write pc _ =>
          exact ⟨by simp only [Server.targets, pc], rfl⟩
      | writeThrows _ closed =>
          rw [isOpen] at closed
          contradiction

/-- A write loop goes through its connections, and only its start adds some. -/
theorem Step.targets
    {label : ServerLabel}
    (step : Step platform state label next)
    (noStart :
      ∀ message text remaining,
        label ≠ .send (.lockSockets message text remaining)) :
    next.targets ⊆ state.targets := by
  cases step with
  | listen step =>
      have same : next.targets = state.targets := by
        unfold Server.targets
        rw [step.senderPc]
      rw [same]
      exact List.Subset.refl _
  | send step =>
      cases step with
      | @lockSockets message text remaining pc free =>
          exact (noStart message text remaining rfl).elim
      | @write message text socket targets remaining outcome pc isOpen =>
          have before : state.targets = socket :: targets := by
            simp only [Server.targets, pc]
          rw [before]
          exact List.subset_cons_self socket targets
      | writeThrows | serialiseThrows =>
          exact List.Subset.refl _
      | _ =>
          exact List.nil_subset _

end ChatRelay.Server

import Mathlib.Data.List.Infix
import Mathlib.Data.List.Nodup
import Mathlib.Data.List.TakeWhile

namespace ChatRelay

/-!
# A relay that broadcasts in order

A relay holds messages until their turn comes, and gives each message to the
members it has at that moment, one after the other.  Members join and leave
between two turns only.

Everything is said about the history of the relay: what each member was given
is a contiguous segment of what was pushed, from the first turn after it joined
to the last turn before it left.
-/

/-- What can happen to a relay. -/
inductive RelayEvent (Message : Type) where
  | quiet : RelayEvent Message
  | push (message : Message) : RelayEvent Message
  | turn (message : Message) : RelayEvent Message
  | deliver (member : Nat) (message : Message) : RelayEvent Message
  | join (member : Nat) : RelayEvent Message
  | leave (member : Nat) : RelayEvent Message

namespace RelayEvent

variable {Message : Type}

/-- The message that an event pushes. -/
def pushed? : RelayEvent Message → Option Message
  | .push message =>
      some message
  | _ =>
      none

/-- The message whose turn an event begins. -/
def turn? : RelayEvent Message → Option Message
  | .turn message =>
      some message
  | _ =>
      none

/-- The message that an event gives to a member. -/
def delivered?
    (member : Nat) :
    RelayEvent Message → Option Message
  | .deliver target message =>
      if target = member then
        some message
      else
        none
  | _ =>
      none

/-- The event is not the one by which a member joins. -/
def notJoin
    (member : Nat) :
    RelayEvent Message → Bool
  | .join joiner =>
      joiner != member
  | _ =>
      true

/-- The event is not the one by which a member leaves. -/
def notLeave
    (member : Nat) :
    RelayEvent Message → Bool
  | .leave leaver =>
      leaver != member
  | _ =>
      true

end RelayEvent

/--
The state of a relay: the messages whose turn has not come, the message whose
turn it is with the members it is still to be given to, and the members.
-/
structure BroadcastRelay (Message : Type) where
  unsent : List Message
  current : Option (Message × List Nat)
  members : List Nat

namespace BroadcastRelay

open RelayEvent

variable {Message : Type}

section History

variable (events : List (RelayEvent Message))

/-- Everything that was pushed, in order. -/
def pushed : List Message :=
  events.filterMap pushed?

/-- Every message whose turn has come, in order. -/
def turns : List Message :=
  events.filterMap turn?

/-- Everything that a member was given, in order. -/
def received (member : Nat) : List Message :=
  events.filterMap (delivered? member)

/-- How many turns had come when a member joined. -/
def start (member : Nat) : Nat :=
  (turns (events.takeWhile (notJoin member))).length

/-- How many turns had come when a member left. -/
def stop (member : Nat) : Nat :=
  (turns (events.takeWhile (notLeave member))).length

end History

/-- The members that still miss the current message. -/
def pending (relay : BroadcastRelay Message) : List Nat :=
  match relay.current with
  | none =>
      []
  | some (_, members) =>
      members

/-- What the current turn still owes to a member. -/
def owed
    (relay : BroadcastRelay Message)
    (member : Nat) :
    List Message :=
  match relay.current with
  | none =>
      []
  | some (message, members) =>
      if member ∈ members then
        [message]
      else
        []

/-- The steps of a relay with a given history; members join once. -/
inductive Step
    (past : List (RelayEvent Message)) :
    BroadcastRelay Message →
    RelayEvent Message →
    BroadcastRelay Message →
    Prop where
  | stay (relay) :
      Step past relay .quiet relay
  | push
      (relay)
      (message : Message) :
      Step past relay (.push message)
        { relay with unsent := relay.unsent ++ [message] }
  | turn
      (relay)
      {message : Message}
      {rest : List Message} :
      relay.current = none →
      relay.unsent = message :: rest →
      Step past relay (.turn message)
        { relay with
          unsent := rest
          current := some (message, relay.members) }
  | deliver
      (relay)
      {message : Message}
      {member : Nat}
      {rest : List Nat} :
      relay.current = some (message, member :: rest) →
      Step past relay (.deliver member message)
        { relay with current := some (message, rest) }
  | finish
      (relay)
      {message : Message} :
      relay.current = some (message, []) →
      Step past relay .quiet { relay with current := none }
  | join
      (relay)
      {member : Nat} :
      relay.current = none →
      RelayEvent.join member ∉ past →
      Step past relay (.join member)
        { relay with members := relay.members ++ [member] }
  | leave
      (relay)
      {member : Nat} :
      relay.current = none →
      member ∈ relay.members →
      Step past relay (.leave member)
        { relay with members := relay.members.erase member }

section Concat

variable (events : List (RelayEvent Message))
variable (event : RelayEvent Message)
variable (member : Nat)

theorem pushed_concat :
    pushed (events ++ [event]) =
      pushed events ++ event.pushed?.toList := by
  rw [pushed, List.filterMap_append]
  cases event <;> rfl

theorem turns_concat :
    turns (events ++ [event]) =
      turns events ++ event.turn?.toList := by
  rw [turns, List.filterMap_append]
  cases event <;> rfl

theorem received_concat :
    received (events ++ [event]) member =
      received events member ++ (delivered? member event).toList := by
  rw [received, List.filterMap_append]
  congr 1

/-- An event that is no turn adds none. -/
theorem turns_concat_same
    {event : RelayEvent Message}
    (noTurn : event.turn? = none) :
    turns (events ++ [event]) = turns events := by
  rw [turns_concat, noTurn]
  exact List.append_nil _

/-- Nor does an event that is no delivery to a member give it anything. -/
theorem received_concat_same
    {event : RelayEvent Message}
    {member : Nat}
    (noDelivery : delivered? member event = none) :
    received (events ++ [event]) member = received events member := by
  rw [received_concat, noDelivery]
  exact List.append_nil _

theorem mem_concat_of_ne
    {event found : RelayEvent Message}
    (different : found ≠ event) :
    found ∈ events ++ [event] ↔ found ∈ events := by
  simp [different]

theorem notJoin_eq_true :
    notJoin member event = true ↔ event ≠ .join member := by
  cases event <;> simp [notJoin]

theorem notLeave_eq_true :
    notLeave member event = true ↔ event ≠ .leave member := by
  cases event <;> simp [notLeave]

variable {events}
variable {event}
variable {member}

/-- A prefix up to the first failure does not grow once there is one. -/
theorem takeWhile_concat_of_stopped
    {keep : RelayEvent Message → Bool}
    {found : RelayEvent Message}
    (member : found ∈ events)
    (stopped : keep found ≠ true) :
    (events ++ [event]).takeWhile keep = events.takeWhile keep := by
  rw [List.takeWhile_append]
  apply if_neg
  intro sameLength
  have whole : events.takeWhile keep = events :=
    (List.takeWhile_prefix keep).eq_of_length sameLength
  exact stopped (List.takeWhile_eq_self_iff.mp whole found member)

/-- Every event up to now keeps a member that has not joined outside. -/
theorem notJoin_of_not_mem
    (notJoined : RelayEvent.join member ∉ events) :
    ∀ found ∈ events, notJoin member found = true := by
  intro found inEvents
  rw [notJoin_eq_true]
  rintro rfl
  exact notJoined inEvents

theorem notLeave_of_not_mem
    (notLeft : RelayEvent.leave member ∉ events) :
    ∀ found ∈ events, notLeave member found = true := by
  intro found inEvents
  rw [notLeave_eq_true]
  rintro rfl
  exact notLeft inEvents

/-- Where a member started does not change after it joined. -/
theorem start_concat_of_joined
    (joined : RelayEvent.join member ∈ events) :
    start (events ++ [event]) member = start events member := by
  unfold start
  rw [takeWhile_concat_of_stopped joined]
  rw [ne_eq, notJoin_eq_true]
  exact fun different => different rfl

/-- A member starts with the turns that follow its joining. -/
theorem start_concat_join
    (notJoined : RelayEvent.join member ∉ events) :
    start (events ++ [.join member]) member =
      (turns events).length := by
  unfold start
  rw [List.takeWhile_append_of_pos (notJoin_of_not_mem notJoined)]
  simp [notJoin]

/-- Where a member stopped does not change after it left. -/
theorem stop_concat_of_left
    (left : RelayEvent.leave member ∈ events) :
    stop (events ++ [event]) member = stop events member := by
  unfold stop
  rw [takeWhile_concat_of_stopped left]
  rw [ne_eq, notLeave_eq_true]
  exact fun different => different rfl

/-- A member stops with the turns that precede its leaving. -/
theorem stop_concat_leave
    (notLeft : RelayEvent.leave member ∉ events) :
    stop (events ++ [.leave member]) member =
      (turns events).length := by
  unfold stop
  rw [List.takeWhile_append_of_pos (notLeave_of_not_mem notLeft)]
  simp [notLeave]

/-- A member that has not left has not stopped. -/
theorem stop_of_not_left
    (notLeft : RelayEvent.leave member ∉ events) :
    stop events member = (turns events).length := by
  unfold stop
  rw [List.takeWhile_eq_self_iff.mpr (notLeave_of_not_mem notLeft)]

/-- The turns of a prefix of the history come first. -/
theorem turns_takeWhile_length_le
    (keep : RelayEvent Message → Bool) :
    (turns (events.takeWhile keep)).length ≤ (turns events).length :=
  ((List.takeWhile_sublist keep).filterMap turn?).length_le

end Concat

/-- What holds after every history of a relay. -/
structure Invariant
    (events : List (RelayEvent Message))
    (relay : BroadcastRelay Message) : Prop where
  fifo :
    pushed events = turns events ++ relay.unsent
  current_last :
    ∀ message rest,
      relay.current = some (message, rest) →
      ∃ front, turns events = front ++ [message]
  members_nodup :
    relay.members.Nodup
  pending_nodup :
    relay.pending.Nodup
  pending_members :
    ∀ member ∈ relay.pending, member ∈ relay.members
  members_iff :
    ∀ member,
      member ∈ relay.members ↔
        RelayEvent.join member ∈ events ∧
          RelayEvent.leave member ∉ events
  left_joined :
    ∀ member,
      RelayEvent.leave member ∈ events →
      RelayEvent.join member ∈ events
  unjoined_received :
    ∀ member,
      RelayEvent.join member ∉ events →
      received events member = []
  member_received :
    ∀ member ∈ relay.members,
      received events member ++ relay.owed member =
        (turns events).drop (start events member)
  left_received :
    ∀ member,
      RelayEvent.leave member ∈ events →
      received events member =
        ((turns events).take (stop events member)).drop
          (start events member)

variable {events : List (RelayEvent Message)}
variable {event : RelayEvent Message}
variable {relay next : BroadcastRelay Message}

/-- A relay without messages and members has no history. -/
theorem Invariant.initial
    (unsent : relay.unsent = [])
    (current : relay.current = none)
    (members : relay.members = []) :
    Invariant [] relay := by
  constructor <;>
    simp [unsent, current, members, pushed, turns, received, pending]

/-- What a member that has left was given stays what it was. -/
theorem Invariant.left_concat
    (invariant : Invariant events relay)
    {member : Nat}
    (left : RelayEvent.leave member ∈ events)
    (sameReceived :
      received (events ++ [event]) member = received events member) :
    received (events ++ [event]) member =
      ((turns (events ++ [event])).take
        (stop (events ++ [event]) member)).drop
          (start (events ++ [event]) member) := by
  have stopped : stop events member ≤ (turns events).length :=
    turns_takeWhile_length_le _
  rw [sameReceived, turns_concat, stop_concat_of_left left,
    start_concat_of_joined (invariant.left_joined member left),
    List.take_append_of_le_length stopped]
  exact invariant.left_received member left

/-- Without a join or a leave the members stay what they were. -/
theorem Invariant.membership_concat
    (invariant : Invariant events relay)
    (sameJoins :
      ∀ member,
        RelayEvent.join member ∈ events ++ [event] ↔
          RelayEvent.join member ∈ events)
    (sameLeaves :
      ∀ member,
        RelayEvent.leave member ∈ events ++ [event] ↔
          RelayEvent.leave member ∈ events) :
    (∀ member,
      member ∈ relay.members ↔
        RelayEvent.join member ∈ events ++ [event] ∧
          RelayEvent.leave member ∉ events ++ [event]) ∧
      ∀ member,
        RelayEvent.leave member ∈ events ++ [event] →
        RelayEvent.join member ∈ events ++ [event] := by
  constructor
  · intro member
    rw [sameJoins, sameLeaves]
    exact invariant.members_iff member
  · intro member
    rw [sameLeaves, sameJoins]
    exact invariant.left_joined member

/-- An event that is no turn, join, leave or delivery changes no history. -/
theorem Invariant.quiet
    (invariant : Invariant events relay)
    (members : next.members = relay.members)
    (unsent :
      pushed (events ++ [event]) = turns events ++ next.unsent)
    (owed : ∀ member, next.owed member = relay.owed member)
    (pending : next.pending = relay.pending)
    (current :
      ∀ message rest,
        next.current = some (message, rest) →
        ∃ rest, relay.current = some (message, rest))
    (noTurn : event.turn? = none)
    (noDelivery : ∀ member, delivered? member event = none)
    (noJoin : ∀ member, event ≠ .join member)
    (noLeave : ∀ member, event ≠ .leave member) :
    Invariant (events ++ [event]) next := by
  have sameTurns := turns_concat_same events noTurn
  have sameReceived :=
    fun member => received_concat_same events (noDelivery member)
  have sameJoins :=
    fun member => mem_concat_of_ne events (noJoin member).symm
  have sameLeaves :=
    fun member => mem_concat_of_ne events (noLeave member).symm
  obtain ⟨memberships, joined⟩ :=
    invariant.membership_concat sameJoins sameLeaves
  constructor
  · rw [sameTurns]
    exact unsent
  · intro message rest isCurrent
    obtain ⟨rest, before⟩ := current message rest isCurrent
    rw [sameTurns]
    exact invariant.current_last message rest before
  · rw [members]
    exact invariant.members_nodup
  · rw [pending]
    exact invariant.pending_nodup
  · rw [pending, members]
    exact invariant.pending_members
  · rw [members]
    exact memberships
  · exact joined
  · intro member
    rw [sameJoins, sameReceived]
    exact invariant.unjoined_received member
  · intro member inMembers
    rw [members] at inMembers
    have joined := ((invariant.members_iff member).mp inMembers).1
    rw [sameReceived, owed, sameTurns, start_concat_of_joined joined]
    exact invariant.member_received member inMembers
  · intro member left
    rw [sameLeaves] at left
    exact invariant.left_concat left (sameReceived member)

/-- A turn is owed to every member. -/
theorem Invariant.turn
    (invariant : Invariant events relay)
    {message : Message}
    {rest : List Message}
    (idle : relay.current = none)
    (first : relay.unsent = message :: rest) :
    Invariant (events ++ [.turn message])
      { relay with
        unsent := rest
        current := some (message, relay.members) } := by
  have turned :
      turns (events ++ [.turn message]) = turns events ++ [message] :=
    turns_concat events _
  have sameReceived :
      ∀ member,
        received (events ++ [.turn message]) member =
          received events member :=
    fun _ => received_concat_same events rfl
  have sameJoins :
      ∀ member,
        RelayEvent.join member ∈
            events ++ [.turn message] ↔
          RelayEvent.join member ∈ events :=
    fun _ => mem_concat_of_ne events (by simp)
  have sameLeaves :
      ∀ member,
        RelayEvent.leave member ∈
            events ++ [.turn message] ↔
          RelayEvent.leave member ∈ events :=
    fun _ => mem_concat_of_ne events (by simp)
  obtain ⟨memberships, joined⟩ :=
    invariant.membership_concat sameJoins sameLeaves
  constructor
  · rw [turned, List.append_assoc, List.singleton_append, ← first,
      ← invariant.fifo]
    simp [pushed_concat, pushed?]
  · intro other targets isCurrent
    obtain ⟨rfl, _⟩ := Prod.mk.inj (Option.some.inj isCurrent)
    exact ⟨turns events, turned⟩
  · exact invariant.members_nodup
  · exact invariant.members_nodup
  · exact fun _ member => member
  · exact memberships
  · exact joined
  · intro member
    rw [sameJoins, sameReceived]
    exact invariant.unjoined_received member
  · intro member inMembers
    have joined := ((invariant.members_iff member).mp inMembers).1
    have before := invariant.member_received member inMembers
    have nothingOwed : relay.owed member = [] := by
      simp [BroadcastRelay.owed, idle]
    have started : start events member ≤ (turns events).length :=
      turns_takeWhile_length_le _
    rw [nothingOwed, List.append_nil] at before
    rw [sameReceived, turned, start_concat_of_joined joined,
      List.drop_append_of_le_length started, before]
    simp [BroadcastRelay.owed, inMembers]
  · intro member left
    rw [sameLeaves] at left
    exact invariant.left_concat left (sameReceived member)

/-- A delivery pays what a turn owes to one member. -/
theorem Invariant.deliver
    (invariant : Invariant events relay)
    {message : Message}
    {target : Nat}
    {rest : List Nat}
    (current : relay.current = some (message, target :: rest)) :
    Invariant (events ++ [.deliver target message])
      { relay with current := some (message, rest) } := by
  have pending : relay.pending = target :: rest := by
    simp [BroadcastRelay.pending, current]
  have sameTurns :
      turns (events ++ [.deliver target message]) = turns events :=
    turns_concat_same events rfl
  have sameJoins :
      ∀ member,
        RelayEvent.join member ∈
            events ++ [.deliver target message] ↔
          RelayEvent.join member ∈ events :=
    fun _ => mem_concat_of_ne events (by simp)
  have sameLeaves :
      ∀ member,
        RelayEvent.leave member ∈
            events ++ [.deliver target message] ↔
          RelayEvent.leave member ∈ events :=
    fun _ => mem_concat_of_ne events (by simp)
  have isMember : target ∈ relay.members := by
    apply invariant.pending_members
    rw [pending]
    exact List.mem_cons_self
  have others :
      ∀ member,
        member ≠ target →
        received (events ++ [.deliver target message]) member =
          received events member := by
    intro member different
    exact received_concat_same events (if_neg different.symm)
  have distinct := invariant.pending_nodup
  rw [pending] at distinct
  have paid : target ∉ rest := (List.nodup_cons.mp distinct).1
  obtain ⟨memberships, joined⟩ :=
    invariant.membership_concat sameJoins sameLeaves
  constructor
  · rw [sameTurns, ← invariant.fifo]
    simp [pushed_concat, pushed?]
  · intro other targets isCurrent
    obtain ⟨rfl, _⟩ := Prod.mk.inj (Option.some.inj isCurrent)
    rw [sameTurns]
    exact invariant.current_last message _ current
  · exact invariant.members_nodup
  · exact (List.nodup_cons.mp distinct).2
  · intro member stillPending
    apply invariant.pending_members
    rw [pending]
    exact List.mem_cons_of_mem target stillPending
  · exact memberships
  · exact joined
  · intro member notJoined
    rw [sameJoins] at notJoined
    have different : member ≠ target := by
      rintro rfl
      exact notJoined ((invariant.members_iff member).mp isMember).1
    rw [others member different]
    exact invariant.unjoined_received member notJoined
  · intro member inMembers
    have joined := ((invariant.members_iff member).mp inMembers).1
    have before := invariant.member_received member inMembers
    rw [sameTurns, start_concat_of_joined joined, ← before]
    by_cases isTarget : member = target
    · subst member
      simp [received_concat, delivered?, BroadcastRelay.owed, current,
        paid]
    · rw [others member isTarget]
      simp [BroadcastRelay.owed, current, isTarget]
  · intro member left
    rw [sameLeaves] at left
    have different : member ≠ target := by
      rintro rfl
      exact ((invariant.members_iff member).mp isMember).2 left
    exact invariant.left_concat left (others member different)

/-- A member that joins has been given nothing. -/
theorem Invariant.join
    (invariant : Invariant events relay)
    {joiner : Nat}
    (idle : relay.current = none)
    (fresh : RelayEvent.join joiner ∉ events) :
    Invariant (events ++ [.join joiner])
      { relay with members := relay.members ++ [joiner] } := by
  have sameTurns :
      turns (events ++ [.join joiner]) = turns events :=
    turns_concat_same events rfl
  have sameReceived :
      ∀ member,
        received (events ++ [.join joiner]) member =
          received events member :=
    fun _ => received_concat_same events rfl
  have sameLeaves :
      ∀ member,
        RelayEvent.leave member ∈
            events ++ [.join joiner] ↔
          RelayEvent.leave member ∈ events :=
    fun _ => mem_concat_of_ne events (by simp)
  have notMember : joiner ∉ relay.members :=
    fun member => fresh ((invariant.members_iff joiner).mp member).1
  have notLeft : RelayEvent.leave joiner ∉ events :=
    fun left => fresh (invariant.left_joined joiner left)
  constructor
  · rw [sameTurns, ← invariant.fifo]
    simp [pushed_concat, pushed?]
  · intro message targets isCurrent
    rw [idle] at isCurrent
    contradiction
  · exact invariant.members_nodup.append (List.nodup_singleton _)
      (List.disjoint_singleton.mpr notMember)
  · simp [pending, idle]
  · simp [pending, idle]
  · intro member
    rw [sameLeaves]
    simp only [List.mem_append, List.mem_singleton,
      RelayEvent.join.injEq, invariant.members_iff member]
    by_cases isJoiner : member = joiner
    · subst member
      simp [notLeft]
    · simp [isJoiner]
  · intro member left
    rw [sameLeaves] at left
    exact List.mem_append_left _ (invariant.left_joined member left)
  · intro member notJoined
    rw [sameReceived]
    apply invariant.unjoined_received
    exact fun joined => notJoined (List.mem_append_left _ joined)
  · intro member inMembers
    have nothingOwed :
        ({ relay with members := relay.members ++ [joiner] } :
          BroadcastRelay Message).owed member = [] := by
      simp [BroadcastRelay.owed, idle]
    rw [sameReceived, nothingOwed, List.append_nil, sameTurns]
    rcases List.mem_append.mp inMembers with old | new
    · have joined := ((invariant.members_iff member).mp old).1
      have before := invariant.member_received member old
      have nothingOwed : relay.owed member = [] := by
        simp [BroadcastRelay.owed, idle]
      rw [nothingOwed, List.append_nil] at before
      rw [start_concat_of_joined joined]
      exact before
    · rw [List.mem_singleton.mp new, start_concat_join fresh,
        List.drop_length]
      exact invariant.unjoined_received joiner fresh
  · intro member left
    rw [sameLeaves] at left
    exact invariant.left_concat left (sameReceived member)

/-- A member that leaves between two turns misses nothing before. -/
theorem Invariant.leave
    (invariant : Invariant events relay)
    {leaver : Nat}
    (idle : relay.current = none)
    (isMember : leaver ∈ relay.members) :
    Invariant (events ++ [.leave leaver])
      { relay with members := relay.members.erase leaver } := by
  have sameTurns :
      turns (events ++ [.leave leaver]) = turns events :=
    turns_concat_same events rfl
  have sameReceived :
      ∀ member,
        received (events ++ [.leave leaver]) member =
          received events member :=
    fun _ => received_concat_same events rfl
  have sameJoins :
      ∀ member,
        RelayEvent.join member ∈
            events ++ [.leave leaver] ↔
          RelayEvent.join member ∈ events :=
    fun _ => mem_concat_of_ne events (by simp)
  have nothingOwed : ∀ member, relay.owed member = [] := by
    simp [BroadcastRelay.owed, idle]
  obtain ⟨leaverJoined, leaverStayed⟩ :=
    (invariant.members_iff leaver).mp isMember
  have erased :
      ∀ member,
        member ∈ relay.members.erase leaver ↔
          member ≠ leaver ∧ member ∈ relay.members :=
    fun member => invariant.members_nodup.mem_erase_iff
  constructor
  · rw [sameTurns, ← invariant.fifo]
    simp [pushed_concat, pushed?]
  · intro message targets isCurrent
    rw [idle] at isCurrent
    contradiction
  · exact invariant.members_nodup.erase leaver
  · simp [pending, idle]
  · simp [pending, idle]
  · intro member
    rw [sameJoins, erased, invariant.members_iff member]
    simp only [List.mem_append, List.mem_singleton,
      RelayEvent.leave.injEq]
    tauto
  · intro member left
    rw [sameJoins]
    rcases List.mem_append.mp left with old | new
    · exact invariant.left_joined member old
    · cases List.mem_singleton.mp new
      exact leaverJoined
  · intro member
    rw [sameJoins, sameReceived]
    exact invariant.unjoined_received member
  · intro member inMembers
    have old := ((erased member).mp inMembers).2
    have joined := ((invariant.members_iff member).mp old).1
    rw [sameReceived, sameTurns, start_concat_of_joined joined]
    exact invariant.member_received member old
  · intro member left
    rcases List.mem_append.mp left with old | new
    · exact invariant.left_concat old (sameReceived member)
    · rw [sameReceived, sameTurns]
      cases List.mem_singleton.mp new
      have before := invariant.member_received leaver isMember
      rw [nothingOwed, List.append_nil] at before
      rw [stop_concat_leave leaverStayed,
        start_concat_of_joined leaverJoined, List.take_length]
      exact before

/-- Every step of a relay keeps the invariant. -/
theorem Invariant.step
    (invariant : Invariant events relay)
    (step : Step events relay event next) :
    Invariant (events ++ [event]) next := by
  cases step with
  | stay =>
      refine invariant.quiet rfl ?_ (fun _ => rfl) rfl
        (fun _ rest isCurrent => ⟨rest, isCurrent⟩)
        rfl (fun _ => rfl) (by simp) (by simp)
      simp [pushed_concat, pushed?, invariant.fifo]
  | push message =>
      refine invariant.quiet rfl ?_ (fun _ => rfl) rfl
        (fun _ rest isCurrent => ⟨rest, isCurrent⟩)
        rfl (fun _ => rfl) (by simp) (by simp)
      simp [pushed_concat, pushed?, invariant.fifo]
  | turn idle first =>
      exact invariant.turn idle first
  | deliver current =>
      exact invariant.deliver current
  | finish current =>
      refine invariant.quiet rfl ?_ ?_ ?_ (by simp)
        rfl (fun _ => rfl) (by simp) (by simp)
      · simp [pushed_concat, pushed?, invariant.fifo]
      · intro member
        simp [owed, current]
      · simp [pending, current]
  | join idle fresh =>
      exact invariant.join idle fresh
  | leave idle isMember =>
      exact invariant.leave idle isMember

/-- A member that is not pending is owed nothing. -/
theorem owed_of_not_pending
    (relay : BroadcastRelay Message)
    {member : Nat}
    (notPending : member ∉ relay.pending) :
    relay.owed member = [] := by
  rcases relay with ⟨unsent, current, members⟩
  cases current with
  | none =>
      rfl
  | some turn =>
      exact if_neg notPending

/-- A turn owes its message or nothing. -/
theorem owed_cases
    (relay : BroadcastRelay Message)
    (member : Nat) :
    relay.owed member = [] ∨
      ∃ message rest,
        relay.current = some (message, rest) ∧
          relay.owed member = [message] := by
  rcases relay with ⟨unsent, current, members⟩
  cases current with
  | none =>
      exact Or.inl rfl
  | some turn =>
      rcases turn with ⟨message, rest⟩
      by_cases inRest : member ∈ rest
      · exact Or.inr ⟨message, rest, rfl, if_pos inRest⟩
      · exact Or.inl (if_neg inRest)

/-- What a member is still to be given of the messages pushed so far. -/
def toDeliver
    (relay : BroadcastRelay Message)
    (member : Nat) :
    List Message :=
  relay.owed member ++ relay.unsent

/--
A step gives a member the first of what it is to be given, or nothing; what is
pushed goes to the end.
-/
theorem Invariant.toDeliver_step
    (invariant : Invariant events relay)
    (step : Step events relay event next)
    {member : Nat}
    (isMember : member ∈ relay.members) :
    (delivered? member event).toList ++ next.toDeliver member =
      relay.toDeliver member ++ event.pushed?.toList := by
  cases step with
  | stay =>
      simp [delivered?, pushed?]
  | push message =>
      simp [toDeliver, owed, delivered?, pushed?]
  | turn idle front =>
      simp [toDeliver, owed, idle, front, isMember, delivered?, pushed?]
  | @deliver message target rest current =>
      have distinct : target ∉ rest := by
        have nodup := invariant.pending_nodup
        rw [pending, current] at nodup
        exact (List.nodup_cons.mp nodup).1
      by_cases same : target = member
      · subst same
        simp [toDeliver, owed, current, distinct, delivered?, pushed?]
      · simp [toDeliver, owed, current, same, Ne.symm same,
          delivered?, pushed?]
  | finish current =>
      simp [toDeliver, owed, current, delivered?, pushed?]
  | join idle | leave idle =>
      simp [toDeliver, owed, idle, delivered?, pushed?]

/--
What a member was given is the segment of everything pushed from the turns it
found when it joined to the turns it found when it left; the turn it is still
owed does not count.
-/
theorem Invariant.received_segment
    (invariant : Invariant events relay)
    {member : Nat}
    (joined : RelayEvent.join member ∈ events) :
    received events member =
      ((pushed events).take
        (stop events member - (relay.owed member).length)).drop
          (start events member) := by
  have started : start events member ≤ (turns events).length :=
    turns_takeWhile_length_le _
  have stopped : stop events member ≤ (turns events).length :=
    turns_takeWhile_length_le _
  have enough :
      (pushed events).take
          (stop events member - (relay.owed member).length) =
        (turns events).take
          (stop events member - (relay.owed member).length) := by
    rw [invariant.fifo]
    exact List.take_append_of_le_length
      (Nat.le_trans (Nat.sub_le _ _) stopped)
  rw [enough]
  by_cases left : RelayEvent.leave member ∈ events
  · have notMember : member ∉ relay.members :=
      fun inMembers =>
        ((invariant.members_iff member).mp inMembers).2 left
    have notPending : member ∉ relay.pending :=
      fun inPending =>
        notMember (invariant.pending_members member inPending)
    have nothingOwed : relay.owed member = [] :=
      relay.owed_of_not_pending notPending
    rw [nothingOwed, List.length_nil, Nat.sub_zero]
    exact invariant.left_received member left
  · have inMembers := (invariant.members_iff member).mpr ⟨joined, left⟩
    have before := invariant.member_received member inMembers
    rw [stop_of_not_left left]
    rcases relay.owed_cases member with nothing | ⟨message, rest, current,
      one⟩
    · rw [nothing, List.append_nil] at before
      rw [nothing, List.length_nil, Nat.sub_zero, List.take_length]
      exact before
    · obtain ⟨front, turned⟩ :=
        invariant.current_last message rest current
      rw [one, turned] at before
      have startedBefore : start events member ≤ front.length := by
        by_contra late
        have tooLate :
            (front ++ [message]).length ≤ start events member := by
          rw [List.length_append, List.length_singleton]
          exact Nat.lt_of_not_le late
        rw [List.drop_eq_nil_of_le tooLate] at before
        simp at before
      rw [List.drop_append_of_le_length startedBefore] at before
      rw [one, turned]
      simpa using List.append_cancel_right before

/-- A segment inside the bounds of another is part of it. -/
theorem segment_infix
    {items : List Message}
    {innerStart innerStop outerStart outerStop : Nat}
    (starts : outerStart ≤ innerStart)
    (stops : innerStop ≤ outerStop) :
    (items.take innerStop).drop innerStart <:+:
      (items.take outerStop).drop outerStart := by
  have front : items.take innerStop <+: items.take outerStop :=
    List.take_prefix_take_left stops
  have cut :
      (items.take innerStop).drop innerStart <:+
        (items.take innerStop).drop outerStart := by
    obtain ⟨extra, rfl⟩ := Nat.exists_eq_add_of_le starts
    rw [← List.drop_drop]
    exact List.drop_suffix extra _
  exact cut.isInfix.trans (List.IsPrefix.drop front outerStart).isInfix

end BroadcastRelay

end ChatRelay

import Mathlib.Data.List.Nodup
import Mathlib.Logic.Function.Basic
import Mathlib.Data.List.Perm.Basic
import Mathlib.Data.List.Pairwise

namespace ChatRelay

/-!
# A table of named connections

What a table of connections is for, without the program that keeps it: every
connection is listed from the moment it joins until it is removed, it carries
the last name granted to it, and no two connections carry the same name.

The table is driven by one sequential owner.  Its phase says which connection
the owner works on.  Connections are numbered in the order in which they arrive
and each is bound to a descriptor; descriptors may be reused, connections may
not.
-/

/-- What the owner of a table is doing. -/
inductive TablePhase (Name : Type) where
  | idle : TablePhase Name
  | serving (connection : Nat) : TablePhase Name
  | leaving (connection : Nat) : TablePhase Name
  | renaming (connection : Nat) (name : Name) : TablePhase Name
  | joining (connection : Nat) : TablePhase Name

/-- What can happen to a table. -/
inductive TableEvent (Name : Type) where
  | quiet : TableEvent Name
  | connect (connection descriptor : Nat) : TableEvent Name
  | join (connection : Nat) : TableEvent Name
  | depart (connection : Nat) : TableEvent Name
  | remove (connection : Nat) : TableEvent Name
  | grant (connection : Nat) (name : Name) : TableEvent Name
  | rename (connection : Nat) (name : Name) : TableEvent Name

/-- A table with the descriptors it hands out and the set it watches. -/
structure ConnectionTable (Name : Type) where
  descriptor : Nat → Nat
  nextConnection : Nat
  openDescriptors : List Nat
  entries : List (Nat × Name)
  watched : List Nat
  phase : TablePhase Name

namespace ConnectionTable

variable {Name : Type}

/-- The connections in the table, in the order in which they joined. -/
def connections (table : ConnectionTable Name) : List Nat :=
  table.entries.map Prod.fst

/-- The connections in the table and the one that is about to join. -/
def members (table : ConnectionTable Name) : List Nat :=
  match table.phase with
  | .joining connection =>
      connection :: table.connections
  | _ =>
      table.connections

/-- The table without one connection. -/
def without
    (entries : List (Nat × Name))
    (connection : Nat) :
    List (Nat × Name) :=
  entries.eraseP fun entry => entry.1 == connection

/-- The table with one connection renamed. -/
def renamed
    (entries : List (Nat × Name))
    (connection : Nat)
    (name : Name) :
    List (Nat × Name) :=
  entries.map fun entry =>
    if entry.1 = connection then
      (entry.1, name)
    else
      entry

/-- The steps of a table; new connections carry the unset name. -/
inductive Step
    (unset : Name) :
    ConnectionTable Name →
    TableEvent Name →
    ConnectionTable Name →
    Prop where
  | stay (table) :
      Step unset table .quiet table
  | serve
      (table)
      {connection : Nat} :
      table.phase = .idle →
      connection ∈ table.watched →
      Step unset table .quiet
        { table with phase := .serving connection }
  | finish
      (table)
      {connection : Nat} :
      table.phase = .serving connection →
      Step unset table .quiet { table with phase := .idle }
  | connect
      (table)
      {descriptor : Nat} :
      table.phase = .idle →
      descriptor ∉ table.openDescriptors →
      Step unset table
        (.connect table.nextConnection descriptor)
        { table with
          descriptor :=
            Function.update table.descriptor
              table.nextConnection descriptor
          nextConnection := table.nextConnection + 1
          openDescriptors := descriptor :: table.openDescriptors
          phase := .joining table.nextConnection }
  | join
      (table)
      {connection : Nat} :
      table.phase = .joining connection →
      Step unset table (.join connection)
        { table with
          entries := table.entries ++ [(connection, unset)]
          watched := table.watched.insert connection
          phase := .idle }
  | depart
      (table)
      {connection : Nat} :
      table.phase = .serving connection →
      Step unset table (.depart connection)
        { table with phase := .leaving connection }
  | remove
      (table)
      {connection : Nat}
      {openDescriptors : List Nat} :
      table.phase = .leaving connection →
      (∀ descriptor ∈ table.openDescriptors,
        descriptor = table.descriptor connection ∨
          descriptor ∈ openDescriptors) →
      Step unset table (.remove connection)
        { table with
          entries := without table.entries connection
          watched := table.watched.erase connection
          openDescriptors := openDescriptors
          phase := .idle }
  | grant
      (table)
      {connection : Nat}
      {name : Name} :
      table.phase = .serving connection →
      (∀ entry ∈ table.entries, entry.2 ≠ name) →
      Step unset table (.grant connection name)
        { table with phase := .renaming connection name }
  | rename
      (table)
      {connection : Nat}
      {name : Name} :
      table.phase = .renaming connection name →
      Step unset table (.rename connection name)
        { table with
          entries := renamed table.entries connection name
          phase := .serving connection }

section Entries

variable {entries : List (Nat × Name)}
variable {connection : Nat}
variable {name : Name}

/-- Removing the first match depends on what matches in the list only. -/
theorem eraseP_congr
    {first second : Nat × Name → Bool}
    (same : ∀ entry ∈ entries, first entry = second entry) :
    entries.eraseP first = entries.eraseP second := by
  induction entries with
  | nil =>
      rfl
  | cons entry rest inductionHypothesis =>
      have rest := inductionHypothesis fun tested member =>
        same tested (List.mem_cons_of_mem entry member)
      simp only [List.eraseP_cons, same entry List.mem_cons_self, rest]

/-- Removing an entry removes its connection. -/
theorem map_without :
    (without entries connection).map Prod.fst =
      (entries.map Prod.fst).erase connection := by
  rw [List.erase_eq_eraseP', List.eraseP_map]
  rfl

/-- Renaming keeps the connections. -/
theorem map_renamed :
    (renamed entries connection name).map Prod.fst =
      entries.map Prod.fst := by
  rw [renamed, List.map_map]
  apply List.map_congr_left
  intro entry _
  by_cases same : entry.1 = connection <;> simp [same]

/-- The entries after a renaming. -/
theorem mem_renamed
    {entry : Nat × Name} :
    entry ∈ renamed entries connection name ↔
      (entry.1 = connection ∧ entry.2 = name ∧
          connection ∈ entries.map Prod.fst) ∨
        (entry.1 ≠ connection ∧ entry ∈ entries) := by
  rcases entry with ⟨tested, carried⟩
  simp only [renamed, List.mem_map]
  constructor
  · rintro ⟨original, member, same⟩
    by_cases chosen : original.1 = connection
    · rw [if_pos chosen] at same
      obtain ⟨rfl, rfl⟩ := Prod.mk.inj same
      exact Or.inl ⟨chosen, rfl, original, member, chosen⟩
    · rw [if_neg chosen] at same
      subst same
      exact Or.inr ⟨chosen, member⟩
  · rintro (⟨rfl, rfl, original, member, same⟩ | ⟨other, member⟩)
    · exact ⟨original, member, by rw [if_pos same, same]⟩
    · exact ⟨(tested, carried), member, if_neg other⟩

end Entries

/-- Every listed connection is bound to a descriptor of its own. -/
structure WellFormed (table : ConnectionTable Name) : Prop where
  members_nodup :
    table.members.Nodup
  members_allocated :
    ∀ connection ∈ table.members, connection < table.nextConnection
  descriptors_nodup :
    (table.members.map table.descriptor).Nodup
  descriptors_open :
    ∀ connection ∈ table.members,
      table.descriptor connection ∈ table.openDescriptors
  watched_perm :
    table.watched.Perm table.connections
  serving_listed :
    ∀ connection,
      (table.phase = .serving connection ∨
        table.phase = .leaving connection ∨
        ∃ name, table.phase = .renaming connection name) →
      connection ∈ table.connections

/-- Names other than the unset one are carried by one connection at most. -/
structure NamesUnique
    (unset : Name)
    (table : ConnectionTable Name) : Prop where
  pairwise :
    table.entries.Pairwise
      fun first second => first.2 ≠ unset → first.2 ≠ second.2
  granted_free :
    ∀ connection name,
      table.phase = .renaming connection name →
      ∀ entry ∈ table.entries, entry.2 ≠ name

section Invariants

variable {unset : Name}
variable {table next : ConnectionTable Name}
variable {event : TableEvent Name}

theorem members_of_not_joining
    (phase :
      ∀ connection, table.phase ≠ .joining connection) :
    table.members = table.connections := by
  unfold members
  split
  · rename_i connection joining
    exact (phase connection joining).elim
  · rfl

theorem connections_sublist :
    table.connections.Sublist table.members := by
  unfold members
  split
  · exact List.sublist_cons_self _ _
  · exact List.Sublist.refl _

theorem WellFormed.connections_nodup
    (wellFormed : table.WellFormed) :
    table.connections.Nodup :=
  wellFormed.members_nodup.sublist connections_sublist

theorem WellFormed.connections_allocated
    (wellFormed : table.WellFormed)
    {connection : Nat}
    (listed : connection ∈ table.connections) :
    connection < table.nextConnection :=
  wellFormed.members_allocated connection
    (connections_sublist.subset listed)

theorem WellFormed.connections_open
    (wellFormed : table.WellFormed)
    {connection : Nat}
    (listed : connection ∈ table.connections) :
    table.descriptor connection ∈ table.openDescriptors :=
  wellFormed.descriptors_open connection
    (connections_sublist.subset listed)

theorem WellFormed.connections_descriptors
    (wellFormed : table.WellFormed) :
    (table.connections.map table.descriptor).Nodup :=
  wellFormed.descriptors_nodup.sublist
    (connections_sublist.map table.descriptor)

/-- A change of names and of the phase, to one about a listed connection. -/
theorem WellFormed.withPhase
    (wellFormed : table.WellFormed)
    {entries : List (Nat × Name)}
    {phase : TablePhase Name}
    (same : entries.map Prod.fst = table.connections)
    (notJoining : ∀ connection, phase ≠ .joining connection)
    (listed :
      ∀ connection,
        (phase = .serving connection ∨
          phase = .leaving connection ∨
          ∃ name, phase = .renaming connection name) →
        connection ∈ table.connections) :
    WellFormed { table with entries := entries, phase := phase } := by
  have connections :
      ({ table with entries := entries, phase := phase } :
        ConnectionTable Name).connections = table.connections :=
    same
  have members :
      ({ table with entries := entries, phase := phase } :
        ConnectionTable Name).members = table.connections := by
    rw [members_of_not_joining notJoining, connections]
  constructor
  · rw [members]
    exact wellFormed.connections_nodup
  · intro connection member
    rw [members] at member
    exact wellFormed.connections_allocated member
  · rw [members]
    exact wellFormed.connections_descriptors
  · intro connection member
    rw [members] at member
    exact wellFormed.connections_open member
  · rw [connections]
    exact wellFormed.watched_perm
  · rw [connections]
    exact listed

/-- Distinct members have distinct descriptors. -/
theorem WellFormed.descriptor_injective
    (wellFormed : table.WellFormed)
    {first second : Nat}
    (firstMember : first ∈ table.members)
    (secondMember : second ∈ table.members)
    (same : table.descriptor first = table.descriptor second) :
    first = second :=
  List.inj_on_of_nodup_map wellFormed.descriptors_nodup
    firstMember secondMember same

/-- A new connection on a fresh descriptor is about to join. -/
theorem WellFormed.connect
    (wellFormed : table.WellFormed)
    {descriptor : Nat}
    (fresh : descriptor ∉ table.openDescriptors) :
    WellFormed
      { table with
        descriptor :=
          Function.update table.descriptor
            table.nextConnection descriptor
        nextConnection := table.nextConnection + 1
        openDescriptors := descriptor :: table.openDescriptors
        phase := .joining table.nextConnection } := by
  have notMember : table.nextConnection ∉ table.connections := by
    intro member
    have below := wellFormed.connections_allocated member
    omega
  have kept :
      ∀ connection ∈ table.connections,
        Function.update table.descriptor
            table.nextConnection descriptor connection =
          table.descriptor connection := by
    intro connection member
    apply Function.update_of_ne
    rintro rfl
    exact notMember member
  constructor
  · exact List.nodup_cons.mpr
      ⟨notMember, wellFormed.connections_nodup⟩
  · intro connection member
    rcases List.mem_cons.mp member with rfl | member
    · exact Nat.lt_succ_self _
    · exact Nat.lt_succ_of_lt (wellFormed.connections_allocated member)
  · change
      ((table.nextConnection :: table.connections).map
        (Function.update table.descriptor
          table.nextConnection descriptor)).Nodup
    rw [List.map_cons, Function.update_self,
      List.map_congr_left kept]
    refine List.nodup_cons.mpr ⟨?_, wellFormed.connections_descriptors⟩
    intro used
    obtain ⟨connection, member, rfl⟩ := List.mem_map.mp used
    exact fresh (wellFormed.connections_open member)
  · intro connection member
    rcases List.mem_cons.mp member with rfl | member
    · exact List.mem_cons.mpr
        (Or.inl (Function.update_self _ _ _))
    · change
        Function.update table.descriptor table.nextConnection
          descriptor connection ∈ descriptor :: table.openDescriptors
      rw [kept connection member]
      exact List.mem_cons_of_mem _ (wellFormed.connections_open member)
  · exact wellFormed.watched_perm
  · rintro _ (other | other | ⟨_, other⟩) <;> contradiction

/-- The connection that was about to join is listed and watched. -/
theorem WellFormed.join
    (wellFormed : table.WellFormed)
    {connection : Nat}
    (phase : table.phase = .joining connection) :
    WellFormed
      { table with
        entries := table.entries ++ [(connection, unset)]
        watched := table.watched.insert connection
        phase := .idle } := by
  have members : table.members = connection :: table.connections := by
    unfold members
    rw [phase]
  have joined :
      (table.entries ++ [(connection, unset)]).map Prod.fst =
        table.connections ++ [connection] := by
    rw [List.map_append]
    rfl
  have reordered :
      (table.connections ++ [connection]).Perm table.members := by
    rw [members]
    exact List.perm_append_singleton _ _
  have notWatched : connection ∉ table.watched := by
    rw [wellFormed.watched_perm.mem_iff]
    have distinct := wellFormed.members_nodup
    rw [members] at distinct
    exact (List.nodup_cons.mp distinct).1
  constructor
  · change ((table.entries ++ [(connection, unset)]).map Prod.fst).Nodup
    rw [joined, reordered.nodup_iff]
    exact wellFormed.members_nodup
  · intro tested member
    apply wellFormed.members_allocated
    rw [← reordered.mem_iff, ← joined]
    exact member
  · change
      (((table.entries ++ [(connection, unset)]).map Prod.fst).map
        table.descriptor).Nodup
    rw [joined, (reordered.map _).nodup_iff]
    exact wellFormed.descriptors_nodup
  · intro tested member
    apply wellFormed.descriptors_open
    rw [← reordered.mem_iff, ← joined]
    exact member
  · change
      (table.watched.insert connection).Perm
        ((table.entries ++ [(connection, unset)]).map Prod.fst)
    rw [joined, List.insert_of_not_mem notWatched]
    exact (wellFormed.watched_perm.cons connection).trans
      (List.perm_append_singleton _ _).symm
  · rintro _ (other | other | ⟨_, other⟩) <;> contradiction

/-- The connection that was leaving is neither listed nor watched. -/
theorem WellFormed.remove
    (wellFormed : table.WellFormed)
    {connection : Nat}
    {openDescriptors : List Nat}
    (phase : table.phase = .leaving connection)
    (kept :
      ∀ descriptor ∈ table.openDescriptors,
        descriptor = table.descriptor connection ∨
          descriptor ∈ openDescriptors) :
    WellFormed
      { table with
        entries := without table.entries connection
        watched := table.watched.erase connection
        openDescriptors := openDescriptors
        phase := .idle } := by
  have leaver : connection ∈ table.connections :=
    wellFormed.serving_listed connection (Or.inr (Or.inl phase))
  have erased :
      ∀ tested,
        tested ∈ (without table.entries connection).map Prod.fst →
        tested ≠ connection ∧ tested ∈ table.connections := by
    intro tested member
    rw [map_without] at member
    exact wellFormed.connections_nodup.mem_erase_iff.mp member
  constructor
  · change ((without table.entries connection).map Prod.fst).Nodup
    rw [map_without]
    exact wellFormed.connections_nodup.erase connection
  · intro tested member
    exact wellFormed.connections_allocated (erased tested member).2
  · change
      (((without table.entries connection).map Prod.fst).map
        table.descriptor).Nodup
    rw [map_without]
    exact wellFormed.connections_descriptors.sublist
      (List.erase_sublist.map _)
  · intro tested member
    obtain ⟨different, listed⟩ := erased tested member
    rcases kept _ (wellFormed.connections_open listed) with same | still
    · have unique : tested = connection :=
        wellFormed.descriptor_injective
          (connections_sublist.subset listed)
          (connections_sublist.subset leaver) same
      exact (different unique).elim
    · exact still
  · change
      (table.watched.erase connection).Perm
        ((without table.entries connection).map Prod.fst)
    rw [map_without]
    exact wellFormed.watched_perm.erase connection
  · rintro _ (other | other | ⟨_, other⟩) <;> contradiction

/-- Every step keeps the table well formed. -/
theorem WellFormed.step
    (wellFormed : table.WellFormed)
    (step : Step unset table event next) :
    next.WellFormed := by
  cases step with
  | stay =>
      exact wellFormed
  | serve phase watched =>
      apply wellFormed.withPhase rfl
      · intro _ impossible
        contradiction
      · rintro _ (same | other | ⟨_, other⟩)
        · cases same
          exact wellFormed.watched_perm.mem_iff.mp watched
        · contradiction
        · contradiction
  | finish phase =>
      apply wellFormed.withPhase rfl
      · intro _ impossible
        contradiction
      · rintro _ (other | other | ⟨_, other⟩) <;> contradiction
  | connect phase fresh =>
      exact wellFormed.connect fresh
  | join phase =>
      exact wellFormed.join phase
  | depart phase =>
      apply wellFormed.withPhase rfl
      · intro _ impossible
        contradiction
      · rintro _ (other | same | ⟨_, other⟩)
        · contradiction
        · cases same
          exact wellFormed.serving_listed _ (Or.inl phase)
        · contradiction
  | remove phase kept =>
      exact wellFormed.remove phase kept
  | grant phase free =>
      apply wellFormed.withPhase rfl
      · intro _ impossible
        contradiction
      · rintro _ (other | other | ⟨_, same⟩)
        · contradiction
        · contradiction
        · cases same
          exact wellFormed.serving_listed _ (Or.inl phase)
  | rename phase =>
      apply wellFormed.withPhase map_renamed
      · intro _ impossible
        contradiction
      · rintro _ (same | other | ⟨_, other⟩)
        · cases same
          exact wellFormed.serving_listed _
            (Or.inr (Or.inr ⟨_, phase⟩))
        · contradiction
        · contradiction

/-- Distinct entries belong to distinct connections. -/
theorem WellFormed.entries_pairwise
    (wellFormed : table.WellFormed) :
    table.entries.Pairwise
      fun first second => first.1 ≠ second.1 :=
  List.pairwise_map.mp wellFormed.connections_nodup

/-- The name that is being granted is free until it is carried. -/
theorem NamesUnique.rename
    (wellFormed : table.WellFormed)
    (unique : table.NamesUnique unset)
    {connection : Nat}
    {name : Name}
    (phase : table.phase = .renaming connection name) :
    (renamed table.entries connection name).Pairwise
      fun first second => first.2 ≠ unset → first.2 ≠ second.2 := by
  have free := unique.granted_free connection name phase
  rw [renamed, List.pairwise_map]
  have both := unique.pairwise.and wellFormed.entries_pairwise
  refine both.imp_of_mem ?_
  intro first second firstMember secondMember related named
  by_cases firstChosen : first.1 = connection
  · have secondOther : second.1 ≠ connection :=
      fun same => related.2 (firstChosen.trans same.symm)
    rw [if_pos firstChosen, if_neg secondOther]
    exact (free second secondMember).symm
  · rw [if_neg firstChosen] at named ⊢
    by_cases secondChosen : second.1 = connection
    · rw [if_pos secondChosen]
      exact free first firstMember
    · rw [if_neg secondChosen]
      exact related.1 named

/-- Every step keeps the names unique. -/
theorem NamesUnique.step
    (wellFormed : table.WellFormed)
    (unique : table.NamesUnique unset)
    (step : Step unset table event next) :
    next.NamesUnique unset := by
  cases step with
  | stay =>
      exact unique
  | serve _ _ =>
      exact ⟨unique.pairwise, by simp⟩
  | finish _ =>
      exact ⟨unique.pairwise, by simp⟩
  | connect _ _ =>
      exact ⟨unique.pairwise, by simp⟩
  | join _ =>
      refine ⟨List.pairwise_append.mpr
        ⟨unique.pairwise, List.pairwise_singleton _ _, ?_⟩, by simp⟩
      intro first _ second secondMember named
      rw [List.mem_singleton.mp secondMember]
      exact named
  | depart _ =>
      exact ⟨unique.pairwise, by simp⟩
  | remove _ _ =>
      exact ⟨unique.pairwise.sublist List.eraseP_sublist, by simp⟩
  | grant _ free =>
      refine ⟨unique.pairwise, ?_⟩
      intro _ _ same
      cases same
      exact free
  | rename phase =>
      exact ⟨unique.rename wellFormed phase, by simp⟩

/-- Two connections that carry names carry different names. -/
theorem NamesUnique.distinct
    (unique : table.NamesUnique unset)
    {first second : Nat × Name}
    (firstMember : first ∈ table.entries)
    (secondMember : second ∈ table.entries)
    (different : first.1 ≠ second.1)
    (named : first.2 ≠ unset) :
    first.2 ≠ second.2 := by
  have symmetric :
      Std.Symm fun first second : Nat × Name =>
        first.2 ≠ unset → first.2 ≠ second.2 := by
    constructor
    intro first second related named same
    rw [same] at named
    exact related named same.symm
  have otherEntry : first ≠ second :=
    fun same => different (congrArg Prod.fst same)
  exact unique.pairwise.forall firstMember secondMember
    otherEntry named

end Invariants

section History

/-- The connection has arrived. -/
def Connected
    (events : List (TableEvent Name))
    (connection : Nat) : Prop :=
  ∃ descriptor, TableEvent.connect connection descriptor ∈ events

/-- The connection has ended. -/
def Departed
    (events : List (TableEvent Name))
    (connection : Nat) : Prop :=
  TableEvent.depart connection ∈ events

/-- The name that one event grants to a connection. -/
def grantedName
    (connection : Nat) :
    TableEvent Name → Option Name
  | .grant granted name =>
      if granted = connection then
        some name
      else
        none
  | _ =>
      none

/-- The last name granted to a connection. -/
def lastGranted
    (events : List (TableEvent Name))
    (connection : Nat) :
    Option Name :=
  events.reverse.findSome? (grantedName connection)

theorem lastGranted_concat
    (events : List (TableEvent Name))
    (event : TableEvent Name)
    (connection : Nat) :
    lastGranted (events ++ [event]) connection =
      (grantedName connection event).or
        (lastGranted events connection) := by
  unfold lastGranted
  rw [List.reverse_append, List.reverse_singleton,
    List.singleton_append, List.findSome?_cons]
  cases grantedName connection event <;> rfl

/-- The name an entry is about to carry. -/
def carried
    (table : ConnectionTable Name)
    (entry : Nat × Name) :
    Name :=
  match table.phase with
  | .renaming connection name =>
      if entry.1 = connection then
        name
      else
        entry.2
  | _ =>
      entry.2

/-- The table lists what its history says, under the names it says. -/
structure FollowsHistory
    (unset : Name)
    (events : List (TableEvent Name))
    (table : ConnectionTable Name) : Prop where
  fresh :
    ∀ connection,
      table.nextConnection ≤ connection →
      ¬ Connected events connection ∧
        ¬ Departed events connection ∧
        lastGranted events connection = none ∧
        TableEvent.join connection ∉ events
  members_iff :
    ∀ connection,
      connection ∈ table.members ↔
        Connected events connection ∧
          (Departed events connection →
            table.phase = .leaving connection)
  leaving_departed :
    ∀ connection,
      table.phase = .leaving connection →
      Departed events connection
  joining_fresh :
    ∀ connection,
      table.phase = .joining connection →
      lastGranted events connection = none ∧
        TableEvent.join connection ∉ events
  names :
    ∀ entry ∈ table.entries,
      table.carried entry =
        (lastGranted events entry.1).getD unset

variable {unset : Name}
variable {events : List (TableEvent Name)}
variable {table next : ConnectionTable Name}
variable {event : TableEvent Name}

theorem connected_concat
    {connection : Nat} :
    Connected (events ++ [event]) connection ↔
      Connected events connection ∨
        ∃ descriptor, event = .connect connection descriptor := by
  simp only [Connected, List.mem_append, List.mem_singleton,
    exists_or, eq_comm]

theorem departed_concat
    {connection : Nat} :
    Departed (events ++ [event]) connection ↔
      Departed events connection ∨ event = .depart connection := by
  simp only [Departed, List.mem_append, List.mem_singleton, eq_comm]

/-- A connection that is served, leaving or renamed is a member. -/
theorem WellFormed.serving_allocated
    (wellFormed : table.WellFormed)
    {connection : Nat}
    (phase :
      table.phase = .serving connection ∨
        table.phase = .leaving connection ∨
        ∃ name, table.phase = .renaming connection name) :
    connection < table.nextConnection :=
  wellFormed.members_allocated connection
    (connections_sublist.subset
      (wellFormed.serving_listed connection phase))

/-- No event names a connection before it arrives. -/
theorem FollowsHistory.fresh_step
    (wellFormed : table.WellFormed)
    (follows : FollowsHistory unset events table)
    (step : Step unset table event next)
    {connection : Nat}
    (unallocated : next.nextConnection ≤ connection) :
    ¬ Connected (events ++ [event]) connection ∧
      ¬ Departed (events ++ [event]) connection ∧
      lastGranted (events ++ [event]) connection = none ∧
      TableEvent.join connection ∉ events ++ [event] := by
  have allocated := @wellFormed.serving_allocated
  rw [connected_concat, departed_concat, lastGranted_concat]
  cases step with
  | connect _ _ =>
      have before : table.nextConnection ≤ connection :=
        Nat.le_of_succ_le unallocated
      have different : table.nextConnection ≠ connection :=
        Nat.ne_of_lt unallocated
      simpa [grantedName, different] using
        follows.fresh connection before
  | @depart served phase =>
      have different : served ≠ connection := by
        have below := allocated (Or.inl phase)
        exact Nat.ne_of_lt (Nat.lt_of_lt_of_le below unallocated)
      simpa [grantedName, different] using
        follows.fresh connection unallocated
  | @grant served name phase _ =>
      have different : served ≠ connection := by
        have below := allocated (Or.inl phase)
        exact Nat.ne_of_lt (Nat.lt_of_lt_of_le below unallocated)
      simpa [grantedName, different] using
        follows.fresh connection unallocated
  | @join joiner phase =>
      have isMember : joiner ∈ table.members := by
        simp [members, phase]
      have different : joiner ≠ connection := by
        have below := wellFormed.members_allocated joiner isMember
        exact Nat.ne_of_lt (Nat.lt_of_lt_of_le below unallocated)
      simpa [grantedName, different.symm] using
        follows.fresh connection unallocated
  | stay | serve | finish | remove | rename =>
      simpa [grantedName] using
        follows.fresh connection unallocated

/-- The members are the connections that have arrived and not ended. -/
theorem FollowsHistory.members_step
    (wellFormed : table.WellFormed)
    (follows : FollowsHistory unset events table)
    (step : Step unset table event next)
    (connection : Nat) :
    connection ∈ next.members ↔
      Connected (events ++ [event]) connection ∧
        (Departed (events ++ [event]) connection →
          next.phase = .leaving connection) := by
  have before := follows.members_iff connection
  rw [connected_concat, departed_concat]
  cases step with
  | stay =>
      simpa using before
  | serve phase _ =>
      simpa [members, phase, connections] using before
  | finish phase =>
      simpa [members, phase, connections] using before
  | connect phase _ =>
      have fresh :=
        follows.fresh table.nextConnection (Nat.le_refl _)
      simp only [members, phase, reduceCtorEq, imp_false] at before
      simp only [members, connections, List.mem_cons,
        TableEvent.connect.injEq, reduceCtorEq, or_false, imp_false]
      simp only [connections] at before
      rw [before]
      by_cases isNew : connection = table.nextConnection
      · subst connection
        simp [fresh]
      · simp [isNew, Ne.symm isNew]
  | @join joiner phase =>
      simp only [members, phase, connections, List.mem_cons,
        reduceCtorEq, imp_false] at before
      simp [members, connections, ← before, or_comm]
  | @depart leaver phase =>
      have listed :=
        wellFormed.serving_listed leaver (Or.inl phase)
      simp only [members, phase, reduceCtorEq, imp_false] at before
      simp only [members, reduceCtorEq, exists_false, or_false,
        TableEvent.depart.injEq, TablePhase.leaving.injEq]
      change connection ∈ table.connections ↔ _
      rw [before]
      by_cases isLeaver : leaver = connection
      · subst connection
        simp [before.mp listed]
      · simp [isLeaver]
  | @remove leaver _ phase _ =>
      have erased :
          connection ∈ (without table.entries leaver).map Prod.fst ↔
            connection ≠ leaver ∧ connection ∈ table.connections := by
        rw [map_without]
        exact wellFormed.connections_nodup.mem_erase_iff
      simp only [members, phase, TablePhase.leaving.injEq] at before
      simp only [members, reduceCtorEq, exists_false, or_false,
        imp_false]
      change
        connection ∈ (without table.entries leaver).map Prod.fst ↔ _
      rw [erased, before]
      by_cases isLeaver : connection = leaver
      · subst connection
        simp [follows.leaving_departed leaver phase]
      · simp [isLeaver, Ne.symm isLeaver]
  | grant phase _ =>
      simpa [members, phase, connections] using before
  | rename phase =>
      simp only [members, phase, reduceCtorEq, imp_false] at before
      simpa [members, connections, map_renamed] using before

/-- A connection that is leaving has ended. -/
theorem FollowsHistory.leaving_step
    (follows : FollowsHistory unset events table)
    (step : Step unset table event next)
    {connection : Nat}
    (leaving : next.phase = .leaving connection) :
    Departed (events ++ [event]) connection := by
  rw [departed_concat]
  cases step with
  | stay =>
      exact Or.inl (follows.leaving_departed connection leaving)
  | depart _ =>
      cases leaving
      exact Or.inr rfl
  | serve | finish | connect | join | remove | grant | rename =>
      contradiction

/-- A connection that is about to join has not joined or been named. -/
theorem FollowsHistory.joining_step
    (follows : FollowsHistory unset events table)
    (step : Step unset table event next)
    {connection : Nat}
    (joining : next.phase = .joining connection) :
    lastGranted (events ++ [event]) connection = none ∧
      TableEvent.join connection ∉ events ++ [event] := by
  rw [lastGranted_concat]
  cases step with
  | stay =>
      simpa [grantedName] using
        follows.joining_fresh connection joining
  | connect _ _ =>
      cases joining
      simpa [grantedName] using
        (follows.fresh _ (Nat.le_refl _)).2.2
  | serve | finish | depart | join | remove | grant | rename =>
      contradiction

/-- The entries carry the names that were granted last. -/
theorem FollowsHistory.names_step
    (follows : FollowsHistory unset events table)
    (step : Step unset table event next) :
    ∀ entry ∈ next.entries,
      next.carried entry =
        (lastGranted (events ++ [event]) entry.1).getD unset := by
  have before := follows.names
  intro entry member
  rw [lastGranted_concat]
  cases step with
  | stay =>
      exact before entry member
  | serve phase _ =>
      simpa [carried, phase, grantedName] using before entry member
  | finish phase =>
      simpa [carried, phase, grantedName] using before entry member
  | connect phase _ =>
      simpa [carried, phase, grantedName] using before entry member
  | @join joiner phase =>
      rcases List.mem_append.mp member with old | new
      · simpa [carried, phase, grantedName] using before entry old
      · rw [List.mem_singleton.mp new]
        simp [carried, grantedName,
          follows.joining_fresh joiner phase]
  | depart phase =>
      simpa [carried, phase, grantedName] using before entry member
  | remove phase _ =>
      have old := List.eraseP_sublist.subset member
      simpa [carried, phase, grantedName] using before entry old
  | @grant granted name phase _ =>
      have old := before entry member
      by_cases chosen : granted = entry.1
      · simp [carried, grantedName, chosen]
      · simpa [carried, phase, grantedName, chosen,
          Ne.symm chosen] using old
  | @rename connection name phase =>
      rcases mem_renamed.mp member with
        ⟨chosen, named, listed⟩ | ⟨other, old⟩
      · obtain ⟨original, originalMember, same⟩ :=
          List.mem_map.mp listed
        have old := before original originalMember
        simp only [carried, phase, same, if_true] at old
        simp only [carried, grantedName, Option.none_or, named,
          chosen]
        exact old
      · simpa [carried, phase, grantedName, other]
          using before entry old

/-- Every step extends the history that the table follows. -/
theorem FollowsHistory.step
    (wellFormed : table.WellFormed)
    (follows : FollowsHistory unset events table)
    (step : Step unset table event next) :
    FollowsHistory unset (events ++ [event]) next where
  fresh _ := follows.fresh_step wellFormed step
  members_iff := follows.members_step wellFormed step
  leaving_departed _ := follows.leaving_step step
  joining_fresh _ := follows.joining_step step
  names := follows.names_step step

end History

/-- What holds of every table that its owner keeps by these steps. -/
structure Invariant
    (unset : Name)
    (events : List (TableEvent Name))
    (table : ConnectionTable Name) : Prop where
  wellFormed : table.WellFormed
  namesUnique : table.NamesUnique unset
  followsHistory : FollowsHistory unset events table

/-- The invariant is kept by every step. -/
theorem Invariant.step
    {unset : Name}
    {events : List (TableEvent Name)}
    {event : TableEvent Name}
    {table next : ConnectionTable Name}
    (invariant : Invariant unset events table)
    (step : Step unset table event next) :
    Invariant unset (events ++ [event]) next where
  wellFormed := invariant.wellFormed.step step
  namesUnique := invariant.namesUnique.step invariant.wellFormed step
  followsHistory :=
    invariant.followsHistory.step invariant.wellFormed step

/-- The invariant holds of a table without connections. -/
theorem Invariant.initial
    {unset : Name}
    {table : ConnectionTable Name}
    (noEntries : table.entries = [])
    (noneWatched : table.watched = [])
    (phase : table.phase = .idle) :
    Invariant unset [] table := by
  have members : table.members = [] := by
    simp [ConnectionTable.members, phase, connections, noEntries]
  refine ⟨⟨?_, ?_, ?_, ?_, ?_, ?_⟩, ⟨?_, ?_⟩, ⟨?_, ?_, ?_, ?_, ?_⟩⟩ <;>
    simp [members, noEntries, noneWatched, phase, connections,
      Connected, Departed, lastGranted]

end ConnectionTable

end ChatRelay

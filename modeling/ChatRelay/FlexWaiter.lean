import Mathlib.Algebra.Group.Int.Defs
import Mathlib.Data.List.Nodup
import ChatRelay.TextBuffers
import ChatRelay.ServerSystem

namespace ChatRelay

/-!
# Waiting for several descriptors

One call of `flex_waiter::wait`: the timeout it computes, the set of
descriptors it builds for `::select`, and what it does with the set that
`::select` returns.  What the system calls return is an argument.
-/

/--
The fields of `flex_waiter` that `wait` reads: the descriptor of the socket
server, and the registered sockets in the order in which the set is iterated.
-/
structure FlexWaiter where
  _master : Option Nat
  _sockets : List Socket
  deriving Repr, DecidableEq

/-- `::timeval` -/
structure Timeval where
  tv_sec : Int64
  tv_usec : Int64
  deriving DecidableEq

namespace FlexWaiter

/-- `STDIN_FILENO` -/
def STDIN_FILENO : Nat := 0

/-- `FD_SETSIZE` -/
def FD_SETSIZE : Nat := 1024

/-- `flex_waiter::BUFFER_SIZE` -/
def BUFFER_SIZE : Nat := 1024

/-! ## The timeout -/

/-- `std::chrono::milliseconds::min().count()`, the default timeout. -/
def millisecondsMin : Int64 :=
  Int64.minValue

/-- `std::chrono::seconds::min().count()` -/
def secondsMin : Int64 :=
  Int64.minValue

/-- The number of milliseconds in a second, as the conversion multiplies it. -/
def perSecond : Int64 :=
  1000

/-- A signed product of 64 bits overflows. -/
def MulOverflows (left right : Int64) : Prop :=
  left.toInt * right.toInt < Int64.minValue.toInt ∨
    Int64.maxValue.toInt < left.toInt * right.toInt

instance (left right : Int64) : Decidable (MulOverflows left right) :=
  inferInstanceAs (Decidable (_ ∨ _))

/--
The timeout that `wait` passes to `::select`; `none` is `NULL`.  The comparison
converts `seconds::min()` to milliseconds.
-/
def pTimeout (timeout : Int64) : Option Timeval :=
  if secondsMin * perSecond < timeout then
    some
      { tv_sec := timeout / 1000
        tv_usec := (timeout % 1000) * 1000 }
  else
    none

/-! ## The set of descriptors -/

/-- The locals `maxFD` and `theSet`. -/
structure WatchSet where
  maxFD : Nat
  theSet : List Nat
  deriving Repr, DecidableEq

/-- `FD_SET` of a descriptor that also raises the maximum. -/
def WatchSet.FD_SET (watch : WatchSet) (fd : Nat) : WatchSet where
  maxFD := max watch.maxFD fd
  theSet := fd :: watch.theSet

/-- The set with stdin and the socket server; the maximum is overwritten. -/
def masterSet (waiter : FlexWaiter) : WatchSet :=
  match waiter._master with
  | none =>
      ⟨STDIN_FILENO, [STDIN_FILENO]⟩
  | some masterFD =>
      ⟨masterFD, [masterFD, STDIN_FILENO]⟩

/-- One turn of the loop over the registered sockets. -/
def addOpen (watch : WatchSet) (sock : Socket) : WatchSet :=
  if sock.isOpen then
    watch.FD_SET sock.fd
  else
    watch

/-- The set that `wait` passes to `::select`. -/
def watch (waiter : FlexWaiter) (killEventFD : Nat) : WatchSet :=
  (waiter._sockets.foldl addOpen waiter.masterSet).FD_SET killEventFD

/-! ## The call -/

/--
What the system calls of a call of `wait` return: `::eventfd`, `::select` with
the ready set, and `::read` on the kill event and on stdin.
-/
structure SystemCalls where
  eventfd : Option Nat
  select : Option (List Nat)
  readKill : Int
  readStdin : Option Bytes

/--
A call of a handler.  The line is `none` if the string that is built for it
leaves the buffer.
-/
inductive Handler where
  | onSocketServer (masterFD : Nat) : Handler
  | onSocket (child : Socket) : Handler
  | onSTDIN (input : Option Bytes) : Handler
  deriving Repr, DecidableEq

/-- The descriptor whose activity a handler is called for. -/
def Handler.source : Handler → Nat
  | onSocketServer masterFD =>
      masterFD
  | onSocket child =>
      child.fd
  | onSTDIN _ =>
      STDIN_FILENO

/-- The arguments of a call of `::select`. -/
structure SelectCall where
  nfds : Nat
  readfds : List Nat
  timeout : Option Timeval
  deriving DecidableEq

/--
What a call of `wait` does: the call of `::select`, the descriptors it reads,
the handlers it calls and the exception it throws.
-/
structure WaitResult where
  select : Option SelectCall := none
  reads : List Nat := []
  calls : List Handler := []
  fault : Option Fault := none
  deriving DecidableEq

/-- The contents of `buff` after `::read`. -/
def buffer (chunk : Bytes) : Bytes :=
  chunk ++ List.replicate (BUFFER_SIZE - chunk.length) 0

/-- The string without a newline at its end. -/
def eraseNewline (input : Bytes) : Bytes :=
  if input.getLast? = some JsonText.newline then
    input.dropLast
  else
    input

/-- The line that the stdin branch of `wait` passes on. -/
def input (chunk : Bytes) : Option Bytes :=
  (CString.ofArray (buffer chunk)).map eraseNewline

/-- The branches of `wait` after `::select` has returned a ready set. -/
def afterSelect
    (waiter : FlexWaiter)
    (killEventFD : Nat)
    (theSet : List Nat)
    (kernel : SystemCalls) : WaitResult :=
  if killEventFD ∈ theSet then
    -- The result of `::read` is kept as a `size_t`.
    let killrv := (kernel.readKill % 2 ^ 64).toNat
    if 0 < killrv ∧ killrv ≠ 8 then
      { reads := [killEventFD]
        fault := some (.runtimeError
          "Invalid signal read from kill, probably implementation problem.") }
    else
      { reads := [killEventFD] }
  else if STDIN_FILENO ∈ theSet then
    match kernel.readStdin with
    | none =>
        { reads := [STDIN_FILENO]
          fault := some (.runtimeError
            "Failed to read from stdin after being notified of being active.") }
    | some chunk =>
        { reads := [STDIN_FILENO]
          calls := [.onSTDIN (input chunk)] }
  else
    match waiter._master.filter (· ∈ theSet) with
    | some masterFD =>
        { calls := [.onSocketServer masterFD] }
    | none =>
        match waiter._sockets.find? (·.fd ∈ theSet) with
        | some child =>
            { calls := [.onSocket child] }
        | none =>
            {}

/-- The kill event, which the first call creates. -/
def killEvent (_killEventFD eventfd : Option Nat) : Option Nat :=
  match _killEventFD with
  | some killEventFD =>
      some killEventFD
  | none =>
      eventfd

/-- `flex_waiter::wait` -/
def wait
    (waiter : FlexWaiter)
    (_killEventFD : Option Nat)
    (timeout : Int64)
    (kernel : SystemCalls) : WaitResult :=
  match killEvent _killEventFD kernel.eventfd with
  | none =>
      { fault := some (.runtimeError "Could not create unlock event.") }
  | some killEventFD =>
      let watch := waiter.watch killEventFD
      let call : SelectCall :=
        ⟨watch.maxFD + 1, watch.theSet, pTimeout timeout⟩
      match kernel.select with
      | none =>
          { select := some call
            fault := some (.runtimeError
              "Unexpected error in synchronization object") }
      | some [] =>
          { select := some call }
      | some theSet =>
          { waiter.afterSelect killEventFD theSet kernel with
            select := some call }

/-! ## What the timeout amounts to -/

/-- The branch that the comparison takes once the conversion has wrapped. -/
theorem pTimeout_eq
    (timeout : Int64) :
    pTimeout timeout =
      if 0 < timeout then
        some ⟨timeout / 1000, (timeout % 1000) * 1000⟩
      else
        none :=
  rfl

/-- A timeout is passed on, or replaced by an endless wait. -/
structure KeepsTimeout (timeout : Int64) : Prop where
  endless :
    timeout = millisecondsMin →
    pTimeout timeout = none
  finite :
    0 ≤ timeout →
    ∃ tv,
      pTimeout timeout = some tv ∧
        tv.tv_sec.toInt * 1000 + tv.tv_usec.toInt / 1000 =
          timeout.toInt ∧
        tv.tv_usec.toInt % 1000 = 0 ∧
        0 ≤ tv.tv_usec.toInt ∧ tv.tv_usec.toInt < 1000000
  nonnegative :
    ∀ tv,
      pTimeout timeout = some tv →
      0 ≤ tv.tv_sec.toInt ∧ 0 ≤ tv.tv_usec.toInt

/-- The fields that `wait` computes from a timeout that is not negative. -/
theorem timeval_of_nonneg
    {timeout : Int64}
    (nonneg : 0 ≤ timeout.toInt) :
    (timeout / 1000).toInt = timeout.toInt / 1000 ∧
      ((timeout % 1000) * 1000).toInt = timeout.toInt % 1000 * 1000 := by
  have bound : timeout.toInt < 2 ^ 63 := timeout.toInt_lt
  have thousand : (1000 : Int64).toInt = 1000 := rfl
  constructor
  · simp only [Int64.toInt_div, thousand,
      Int.tdiv_eq_ediv_of_nonneg nonneg]
    apply Int.bmod_eq_of_le <;> omega
  · simp only [Int64.toInt_mul, Int64.toInt_mod, thousand,
      Int.tmod_eq_emod_of_nonneg nonneg]
    apply Int.bmod_eq_of_le <;> omega

/-- A wrapped comparison keeps every timeout but 0. -/
theorem keepsTimeout_iff
    (timeout : Int64) :
    KeepsTimeout timeout ↔ timeout ≠ 0 := by
  constructor
  · intro keeps isZero
    subst isZero
    obtain ⟨tv, passed, _⟩ := keeps.finite (by decide)
    rw [pTimeout_eq, if_neg (by decide)] at passed
    cases passed
  · intro notZero
    have notZero' : timeout.toInt ≠ 0 := by
      intro isZero
      exact notZero (Int64.toInt_inj.mp isZero)
    constructor
    case endless =>
      rintro rfl
      rfl
    case finite =>
      intro nonneg
      have nonneg' : 0 ≤ timeout.toInt := Int64.le_iff_toInt_le.mp nonneg
      have positive : 0 < timeout := by
        apply Int64.lt_iff_toInt_lt.mpr
        show 0 < timeout.toInt
        omega
      obtain ⟨sec, usec⟩ := timeval_of_nonneg nonneg'
      refine ⟨_, by rw [pTimeout_eq, if_pos positive], ?_⟩
      simp only [sec, usec]
      omega
    case nonnegative =>
      intro tv passed
      rw [pTimeout_eq] at passed
      split at passed
      case isTrue positive =>
        have nonneg : 0 ≤ timeout.toInt :=
          Int.le_of_lt (Int64.lt_iff_toInt_lt.mp positive)
        obtain ⟨sec, usec⟩ := timeval_of_nonneg nonneg
        cases passed
        simp only [sec, usec]
        omega
      case isFalse =>
        cases passed

/--
The conversion of `seconds::min()` overflows in every call.  Where it wraps,
the only timeout that is not kept is 0, which becomes an endless wait.
-/
theorem timeout_comparison_overflows
    (timeout : Int64) :
    ¬ (¬ MulOverflows secondsMin perSecond ∧ KeepsTimeout timeout) ∧
      (KeepsTimeout timeout ↔ timeout ≠ 0) := by
  constructor
  · rintro ⟨exactProduct, _⟩
    exact exactProduct (by decide)
  · exact keepsTimeout_iff timeout

/-- A poll with a timeout of 0 waits without end. -/
theorem zero_timeout_waits_for_ever :
    MulOverflows secondsMin perSecond ∧
      pTimeout 0 = none ∧ ¬ KeepsTimeout 0 :=
  ⟨by decide, rfl, fun keeps => (keepsTimeout_iff 0).mp keeps rfl⟩

/-! ## What is watched -/

/-- The set holds only descriptors up to its maximum. -/
def WatchSet.Bounded (watch : WatchSet) : Prop :=
  ∀ fd ∈ watch.theSet, fd ≤ watch.maxFD

@[simp] theorem WatchSet.mem_FD_SET
    (watch : WatchSet)
    (added fd : Nat) :
    fd ∈ (watch.FD_SET added).theSet ↔
      fd = added ∨ fd ∈ watch.theSet :=
  List.mem_cons

/-- Adding a descriptor raises the maximum far enough. -/
theorem WatchSet.Bounded.FD_SET
    {watch : WatchSet}
    (bounded : watch.Bounded)
    (added : Nat) :
    (watch.FD_SET added).Bounded := by
  intro fd member
  rcases (watch.mem_FD_SET added fd).mp member with rfl | before
  · exact Nat.le_max_right watch.maxFD fd
  · exact Nat.le_trans (bounded fd before)
      (Nat.le_max_left watch.maxFD added)

/-- The overwritten maximum is still one, because stdin is descriptor 0. -/
theorem masterSet_bounded
    (waiter : FlexWaiter) :
    waiter.masterSet.Bounded := by
  intro fd member
  cases master : waiter._master with
  | none =>
      simp only [masterSet, master, List.mem_singleton] at member ⊢
      omega
  | some masterFD =>
      simp only [masterSet, master, List.mem_cons, List.not_mem_nil,
        or_false, STDIN_FILENO] at member ⊢
      omega

theorem mem_masterSet
    (waiter : FlexWaiter)
    (fd : Nat) :
    fd ∈ waiter.masterSet.theSet ↔
      fd = STDIN_FILENO ∨ waiter._master = some fd := by
  cases master : waiter._master with
  | none =>
      simp [masterSet, master]
  | some masterFD =>
      simp only [masterSet, master, List.mem_cons, List.not_mem_nil,
        or_false, Option.some.injEq]
      rw [or_comm, eq_comm (a := fd) (b := masterFD)]

/-- The loop over the sockets keeps the maximum. -/
theorem foldl_addOpen_bounded
    (sockets : List Socket)
    {watch : WatchSet}
    (bounded : watch.Bounded) :
    (sockets.foldl addOpen watch).Bounded := by
  induction sockets generalizing watch with
  | nil =>
      exact bounded
  | cons sock rest inductionHypothesis =>
      apply inductionHypothesis
      unfold addOpen
      split
      · exact bounded.FD_SET sock.fd
      · exact bounded

/-- The loop over the sockets adds the descriptors of the open ones. -/
theorem mem_foldl_addOpen
    (sockets : List Socket)
    (watch : WatchSet)
    (fd : Nat) :
    fd ∈ (sockets.foldl addOpen watch).theSet ↔
      fd ∈ watch.theSet ∨
        ∃ sock ∈ sockets, sock.isOpen = true ∧ sock.fd = fd := by
  induction sockets generalizing watch with
  | nil =>
      simp
  | cons sock rest inductionHypothesis =>
      rw [List.foldl_cons, inductionHypothesis, addOpen]
      cases isOpen : sock.isOpen with
      | false =>
          simp [isOpen]
      | true =>
          simp only [↓reduceIte, WatchSet.mem_FD_SET, List.exists_mem_cons_iff,
            isOpen, true_and]
          rw [or_comm (a := fd = sock.fd), or_assoc,
            eq_comm (a := fd) (b := sock.fd)]

/-- The argument `nfds` is larger than every watched descriptor. -/
theorem watch_bounded
    (waiter : FlexWaiter)
    (killEventFD : Nat) :
    (waiter.watch killEventFD).Bounded :=
  (foldl_addOpen_bounded waiter._sockets
    waiter.masterSet_bounded).FD_SET killEventFD

/-- The four kinds of source that are watched. -/
theorem mem_watch
    (waiter : FlexWaiter)
    (killEventFD fd : Nat) :
    fd ∈ (waiter.watch killEventFD).theSet ↔
      fd = killEventFD ∨
        (fd = STDIN_FILENO ∨ waiter._master = some fd) ∨
          ∃ sock ∈ waiter._sockets,
            sock.isOpen = true ∧ sock.fd = fd := by
  rw [watch, WatchSet.mem_FD_SET, mem_foldl_addOpen, mem_masterSet]

/-! ## What is dispatched -/

/--
The registered sockets have different descriptors, and every descriptor fits
into an `fd_set`.
-/
structure WellFormed (waiter : FlexWaiter) : Prop where
  distinct : (waiter._sockets.map Socket.fd).Nodup
  master : ∀ fd, waiter._master = some fd → fd < FD_SETSIZE
  sockets : ∀ sock ∈ waiter._sockets, sock.fd < FD_SETSIZE

/-- Two registered sockets with one descriptor are one socket. -/
theorem WellFormed.same_socket
    {waiter : FlexWaiter}
    (wellFormed : waiter.WellFormed)
    {first second : Socket}
    (firstMember : first ∈ waiter._sockets)
    (secondMember : second ∈ waiter._sockets)
    (sameFD : first.fd = second.fd) :
    first = second :=
  List.inj_on_of_nodup_map wellFormed.distinct
    firstMember secondMember sameFD

/-- The branches that a call of `wait` can take for a ready set. -/
inductive Dispatch
    (waiter : FlexWaiter)
    (killEventFD : Nat)
    (theSet : List Nat)
    (kernel : SystemCalls)
    (result : WaitResult) : Prop where
  | timedOut :
      theSet = [] →
      result.calls = [] →
      result.reads = [] →
      Dispatch waiter killEventFD theSet kernel result
  | killed :
      killEventFD ∈ theSet →
      result.calls = [] →
      result.reads = [killEventFD] →
      Dispatch waiter killEventFD theSet kernel result
  | stdinFailed :
      killEventFD ∉ theSet →
      STDIN_FILENO ∈ theSet →
      kernel.readStdin = none →
      result.calls = [] →
      result.reads = [STDIN_FILENO] →
      result.fault = some (.runtimeError
        "Failed to read from stdin after being notified of being active.") →
      Dispatch waiter killEventFD theSet kernel result
  | stdin (chunk : Bytes) :
      killEventFD ∉ theSet →
      STDIN_FILENO ∈ theSet →
      kernel.readStdin = some chunk →
      result.calls = [.onSTDIN (input chunk)] →
      result.reads = [STDIN_FILENO] →
      Dispatch waiter killEventFD theSet kernel result
  | socketServer (masterFD : Nat) :
      killEventFD ∉ theSet →
      waiter._master = some masterFD →
      masterFD ∈ theSet →
      result.calls = [.onSocketServer masterFD] →
      result.reads = [] →
      Dispatch waiter killEventFD theSet kernel result
  | socket (child : Socket) :
      killEventFD ∉ theSet →
      STDIN_FILENO ∉ theSet →
      (∀ masterFD, waiter._master = some masterFD → masterFD ∉ theSet) →
      child ∈ waiter._sockets →
      child.fd ∈ theSet →
      result.calls = [.onSocket child] →
      result.reads = [] →
      Dispatch waiter killEventFD theSet kernel result
  | fallThrough :
      killEventFD ∉ theSet →
      STDIN_FILENO ∉ theSet →
      (∀ masterFD, waiter._master = some masterFD → masterFD ∉ theSet) →
      (∀ sock ∈ waiter._sockets, sock.fd ∉ theSet) →
      result.calls = [] →
      result.reads = [] →
      Dispatch waiter killEventFD theSet kernel result

/-- What follows `::select` takes one of the branches. -/
theorem dispatch_afterSelect
    (waiter : FlexWaiter)
    (killEventFD : Nat)
    (theSet : List Nat)
    (kernel : SystemCalls)
    (select : Option SelectCall) :
    Dispatch waiter killEventFD theSet kernel
      { waiter.afterSelect killEventFD theSet kernel with
        select := select } := by
  unfold afterSelect
  by_cases killReady : killEventFD ∈ theSet
  · rw [if_pos killReady]
    apply Dispatch.killed killReady
    · simp only
      split <;> rfl
    · simp only
      split <;> rfl
  rw [if_neg killReady]
  by_cases stdinReady : STDIN_FILENO ∈ theSet
  · rw [if_pos stdinReady]
    cases read : kernel.readStdin with
    | none =>
        exact .stdinFailed killReady stdinReady read rfl rfl rfl
    | some chunk =>
        exact .stdin chunk killReady stdinReady read rfl rfl
  rw [if_neg stdinReady]
  cases active : waiter._master.filter (· ∈ theSet) with
  | some masterFD =>
      obtain ⟨isMaster, ready⟩ := Option.filter_eq_some_iff.mp active
      exact .socketServer masterFD killReady isMaster
        (of_decide_eq_true ready) rfl rfl
  | none =>
      have notReady :
          ∀ masterFD,
            waiter._master = some masterFD → masterFD ∉ theSet := by
        intro masterFD isMaster ready
        exact Option.filter_eq_none_iff.mp active masterFD isMaster
          (decide_eq_true ready)
      cases found : waiter._sockets.find? (·.fd ∈ theSet) with
      | some child =>
          have ready : child.fd ∈ theSet := by
            simpa using List.find?_some found
          exact .socket child killReady stdinReady notReady
            (List.mem_of_find?_eq_some found) ready rfl rfl
      | none =>
          apply Dispatch.fallThrough killReady stdinReady notReady
          · intro sock member ready
            exact List.find?_eq_none.mp found sock member
              (decide_eq_true ready)
          · rfl
          · rfl

/-- One handler was called, and nothing was read but its own source. -/
def CallsOneHandler (result : WaitResult) : Prop :=
  ∃ handler,
    result.calls = [handler] ∧
      ∀ fd ∈ result.reads, fd = handler.source

/-- Stdin was ready, its read failed, and `wait` threw. -/
def StdinFailed
    (ready : List Nat)
    (kernel : SystemCalls)
    (result : WaitResult) : Prop :=
  STDIN_FILENO ∈ ready ∧ kernel.readStdin = none ∧
    result.calls = [] ∧ result.reads = [STDIN_FILENO] ∧
      result.fault = some (.runtimeError
        "Failed to read from stdin after being notified of being active.")

/-- What was watched, and what was done about the sources that were ready. -/
structure Dispatches
    (waiter : FlexWaiter)
    (killEventFD : Nat)
    (ready : List Nat)
    (kernel : SystemCalls)
    (call : SelectCall)
    (result : WaitResult) : Prop where
  selects : result.select = some call
  belowNfds : ∀ fd ∈ call.readfds, fd < call.nfds
  openWatched :
    ∀ sock ∈ waiter._sockets,
      sock.isOpen = true →
      sock.fd ∈ call.readfds
  closedNotWatched :
    ∀ sock ∈ waiter._sockets,
      sock.isOpen = false →
      sock.fd ∈ call.readfds →
      sock.fd = killEventFD ∨
        sock.fd = STDIN_FILENO ∨ waiter._master = some sock.fd
  atMostOne : result.calls.length ≤ 1
  sourceReady : ∀ handler ∈ result.calls, handler.source ∈ ready
  targetOpen :
    ∀ child,
      .onSocket child ∈ result.calls →
      child ∈ waiter._sockets ∧ child.isOpen = true
  killed : killEventFD ∈ ready → result.calls = []
  dispatched :
    ready ≠ [] →
    killEventFD ∉ ready →
    CallsOneHandler result ∨ StdinFailed ready kernel result

section OneWait

variable {waiter : FlexWaiter}
variable {killEventFD : Nat}
variable {ready : List Nat}
variable {kernel : SystemCalls}
variable {result : WaitResult}

/--
A ready descriptor that is none of the first three sources belongs to an open
socket.
-/
theorem exists_open_socket
    (watched : ready ⊆ (waiter.watch killEventFD).theSet)
    (notKilled : killEventFD ∉ ready)
    (notStdin : STDIN_FILENO ∉ ready)
    (notMaster :
      ∀ masterFD, waiter._master = some masterFD → masterFD ∉ ready)
    {fd : Nat}
    (isReady : fd ∈ ready) :
    ∃ sock ∈ waiter._sockets,
      sock.isOpen = true ∧ sock.fd = fd := by
  rcases (waiter.mem_watch killEventFD fd).mp (watched isReady) with
    isKill | (isStdin | isMaster) | isSocket
  · exact (notKilled (isKill ▸ isReady)).elim
  · exact (notStdin (isStdin ▸ isReady)).elim
  · exact (notMaster fd isMaster isReady).elim
  · exact isSocket

namespace Dispatch

/-- No branch calls two handlers. -/
theorem atMostOne
    (dispatch : Dispatch waiter killEventFD ready kernel result) :
    result.calls.length ≤ 1 := by
  cases dispatch <;> simp [*]

/-- Every branch calls the handler of a source that is ready. -/
theorem sourceReady
    (dispatch : Dispatch waiter killEventFD ready kernel result)
    {handler : Handler}
    (called : handler ∈ result.calls) :
    handler.source ∈ ready := by
  cases dispatch with
  | timedOut _ calls
  | killed _ calls
  | stdinFailed _ _ _ calls
  | fallThrough _ _ _ _ calls =>
      rw [calls] at called
      cases called
  | stdin chunk _ stdinReady _ calls =>
      rw [calls, List.mem_singleton] at called
      subst called
      exact stdinReady
  | socketServer masterFD _ _ masterReady calls =>
      rw [calls, List.mem_singleton] at called
      subst called
      exact masterReady
  | socket child _ _ _ _ childReady calls =>
      rw [calls, List.mem_singleton] at called
      subst called
      exact childReady

/-- The socket that is passed on is registered and open. -/
theorem targetOpen
    (wellFormed : waiter.WellFormed)
    (watched : ready ⊆ (waiter.watch killEventFD).theSet)
    (dispatch : Dispatch waiter killEventFD ready kernel result)
    {child : Socket}
    (called : Handler.onSocket child ∈ result.calls) :
    child ∈ waiter._sockets ∧ child.isOpen = true := by
  cases dispatch with
  | timedOut _ calls
  | killed _ calls
  | stdinFailed _ _ _ calls
  | fallThrough _ _ _ _ calls
  | stdin _ _ _ _ calls
  | socketServer _ _ _ _ calls =>
      simp [calls] at called
  | socket found notKilled notStdin notMaster member isReady calls =>
      rw [calls, List.mem_singleton, Handler.onSocket.injEq] at called
      subst called
      obtain ⟨sock, registered, isOpen, sameFD⟩ :=
        exists_open_socket watched notKilled notStdin notMaster isReady
      have same : sock = child :=
        wellFormed.same_socket registered member sameFD
      exact ⟨member, same ▸ isOpen⟩

/-- A signalled kill event keeps every handler from being called. -/
theorem calls_of_killed
    (dispatch : Dispatch waiter killEventFD ready kernel result)
    (killReady : killEventFD ∈ ready) :
    result.calls = [] := by
  cases dispatch with
  | timedOut _ calls
  | killed _ calls =>
      exact calls
  | stdinFailed notKilled
  | stdin _ notKilled
  | socketServer _ notKilled
  | socket _ notKilled
  | fallThrough notKilled =>
      exact (notKilled killReady).elim

/-- A ready source is dispatched unless the read of stdin fails. -/
theorem dispatched
    (watched : ready ⊆ (waiter.watch killEventFD).theSet)
    (dispatch : Dispatch waiter killEventFD ready kernel result)
    (someReady : ready ≠ [])
    (notKilled : killEventFD ∉ ready) :
    CallsOneHandler result ∨ StdinFailed ready kernel result := by
  cases dispatch with
  | timedOut noneReady =>
      exact (someReady noneReady).elim
  | killed killReady =>
      exact (notKilled killReady).elim
  | stdinFailed _ stdinReady failed calls reads fault =>
      exact .inr ⟨stdinReady, failed, calls, reads, fault⟩
  | stdin chunk _ _ _ calls reads =>
      refine .inl ⟨_, calls, ?_⟩
      intro fd isRead
      rw [reads, List.mem_singleton] at isRead
      exact isRead
  | socketServer _ _ _ _ calls reads
  | socket _ _ _ _ _ _ calls reads =>
      refine .inl ⟨_, calls, ?_⟩
      intro fd isRead
      rw [reads] at isRead
      cases isRead
  | fallThrough _ notStdin notMaster notSocket =>
      -- What is ready was watched, so the search finds its socket.
      obtain ⟨fd, isReady⟩ := List.exists_mem_of_ne_nil ready someReady
      obtain ⟨sock, registered, _, rfl⟩ :=
        exists_open_socket watched notKilled notStdin notMaster isReady
      exact (notSocket sock registered isReady).elim

end Dispatch

/-- A call whose `::select` returns takes one of the branches. -/
theorem dispatch_wait
    {_killEventFD : Option Nat}
    (created : killEvent _killEventFD kernel.eventfd = some killEventFD)
    (timeout : Int64)
    (selected : kernel.select = some ready) :
    Dispatch waiter killEventFD ready kernel
      (waiter.wait _killEventFD timeout kernel) := by
  simp only [wait, created, selected]
  cases ready with
  | nil =>
      exact .timedOut rfl rfl rfl
  | cons fd rest =>
      apply dispatch_afterSelect

/-- The arguments that `wait` passes to `::select`. -/
theorem wait_select
    {_killEventFD : Option Nat}
    (created : killEvent _killEventFD kernel.eventfd = some killEventFD)
    (timeout : Int64)
    (selected : kernel.select = some ready) :
    (waiter.wait _killEventFD timeout kernel).select =
      some ⟨(waiter.watch killEventFD).maxFD + 1,
        (waiter.watch killEventFD).theSet, pTimeout timeout⟩ := by
  simp only [wait, created, selected]
  cases ready <;> rfl

/-- The descriptor of a closed socket is watched only for another source. -/
theorem closed_not_watched
    (wellFormed : waiter.WellFormed)
    {sock : Socket}
    (registered : sock ∈ waiter._sockets)
    (isClosed : sock.isOpen = false)
    (isWatched : sock.fd ∈ (waiter.watch killEventFD).theSet) :
    sock.fd = killEventFD ∨
      sock.fd = STDIN_FILENO ∨ waiter._master = some sock.fd := by
  rcases (waiter.mem_watch killEventFD sock.fd).mp isWatched with
    isKill | ofServer | ⟨other, member, isOpen, sameFD⟩
  · exact .inl isKill
  · exact .inr ofServer
  · rw [wellFormed.same_socket member registered sameFD, isClosed] at isOpen
    cases isOpen

/--
For every ready set that `::select` may return, `wait` calls at most one
handler, of a source that is ready; a ready source is passed over only for the
kill event, or if the read of stdin fails.
-/
theorem wait_dispatches
    (wellFormed : waiter.WellFormed)
    {_killEventFD : Option Nat}
    (created : killEvent _killEventFD kernel.eventfd = some killEventFD)
    (timeout : Int64)
    (selected : kernel.select = some ready)
    (watched : ready ⊆ (waiter.watch killEventFD).theSet) :
    ∃ call,
      Dispatches waiter killEventFD ready kernel call
        (waiter.wait _killEventFD timeout kernel) := by
  have dispatch :
      Dispatch waiter killEventFD ready kernel
        (waiter.wait _killEventFD timeout kernel) :=
    dispatch_wait created timeout selected
  refine ⟨⟨(waiter.watch killEventFD).maxFD + 1,
    (waiter.watch killEventFD).theSet, pTimeout timeout⟩, ?_⟩
  constructor
  case selects =>
    exact wait_select created timeout selected
  case belowNfds =>
    intro fd member
    exact Nat.lt_succ_of_le (waiter.watch_bounded killEventFD fd member)
  case openWatched =>
    intro sock member isOpen
    exact (waiter.mem_watch killEventFD sock.fd).mpr
      (.inr (.inr ⟨sock, member, isOpen, rfl⟩))
  case closedNotWatched =>
    intro sock member isClosed isWatched
    exact closed_not_watched wellFormed member isClosed isWatched
  case atMostOne =>
    exact dispatch.atMostOne
  case sourceReady =>
    intro handler called
    exact dispatch.sourceReady called
  case targetOpen =>
    intro child called
    exact dispatch.targetOpen wellFormed watched called
  case killed =>
    exact dispatch.calls_of_killed
  case dispatched =>
    exact dispatch.dispatched watched

end OneWait

/-- A waiter with a socket server, an open socket and a closed one. -/
def twoSockets : FlexWaiter :=
  ⟨some 3, [⟨5, true⟩, ⟨4, false⟩]⟩

/-- The open socket of the two is dispatched. -/
theorem wait_dispatches_open_socket :
    ∃ call,
      Dispatches twoSockets 6 [5] ⟨some 6, some [5], 8, none⟩ call
        (twoSockets.wait none millisecondsMin
          ⟨some 6, some [5], 8, none⟩) :=
  wait_dispatches
    ⟨by decide, by decide, by decide⟩ rfl millisecondsMin rfl (by decide)

/-- Stdin is ready and its read fails: no handler is called. -/
theorem failed_stdin_calls_no_handler :
    twoSockets.WellFormed ∧
      [STDIN_FILENO] ⊆ (twoSockets.watch 6).theSet ∧
      6 ∉ [STDIN_FILENO] ∧
      ¬ CallsOneHandler
        (twoSockets.wait none millisecondsMin
          ⟨some 6, some [STDIN_FILENO], 8, none⟩) := by
  refine ⟨⟨by decide, by decide, by decide⟩, by decide, by decide, ?_⟩
  rintro ⟨handler, calls, _⟩
  cases calls

end FlexWaiter

/-! ## The waiter of the server -/

namespace Server

open FlexWaiter (STDIN_FILENO)

/-- The waiter of a server whose socket server has a given descriptor. -/
def waiter (state : Server) (serverFD : Nat) : FlexWaiter where
  _master := some serverFD
  _sockets := state._sockets.map state.heap

/-- The waiter watches what the process model says it watches. -/
theorem mem_watch_waiter
    (state : Server)
    (serverFD killEventFD fd : Nat) :
    fd ∈ ((state.waiter serverFD).watch killEventFD).theSet ↔
      fd = killEventFD ∨
        (fd = STDIN_FILENO ∨ fd = serverFD) ∨
          fd ∈ state.watchedDescriptors := by
  rw [FlexWaiter.mem_watch]
  simp only [waiter, Option.some.injEq, List.mem_map,
    exists_exists_and_eq_and, watchedDescriptors, List.mem_filter]
  simp only [and_assoc, eq_comm (a := serverFD)]

end Server

end ChatRelay

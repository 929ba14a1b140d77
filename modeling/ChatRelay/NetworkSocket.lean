import Mathlib.Data.List.Basic
import ChatRelay.MessageInstance

namespace ChatRelay

/-!
# Sockets

The socket class of the server library.  A system call is an argument of the
function that makes it: the argument is what the kernel returns.
-/

/-- The two fields of `networking::socket`. -/
structure Socket where
  fd : Nat
  isOpen : Bool
  deriving Repr, DecidableEq

/-- What `::recv` returns: some bytes, 0 or -1. -/
inductive RecvOutcome where
  | data : Bytes → RecvOutcome
  | closed : RecvOutcome
  | failed : RecvOutcome
  deriving Repr, DecidableEq

/-- What `::write` returns: a number of bytes or -1. -/
inductive WriteOutcome where
  | written : Nat → WriteOutcome
  | failed : WriteOutcome
  deriving Repr, DecidableEq

namespace RecvOutcome

/-- `MAX_BUFFER_SIZE` -/
def MAX_BUFFER_SIZE : Nat := 1024

/-- A call that returns data fills between one byte and the whole buffer. -/
def WellFormed : RecvOutcome → Prop
  | data bytes =>
      0 < bytes.length ∧ bytes.length ≤ MAX_BUFFER_SIZE
  | closed =>
      True
  | failed =>
      True

instance (outcome : RecvOutcome) : Decidable outcome.WellFormed :=
  match outcome with
  | data bytes =>
      inferInstanceAs
        (Decidable
          (0 < bytes.length ∧ bytes.length ≤ MAX_BUFFER_SIZE))
  | closed =>
      isTrue trivial
  | failed =>
      isTrue trivial

/-- The value that `::recv` returns. -/
def returned : RecvOutcome → Int
  | data bytes =>
      bytes.length
  | closed =>
      0
  | failed =>
      -1

/-- The bytes that `::recv` has put into the buffer. -/
def contents : RecvOutcome → Bytes
  | data bytes =>
      bytes
  | _ =>
      []

/-- Only a read from a connection that the peer has ended returns 0. -/
theorem returned_eq_zero
    {outcome : RecvOutcome}
    (wellFormed : outcome.WellFormed) :
    outcome.returned = 0 ↔ outcome = closed := by
  cases outcome with
  | data bytes =>
      have nonempty : 0 < bytes.length := wellFormed.1
      simp only [returned, reduceCtorEq, iff_false]
      omega
  | closed =>
      simp [returned]
  | failed =>
      simp [returned]

end RecvOutcome

/-- The value that `::write` returns. -/
def WriteOutcome.returned : WriteOutcome → Int
  | written length =>
      length
  | failed =>
      -1

namespace Socket

/-- The constructor from a descriptor. -/
def ofDescriptor (fd : Nat) : Socket :=
  ⟨fd, true⟩

/--
`socket::read(std::vector<char>*)`: the socket afterwards, the value returned
and the contents of a vector that was empty before.
-/
def read
    (socket : Socket) :
    RecvOutcome → Except Fault (Socket × Int × Bytes)
  | outcome =>
      if !socket.isOpen then
        .error (.runtimeError "Can not read from closed socket.")
      else
        match outcome with
        | .failed =>
            .ok ({ socket with isOpen := false }, -1, [])
        | .closed =>
            .ok ({ socket with isOpen := false }, 0, [])
        | .data bytes =>
            .ok (socket, bytes.length, bytes)

/-- `socket::write`: the socket afterwards and the value returned. -/
def write
    (socket : Socket) :
    WriteOutcome → Except Fault (Socket × Int)
  | outcome =>
      if !socket.isOpen then
        .error (.runtimeError "Can not write to closed socket.")
      else
        match outcome with
        | .failed =>
            .ok ({ socket with isOpen := false }, -1)
        | .written length =>
            .ok (socket, length)

/-- `socket::close`: the socket afterwards and the descriptor it closes. -/
def close (socket : Socket) : Socket × Option Nat :=
  if socket.isOpen then
    ({ socket with isOpen := false }, some socket.fd)
  else
    (socket, none)

/-- The socket after a read that returned. -/
def afterRead
    (socket : Socket) :
    RecvOutcome → Socket
  | .data _ =>
      socket
  | _ =>
      { socket with isOpen := false }

/-- The socket after a write that returned. -/
def afterWrite
    (socket : Socket) :
    WriteOutcome → Socket
  | .written _ =>
      socket
  | .failed =>
      { socket with isOpen := false }

@[simp] theorem afterRead_fd
    (socket : Socket)
    (outcome : RecvOutcome) :
    (socket.afterRead outcome).fd = socket.fd := by
  cases outcome <;> rfl

@[simp] theorem afterWrite_fd
    (socket : Socket)
    (outcome : WriteOutcome) :
    (socket.afterWrite outcome).fd = socket.fd := by
  cases outcome <;> rfl

/-- A closed socket is not read. -/
theorem read_closed
    {socket : Socket}
    (closed : socket.isOpen = false)
    (outcome : RecvOutcome) :
    socket.read outcome =
      .error (.runtimeError "Can not read from closed socket.") := by
  simp [read, closed]

/-- A read of an open socket returns what `::recv` returns. -/
theorem read_open
    {socket : Socket}
    (isOpen : socket.isOpen = true)
    (outcome : RecvOutcome) :
    socket.read outcome =
      .ok (socket.afterRead outcome, outcome.returned,
        outcome.contents) := by
  cases outcome <;>
    simp [read, isOpen, afterRead, RecvOutcome.returned,
      RecvOutcome.contents]

/-- A closed socket is not written. -/
theorem write_closed
    {socket : Socket}
    (closed : socket.isOpen = false)
    (outcome : WriteOutcome) :
    socket.write outcome =
      .error (.runtimeError "Can not write to closed socket.") := by
  simp [write, closed]

/-- A write to an open socket returns what `::write` returns. -/
theorem write_open
    {socket : Socket}
    (isOpen : socket.isOpen = true)
    (outcome : WriteOutcome) :
    socket.write outcome =
      .ok (socket.afterWrite outcome, outcome.returned) := by
  cases outcome <;>
    simp [write, isOpen, afterWrite, WriteOutcome.returned]

end Socket

end ChatRelay

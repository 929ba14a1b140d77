import Mathlib.Data.List.Basic
import ChatRelay.NetworkSocket
import ChatRelay.TextBuffers

namespace ChatRelay

/-!
# The two overloads of read

Both overloads of `socket::read` receive into an array on the stack.  One
copies as many cells as `::recv` has filled; the other takes the array for a C
string.  The call of `memset` between them and a clean array has its last two
arguments exchanged.
-/

open RecvOutcome (MAX_BUFFER_SIZE)

namespace SocketReads

/-- `std::memset`; the value is converted to an unsigned char. -/
def memset (cells : Bytes) (value count : Nat) : Bytes :=
  List.replicate (min count cells.length) (UInt8.ofNat value) ++
    cells.drop count

/-- The array after `::recv`. -/
def recv (cells : Bytes) (outcome : RecvOutcome) : Bytes :=
  outcome.contents ++ cells.drop outcome.contents.length

/-- `raw_buff` after `::recv`, given what was on the stack before. -/
def raw_buff (stack : Bytes) (outcome : RecvOutcome) : Bytes :=
  recv (memset stack MAX_BUFFER_SIZE 0) outcome

/-- What a call does with the object that its argument points to. -/
inductive Stored where
  | unchanged : Stored
  | contents : Bytes → Stored
  | leavesBuffer : Stored
  deriving Repr, DecidableEq

/--
The socket after a call that returned, the value returned, what was stored,
and how many cells of the array were looked at.
-/
structure Result where
  socket : Socket
  received : Int
  stored : Stored
  looked : Nat
  deriving Repr, DecidableEq

/-- `socket::read(std::vector<char>*)` -/
def readVector
    (socket : Socket)
    (stack : Bytes)
    (outcome : RecvOutcome) : Except Fault Result :=
  if !socket.isOpen then
    .error (.runtimeError "Can not read from closed socket.")
  else
    match outcome with
    | .failed =>
        .ok ⟨{ socket with isOpen := false }, -1, .unchanged, 0⟩
    | .closed =>
        .ok ⟨{ socket with isOpen := false }, 0, .unchanged, 0⟩
    | .data bytes =>
        .ok ⟨socket, bytes.length,
          .contents ((raw_buff stack (.data bytes)).take bytes.length),
          bytes.length⟩

/-- The string that is assigned from `raw_buff`. -/
def ofBuffer (cells : Bytes) : Stored :=
  match CString.ofArray cells with
  | none =>
      .leavesBuffer
  | some text =>
      .contents text

/-- `socket::read(std::string*)` -/
def readString
    (socket : Socket)
    (stack : Bytes)
    (outcome : RecvOutcome) : Result :=
  if !socket.isOpen then
    ⟨socket, -1, .unchanged, 0⟩
  else
    match outcome with
    | .failed =>
        ⟨{ socket with isOpen := false }, -1, .unchanged, 0⟩
    | .closed =>
        ⟨{ socket with isOpen := false }, 0, .unchanged, 0⟩
    | .data bytes =>
        let raw := raw_buff stack (.data bytes)
        ⟨socket, bytes.length, ofBuffer raw, CString.looked raw⟩

/-- With its arguments exchanged, `memset` clears nothing. -/
@[simp] theorem memset_nothing
    (cells : Bytes)
    (value : Nat) :
    memset cells value 0 = cells := by
  simp [memset]

/-- The chunk is followed by what was on the stack. -/
theorem raw_buff_data
    (stack bytes : Bytes) :
    raw_buff stack (.data bytes) =
      bytes ++ stack.drop bytes.length := by
  rw [raw_buff, memset_nothing]
  rfl

/-! ## Agreement -/

/--
Both overloads store the chunk, return its length, leave the socket open and
look at no cell behind the chunk.
-/
structure Agree
    (socket : Socket)
    (stack bytes : Bytes) : Prop where
  vector :
    ∃ looked,
      readVector socket stack (.data bytes) =
          .ok ⟨socket, bytes.length, .contents bytes, looked⟩ ∧
        looked ≤ bytes.length
  string :
    ∃ looked,
      readString socket stack (.data bytes) =
          ⟨socket, bytes.length, .contents bytes, looked⟩ ∧
        looked ≤ bytes.length

section Agreement

variable {socket : Socket}
variable {stack bytes : Bytes}

/-- The string overload stores what precedes the first NUL of the array. -/
theorem readString_open
    (isOpen : socket.isOpen = true)
    (stack bytes : Bytes) :
    readString socket stack (.data bytes) =
      ⟨socket, bytes.length,
        ofBuffer (bytes ++ stack.drop bytes.length),
        CString.looked (bytes ++ stack.drop bytes.length)⟩ := by
  simp [readString, isOpen, raw_buff_data]

/-- The string is the chunk exactly if a NUL happens to follow it. -/
theorem ofBuffer_eq_chunk :
    ofBuffer (bytes ++ stack.drop bytes.length) = .contents bytes ↔
      0 ∉ bytes ∧ stack[bytes.length]? = some 0 := by
  have stored :
      ofBuffer (bytes ++ stack.drop bytes.length) = .contents bytes ↔
        CString.ofArray (bytes ++ stack.drop bytes.length) =
          some bytes := by
    unfold ofBuffer
    cases CString.ofArray (bytes ++ stack.drop bytes.length) <;> simp
  rw [stored, CString.ofArray_eq_some]
  apply and_congr_right
  intro _
  simp only [List.append_cancel_left_eq]
  rw [← List.head?_drop]
  cases stack.drop bytes.length with
  | nil =>
      simp
  | cons byte rest =>
      simp

/-- A string that is the chunk was only found by looking behind the chunk. -/
theorem looked_behind
    (noNul : 0 ∉ bytes) :
    bytes.length < CString.looked (bytes ++ stack.drop bytes.length) := by
  rw [CString.looked, CString.takeWhile_append noNul, List.length_append]
  omega

/--
The two overloads never agree: a chunk with a NUL is cut, and for any other
chunk the string overload looks at cells behind it.  It stores the chunk
exactly if the chunk has no NUL and the stack had a NUL in the next cell.
-/
theorem overloads_never_agree
    (isOpen : socket.isOpen = true) :
    ¬ Agree socket stack bytes ∧
      ((readString socket stack (.data bytes)).stored = .contents bytes ↔
        0 ∉ bytes ∧ stack[bytes.length]? = some 0) := by
  rw [readString_open isOpen]
  constructor
  · rintro ⟨_, looked, result, within⟩
    rw [readString_open isOpen, Result.mk.injEq] at result
    obtain ⟨_, _, stored, rfl⟩ := result
    have noNul := (ofBuffer_eq_chunk.mp stored).1
    have behind := @looked_behind stack bytes noNul
    omega
  · exact ofBuffer_eq_chunk

end Agreement

/-- A chunk of one letter on a clean stack. -/
theorem overloads_never_agree_letter :
    ¬ Agree ⟨4, true⟩ (List.replicate MAX_BUFFER_SIZE 0) (ascii "a") ∧
      ((readString ⟨4, true⟩ (List.replicate MAX_BUFFER_SIZE 0)
            (.data (ascii "a"))).stored = .contents (ascii "a") ↔
        0 ∉ ascii "a" ∧
          (List.replicate MAX_BUFFER_SIZE (0 : UInt8))[1]? = some 0) :=
  overloads_never_agree rfl

/--
A chunk with a NUL is cut even on a clean stack, and on a stack without NUL
the string leaves the array.
-/
theorem string_overload_differs :
    (readString ⟨4, true⟩ (List.replicate MAX_BUFFER_SIZE 0)
        (.data [0x61, 0, 0x62])).stored = .contents [0x61] ∧
      (readString ⟨4, true⟩ (List.replicate MAX_BUFFER_SIZE 0x7D)
        (.data [0x61])).stored = .leavesBuffer ∧
      ¬ Agree ⟨4, true⟩ (List.replicate MAX_BUFFER_SIZE 0)
        [0x61, 0, 0x62] := by
  have cut :
      (readString ⟨4, true⟩ (List.replicate MAX_BUFFER_SIZE 0)
        (.data [0x61, 0, 0x62])).stored = .contents [0x61] := by
    decide +kernel
  refine ⟨cut, by decide +kernel, ?_⟩
  rintro ⟨_, looked, result, _⟩
  rw [result] at cut
  simp at cut

end SocketReads

end ChatRelay

import Mathlib.Data.List.Basic
import ChatRelay.FlexWaiter

namespace ChatRelay

/-!
# Lines from standard input

What `onSTDIN` is given over successive calls of `wait`, beside the lines of
the bytes that those calls have read.  Each read that stdin returns becomes one
call, so the two agree as long as every read returns one line.
-/

open JsonText (newline)

namespace FlexWaiter

/-- A call of `wait` with its arguments and what the system calls return. -/
structure WaitCall where
  waiter : FlexWaiter
  _killEventFD : Option Nat
  timeout : Int64
  kernel : SystemCalls

namespace WaitCall

def result (call : WaitCall) : WaitResult :=
  call.waiter.wait call._killEventFD call.timeout call.kernel

/-- The kill event is not stdin, and a read returns at most a full buffer. -/
structure Legal (call : WaitCall) : Prop where
  killEvent :
    FlexWaiter.killEvent call._killEventFD call.kernel.eventfd ≠
      some STDIN_FILENO
  readStdin :
    ∀ chunk,
      call.kernel.readStdin = some chunk →
      chunk.length ≤ BUFFER_SIZE

/-- The bytes that the call has read from stdin. -/
def stdinRead (call : WaitCall) : Option Bytes :=
  if STDIN_FILENO ∈ call.result.reads then
    call.kernel.readStdin
  else
    none

end WaitCall

/-- The argument of a call of `onSTDIN`. -/
def Handler.line? : Handler → Option (Option Bytes)
  | onSTDIN line =>
      some line
  | _ =>
      none

/-- The arguments of `onSTDIN` over successive calls of `wait`. -/
def onSTDINCalls (calls : List WaitCall) : List (Option Bytes) :=
  calls.flatMap fun call => call.result.calls.filterMap Handler.line?

/-- The reads of stdin over successive calls of `wait`. -/
def stdinReads (calls : List WaitCall) : List Bytes :=
  calls.filterMap WaitCall.stdinRead

/-- Every branch passes on what it reads from stdin, and nothing else. -/
theorem Dispatch.onSTDIN_eq
    {waiter : FlexWaiter}
    {killEventFD : Nat}
    {ready : List Nat}
    {kernel : SystemCalls}
    {result : WaitResult}
    (dispatch : Dispatch waiter killEventFD ready kernel result)
    (notStdin : STDIN_FILENO ≠ killEventFD) :
    result.calls.filterMap Handler.line? =
      ((if STDIN_FILENO ∈ result.reads then kernel.readStdin
        else none).map input).toList := by
  cases dispatch with
  | timedOut _ calls reads
  | killed _ calls reads
  | fallThrough _ _ _ _ calls reads
  | socketServer _ _ _ _ calls reads
  | socket _ _ _ _ _ _ calls reads =>
      simp [calls, reads, notStdin, Handler.line?]
  | stdinFailed _ _ failed calls reads =>
      simp [calls, reads, failed]
  | stdin chunk _ _ read calls reads =>
      simp [calls, reads, read, Handler.line?]

/-- A call of `wait` passes on what it reads from stdin, and nothing else. -/
theorem WaitCall.onSTDIN_eq
    {call : WaitCall}
    (legal : call.Legal) :
    call.result.calls.filterMap Handler.line? =
      (call.stdinRead.map input).toList := by
  cases event : FlexWaiter.killEvent call._killEventFD
      call.kernel.eventfd with
  | none =>
      simp [stdinRead, result, wait, event]
  | some killEventFD =>
      cases selected : call.kernel.select with
      | none =>
          simp [stdinRead, result, wait, event, selected]
      | some ready =>
          apply (dispatch_wait event call.timeout selected).onSTDIN_eq
          rintro rfl
          exact legal.killEvent event

/-- Over successive calls, `onSTDIN` is called once for each read. -/
theorem onSTDINCalls_eq
    {calls : List WaitCall}
    (legal : ∀ call ∈ calls, call.Legal) :
    onSTDINCalls calls = (stdinReads calls).map input := by
  induction calls with
  | nil =>
      rfl
  | cons call rest inductionHypothesis =>
      have restLegal : ∀ later ∈ rest, later.Legal :=
        fun later member => legal later (List.mem_cons_of_mem call member)
      have first := WaitCall.onSTDIN_eq (legal call List.mem_cons_self)
      have remaining := inductionHypothesis restLegal
      simp only [onSTDINCalls, stdinReads] at remaining
      simp only [onSTDINCalls, List.flatMap_cons, first, remaining,
        stdinReads]
      cases read : call.stdinRead <;> simp [read]

/-- Every read of stdin fits into the buffer. -/
theorem length_of_stdinReads
    {calls : List WaitCall}
    (legal : ∀ call ∈ calls, call.Legal)
    {chunk : Bytes}
    (isRead : chunk ∈ stdinReads calls) :
    chunk.length ≤ BUFFER_SIZE := by
  obtain ⟨call, member, read⟩ := List.mem_filterMap.mp isRead
  unfold WaitCall.stdinRead at read
  split at read
  · exact (legal call member).readStdin chunk read
  · cases read

/-! ## The string that is built from a read -/

/-- What follows the text of a read in the buffer: nothing, or a NUL. -/
def StopsAt (chunk tail : Bytes) : Prop :=
  tail = [] ∧ chunk.length < BUFFER_SIZE ∨ ∃ rest, tail = 0 :: rest

/-- A read that fits holds its text up to the first NUL of the buffer. -/
theorem ofArray_buffer
    {chunk text : Bytes}
    (fits : chunk.length ≤ BUFFER_SIZE) :
    CString.ofArray (buffer chunk) = some text ↔
      0 ∉ text ∧ ∃ tail, chunk = text ++ tail ∧ StopsAt chunk tail := by
  by_cases holdsNul : (0 : UInt8) ∈ chunk
  · obtain ⟨before, rest, rfl, noNul⟩ :=
      CString.terminated_of_mem holdsNul
    have found :
        CString.ofArray (buffer (before ++ 0 :: rest)) = some before := by
      simp only [buffer, List.append_assoc, List.cons_append]
      exact CString.ofArray_terminated noNul _
    rw [found, Option.some.injEq]
    constructor
    · rintro rfl
      exact ⟨noNul, 0 :: rest, rfl, .inr ⟨rest, rfl⟩⟩
    · rintro ⟨noNul', tail, shape, ⟨rfl, _⟩ | ⟨other, rfl⟩⟩
      · rw [List.append_nil] at shape
        exact (noNul' (shape ▸ holdsNul)).elim
      · have same := CString.ofArray_terminated noNul' other
        rw [← shape, CString.ofArray_terminated noNul,
          Option.some.injEq] at same
        exact same
  · rcases Nat.lt_or_eq_of_le fits with shorter | full
    · have zeros :
          List.replicate (BUFFER_SIZE - chunk.length) (0 : UInt8) =
            0 :: List.replicate (BUFFER_SIZE - chunk.length - 1) 0 := by
        rw [← List.replicate_succ]
        congr 1
        omega
      rw [buffer, zeros, CString.ofArray_terminated holdsNul,
        Option.some.injEq]
      constructor
      · rintro rfl
        exact ⟨holdsNul, [], (List.append_nil chunk).symm,
          .inl ⟨rfl, shorter⟩⟩
      · rintro ⟨_, tail, shape, ⟨rfl, _⟩ | ⟨other, rfl⟩⟩
        · rw [shape, List.append_nil]
        · rw [shape] at holdsNul
          simp at holdsNul
    · have noCell : buffer chunk = chunk := by
        rw [buffer, full, Nat.sub_self, List.replicate_zero,
          List.append_nil]
      rw [noCell, CString.ofArray_eq_none.mpr holdsNul]
      constructor
      · intro found
        cases found
      · rintro ⟨_, tail, shape, ⟨rfl, shorter⟩ | ⟨other, rfl⟩⟩
        · omega
        · rw [shape] at holdsNul
          simp at holdsNul

/-- Erasing a newline gives back a line, or removes its newline. -/
theorem eraseNewline_eq
    {text line : Bytes}
    (noNewline : newline ∉ line) :
    eraseNewline text = line ↔
      text = line ∨ text = line ++ [newline] := by
  unfold eraseNewline
  constructor
  · split
    case isTrue endsLine =>
      rintro rfl
      exact .inr (List.dropLast_append_getLast? newline endsLine).symm
    case isFalse =>
      exact .inl
  · rintro (rfl | rfl)
    · have notLast : text.getLast? ≠ some newline := by
        intro endsLine
        exact noNewline (List.mem_of_getLast? endsLine)
      rw [if_neg notLast]
    · simp

/-- The reads that become a given line. -/
theorem input_eq_some
    {chunk line : Bytes}
    (fits : chunk.length ≤ BUFFER_SIZE)
    (noNewline : newline ∉ line) :
    input chunk = some line ↔
      0 ∉ line ∧
        ∃ tail,
          (chunk = line ++ tail ∨ chunk = line ++ newline :: tail) ∧
            StopsAt chunk tail := by
  simp only [input, Option.map_eq_some_iff, ofArray_buffer fits,
    eraseNewline_eq noNewline]
  constructor
  · rintro ⟨text, ⟨noNul, tail, shape, stops⟩, rfl | rfl⟩
    · exact ⟨noNul, tail, .inl shape, stops⟩
    · have noNul' : 0 ∉ line := by
        intro member
        exact noNul (List.mem_append_left [newline] member)
      rw [List.append_assoc] at shape
      exact ⟨noNul', tail, .inr shape, stops⟩
  · rintro ⟨noNul, tail, shape | shape, stops⟩
    · exact ⟨line, ⟨noNul, tail, shape, stops⟩, .inl rfl⟩
    · refine ⟨line ++ [newline], ⟨?_, tail, ?_, stops⟩, .inr rfl⟩
      · intro member
        rcases List.mem_append.mp member with inLine | isNewline
        · exact noNul inLine
        · revert isNewline
          decide
      · rw [shape, List.append_assoc]
        rfl

/-! ## Reads and lines -/

/-- A read that returns one line with its newline and nothing else. -/
def IsOneLine (chunk : Bytes) : Prop :=
  ∃ text,
    chunk = text ++ [newline] ∧
      newline ∉ text ∧ 0 ∉ text ∧ chunk.length < BUFFER_SIZE

/-- A read with a line, a NUL after it and no second newline. -/
def IsLineThenNul (chunk : Bytes) : Prop :=
  ∃ text rest,
    chunk = text ++ newline :: 0 :: rest ∧
      newline ∉ text ∧ 0 ∉ text ∧ newline ∉ rest

/-- Every read is a line; bytes may follow the NUL after the last one. -/
def OneLinePerRead : List Bytes → Prop
  | [] =>
      True
  | chunk :: rest =>
      IsOneLine chunk ∧ OneLinePerRead rest ∨
        IsLineThenNul chunk ∧ rest = []

/-- The lines of the bytes that were read are what is passed on. -/
def PassesLines (chunks : List Bytes) : Prop :=
  chunks.map input =
    (TextLines.complete newline chunks.flatten).map some

/-- Before a newline there is nothing of a text without newline. -/
theorem eq_nil_of_newline
    {line rest after : Bytes}
    (noNewline : newline ∉ line)
    (stream : line ++ rest = newline :: after) :
    line = [] := by
  cases line with
  | nil =>
      rfl
  | cons byte line =>
      have isNewline := (List.cons.inj stream).1
      exact (noNewline (isNewline ▸ List.mem_cons_self)).elim

/-- A text without NUL does not begin with NUL. -/
theorem nul_ne_line
    {line rest after : Bytes}
    (noNul : 0 ∉ line)
    (shape : 0 :: rest = line ++ newline :: after) :
    False := by
  have member : (0 : UInt8) ∈ line ++ newline :: after :=
    shape ▸ List.mem_cons_self
  cases line with
  | nil =>
      have first := (List.cons.inj shape).1
      revert first
      decide
  | cons byte line =>
      have first := (List.cons.inj shape).1
      exact noNul (first ▸ List.mem_cons_self)

/-- The read that was passed on first, given the lines that follow it. -/
theorem passesLines_cons
    {chunk : Bytes}
    {rest lines : List Bytes}
    (passed : (chunk :: rest).map input = lines.map some) :
    ∃ line remaining,
      lines = line :: remaining ∧
        input chunk = some line ∧
          rest.map input = remaining.map some := by
  cases lines with
  | nil =>
      cases passed
  | cons line remaining =>
      obtain ⟨first, others⟩ := List.cons.inj passed
      exact ⟨line, remaining, rfl, first, others⟩

/--
Once a line has been passed on before its newline was read, the calls stay
ahead of the lines: every further read that begins with the newline is passed
on as an empty line.
-/
theorem never_catches_up
    {chunks : List Bytes}
    (fits : ∀ chunk ∈ chunks, chunk.length ≤ BUFFER_SIZE)
    {ahead : Nat}
    {lines : List Bytes}
    (behind :
      TextLines.complete newline chunks.flatten =
        List.replicate (ahead + 1) [] ++ lines)
    (passed : chunks.map input = lines.map some) :
    False := by
  induction chunks generalizing ahead lines with
  | nil =>
      cases behind
  | cons chunk rest inductionHypothesis =>
      have restFits : ∀ later ∈ rest, later.length ≤ BUFFER_SIZE :=
        fun later member => fits later (List.mem_cons_of_mem chunk member)
      obtain ⟨line, remaining, rfl, first, others⟩ :=
        passesLines_cons passed
      have noNewline : newline ∉ line :=
        TextLines.not_mem_of_complete behind (by simp)
      have shiftEmpty :
          List.replicate ahead [] ++ [] :: remaining =
            List.replicate (ahead + 1) ([] : Bytes) ++ remaining := by
        rw [List.replicate_succ', List.append_assoc]
        rfl
      obtain ⟨noNul, tail, shape, stops⟩ :=
        (input_eq_some (fits chunk List.mem_cons_self) noNewline).mp first
      rw [List.flatten_cons] at behind
      obtain ⟨after, stream, _, following⟩ :=
        TextLines.complete_eq_cons behind
      rw [List.nil_append] at stream
      rcases shape with rfl | rfl
      all_goals
        rw [List.append_assoc] at stream
        obtain rfl := eq_nil_of_newline noNewline stream
        rw [List.nil_append] at stream
      · -- The read is a text without newline, so it is empty.
        rcases stops with ⟨rfl, _⟩ | ⟨other, rfl⟩
        · refine @inductionHypothesis restFits (ahead + 1) remaining
            ?_ others
          rw [List.nil_append, List.nil_append] at behind
          rw [behind, List.replicate_succ' (n := ahead + 1),
            List.append_assoc]
          rfl
        · exact nul_ne_line List.not_mem_nil stream
      · -- The read is a newline that ends the line before.
        have sameRest : tail ++ rest.flatten = after :=
          (List.cons.inj stream).2
        have further :
            TextLines.complete newline (tail ++ rest.flatten) =
              List.replicate (ahead + 1) [] ++ remaining := by
          rw [sameRest, ← shiftEmpty]
          exact following
        rcases stops with ⟨rfl, _⟩ | ⟨other, rfl⟩
        · exact inductionHypothesis restFits further others
        · obtain ⟨_, beginning, _⟩ :=
            TextLines.complete_eq_cons further
          exact nul_ne_line List.not_mem_nil beginning

/-- The first read, if it is passed on as the first line. -/
theorem first_read
    {chunk line after : Bytes}
    {rest lines : List Bytes}
    (fits : ∀ read ∈ chunk :: rest, read.length ≤ BUFFER_SIZE)
    (passed : input chunk = some line)
    (noNewline : newline ∉ line)
    (stream : (chunk :: rest).flatten = line ++ newline :: after)
    (following : TextLines.complete newline after = lines)
    (others : rest.map input = lines.map some) :
    0 ∉ line ∧
      ∃ tail,
        chunk = line ++ newline :: tail ∧
          after = tail ++ rest.flatten ∧ StopsAt chunk tail := by
  obtain ⟨noNul, tail, shape, stops⟩ :=
    (input_eq_some (fits chunk List.mem_cons_self) noNewline).mp passed
  refine ⟨noNul, tail, ?_⟩
  rw [List.flatten_cons] at stream
  rcases shape with rfl | rfl
  · -- The newline of the line would still have to be read.
    rw [List.append_assoc, List.append_cancel_left_eq] at stream
    rcases stops with ⟨rfl, _⟩ | ⟨other, rfl⟩
    · rw [List.nil_append] at stream
      have behind :
          TextLines.complete newline rest.flatten =
            List.replicate (0 + 1) [] ++ lines := by
        rw [stream, ← following]
        exact TextLines.complete_line List.not_mem_nil after
      have restFits : ∀ read ∈ rest, read.length ≤ BUFFER_SIZE :=
        fun read member => fits read (List.mem_cons_of_mem _ member)
      exact (never_catches_up restFits behind others).elim
    · exact (nul_ne_line List.not_mem_nil stream).elim
  · rw [List.append_assoc, List.append_cancel_left_eq,
      List.cons_append, List.cons.injEq] at stream
    exact ⟨rfl, stream.2.symm, stops⟩

/-- Nothing but bytes without newline can follow a NUL that was read. -/
theorem last_read
    {other : Bytes}
    {rest lines : List Bytes}
    (fits : ∀ read ∈ rest, read.length ≤ BUFFER_SIZE)
    (following :
      TextLines.complete newline (0 :: other ++ rest.flatten) = lines)
    (others : rest.map input = lines.map some) :
    newline ∉ other ∧ rest = [] := by
  cases rest with
  | nil =>
      refine ⟨?_, rfl⟩
      intro member
      obtain rfl : lines = [] := List.map_eq_nil_iff.mp others.symm
      obtain ⟨before, last, shape, noEarlier⟩ :=
        List.eq_append_cons_of_mem (List.mem_cons_of_mem (0 : UInt8) member)
      rw [List.flatten_nil, List.append_nil, shape,
        TextLines.complete_line noEarlier] at following
      cases following
  | cons next rest =>
      obtain ⟨line, _, rfl, passed, _⟩ := passesLines_cons others
      obtain ⟨_, beginning, noNewline, _⟩ :=
        TextLines.complete_eq_cons following
      obtain ⟨noNul, _⟩ :=
        (input_eq_some (fits next List.mem_cons_self) noNewline).mp passed
      exact (nul_ne_line noNul beginning).elim

/-- If the lines are passed on, every read is one line. -/
theorem PassesLines.oneLinePerRead
    {chunks : List Bytes}
    (fits : ∀ chunk ∈ chunks, chunk.length ≤ BUFFER_SIZE)
    (passes : PassesLines chunks) :
    OneLinePerRead chunks := by
  induction chunks with
  | nil =>
      trivial
  | cons chunk rest inductionHypothesis =>
      have restFits : ∀ later ∈ rest, later.length ≤ BUFFER_SIZE :=
        fun later member => fits later (List.mem_cons_of_mem chunk member)
      obtain ⟨line, remaining, lines, passed, others⟩ :=
        passesLines_cons passes
      obtain ⟨after, stream, noNewline, following⟩ :=
        TextLines.complete_eq_cons lines
      obtain ⟨noNul, tail, rfl, rfl, stops⟩ :=
        first_read fits passed noNewline stream following others
      rcases stops with ⟨rfl, shorter⟩ | ⟨other, rfl⟩
      · have restPasses : PassesLines rest := by
          rw [List.nil_append] at following
          rw [PassesLines, following, others]
        exact .inl ⟨⟨line, rfl, noNewline, noNul, shorter⟩,
          inductionHypothesis restFits restPasses⟩
      · obtain ⟨noMore, isLast⟩ := last_read restFits following others
        exact .inr ⟨⟨line, other, rfl, noNewline, noNul, noMore⟩, isLast⟩

/-- If every read is one line, the lines are passed on. -/
theorem OneLinePerRead.passesLines
    {chunks : List Bytes}
    (fits : ∀ chunk ∈ chunks, chunk.length ≤ BUFFER_SIZE)
    (oneLine : OneLinePerRead chunks) :
    PassesLines chunks := by
  induction chunks with
  | nil =>
      rfl
  | cons chunk rest inductionHypothesis =>
      have chunkFits : chunk.length ≤ BUFFER_SIZE :=
        fits chunk List.mem_cons_self
      have restFits : ∀ later ∈ rest, later.length ≤ BUFFER_SIZE :=
        fun later member => fits later (List.mem_cons_of_mem chunk member)
      rcases oneLine with
        ⟨⟨text, rfl, noNewline, noNul, shorter⟩, restGood⟩ |
          ⟨⟨text, other, rfl, noNewline, noNul, noMore⟩, rfl⟩
      · have first : input (text ++ [newline]) = some text :=
          (input_eq_some chunkFits noNewline).mpr
            ⟨noNul, [], .inr rfl, .inl ⟨rfl, shorter⟩⟩
        simp only [PassesLines, List.map_cons, List.flatten_cons,
          List.append_assoc, List.singleton_append,
          TextLines.complete_line noNewline, first]
        exact congrArg (some text :: ·)
          (inductionHypothesis restFits restGood)
      · have first : input (text ++ newline :: 0 :: other) = some text :=
          (input_eq_some chunkFits noNewline).mpr
            ⟨noNul, 0 :: other, .inr rfl, .inr ⟨other, rfl⟩⟩
        have noLine : newline ∉ (0 : UInt8) :: other := by
          intro member
          rcases List.mem_cons.mp member with isNul | later
          · revert isNul
            decide
          · exact noMore later
        simp only [PassesLines, List.map_cons, List.map_nil,
          List.flatten_cons, List.flatten_nil, List.append_nil,
          TextLines.complete_line noNewline,
          TextLines.complete_eq_nil noLine, first]

/-! ## Runs of waits -/

/--
Over successive calls of `wait`, `onSTDIN` is given the lines that were read,
the line `exit` stops the server, and no string leaves the buffer.
-/
structure DeliversLines (calls : List WaitCall) : Prop where
  lines :
    onSTDINCalls calls =
      (TextLines.complete newline (stdinReads calls).flatten).map some
  exits :
    ascii "exit" ∈
        TextLines.complete newline (stdinReads calls).flatten →
      ∃ line,
        some line ∈ onSTDINCalls calls ∧ line = ascii "exit" ∧
          ∀ state : Server, (state.dispatch (.stdin line)).killed = true
  inBuffer :
    ∀ chunk ∈ stdinReads calls,
      CString.looked (buffer chunk) ≤ BUFFER_SIZE

/-- A string that is built has its end in the buffer. -/
theorem looked_of_input
    {chunk line : Bytes}
    (fits : chunk.length ≤ BUFFER_SIZE)
    (built : input chunk = some line) :
    CString.looked (buffer chunk) ≤ BUFFER_SIZE := by
  have holdsNul : (0 : UInt8) ∈ buffer chunk := by
    by_contra noNul
    rw [input, CString.ofArray_eq_none.mpr noNul] at built
    cases built
  have size : (buffer chunk).length = BUFFER_SIZE := by
    rw [buffer, List.length_append, List.length_replicate]
    omega
  exact size ▸ CString.looked_le_length holdsNul

/--
Standard input is delivered line by line exactly if every read returns one
line of at most 1023 bytes without NUL; only the last may go on after its line
with a NUL and bytes without newline.
-/
theorem deliversLines_iff
    {calls : List WaitCall}
    (legal : ∀ call ∈ calls, call.Legal) :
    DeliversLines calls ↔ OneLinePerRead (stdinReads calls) := by
  have fits :
      ∀ chunk ∈ stdinReads calls, chunk.length ≤ BUFFER_SIZE :=
    fun chunk isRead => length_of_stdinReads legal isRead
  have given : onSTDINCalls calls = (stdinReads calls).map input :=
    onSTDINCalls_eq legal
  constructor
  · intro delivers
    apply PassesLines.oneLinePerRead fits
    rw [PassesLines, ← given]
    exact delivers.lines
  · intro oneLine
    have passes : PassesLines (stdinReads calls) :=
      oneLine.passesLines fits
    have lines := given.trans passes
    refine ⟨lines, ?_, ?_⟩
    · intro member
      refine ⟨ascii "exit", ?_, rfl, ?_⟩
      · rw [lines]
        exact List.mem_map_of_mem (f := some) member
      · intro state
        simp [Server.dispatch]
    · intro chunk isRead
      have passed : input chunk ∈ (stdinReads calls).map input :=
        List.mem_map_of_mem (f := input) isRead
      rw [passes] at passed
      obtain ⟨line, _, built⟩ := List.mem_map.mp passed
      exact looked_of_input (fits chunk isRead) built.symm

/-- A waiter without sockets that is told that stdin is ready. -/
def stdinCall (chunk : Bytes) : WaitCall where
  waiter := ⟨none, []⟩
  _killEventFD := some 3
  timeout := millisecondsMin
  kernel := ⟨none, some [STDIN_FILENO], 8, some chunk⟩

theorem stdinCalls_legal
    {chunks : List Bytes}
    (fits : ∀ chunk ∈ chunks, chunk.length ≤ BUFFER_SIZE) :
    ∀ call ∈ chunks.map stdinCall, call.Legal := by
  intro call member
  obtain ⟨chunk, inChunks, rfl⟩ := List.mem_map.mp member
  refine ⟨by simp [stdinCall, killEvent, STDIN_FILENO], ?_⟩
  intro read isRead
  cases isRead
  exact fits chunk inChunks

/-- Lines that come one by one are delivered, an empty one too. -/
theorem deliversLines_iff_exit :
    let chunks := [ascii "who\n", ascii "\n", ascii "exit\n"]
    onSTDINCalls (chunks.map stdinCall) =
        [some (ascii "who"), some [], some (ascii "exit")] ∧
      DeliversLines (chunks.map stdinCall) := by
  intro chunks
  refine ⟨by decide +kernel, ?_⟩
  have legal : ∀ call ∈ chunks.map stdinCall, call.Legal :=
    stdinCalls_legal (by decide)
  refine (deliversLines_iff legal).mpr ?_
  have read : stdinReads (chunks.map stdinCall) = chunks := by
    decide +kernel
  rw [read]
  exact
    Or.inl ⟨⟨ascii "who", by decide⟩,
      Or.inl ⟨⟨[], by decide⟩,
        Or.inl ⟨⟨ascii "exit", by decide⟩, trivial⟩⟩⟩

/-- Two lines in one read are merged, and the end of the input is a line. -/
theorem lines_merged_and_invented :
    ((∀ call ∈ [stdinCall (ascii "a\nexit\n")], call.Legal) ∧
        ¬ DeliversLines [stdinCall (ascii "a\nexit\n")]) ∧
      (∀ call ∈ [stdinCall []], call.Legal) ∧
        ¬ DeliversLines [stdinCall []] := by
  refine ⟨⟨@stdinCalls_legal [ascii "a\nexit\n"] (by decide), ?_⟩,
    @stdinCalls_legal [[]] (by decide), ?_⟩
  · intro delivers
    have sameLength := congrArg List.length delivers.lines
    revert sameLength
    decide +kernel
  · intro delivers
    have sameLength := congrArg List.length delivers.lines
    revert sameLength
    decide +kernel

end FlexWaiter

end ChatRelay

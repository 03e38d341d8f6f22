import Oscpack.Message

/-!
# The argument stream

`ReceivedMessageArgumentStream` reads a message's arguments the way an input
stream reads words: `stream >> i >> f >> s >> MessageTerminator()` takes an
`int32`, a `float` and a string, and insists there is nothing more. Its whole
state is two iterators, and every typed `operator>>` has one body,
`rhs = (*p_++).AsT()`: test for the end, step the cursor, then decode with
the *checked* accessor.

The post-increment fixes what a failure leaves behind. `p_++` has moved the
cursor before `AsT()` throws, so an argument of the wrong type is consumed
although nothing was stored – the stream is still usable, one argument
further on. `StreamOp.cursorRun` is what the stream is for, with no
iterators in it: a cursor `j` over the argument positions `0 … N`. An
extraction at `j < N` moves it on, and stores the decoded argument if the
target accepts its tag or raises `WrongArgumentTypeException` if not; one at
`j = N` raises `MissingArgumentException`; `MessageTerminator()` raises
`ExcessArgumentException` unless `j = N`.
`ReceivedMessageArgumentStream.run_eq_cursorRun` proves that the stream is
that cursor, for every message and every sequence of operations.
-/

namespace Oscpack

/-- A `ReceivedMessageArgumentStream`: the cursor `p_` and the end `end_`. -/
structure ReceivedMessageArgumentStream where
  /-- `p_`: the argument the next `operator>>` reads. -/
  p_ : ReceivedMessageArgumentIterator
  /-- `end_`: the iterator past the last argument, `ArgumentsEnd()`. -/
  end_ : ReceivedMessageArgumentIterator
  deriving DecidableEq, Repr

/-- `ReceivedMessage::ArgumentStream()`: from `ArgumentsBegin()` to
`ArgumentsEnd()`. -/
def ReceivedMessage.argumentStream (m : ReceivedMessage) : ReceivedMessageArgumentStream :=
  ⟨m.argumentsBegin, m.argumentsEnd⟩

/-! ## The twelve extractable types -/

/-- The types `operator>>` extracts into. -/
inductive StreamTarget where
  | bool | int32 | float | char | rgbaColor | midiMessage | int64 | timeTag | double
  | blob | string | symbol
  deriving DecidableEq, Repr

namespace StreamTarget

/-- The value a target holds: `RgbaColor`, `MidiMessage`, `TimeTag` and
`Symbol` are wrappers around their `value`, a `float` or `double` is its bits,
a string or symbol a pointer into the buffer, a `Blob` its data pointer and
size. -/
def Value : StreamTarget → Type
  | .bool => Bool
  | .int32 | .int64 => Int
  | .float | .rgbaColor | .midiMessage | .timeTag | .double => Nat
  | .char => UInt8
  | .blob => Int × Nat
  | .string | .symbol => Int

/-- The checked accessor `operator>>` of a target calls. -/
def as (buf : List UInt8) (a : ReceivedMessageArgument) : (t : StreamTarget) → Except OscException t.Value
  | .bool => a.asBool buf
  | .int32 => a.asInt32 buf
  | .float => a.asFloat buf
  | .char => a.asChar buf
  | .rgbaColor => a.asRgbaColor buf
  | .midiMessage => a.asMidiMessage buf
  | .int64 => a.asInt64 buf
  | .timeTag => a.asTimeTag buf
  | .double => a.asDouble buf
  | .blob => a.asBlob buf
  | .string => a.asString buf
  | .symbol => a.asSymbol buf

/-- The tags a target's checked accessor accepts: both booleans for `bool`,
its own tag for every other target. -/
def accepts (tag : UInt8) : StreamTarget → Bool
  | .bool => tag == TRUE_TYPE_TAG || tag == FALSE_TYPE_TAG
  | .int32 => tag == INT32_TYPE_TAG
  | .float => tag == FLOAT_TYPE_TAG
  | .char => tag == CHAR_TYPE_TAG
  | .rgbaColor => tag == RGBA_COLOR_TYPE_TAG
  | .midiMessage => tag == MIDI_MESSAGE_TYPE_TAG
  | .int64 => tag == INT64_TYPE_TAG
  | .timeTag => tag == TIME_TAG_TYPE_TAG
  | .double => tag == DOUBLE_TYPE_TAG
  | .blob => tag == BLOB_TYPE_TAG
  | .string => tag == STRING_TYPE_TAG
  | .symbol => tag == SYMBOL_TYPE_TAG

/-- The value an argument decodes to as a target, whatever its tag: the
unchecked accessor. -/
def decode (buf : List UInt8) (a : ReceivedMessageArgument) : (t : StreamTarget) → t.Value
  | .bool => a.asBoolUnchecked buf
  | .int32 => a.asInt32Unchecked buf
  | .float => a.asFloatUnchecked buf
  | .char => a.asCharUnchecked buf
  | .rgbaColor => a.asRgbaColorUnchecked buf
  | .midiMessage => a.asMidiMessageUnchecked buf
  | .int64 => a.asInt64Unchecked buf
  | .timeTag => a.asTimeTagUnchecked buf
  | .double => a.asDoubleUnchecked buf
  | .blob => a.asBlobUnchecked buf
  | .string => a.asStringUnchecked
  | .symbol => a.asSymbolUnchecked

/-- **The checked accessor of a target** decodes an argument whose tag it
accepts, and raises `WrongArgumentTypeException` on any other. -/
theorem as_eq (buf : List UInt8) (a : ReceivedMessageArgument) (t : StreamTarget) :
    as buf a t = if t.accepts (a.typeTag buf) then .ok (t.decode buf a)
      else .error WrongArgumentTypeException := by
  cases t <;> rfl

end StreamTarget

/-! ## The stream operators -/

namespace ReceivedMessageArgumentStream

variable (buf : List UInt8)

/-- `Eos()`: `p_ == end_`. -/
def eos (s : ReceivedMessageArgumentStream) : Bool := s.p_.isEqualTo s.end_

/-- The body every typed `operator>>` shares, for the checked accessor `as`:
raise `MissingArgumentException` at the end of the stream; otherwise
`rhs = (*p_++).As()`, where the cursor moves before the accessor can throw.
It gives the stream, the target and the exception raised, if any, after the
call. -/
def extract {α : Type} (as : ReceivedMessageArgument → Except OscException α)
    (s : ReceivedMessageArgumentStream) (rhs : α) :
    ReceivedMessageArgumentStream × α × Option OscException :=
  if s.eos then (s, rhs, some MissingArgumentException)
  else
    let s' := { s with p_ := s.p_.advance buf }
    match as s.p_.value_ with
    | .ok v => (s', v, none)
    | .error e => (s', rhs, some e)

/-- `operator>>( bool& )`: `rhs = (*p_++).AsBool()`. -/
def extractBool := extract buf (StreamTarget.as buf · .bool)
/-- `operator>>( int32& )`: `rhs = (*p_++).AsInt32()`. -/
def extractInt32 := extract buf (StreamTarget.as buf · .int32)
/-- `operator>>( float& )`: `rhs = (*p_++).AsFloat()`. -/
def extractFloat := extract buf (StreamTarget.as buf · .float)
/-- `operator>>( char& )`: `rhs = (*p_++).AsChar()`. -/
def extractChar := extract buf (StreamTarget.as buf · .char)
/-- `operator>>( RgbaColor& )`: `rhs.value = (*p_++).AsRgbaColor()`. -/
def extractRgbaColor := extract buf (StreamTarget.as buf · .rgbaColor)
/-- `operator>>( MidiMessage& )`: `rhs.value = (*p_++).AsMidiMessage()`. -/
def extractMidiMessage := extract buf (StreamTarget.as buf · .midiMessage)
/-- `operator>>( int64& )`: `rhs = (*p_++).AsInt64()`. -/
def extractInt64 := extract buf (StreamTarget.as buf · .int64)
/-- `operator>>( TimeTag& )`: `rhs.value = (*p_++).AsTimeTag()`. -/
def extractTimeTag := extract buf (StreamTarget.as buf · .timeTag)
/-- `operator>>( double& )`: `rhs = (*p_++).AsDouble()`. -/
def extractDouble := extract buf (StreamTarget.as buf · .double)
/-- `operator>>( Blob& )`: `(*p_++).AsBlob( rhs.data, rhs.size )`. -/
def extractBlob := extract buf (StreamTarget.as buf · .blob)
/-- `operator>>( const char*& )`: `rhs = (*p_++).AsString()`. -/
def extractString := extract buf (StreamTarget.as buf · .string)
/-- `operator>>( Symbol& )`: `rhs.value = (*p_++).AsSymbol()`. -/
def extractSymbol := extract buf (StreamTarget.as buf · .symbol)

/-- `operator>>( MessageTerminator& )`: raises `ExcessArgumentException` unless
the stream is at its end, and never moves. -/
def extractMessageTerminator (s : ReceivedMessageArgumentStream) :
    ReceivedMessageArgumentStream × Option OscException :=
  if !s.eos then (s, some ExcessArgumentException) else (s, none)

end ReceivedMessageArgumentStream

/-! ## Sequences of operations -/

/-- One `operator>>`: into a target of one of the twelve types, holding `rhs`
before the call, or into `MessageTerminator`. -/
inductive StreamOp where
  | extract (t : StreamTarget) (rhs : t.Value)
  | messageTerminator

/-- What one operation gives back: the target after the call, if it has one,
and the exception raised, if any. -/
structure StreamOutcome where
  /-- The target and its value after the call. -/
  target : Option (Σ t : StreamTarget, t.Value)
  /-- The exception the call raised. -/
  raised : Option OscException

namespace StreamOp

variable (buf : List UInt8)

/-- One operation on the stream. -/
def apply (s : ReceivedMessageArgumentStream) :
    StreamOp → ReceivedMessageArgumentStream × StreamOutcome
  | .extract t rhs =>
    let r := s.extract buf (StreamTarget.as buf · t) rhs
    (r.1, ⟨some ⟨t, r.2.1⟩, r.2.2⟩)
  | .messageTerminator =>
    let r := s.extractMessageTerminator
    (r.1, ⟨none, r.2⟩)

/-- A sequence of operations on the stream, the stream kept after a failed
one as a caller that catches the exception keeps it. -/
def run : ReceivedMessageArgumentStream → List StreamOp →
    ReceivedMessageArgumentStream × List StreamOutcome
  | s, [] => (s, [])
  | s, op :: ops =>
    let r := op.apply buf s
    let r' := run r.1 ops
    (r'.1, r.2 :: r'.2)

/-- **One operation on a cursor `j` over the arguments `args`**, as the stream
is meant to behave. Past the last argument an extraction raises
`MissingArgumentException` and changes nothing. Before it, the extraction
consumes `args[j]` either way: it stores the decoded value if the target's
accessor accepts the tag, and otherwise raises `WrongArgumentTypeException`
and keeps the target. `MessageTerminator` passes at the end only, and never
moves the cursor. -/
def onCursor (args : List ReceivedMessageArgument) (j : Nat) : StreamOp → Nat × StreamOutcome
  | .extract t rhs =>
    if h : j < args.length then
      if t.accepts (args[j].typeTag buf) then (j + 1, ⟨some ⟨t, t.decode buf args[j]⟩, none⟩)
      else (j + 1, ⟨some ⟨t, rhs⟩, some WrongArgumentTypeException⟩)
    else (j, ⟨some ⟨t, rhs⟩, some MissingArgumentException⟩)
  | .messageTerminator =>
    if j = args.length then (j, ⟨none, none⟩) else (j, ⟨none, some ExcessArgumentException⟩)

/-- A sequence of operations on the cursor. -/
def cursorRun (args : List ReceivedMessageArgument) : Nat → List StreamOp →
    Nat × List StreamOutcome
  | j, [] => (j, [])
  | j, op :: ops =>
    let r := op.onCursor buf args j
    let r' := cursorRun args r.1 ops
    (r'.1, r.2 :: r'.2)

/-- The cursor never passes the last argument. -/
theorem onCursor_le (args : List ReceivedMessageArgument) (j : Nat) (op : StreamOp)
    (hj : j ≤ args.length) : (op.onCursor buf args j).1 ≤ args.length := by
  cases op with
  | extract t rhs =>
    simp only [onCursor]
    split
    · split <;> omega
    · exact hj
  | messageTerminator => simp only [onCursor]; split <;> exact hj

end StreamOp

namespace ReceivedMessage

variable (buf : List UInt8) (m : ReceivedMessage)

/-- The stream whose cursor stands `j` arguments past `ArgumentsBegin()`. -/
def streamAt (j : Nat) : ReceivedMessageArgumentStream := ⟨m.iterAt buf j, m.argumentsEnd⟩

/-- **`Eos()` holds exactly at the last argument.** -/
theorem eos_streamAt {j : Nat} (hj : j ≤ m.argumentCount) :
    (m.streamAt buf j).eos = true ↔ j = m.argumentCount :=
  m.iterAt_isEqualTo_argumentsEnd buf hj

/-- **One operation on the stream is one operation on the cursor.** -/
theorem apply_streamAt {j : Nat} (op : StreamOp) (hj : j ≤ m.argumentCount) :
    op.apply buf (m.streamAt buf j) =
      (m.streamAt buf (op.onCursor buf (m.arguments buf) j).1,
        (op.onCursor buf (m.arguments buf) j).2) := by
  have heos := m.eos_streamAt buf hj
  cases op with
  | extract t rhs =>
    by_cases hlt : j < m.argumentCount
    · have hlt' : j < (m.arguments buf).length := by simpa using hlt
      have hnot : ¬ (m.streamAt buf j).eos = true := fun h => Nat.ne_of_lt hlt (heos.1 h)
      have hnext : { m.streamAt buf j with p_ := (m.streamAt buf j).p_.advance buf } =
          m.streamAt buf (j + 1) := by
        simp only [streamAt, iterAt, Function.iterate_succ_apply']
      have harg : (m.streamAt buf j).p_.value_ = (m.arguments buf)[j] :=
        (m.getElem_arguments buf hlt').symm
      simp only [StreamOp.apply, ReceivedMessageArgumentStream.extract, if_neg hnot, harg,
        StreamTarget.as_eq, StreamOp.onCursor, dif_pos hlt']
      cases t.accepts ((m.arguments buf)[j].typeTag buf) <;> simp [hnext]
    · have hyes : (m.streamAt buf j).eos = true := heos.2 (by omega)
      simp [StreamOp.apply, ReceivedMessageArgumentStream.extract, hyes, StreamOp.onCursor, hlt]
  | messageTerminator =>
    simp only [StreamOp.apply, ReceivedMessageArgumentStream.extractMessageTerminator,
      StreamOp.onCursor, length_arguments]
    cases he : (m.streamAt buf j).eos
    · have hne : j ≠ m.argumentCount := fun h => by rw [heos.2 h] at he; cases he
      simp [hne]
    · simp [heos.1 he]

/-- **Every sequence of operations on the stream is the same sequence on the
cursor**, from any position of the cursor. -/
theorem run_streamAt {j : Nat} (ops : List StreamOp) (hj : j ≤ m.argumentCount) :
    StreamOp.run buf (m.streamAt buf j) ops =
      (m.streamAt buf (StreamOp.cursorRun buf (m.arguments buf) j ops).1,
        (StreamOp.cursorRun buf (m.arguments buf) j ops).2) ∧
    (StreamOp.cursorRun buf (m.arguments buf) j ops).1 ≤ m.argumentCount := by
  induction ops generalizing j with
  | nil => exact ⟨rfl, hj⟩
  | cons op ops ih =>
    have hle : (op.onCursor buf (m.arguments buf) j).1 ≤ m.argumentCount := by
      simpa using StreamOp.onCursor_le buf (m.arguments buf) j op (by simpa using hj)
    obtain ⟨h1, h2⟩ := ih hle
    simp only [StreamOp.run, StreamOp.cursorRun, m.apply_streamAt buf op hj, h1]
    exact ⟨trivial, h2⟩

end ReceivedMessage

/-- **The argument stream is a cursor over the arguments.** For every message,
the iterator visits its `N = ArgumentCount()` arguments and meets
`ArgumentsEnd()` after exactly `N` steps; and any sequence of `operator>>`
calls on `ArgumentStream()` – typed extractions and `MessageTerminator`, a
failed call's stream kept for the next – gives the outcomes of the same
sequence on a cursor `j` over `0 … N` started at 0, leaves the stream at that
cursor's position, and `Eos()` there holds iff `j = N`. -/
theorem ReceivedMessageArgumentStream.run_eq_cursorRun (buf : List UInt8) (m : ReceivedMessage)
    (ops : List StreamOp) :
    (∀ j ≤ m.argumentCount, (m.iterAt buf j).isEqualTo m.argumentsEnd = true ↔ j = m.argumentCount) ∧
    StreamOp.run buf m.argumentStream ops =
      (m.streamAt buf (StreamOp.cursorRun buf (m.arguments buf) 0 ops).1,
        (StreamOp.cursorRun buf (m.arguments buf) 0 ops).2) ∧
    (StreamOp.cursorRun buf (m.arguments buf) 0 ops).1 ≤ m.argumentCount ∧
    ((m.streamAt buf (StreamOp.cursorRun buf (m.arguments buf) 0 ops).1).eos = true ↔
      (StreamOp.cursorRun buf (m.arguments buf) 0 ops).1 = m.argumentCount) := by
  obtain ⟨hrun, hle⟩ := m.run_streamAt buf ops (Nat.zero_le _)
  exact ⟨fun j hj => m.iterAt_isEqualTo_argumentsEnd buf hj, hrun, hle, m.eos_streamAt buf hle⟩

/-- The spec's message `"/foo\0\0\0\0" ++ ",i\0\0" ++ int32(42)`: a float
extraction consumes the `int32` and fails, the next extraction finds nothing
left, and the terminator passes. -/
example : (StreamOp.run [47, 102, 111, 111, 0, 0, 0, 0, 44, 105, 0, 0, 0, 0, 0, 42]
    (ReceivedMessage.argumentStream ⟨0, 9, 10, 12, by decide⟩)
    [.extract .float (0 : Nat), .extract .int32 (0 : Int), .messageTerminator]).2.map (·.raised) =
    [some WrongArgumentTypeException, some MissingArgumentException, none] := by
  decide

end Oscpack

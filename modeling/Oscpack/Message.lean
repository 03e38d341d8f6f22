import Oscpack.Packet

/-!
# Messages and their arguments

A message is an address pattern, a type-tag string and the argument payloads,
each of the first two NUL-terminated and padded to a 4-byte boundary. A
`ReceivedMessage` keeps four pointers into the buffer: the address pattern, the
first and one-past-the-last type tag (the leading `,` skipped, the NUL
excluded), and the first payload byte. `ArgumentCount()` is the distance
between the two tag pointers.

An argument is a pair of pointers, one at its tag and one at its payload, and
the argument iterator compares only the tag pointers: the end iterator
`ArgumentsEnd()` carries a null payload pointer. The *checked* accessors look
at the tag before they decode, the *unchecked* ones do not.

`OscReceivedElements.cpp`, which holds `ReceivedMessage::Init`, the iterator's
`Advance` and the checked accessors, is not among the sources; they are
modelled from the spec (§3, §4.2, §6, §7), as are the type-tag constants of
`OscTypes.h`. A floating-point argument is kept as its bit pattern: the reader
reinterprets the bytes and computes nothing with them.
-/

namespace Oscpack

/-! ## Type tags

Modelled from the spec: the type-tag constants of `OscTypes.h`, with the letters
of the spec's table (§3, §6). The table leaves out the symbol tag that
`IsSymbol()` tests; the model gives it the letter `S`. -/

def TRUE_TYPE_TAG : UInt8 := 'T'.toUInt8
def FALSE_TYPE_TAG : UInt8 := 'F'.toUInt8
def NIL_TYPE_TAG : UInt8 := 'N'.toUInt8
def INFINITUM_TYPE_TAG : UInt8 := 'I'.toUInt8
def INT32_TYPE_TAG : UInt8 := 'i'.toUInt8
def FLOAT_TYPE_TAG : UInt8 := 'f'.toUInt8
def CHAR_TYPE_TAG : UInt8 := 'c'.toUInt8
def RGBA_COLOR_TYPE_TAG : UInt8 := 'r'.toUInt8
def MIDI_MESSAGE_TYPE_TAG : UInt8 := 'm'.toUInt8
def INT64_TYPE_TAG : UInt8 := 'h'.toUInt8
def TIME_TAG_TYPE_TAG : UInt8 := 't'.toUInt8
def DOUBLE_TYPE_TAG : UInt8 := 'd'.toUInt8
def STRING_TYPE_TAG : UInt8 := 's'.toUInt8
def SYMBOL_TYPE_TAG : UInt8 := 'S'.toUInt8
def BLOB_TYPE_TAG : UInt8 := 'b'.toUInt8

/-- The length of the NUL-terminated string at `p`, scanning to the end of the
buffer. -/
def strLen (buf : List UInt8) (p : Int) : Nat := (buf.drop p.toNat).indexOf 0

/-- `FindStr4End`: the first 4-byte boundary past the NUL that ends the string
at `p`, counted from `p`. -/
def findStr4End (buf : List UInt8) (p : Int) : Int := p + roundUp4 (strLen buf p + 1)

/-- Modelled from the spec (§6): the size of the payload an argument with tag
`tag` has at `p`. A tag the table does not list has no payload. -/
def payloadSize (buf : List UInt8) (tag : UInt8) (p : Int) : Int :=
  if tag = TRUE_TYPE_TAG ∨ tag = FALSE_TYPE_TAG ∨ tag = NIL_TYPE_TAG ∨ tag = INFINITUM_TYPE_TAG then 0
  else if tag = INT32_TYPE_TAG ∨ tag = FLOAT_TYPE_TAG ∨ tag = CHAR_TYPE_TAG ∨
      tag = RGBA_COLOR_TYPE_TAG ∨ tag = MIDI_MESSAGE_TYPE_TAG then 4
  else if tag = INT64_TYPE_TAG ∨ tag = TIME_TAG_TYPE_TAG ∨ tag = DOUBLE_TYPE_TAG then 8
  else if tag = STRING_TYPE_TAG ∨ tag = SYMBOL_TYPE_TAG then findStr4End buf p - p
  else if tag = BLOB_TYPE_TAG then 4 + roundUp4 (toUInt32 buf p)
  else 0

/-! ## Arguments -/

/-- A `ReceivedMessageArgument`: a pointer to its type tag and one to its
payload. -/
structure ReceivedMessageArgument where
  /-- The argument's type-tag character. -/
  typeTagPtr_ : Int
  /-- The argument's payload. -/
  argumentPtr_ : Int
  deriving DecidableEq, Repr

namespace ReceivedMessageArgument

variable (buf : List UInt8) (a : ReceivedMessageArgument)

/-- `TypeTag()`: `*typeTagPtr_`. -/
def typeTag : UInt8 := byteAt buf a.typeTagPtr_

def isBool : Bool := a.typeTag buf == TRUE_TYPE_TAG || a.typeTag buf == FALSE_TYPE_TAG
def isNil : Bool := a.typeTag buf == NIL_TYPE_TAG
def isInfinitum : Bool := a.typeTag buf == INFINITUM_TYPE_TAG
def isInt32 : Bool := a.typeTag buf == INT32_TYPE_TAG
def isFloat : Bool := a.typeTag buf == FLOAT_TYPE_TAG
def isChar : Bool := a.typeTag buf == CHAR_TYPE_TAG
def isRgbaColor : Bool := a.typeTag buf == RGBA_COLOR_TYPE_TAG
def isMidiMessage : Bool := a.typeTag buf == MIDI_MESSAGE_TYPE_TAG
def isInt64 : Bool := a.typeTag buf == INT64_TYPE_TAG
def isTimeTag : Bool := a.typeTag buf == TIME_TAG_TYPE_TAG
def isDouble : Bool := a.typeTag buf == DOUBLE_TYPE_TAG
def isString : Bool := a.typeTag buf == STRING_TYPE_TAG
def isSymbol : Bool := a.typeTag buf == SYMBOL_TYPE_TAG
def isBlob : Bool := a.typeTag buf == BLOB_TYPE_TAG

/-! The unchecked accessors decode the payload whatever the tag says. -/

/-- Modelled from the spec: `AsBoolUnchecked()`, true exactly for the `T`
tag. -/
def asBoolUnchecked : Bool := a.typeTag buf == TRUE_TYPE_TAG
/-- Modelled from the spec: the big-endian `int32` payload. -/
def asInt32Unchecked : Int := toInt32 buf a.argumentPtr_
/-- Modelled from the spec: the bits of the big-endian `float` payload. -/
def asFloatUnchecked : Nat := toUInt32 buf a.argumentPtr_
/-- Modelled from the spec: the low byte of the 4-byte payload. -/
def asCharUnchecked : UInt8 := (toUInt32 buf a.argumentPtr_ % 256).toUInt8
/-- Modelled from the spec: the 4-byte colour word. -/
def asRgbaColorUnchecked : Nat := toUInt32 buf a.argumentPtr_
/-- Modelled from the spec: the 4-byte MIDI word. -/
def asMidiMessageUnchecked : Nat := toUInt32 buf a.argumentPtr_
/-- Modelled from the spec: the big-endian `int64` payload. -/
def asInt64Unchecked : Int := toInt64 buf a.argumentPtr_
/-- Modelled from the spec: the 8-byte time tag. -/
def asTimeTagUnchecked : Nat := toUInt64 buf a.argumentPtr_
/-- Modelled from the spec: the bits of the big-endian `double` payload. -/
def asDoubleUnchecked : Nat := toUInt64 buf a.argumentPtr_
/-- `AsStringUnchecked()`: `argumentPtr_`, a view into the buffer. -/
def asStringUnchecked : Int := a.argumentPtr_
/-- `AsSymbolUnchecked()`: `argumentPtr_`, a view into the buffer. -/
def asSymbolUnchecked : Int := a.argumentPtr_
/-- Modelled from the spec: `AsBlobUnchecked( data, size )`, the bytes after
the 4-byte length prefix, and that length. -/
def asBlobUnchecked : Int × Nat := (a.argumentPtr_ + 4, toUInt32 buf a.argumentPtr_)

/-- Modelled from the spec (§4.2): the body every checked accessor shares. It
decodes only if the tag is of its type, and raises `WrongArgumentTypeException`
otherwise. -/
def checked {α : Type} (isType : Bool) (value : α) : Except OscException α :=
  if isType then .ok value else .error WrongArgumentTypeException

def asBool : Except OscException Bool := checked (a.isBool buf) (a.asBoolUnchecked buf)
def asInt32 : Except OscException Int := checked (a.isInt32 buf) (a.asInt32Unchecked buf)
def asFloat : Except OscException Nat := checked (a.isFloat buf) (a.asFloatUnchecked buf)
def asChar : Except OscException UInt8 := checked (a.isChar buf) (a.asCharUnchecked buf)
def asRgbaColor : Except OscException Nat :=
  checked (a.isRgbaColor buf) (a.asRgbaColorUnchecked buf)
def asMidiMessage : Except OscException Nat :=
  checked (a.isMidiMessage buf) (a.asMidiMessageUnchecked buf)
def asInt64 : Except OscException Int := checked (a.isInt64 buf) (a.asInt64Unchecked buf)
def asTimeTag : Except OscException Nat := checked (a.isTimeTag buf) (a.asTimeTagUnchecked buf)
def asDouble : Except OscException Nat := checked (a.isDouble buf) (a.asDoubleUnchecked buf)
def asString : Except OscException Int := checked (a.isString buf) (a.asStringUnchecked)
def asSymbol : Except OscException Int := checked (a.isSymbol buf) (a.asSymbolUnchecked)
def asBlob : Except OscException (Int × Nat) := checked (a.isBlob buf) (a.asBlobUnchecked buf)

end ReceivedMessageArgument

/-- **A checked accessor decodes exactly when the tag is of its type.** -/
theorem ReceivedMessageArgument.checked_eq_ok {α : Type} {isType : Bool} {value v : α} :
    ReceivedMessageArgument.checked isType value = .ok v ↔ isType = true ∧ value = v := by
  cases isType <;> simp [ReceivedMessageArgument.checked]

/-- **A checked accessor fails only with `WrongArgumentTypeException`.** -/
theorem ReceivedMessageArgument.checked_eq_error {α : Type} {isType : Bool} {value : α}
    {e : OscException} :
    ReceivedMessageArgument.checked isType value = .error e ↔
      isType = false ∧ e = WrongArgumentTypeException := by
  cases isType <;> simp [ReceivedMessageArgument.checked, eq_comm]

/-! ## The argument iterator -/

/-- A `ReceivedMessageArgumentIterator`: the argument it stands on. -/
structure ReceivedMessageArgumentIterator where
  /-- The argument the iterator stands on. -/
  value_ : ReceivedMessageArgument
  deriving DecidableEq, Repr

namespace ReceivedMessageArgumentIterator

/-- **`Advance()`.** Modelled from the spec (§3, §6): every argument has one
type-tag character and a payload whose size its tag decides, and the iterator
steps over both. Both increment operators are this. -/
def advance (buf : List UInt8) (it : ReceivedMessageArgumentIterator) :
    ReceivedMessageArgumentIterator :=
  ⟨⟨it.value_.typeTagPtr_ + 1,
    it.value_.argumentPtr_ + payloadSize buf (it.value_.typeTag buf) it.value_.argumentPtr_⟩⟩

/-- `IsEqualTo()`, the body of `operator==`: the two *type-tag* pointers are
equal, whatever the payload pointers. -/
def isEqualTo (it rhs : ReceivedMessageArgumentIterator) : Bool :=
  it.value_.typeTagPtr_ == rhs.value_.typeTagPtr_

@[simp] theorem typeTagPtr_iterate_advance (buf : List UInt8) (it : ReceivedMessageArgumentIterator)
    (n : Nat) : ((advance buf)^[n] it).value_.typeTagPtr_ = it.value_.typeTagPtr_ + n := by
  induction n with
  | zero => simp
  | succ n ih => rw [Function.iterate_succ_apply', advance, ih]; push_cast; omega

end ReceivedMessageArgumentIterator

/-! ## Messages -/

/-- A `ReceivedMessage`: its four pointers, with the type tags running
forwards. -/
structure ReceivedMessage where
  /-- The address pattern, the padded string the message starts with. -/
  addressPattern_ : Int
  /-- The first type tag, past the leading `','`. -/
  typeTagsBegin_ : Int
  /-- Past the last type tag. -/
  typeTagsEnd_ : Int
  /-- The first payload, after the padded type-tag string. -/
  arguments_ : Int
  /-- The type tags end at or after they begin. -/
  tags_le : typeTagsBegin_ ≤ typeTagsEnd_
  deriving DecidableEq

namespace ReceivedMessage

variable (buf : List UInt8) (m : ReceivedMessage)

/-- `AddressPattern()`: where the address string starts. -/
def addressPattern : Int := m.addressPattern_

/-- `TypeTags()`: where the type tags start, past the `','`. -/
def typeTags : Int := m.typeTagsBegin_

/-- `ArgumentCount()`: `typeTagsEnd_ - typeTagsBegin_`. -/
def argumentCount : Nat := (m.typeTagsEnd_ - m.typeTagsBegin_).toNat

/-- `ArgumentsBegin()`: the first tag and the first payload. -/
def argumentsBegin : ReceivedMessageArgumentIterator := ⟨⟨m.typeTagsBegin_, m.arguments_⟩⟩

/-- `ArgumentsEnd()`: the last tag pointer, and a null payload pointer. -/
def argumentsEnd : ReceivedMessageArgumentIterator := ⟨⟨m.typeTagsEnd_, 0⟩⟩

/-- The iterator `j` advances past `ArgumentsBegin()`. -/
def iterAt (j : Nat) : ReceivedMessageArgumentIterator :=
  (ReceivedMessageArgumentIterator.advance buf)^[j] m.argumentsBegin

/-- The arguments `a₀ … a_{N-1}` the iterator visits from `ArgumentsBegin()`. -/
def arguments : List ReceivedMessageArgument :=
  (List.range m.argumentCount).map fun j => (m.iterAt buf j).value_

@[simp] theorem length_arguments : (m.arguments buf).length = m.argumentCount := by
  simp [arguments]

theorem getElem_arguments {j : Nat} (hj : j < (m.arguments buf).length) :
    (m.arguments buf)[j] = (m.iterAt buf j).value_ := by
  simp [arguments]

/-- **The iterator meets `ArgumentsEnd()` after exactly `ArgumentCount()`
steps.** -/
theorem iterAt_isEqualTo_argumentsEnd {j : Nat} (hj : j ≤ m.argumentCount) :
    (m.iterAt buf j).isEqualTo m.argumentsEnd = true ↔ j = m.argumentCount := by
  have := m.tags_le
  simp only [iterAt, ReceivedMessageArgumentIterator.isEqualTo, beq_iff_eq, argumentsEnd,
    ReceivedMessageArgumentIterator.typeTagPtr_iterate_advance, argumentsBegin]
  simp only [argumentCount] at hj ⊢
  omega

/-- Modelled from the spec (§4.2, §7): whether the payloads of the tags `tags`,
laid end to end from `p`, all fit before `end_`. -/
def argumentsFit (end_ : Int) : List UInt8 → Int → Bool
  | [], _ => true
  | tag :: tags, p => p + payloadSize buf tag p ≤ end_ && argumentsFit end_ tags (p + payloadSize buf tag p)

/-- **`ReceivedMessage::Init( message, size )`.** Modelled from the spec (§4.2,
§7). The address pattern must end in a NUL before the end of the region; the
type tags start at the next 4-byte boundary with a `,`, and must end in a NUL
too; the payloads start at the boundary after that and must all fit. Every
failure is `MalformedMessageException`. -/
def init (message size : Int) : Except OscException ReceivedMessage :=
  let end_ := message + size
  let a := strLen buf message
  let typeTags := message + roundUp4 (a + 1)
  let n := strLen buf (typeTags + 1)
  let arguments := typeTags + roundUp4 (n + 2)
  if end_ ≤ message + a then .error MalformedMessageException
  else if end_ ≤ typeTags ∨ byteAt buf typeTags ≠ ','.toUInt8 then .error MalformedMessageException
  else if end_ ≤ typeTags + 1 + n then .error MalformedMessageException
  else if argumentsFit buf end_ (bytesAt buf (typeTags + 1) n) arguments then
    .ok ⟨message, typeTags + 1, typeTags + 1 + n, arguments, by omega⟩
  else .error MalformedMessageException

/-- The constructor `ReceivedMessage( packet )`: `Init( packet.contents(),
packet.size() )`. -/
def fromPacket (packet : ReceivedPacket) : Except OscException ReceivedMessage :=
  init buf packet.contents packet.size

/-- The constructor `ReceivedMessage( bundleElement )`:
`Init( bundleElement.contents(), bundleElement.size() )`. -/
def fromElement (e : ReceivedBundleElement) : Except OscException ReceivedMessage :=
  init buf e.contents (e.size buf)

/-- The spec's message `"/foo\0\0\0\0" ++ ",i\0\0" ++ int32(42)`: one
argument, an `int32` of value 42. -/
example : (fromPacket [47, 102, 111, 111, 0, 0, 0, 0, 44, 105, 0, 0, 0, 0, 0, 42]
    (ReceivedPacket.make 0 16)).toOption.map (fun m => (m.argumentCount,
      (m.argumentsBegin.value_.asInt32
        [47, 102, 111, 111, 0, 0, 0, 0, 44, 105, 0, 0, 0, 0, 0, 42]).toOption)) =
    some (1, some 42) := by
  decide

end ReceivedMessage

end Oscpack

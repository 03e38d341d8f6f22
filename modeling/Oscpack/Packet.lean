import Oscpack.Bytes
import Mathlib.Logic.Function.Iterate

/-!
# Packets, bundle elements and bundles

A received packet is a region of the caller's buffer. Its first eight bytes
decide what it is: the literal `"#bundle\0"` makes it a bundle, anything else
a message. A bundle is the marker, an eight-byte time tag, and then a chain of
elements, each a four-byte big-endian size followed by that many bytes of a
nested message or bundle.

`ReceivedBundleElementIterator` walks that chain with no bookkeeping of its
own: its whole state is the pointer to the current size prefix, `Advance`
jumps over the prefix and the element, and the walk is over when the pointer
*equals* the bundle's `end_`. Nothing stops it from jumping past `end_`, or
backwards when a size prefix reads as a negative `int32`. Whether a walk from
`ElementsBegin()` lands on `ElementsEnd()` exactly is therefore a property of
the bytes and of what `ReceivedBundle::Init` accepted, and `Oscpack.BundleTree`
proves it for every encoded tree.

The bodies of `IsBundle`, `Size` and `ReceivedBundle::Init` are in
`OscReceivedElements.cpp`, which the sources do not include; they are modelled
from the spec (§3, §4.1, §4.4), each under a docstring that says so.
-/

namespace Oscpack

/-! ## Exceptions -/

/-- The exceptions of the reader, each carrying the text it was built with. -/
inductive OscException where
  | MalformedMessage (what : String)
  | MalformedBundle (what : String)
  | WrongArgumentType (what : String)
  | MissingArgument (what : String)
  | ExcessArgument (what : String)
  deriving DecidableEq, Repr

/-- `MalformedMessageException()`, with the text of its default argument. -/
def MalformedMessageException : OscException := .MalformedMessage "malformed message"

/-- `MalformedBundleException()`, with the text of its default argument. -/
def MalformedBundleException : OscException := .MalformedBundle "malformed bundle"

/-- `WrongArgumentTypeException()`, with the text of its default argument. -/
def WrongArgumentTypeException : OscException := .WrongArgumentType "wrong argument type"

/-- `MissingArgumentException()`, with the text of its default argument. -/
def MissingArgumentException : OscException := .MissingArgument "missing argument"

/-- `ExcessArgumentException()`, with the text of its default argument. -/
def ExcessArgumentException : OscException := .ExcessArgument "too many arguments"

/-! ## Packets -/

/-- The `n` bytes from `p` on. -/
def bytesAt (buf : List UInt8) (p : Int) (n : Nat) : List UInt8 :=
  (List.range n).map fun k : Nat => byteAt buf (p + k)

/-- The literal `"#bundle\0"` that opens every bundle. -/
def bundleMarker : List UInt8 := "#bundle".toList.map Char.toUInt8 ++ [0]

/-- A `ReceivedPacket`: where its bytes start, and its size, kept as an
`int32`. -/
structure ReceivedPacket where
  /-- Where the packet's bytes start. -/
  contents_ : Int
  /-- `size_`, an `int32`. -/
  size_ : Int
  deriving DecidableEq, Repr

namespace ReceivedPacket

/-- The constructor `ReceivedPacket( contents, size )`: `size_( (int32)size )`. -/
def make (contents : Int) (size : Nat) : ReceivedPacket := ⟨contents, signedCast 32 size⟩

/-- `Size()`: the size as stored, an `int32`. -/
def size (p : ReceivedPacket) : Int := p.size_

/-- `Contents()`: where the bytes start. -/
def contents (p : ReceivedPacket) : Int := p.contents_

/-- **`IsBundle()`.** Modelled from the spec (§4.1): the region is a bundle when
its first 8 bytes are the bundle marker. -/
def isBundle (buf : List UInt8) (p : ReceivedPacket) : Bool :=
  8 ≤ p.size && bytesAt buf p.contents 8 == bundleMarker

/-- `IsMessage()`: `!IsBundle()`. -/
def isMessage (buf : List UInt8) (p : ReceivedPacket) : Bool := !p.isBundle buf

end ReceivedPacket

/-! ## Bundle elements and their iterator -/

/-- A `ReceivedBundleElement`: a pointer to the element's size prefix. -/
structure ReceivedBundleElement where
  /-- The element's 4-byte size prefix; its contents follow it. -/
  sizePtr_ : Int
  deriving DecidableEq, Repr

namespace ReceivedBundleElement

/-- **`Size()`.** Modelled from the spec (§3): the 4-byte big-endian size
prefix, as an `int32`. -/
def size (buf : List UInt8) (e : ReceivedBundleElement) : Int := toInt32 buf e.sizePtr_

/-- `Contents()`: `sizePtr_ + 4`. -/
def contents (e : ReceivedBundleElement) : Int := e.sizePtr_ + 4

/-- **`IsBundle()`.** Modelled from the spec (§4.1), as for a packet. -/
def isBundle (buf : List UInt8) (e : ReceivedBundleElement) : Bool :=
  8 ≤ e.size buf && bytesAt buf e.contents 8 == bundleMarker

end ReceivedBundleElement

/-- A `ReceivedBundleElementIterator`: the element it stands on. -/
structure ReceivedBundleElementIterator where
  /-- The element the iterator stands on. -/
  value_ : ReceivedBundleElement
  deriving DecidableEq, Repr

namespace ReceivedBundleElementIterator

/-- `Advance()`: `value_.sizePtr_ = value_.contents() + value_.size()`. Both
increment operators are this. -/
def advance (buf : List UInt8) (it : ReceivedBundleElementIterator) :
    ReceivedBundleElementIterator :=
  ⟨⟨it.value_.contents + it.value_.size buf⟩⟩

/-- `IsEqualTo()`, the body of `operator==`: the two size pointers are
equal. -/
def isEqualTo (it rhs : ReceivedBundleElementIterator) : Bool :=
  it.value_.sizePtr_ == rhs.value_.sizePtr_

@[simp] theorem sizePtr_advance (buf : List UInt8) (it : ReceivedBundleElementIterator) :
    (it.advance buf).value_.sizePtr_ = it.value_.sizePtr_ + 4 + toInt32 buf it.value_.sizePtr_ :=
  rfl

end ReceivedBundleElementIterator

/-! ## Bundles -/

/-- A `ReceivedBundle`: pointers to its time tag and to its end, and the
number of elements `Init` counted. -/
structure ReceivedBundle where
  /-- The 8-byte time tag, right after the marker. -/
  timeTag_ : Int
  /-- Past the bundle's last byte. -/
  end_ : Int
  /-- The number of elements `Init` counted. -/
  elementCount_ : Nat
  deriving DecidableEq, Repr

namespace ReceivedBundle

/-- Modelled from the spec (§3): the walk `Init` makes over the elements from
`p` to count them, enforcing the data model's invariant on the way – every
size prefix lies inside the bundle, and every element size is a non-negative
multiple of four that does not run past `end_`. Each element moves the walk
at least four bytes on, so the bytes left are more fuel than it needs. -/
def countElements (buf : List UInt8) (end_ : Int) : Nat → Int → Except OscException Nat
  | 0, p => if p = end_ then .ok 0 else .error MalformedBundleException
  | fuel + 1, p =>
    if p = end_ then .ok 0
    else if end_ < p + 4 then .error MalformedBundleException
    else
      let size := toInt32 buf p
      if size < 0 ∨ size % 4 ≠ 0 ∨ end_ < p + 4 + size then .error MalformedBundleException
      else (countElements buf end_ fuel (p + 4 + size)).map (· + 1)

/-- **`ReceivedBundle::Init( bundle, size )`.** Modelled from the spec (§4.4):
the region must hold the marker and the time tag, so at least 16 bytes, and
must begin with the marker; the time tag follows the marker, and `end_` is
the content start plus what remains after the header, `bundle + size`. -/
def init (buf : List UInt8) (bundle size : Int) : Except OscException ReceivedBundle :=
  if size < 16 then .error MalformedBundleException
  else if bytesAt buf bundle 8 ≠ bundleMarker then .error MalformedBundleException
  else (countElements buf (bundle + size) (size - 16).toNat (bundle + 16)).map
    fun n => ⟨bundle + 8, bundle + size, n⟩

/-- The constructor `ReceivedBundle( packet )`: `Init( packet.contents(),
packet.size() )`. -/
def fromPacket (buf : List UInt8) (packet : ReceivedPacket) : Except OscException ReceivedBundle :=
  init buf packet.contents packet.size

/-- The constructor `ReceivedBundle( bundleElement )`:
`Init( bundleElement.contents(), bundleElement.size() )`. -/
def fromElement (buf : List UInt8) (e : ReceivedBundleElement) :
    Except OscException ReceivedBundle :=
  init buf e.contents (e.size buf)

/-- `TimeTag()`: the 8-byte big-endian word at `timeTag_`. -/
def timeTag (buf : List UInt8) (b : ReceivedBundle) : Nat := toUInt64 buf b.timeTag_

/-- `ElementCount()`: the count `Init` stored. -/
def elementCount (b : ReceivedBundle) : Nat := b.elementCount_

/-- `ElementsBegin()`: the iterator at `timeTag_ + 8`. -/
def elementsBegin (b : ReceivedBundle) : ReceivedBundleElementIterator := ⟨⟨b.timeTag_ + 8⟩⟩

/-- `ElementsEnd()`: the iterator at `end_`. -/
def elementsEnd (b : ReceivedBundle) : ReceivedBundleElementIterator := ⟨⟨b.end_⟩⟩

end ReceivedBundle

end Oscpack

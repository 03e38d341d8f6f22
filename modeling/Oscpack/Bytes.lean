import Mathlib.Algebra.Group.Int
import Mathlib.Data.List.GetD

/-!
# Bytes and big-endian words

The readers of `OscReceivedElements.h` never copy a packet: every object they
build is a handful of `const char *` pointers into one caller-owned buffer,
and every number they report is decoded on demand from four or eight bytes at
one of those pointers. The model keeps exactly that shape. A buffer is a
`List UInt8`, and a pointer is an `Int` offset into it – an `Int` and not a
`Nat`, because the bundle iterator adds a *signed* 32-bit size to its pointer,
and a negative size really does move it backwards.

The byte order helpers of the reader (`ToInt32`, `ToUInt32` and their 64-bit
siblings) live in `OscReceivedElements.cpp`, which is not part of the sources;
they are modelled from the spec's wire format: big-endian throughout. The
writers beside them (`FromUInt32`, `FromUInt64`) are what the encoder of
bundles uses, and every read of an encoded word gives the word back
(`toUInt32_append_fromUInt32`).
-/

namespace Oscpack

/-- The byte `*p` of the buffer. A read outside the buffer is undefined
behaviour in C++; the model reads 0 there, and the theorems about the readers
show that none of the reads they care about leaves the buffer. -/
def byteAt (buf : List UInt8) (p : Int) : UInt8 :=
  if p < 0 then 0 else buf.getD p.toNat 0

/-- **`ToUInt32`.** Modelled from the spec: the 4-byte big-endian word at `p`
(`OscReceivedElements.cpp` is missing). -/
def toUInt32 (buf : List UInt8) (p : Int) : Nat :=
  (byteAt buf p).toNat * 2 ^ 24 + (byteAt buf (p + 1)).toNat * 2 ^ 16 +
    (byteAt buf (p + 2)).toNat * 2 ^ 8 + (byteAt buf (p + 3)).toNat

/-- **`ToUInt64`.** Modelled from the spec: the 8-byte big-endian word at
`p`. -/
def toUInt64 (buf : List UInt8) (p : Int) : Nat :=
  toUInt32 buf p * 2 ^ 32 + toUInt32 buf (p + 4)

/-- The C++ conversion of an unsigned value to a signed `w`-bit integer: the
value modulo `2^w`, read in two's complement. -/
def signedCast (w : Nat) (n : Nat) : Int :=
  if n % 2 ^ w < 2 ^ (w - 1) then (n % 2 ^ w : Nat) else (n % 2 ^ w : Nat) - 2 ^ w

/-- **`ToInt32`.** Modelled from the spec: the 4-byte big-endian two's
complement word at `p`. -/
def toInt32 (buf : List UInt8) (p : Int) : Int :=
  signedCast 32 (toUInt32 buf p)

/-- **`ToInt64`.** Modelled from the spec: the 8-byte big-endian two's
complement word at `p`. -/
def toInt64 (buf : List UInt8) (p : Int) : Int :=
  signedCast 64 (toUInt64 buf p)

/-- **`FromUInt32`**: the four big-endian bytes of `n` modulo `2^32`, as the
encoder writes a size prefix. -/
def fromUInt32 (n : Nat) : List UInt8 :=
  [(n / 2 ^ 24 % 256).toUInt8, (n / 2 ^ 16 % 256).toUInt8,
    (n / 2 ^ 8 % 256).toUInt8, (n % 256).toUInt8]

/-- **`FromUInt64`**: the eight big-endian bytes of `n` modulo `2^64`. -/
def fromUInt64 (n : Nat) : List UInt8 :=
  fromUInt32 (n / 2 ^ 32) ++ fromUInt32 n

/-- `RoundUp4`: the least multiple of four at or above `n`. -/
def roundUp4 (n : Nat) : Nat := (n + 3) / 4 * 4

/-! ## Reading back what was written -/

@[simp] theorem length_fromUInt32 (n : Nat) : (fromUInt32 n).length = 4 := rfl

@[simp] theorem length_fromUInt64 (n : Nat) : (fromUInt64 n).length = 8 := rfl

theorem toNat_toUInt8_mod (n : Nat) : (n % 256).toUInt8.toNat = n % 256 := by
  simp [Nat.toUInt8, UInt8.toNat, UInt8.ofNat, Fin.ofNat]

/-- A pointer into the buffer reads the list element there. -/
theorem byteAt_natCast (buf : List UInt8) (n : Nat) : byteAt buf n = buf.getD n 0 := by
  rw [byteAt, if_neg (by omega), Int.toNat_ofNat]

/-- Reading at an offset into the middle part of `pre ++ l ++ post` reads
`l`. -/
theorem getD_append_middle (pre l post : List UInt8) (k : Nat) (hk : k < l.length) :
    (pre ++ l ++ post).getD (pre.length + k) 0 = l.getD k 0 := by
  rw [List.append_assoc, List.getD_append_right _ _ _ _ (by omega), Nat.add_sub_cancel_left,
    List.getD_append _ _ _ _ hk]

/-- The word at a pointer into the buffer, byte by byte. -/
theorem toUInt32_natCast (buf : List UInt8) (n : Nat) :
    toUInt32 buf n = (buf.getD n 0).toNat * 2 ^ 24 + (buf.getD (n + 1) 0).toNat * 2 ^ 16 +
      (buf.getD (n + 2) 0).toNat * 2 ^ 8 + (buf.getD (n + 3) 0).toNat := by
  have h1 := byteAt_natCast buf (n + 1)
  have h2 := byteAt_natCast buf (n + 2)
  have h3 := byteAt_natCast buf (n + 3)
  push_cast at h1 h2 h3
  rw [toUInt32, h1, h2, h3, byteAt_natCast]

/-- **The size prefix reads back.** The word read where `FromUInt32 n` was
written is `n` modulo `2^32`, whatever surrounds it. -/
theorem toUInt32_append_fromUInt32 (pre post : List UInt8) (n : Nat) :
    toUInt32 (pre ++ fromUInt32 n ++ post) pre.length = n % 2 ^ 32 := by
  rw [toUInt32_natCast, getD_append_middle pre _ post 1 (by simp),
    getD_append_middle pre _ post 2 (by simp), getD_append_middle pre _ post 3 (by simp),
    ← Nat.add_zero pre.length, getD_append_middle pre _ post 0 (by simp)]
  simp only [fromUInt32, List.getD_cons_zero, List.getD_cons_succ, toNat_toUInt8_mod]
  omega

/-- A word below `2^31` reads back as itself through the signed cast. -/
theorem signedCast_of_lt {n : Nat} (h : n < 2 ^ 31) : signedCast 32 n = n := by
  rw [signedCast, Nat.mod_eq_of_lt (by omega), if_pos (by simpa using h)]

/-- **The signed size prefix reads back** when it fits in 31 bits. -/
theorem toInt32_append_fromUInt32 (pre post : List UInt8) {n : Nat} (h : n < 2 ^ 31) :
    toInt32 (pre ++ fromUInt32 n ++ post) pre.length = n := by
  rw [toInt32, toUInt32_append_fromUInt32, Nat.mod_eq_of_lt (by omega), signedCast_of_lt h]

end Oscpack

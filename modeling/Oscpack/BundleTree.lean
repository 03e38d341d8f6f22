import Oscpack.Packet
import Mathlib.Tactic.Set

/-!
# Walking the elements of an encoded bundle

A bundle nests: each element is a message or another bundle, so what a sender
puts on the wire is a tree, messages at its leaves and bundles at its inner
nodes. `PacketTree.encode` writes a tree in the wire format, and this module
proves that the reader takes it apart again: build a `ReceivedBundle` over the
encoding of any bundle node, wherever in the packet that encoding sits, and
the element iterator lands on `ElementsEnd()` after exactly as many steps as
the node has children, reporting at step `i` the size and the position of the
`i`-th child (`ReceivedBundle.walksElements_encode`).

The position is the point. `Advance` is pointer arithmetic with no bounds
check, and the loop stops on pointer *equality* only, so an element whose size
were misread by a single byte would make the walk skip `ElementsEnd()` and run
on through memory. Every child is handed back as a split `pre ++ encode c ++
post` of the same buffer, which is exactly the hypothesis the theorem needs to
be applied again one level down: nesting costs nothing.

The one limit is the width of the size fields. Every size the reader sees is
an `int32` – the packet's `size_` and each element's prefix – so a node whose
encoding reaches `2^31` bytes has a negative size and is rejected, although
each of its leaves is small (`ReceivedBundle.walksElements_fails_of_large`).
-/

namespace Oscpack

/-- A packet as a tree: messages, given by their bytes, at the leaves, and
bundles, with a time tag and their elements in order, at the inner nodes. -/
inductive PacketTree where
  | message (bytes : List UInt8)
  | bundle (timeTag : Nat) (elements : List PacketTree)
  deriving Repr

namespace PacketTree

mutual
/-- The wire encoding of a tree: a message is its own bytes; a bundle is the
marker, the 8-byte time tag, and its elements. -/
def encode : PacketTree → List UInt8
  | .message bytes => bytes
  | .bundle timeTag elements => bundleMarker ++ fromUInt64 timeTag ++ encodeElements elements

/-- The elements of a bundle, each a 4-byte big-endian size followed by the
element's encoding. -/
def encodeElements : List PacketTree → List UInt8
  | [] => []
  | e :: es => fromUInt32 e.encode.length ++ e.encode ++ encodeElements es
end

mutual
/-- Every message of the tree is a whole number of 4-byte words, shorter than
`2^31` bytes. -/
def LeavesOk : PacketTree → Prop
  | .message bytes => bytes.length % 4 = 0 ∧ bytes.length < 2 ^ 31
  | .bundle _ elements => ElementsOk elements

/-- Every element of the list satisfies `LeavesOk`. -/
def ElementsOk : List PacketTree → Prop
  | [] => True
  | e :: es => LeavesOk e ∧ ElementsOk es
end

@[simp] theorem encode_message (bytes : List UInt8) : (message bytes).encode = bytes := by
  rw [encode]

@[simp] theorem encode_bundle (timeTag : Nat) (es : List PacketTree) :
    (bundle timeTag es).encode = bundleMarker ++ fromUInt64 timeTag ++ encodeElements es := by
  rw [encode]

@[simp] theorem encodeElements_nil : encodeElements [] = [] := by rw [encodeElements]

@[simp] theorem encodeElements_cons (e : PacketTree) (es : List PacketTree) :
    encodeElements (e :: es) = fromUInt32 e.encode.length ++ e.encode ++ encodeElements es := by
  rw [encodeElements]

theorem encodeElements_append (as bs : List PacketTree) :
    encodeElements (as ++ bs) = encodeElements as ++ encodeElements bs := by
  induction as with
  | nil => simp
  | cons a as ih => simp [ih]

@[simp] theorem length_bundleMarker : bundleMarker.length = 8 := rfl

@[simp] theorem ElementsOk_cons (e : PacketTree) (es : List PacketTree) :
    ElementsOk (e :: es) ↔ LeavesOk e ∧ ElementsOk es := by
  rw [ElementsOk]

mutual
/-- Every encoding of a tree with good leaves is a whole number of words. -/
theorem length_encode_mod_four : (t : PacketTree) → t.LeavesOk → t.encode.length % 4 = 0
  | .message _, h => by rw [LeavesOk] at h; rw [encode]; exact h.1
  | .bundle _ es, h => by
    rw [LeavesOk] at h
    have := length_encodeElements_mod_four es h
    simp only [encode_bundle, List.length_append, length_bundleMarker, length_fromUInt64]
    omega

theorem length_encodeElements_mod_four :
    (es : List PacketTree) → ElementsOk es → (encodeElements es).length % 4 = 0
  | [], _ => by simp
  | e :: es, h => by
    rw [ElementsOk_cons] at h
    have h1 := length_encode_mod_four e h.1
    have h2 := length_encodeElements_mod_four es h.2
    simp only [encodeElements_cons, List.length_append, length_fromUInt32]
    omega
end

/-- Splitting the elements at `i`: the first `i` elements, the size prefix and
the encoding of the `i`-th, and the rest. -/
theorem encodeElements_split (es : List PacketTree) (i : Nat) (hi : i < es.length) :
    encodeElements es = encodeElements (es.take i) ++ fromUInt32 es[i].encode.length ++
      es[i].encode ++ encodeElements (es.drop (i + 1)) := by
  have h : es = es.take i ++ es[i] :: es.drop (i + 1) := by
    rw [← List.drop_eq_getElem_cons hi, List.take_append_drop]
  conv => lhs; rw [h]
  rw [encodeElements_append, encodeElements_cons]
  simp only [List.append_assoc]

/-- The encoding of the first `i + 1` elements extends that of the first `i`
by the `i`-th. -/
theorem encodeElements_take_succ (es : List PacketTree) (i : Nat) (hi : i < es.length) :
    encodeElements (es.take (i + 1)) =
      encodeElements (es.take i) ++ fromUInt32 es[i].encode.length ++ es[i].encode := by
  rw [List.take_succ, List.getElem?_eq_getElem hi, Option.toList_some, encodeElements_append,
    encodeElements_cons, encodeElements_nil, List.append_nil, List.append_assoc]

/-- An element's encoding is shorter than the encoding of the list it is in. -/
theorem length_encode_lt_of_mem {e : PacketTree} {es : List PacketTree} (he : e ∈ es) :
    e.encode.length < (encodeElements es).length := by
  obtain ⟨i, hi, rfl⟩ := List.getElem_of_mem he
  rw [encodeElements_split es i hi]
  simp only [List.length_append, length_fromUInt32]
  omega

/-- Each element costs at least its 4-byte prefix, so the encoded prefixes of a
list grow strictly. -/
theorem length_encodeElements_take_lt (es : List PacketTree) {i : Nat} (hi : i < es.length) :
    (encodeElements (es.take i)).length < (encodeElements es).length := by
  rw [encodeElements_split es i hi]
  simp only [List.length_append, length_fromUInt32]
  omega

end PacketTree

open PacketTree

/-- The `n` bytes read at the start of the middle part of `pre ++ l ++ post`
are the first `n` bytes of `l`. -/
theorem bytesAt_append (pre l post : List UInt8) {n : Nat} (hn : n ≤ l.length) :
    bytesAt (pre ++ l ++ post) pre.length n = l.take n := by
  refine List.ext_getElem (by simp [bytesAt]; omega) fun k h₁ h₂ => ?_
  have hk : k < n := by simpa [bytesAt] using h₁
  have e := byteAt_natCast (pre ++ l ++ post) (pre.length + k)
  push_cast at e
  simp only [bytesAt, List.getElem_map, List.getElem_range, List.getElem_take, e,
    getD_append_middle pre l post k (by omega), List.getD_eq_getElem _ _ (by omega : k < l.length)]

namespace ReceivedBundleElementIterator

variable {buf A B : List UInt8} {es : List PacketTree}

/-- **One step of the walk.** Standing on the size prefix of the `i`-th
element, `Advance` lands on the prefix of the next one. -/
theorem advance_encodeElements (hbuf : buf = A ++ encodeElements es ++ B)
    (hsmall : ∀ e ∈ es, e.encode.length < 2 ^ 31) {i : Nat} (hi : i < es.length) :
    advance buf ⟨⟨(A ++ encodeElements (es.take i)).length⟩⟩ =
      ⟨⟨(A ++ encodeElements (es.take (i + 1))).length⟩⟩ := by
  have hsplit : buf = (A ++ encodeElements (es.take i)) ++ fromUInt32 es[i].encode.length ++
      (es[i].encode ++ encodeElements (es.drop (i + 1)) ++ B) := by
    rw [hbuf, encodeElements_split es i hi]
    simp only [List.append_assoc]
  have hsize : toInt32 buf (A ++ encodeElements (es.take i)).length = es[i].encode.length := by
    rw [hsplit]
    exact toInt32_append_fromUInt32 _ _ (hsmall _ (List.getElem_mem hi))
  simp only [advance, ReceivedBundleElement.contents, ReceivedBundleElement.size]
  rw [hsize, encodeElements_take_succ es i hi]
  simp only [List.length_append, length_fromUInt32, mk.injEq, ReceivedBundleElement.mk.injEq]
  push_cast
  omega

/-- **The walk, `i` steps on.** From the first size prefix, `i` advances stand
on the size prefix of the `i`-th element – or, at `i = es.length`, just past
the last element. -/
theorem iterate_advance_encodeElements (hbuf : buf = A ++ encodeElements es ++ B)
    (hsmall : ∀ e ∈ es, e.encode.length < 2 ^ 31) {i : Nat} (hi : i ≤ es.length) :
    (advance buf)^[i] ⟨⟨A.length⟩⟩ = ⟨⟨(A ++ encodeElements (es.take i)).length⟩⟩ := by
  induction i with
  | zero => simp
  | succ i ih =>
    rw [Function.iterate_succ_apply', ih (by omega), advance_encodeElements hbuf hsmall (by omega)]

end ReceivedBundleElementIterator

namespace ReceivedBundle

/-- **`Init`'s walk counts the encoded elements**, and accepts each of them. -/
theorem countElements_encodeElements {buf B : List UInt8} {es : List PacketTree} (A : List UInt8)
    (hbuf : buf = A ++ encodeElements es ++ B) (hok : ElementsOk es)
    (hsmall : ∀ e ∈ es, e.encode.length < 2 ^ 31) (fuel : Nat)
    (hfuel : (encodeElements es).length ≤ fuel) :
    countElements buf (A ++ encodeElements es).length fuel A.length = .ok es.length := by
  induction es generalizing A fuel with
  | nil => cases fuel <;> simp [countElements]
  | cons e es ih =>
    obtain ⟨fuel, rfl⟩ : ∃ f, fuel = f + 1 := ⟨fuel - 1, by simp at hfuel; omega⟩
    rw [ElementsOk_cons] at hok
    have hsize : toInt32 buf A.length = e.encode.length := by
      rw [hbuf, encodeElements_cons]
      simpa only [List.append_assoc] using
        toInt32_append_fromUInt32 A (e.encode ++ encodeElements es ++ B)
          (hsmall e (List.mem_cons_self _ _))
    have hmod := length_encode_mod_four e hok.1
    have hrest := ih (A ++ fromUInt32 e.encode.length ++ e.encode) (by rw [hbuf]; simp)
      hok.2 (fun c hc => hsmall c (List.mem_cons_of_mem _ hc)) fuel (by simp at hfuel; omega)
    simp only [List.length_append, length_fromUInt32, List.append_assoc] at hrest
    simp only [countElements, hsize, encodeElements_cons, List.length_append, length_fromUInt32]
    push_cast at hrest ⊢
    rw [if_neg (by omega), if_neg (by omega), if_neg (by omega),
      show (A.length : Int) + (4 + e.encode.length + (encodeElements es).length) =
        A.length + (4 + (e.encode.length + (encodeElements es).length)) by omega,
      show (A.length : Int) + 4 + e.encode.length = A.length + (4 + e.encode.length) by omega,
      hrest]
    rfl

/-- The iterator `i` advances past `ElementsBegin()`. -/
def iterAt (buf : List UInt8) (b : ReceivedBundle) (i : Nat) : ReceivedBundleElementIterator :=
  (ReceivedBundleElementIterator.advance buf)^[i] b.elementsBegin

/-- **What iterating a bundle built over `size` bytes at `o` gives**, for the
elements `es` it was encoded from. `Init` accepts the region; from
`ElementsBegin()`, `i ≤ es.length` advances meet `ElementsEnd()` exactly when
`i = es.length`; and the element reached after `i < es.length` advances reads
its size prefix inside the region, reports the `i`-th element's size, and has
its contents where the `i`-th encoding starts in the buffer. -/
def WalksElements (buf : List UInt8) (o size : Int) (es : List PacketTree) : Prop :=
  ∃ b, init buf o size = .ok b ∧ b.elementCount = es.length ∧
    (∀ i ≤ es.length, (b.iterAt buf i).isEqualTo b.elementsEnd = true ↔ i = es.length) ∧
    ∀ i (hi : i < es.length),
      o + 16 ≤ (b.iterAt buf i).value_.sizePtr_ ∧ (b.iterAt buf i).value_.sizePtr_ + 4 ≤ o + size ∧
      (b.iterAt buf i).value_.size buf = es[i].encode.length ∧
      ∃ pre post, buf = pre ++ es[i].encode ++ post ∧ (b.iterAt buf i).value_.contents = pre.length

/-- **Iterating an encoded bundle.** Build a `ReceivedBundle` over the encoding
of a bundle node shorter than `2^31` bytes, at any position of any buffer, with
the `int32` size a packet or an enclosing element reports for it: the element
iterator walks exactly the node's children, in order, and lands on
`ElementsEnd()`. -/
theorem walksElements_encode (pre post : List UInt8) (timeTag : Nat) (es : List PacketTree)
    (hleaves : (PacketTree.bundle timeTag es).LeavesOk)
    (hlen : (PacketTree.bundle timeTag es).encode.length < 2 ^ 31) :
    WalksElements (pre ++ (PacketTree.bundle timeTag es).encode ++ post) pre.length
      (signedCast 32 (PacketTree.bundle timeTag es).encode.length) es := by
  rw [LeavesOk] at hleaves
  set buf := pre ++ (PacketTree.bundle timeTag es).encode ++ post
  set hdr := pre ++ bundleMarker ++ fromUInt64 timeTag
  have hbuf : buf = hdr ++ encodeElements es ++ post := by simp [buf, hdr]
  have hlen16 : (PacketTree.bundle timeTag es).encode.length = (encodeElements es).length + 16 := by
    simp; omega
  have hsmall : ∀ e ∈ es, e.encode.length < 2 ^ 31 := fun e he => by
    have := length_encode_lt_of_mem he; omega
  have hhdr : hdr.length = pre.length + 16 := by simp [hdr]
  have hcount := countElements_encodeElements hdr hbuf hleaves hsmall _ (Nat.le_refl _)
  have hmarker : bytesAt buf pre.length 8 = bundleMarker := by
    rw [bytesAt_append _ _ _ (by omega), encode_bundle, List.append_assoc,
      List.take_left' length_bundleMarker]
  set b : ReceivedBundle := ⟨pre.length + 8, pre.length + ((encodeElements es).length + 16), es.length⟩
  have hiter : ∀ i ≤ es.length,
      b.iterAt buf i = ⟨⟨(hdr ++ encodeElements (es.take i)).length⟩⟩ := fun i hi => by
    rw [iterAt, elementsBegin,
      show (pre.length : Int) + 8 + 8 = hdr.length by rw [hhdr]; push_cast; omega]
    exact ReceivedBundleElementIterator.iterate_advance_encodeElements hbuf hsmall hi
  refine ⟨b, ?_, rfl, ?_, ?_⟩
  · rw [signedCast_of_lt hlen, init, if_neg (by omega), if_neg (by simp [hmarker]), hlen16]
    simp only [List.length_append, hhdr] at hcount
    push_cast at hcount ⊢
    rw [show (pre.length : Int) + 16 + (encodeElements es).length =
      pre.length + ((encodeElements es).length + 16) by omega] at hcount
    rw [show ((encodeElements es).length + 16 - 16 : Int).toNat = (encodeElements es).length by omega,
      hcount]
    rfl
  · intro i hi
    rw [hiter i hi]
    simp only [ReceivedBundleElementIterator.isEqualTo, elementsEnd, beq_iff_eq, List.length_append,
      hhdr]
    constructor
    · intro h
      by_contra hne
      have := length_encodeElements_take_lt es (Nat.lt_of_le_of_ne hi hne)
      omega
    · rintro rfl
      rw [List.take_length]
      push_cast
      omega
  · intro i hi
    have hsplit := encodeElements_split es i hi
    have hl := congrArg List.length hsplit
    simp only [List.length_append, length_fromUInt32] at hl
    rw [hiter i (Nat.le_of_lt hi), signedCast_of_lt hlen, hlen16]
    simp only [ReceivedBundleElement.size, ReceivedBundleElement.contents]
    refine ⟨?_, ?_, ?_, hdr ++ encodeElements (es.take i) ++ fromUInt32 es[i].encode.length,
      encodeElements (es.drop (i + 1)) ++ post, ?_, ?_⟩
    · simp only [List.length_append, hhdr]; push_cast; omega
    · simp only [List.length_append, hhdr]; push_cast; omega
    · rw [hbuf, hsplit]
      simpa only [List.append_assoc] using toInt32_append_fromUInt32 (hdr ++ encodeElements (es.take i))
        (es[i].encode ++ encodeElements (es.drop (i + 1)) ++ post) (hsmall _ (List.getElem_mem hi))
    · rw [hbuf, hsplit]; simp only [List.append_assoc]
    · simp only [List.length_append, length_fromUInt32]; push_cast; omega

/-- The spec's nested case: a bundle holding the 16-byte message
`"/foo\0\0\0\0" ++ ",i\0\0" ++ int32(42)`, as a packet of its own. -/
theorem walksElements_nested_bundle :
    (PacketTree.bundle 0 [.message [47, 102, 111, 111, 0, 0, 0, 0, 44, 105, 0, 0, 0, 0, 0, 42]]).LeavesOk ∧
    (PacketTree.bundle 0
      [.message [47, 102, 111, 111, 0, 0, 0, 0, 44, 105, 0, 0, 0, 0, 0, 42]]).encode.length < 2 ^ 31 ∧
    WalksElements
      ([] ++ (PacketTree.bundle 0
        [.message [47, 102, 111, 111, 0, 0, 0, 0, 44, 105, 0, 0, 0, 0, 0, 42]]).encode ++ [])
      ([] : List UInt8).length
      (signedCast 32 (PacketTree.bundle 0
        [.message [47, 102, 111, 111, 0, 0, 0, 0, 44, 105, 0, 0, 0, 0, 0, 42]]).encode.length)
      [.message [47, 102, 111, 111, 0, 0, 0, 0, 44, 105, 0, 0, 0, 0, 0, 42]] :=
  have hleaves : (PacketTree.bundle 0
      [.message [47, 102, 111, 111, 0, 0, 0, 0, 44, 105, 0, 0, 0, 0, 0, 42]]).LeavesOk := by
    simp only [LeavesOk, ElementsOk]; decide
  have hlen : (PacketTree.bundle 0
      [.message [47, 102, 111, 111, 0, 0, 0, 0, 44, 105, 0, 0, 0, 0, 0, 42]]).encode.length < 2 ^ 31 := by
    simp [encode]
  ⟨hleaves, hlen, walksElements_encode [] [] 0 _ hleaves hlen⟩

/-- **Small leaves do not make a small bundle.** A message of `2^31 - 4` bytes
is a well-formed leaf, but the bundle holding it is `2^31 + 16` bytes long:
its `int32` size is negative, and `Init` rejects it. -/
theorem walksElements_fails_of_large :
    ¬ ∀ (pre post : List UInt8) (timeTag : Nat) (es : List PacketTree),
      (PacketTree.bundle timeTag es).LeavesOk →
      WalksElements (pre ++ (PacketTree.bundle timeTag es).encode ++ post) pre.length
        (signedCast 32 (PacketTree.bundle timeTag es).encode.length) es := by
  intro h
  obtain ⟨m, hm⟩ : ∃ m : List UInt8, m.length = 2 ^ 31 - 4 :=
    ⟨List.replicate _ 0, List.length_replicate _ _⟩
  obtain ⟨b, hb, -⟩ := h [] [] 0 [.message m] (by simp only [LeavesOk, ElementsOk, hm]; decide)
  have hlen : (PacketTree.bundle 0 [.message m]).encode.length = 2 ^ 31 + 16 := by
    rw [encode_bundle, encodeElements_cons, encodeElements_nil, List.append_nil, encode_message]
    simp only [List.length_append, length_bundleMarker, length_fromUInt64, length_fromUInt32]
    omega
  rw [hlen, init, if_pos (by decide)] at hb
  cases hb

end ReceivedBundle

end Oscpack

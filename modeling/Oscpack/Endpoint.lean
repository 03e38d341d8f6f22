import Mathlib.Algebra.Group.Int
import Mathlib.Tactic.Set

/-!
# Endpoints and socket addresses

`IpEndpointName` is the library's own address type, a host-order address and
port; `sockaddr_in` is the kernel's, with both in network byte order. Two
helpers convert between them, and each maps the library's wildcards,
`IpEndpointName::ANY_ADDRESS` and `ANY_PORT`, to the kernel's, `INADDR_ANY`
and port 0, and back.

The wildcards are declared in `IpEndpointName.h`, which the sources do not
include, so they are parameters of everything here. The round trip from an
endpoint holds whatever their values (`endpoint_round_trips`). The round
trip from a socket address does not: a wildcard that is also a real address
or port – `ANY_ADDRESS = 0xFFFFFFFF` is the broadcast address 255.255.255.255 –
sends that address to `INADDR_ANY` and never back.

Byte order is modelled for the little-endian hosts the code is built for:
`htonl` and `htons` swap bytes, and `ntohl`, `ntohs` are the same swaps.
-/

namespace Oscpack

/-- The byte swap of a 32-bit word. -/
def byteSwap32 (x : Nat) : Nat :=
  x % 256 * 2 ^ 24 + x / 2 ^ 8 % 256 * 2 ^ 16 + x / 2 ^ 16 % 256 * 2 ^ 8 + x / 2 ^ 24 % 256

/-- The byte swap of a 16-bit word. -/
def byteSwap16 (x : Nat) : Nat := x % 256 * 2 ^ 8 + x / 2 ^ 8 % 256

/-- `htonl`: the argument is a `uint32_t`, so the value is taken modulo
`2^32`. -/
def htonl (x : Nat) : Nat := byteSwap32 (x % 2 ^ 32)

/-- `ntohl`: the same byte swap as `htonl`, of the `uint32_t` value taken
modulo `2^32`. -/
def ntohl (x : Nat) : Nat := byteSwap32 (x % 2 ^ 32)

/-- `htons`: the argument is a `uint16_t`, so an `int` port is taken modulo
`2^16`. -/
def htons (x : Int) : Nat := byteSwap16 (x % 2 ^ 16).toNat

/-- `ntohs`: the byte swap of the `uint16_t` value taken modulo `2^16`. -/
def ntohs (x : Nat) : Nat := byteSwap16 (x % 2 ^ 16)

/-- `AF_UNSPEC`, the family that makes `connect()` dissolve an association. -/
def AF_UNSPEC : Nat := 0

/-- `AF_INET`, the family of every `sockaddr_in` the code builds. -/
def AF_INET : Nat := 2

/-- `INADDR_ANY`, the wildcard address `0`. -/
def INADDR_ANY : Nat := 0

/-- An `IpEndpointName`: an `unsigned long` address and an `int` port, in host
order. -/
structure IpEndpointName where
  /-- The IPv4 address, or `ANY_ADDRESS`. -/
  address : Nat
  /-- The port, or `ANY_PORT`. -/
  port : Int
  deriving DecidableEq, Repr

/-- A `sockaddr_in`, zeroed and then filled: the family, and the address and
port in network order. -/
structure SockaddrIn where
  /-- The address family. -/
  sin_family : Nat
  /-- `sin_addr.s_addr`, the address in network order. -/
  sin_addr : Nat
  /-- The port in network order. -/
  sin_port : Nat
  deriving DecidableEq, Repr

section Wildcards

/- `IpEndpointName::ANY_ADDRESS` and `IpEndpointName::ANY_PORT`, declared in
the missing `IpEndpointName.h`. -/
variable (ANY_ADDRESS : Nat) (ANY_PORT : Int)

/-- `SockaddrFromIpEndpointName`: family `AF_INET`, the wildcards as
`INADDR_ANY` and port `0`, any other address and port in network order. -/
def sockaddrFromIpEndpointName (endpoint : IpEndpointName) : SockaddrIn where
  sin_family := AF_INET
  sin_addr := if endpoint.address = ANY_ADDRESS then INADDR_ANY else htonl endpoint.address
  sin_port := if endpoint.port = ANY_PORT then 0 else htons endpoint.port

/-- `IpEndpointNameFromSockaddr`: the reading back, `INADDR_ANY` and port `0`
as the wildcards, anything else in host order. -/
def ipEndpointNameFromSockaddr (sockAddr : SockaddrIn) : IpEndpointName where
  address := if sockAddr.sin_addr = INADDR_ANY then ANY_ADDRESS else ntohl sockAddr.sin_addr
  port := if sockAddr.sin_port = 0 then ANY_PORT else (ntohs sockAddr.sin_port : Int)

@[simp] theorem sin_family_sockaddrFromIpEndpointName (endpoint : IpEndpointName) :
    (sockaddrFromIpEndpointName ANY_ADDRESS ANY_PORT endpoint).sin_family = AF_INET := rfl

end Wildcards

/-! ## Byte order -/

theorem byteSwap32_digits {a b c d : Nat} (ha : a < 256) (hb : b < 256) (hc : c < 256)
    (hd : d < 256) :
    byteSwap32 (a * 2 ^ 24 + b * 2 ^ 16 + c * 2 ^ 8 + d) = d * 2 ^ 24 + c * 2 ^ 16 + b * 2 ^ 8 + a := by
  simp only [byteSwap32]
  omega

/-- A 32-bit word written as its four bytes. -/
theorem digits32 {y : Nat} (h : y < 2 ^ 32) :
    y = y / 2 ^ 24 % 256 * 2 ^ 24 + y / 2 ^ 16 % 256 * 2 ^ 16 + y / 2 ^ 8 % 256 * 2 ^ 8 + y % 256 := by
  omega

theorem byteSwap32_lt (x : Nat) : byteSwap32 x < 2 ^ 32 := by
  simp only [byteSwap32]; omega

/-- Swapping the bytes of a 32-bit word twice gives it back. -/
theorem byteSwap32_byteSwap32 {y : Nat} (h : y < 2 ^ 32) : byteSwap32 (byteSwap32 y) = y := by
  rw [digits32 h, byteSwap32_digits (by omega) (by omega) (by omega) (by omega),
    byteSwap32_digits (by omega) (by omega) (by omega) (by omega)]

theorem byteSwap32_eq_zero {y : Nat} (h : y < 2 ^ 32) : byteSwap32 y = 0 ↔ y = 0 :=
  ⟨fun h0 => by rw [← byteSwap32_byteSwap32 h, h0]; rfl, fun h0 => by rw [h0]; rfl⟩

theorem byteSwap16_digits {a b : Nat} (ha : a < 256) (hb : b < 256) :
    byteSwap16 (a * 2 ^ 8 + b) = b * 2 ^ 8 + a := by
  simp only [byteSwap16]
  omega

theorem byteSwap16_lt (x : Nat) : byteSwap16 x < 2 ^ 16 := by
  simp only [byteSwap16]; omega

theorem byteSwap16_byteSwap16 {y : Nat} (h : y < 2 ^ 16) : byteSwap16 (byteSwap16 y) = y := by
  rw [show y = y / 2 ^ 8 % 256 * 2 ^ 8 + y % 256 by omega,
    byteSwap16_digits (by omega) (by omega), byteSwap16_digits (by omega) (by omega)]

theorem byteSwap16_eq_zero {y : Nat} (h : y < 2 ^ 16) : byteSwap16 y = 0 ↔ y = 0 :=
  ⟨fun h0 => by rw [← byteSwap16_byteSwap16 h, h0]; rfl, fun h0 => by rw [h0]; rfl⟩

@[simp] theorem ntohl_htonl (x : Nat) : ntohl (htonl x) = x % 2 ^ 32 := by
  rw [ntohl, htonl, Nat.mod_eq_of_lt (byteSwap32_lt _), byteSwap32_byteSwap32 (Nat.mod_lt _ (by omega))]

@[simp] theorem htonl_ntohl (x : Nat) : htonl (ntohl x) = x % 2 ^ 32 := by
  rw [ntohl, htonl, Nat.mod_eq_of_lt (byteSwap32_lt _), byteSwap32_byteSwap32 (Nat.mod_lt _ (by omega))]

theorem htonl_eq_zero (x : Nat) : htonl x = 0 ↔ x % 2 ^ 32 = 0 :=
  byteSwap32_eq_zero (Nat.mod_lt _ (by omega))

/-- A port in `0 … 65535` passes through `htons` and `ntohs` unchanged. -/
theorem ntohs_htons {p : Int} (h0 : 0 ≤ p) (h1 : p < 2 ^ 16) : (ntohs (htons p) : Int) = p := by
  rw [ntohs, htons, Nat.mod_eq_of_lt (byteSwap16_lt _), byteSwap16_byteSwap16 (by omega)]
  omega

theorem htons_eq_zero (p : Int) : htons p = 0 ↔ p % 2 ^ 16 = 0 := by
  rw [htons, byteSwap16_eq_zero (by omega)]
  omega

@[simp] theorem htons_ntohs (x : Nat) : htons (ntohs x : Int) = x % 2 ^ 16 := by
  have := byteSwap16_lt (x % 2 ^ 16)
  have h : ((byteSwap16 (x % 2 ^ 16) : Int) % 2 ^ 16).toNat = byteSwap16 (x % 2 ^ 16) := by omega
  rw [htons, ntohs, h, byteSwap16_byteSwap16 (Nat.mod_lt _ (by omega))]

/-! ## The two round trips -/

section Wildcards

variable (ANY_ADDRESS : Nat) (ANY_PORT : Int)

/-- **An endpoint survives the trip through `sockaddr_in`**: a real address
(32 bits, not 0) or the wildcard, and a real port (1 to 65535) or the wildcard,
come back as they were, whatever the wildcards' values. -/
theorem ipEndpointNameFromSockaddr_sockaddrFromIpEndpointName (e : IpEndpointName)
    (ha : e.address < 2 ^ 32 ∧ e.address ≠ 0 ∨ e.address = ANY_ADDRESS)
    (hp : 1 ≤ e.port ∧ e.port ≤ 65535 ∨ e.port = ANY_PORT) :
    ipEndpointNameFromSockaddr ANY_ADDRESS ANY_PORT
      (sockaddrFromIpEndpointName ANY_ADDRESS ANY_PORT e) = e := by
  obtain ⟨address, port⟩ := e
  dsimp only at ha hp
  simp only [ipEndpointNameFromSockaddr, sockaddrFromIpEndpointName, IpEndpointName.mk.injEq]
  constructor
  · by_cases h : address = ANY_ADDRESS
    · simp [h, INADDR_ANY]
    · have ha' := ha.resolve_right h
      have hne : htonl address ≠ 0 := by rw [Ne, htonl_eq_zero]; omega
      simp (disch := omega) [h, hne, INADDR_ANY, Nat.mod_eq_of_lt]
  · by_cases h : port = ANY_PORT
    · simp [h]
    · have hp' := hp.resolve_right h
      have hne : htons port ≠ 0 := by rw [Ne, htons_eq_zero]; omega
      simp [h, hne, ntohs_htons (by omega : 0 ≤ port) (by omega : port < 2 ^ 16)]

/-- **A socket address survives the trip through `IpEndpointName`** exactly
when it is not mistaken for a wildcard: its address comes back iff it is
`INADDR_ANY` or its host-order value is not `ANY_ADDRESS`, and its port
comes back iff it is 0 or its host-order value is not `ANY_PORT`. -/
theorem sockaddrFromIpEndpointName_ipEndpointNameFromSockaddr (s : SockaddrIn)
    (ha : s.sin_addr < 2 ^ 32) (hp : s.sin_port < 2 ^ 16) :
    ((sockaddrFromIpEndpointName ANY_ADDRESS ANY_PORT
        (ipEndpointNameFromSockaddr ANY_ADDRESS ANY_PORT s)).sin_addr = s.sin_addr ↔
      s.sin_addr = 0 ∨ ntohl s.sin_addr ≠ ANY_ADDRESS) ∧
    ((sockaddrFromIpEndpointName ANY_ADDRESS ANY_PORT
        (ipEndpointNameFromSockaddr ANY_ADDRESS ANY_PORT s)).sin_port = s.sin_port ↔
      s.sin_port = 0 ∨ (ntohs s.sin_port : Int) ≠ ANY_PORT) := by
  obtain ⟨family, addr, port⟩ := s
  simp only [ipEndpointNameFromSockaddr, sockaddrFromIpEndpointName, INADDR_ANY] at ha hp ⊢
  constructor
  · by_cases h0 : addr = 0
    · simp [h0]
    · by_cases hany : ntohl addr = ANY_ADDRESS
      · simp [h0, hany, Ne.symm h0]
      · simp (disch := omega) [h0, hany, Nat.mod_eq_of_lt]
  · by_cases h0 : port = 0
    · simp [h0]
    · by_cases hany : (ntohs port : Int) = ANY_PORT
      · simp [h0, hany, Ne.symm h0]
      · simp (disch := omega) [h0, hany, Nat.mod_eq_of_lt]

/-- **The round trips between `IpEndpointName` and `sockaddr_in`**, for any
values of the two wildcards: every real or wildcard endpoint comes back from
`sockaddr_in`, and a socket address comes back from `IpEndpointName` exactly
when neither its address nor its port is mistaken for a wildcard. -/
theorem endpoint_round_trips :
    (∀ e : IpEndpointName, (e.address < 2 ^ 32 ∧ e.address ≠ 0 ∨ e.address = ANY_ADDRESS) →
      (1 ≤ e.port ∧ e.port ≤ 65535 ∨ e.port = ANY_PORT) →
      ipEndpointNameFromSockaddr ANY_ADDRESS ANY_PORT
        (sockaddrFromIpEndpointName ANY_ADDRESS ANY_PORT e) = e) ∧
    (∀ s : SockaddrIn, s.sin_addr < 2 ^ 32 → s.sin_port < 2 ^ 16 →
      ((sockaddrFromIpEndpointName ANY_ADDRESS ANY_PORT
          (ipEndpointNameFromSockaddr ANY_ADDRESS ANY_PORT s)).sin_addr = s.sin_addr ↔
        s.sin_addr = 0 ∨ ntohl s.sin_addr ≠ ANY_ADDRESS) ∧
      ((sockaddrFromIpEndpointName ANY_ADDRESS ANY_PORT
          (ipEndpointNameFromSockaddr ANY_ADDRESS ANY_PORT s)).sin_port = s.sin_port ↔
        s.sin_port = 0 ∨ (ntohs s.sin_port : Int) ≠ ANY_PORT)) :=
  ⟨ipEndpointNameFromSockaddr_sockaddrFromIpEndpointName ANY_ADDRESS ANY_PORT,
    sockaddrFromIpEndpointName_ipEndpointNameFromSockaddr ANY_ADDRESS ANY_PORT⟩

end Wildcards

/-- **The broadcast address does not come back.** With the wildcard address
`0xFFFFFFFF`, the socket address of 255.255.255.255 is read as the wildcard
and written back as `INADDR_ANY`. -/
theorem sockaddr_round_trip_fails_at_broadcast :
    ¬ ∀ s : SockaddrIn, s.sin_family = AF_INET → s.sin_addr < 2 ^ 32 → s.sin_port < 2 ^ 16 →
      (sockaddrFromIpEndpointName 0xFFFFFFFF (-1)
          (ipEndpointNameFromSockaddr 0xFFFFFFFF (-1) s)).sin_addr = s.sin_addr ∧
      (sockaddrFromIpEndpointName 0xFFFFFFFF (-1)
          (ipEndpointNameFromSockaddr 0xFFFFFFFF (-1) s)).sin_port = s.sin_port := by
  intro h
  have := (h ⟨AF_INET, 0xFFFFFFFF, 0⟩ rfl (by decide) (by decide)).1
  revert this
  decide

end Oscpack

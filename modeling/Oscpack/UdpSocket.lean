import Oscpack.Endpoint

/-!
# The UDP socket and its kernel association

`UdpSocketImplementation` keeps its own record of what it did to the socket –
`isBound_`, `isConnected_`, and the address `connectedAddr_` it connected to –
while the kernel keeps the socket's actual association. The two should agree:
a connected record over an unconnected socket makes `Send()` go nowhere, and
an unconnected record over a connected socket makes the kernel drop datagrams
from every other sender.

The model runs each operation against an explicit kernel state, with the
outcome of each system call as an input, so that every failure path can be
followed; a failed `connect()` leaves the kernel's association as it was.
`LocalEndpointFor()` is where this is delicate: it connects the socket to the
remote endpoint to learn which local address the kernel picks, and must then
put the old association back. Two paths skip that. `Connect()` writes
`connectedAddr_` before it knows `connect()` succeeded
(`connect_failure_breaks_agreement`), and `LocalEndpointFor()` throws on a
failed `getsockname()` with the socket still connected to the remote
(`localEndpointFor_getsockname_failure_breaks_agreement`).
-/

namespace Oscpack

/-- The `errno` values the code tests, and every other one. -/
inductive Errno where
  | EINTR
  | EAFNOSUPPORT
  | other (code : Nat)
  deriving DecidableEq, Repr

/-- What the kernel answers to `connect()` or `bind()`. -/
inductive SyscallResult where
  | ok
  | error (errno : Errno)
  deriving DecidableEq, Repr

/-- What `getsockname()` leaves behind: whether it succeeded, the structure it
filled (or what was in it before), and the length it reports. -/
structure GetsocknameResult where
  /-- The call returned 0. -/
  ok : Bool
  /-- The `sockaddr_in` it filled. -/
  addr : SockaddrIn
  /-- The length written back. -/
  len : Nat
  deriving DecidableEq, Repr

/-- `sizeof(sockaddr_in)`, the length of a whole address. -/
def sizeofSockaddrIn : Nat := 16

/-- The kernel's side of one UDP socket: the address it is bound to and the
peer it is connected to, if any. -/
structure KernelSocket where
  /-- The local address of a successful `bind()`. -/
  bound : Option SockaddrIn
  /-- The peer of a successful `connect()`. -/
  peer : Option SockaddrIn
  deriving DecidableEq, Repr

/-- `connect( socket_, addr )` as the kernel performs it: on success the socket
is connected to `addr`, or unconnected for an `AF_UNSPEC` address; a failure
changes nothing. The one exception is the failure the code tolerates: kernels
of the BSD family dissolve the association on an `AF_UNSPEC` address and then
report `EAFNOSUPPORT`. -/
def KernelSocket.connect (k : KernelSocket) (addr : SockaddrIn) : SyscallResult → KernelSocket
  | .ok => { k with peer := if addr.sin_family = AF_UNSPEC then none else some addr }
  | .error .EAFNOSUPPORT => if addr.sin_family = AF_UNSPEC then { k with peer := none } else k
  | .error _ => k

/-- `bind( socket_, addr )`: on success the socket is bound to `addr`. -/
def KernelSocket.bind (k : KernelSocket) (addr : SockaddrIn) : SyscallResult → KernelSocket
  | .ok => { k with bound := some addr }
  | .error _ => k

namespace KernelSocket

/-- **Associations are to real addresses**: a connected socket's peer is not
an `AF_UNSPEC` address. -/
def Wf (k : KernelSocket) : Prop := ∀ a, k.peer = some a → a.sin_family ≠ AF_UNSPEC

variable {k : KernelSocket} {a : SockaddrIn}

theorem AF_INET_ne_AF_UNSPEC : AF_INET ≠ AF_UNSPEC := by decide

@[simp] theorem peer_bind (k : KernelSocket) (a : SockaddrIn) (r : SyscallResult) :
    (k.bind a r).peer = k.peer := by
  cases r <;> rfl

theorem connect_ok (h : a.sin_family ≠ AF_UNSPEC) : k.connect a .ok = { k with peer := some a } := by
  simp [connect, h]

theorem peer_connect_ok (h : a.sin_family ≠ AF_UNSPEC) : (k.connect a .ok).peer = some a := by
  rw [connect_ok h]

/-- A failed `connect()` to a real address changes nothing. -/
theorem connect_error (h : a.sin_family ≠ AF_UNSPEC) (e : Errno) : k.connect a (.error e) = k := by
  cases e <;> simp [connect, h]

/-- What `connect()` can do to the association: keep it, dissolve it, or make
it the given real address. -/
theorem peer_connect_cases (k : KernelSocket) (a : SockaddrIn) (r : SyscallResult) :
    (k.connect a r).peer = k.peer ∨ (k.connect a r).peer = none ∨
      (k.connect a r).peer = some a ∧ a.sin_family ≠ AF_UNSPEC := by
  rcases r with _ | ⟨_ | _ | _⟩ <;> by_cases h : a.sin_family = AF_UNSPEC <;> simp [connect, h]

theorem Wf_connect (hk : k.Wf) (r : SyscallResult) : (k.connect a r).Wf := by
  intro b hb
  rcases peer_connect_cases k a r with h | h | ⟨h, hne⟩ <;> rw [h] at hb
  · exact hk b hb
  · cases hb
  · cases hb; exact hne

theorem Wf_bind (hk : k.Wf) (r : SyscallResult) : (k.bind a r).Wf := fun b hb =>
  hk b (by rwa [peer_bind] at hb)

end KernelSocket

/-- The state of a `UdpSocketImplementation`. -/
structure UdpSocketImplementation where
  /-- `Bind()` has succeeded. -/
  isBound_ : Bool
  /-- `Connect()` has associated the socket with a peer. -/
  isConnected_ : Bool
  /-- `socket_`, the descriptor. -/
  socket_ : Int
  /-- The peer the last `Connect()` chose, which `LocalEndpointFor()` connects
  to again afterwards. -/
  connectedAddr_ : SockaddrIn
  /-- The destination `SendTo()` fills in for each datagram. -/
  sendToAddr_ : SockaddrIn
  /-- The local port the last `Connect()` read back with `getsockname()`. -/
  localPort_ : Int
  deriving DecidableEq, Repr

/-- An operation's effect: the object, the kernel socket, and what it returned
or the text of the `std::runtime_error` it threw. -/
abbrev SocketStep (α : Type) := UdpSocketImplementation × KernelSocket × Except String α

/-- The text of the exception an operation threw, if it threw. -/
def thrownText {α : Type} : Except String α → Option String
  | .error e => some e
  | .ok _ => none

namespace UdpSocketImplementation

/-- The constructor, once `socket()` has returned the descriptor `fd`:
`sendToAddr_` is zeroed with family `AF_INET`, and `connectedAddr_` is left
uninitialised – it holds whatever `garbage` was there. -/
def make (fd : Int) (garbage : SockaddrIn) : UdpSocketImplementation :=
  ⟨false, false, fd, garbage, ⟨AF_INET, 0, 0⟩, 0⟩

/-- `IsBound()`: whether `Bind()` has succeeded. -/
def isBound (s : UdpSocketImplementation) : Bool := s.isBound_

/-- `LocalPort()`: the port the last `Connect()` read back. -/
def localPort (s : UdpSocketImplementation) : Int := s.localPort_

/-- `Socket()`: the descriptor. -/
def socket (s : UdpSocketImplementation) : Int := s.socket_

/-- **The record agrees with the kernel**: the socket is connected to
`connectedAddr_` when `isConnected_` holds, and unconnected otherwise. -/
def Agrees (s : UdpSocketImplementation) (k : KernelSocket) : Prop :=
  k.peer = if s.isConnected_ then some s.connectedAddr_ else none

instance (s : UdpSocketImplementation) (k : KernelSocket) : Decidable (s.Agrees k) :=
  inferInstanceAs (Decidable (_ = _))

section Wildcards

variable (ANY_ADDRESS : Nat) (ANY_PORT : Int)

/-- `Bind( localEndpoint )`: `bind()` on the endpoint's address, and `isBound_`
once it succeeds; a failure throws and changes nothing. -/
def bind (s : UdpSocketImplementation) (k : KernelSocket) (localEndpoint : IpEndpointName)
    (bindResult : SyscallResult) : SocketStep Unit :=
  let bindSockAddr := sockaddrFromIpEndpointName ANY_ADDRESS ANY_PORT localEndpoint
  match bindResult with
  | .error _ => (s, k, .error "unable to bind udp socket\n")
  | .ok => ({ s with isBound_ := true }, k.bind bindSockAddr .ok, .ok ())

/-- `Connect( remoteEndpoint )`. The remote address is written into
`connectedAddr_` *before* `connect()` is called. The result of `getsockname()`
is not checked; only the length it reports decides whether `localPort_` is
set. -/
def connect (s : UdpSocketImplementation) (k : KernelSocket) (remoteEndpoint : IpEndpointName)
    (connectResult : SyscallResult) (localSock : GetsocknameResult) : SocketStep Unit :=
  let s := { s with connectedAddr_ := sockaddrFromIpEndpointName ANY_ADDRESS ANY_PORT remoteEndpoint }
  let k := k.connect s.connectedAddr_ connectResult
  match connectResult with
  | .error _ => (s, k, .error "unable to connect udp socket\n")
  | .ok =>
    ({ s with
        localPort_ := if localSock.len = sizeofSockaddrIn then ntohs localSock.addr.sin_port
          else s.localPort_
        isConnected_ := true }, k, .ok ())

/-- The zeroed `AF_UNSPEC` address `LocalEndpointFor` connects to in order to
dissolve an association. -/
def unconnectSockAddr : SockaddrIn := ⟨AF_UNSPEC, 0, 0⟩

/-- `LocalEndpointFor( remoteEndpoint )`: connect to the remote endpoint, read
the local address the kernel chose, then reconnect to `connectedAddr_` or
dissolve the association, as the record says; an `EAFNOSUPPORT` from the
dissolving `connect()` is taken for success. The object is not changed. -/
def localEndpointFor (s : UdpSocketImplementation) (k : KernelSocket)
    (remoteEndpoint : IpEndpointName) (connectResult : SyscallResult)
    (sockAddr : GetsocknameResult) (restoreResult : SyscallResult) : SocketStep IpEndpointName :=
  let connectSockAddr := sockaddrFromIpEndpointName ANY_ADDRESS ANY_PORT remoteEndpoint
  let k := k.connect connectSockAddr connectResult
  match connectResult with
  | .error _ => (s, k, .error "unable to connect udp socket\n")
  | .ok =>
    if !sockAddr.ok then (s, k, .error "unable to getsockname\n")
    else if s.isConnected_ then
      let k := k.connect s.connectedAddr_ restoreResult
      match restoreResult with
      | .error _ => (s, k, .error "unable to connect udp socket\n")
      | .ok => (s, k, .ok (ipEndpointNameFromSockaddr ANY_ADDRESS ANY_PORT sockAddr.addr))
    else
      let k := k.connect unconnectSockAddr restoreResult
      match restoreResult with
      | .error e =>
        if e ≠ .EAFNOSUPPORT then (s, k, .error "unable to un-connect udp socket\n")
        else (s, k, .ok (ipEndpointNameFromSockaddr ANY_ADDRESS ANY_PORT sockAddr.addr))
      | .ok => (s, k, .ok (ipEndpointNameFromSockaddr ANY_ADDRESS ANY_PORT sockAddr.addr))

end Wildcards

/-- `Send( data, size )`: `send()` on the connected socket; its result is
ignored and nothing changes. -/
def send (s : UdpSocketImplementation) (k : KernelSocket) : SocketStep Unit := (s, k, .ok ())

/-- `SendTo( remoteEndpoint, data, size )`: `sendToAddr_` takes the endpoint,
converted with no wildcard mapping, and `sendto()`'s result is ignored. -/
def sendTo (s : UdpSocketImplementation) (k : KernelSocket) (remoteEndpoint : IpEndpointName) :
    SocketStep Unit :=
  ({ s with sendToAddr_ := { s.sendToAddr_ with
      sin_addr := htonl remoteEndpoint.address, sin_port := htons remoteEndpoint.port } }, k, .ok ())

/-! ### What each call does to the agreement -/

section Wildcards

variable {ANY_ADDRESS : Nat} {ANY_PORT : Int} {s : UdpSocketImplementation} {k : KernelSocket}

/-- A connected record over a consistent kernel holds a real address. -/
theorem Agrees.connectedAddr_ne (hs : s.Agrees k) (hk : k.Wf) (hc : s.isConnected_ = true) :
    s.connectedAddr_.sin_family ≠ AF_UNSPEC :=
  hk _ (by rw [hs, hc]; rfl)

theorem Agrees_bind (hs : s.Agrees k) (e : IpEndpointName) (r : SyscallResult) :
    (s.bind ANY_ADDRESS ANY_PORT k e r).1.Agrees (s.bind ANY_ADDRESS ANY_PORT k e r).2.1 := by
  cases r <;> simpa [bind, Agrees] using hs

theorem Agrees_connect_ok (e : IpEndpointName) (g : GetsocknameResult) :
    (s.connect ANY_ADDRESS ANY_PORT k e .ok g).1.Agrees (s.connect ANY_ADDRESS ANY_PORT k e .ok g).2.1 :=
  KernelSocket.peer_connect_ok (by simp [KernelSocket.AF_INET_ne_AF_UNSPEC])

/-- `LocalEndpointFor` is a `const` method: the object never changes. -/
@[simp] theorem fst_localEndpointFor (e : IpEndpointName) (r : SyscallResult)
    (g : GetsocknameResult) (r' : SyscallResult) :
    (s.localEndpointFor ANY_ADDRESS ANY_PORT k e r g r').1 = s := by
  rcases r with _ | _ <;> rcases r' with _ | e <;> simp [localEndpointFor, apply_ite Prod.fst]

theorem Agrees_localEndpointFor (hs : s.Agrees k) (hk : k.Wf) {e : IpEndpointName}
    {r r' : SyscallResult} {g : GetsocknameResult}
    (h : thrownText (s.localEndpointFor ANY_ADDRESS ANY_PORT k e r g r').2.2 = none) :
    s.Agrees (s.localEndpointFor ANY_ADDRESS ANY_PORT k e r g r').2.1 := by
  cases r with
  | error => simp [localEndpointFor, thrownText] at h
  | ok =>
    cases hg : g.ok
    · simp [localEndpointFor, thrownText, hg] at h
    cases hc : s.isConnected_
    · rcases r' with _ | ⟨_ | _ | _⟩ <;>
        simp [localEndpointFor, thrownText, hg, hc, Agrees, KernelSocket.connect,
          unconnectSockAddr] at h ⊢
    · rcases r' with _ | _ <;> simp [localEndpointFor, thrownText, hg, hc, Agrees] at h ⊢
      exact KernelSocket.peer_connect_ok (hs.connectedAddr_ne hk hc)

/-- **A failed `Connect()` forgets the association it leaves in place.** The
new address is written to `connectedAddr_` before `connect()` runs, so when
`connect()` fails on a connected socket the record names an address the
socket is not connected to. `Bind()` writes its address to a local and
changes the object only after the call succeeds. -/
theorem connect_failure_breaks_agreement {e : IpEndpointName} (hs : s.Agrees k)
    (hc : s.isConnected_ = true) (hne : sockaddrFromIpEndpointName ANY_ADDRESS ANY_PORT e ≠ s.connectedAddr_)
    (err : Errno) (g : GetsocknameResult) :
    (s.connect ANY_ADDRESS ANY_PORT k e (.error err) g).2 = (k, .error "unable to connect udp socket\n") ∧
      ¬ (s.connect ANY_ADDRESS ANY_PORT k e (.error err) g).1.Agrees k := by
  have hk : (k.connect (sockaddrFromIpEndpointName ANY_ADDRESS ANY_PORT e) (.error err)) = k :=
    KernelSocket.connect_error (by simp [KernelSocket.AF_INET_ne_AF_UNSPEC]) err
  refine ⟨by simp [connect, hk], fun h => hne ?_⟩
  simp only [connect, Agrees, hc, if_true] at h
  rw [hs, hc, if_pos rfl] at h
  exact (Option.some.inj h).symm

/-- **A failed `getsockname()` leaves the socket connected to the remote
endpoint**: `LocalEndpointFor()` throws before it restores the association. -/
theorem localEndpointFor_getsockname_failure_breaks_agreement {e : IpEndpointName}
    {g : GetsocknameResult} (hg : g.ok = false)
    (hne : s.isConnected_ = true → sockaddrFromIpEndpointName ANY_ADDRESS ANY_PORT e ≠ s.connectedAddr_)
    (r' : SyscallResult) :
    (s.localEndpointFor ANY_ADDRESS ANY_PORT k e .ok g r').2.2 = .error "unable to getsockname\n" ∧
      ¬ s.Agrees (s.localEndpointFor ANY_ADDRESS ANY_PORT k e .ok g r').2.1 := by
  refine ⟨by simp [localEndpointFor, hg], fun h => ?_⟩
  have hpeer : (k.connect (sockaddrFromIpEndpointName ANY_ADDRESS ANY_PORT e) .ok).peer =
      some (sockaddrFromIpEndpointName ANY_ADDRESS ANY_PORT e) :=
    KernelSocket.peer_connect_ok (by simp [KernelSocket.AF_INET_ne_AF_UNSPEC])
  cases hc : s.isConnected_ <;> simp_all [localEndpointFor, Agrees]

end Wildcards

end UdpSocketImplementation

/-- What `recvfrom()` returns: an error, or a datagram and its sender. -/
inductive RecvfromResult where
  | error
  | datagram (bytes : List UInt8) (fromAddr : SockaddrIn)
  deriving DecidableEq, Repr

/-- `ReceiveFrom( remoteEndpoint, data, size )`: on an error, 0 and the
endpoint untouched; otherwise the datagram's bytes that fit in `size`, their
number, and the sender in host order. It gives the count returned, the
endpoint after the call, and the bytes written to `data`. -/
def UdpSocketImplementation.receiveFrom (remoteEndpoint : IpEndpointName) (size : Nat) :
    RecvfromResult → Nat × IpEndpointName × List UInt8
  | .error => (0, remoteEndpoint, [])
  | .datagram bytes fromAddr =>
    ((bytes.take size).length, ⟨ntohl fromAddr.sin_addr, ntohs fromAddr.sin_port⟩, bytes.take size)

/-! ## Runs of operations -/

/-- One call on the socket, with the outcome of every system call it makes. -/
inductive SocketOp where
  | bind (localEndpoint : IpEndpointName) (bindResult : SyscallResult)
  | connect (remoteEndpoint : IpEndpointName) (connectResult : SyscallResult)
      (localSock : GetsocknameResult)
  | localEndpointFor (remoteEndpoint : IpEndpointName) (connectResult : SyscallResult)
      (sockAddr : GetsocknameResult) (restoreResult : SyscallResult)
  | send
  | sendTo (remoteEndpoint : IpEndpointName)
  deriving DecidableEq, Repr

namespace SocketOp

variable (ANY_ADDRESS : Nat) (ANY_PORT : Int)

/-- Perform one call: the object and the kernel socket after it, and the text
of what it threw, if it threw. -/
def apply (s : UdpSocketImplementation) (k : KernelSocket) :
    SocketOp → UdpSocketImplementation × KernelSocket × Option String
  | bind e r => forget (s.bind ANY_ADDRESS ANY_PORT k e r)
  | connect e r g => forget (s.connect ANY_ADDRESS ANY_PORT k e r g)
  | localEndpointFor e r g r' => forget (s.localEndpointFor ANY_ADDRESS ANY_PORT k e r g r')
  | send => forget (s.send k)
  | sendTo e => forget (s.sendTo k e)
where
  /-- Keep of a call's result only what it threw. -/
  forget {α : Type} (st : SocketStep α) : UdpSocketImplementation × KernelSocket × Option String :=
    (st.1, st.2.1, thrownText st.2.2)

/-- Perform the calls one after the other, whether each returns or throws: the
final object and kernel socket, and what each call threw. -/
def run (s : UdpSocketImplementation) (k : KernelSocket) :
    List SocketOp → UdpSocketImplementation × KernelSocket × List (Option String)
  | [] => (s, k, [])
  | op :: ops =>
    let r := op.apply ANY_ADDRESS ANY_PORT s k
    let rest := run r.1 r.2.1 ops
    (rest.1, rest.2.1, r.2.2 :: rest.2.2)

variable {ANY_ADDRESS ANY_PORT}

theorem Wf_apply {k : KernelSocket} (hk : k.Wf) (s : UdpSocketImplementation) (op : SocketOp) :
    (op.apply ANY_ADDRESS ANY_PORT s k).2.1.Wf := by
  rcases op with ⟨e, _ | _⟩ | ⟨e, _ | _, g⟩ | ⟨e, _ | _, g, _ | _⟩ | _ | e <;>
    simp only [apply, apply.forget, UdpSocketImplementation.bind, UdpSocketImplementation.connect,
      UdpSocketImplementation.localEndpointFor, UdpSocketImplementation.send,
      UdpSocketImplementation.sendTo] <;>
    repeat first
      | exact hk
      | exact KernelSocket.Wf_bind hk _
      | exact KernelSocket.Wf_connect hk _
      | exact KernelSocket.Wf_connect (KernelSocket.Wf_connect hk _) _
      | split

/-- **Every call that returns keeps the record in agreement with the kernel.** -/
theorem Agrees_apply {s : UdpSocketImplementation} {k : KernelSocket} (hs : s.Agrees k)
    (hk : k.Wf) (op : SocketOp) (h : (op.apply ANY_ADDRESS ANY_PORT s k).2.2 = none) :
    (op.apply ANY_ADDRESS ANY_PORT s k).1.Agrees (op.apply ANY_ADDRESS ANY_PORT s k).2.1 := by
  cases op with
  | bind e r => exact UdpSocketImplementation.Agrees_bind hs e r
  | connect e r g =>
    cases r
    · exact UdpSocketImplementation.Agrees_connect_ok e g
    · simp [apply, apply.forget, UdpSocketImplementation.connect, thrownText] at h
  | localEndpointFor e r g r' =>
    simpa [apply, apply.forget] using UdpSocketImplementation.Agrees_localEndpointFor hs hk h
  | send => exact hs
  | sendTo e => exact hs

/-- **Along a run in which no call throws, the record agrees with the kernel
at the end**, and so after every call, each prefix being such a run. -/
theorem Agrees_run {s : UdpSocketImplementation} {k : KernelSocket} (hs : s.Agrees k)
    (hk : k.Wf) (ops : List SocketOp) (h : ∀ t ∈ (run ANY_ADDRESS ANY_PORT s k ops).2.2, t = none) :
    (run ANY_ADDRESS ANY_PORT s k ops).1.Agrees (run ANY_ADDRESS ANY_PORT s k ops).2.1 := by
  induction ops generalizing s k with
  | nil => exact hs
  | cons op ops ih =>
    simp only [run, List.mem_cons] at h ⊢
    exact ih (Agrees_apply hs hk op (h _ (.inl rfl))) (Wf_apply hk s op) fun t ht => h t (.inr ht)

/-- A failed `bind()`, or a failed first `connect()` in `LocalEndpointFor()`,
changes nothing. -/
theorem apply_of_first_call_fails (s : UdpSocketImplementation) (k : KernelSocket)
    (e : IpEndpointName) (err : Errno) :
    (bind e (.error err)).apply ANY_ADDRESS ANY_PORT s k = (s, k, some "unable to bind udp socket\n") ∧
      ∀ g r', (localEndpointFor e (.error err) g r').apply ANY_ADDRESS ANY_PORT s k =
        (s, k, some "unable to connect udp socket\n") := by
  refine ⟨rfl, fun g r' => ?_⟩
  simp [apply, apply.forget, UdpSocketImplementation.localEndpointFor, thrownText,
    KernelSocket.connect_error _ err, KernelSocket.AF_INET_ne_AF_UNSPEC]

/-- **A failed restoring `connect()` leaves the socket connected to the remote
endpoint**: `LocalEndpointFor()` throws with the object unchanged. -/
theorem apply_of_restore_fails {s : UdpSocketImplementation} {k : KernelSocket}
    (hs : s.Agrees k) (hk : k.Wf) {e : IpEndpointName} {g : GetsocknameResult} (hg : g.ok = true)
    {err : Errno} (hthrow : s.isConnected_ = true ∨ err ≠ .EAFNOSUPPORT) :
    (localEndpointFor e .ok g (.error err)).apply ANY_ADDRESS ANY_PORT s k =
      (s, { k with peer := some (sockaddrFromIpEndpointName ANY_ADDRESS ANY_PORT e) },
        some (if s.isConnected_ then "unable to connect udp socket\n"
          else "unable to un-connect udp socket\n")) := by
  cases hc : s.isConnected_
  · have herr : err ≠ .EAFNOSUPPORT := by simpa [hc] using hthrow
    cases err <;> simp_all [apply, apply.forget, UdpSocketImplementation.localEndpointFor,
      thrownText, KernelSocket.connect, KernelSocket.AF_INET_ne_AF_UNSPEC]
  · simp [apply, apply.forget, UdpSocketImplementation.localEndpointFor, thrownText, hg, hc,
      KernelSocket.connect_error (hs.connectedAddr_ne hk hc),
      KernelSocket.connect_ok, KernelSocket.AF_INET_ne_AF_UNSPEC]

end SocketOp

/-! ## The record and the kernel -/

/-- A fresh socket is unbound and unconnected, on both sides. -/
theorem UdpSocketImplementation.Agrees_make (fd : Int) (garbage : SockaddrIn) :
    (UdpSocketImplementation.make fd garbage).Agrees ⟨none, none⟩ := rfl

theorem KernelSocket.Wf_fresh : (⟨none, none⟩ : KernelSocket).Wf := fun _ h => nomatch h

section Wildcards

variable (ANY_ADDRESS : Nat) (ANY_PORT : Int)

/-- **The record agrees with the kernel along every run of calls that
return.** Each call that returns keeps the agreement, so a run from a fresh
socket in which no call throws agrees after every call; a failed `bind()` or
first `connect()` changes nothing; and a `LocalEndpointFor()` whose restoring
`connect()` fails throws with the object unchanged and the socket connected to
the remote endpoint. -/
theorem socket_record_agrees_with_kernel :
    (∀ (op : SocketOp) (s : UdpSocketImplementation) (k : KernelSocket), s.Agrees k → k.Wf →
      (op.apply ANY_ADDRESS ANY_PORT s k).2.2 = none →
      (op.apply ANY_ADDRESS ANY_PORT s k).1.Agrees (op.apply ANY_ADDRESS ANY_PORT s k).2.1) ∧
    (∀ (fd : Int) (garbage : SockaddrIn) (ops : List SocketOp),
      (∀ t ∈ (SocketOp.run ANY_ADDRESS ANY_PORT (.make fd garbage) ⟨none, none⟩ ops).2.2, t = none) →
      (SocketOp.run ANY_ADDRESS ANY_PORT (.make fd garbage) ⟨none, none⟩ ops).1.Agrees
        (SocketOp.run ANY_ADDRESS ANY_PORT (.make fd garbage) ⟨none, none⟩ ops).2.1) ∧
    (∀ (s : UdpSocketImplementation) (k : KernelSocket) (e : IpEndpointName) (err : Errno),
      (SocketOp.bind e (.error err)).apply ANY_ADDRESS ANY_PORT s k =
          (s, k, some "unable to bind udp socket\n") ∧
        ∀ g r', (SocketOp.localEndpointFor e (.error err) g r').apply ANY_ADDRESS ANY_PORT s k =
          (s, k, some "unable to connect udp socket\n")) ∧
    (∀ (s : UdpSocketImplementation) (k : KernelSocket) (e : IpEndpointName)
        (g : GetsocknameResult) (err : Errno),
      s.Agrees k → k.Wf → g.ok = true → (s.isConnected_ = true ∨ err ≠ .EAFNOSUPPORT) →
      (SocketOp.localEndpointFor e .ok g (.error err)).apply ANY_ADDRESS ANY_PORT s k =
        (s, { k with peer := some (sockaddrFromIpEndpointName ANY_ADDRESS ANY_PORT e) },
          some (if s.isConnected_ then "unable to connect udp socket\n"
            else "unable to un-connect udp socket\n"))) :=
  ⟨fun op _ _ hs hk => SocketOp.Agrees_apply hs hk op,
    fun fd garbage => SocketOp.Agrees_run (UdpSocketImplementation.Agrees_make fd garbage)
      KernelSocket.Wf_fresh,
    SocketOp.apply_of_first_call_fails,
    fun _ _ _ _ _ hs hk hg hthrow => SocketOp.apply_of_restore_fails hs hk hg hthrow⟩

end Wildcards

/-- **A failed un-connect leaves a connected socket behind an unconnected
record.** A fresh socket is bound, then asked for its local endpoint towards
127.0.0.1:7000; `connect()` and `getsockname()` succeed, and the `connect()`
that should dissolve the association fails with `EINVAL`. The call throws and
the socket stays connected. -/
theorem unconnect_failure_leaves_socket_connected :
    ¬ ∀ (fd : Int) (garbage : SockaddrIn) (ops : List SocketOp),
      (SocketOp.run 0xFFFFFFFF (-1) (.make fd garbage) ⟨none, none⟩ ops).1.Agrees
        (SocketOp.run 0xFFFFFFFF (-1) (.make fd garbage) ⟨none, none⟩ ops).2.1 := by
  intro h
  have := h 3 ⟨0, 0, 0⟩ [.bind ⟨0xFFFFFFFF, 7001⟩ .ok,
    .localEndpointFor ⟨0x7F000001, 7000⟩ .ok ⟨true, ⟨AF_INET, 0x0100007F, 0x591B⟩, 16⟩
      (.error (.other 22))]
  revert this
  decide

/-! ## What the record remembers -/

namespace SocketOp

/-- The call is a `Bind()` whose `bind()` succeeded. -/
def binds : SocketOp → Bool
  | bind _ .ok => true
  | bind _ (.error _) | connect .. | localEndpointFor .. | send | sendTo _ => false

/-- The call is a `Connect()` whose `connect()` succeeded. -/
def connects : SocketOp → Bool
  | connect _ .ok _ => true
  | connect _ (.error _) _ | bind .. | localEndpointFor .. | send | sendTo _ => false

/-- The port a `Connect()` reads back: its `connect()` succeeded and
`getsockname()` reported a whole `sockaddr_in`. -/
def portReadBack : SocketOp → Option Int
  | connect _ .ok g => if g.len = sizeofSockaddrIn then some (ntohs g.addr.sin_port) else none
  | connect _ (.error _) _ | bind .. | localEndpointFor .. | send | sendTo _ => none

variable {ANY_ADDRESS : Nat} {ANY_PORT : Int}

/-- One call on the record: `isBound_` and `isConnected_` are set by a call
that succeeds and never cleared, `localPort_` changes only with a port read
back, and the descriptor stays. -/
theorem apply_record (s : UdpSocketImplementation) (k : KernelSocket) (op : SocketOp) :
    (op.apply ANY_ADDRESS ANY_PORT s k).1.isBound = (s.isBound || op.binds) ∧
    (op.apply ANY_ADDRESS ANY_PORT s k).1.isConnected_ = (s.isConnected_ || op.connects) ∧
    (op.apply ANY_ADDRESS ANY_PORT s k).1.localPort = op.portReadBack.getD s.localPort ∧
    (op.apply ANY_ADDRESS ANY_PORT s k).1.socket = s.socket := by
  rcases op with ⟨e, _ | _⟩ | ⟨e, _ | _, g⟩ | ⟨e, r, g, r'⟩ | _ | e
  case connect.ok =>
    by_cases hg : g.len = sizeofSockaddrIn <;>
      simp [apply, apply.forget, UdpSocketImplementation.connect, portReadBack, connects, binds,
        UdpSocketImplementation.isBound, UdpSocketImplementation.localPort,
        UdpSocketImplementation.socket, hg]
  all_goals simp [apply, apply.forget, UdpSocketImplementation.bind, UdpSocketImplementation.connect,
    UdpSocketImplementation.send, UdpSocketImplementation.sendTo, portReadBack, connects, binds,
    UdpSocketImplementation.isBound, UdpSocketImplementation.localPort, UdpSocketImplementation.socket]

/-- **The record is the history of the calls.** After any sequence of calls,
whether each returns or throws: `IsBound()` holds exactly when it held before
or some `Bind()` succeeded, `isConnected_` exactly when it held before or some
`Connect()`'s `connect()` succeeded, `LocalPort()` is the port read back by the
last `Connect()` whose `connect()` succeeded and whose `getsockname()`
reported a whole `sockaddr_in`, unchanged if there is none, and `Socket()` is
the same descriptor. In particular `Bind()` never sets `LocalPort()`. -/
theorem run_record (s : UdpSocketImplementation) (k : KernelSocket) (ops : List SocketOp) :
    (run ANY_ADDRESS ANY_PORT s k ops).1.isBound = (s.isBound || ops.any binds) ∧
    (run ANY_ADDRESS ANY_PORT s k ops).1.isConnected_ = (s.isConnected_ || ops.any connects) ∧
    (run ANY_ADDRESS ANY_PORT s k ops).1.localPort =
      (ops.filterMap portReadBack).getLast?.getD s.localPort ∧
    (run ANY_ADDRESS ANY_PORT s k ops).1.socket = s.socket := by
  induction ops generalizing s k with
  | nil => simp [run]
  | cons op ops ih =>
    obtain ⟨hb, hc, hp, hs⟩ := @apply_record ANY_ADDRESS ANY_PORT s k op
    obtain ⟨ihb, ihc, ihp, ihs⟩ := ih (op.apply ANY_ADDRESS ANY_PORT s k).1
      (op.apply ANY_ADDRESS ANY_PORT s k).2.1
    refine ⟨by rw [run, ihb, hb, List.any_cons, Bool.or_assoc],
      by rw [run, ihc, hc, List.any_cons, Bool.or_assoc], ?_, by rw [run, ihs, hs]⟩
    rw [run, ihp, hp]
    -- the last port read back is the one of `ops`, or else the one of `op`
    cases hop : op.portReadBack <;> cases hlast : (ops.filterMap portReadBack).getLast? <;>
      simp [List.filterMap_cons, hop, List.getLast?_cons, hlast]

end SocketOp

/-- A bound socket that then connects: bound, connected, and the port read back. -/
theorem run_record_bind_then_connect :
    let ops : List SocketOp := [.bind ⟨0xFFFFFFFF, 7001⟩ .ok,
      .connect ⟨0x7F000001, 7000⟩ .ok ⟨true, ⟨AF_INET, 0x0100007F, 0x5A1B⟩, 16⟩]
    let s := (SocketOp.run 0xFFFFFFFF (-1) (.make 3 ⟨0, 0, 0⟩) ⟨none, none⟩ ops).1
    s.localPort = 7002 ∧
    (s.isBound = ((UdpSocketImplementation.make 3 ⟨0, 0, 0⟩).isBound || ops.any SocketOp.binds) ∧
    s.isConnected_ = ((UdpSocketImplementation.make 3 ⟨0, 0, 0⟩).isConnected_ ||
      ops.any SocketOp.connects) ∧
    s.localPort = (ops.filterMap SocketOp.portReadBack).getLast?.getD
      (UdpSocketImplementation.make 3 ⟨0, 0, 0⟩).localPort ∧
    s.socket = (UdpSocketImplementation.make 3 ⟨0, 0, 0⟩).socket) := by
  intro ops s
  exact ⟨by decide, SocketOp.run_record _ _ ops⟩

end Oscpack

import Oscpack.UdpSocket
import Oscpack.TimerQueue

/-!
# The receive multiplexer

`SocketReceiveMultiplexerImplementation` holds the socket and timer
registrations, the stop flag `break_`, and the two ends of a pipe that wakes
`select()`. `Run()` is its event loop. It waits in `select()` on the pipe and
every registered socket, with a timeout that ends when the earliest timer is
due. Then it drains the pipe, reads one datagram from each readable socket and
hands it to that socket's listener, and fires the timers that are due.
`Break()` stops the loop from its own thread; `AsynchronousBreak()` stops it
from another by setting the flag and writing a byte into the pipe.

The loop is modelled as one thread of a small-step system. Other threads run
`AsynchronousBreak()` calls, each in two atomic steps, the store to `break_`
and the write to the pipe, and any interleaving is allowed. A step of the loop
touches the shared state (the flag and the pipe) at most once, where the code
does. What the loop gets from outside is an input of its step: a clock
reading, what `select()` reported, what `recvfrom()` returned, what a callback
did, and the order `std::sort` chose. These are constrained only as the
system calls constrain them: `select()` reports a subset of the descriptors it
was given, and the pipe exactly when it holds a byte; a sort is a sorted
permutation. Reading the datagram and calling `ProcessPacket()` is one step,
as is a callback with its effect on the flag and the pipe: neither touches
anything another thread reads.

Each step records the calls it makes in a ghost log, and the timer queue
carries ghost origins; the invariants in the modules that follow are stated
over every state reachable this way.
-/

namespace Oscpack

/-- The members of `SocketReceiveMultiplexerImplementation`. A socket is its
descriptor, a listener its identity. -/
structure SocketReceiveMultiplexerImplementation where
  /-- `socketListeners_`: `(listener, socket)` pairs in attachment order. -/
  socketListeners_ : List (Nat × Int)
  /-- `timerListeners_`: the timer registrations in attachment order. -/
  timerListeners_ : List AttachedTimerListener
  /-- `break_`, the stop flag. -/
  break_ : Bool
  /-- `breakPipe_`: the read end and the write end. -/
  breakPipe_ : Int × Int
  deriving DecidableEq, Repr

namespace SocketReceiveMultiplexerImplementation

variable (m : SocketReceiveMultiplexerImplementation)

/-- `AttachSocketListener( socket, listener )`; `none` where the `assert`
fails, on a pair already attached. -/
def attachSocketListener (socket : Int) (listener : Nat) :
    Option SocketReceiveMultiplexerImplementation :=
  if (listener, socket) ∈ m.socketListeners_ then none
  else some { m with socketListeners_ := m.socketListeners_ ++ [(listener, socket)] }

/-- `DetachSocketListener( socket, listener )`; `none` where the `assert`
fails, on a pair not attached. -/
def detachSocketListener (socket : Int) (listener : Nat) :
    Option SocketReceiveMultiplexerImplementation :=
  if (listener, socket) ∈ m.socketListeners_ then
    some { m with socketListeners_ := m.socketListeners_.erase (listener, socket) }
  else none

/-- `AttachPeriodicTimerListener( initialDelayMilliseconds, periodMilliseconds, listener )`:
the registration goes at the end of `timerListeners_`. -/
def attachPeriodicTimerListener (initialDelayMilliseconds periodMilliseconds : Int)
    (listener : Nat) : SocketReceiveMultiplexerImplementation :=
  { m with timerListeners_ :=
      m.timerListeners_ ++ [⟨initialDelayMilliseconds, periodMilliseconds, listener⟩] }

/-- `AttachPeriodicTimerListener( periodMilliseconds, listener )`: the first
call after one period. -/
def attachPeriodicTimerListener.ofPeriod (periodMilliseconds : Int) (listener : Nat) :
    SocketReceiveMultiplexerImplementation :=
  m.attachPeriodicTimerListener periodMilliseconds periodMilliseconds listener

/-- `DetachPeriodicTimerListener( listener )`: the first registration of the
listener goes; `none` where the `assert` fails, on a listener not attached. -/
def detachPeriodicTimerListener (listener : Nat) : Option SocketReceiveMultiplexerImplementation :=
  match m.timerListeners_.findIdx? (·.listener == listener) with
  | none => none
  | some i => some { m with timerListeners_ := m.timerListeners_.eraseIdx i }

/-- The `assert` in `AttachSocketListener` keeps every pair attached once. -/
theorem nodup_attachSocketListener {m' : SocketReceiveMultiplexerImplementation} {socket : Int}
    {listener : Nat} (hm : m.socketListeners_.Nodup) (h : m.attachSocketListener socket listener = some m') :
    m'.socketListeners_.Nodup := by
  unfold attachSocketListener at h
  split at h
  · cases h
  · rename_i hnew
    cases h
    refine List.pairwise_append.mpr ⟨hm, List.pairwise_singleton _ _, ?_⟩
    rintro a ha b hb rfl
    exact hnew (List.mem_singleton.mp hb ▸ ha)

/-- Detaching a pair removes it, and keeps the pairs distinct. -/
theorem nodup_detachSocketListener {m' : SocketReceiveMultiplexerImplementation} {socket : Int}
    {listener : Nat} (hm : m.socketListeners_.Nodup) (h : m.detachSocketListener socket listener = some m') :
    m'.socketListeners_.Nodup ∧ (listener, socket) ∉ m'.socketListeners_ := by
  unfold detachSocketListener at h
  split at h
  · cases h
    exact ⟨hm.erase _, hm.not_mem_erase⟩
  · cases h

/-- **Detaching right after attaching.** A socket pair just attached is detached
again, and the registrations are as they were. A timer listener just attached
loses its first registration: the one just made if it had none before, and
otherwise its oldest, so that the new one stays at the end of the list. -/
theorem detach_after_attach :
    (∀ socket listener m', m.attachSocketListener socket listener = some m' →
      m'.detachSocketListener socket listener = some m) ∧
    ∀ initialDelayMilliseconds periodMilliseconds listener,
      (m.attachPeriodicTimerListener initialDelayMilliseconds periodMilliseconds listener
        ).detachPeriodicTimerListener listener =
        some ((m.detachPeriodicTimerListener listener).elim m
          (·.attachPeriodicTimerListener initialDelayMilliseconds periodMilliseconds listener)) := by
  refine ⟨fun socket listener m' h => ?_, fun d p l => ?_⟩
  · unfold attachSocketListener at h
    split at h
    · cases h
    · rename_i hnew
      cases h
      rw [detachSocketListener, if_pos (List.mem_append_right _ (List.mem_singleton_self _)),
        List.erase_append_right _ hnew, List.erase_cons_head, List.append_nil]
  · simp only [detachPeriodicTimerListener, attachPeriodicTimerListener, List.findIdx?_append]
    cases h : m.timerListeners_.findIdx? (·.listener == l) with
    | none =>
      -- the new registration is the listener's only one
      simp [List.findIdx?_cons, List.eraseIdx_append_of_length_le (Nat.le_refl _)]
    | some i =>
      -- an older registration of the listener goes first
      have hi := (List.findIdx?_eq_some_iff_findIdx_eq.mp h).1
      simp [List.eraseIdx_append_of_lt_length hi]

/-- A pair attached to a multiplexer with none, and a timer listener attached
again: detaching it removes its first registration. -/
theorem detach_after_attach_of_timer_twice :
    let m : SocketReceiveMultiplexerImplementation := ⟨[], [⟨0, 10, 9⟩], false, (3, 4)⟩
    m.attachSocketListener 5 7 = some ⟨[(7, 5)], [⟨0, 10, 9⟩], false, (3, 4)⟩ ∧
      ((∀ socket listener m', m.attachSocketListener socket listener = some m' →
        m'.detachSocketListener socket listener = some m) ∧
      ∀ initialDelayMilliseconds periodMilliseconds listener,
        (m.attachPeriodicTimerListener initialDelayMilliseconds periodMilliseconds listener
          ).detachPeriodicTimerListener listener =
          some ((m.detachPeriodicTimerListener listener).elim m
            (·.attachPeriodicTimerListener initialDelayMilliseconds periodMilliseconds listener))) :=
  ⟨rfl, detach_after_attach _⟩

end SocketReceiveMultiplexerImplementation

/-- `MAX_BUFFER_SIZE`: the size of the buffer `Run()` allocates, the most one
`recvfrom()` reads. -/
def MAX_BUFFER_SIZE : Nat := 4098

/-- The datagram that stops the loop: with `size == 8`, `strcmp( data,
"__stop_" ) == 0` holds exactly for these eight bytes. -/
def stopDatagram : List UInt8 := "__stop_".toList.map Char.toUInt8 ++ [0]

/-- A call of the stop functions that a callback makes on the loop's own
thread. The constructors keep the functions' capitals: `break` is a keyword of
Lean. -/
inductive BreakCall where
  /-- `Break()`: sets `break_`. -/
  | Break
  /-- `AsynchronousBreak()`: sets `break_` and writes one byte to the pipe. -/
  | AsynchronousBreak
  deriving DecidableEq, Repr

/-- What a `ProcessPacket()` or `TimerExpired()` callback does that `Run()`
sees: the `Break()` and `AsynchronousBreak()` calls it makes, in order, and
the exception it ends with, if it throws. -/
structure HandlerEffect where
  /-- The stop calls made, in order. -/
  breaks : List BreakCall
  /-- The `what()` of the exception thrown, or none for a callback that returns. -/
  raised : Option String
  deriving DecidableEq, Repr

namespace HandlerEffect

/-- A callback that returns and calls neither `Break()` nor `AsynchronousBreak()`. -/
def returns : HandlerEffect := ⟨[], Option.none⟩

/-- The callback stopped the loop: it called `Break()` or `AsynchronousBreak()`. -/
def stops (effect : HandlerEffect) : Bool := !effect.breaks.isEmpty

/-- The bytes the callback wrote to the pipe, one per `AsynchronousBreak()`. -/
def pipeBytes (effect : HandlerEffect) : Nat := effect.breaks.count .AsynchronousBreak

end HandlerEffect

/-- What `select()` returns: -1 with an `errno`, or success with the
descriptors it left set in `tempfds`. -/
inductive SelectOutcome where
  | error (errno : Errno)
  | ready (fds : List Int)
  deriving DecidableEq, Repr

/-- The calls of `Run()` the ghost log records. -/
inductive Event where
  | getCurrentTimeMs (t : Int)
  | select (nfds : Int) (readfds : List Int) (timeoutMs : Option Int) (outcome : SelectOutcome)
  | read (fd : Int)
  | receiveFrom (registration : Nat) (socket : Int) (size : Nat) (data : List UInt8)
      (remoteEndpoint : IpEndpointName)
  | processPacket (listener : Nat) (data : List UInt8) (size : Nat)
      (remoteEndpoint : IpEndpointName) (effect : HandlerEffect)
  | timerExpired (call : ScheduledTimerCall) (effect : HandlerEffect)
  deriving DecidableEq, Repr

/-- Where an `AsynchronousBreak()` call on another thread is: called, past its
store to `break_`, or returned after writing to the pipe. -/
inductive AsyncStage where
  | called
  | stored
  | returned
  deriving DecidableEq, Repr

/-- An `AsynchronousBreak()` call on another thread. -/
structure AsyncCall where
  /-- How far it is. -/
  stage : AsyncStage
  /-- Ghost: its store to `break_` came after `Run()` reset the flag. -/
  storedAfterReset : Bool
  deriving DecidableEq, Repr

/-- Where the loop thread is in `Run()`. -/
inductive Pc where
  /-- `break_ = false;` -/
  | start
  /-- Building the descriptor set and, from one clock reading, the timer queue. -/
  | setup
  /-- The first `std::sort`, with the setup's allocations. -/
  | initialSort
  /-- `while( !break_ )`. -/
  | head
  /-- `tempfds = masterfds;` and the timeout from the front entry. -/
  | timeout
  /-- `select( fdmax + 1, &tempfds, 0, 0, timeoutPtr )`. -/
  | select
  /-- `select()` failed: `if( break_ ) break;`, then `errno`. -/
  | selectFailed (errno : Errno)
  /-- `if( FD_ISSET( breakPipe_[0], &tempfds ) )`: read one byte. -/
  | drain
  /-- `if( break_ ) break;` -/
  | checkBreak
  /-- The socket loop at registration `i`. -/
  | sockets (i : Nat)
  /-- `if( break_ ) break;` after `ProcessPacket()` for registration `i`. -/
  | afterPacket (i : Nat)
  /-- `currentTimeMs = GetCurrentTimeMs();` -/
  | timerClock
  /-- The timer loop at entry `i`. -/
  | timers (i : Nat)
  /-- `if( break_ ) break;` after `TimerExpired()` for entry `i`. -/
  | afterTimer (i : Nat)
  /-- `if( resort ) std::sort(...)`. -/
  | resorting
  /-- `Run()` has returned, or thrown `exception`. -/
  | exited (exception : Option String)
  deriving DecidableEq, Repr

/-- Past the setup: the descriptor set and the timer queue are built. -/
def Pc.built : Pc → Bool
  | .start | .setup => false
  | _ => true

/-- The system while `Run()` executes: the multiplexer's members, the pipe's
contents, `Run()`'s locals, the `AsynchronousBreak()` calls of other threads,
and ghost state. -/
structure System where
  /-- The multiplexer's socket registrations. -/
  socketListeners_ : List (Nat × Int)
  /-- The multiplexer's timer registrations. -/
  timerListeners_ : List AttachedTimerListener
  /-- The stop flag, shared with other threads. -/
  break_ : Bool
  /-- The pipe's read end and write end. -/
  breakPipe_ : Int × Int
  /-- The number of bytes in the pipe. -/
  pipe : Nat
  /-- Where the loop thread is. -/
  pc : Pc
  /-- `masterfds`: the pipe's read end and every registered socket. -/
  masterfds : List Int
  /-- `tempfds`: the copy of `masterfds` that `select()` narrows to the readable
  descriptors. -/
  tempfds : List Int
  /-- `fdmax`: the largest descriptor of `masterfds`. -/
  fdmax : Int
  /-- `currentTimeMs`: the clock reading of the setup or of the last timer
  phase. -/
  currentTimeMs : Int
  /-- `timerQueue_`: the registrations with their next fire times. -/
  timerQueue_ : List ScheduledTimerCall
  /-- `remoteEndpoint`: the sender of the last datagram read. -/
  remoteEndpoint : IpEndpointName
  /-- `timeoutMs`, or none for a null `timeoutPtr`. -/
  timeoutMs : Option Int
  /-- `resort`: an entry has moved on in this timer phase. -/
  resort : Bool
  /-- The `AsynchronousBreak()` calls of other threads. -/
  calls : List AsyncCall
  /-- Ghost: the calls `Run()` made, in order. -/
  log : List Event
  /-- Ghost: the clock reading the queue was built from. -/
  t0 : Int
  /-- Ghost: the timer queue when the current iteration began. -/
  iterQueue : List ScheduledTimerCall
  /-- Ghost: the origin of an entry whose `TimerExpired()` call has not been
  followed by its advance. -/
  unadvanced : Option Nat
  deriving DecidableEq

/-- `Run()` entered: the multiplexer as it was, the pipe holding what earlier
`AsynchronousBreak()` calls left, a default-constructed `remoteEndpoint`, and
calls of other threads in flight. -/
def System.init (m : SocketReceiveMultiplexerImplementation) (pipe : Nat)
    (remoteEndpoint : IpEndpointName) (calls : List AsyncStage) : System where
  socketListeners_ := m.socketListeners_
  timerListeners_ := m.timerListeners_
  break_ := m.break_
  breakPipe_ := m.breakPipe_
  pipe := pipe
  pc := .start
  masterfds := []
  tempfds := []
  fdmax := 0
  currentTimeMs := 0
  timerQueue_ := []
  remoteEndpoint := remoteEndpoint
  timeoutMs := none
  resort := false
  calls := calls.map fun stage => ⟨stage, false⟩
  log := []
  t0 := 0
  iterQueue := []
  unadvanced := none

/-- What the loop thread's next step gets from outside. -/
inductive LoopInput where
  /-- Nothing. -/
  | tick
  /-- A reading of `GetCurrentTimeMs()`. -/
  | clock (t : Int)
  /-- What `select()` returned. -/
  | select (outcome : SelectOutcome)
  /-- What `recvfrom()` returned, and what `ProcessPacket()` will do. -/
  | packet (result : RecvfromResult) (effect : HandlerEffect)
  /-- What `TimerExpired()` does. -/
  | callback (effect : HandlerEffect)
  /-- The order `std::sort` left the queue in. -/
  | sort (sorted : List ScheduledTimerCall)
  /-- An allocation of the setup throws `std::bad_alloc`: a `push_back` onto the
  timer queue, or `new char[ MAX_BUFFER_SIZE ]`. -/
  | allocFail
  deriving DecidableEq, Repr

namespace System

variable (s : System)

/-- `fdmax`: the largest of the pipe's read end and the sockets. -/
def maxFd (pipeRead : Int) (sockets : List Int) : Int :=
  sockets.foldl (fun fdmax fd => if fdmax < fd then fd else fdmax) pipeRead

/-- What a callback's `Break()` and `AsynchronousBreak()` calls do to the
shared state: each sets the flag, and each `AsynchronousBreak()` adds a byte to
the pipe. -/
@[simp] def applyEffect (effect : HandlerEffect) : System :=
  { s with break_ := s.break_ || effect.stops, pipe := s.pipe + effect.pipeBytes }

/-- After a callback: its stop calls take effect, then the loop continues at
`next`, or leaves `Run()` with the exception the callback threw. -/
def afterCallback (effect : HandlerEffect) (next : Pc) : System :=
  match effect.raised with
  | some what => { s.applyEffect effect with pc := .exited (some what) }
  | none => { s.applyEffect effect with pc := next }

/-- The socket loop's body for registration `i`, a readable socket:
`ReceiveFrom()`, the stop datagram, and `ProcessPacket()`. -/
def receive (i listener : Nat) (socket : Int) (result : RecvfromResult)
    (effect : HandlerEffect) : System :=
  let (size, remoteEndpoint, data) :=
    UdpSocketImplementation.receiveFrom s.remoteEndpoint MAX_BUFFER_SIZE result
  let s : System := { s with
    remoteEndpoint := remoteEndpoint
    log := s.log ++ [Event.receiveFrom i socket size data remoteEndpoint] }
  if size = 8 ∧ data = stopDatagram then { s with break_ := true, pc := .timerClock }
  else if 0 < size then
    afterCallback { s with log := s.log ++ [Event.processPacket listener data size remoteEndpoint effect] }
      effect (.afterPacket i)
  else { s with pc := .sockets (i + 1) }

/-- The timer loop's body for a due entry `e` at position `i`: `TimerExpired()`. -/
def expire (i : Nat) (e : ScheduledTimerCall) (effect : HandlerEffect) : System :=
  afterCallback { s with log := s.log ++ [.timerExpired e effect], unadvanced := some e.origin }
    effect (.afterTimer i)

/-- One step of the loop thread; `none` where the input does not fit. -/
def loopStep (input : LoopInput) : Option System :=
  match s.pc, input with
  | .start, .tick => some { s with break_ := false, pc := .setup }
  | .setup, .clock t =>
    let sockets := s.socketListeners_.map Prod.snd
    some { s with
      masterfds := s.breakPipe_.1 :: sockets
      fdmax := maxFd s.breakPipe_.1 sockets
      currentTimeMs := t
      timerQueue_ := buildTimerQueue t s.timerListeners_
      log := s.log ++ [.getCurrentTimeMs t]
      t0 := t
      pc := .initialSort }
  | .initialSort, .sort q =>
    if IsSortOf q s.timerQueue_ then some { s with timerQueue_ := q, pc := .head } else none
  | .initialSort, .allocFail => some { s with pc := .exited (some "std::bad_alloc") }
  | .head, .tick =>
    some (if s.break_ then { s with pc := .exited none }
      else { s with iterQueue := s.timerQueue_, pc := .timeout })
  | .timeout, .tick =>
    if s.timerQueue_ = [] then some { s with tempfds := s.masterfds, timeoutMs := none, pc := .select }
    else none
  | .timeout, .clock now =>
    if s.timerQueue_ = [] then none
    else some { s with
      tempfds := s.masterfds
      timeoutMs := selectTimeoutMs s.timerQueue_ now
      log := s.log ++ [.getCurrentTimeMs now]
      pc := .select }
  | .select, .select outcome =>
    let s' : System :=
      { s with log := s.log ++ [Event.select (s.fdmax + 1) s.tempfds s.timeoutMs outcome] }
    match outcome with
    | .error e => some { s' with pc := .selectFailed e }
    | .ready r =>
      if r.all (· ∈ s.tempfds) ∧ (s.breakPipe_.1 ∈ r ↔ 0 < s.pipe) then
        some { s' with tempfds := r, pc := .drain }
      else none
  | .selectFailed e, .tick =>
    some (if s.break_ then { s with pc := .exited none }
      else if e = .EINTR then { s with pc := .head }
      else { s with pc := .exited (some "select failed\n") })
  | .drain, .tick =>
    some (if s.breakPipe_.1 ∈ s.tempfds then
        { s with pipe := s.pipe - 1, log := s.log ++ [.read s.breakPipe_.1], pc := .checkBreak }
      else { s with pc := .checkBreak })
  | .checkBreak, .tick =>
    some (if s.break_ then { s with pc := .exited none } else { s with pc := .sockets 0 })
  | .sockets i, input =>
    match s.socketListeners_[i]?, input with
    | none, .tick => some { s with pc := .timerClock }
    | some (listener, socket), .packet result effect =>
      if socket ∈ s.tempfds then some (s.receive i listener socket result effect) else none
    | some (_, socket), .tick =>
      if socket ∈ s.tempfds then none else some { s with pc := .sockets (i + 1) }
    | _, _ => none
  | .afterPacket i, .tick =>
    some (if s.break_ then { s with pc := .timerClock } else { s with pc := .sockets (i + 1) })
  | .timerClock, .clock now =>
    some { s with
      currentTimeMs := now
      resort := false
      log := s.log ++ [.getCurrentTimeMs now]
      pc := .timers 0 }
  | .timers i, input =>
    match s.timerQueue_[i]?, input with
    | some e, .callback effect =>
      if e.first ≤ s.currentTimeMs then some (s.expire i e effect) else none
    | some e, .tick => if e.first ≤ s.currentTimeMs then none else some { s with pc := .resorting }
    | none, .tick => some { s with pc := .resorting }
    | _, _ => none
  | .afterTimer i, .tick =>
    if s.break_ then some { s with pc := .resorting }
    else match s.timerQueue_[i]? with
      | some e => some { s with
          timerQueue_ := s.timerQueue_.set i e.advance
          resort := true
          unadvanced := none
          pc := .timers (i + 1) }
      | none => none
  | .resorting, .tick => if s.resort then none else some { s with pc := .head }
  | .resorting, .sort q =>
    if s.resort ∧ IsSortOf q s.timerQueue_ then some { s with timerQueue_ := q, pc := .head }
    else none
  | _, _ => none

end System

/-- A step of the system: the loop thread's, or one of an `AsynchronousBreak()`
call on another thread. -/
inductive Action where
  /-- The loop thread steps with this input. -/
  | loop (input : LoopInput)
  /-- Another thread calls `AsynchronousBreak()`. -/
  | asyncCall
  /-- Call `t` stores `break_ = true`. -/
  | asyncStore (t : Nat)
  /-- Call `t` writes its byte to the pipe and returns. -/
  | asyncWrite (t : Nat)
  deriving DecidableEq, Repr

namespace System

/-- One step of the system; `none` where the action cannot happen. -/
def step (s : System) : Action → Option System
  | .loop input => s.loopStep input
  | .asyncCall => some { s with calls := s.calls ++ [⟨.called, false⟩] }
  | .asyncStore t =>
    match s.calls[t]? with
    | some ⟨.called, _⟩ =>
      some { s with break_ := true, calls := s.calls.set t ⟨.stored, decide (s.pc ≠ .start)⟩ }
    | _ => none
  | .asyncWrite t =>
    match s.calls[t]? with
    | some ⟨.stored, afterReset⟩ =>
      some { s with pipe := s.pipe + 1, calls := s.calls.set t ⟨.returned, afterReset⟩ }
    | _ => none

/-- Run the actions one after the other. -/
def run (s : System) : List Action → Option System
  | [] => some s
  | a :: as => (s.step a).bind fun s' => s'.run as

end System

/-- The states reachable from `Run()`'s entry. -/
inductive Reachable : System → Prop where
  | init (m : SocketReceiveMultiplexerImplementation) (pipe : Nat) (remoteEndpoint : IpEndpointName)
      (calls : List AsyncStage) : Reachable (System.init m pipe remoteEndpoint calls)
  | step {s s' : System} (a : Action) : Reachable s → s.step a = some s' → Reachable s'

theorem Reachable.run {s s' : System} (hs : Reachable s) (as : List Action)
    (h : s.run as = some s') : Reachable s' := by
  induction as generalizing s with
  | nil => cases h; exact hs
  | cons a as ih =>
    simp only [System.run, Option.bind_eq_some] at h
    obtain ⟨s₁, h₁, h₂⟩ := h
    exact ih (hs.step a h₁) h₂

end Oscpack

import Oscpack.Transition

/-!
# Every byte in the break pipe is accounted for

The pipe `breakPipe_` is written by `AsynchronousBreak()`, on another thread
or from inside a callback on the loop's own thread, and read by `Run()`, one
byte per iteration. Two things can go wrong with such a pipe. A byte can be
lost or counted twice, and a `read()` on an empty pipe blocks the loop for
good. The code guards against the second with its handling of `select()`:
it reads only when `select()` reported the pipe, and after a failed
`select()`, which leaves `tempfds` as it was, it starts the iteration again
rather than read.

Both hold in the model, over every interleaving of the loop with the other
threads. When the loop is about to read, the pipe holds a byte (`PipeInv`).
And the bytes in the pipe, together with those the loop has read, are the
bytes that were there at entry and those that calls of `AsynchronousBreak()`
have written since: one by each call on another thread that has returned, and
one by each call a callback made, however many it made
(`break_pipe_accounted`).
-/

namespace Oscpack

open System

/-! ## Bytes in and bytes out -/

namespace Event

/-- The call is `read( breakPipe_[0], &c, 1 )`. -/
def readsPipe : Event → Bool
  | .read _ => true
  | .getCurrentTimeMs _ | .select .. | .receiveFrom .. | .processPacket .. | .timerExpired .. =>
    false

/-- The bytes the call wrote to the pipe: one for each `AsynchronousBreak()`
the callback called. -/
def pipeWrites : Event → Nat
  | .processPacket _ _ _ _ effect | .timerExpired _ effect => effect.pipeBytes
  | .getCurrentTimeMs _ | .select .. | .read _ | .receiveFrom .. => 0

/-- The bytes the callbacks of a log wrote to the pipe. -/
def pipeWritten : List Event → Nat
  | [] => 0
  | ev :: log => ev.pipeWrites + pipeWritten log

@[simp] theorem pipeWritten_append (l₁ l₂ : List Event) :
    pipeWritten (l₁ ++ l₂) = pipeWritten l₁ + pipeWritten l₂ := by
  induction l₁ with
  | nil => simp [pipeWritten]
  | cons ev l₁ ih => simp [pipeWritten, ih, Nat.add_assoc]

end Event

/-- The calls of other threads that have written their byte and returned. -/
def writtenCalls (calls : List AsyncCall) : Nat := calls.countP (·.stage == .returned)

theorem writtenCalls_set_of_ne {calls : List AsyncCall} {t : Nat} {c c' : AsyncCall}
    (ht : calls[t]? = some c) (hc : c.stage ≠ .returned) :
    writtenCalls (calls.set t c') = writtenCalls calls + if c'.stage == .returned then 1 else 0 := by
  obtain ⟨hlt, rfl⟩ := List.getElem?_eq_some_iff.mp ht
  rw [writtenCalls, List.countP_set _ _ _ _ hlt, if_neg (by simpa using hc), Nat.sub_zero]
  rfl

/-- **When the loop is about to read the pipe, a byte is there.** The pipe is
read only right after a `select()` that reported it, and `select()` reports
it exactly when it holds a byte; between the two, other threads only add. -/
def PipeInv (s : System) : Prop := s.pc = .drain → s.breakPipe_.1 ∈ s.tempfds → 0 < s.pipe

namespace PipeInv

variable {s s' : System}

theorem init (m : SocketReceiveMultiplexerImplementation) (pipe : Nat)
    (remoteEndpoint : IpEndpointName) (calls : List AsyncStage) :
    PipeInv (System.init m pipe remoteEndpoint calls) := nofun

theorem step (hi : PipeInv s) (ht : Transition s s') : PipeInv s' := by
  cases ht
  case selectReady hpipe => exact fun _ => hpipe.mp
  case asyncCall => exact hi
  case asyncStore => exact hi
  case asyncWrite => exact fun hpc hr => Nat.succ_pos _
  all_goals exact nofun

end PipeInv

/-- **One transition moves bytes only between the pipe and its two ends**:
the loop's reads on one side, the writes of returned calls and callbacks on
the other. -/
theorem Transition.pipe_balance {s s' : System} (hi : PipeInv s) (ht : Transition s s') :
    s'.pipe + s'.log.countP Event.readsPipe + writtenCalls s.calls +
        Event.pipeWritten s.log =
      s.pipe + s.log.countP Event.readsPipe + writtenCalls s'.calls +
        Event.pipeWritten s'.log := by
  cases ht
  case drainRead hpc hr =>
    have := hi hpc hr
    simp [List.countP_append, Event.readsPipe, Event.pipeWritten, Event.pipeWrites]
    omega
  case asyncCall =>
    simp [writtenCalls, List.countP_append]
  case asyncStore t _ ht =>
    rw [writtenCalls_set_of_ne ht nofun]
    rfl
  case asyncWrite t _ ht =>
    rw [writtenCalls_set_of_ne ht nofun]
    simp only [beq_self_eq_true, if_true]
    omega
  case receivePacket | receiveRaise | timerFire | timerRaise =>
    -- a callback writes one byte per `AsynchronousBreak()` it called
    simp [List.countP_append, Event.readsPipe, Event.pipeWritten, Event.pipeWrites]
    omega
  all_goals first | rfl | simp [List.countP_append, Event.readsPipe, Event.pipeWritten, Event.pipeWrites]

theorem run_pipe_balance {s s' : System} {acts : List Action} (hi : PipeInv s)
    (h : s.run acts = some s') :
    PipeInv s' ∧
      s'.pipe + s'.log.countP Event.readsPipe + writtenCalls s.calls +
          Event.pipeWritten s.log =
        s.pipe + s.log.countP Event.readsPipe + writtenCalls s'.calls +
          Event.pipeWritten s'.log := by
  induction acts generalizing s with
  | nil => cases h; exact ⟨hi, rfl⟩
  | cons a as ih =>
    simp only [System.run, Option.bind_eq_some] at h
    obtain ⟨s₁, h₁, h₂⟩ := h
    have ht := step_transition h₁
    obtain ⟨hi', hbal⟩ := ih (hi.step ht) h₂
    have := ht.pipe_balance hi
    exact ⟨hi', by omega⟩

/-- **No byte of the break pipe is lost or made up, and `Run()` never reads
an empty pipe.** Along every run from `Run()`'s entry, however the loop and
other threads interleave: the bytes in the pipe and the bytes the loop has
read are the bytes that were there at entry, one for each call of
`AsynchronousBreak()` on another thread that has returned since, and one for
each call of it a callback made, however many calls a callback makes; and whenever the loop is about to read a pipe
that `select()` reported, a byte is there. -/
theorem break_pipe_accounted (m : SocketReceiveMultiplexerImplementation) (pipe : Nat)
    (remoteEndpoint : IpEndpointName) (calls : List AsyncStage) (acts : List Action) (s : System)
    (hrun : (System.init m pipe remoteEndpoint calls).run acts = some s) :
    s.pipe + s.log.countP Event.readsPipe + calls.count .returned =
      pipe + writtenCalls s.calls + Event.pipeWritten s.log ∧
    (s.pc = .drain → s.breakPipe_.1 ∈ s.tempfds → 0 < s.pipe) := by
  obtain ⟨hi, hbal⟩ := run_pipe_balance (PipeInv.init m pipe remoteEndpoint calls) hrun
  have hinit : writtenCalls (calls.map fun stage => ⟨stage, false⟩) = calls.count .returned := by
    rw [writtenCalls, List.countP_map, List.count]
    rfl
  refine ⟨?_, hi⟩
  simp only [System.init, hinit, List.countP_nil, Event.pipeWritten] at hbal
  omega

/-- Another thread's call writes its byte while the loop waits, and the loop
reads it after `select()` reports the pipe. -/
theorem break_pipe_accounted_after_one_call :
    let m : SocketReceiveMultiplexerImplementation := ⟨[], [], false, (3, 4)⟩
    let acts : List Action := [.loop .tick, .loop (.clock 0), .loop (.sort []), .loop .tick,
      .asyncCall, .asyncStore 0, .asyncWrite 0, .loop .tick, .loop (.select (.ready [3])),
      .loop .tick]
    let s := ((System.init m 0 ⟨0, 0⟩ []).run acts).getD (System.init m 0 ⟨0, 0⟩ [])
    ((System.init m 0 ⟨0, 0⟩ []).run acts = some s ∧ s.pipe = 0 ∧
      s.log.countP Event.readsPipe = 1) ∧
    (s.pipe + s.log.countP Event.readsPipe + ([] : List AsyncStage).count .returned =
      0 + writtenCalls s.calls + Event.pipeWritten s.log ∧
    (s.pc = .drain → s.breakPipe_.1 ∈ s.tempfds → 0 < s.pipe)) := by
  intro m acts s
  have hrun : (System.init m 0 ⟨0, 0⟩ []).run acts = some s := by decide
  exact ⟨⟨hrun, by decide, by decide⟩, break_pipe_accounted m 0 ⟨0, 0⟩ [] acts s hrun⟩

end Oscpack

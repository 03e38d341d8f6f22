import Oscpack.Multiplexer

/-!
# What a step can do

`Transition s s'` lists, one constructor per branch of the code, every way the
system can move from `s` to `s'`, with the state it moves to written out.
Every step of the model is one of them (`System.step_transition`), so an
invariant is proved by one case per branch, without unfolding the step
function again. The registrations and the pipe's descriptors never change
while `Run()` executes (`Transition.socketListeners_eq` and its siblings).
-/

namespace Oscpack

open System

/-- The ways the system moves. -/
inductive Transition (s : System) : System → Prop where
  /-- `break_ = false;` -/
  | reset (h : s.pc = .start) : Transition s { s with break_ := false, pc := .setup }
  /-- The descriptor set and the unsorted timer queue. -/
  | setup (h : s.pc = .setup) (t : Int) :
      Transition s { s with
        masterfds := s.breakPipe_.1 :: s.socketListeners_.map Prod.snd
        fdmax := maxFd s.breakPipe_.1 (s.socketListeners_.map Prod.snd)
        currentTimeMs := t
        timerQueue_ := buildTimerQueue t s.timerListeners_
        log := s.log ++ [.getCurrentTimeMs t]
        t0 := t
        pc := .initialSort }
  /-- The first `std::sort`. -/
  | initialSort (h : s.pc = .initialSort) (q : List ScheduledTimerCall)
      (hq : IsSortOf q s.timerQueue_) : Transition s { s with timerQueue_ := q, pc := .head }
  /-- An allocation of the setup throws `std::bad_alloc`, which `catch(...)`
  passes on. -/
  | allocFail (h : s.pc = .initialSort) : Transition s { s with pc := .exited (some "std::bad_alloc") }
  /-- `while( !break_ )` ends the loop. -/
  | exitAtHead (h : s.pc = .head) (hb : s.break_ = true) :
      Transition s { s with pc := .exited none }
  /-- `while( !break_ )` begins an iteration. -/
  | enter (h : s.pc = .head) (hb : s.break_ = false) :
      Transition s { s with iterQueue := s.timerQueue_, pc := .timeout }
  /-- No timers: no timeout. -/
  | noTimeout (h : s.pc = .timeout) (hq : s.timerQueue_ = []) :
      Transition s { s with tempfds := s.masterfds, timeoutMs := none, pc := .select }
  /-- The timeout from the front entry and a clock reading. -/
  | timeout (h : s.pc = .timeout) (hq : s.timerQueue_ ≠ []) (now : Int) :
      Transition s { s with
        tempfds := s.masterfds
        timeoutMs := selectTimeoutMs s.timerQueue_ now
        log := s.log ++ [.getCurrentTimeMs now]
        pc := .select }
  /-- `select()` fails. -/
  | selectError (h : s.pc = .select) (e : Errno) :
      Transition s { s with
        log := s.log ++ [.select (s.fdmax + 1) s.tempfds s.timeoutMs (.error e)]
        pc := .selectFailed e }
  /-- `select()` reports the descriptors `r`. -/
  | selectReady (h : s.pc = .select) (r : List Int) (hr : ∀ fd ∈ r, fd ∈ s.tempfds)
      (hpipe : s.breakPipe_.1 ∈ r ↔ 0 < s.pipe) :
      Transition s { s with
        log := s.log ++ [.select (s.fdmax + 1) s.tempfds s.timeoutMs (.ready r)]
        tempfds := r
        pc := .drain }
  /-- After a failed `select()`, `if( break_ ) break;` -/
  | failExit (h : s.pc = .selectFailed e) (hb : s.break_ = true) :
      Transition s { s with pc := .exited none }
  /-- After `EINTR`, `continue;` -/
  | failRetry (h : s.pc = .selectFailed .EINTR) (hb : s.break_ = false) :
      Transition s { s with pc := .head }
  /-- Any other failure throws. -/
  | failThrow (h : s.pc = .selectFailed e) (hb : s.break_ = false) (he : e ≠ .EINTR) :
      Transition s { s with pc := .exited (some "select failed\n") }
  /-- The pipe is readable: read one byte. -/
  | drainRead (h : s.pc = .drain) (hr : s.breakPipe_.1 ∈ s.tempfds) :
      Transition s { s with
        pipe := s.pipe - 1
        log := s.log ++ [.read s.breakPipe_.1]
        pc := .checkBreak }
  /-- The pipe is not readable. -/
  | drainSkip (h : s.pc = .drain) (hr : s.breakPipe_.1 ∉ s.tempfds) :
      Transition s { s with pc := .checkBreak }
  /-- `if( break_ ) break;` ends the loop. -/
  | checkExit (h : s.pc = .checkBreak) (hb : s.break_ = true) :
      Transition s { s with pc := .exited none }
  /-- On to the sockets. -/
  | checkPass (h : s.pc = .checkBreak) (hb : s.break_ = false) :
      Transition s { s with pc := .sockets 0 }
  /-- Past the last registration. -/
  | socketsDone (h : s.pc = .sockets i) (hi : s.socketListeners_[i]? = none) :
      Transition s { s with pc := .timerClock }
  /-- A socket that is not readable. -/
  | socketSkip (h : s.pc = .sockets i) (hi : s.socketListeners_[i]? = some (l, sock))
      (hs : sock ∉ s.tempfds) : Transition s { s with pc := .sockets (i + 1) }
  /-- The stop datagram. -/
  | receiveStop (h : s.pc = .sockets i) (hi : s.socketListeners_[i]? = some (l, sock))
      (hs : sock ∈ s.tempfds) (re : IpEndpointName)
      (hrecv : ∃ r, UdpSocketImplementation.receiveFrom s.remoteEndpoint MAX_BUFFER_SIZE r =
        (8, re, stopDatagram)) :
      Transition s { s with
        remoteEndpoint := re
        log := s.log ++ [.receiveFrom i sock 8 stopDatagram re]
        break_ := true
        pc := .timerClock }
  /-- A datagram for the listener, whose `ProcessPacket()` returns. -/
  | receivePacket (h : s.pc = .sockets i) (hi : s.socketListeners_[i]? = some (l, sock))
      (hs : sock ∈ s.tempfds) (size : Nat) (re : IpEndpointName) (data : List UInt8)
      (hrecv : ∃ r, UdpSocketImplementation.receiveFrom s.remoteEndpoint MAX_BUFFER_SIZE r =
        (size, re, data))
      (hpos : 0 < size) (hstop : ¬ (size = 8 ∧ data = stopDatagram)) (eff : HandlerEffect)
      (heff : eff.raised = none) :
      Transition s { s.applyEffect eff with
        remoteEndpoint := re
        log := s.log ++ [.receiveFrom i sock size data re] ++ [.processPacket l data size re eff]
        pc := .afterPacket i }
  /-- A datagram for the listener, whose `ProcessPacket()` throws after its
  stop calls. -/
  | receiveRaise (h : s.pc = .sockets i) (hi : s.socketListeners_[i]? = some (l, sock))
      (hs : sock ∈ s.tempfds) (size : Nat) (re : IpEndpointName) (data : List UInt8)
      (hrecv : ∃ r, UdpSocketImplementation.receiveFrom s.remoteEndpoint MAX_BUFFER_SIZE r =
        (size, re, data))
      (hpos : 0 < size) (hstop : ¬ (size = 8 ∧ data = stopDatagram)) (eff : HandlerEffect)
      (what : String) (heff : eff.raised = some what) :
      Transition s { s.applyEffect eff with
        remoteEndpoint := re
        log := s.log ++ [.receiveFrom i sock size data re] ++ [.processPacket l data size re eff]
        pc := .exited (some what) }
  /-- Nothing read: an error, or an empty datagram. -/
  | receiveEmpty (h : s.pc = .sockets i) (hi : s.socketListeners_[i]? = some (l, sock))
      (hs : sock ∈ s.tempfds) (re : IpEndpointName) (data : List UInt8)
      (hrecv : ∃ r, UdpSocketImplementation.receiveFrom s.remoteEndpoint MAX_BUFFER_SIZE r =
        (0, re, data)) :
      Transition s { s with
        remoteEndpoint := re
        log := s.log ++ [.receiveFrom i sock 0 data re]
        pc := .sockets (i + 1) }
  /-- After `ProcessPacket()`, `if( break_ ) break;` leaves the socket loop. -/
  | packetExit (h : s.pc = .afterPacket i) (hb : s.break_ = true) :
      Transition s { s with pc := .timerClock }
  /-- On to the next registration. -/
  | packetNext (h : s.pc = .afterPacket i) (hb : s.break_ = false) :
      Transition s { s with pc := .sockets (i + 1) }
  /-- `currentTimeMs = GetCurrentTimeMs();` and `resort = false;` -/
  | timerClock (h : s.pc = .timerClock) (now : Int) :
      Transition s { s with
        currentTimeMs := now
        resort := false
        log := s.log ++ [.getCurrentTimeMs now]
        pc := .timers 0 }
  /-- A due entry, whose `TimerExpired()` returns. -/
  | timerFire (h : s.pc = .timers i) (he : s.timerQueue_[i]? = some e)
      (hdue : e.first ≤ s.currentTimeMs) (eff : HandlerEffect) (heff : eff.raised = none) :
      Transition s { s.applyEffect eff with
        log := s.log ++ [.timerExpired e eff]
        unadvanced := some e.origin
        pc := .afterTimer i }
  /-- A due entry, whose `TimerExpired()` throws after its stop calls. -/
  | timerRaise (h : s.pc = .timers i) (he : s.timerQueue_[i]? = some e)
      (hdue : e.first ≤ s.currentTimeMs) (eff : HandlerEffect) (what : String)
      (heff : eff.raised = some what) :
      Transition s { s.applyEffect eff with
        log := s.log ++ [.timerExpired e eff]
        unadvanced := some e.origin
        pc := .exited (some what) }
  /-- The end of the queue, or an entry not yet due. -/
  | timersDone (h : s.pc = .timers i)
      (hnd : ∀ e, s.timerQueue_[i]? = some e → s.currentTimeMs < e.first) :
      Transition s { s with pc := .resorting }
  /-- After `TimerExpired()`, `if( break_ ) break;` leaves the timer loop. -/
  | timerBreak (h : s.pc = .afterTimer i) (hb : s.break_ = true) :
      Transition s { s with pc := .resorting }
  /-- `i->first += i->second.periodMs;` and `resort = true;` -/
  | timerAdvance (h : s.pc = .afterTimer i) (hb : s.break_ = false)
      (he : s.timerQueue_[i]? = some e) :
      Transition s { s with
        timerQueue_ := s.timerQueue_.set i e.advance
        resort := true
        unadvanced := none
        pc := .timers (i + 1) }
  /-- Nothing moved: no sort. -/
  | resortSkip (h : s.pc = .resorting) (hr : s.resort = false) :
      Transition s { s with pc := .head }
  /-- `std::sort` again. -/
  | resortSort (h : s.pc = .resorting) (hr : s.resort = true) (q : List ScheduledTimerCall)
      (hq : IsSortOf q s.timerQueue_) : Transition s { s with timerQueue_ := q, pc := .head }
  /-- Another thread calls `AsynchronousBreak()`. -/
  | asyncCall : Transition s { s with calls := s.calls ++ [⟨.called, false⟩] }
  /-- Call `t` stores `break_ = true`. -/
  | asyncStore (t : Nat) (ht : s.calls[t]? = some ⟨.called, g⟩) :
      Transition s { s with
        break_ := true
        calls := s.calls.set t ⟨.stored, decide (s.pc ≠ .start)⟩ }
  /-- Call `t` writes its byte and returns. -/
  | asyncWrite (t : Nat) (ht : s.calls[t]? = some ⟨.stored, g⟩) :
      Transition s { s with
        pipe := s.pipe + 1
        calls := s.calls.set t ⟨.returned, g⟩ }

end Oscpack

namespace Oscpack

namespace System

variable {s s' : System}

theorem calls_afterCallback (eff : HandlerEffect) (next : Pc) :
    (s.afterCallback eff next).calls = s.calls := by
  unfold afterCallback
  split <;> rfl

theorem calls_receive (i l : Nat) (sock : Int) (r : RecvfromResult) (eff : HandlerEffect) :
    (s.receive i l sock r eff).calls = s.calls := by
  unfold receive
  split
  split
  · rfl
  · split
    · exact calls_afterCallback ..
    · rfl

theorem calls_expire (i : Nat) (e : ScheduledTimerCall) (eff : HandlerEffect) :
    (s.expire i e eff).calls = s.calls :=
  calls_afterCallback ..

theorem receive_transition (h : s.pc = .sockets i) (hi : s.socketListeners_[i]? = some (l, sock))
    (hs : sock ∈ s.tempfds) (r : RecvfromResult) (eff : HandlerEffect) :
    Transition s (s.receive i l sock r eff) := by
  obtain ⟨⟨size, re, data⟩, hrecv⟩ :
      ∃ res, UdpSocketImplementation.receiveFrom s.remoteEndpoint MAX_BUFFER_SIZE r = res :=
    ⟨_, rfl⟩
  simp only [receive, hrecv]
  by_cases hstop : size = 8 ∧ data = stopDatagram
  · rw [if_pos hstop]
    obtain ⟨rfl, rfl⟩ := hstop
    exact .receiveStop h hi hs re ⟨r, hrecv⟩
  rw [if_neg hstop]
  by_cases hpos : 0 < size
  · rw [if_pos hpos]
    unfold afterCallback
    cases hr : eff.raised with
    | some what => exact .receiveRaise h hi hs size re data ⟨r, hrecv⟩ hpos hstop eff what hr
    | none => exact .receivePacket h hi hs size re data ⟨r, hrecv⟩ hpos hstop eff hr
  · rw [if_neg hpos]
    obtain rfl : size = 0 := by omega
    exact .receiveEmpty h hi hs re data ⟨r, hrecv⟩

theorem expire_transition (h : s.pc = .timers i) (he : s.timerQueue_[i]? = some e)
    (hdue : e.first ≤ s.currentTimeMs) (eff : HandlerEffect) :
    Transition s (s.expire i e eff) := by
  unfold expire afterCallback
  cases hr : eff.raised with
  | some what => exact .timerRaise h he hdue eff what hr
  | none => exact .timerFire h he hdue eff hr

/-- **Every step of the loop thread is one of the transitions**, and leaves the
calls of other threads as they were. -/
theorem loopStep_transition {input : LoopInput} (h : s.loopStep input = some s') :
    Transition s s' ∧ s'.calls = s.calls := by
  unfold loopStep at h
  split at h
  next hpc => cases h; exact ⟨.reset hpc, rfl⟩
  next t hpc => cases h; exact ⟨.setup hpc t, rfl⟩
  next q hpc =>
    split at h
    next hq => cases h; exact ⟨.initialSort hpc q hq, rfl⟩
    next => cases h
  next hpc => cases h; exact ⟨.allocFail hpc, rfl⟩
  next hpc =>
    by_cases hb : s.break_ = true
    · rw [if_pos hb] at h; cases h; exact ⟨.exitAtHead hpc hb, rfl⟩
    · rw [if_neg hb] at h; cases h; exact ⟨.enter hpc (by simpa using hb), rfl⟩
  next hpc =>
    split at h
    next hq => cases h; exact ⟨.noTimeout hpc hq, rfl⟩
    next => cases h
  next now hpc =>
    split at h
    next => cases h
    next hq => cases h; exact ⟨.timeout hpc hq now, rfl⟩
  next outcome hpc =>
    cases outcome with
    | error e => cases h; exact ⟨.selectError hpc e, rfl⟩
    | ready r =>
      simp only at h
      split at h
      next hc =>
        cases h
        exact ⟨.selectReady hpc r (by simpa using hc.1) hc.2, rfl⟩
      next => cases h
  next e hpc =>
    by_cases hb : s.break_ = true
    · rw [if_pos hb] at h; cases h; exact ⟨.failExit hpc hb, rfl⟩
    rw [if_neg hb] at h
    replace hb : s.break_ = false := by simpa using hb
    by_cases he : e = .EINTR
    · subst he; rw [if_pos rfl] at h; cases h; exact ⟨.failRetry hpc hb, rfl⟩
    · rw [if_neg he] at h; cases h; exact ⟨.failThrow hpc hb he, rfl⟩
  next hpc =>
    by_cases hr : s.breakPipe_.1 ∈ s.tempfds
    · rw [if_pos hr] at h; cases h; exact ⟨.drainRead hpc hr, rfl⟩
    · rw [if_neg hr] at h; cases h; exact ⟨.drainSkip hpc hr, rfl⟩
  next hpc =>
    by_cases hb : s.break_ = true
    · rw [if_pos hb] at h; cases h; exact ⟨.checkExit hpc hb, rfl⟩
    · rw [if_neg hb] at h; cases h; exact ⟨.checkPass hpc (by simpa using hb), rfl⟩
  next i input hpc =>
    split at h
    next hi => cases h; exact ⟨.socketsDone hpc hi, rfl⟩
    next l sock r eff hi =>
      split at h
      next hs => cases h; exact ⟨receive_transition hpc hi hs r eff, calls_receive ..⟩
      next => cases h
    next sock hi =>
      split at h
      next => cases h
      next hs => cases h; exact ⟨.socketSkip hpc hi hs, rfl⟩
    next => cases h
  next i hpc =>
    by_cases hb : s.break_ = true
    · rw [if_pos hb] at h; cases h; exact ⟨.packetExit hpc hb, rfl⟩
    · rw [if_neg hb] at h; cases h; exact ⟨.packetNext hpc (by simpa using hb), rfl⟩
  next now hpc => cases h; exact ⟨.timerClock hpc now, rfl⟩
  next i input hpc =>
    split at h
    next e eff he =>
      split at h
      next hdue => cases h; exact ⟨expire_transition hpc he hdue eff, calls_expire ..⟩
      next => cases h
    next e he =>
      split at h
      next => cases h
      next hdue =>
        cases h
        refine ⟨.timersDone hpc fun e' he' => ?_, rfl⟩
        rw [he] at he'
        cases he'
        omega
    next he =>
        cases h
        refine ⟨.timersDone hpc fun e' he' => ?_, rfl⟩
        rw [he] at he'
        cases he'
    next => cases h
  next i hpc =>
    split at h
    next hb => cases h; exact ⟨.timerBreak hpc hb, rfl⟩
    next hb =>
      split at h
      next e he => cases h; exact ⟨.timerAdvance hpc (by simpa using hb) he, rfl⟩
      next => cases h
  next hpc =>
    split at h
    next => cases h
    next hr => cases h; exact ⟨.resortSkip hpc (by simpa using hr), rfl⟩
  next q hpc =>
    split at h
    next hc => cases h; exact ⟨.resortSort hpc hc.1 q hc.2, rfl⟩
    next => cases h
  next => cases h

/-- **Every step is one of the transitions.** -/
theorem step_transition {a : Action} (h : s.step a = some s') : Transition s s' := by
  cases a with
  | loop input => exact (loopStep_transition h).1
  | asyncCall => cases h; exact .asyncCall
  | asyncStore t =>
    simp only [step] at h
    split at h
    · cases h; exact .asyncStore t ‹_›
    · cases h
  | asyncWrite t =>
    simp only [step] at h
    split at h
    · cases h; exact .asyncWrite t ‹_›
    · cases h

end System

end Oscpack

namespace Oscpack

/-- **Induction over reachable states**: what holds at `Run()`'s entry and is
kept by every transition holds in every reachable state. -/
theorem Reachable.induction {P : System → Prop}
    (init : ∀ m pipe remoteEndpoint calls, P (System.init m pipe remoteEndpoint calls))
    (step : ∀ {s s'}, Reachable s → P s → Transition s s' → P s') {s : System}
    (hs : Reachable s) : P s := by
  induction hs with
  | init m pipe remoteEndpoint calls => exact init m pipe remoteEndpoint calls
  | step a hs h ih => exact step hs ih (System.step_transition h)

namespace Transition

variable {s s' : System}

theorem socketListeners_eq (h : Transition s s') : s'.socketListeners_ = s.socketListeners_ := by
  cases h <;> rfl

theorem timerListeners_eq (h : Transition s s') : s'.timerListeners_ = s.timerListeners_ := by
  cases h <;> rfl

end Transition

/-- **What no transition changes, no run changes.** -/
theorem System.run_eq_of_transition {α : Type} {f : System → α}
    (hf : ∀ {s s'}, Transition s s' → f s' = f s) :
    ∀ {s s' : System} {as : List Action}, s.run as = some s' → f s' = f s
  | _, _, [], h => by cases h; rfl
  | _, _, _ :: _, h => by
    simp only [System.run, Option.bind_eq_some] at h
    obtain ⟨_, h₁, h₂⟩ := h
    exact (System.run_eq_of_transition hf h₂).trans (hf (System.step_transition h₁))

end Oscpack

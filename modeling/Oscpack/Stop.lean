import Oscpack.Transition

/-!
# Stopping from the loop thread

The loop thread sets the stop flag itself when a socket delivers the stop
datagram, or when a `ProcessPacket()` or `TimerExpired()` callback calls
`Break()` (or `AsynchronousBreak()`). The flag is tested by `while( !break_ )`,
after `select()`, after each `ProcessPacket()` and after each
`TimerExpired()`, but not before the timer phase. So a stop in the socket
phase leaves the socket loop, and the timer phase of the same iteration still
runs: it reads the clock, calls `TimerExpired()` on the front entry if that one
is due, and only then finds the flag set (`timer_fires_after_stop_datagram`).
What does hold is that no other call follows: after a stop in the socket phase
at most a clock reading and one `TimerExpired()`, and after a stop in a
`TimerExpired()` callback nothing at all (`stop_ends_dispatch`).
-/

namespace Oscpack

open System

namespace Event

/-- The loop thread set the stop flag with this call: it read the stop
datagram, or it is a callback that called `Break()` or `AsynchronousBreak()`. -/
def setsStop : Event → Bool
  | .receiveFrom _ _ size data _ => size == 8 && data == stopDatagram
  | .processPacket _ _ _ _ effect | .timerExpired _ effect => effect.stops
  | _ => false

/-- The call is a `TimerExpired()` callback. -/
def isTimerExpired : Event → Bool
  | .timerExpired .. => true
  | _ => false

/-- The call is a `ProcessPacket()` or `TimerExpired()` callback. -/
def isCallback : Event → Bool
  | .processPacket .. | .timerExpired .. => true
  | _ => false

end Event

/-- The calls made since the stop, once the loop is past its timer phase:
nothing after a stop in the timer phase; after a stop in the socket phase, at
most a clock reading and one `TimerExpired()`, on the front entry of the queue
`q` and only if that entry is due at the reading. -/
def Finished (q : List ScheduledTimerCall) (timerStop : Bool) (post : List Event) : Prop :=
  if timerStop then post = [] else
    post = [] ∨ (∃ t, post = [.getCurrentTimeMs t]) ∨
      ∃ t c eff, post = [.getCurrentTimeMs t, .timerExpired c eff] ∧ q.head? = some c ∧ c.first ≤ t

/-- Where the loop thread can be after it set the flag, and what it can have
called since, by the point it is at. After a stop in the socket phase nothing
moves an entry on, so the queue stays as it was. -/
def Stopping (s : System) (timerStop : Bool) (post : List Event) : Prop :=
  s.break_ = true ∧
  match s.pc with
  | .afterPacket _ | .timerClock => timerStop = false ∧ post = []
  | .timers i => timerStop = false ∧ i = 0 ∧ s.resort = false ∧
      post = [.getCurrentTimeMs s.currentTimeMs]
  | .afterTimer i => if timerStop then post = [] else
      i = 0 ∧ s.resort = false ∧ ∃ c eff, post = [.getCurrentTimeMs s.currentTimeMs, .timerExpired c eff] ∧
        s.timerQueue_.head? = some c ∧ c.first ≤ s.currentTimeMs
  | .resorting => (timerStop = false → s.resort = false) ∧ Finished s.timerQueue_ timerStop post
  | .head | .exited _ => Finished s.timerQueue_ timerStop post
  | _ => False

/-- The points the loop thread can be at once it stopped itself. -/
def Pc.stoppable : Pc → Bool
  | .afterPacket _ | .timerClock | .timers _ | .afterTimer _ | .resorting | .head | .exited _ => true
  | _ => false

/-- Every stop the loop thread made is followed by what `Stopping` allows. -/
def StopInv (s : System) : Prop :=
  ∀ n (h : n < s.log.length), s.log[n].setsStop = true →
    Stopping s s.log[n].isTimerExpired (s.log.drop (n + 1))

namespace Stopping

variable {s : System} {k : Bool} {post : List Event}

theorem stoppable (h : Stopping s k post) : s.pc.stoppable = true := by
  obtain ⟨-, h⟩ := h
  revert h
  cases s.pc <;> first | exact fun _ => rfl | exact nofun

theorem finished (h : Stopping s k post) : Finished s.timerQueue_ k post := by
  obtain ⟨-, h⟩ := h
  unfold Finished
  cases hpc : s.pc <;> simp only [hpc] at h
  case afterPacket | timerClock =>
    obtain ⟨rfl, rfl⟩ := h
    exact .inl rfl
  case timers =>
    obtain ⟨rfl, -, -, rfl⟩ := h
    exact .inr (.inl ⟨_, rfl⟩)
  case afterTimer =>
    cases k
    · obtain ⟨-, -, c, eff, rfl, hc, hdue⟩ := h
      exact .inr (.inr ⟨_, c, eff, rfl, hc, hdue⟩)
    · exact h
  case resorting => exact h.2
  all_goals exact h

end Stopping

namespace StopInv

variable {s s' : System}

theorem init (m : SocketReceiveMultiplexerImplementation) (pipe : Nat)
    (remoteEndpoint : IpEndpointName) (calls : List AsyncStage) :
    StopInv (System.init m pipe remoteEndpoint calls) :=
  fun _ h => absurd h (Nat.not_lt_zero _)

/-- A step that appends `new` to the log keeps the invariant if it takes every
stopped state to a stopped state, and every stop in `new` is followed by what
`Stopping` allows. -/
theorem of_append (hi : StopInv s) (new : List Event) (hl : s'.log = s.log ++ new)
    (hold : ∀ k post, Stopping s k post → Stopping s' k (post ++ new))
    (hnew : ∀ n (h : n < new.length), new[n].setsStop = true →
      Stopping s' new[n].isTimerExpired (new.drop (n + 1))) : StopInv s' := by
  intro n hn hstop
  simp only [hl] at hn hstop ⊢
  rcases Nat.lt_or_ge n s.log.length with h | h
  · rw [List.getElem_append_left h] at hstop ⊢
    rw [List.drop_append_of_le_length (by omega)]
    exact hold _ _ (hi n h hstop)
  · obtain ⟨k, rfl⟩ := Nat.exists_eq_add_of_le h
    simp only [List.length_append] at hn
    have hk : k < new.length := by omega
    have hidx : new[s.log.length + k - s.log.length] = new[k] := by simp only [Nat.add_sub_cancel_left]
    rw [List.getElem_append_right (by omega), hidx] at hstop ⊢
    rw [show s.log.length + k + 1 = s.log.length + (k + 1) by omega, List.drop_append]
    exact hnew k hk hstop

/-- The same, for a step that appends no stop. -/
theorem of_append_plain (hi : StopInv s) (new : List Event) (hl : s'.log = s.log ++ new)
    (hold : ∀ k post, Stopping s k post → Stopping s' k (post ++ new))
    (hnew : new.all (fun ev => !ev.setsStop) = true) : StopInv s' :=
  hi.of_append new hl hold fun _ hn h => by
    simpa [h] using List.all_eq_true.mp hnew _ (List.getElem_mem hn)

theorem step (hi : StopInv s) (ht : Transition s s') : StopInv s' := by
  cases ht
  case exitAtHead hpc _ | packetExit hpc _ =>
    refine hi.of_append_plain [] (by simp) (fun k post h => ?_) rfl
    simpa [Stopping, hpc] using h
  case timerClock hpc now =>
    refine hi.of_append_plain _ rfl (fun k post h => ?_) rfl
    obtain ⟨hb, rfl, rfl⟩ := by simpa [Stopping, hpc] using h
    exact ⟨hb, rfl, rfl, rfl, rfl⟩
  case timerFire i e hpc he hdue eff _ =>
    refine hi.of_append _ rfl (fun k post h => ?_) (fun n hn h => ?_)
    · obtain ⟨hb, rfl, rfl, hr, rfl⟩ := by simpa [Stopping, hpc] using h
      have hc : s.timerQueue_.head? = some e := by rwa [List.head?_eq_getElem?]
      exact ⟨by simp [hb], rfl, hr, e, eff, rfl, hc, hdue⟩
    · obtain rfl : n = 0 := by simpa using hn
      simp only [List.getElem_singleton, Event.setsStop] at h
      exact ⟨by simp [h], by simp [Event.isTimerExpired]⟩
  case timerRaise i e hpc he hdue eff what _ =>
    refine hi.of_append _ rfl (fun k post h => ?_) (fun n hn h => ?_)
    · obtain ⟨hb, rfl, rfl, -, rfl⟩ := by simpa [Stopping, hpc] using h
      refine ⟨by simp [hb], .inr (.inr ⟨_, e, eff, rfl, ?_, hdue⟩)⟩
      rwa [List.head?_eq_getElem?]
    · obtain rfl : n = 0 := by simpa using hn
      simp only [List.getElem_singleton, Event.setsStop] at h
      exact ⟨by simp [h], by simp [Finished, Event.isTimerExpired]⟩
  case timersDone hpc _ =>
    refine hi.of_append_plain [] (by simp) (fun k post h => ?_) rfl
    obtain ⟨hb, rfl, rfl, hr, rfl⟩ := by simpa [Stopping, hpc] using h
    exact ⟨hb, fun _ => hr, .inr (.inl ⟨_, rfl⟩)⟩
  case timerBreak hpc _ =>
    refine hi.of_append_plain [] (by simp) (fun k post h => ?_) rfl
    simp only [Stopping, hpc, List.append_nil] at h ⊢
    refine ⟨h.1, ?_⟩
    cases k
    · obtain ⟨-, hr, c, eff, rfl, hc, hdue⟩ := h.2
      exact ⟨fun _ => hr, .inr (.inr ⟨_, c, eff, rfl, hc, hdue⟩)⟩
    · exact ⟨nofun, h.2⟩
  case resortSkip hpc _ =>
    refine hi.of_append_plain [] (by simp) (fun k post h => ?_) rfl
    obtain ⟨hb, -, hf⟩ := by simpa [Stopping, hpc] using h
    simpa [Stopping] using ⟨hb, hf⟩
  case resortSort hpc hr _ _ =>
    refine hi.of_append_plain [] (by simp) (fun k post h => ?_) rfl
    obtain ⟨hb, hres, hf⟩ := by simpa [Stopping, hpc] using h
    cases k
    · exact absurd (hres rfl) (by simp [hr])
    · simpa [Stopping, Finished] using ⟨hb, hf⟩
  case receiveStop hpc _ _ _ _ =>
    refine hi.of_append _ rfl (fun _ _ h => absurd h.stoppable (by rw [hpc]; nofun)) (fun n hn h => ?_)
    obtain rfl : n = 0 := by simpa using hn
    exact ⟨rfl, by simp [Event.isTimerExpired]⟩
  case receivePacket hpc _ _ _ _ _ _ _ hstop _ _ | receiveRaise hpc _ _ _ _ _ _ _ hstop _ _ _ =>
    -- the datagram read is no stop; the callback's own stop ends the socket phase
    refine hi.of_append _ (List.append_assoc _ _ _) (fun _ _ h => absurd h.stoppable (by rw [hpc]; nofun))
      (fun n hn h => ?_)
    have hn2 : n < 2 := by simpa using hn
    rcases (show n = 0 ∨ n = 1 by omega) with rfl | rfl
    · simp [Event.setsStop] at h
      exact absurd h hstop
    · simp only [List.singleton_append, List.getElem_cons_succ, List.getElem_singleton,
        Event.setsStop] at h
      exact ⟨by simp [h], by simp [Finished, Event.isTimerExpired]⟩
  case asyncCall => exact hi
  case asyncStore => exact fun n hn h => ⟨rfl, (hi n hn h).2⟩
  case asyncWrite => exact hi
  case enter | packetNext | timerAdvance =>
    -- the loop moves on only with the flag clear, so no stop lies behind it
    exact hi.of_append_plain [] (by simp) (fun _ _ h => absurd h.1 (by simp [‹s.break_ = false›])) rfl
  all_goals
    have hpc := ‹s.pc = _›
    first
      | exact hi.of_append_plain _ rfl (fun _ _ h => absurd h.stoppable (by rw [hpc]; nofun)) rfl
      | exact hi.of_append_plain [] (List.append_nil _).symm
          (fun _ _ h => absurd h.stoppable (by rw [hpc]; nofun)) rfl

end StopInv

theorem StopInv.reachable {s : System} (hs : Reachable s) : StopInv s :=
  Reachable.induction StopInv.init (fun _ hi ht => hi.step ht) hs

/-! ## After a stop -/

/-- **After the loop thread stops itself, only the rest of its timer phase
follows.** In every reachable state, after a call with which the loop thread
set the stop flag (the stop datagram read, or a callback that called `Break()`
or `AsynchronousBreak()`), the flag is still set, and the calls made since are
none if the stop came from a `TimerExpired()` callback, and otherwise at most a
clock reading and one `TimerExpired()`, on the entry at the front of the queue
and only if that entry is due at the reading. Nothing moves an entry on after
such a stop, so the front of the queue then is its front now. In particular no
`ReceiveFrom()`, `ProcessPacket()` or `select()` follows. -/
theorem stop_ends_dispatch (s : System) (hs : Reachable s) (pre : List Event) (ev : Event)
    (post : List Event) (hl : s.log = pre ++ ev :: post) (hstop : ev.setsStop = true) :
    s.break_ = true ∧ (ev.isTimerExpired = true → post = []) ∧
      (post = [] ∨ (∃ t, post = [.getCurrentTimeMs t]) ∨
        ∃ t c eff, post = [.getCurrentTimeMs t, .timerExpired c eff] ∧
          s.timerQueue_.head? = some c ∧ c.first ≤ t) := by
  have hn : pre.length < s.log.length := by simp [hl]
  have hget : s.log[pre.length] = ev := by
    simp only [hl, List.getElem_append_right (Nat.le_refl _), Nat.sub_self, List.getElem_cons_zero]
  have hdrop : s.log.drop (pre.length + 1) = post := by simp [hl]
  have h := StopInv.reachable hs pre.length hn (hget ▸ hstop)
  rw [hget, hdrop] at h
  have hf := h.finished
  refine ⟨h.1, fun ht => by simpa [Finished, ht] using hf, ?_⟩
  unfold Finished at hf
  split at hf
  · exact .inl hf
  · exact hf

/-- The stop datagram read while a timer is due: the flag stays set, and a clock
reading and one `TimerExpired()` on the due front entry follow. -/
theorem stop_ends_dispatch_after_stop_datagram :
    let m : SocketReceiveMultiplexerImplementation := ⟨[(7, 5)], [⟨0, 10, 9⟩], false, (3, 4)⟩
    let acts : List Action := [.loop .tick, .loop (.clock 100),
      .loop (.sort [⟨100, ⟨0, 10, 9⟩, 0⟩]), .loop .tick, .loop (.clock 100),
      .loop (.select (.ready [5])), .loop .tick, .loop .tick,
      .loop (.packet (.datagram stopDatagram ⟨2, 0x0100007F, 0x1027⟩) .returns), .loop (.clock 100),
      .loop (.callback .returns)]
    let s := ((System.init m 0 ⟨0, 0⟩ []).run acts).getD (System.init m 0 ⟨0, 0⟩ [])
    let pre : List Event := [.getCurrentTimeMs 100, .getCurrentTimeMs 100,
      .select 6 [3, 5] (some 0) (.ready [5])]
    let ev : Event := .receiveFrom 0 5 8 stopDatagram ⟨0x7F000001, 10000⟩
    let post : List Event := [.getCurrentTimeMs 100, .timerExpired ⟨100, ⟨0, 10, 9⟩, 0⟩ .returns]
    (Reachable s ∧ s.log = pre ++ ev :: post ∧ ev.setsStop = true) ∧
      (s.break_ = true ∧ (ev.isTimerExpired = true → post = []) ∧
        (post = [] ∨ (∃ t, post = [.getCurrentTimeMs t]) ∨
          ∃ t c eff, post = [.getCurrentTimeMs t, .timerExpired c eff] ∧
            s.timerQueue_.head? = some c ∧ c.first ≤ t)) := by
  intro m acts s pre ev post
  have hs : Reachable s := (Reachable.init m 0 ⟨0, 0⟩ []).run acts (by decide)
  have hl : s.log = pre ++ ev :: post := by decide
  have hstop : ev.setsStop = true := by decide
  exact ⟨⟨hs, hl, hstop⟩, stop_ends_dispatch s hs pre ev post hl hstop⟩

/-- **The timer phase still runs after the stop datagram.** The stop datagram is
read while the one timer is due; the socket loop ends, and the timer phase
reads the clock and calls `TimerExpired()` before it finds the flag set. -/
theorem timer_fires_after_stop_datagram :
    ¬ ∀ s : System, Reachable s → ∀ pre ev post, s.log = pre ++ ev :: post →
      ev.setsStop = true → ∀ ev' ∈ post, ev'.isCallback = false := by
  intro h
  have := h _ ((Reachable.init ⟨[(7, 5)], [⟨0, 10, 9⟩], false, (3, 4)⟩ 0 ⟨0, 0⟩ []).run
    [.loop .tick, .loop (.clock 100), .loop (.sort [⟨100, ⟨0, 10, 9⟩, 0⟩]), .loop .tick,
      .loop (.clock 100), .loop (.select (.ready [5])), .loop .tick, .loop .tick,
      .loop (.packet (.datagram stopDatagram ⟨2, 0x0100007F, 0x1027⟩) .returns), .loop (.clock 100),
      .loop (.callback .returns)] rfl)
    [.getCurrentTimeMs 100, .getCurrentTimeMs 100, .select 6 [3, 5] (some 0) (.ready [5])]
    (.receiveFrom 0 5 8 stopDatagram ⟨0x7F000001, 10000⟩)
    [.getCurrentTimeMs 100, .timerExpired ⟨100, ⟨0, 10, 9⟩, 0⟩ .returns] rfl rfl
    (.timerExpired ⟨100, ⟨0, 10, 9⟩, 0⟩ .returns) (List.mem_cons_of_mem _ (List.mem_singleton_self _))
  exact absurd this (by decide)

end Oscpack

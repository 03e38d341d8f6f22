import Oscpack.TimerPhase

/-!
# `Run()` returns once the flag is set

`Run()` loops until `break_` is set, so the question is not whether it
returns but whether it returns once the flag is set, and how soon. Two facts
answer it.

The loop thread is never stuck: in every reachable state in which `Run()` has
not returned, some input from its environment that throws nothing lets it
step (`exists_loopStep`). A clock reading, a failed `select()`, a failed
`recvfrom()`, a callback that returns and the order merge sort gives are
always available; at a `TimerExpired()` return the entry it fired is still in
the queue (`PhaseInv.current`). With the flag set, such a step leaves `Run()`,
if it does, by a normal return (`loopStep_throws`).

Once the flag is set past the reset, every step of the loop thread lowers the
measure `exitBound`. The socket loop visits each registration at most once
more, and every other statement leads on to a test of the flag
(`Transition.exitBound_lt`). Steps of other threads leave the measure alone,
and none of them clears the flag. Hence the loop thread takes at most
`socketListeners_.length + 6` more steps, however the threads interleave
(`loop_steps_bounded_after_break`), and it can always take them up to a
normal return (`run_returns_after_break`).

How it leaves is fixed too (`run_ends`). It returns normally only from one of
its three tests of the flag, so with the flag set. It throws only
`"select failed\n"`, right after a `select()` that failed with an `errno`
other than `EINTR`; the exception a `ProcessPacket()` or `TimerExpired()`
callback threw, right after that call; or `std::bad_alloc` from an allocation
of the setup, right after its clock reading. The `catch(...)` frees the buffer
and throws on what it caught.
-/

namespace Oscpack

/-! ## The loop thread's steps -/

/-- A step of the loop thread, as opposed to one of an `AsynchronousBreak()` call. -/
def Action.isLoop : Action → Bool
  | .loop _ => true
  | _ => false

/-- The input makes the loop thread throw: a callback that throws, or an
allocation of the setup that fails. -/
def LoopInput.throws : LoopInput → Bool
  | .packet _ effect | .callback effect => effect.raised.isSome
  | .allocFail => true
  | .tick | .clock _ | .select _ | .sort _ => false

namespace System

variable {s s' : System}

theorem raised_of_afterCallback {effect : HandlerEffect} {next : Pc} {what : String}
    (h : (s.afterCallback effect next).pc = .exited (some what)) (hnext : ∀ x, next ≠ .exited x) :
    effect.raised = some what := by
  unfold afterCallback at h
  split at h
  · cases h; assumption
  · exact absurd h (hnext _)

theorem raised_of_receive {i l : Nat} {sock : Int} {result : RecvfromResult} {effect : HandlerEffect}
    {what : String} (h : (s.receive i l sock result effect).pc = .exited (some what)) :
    effect.raised = some what := by
  unfold receive at h
  split at h
  dsimp only at h
  split_ifs at h
  exact raised_of_afterCallback h nofun

theorem raised_of_expire {i : Nat} {e : ScheduledTimerCall} {effect : HandlerEffect}
    {what : String} (h : (s.expire i e effect).pc = .exited (some what)) :
    effect.raised = some what :=
  raised_of_afterCallback h nofun

/-- **The loop thread throws only on an input that throws, or after a failed
`select()` with the flag clear.** -/
theorem loopStep_throws {input : LoopInput} (h : s.loopStep input = some s') {what : String}
    (hx : s'.pc = .exited (some what)) :
    input.throws = true ∨ ∃ e, s.pc = .selectFailed e ∧ s.break_ = false := by
  unfold loopStep at h
  split at h <;> (repeat' split at h) <;> cases h
  all_goals first
    | (simp at hx; done)
    | exact .inl rfl
    | exact .inr ⟨_, ‹_›, by simpa using ‹¬s.break_ = true›⟩
    | (have hr := raised_of_receive hx; exact .inl (by simp [LoopInput.throws, hr]))
    | (have hr := raised_of_expire hx; exact .inl (by simp [LoopInput.throws, hr]))

/-- **The loop thread is never stuck.** Until `Run()` returns, some input that
throws nothing lets the loop thread step: the first that fits of a tick, a
clock reading, an interrupted `select()`, a failed `recvfrom()`, a
`TimerExpired()` that returns and merge sort's order. -/
theorem exists_loopStep (hs : Reachable s) (hpc : ∀ x, s.pc ≠ .exited x) :
    ∃ input s', input.throws = false ∧ s.step (.loop input) = some s' := by
  have hcur := (PhaseInv.reachable hs).2.current
  simp only [step]
  unfold loopStep
  cases h : s.pc with
  | exited x => exact absurd h (hpc x)
  | start | head | selectFailed | drain | checkBreak | afterPacket => exact ⟨.tick, _, rfl, rfl⟩
  | setup | timerClock => exact ⟨.clock 0, _, rfl, rfl⟩
  | select => exact ⟨.select (.error .EINTR), _, rfl, rfl⟩
  | initialSort => exact ⟨.sort _, _, rfl, if_pos (isSortOf_mergeSort _)⟩
  | timeout =>
    by_cases hq : s.timerQueue_ = []
    · exact ⟨.tick, _, rfl, if_pos hq⟩
    · exact ⟨.clock 0, _, rfl, if_neg hq⟩
  | resorting =>
    cases s.resort
    · exact ⟨.tick, _, rfl, if_neg Bool.false_ne_true⟩
    · exact ⟨.sort _, _, rfl, if_pos ⟨rfl, isSortOf_mergeSort _⟩⟩
  | afterTimer i =>
    obtain ⟨e, he, -⟩ := hcur i h
    refine ⟨.tick, ?_⟩
    cases s.break_
    · dsimp only
      rw [if_neg Bool.false_ne_true, he]
      exact ⟨_, rfl, rfl⟩
    · exact ⟨_, rfl, rfl⟩
  | sockets i =>
    cases hl : s.socketListeners_[i]? with
    | none => refine ⟨.tick, ?_⟩; dsimp only; rw [hl]; exact ⟨_, rfl, rfl⟩
    | some p =>
      by_cases hm : p.2 ∈ s.tempfds
      · refine ⟨.packet .error .returns, ?_⟩; dsimp only; rw [hl]; exact ⟨_, rfl, if_pos hm⟩
      · refine ⟨.tick, ?_⟩; dsimp only; rw [hl]; exact ⟨_, rfl, if_neg hm⟩
  | timers i =>
    cases hq : s.timerQueue_[i]? with
    | none => refine ⟨.tick, ?_⟩; dsimp only; rw [hq]; exact ⟨_, rfl, rfl⟩
    | some e =>
      by_cases hd : e.first ≤ s.currentTimeMs
      · refine ⟨.callback .returns, ?_⟩; dsimp only; rw [hq]; exact ⟨_, rfl, if_pos hd⟩
      · refine ⟨.tick, ?_⟩; dsimp only; rw [hq]; exact ⟨_, rfl, if_neg hd⟩

end System

/-! ## The way out -/

/-- At most how many more steps the loop thread takes from `pc` once the flag
is set past the reset, with `n` socket registrations. At `start` the reset is
still to come, which clears the flag; no bound holds there. -/
def exitBound (n : Nat) : Pc → Nat
  | .start | .exited _ => 0
  | .head | .selectFailed _ | .checkBreak => 1
  | .initialSort | .drain | .resorting => 2
  | .setup | .select | .afterTimer _ => 3
  | .timeout | .timers _ => 4
  | .timerClock => 5
  | .afterPacket _ => 6
  | .sockets i => n - i + 6

/-- The bound is largest at the first registration of the socket loop. -/
theorem exitBound_le (n : Nat) (pc : Pc) : exitBound n pc ≤ n + 6 := by
  cases pc <;> simp only [exitBound] <;> omega

theorem set_ne_of_getElem? {α : Type} {l : List α} {t : Nat} {a b : α} (h : l[t]? = some a)
    (hb : b ≠ a) : l.set t b ≠ l := by
  intro he
  have ht : t < l.length := (List.getElem?_eq_some_iff.mp h).1
  rw [← he, List.getElem?_set_self (by rwa [← he, List.length_set] at ht)] at h
  exact hb (Option.some.inj h)

namespace Transition

variable {s s' : System}

/-- Past the reset, nothing clears the flag. -/
theorem break_of_break (ht : Transition s s') (hb : s.break_ = true) (hpc : s.pc ≠ .start) :
    s'.break_ = true := by
  cases ht
  case reset h => exact absurd h hpc
  case receivePacket | receiveRaise | timerFire | timerRaise => simp [hb]
  all_goals first | exact hb | rfl

/-- Nothing goes back to the reset. -/
theorem pc_ne_start (ht : Transition s s') (hpc : s.pc ≠ .start) : s'.pc ≠ .start := by
  cases ht <;> first | exact hpc | exact nofun

/-- **Each step of the loop thread leads closer to the exit** once the flag is
set: the transitions that keep the calls of other threads are the loop
thread's, and each lowers `exitBound`. -/
theorem exitBound_lt (ht : Transition s s') (hb : s.break_ = true) (hpc : s.pc ≠ .start)
    (hc : s'.calls = s.calls) :
    exitBound s.socketListeners_.length s'.pc < exitBound s.socketListeners_.length s.pc := by
  cases ht
  case reset h => exact absurd h hpc
  case asyncCall => simp at hc
  case asyncStore ht => exact absurd hc (set_ne_of_getElem? ht nofun)
  case asyncWrite ht => exact absurd hc (set_ne_of_getElem? ht nofun)
  all_goals first | (simp only [‹s.break_ = false›] at hb; cases hb) | skip
  all_goals rw [‹s.pc = _›]
  all_goals first | (simp only [exitBound]; omega) | skip
  -- the socket loop moves on from a registration that exists
  all_goals have := (List.getElem?_eq_some_iff.mp ‹s.socketListeners_[_]? = some _›).1
  all_goals simp only [exitBound]; omega

end Transition

namespace System

variable {s s' : System}

/-- One step once the flag is set: the flag stays, the reset stays behind, and
a step of the loop thread lowers `exitBound` while one of another thread keeps
it. -/
theorem step_exitBound {a : Action} (h : s.step a = some s') (hb : s.break_ = true)
    (hpc : s.pc ≠ .start) :
    s'.break_ = true ∧ s'.pc ≠ .start ∧ s'.socketListeners_ = s.socketListeners_ ∧
      exitBound s.socketListeners_.length s'.pc + (if a.isLoop then 1 else 0) ≤
        exitBound s.socketListeners_.length s.pc := by
  have ht := step_transition h
  refine ⟨ht.break_of_break hb hpc, ht.pc_ne_start hpc, ht.socketListeners_eq, ?_⟩
  cases a with
  | loop input =>
    have := ht.exitBound_lt hb hpc (loopStep_transition h).2
    simp only [Action.isLoop, if_true]
    omega
  | asyncCall => cases h; simp [Action.isLoop]
  | asyncStore t | asyncWrite t =>
    simp only [step] at h
    split at h <;> cases h
    simp [Action.isLoop]

end System

/-- Along a run from a state past the reset with the flag set, the flag stays
set and the loop thread takes at most `exitBound` steps. -/
theorem run_countP_loop_le {s s' : System} {acts : List Action} (h : s.run acts = some s')
    (hb : s.break_ = true) (hpc : s.pc ≠ .start) :
    acts.countP Action.isLoop ≤ exitBound s.socketListeners_.length s.pc ∧ s'.break_ = true := by
  induction acts generalizing s with
  | nil => cases h; exact ⟨Nat.zero_le _, hb⟩
  | cons a as ih =>
    simp only [System.run, Option.bind_eq_some] at h
    obtain ⟨s₁, h₁, h₂⟩ := h
    obtain ⟨hb₁, hpc₁, hl₁, hle⟩ := System.step_exitBound h₁ hb hpc
    obtain ⟨hcount, hb'⟩ := ih h₂ hb₁ hpc₁
    rw [hl₁] at hcount
    refine ⟨?_, hb'⟩
    rw [List.countP_cons]
    omega

/-- **Once the flag is set, the loop thread takes at most
`socketListeners_.length + 6` more steps, and the flag stays set.** From a
state past the reset with the flag set, along every run, however the steps of
other threads interleave and whatever the inputs: the loop thread takes at
most `exitBound` steps, a bound that is at most `socketListeners_.length + 6`,
and the flag is still set at the end. -/
theorem loop_steps_bounded_after_break {s s' : System} {acts : List Action}
    (h : s.run acts = some s') (hb : s.break_ = true) (hpc : s.pc ≠ .start) :
    acts.countP Action.isLoop ≤ exitBound s.socketListeners_.length s.pc ∧
      exitBound s.socketListeners_.length s.pc ≤ s.socketListeners_.length + 6 ∧
      s'.break_ = true :=
  have ⟨hcount, hb'⟩ := run_countP_loop_le h hb hpc
  ⟨hcount, exitBound_le _ _, hb'⟩

/-- The stop datagram, read with the one timer due, then the way out: the
clock, `TimerExpired()`, the flag test after it, no re-sort, and the loop's
head. Five steps, as many as the bound allows at the timer clock. -/
theorem loop_steps_bounded_after_stop_datagram :
    let m : SocketReceiveMultiplexerImplementation := ⟨[(7, 5)], [⟨0, 10, 9⟩], false, (3, 4)⟩
    let s := ((System.init m 0 ⟨0, 0⟩ []).run [.loop .tick, .loop (.clock 100),
      .loop (.sort [⟨100, ⟨0, 10, 9⟩, 0⟩]), .loop .tick, .loop (.clock 100),
      .loop (.select (.ready [5])), .loop .tick, .loop .tick,
      .loop (.packet (.datagram stopDatagram ⟨2, 0x0100007F, 0x1027⟩) .returns)]).getD
      (System.init m 0 ⟨0, 0⟩ [])
    let acts : List Action := [.loop (.clock 100), .loop (.callback .returns), .loop .tick,
      .loop .tick, .loop .tick]
    let s' := (s.run acts).getD s
    (s.run acts = some s' ∧ s'.pc = .exited none ∧ s.break_ = true ∧ s.pc ≠ .start) ∧
      (acts.countP Action.isLoop ≤ exitBound s.socketListeners_.length s.pc ∧
        exitBound s.socketListeners_.length s.pc ≤ s.socketListeners_.length + 6 ∧
        s'.break_ = true) := by
  intro m s acts s'
  have h : s.run acts = some s' := by decide
  have hb : s.break_ = true := by decide
  have hpc : s.pc ≠ .start := by decide
  exact ⟨⟨h, by decide, hb, hpc⟩, loop_steps_bounded_after_break h hb hpc⟩

/-- **`Run()` returns once the flag is set.** From every reachable state past
the reset, with the flag set, in which the loop thread has not left `Run()`,
some inputs that throw nothing take it out of `Run()` by a normal return
within `exitBound` steps. -/
theorem run_returns_after_break {s : System} (hs : Reachable s) (hb : s.break_ = true)
    (hpc : s.pc ≠ .start) (hx : ∀ x, s.pc ≠ .exited x) :
    ∃ inputs : List LoopInput, inputs.length ≤ exitBound s.socketListeners_.length s.pc ∧
      (∀ input ∈ inputs, input.throws = false) ∧
      ∃ s', s.run (inputs.map .loop) = some s' ∧ s'.pc = .exited none := by
  obtain ⟨input, s₁, hin, h₁⟩ := System.exists_loopStep hs hx
  obtain ⟨hb₁, hpc₁, hl₁, hle⟩ := System.step_exitBound h₁ hb hpc
  have hlt : exitBound s₁.socketListeners_.length s₁.pc <
      exitBound s.socketListeners_.length s.pc := by
    simp only [Action.isLoop, if_true] at hle
    rw [hl₁]
    omega
  by_cases hx₁ : ∃ x, s₁.pc = .exited x
  · -- the step left `Run()`; with the flag set and no throwing input, normally
    obtain ⟨x, hx₁⟩ := hx₁
    obtain rfl : x = none := by
      cases x with
      | none => rfl
      | some what =>
        rcases System.loopStep_throws h₁ hx₁ with h | ⟨e, -, hb'⟩
        · rw [hin] at h; cases h
        · rw [hb] at hb'; cases hb'
    refine ⟨[input], by simp only [List.length_singleton]; omega, by simp [hin], s₁, ?_, hx₁⟩
    simp only [List.map_cons, List.map_nil, System.run, h₁, Option.some_bind]
  · obtain ⟨inputs, hlen, hins, s', hrun, hx'⟩ :=
      run_returns_after_break (hs.step _ h₁) hb₁ hpc₁ (not_exists.mp hx₁)
    refine ⟨input :: inputs, ?_, ?_, s', ?_, hx'⟩
    · rw [List.length_cons]
      omega
    · exact List.forall_mem_cons.mpr ⟨hin, hins⟩
    · simp only [List.map_cons, System.run, h₁, Option.some_bind, hrun]
termination_by exitBound s.socketListeners_.length s.pc

/-- The state just after the stop datagram is read, at the timer clock. -/
theorem run_returns_after_stop_datagram :
    let m : SocketReceiveMultiplexerImplementation := ⟨[(7, 5)], [⟨0, 10, 9⟩], false, (3, 4)⟩
    let acts : List Action := [.loop .tick, .loop (.clock 100),
      .loop (.sort [⟨100, ⟨0, 10, 9⟩, 0⟩]), .loop .tick, .loop (.clock 100),
      .loop (.select (.ready [5])), .loop .tick, .loop .tick,
      .loop (.packet (.datagram stopDatagram ⟨2, 0x0100007F, 0x1027⟩) .returns)]
    let s := ((System.init m 0 ⟨0, 0⟩ []).run acts).getD (System.init m 0 ⟨0, 0⟩ [])
    (Reachable s ∧ s.break_ = true ∧ s.pc ≠ .start ∧ ∀ x, s.pc ≠ .exited x) ∧
      ∃ inputs : List LoopInput, inputs.length ≤ exitBound s.socketListeners_.length s.pc ∧
        (∀ input ∈ inputs, input.throws = false) ∧
        ∃ s', s.run (inputs.map .loop) = some s' ∧ s'.pc = .exited none := by
  intro m acts s
  have hs : Reachable s := (Reachable.init m 0 ⟨0, 0⟩ []).run acts (by decide)
  have hat : s.pc = .timerClock := by decide
  have hpc : s.pc ≠ .start := by rw [hat]; nofun
  have hx : ∀ x, s.pc ≠ .exited x := fun _ => by rw [hat]; nofun
  have hb : s.break_ = true := by decide
  exact ⟨⟨hs, hb, hpc, hx⟩, run_returns_after_break hs hb hpc hx⟩

/-! ## How `Run()` ends -/

/-- The exception the call threw, if it is a callback that threw. -/
def Event.raised : Event → Option String
  | .processPacket _ _ _ _ effect | .timerExpired _ effect => effect.raised
  | .getCurrentTimeMs _ | .select .. | .read _ | .receiveFrom .. => none

/-- Where the loop thread has left `Run()`, or is about to throw, why; and up
to the setup's allocations, the one call made. -/
def ExitInv (s : System) : Prop :=
  match s.pc with
  | .start | .setup => s.log = []
  | .initialSort => ∃ t, s.log = [.getCurrentTimeMs t]
  | .selectFailed e => ∃ pre nfds fds t, s.log = pre ++ [.select nfds fds t (.error e)]
  | .exited none => s.break_ = true
  | .exited (some what) =>
    (what = "select failed\n" ∧
      ∃ pre nfds fds t e, s.log = pre ++ [.select nfds fds t (.error e)] ∧ e ≠ .EINTR) ∨
    (∃ pre ev, s.log = pre ++ [ev] ∧ ev.raised = some what) ∨
    (what = "std::bad_alloc" ∧ ∃ t, s.log = [.getCurrentTimeMs t])
  | _ => True

namespace ExitInv

variable {s s' : System}

theorem init (m : SocketReceiveMultiplexerImplementation) (pipe : Nat)
    (remoteEndpoint : IpEndpointName) (calls : List AsyncStage) :
    ExitInv (System.init m pipe remoteEndpoint calls) := rfl

/-- Another thread's steps keep the log and can only set the flag. -/
theorem frame (hi : ExitInv s) (hpc : s'.pc = s.pc) (hlog : s'.log = s.log)
    (hb : s.break_ = true → s'.break_ = true) : ExitInv s' := by
  unfold ExitInv at hi ⊢
  rw [hpc, hlog]
  split at hi <;> first | exact hi | exact hb hi

theorem step (hi : ExitInv s) (ht : Transition s s') : ExitInv s' := by
  cases ht
  case reset hpc => simpa only [ExitInv, hpc] using hi
  case setup hpc t =>
    simp only [ExitInv, hpc] at hi
    exact ⟨t, by rw [hi]; rfl⟩
  case allocFail hpc =>
    simp only [ExitInv, hpc] at hi
    exact .inr (.inr ⟨rfl, hi⟩)
  case selectError => exact ⟨s.log, _, _, _, rfl⟩
  case exitAtHead hb | failExit hb | checkExit hb => exact hb
  case failThrow e hpc _ he =>
    simp only [ExitInv, hpc] at hi
    obtain ⟨pre, nfds, fds, t, hl⟩ := hi
    exact .inl ⟨rfl, pre, nfds, fds, t, e, hl, he⟩
  case receiveRaise heff => exact .inr (.inl ⟨_, _, rfl, heff⟩)
  case timerRaise heff => exact .inr (.inl ⟨s.log, _, rfl, heff⟩)
  case asyncCall => exact hi.frame rfl rfl id
  case asyncStore => exact hi.frame rfl rfl fun _ => rfl
  case asyncWrite => exact hi.frame rfl rfl id
  all_goals trivial

theorem reachable (hs : Reachable s) : ExitInv s :=
  Reachable.induction init (fun _ hi ht => hi.step ht) hs

end ExitInv

end Oscpack

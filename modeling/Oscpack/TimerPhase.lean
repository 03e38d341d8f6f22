import Oscpack.Transition

/-!
# Fixed-phase timers

`Run()` reads the clock once, at `t0`, and builds one queue entry per timer
registration, due at `t0 + initialDelayMs`. From then on an entry only ever
moves on by its own period, right after its `TimerExpired()` call returns, and
the queue is only ever replaced by a sorted permutation of itself. So at the
start of every iteration the queue is sorted, holds every registration once,
and each entry is due at `firePhase t0 r k`, with `k` the calls made for it so
far (`timer_queue_at_iteration_start`). The next fire time never depends on
when a handler returned. It is `t0 + initialDelayMs + k * periodMs` while these
values stay within `2^53`; past that the `double` sums round
(`fire_time_rounded_past_two_pow_53`).

The scan of the timer phase is the other half. It starts from the queue `Q` of
the iteration and a clock reading `now`, and walks the queue from the front
until an entry is not due. As `Q` is sorted, the entries it calls are exactly
the entries of `Q` that are due, in order, and each is moved on once
(`timer_scan_fires_due_entries`). The exception is a stop flag found set after
a call: then the scan ends there, with the entries before that call moved on.
The wait before `select()` is the time until the smallest entry of `Q`.

The proofs go through three invariants of every reachable state, about the
queue's contents (`QueueInv`), the phase of each entry (`PhaseInv`), and the
progress of the scan (`ScanInv`).
-/

namespace Oscpack

open System

namespace Event

/-- The `TimerExpired()` call an event is, if it is one. -/
@[simp] def expiredCall : Event → Option ScheduledTimerCall
  | .timerExpired c _ => some c
  | _ => none

/-- The event is a `TimerExpired()` call for the entry of origin `o`. -/
def firesOrigin (o : Nat) (ev : Event) : Bool := ev.expiredCall.map (·.origin) == some o

/-- A `ProcessPacket()` or `TimerExpired()` call whose handler set the stop flag. -/
def callbackStops : Event → Bool
  | .processPacket _ _ _ _ effect | .timerExpired _ effect => effect.stops
  | _ => false

end Event

/-- The `TimerExpired()` calls the log records for the entry of origin `o`. -/
def firedCount (log : List Event) (o : Nat) : Nat := log.countP (Event.firesOrigin o)

@[simp] theorem firedCount_append (l l' : List Event) (o : Nat) :
    firedCount (l ++ l') o = firedCount l o + firedCount l' o := List.countP_append _ l l'

@[simp] theorem firedCount_nil (o : Nat) : firedCount [] o = 0 := rfl

@[simp] theorem firedCount_cons (ev : Event) (l : List Event) (o : Nat) :
    firedCount (ev :: l) o =
      firedCount l o + if ev.expiredCall.map (·.origin) = some o then 1 else 0 := by
  simp [firedCount, Event.firesOrigin, List.countP_cons]

/-! ## The queue holds every registration once -/

/-- The queue's contents. -/
structure QueueInv (s : System) : Prop where
  /-- Nothing is logged before the queue is built. -/
  fresh : s.pc.built = false → s.log = []
  /-- The first call logged is the clock reading the queue was built from. -/
  t0_logged : s.pc.built → s.log.head? = some (.getCurrentTimeMs s.t0)
  /-- One entry per registration. -/
  origins : s.pc.built → (s.timerQueue_.map (·.origin)).Perm (List.range s.timerListeners_.length)
  /-- Each entry holds its own registration. -/
  regs : s.pc.built → ∀ e ∈ s.timerQueue_, s.timerListeners_[e.origin]? = some e.second

namespace QueueInv

variable {s s' : System}

theorem init (m : SocketReceiveMultiplexerImplementation) (pipe : Nat)
    (remoteEndpoint : IpEndpointName) (calls : List AsyncStage) :
    QueueInv (System.init m pipe remoteEndpoint calls) :=
  ⟨fun _ => rfl, nofun, nofun, nofun⟩

/-- Once the queue is built, a step that keeps the queue, the registrations and
`t0`, and only appends to the log, keeps the invariant. -/
theorem frame (hi : QueueInv s) (hb : s.pc.built) (hb' : s'.pc.built)
    (hq : s'.timerQueue_ = s.timerQueue_) (hL : s'.timerListeners_ = s.timerListeners_)
    (ht : s'.t0 = s.t0) (hlog : s.log <+: s'.log) : QueueInv s' := by
  obtain ⟨new, hnew⟩ := hlog
  refine ⟨fun h => absurd hb' (by simp [h]), fun _ => ?_, fun _ => hq ▸ hL ▸ hi.origins hb,
    fun _ => hq ▸ hL ▸ hi.regs hb⟩
  rw [← hnew, List.head?_append, hi.t0_logged hb, ht]
  rfl

theorem step (hi : QueueInv s) (ht : Transition s s') : QueueInv s' := by
  obtain ⟨h1, h2, h3, h4⟩ := hi
  cases ht
  case reset hpc => exact ⟨fun _ => h1 (by rw [hpc]; rfl), nofun, nofun, nofun⟩
  case setup hpc t =>
    refine ⟨nofun, fun _ => by simp [h1 (by rw [hpc]; rfl)], fun _ => ?_, fun _ e he => ?_⟩
    · simp [map_origin_buildTimerQueue]
    · exact (mem_buildTimerQueue he).1
  case initialSort hpc q hq =>
    have hb : s.pc.built := by rw [hpc]; rfl
    exact ⟨nofun, fun _ => h2 hb, fun _ => (hq.1.map _).trans (h3 hb),
      fun _ e he => h4 hb e (hq.1.subset he)⟩
  case resortSort hpc _ q hq =>
    have hb : s.pc.built := by rw [hpc]; rfl
    exact ⟨nofun, fun _ => h2 hb, fun _ => (hq.1.map _).trans (h3 hb),
      fun _ e he => h4 hb e (hq.1.subset he)⟩
  case timerAdvance i e hpc _ he =>
    have hb : s.pc.built := by rw [hpc]; rfl
    obtain ⟨hil, hget⟩ := List.getElem?_eq_some_iff.mp he
    refine ⟨nofun, fun _ => h2 hb, fun _ => ?_, fun _ e' he' => ?_⟩
    · have : (s.timerQueue_.map (·.origin)).set i e.origin = s.timerQueue_.map (·.origin) := by
        apply List.ext_getElem (by simp)
        intro k hk _
        rw [List.getElem_set]
        split <;> simp_all
      simpa [List.map_set, this] using h3 hb
    · rcases List.mem_or_eq_of_mem_set he' with he' | rfl
      · exact h4 hb e' he'
      · exact h4 hb e (hget ▸ List.getElem_mem hil)
  case asyncCall => exact ⟨h1, h2, h3, h4⟩
  case asyncStore => exact ⟨h1, h2, h3, h4⟩
  case asyncWrite => exact ⟨h1, h2, h3, h4⟩
  all_goals
    exact QueueInv.frame ⟨h1, h2, h3, h4⟩ (by rw [‹s.pc = _›]; rfl) rfl rfl rfl rfl (by first
      | exact ⟨_, rfl⟩
      | exact ⟨[], List.append_nil _⟩
      | exact ⟨_, (List.append_assoc _ _ _).symm⟩)

end QueueInv

/-! ## Every entry keeps its phase -/

/-- The points where an entry may be left behind: right after its call, and on
the way out of the loop. -/
def Pc.mayLeaveBehind : Pc → Bool
  | .afterTimer _ | .resorting | .head | .exited _ => true
  | _ => false

/-- The phase of each entry. -/
structure PhaseInv (s : System) : Prop where
  /-- Right after a `TimerExpired()` call, its entry is the one not yet moved on. -/
  current : ∀ i, s.pc = .afterTimer i → ∃ e, s.timerQueue_[i]? = some e ∧ s.unadvanced = some e.origin
  /-- Otherwise an entry is left behind only once the loop is stopping. -/
  settled : s.unadvanced ≠ none → (∃ i, s.pc = .afterTimer i) ∨
    (s.break_ = true ∧ (s.pc = .resorting ∨ s.pc = .head)) ∨ ∃ x, s.pc = .exited x
  /-- Each entry is due at its phase after `k` calls, `k` its calls so far;
  an entry whose call is not yet followed by the advance, once moved on. -/
  phase : s.pc.built → ∀ e ∈ s.timerQueue_,
    (if s.unadvanced = some e.origin then e.advance else e).first =
      firePhase s.t0 e.second (firedCount s.log e.origin)

namespace PhaseInv

variable {s s' : System}

theorem unadvanced_eq_none (hi : PhaseInv s) (h : s.pc.mayLeaveBehind = false) :
    s.unadvanced = none := by
  by_contra hu
  rcases hi.settled hu with ⟨i, hpc⟩ | ⟨_, hpc | hpc⟩ | ⟨x, hpc⟩ <;> rw [hpc] at h <;> cases h

theorem init (m : SocketReceiveMultiplexerImplementation) (pipe : Nat)
    (remoteEndpoint : IpEndpointName) (calls : List AsyncStage) :
    PhaseInv (System.init m pipe remoteEndpoint calls) :=
  ⟨fun _ => nofun, fun h => absurd rfl h, nofun⟩

/-- The origins of a built queue are distinct. -/
theorem origin_ne {q : List ScheduledTimerCall} {n : Nat}
    (hq : (q.map (·.origin)).Perm (List.range n)) {i k : Nat} (hi : i < q.length) (hk : k < q.length)
    (hik : k ≠ i) : q[k].origin ≠ q[i].origin := by
  have hnd : (q.map (·.origin)).Nodup := hq.nodup_iff.mpr (List.nodup_range n)
  rw [List.Nodup, List.pairwise_iff_getElem] at hnd
  intro h
  rcases Nat.lt_or_gt_of_ne hik with hlt | hlt
  · exact hnd k i (by simpa using hk) (by simpa using hi) hlt (by simpa using h)
  · exact hnd i k (by simpa using hi) (by simpa using hk) hlt (by simpa using h.symm)

/-- One more call for an entry is one more period of its phase. -/
theorem phase_step {e : ScheduledTimerCall} {t0 : Int} {k : Nat} (c : Prop) [Decidable c]
    (h : e.first = firePhase t0 e.second k) :
    (if c then e.advance else e).first = firePhase t0 e.second (k + if c then 1 else 0) := by
  split
  · rw [ScheduledTimerCall.first_advance, h, firePhase_succ]
  · exact h

/-- Away from the timer phase's own transitions, a step that keeps the queue,
`t0` and the entry left behind, and logs no `TimerExpired()` call, keeps the
invariant. -/
theorem frame (hi : PhaseInv s) (hb : s.pc.built) (hn : s.unadvanced = none)
    (hpc' : ∀ i, s'.pc ≠ .afterTimer i) (hu : s'.unadvanced = s.unadvanced)
    (hq : s'.timerQueue_ = s.timerQueue_) (ht : s'.t0 = s.t0)
    (hlog : ∀ o, firedCount s'.log o = firedCount s.log o) : PhaseInv s' := by
  refine ⟨fun i h => absurd h (hpc' i), fun h => absurd (hu.trans hn) h, fun _ e he => ?_⟩
  rw [hu, ht, hlog]
  exact hi.phase hb e (hq ▸ he)

theorem step (hq : QueueInv s) (hi : PhaseInv s) (ht : Transition s s') : PhaseInv s' := by
  cases ht
  case reset hpc =>
    exact ⟨fun _ => nofun, fun h => absurd (hi.unadvanced_eq_none (by rw [hpc]; rfl)) h, nofun⟩
  case setup hpc t =>
    have hn := hi.unadvanced_eq_none (by rw [hpc]; rfl)
    refine ⟨fun _ => nofun, fun h => absurd hn h, fun _ e he => ?_⟩
    simp [hn, hq.fresh (by rw [hpc]; rfl), (mem_buildTimerQueue he).2]
  case initialSort hpc q hq' =>
    exact ⟨fun _ => nofun, fun h => absurd (hi.unadvanced_eq_none (by rw [hpc]; rfl)) h,
      fun _ e he => hi.phase (by rw [hpc]; rfl) e (hq'.1.subset he)⟩
  case exitAtHead hpc _ =>
    exact ⟨fun _ => nofun, fun _ => .inr (.inr ⟨none, rfl⟩),
      fun _ e he => hi.phase (by rw [hpc]; rfl) e he⟩
  case enter hpc hb =>
    have hn : s.unadvanced = none := by
      by_contra h
      rcases hi.settled h with ⟨i, hpc'⟩ | ⟨hb', _⟩ | ⟨x, hpc'⟩
      · rw [hpc] at hpc'; cases hpc'
      · rw [hb] at hb'; cases hb'
      · rw [hpc] at hpc'; cases hpc'
    exact ⟨fun _ => nofun, fun h => absurd hn h, fun _ e he => hi.phase (by rw [hpc]; rfl) e he⟩
  case timerFire i e hpc he _ eff _ =>
    have hn := hi.unadvanced_eq_none (by rw [hpc]; rfl)
    refine ⟨fun i' h => ?_, fun _ => .inl ⟨i, rfl⟩, fun _ e' he' => ?_⟩
    · obtain rfl : i' = i := by simpa using h.symm
      exact ⟨e, he, rfl⟩
    · have := hi.phase (by rw [hpc]; rfl) e' he'
      simp only [hn, reduceCtorEq, if_false] at this
      simpa using phase_step (e.origin = e'.origin) this
  case timerRaise i e hpc he _ eff what _ =>
    have hn := hi.unadvanced_eq_none (by rw [hpc]; rfl)
    refine ⟨fun _ => nofun, fun _ => .inr (.inr ⟨_, rfl⟩), fun _ e' he' => ?_⟩
    have := hi.phase (by rw [hpc]; rfl) e' he'
    simp only [hn, reduceCtorEq, if_false] at this
    simpa using phase_step (e.origin = e'.origin) this
  case timerBreak i hpc hb =>
    exact ⟨fun _ => nofun, fun _ => .inr (.inl ⟨hb, .inl rfl⟩),
      fun _ e he => hi.phase (by rw [hpc]; rfl) e he⟩
  case timerAdvance i e hpc _ he =>
    obtain ⟨e', he', hu⟩ := hi.current i hpc
    rw [he] at he'
    cases he'
    obtain ⟨hil, hget⟩ := List.getElem?_eq_some_iff.mp he
    have hb : s.pc.built := by rw [hpc]; rfl
    refine ⟨fun _ => nofun, fun h => absurd rfl h, fun _ e'' he'' => ?_⟩
    obtain ⟨k, hk, rfl⟩ := List.getElem_of_mem he''
    simp only [List.length_set] at hk
    simp only [List.getElem_set]
    split
    · have := hi.phase hb e (hget ▸ List.getElem_mem hil)
      rw [hu, if_pos rfl] at this
      simpa only [ScheduledTimerCall.second_advance, ScheduledTimerCall.origin_advance,
        reduceCtorEq, if_false] using this
    · rename_i hki
      have hne : s.timerQueue_[k].origin ≠ e.origin :=
        hget ▸ origin_ne (hq.origins hb) hil hk (Ne.symm hki)
      have := hi.phase hb _ (List.getElem_mem hk)
      rw [hu, if_neg (by simpa using hne.symm)] at this
      simpa using this
  case resortSkip hpc _ =>
    refine ⟨fun _ => nofun, fun h => ?_, fun _ e he => hi.phase (by rw [hpc]; rfl) e he⟩
    rcases hi.settled h with ⟨i, hpc'⟩ | ⟨hb, _⟩ | ⟨x, hpc'⟩
    · rw [hpc] at hpc'; cases hpc'
    · exact .inr (.inl ⟨hb, .inr rfl⟩)
    · rw [hpc] at hpc'; cases hpc'
  case resortSort hpc _ q hq' =>
    refine ⟨fun _ => nofun, fun h => ?_,
      fun _ e he => hi.phase (by rw [hpc]; rfl) e (hq'.1.subset he)⟩
    rcases hi.settled h with ⟨i, hpc'⟩ | ⟨hb, _⟩ | ⟨x, hpc'⟩
    · rw [hpc] at hpc'; cases hpc'
    · exact .inr (.inl ⟨hb, .inr rfl⟩)
    · rw [hpc] at hpc'; cases hpc'
  case asyncCall => exact ⟨hi.current, hi.settled, hi.phase⟩
  case asyncStore =>
    refine ⟨hi.current, fun h => ?_, hi.phase⟩
    rcases hi.settled h with h' | ⟨_, h'⟩ | h'
    exacts [.inl h', .inr (.inl ⟨rfl, h'⟩), .inr (.inr h')]
  case asyncWrite => exact ⟨hi.current, hi.settled, hi.phase⟩
  all_goals
    exact hi.frame (by rw [‹s.pc = _›]; rfl) (hi.unadvanced_eq_none (by rw [‹s.pc = _›]; rfl))
      (fun _ => nofun) rfl rfl rfl (fun o => by simp)

end PhaseInv

theorem PhaseInv.reachable {s : System} (hs : Reachable s) : QueueInv s ∧ PhaseInv s :=
  Reachable.induction (P := fun s => QueueInv s ∧ PhaseInv s)
    (fun m pipe re calls => ⟨QueueInv.init m pipe re calls, PhaseInv.init m pipe re calls⟩)
    (fun _ hi ht => ⟨hi.1.step ht, hi.2.step hi.1 ht⟩) hs

/-! ## The scan -/

/-- The timer phase has called the first `m` entries of the iteration's queue,
all due at the clock reading it began with, and moved the first `n` on. -/
structure Scanned (s : System) (n m : Nat) : Prop where
  /-- The iteration's queue is sorted. -/
  sorted : SortedByFireTime s.iterQueue
  /-- The first `n` entries are moved on. -/
  queue : s.timerQueue_ = advanceFirst n s.iterQueue
  /-- `resort` says whether anything moved. -/
  resort : s.resort = decide (0 < n)
  le_length : m ≤ s.iterQueue.length
  /-- The first `m` entries are due. -/
  due : ∀ j (hj : j < s.iterQueue.length), j < m → s.iterQueue[j].first ≤ s.currentTimeMs
  /-- Since the clock reading, `TimerExpired()` was called on the first `m` entries. -/
  log : ∃ pre calls, s.log = pre ++ [.getCurrentTimeMs s.currentTimeMs] ++ calls ∧
    calls.map Event.expiredCall = (s.iterQueue.take m).map some

/-- The queue is the iteration's queue, and sorted. -/
def IterSorted (s : System) : Prop := s.timerQueue_ = s.iterQueue ∧ SortedByFireTime s.iterQueue

theorem IterSorted.frame {s s' : System} (h : IterSorted s) (hQ : s'.iterQueue = s.iterQueue)
    (hq : s'.timerQueue_ = s.timerQueue_) : IterSorted s' := by
  rw [IterSorted, hQ, hq]
  exact h

/-- What holds of the queue at each point of the loop. -/
def ScanInv (s : System) : Prop :=
  match s.pc with
  | .head => SortedByFireTime s.timerQueue_
  | .timeout | .selectFailed _ | .drain | .checkBreak | .sockets _ | .afterPacket _
  | .timerClock => IterSorted s
  | .select => IterSorted s ∧ ∃ now,
      s.timeoutMs = (s.iterQueue.map (·.first)).min?.map (fun m => max 0 (roundDouble (m - now))) ∧
      (s.iterQueue ≠ [] → s.log.getLast? = some (.getCurrentTimeMs now))
  | .timers i => Scanned s i i
  | .afterTimer i => Scanned s i (i + 1)
  | .resorting => ∃ k, (Scanned s k k ∧ ∀ h : k < s.iterQueue.length,
      s.currentTimeMs < s.iterQueue[k].first) ∨ (s.break_ = true ∧ Scanned s k (k + 1))
  | .start | .setup | .initialSort | .exited _ => True

namespace Scanned

variable {s s' : System} {n m : Nat}

theorem sorted_of_resort (h : Scanned s n m) (hr : s.resort = false) :
    SortedByFireTime s.timerQueue_ := by
  have hn : n = 0 := by simpa [h.resort] using hr
  rw [h.queue, hn, advanceFirst_zero]
  exact h.sorted

/-- `Scanned` reads only the queues, `resort`, the clock and the log. -/
theorem frame (h : Scanned s n m) (hQ : s'.iterQueue = s.iterQueue)
    (hq : s'.timerQueue_ = s.timerQueue_) (hr : s'.resort = s.resort)
    (hc : s'.currentTimeMs = s.currentTimeMs) (hl : s'.log = s.log) : Scanned s' n m := by
  obtain ⟨h1, h2, h3, h4, h5, h6⟩ := h
  refine ⟨?_, ?_, ?_, ?_, ?_, ?_⟩ <;> simp only [hQ, hq, hr, hc, hl] <;> assumption

end Scanned

namespace ScanInv

variable {s s' : System}

theorem init (m : SocketReceiveMultiplexerImplementation) (pipe : Nat)
    (remoteEndpoint : IpEndpointName) (calls : List AsyncStage) :
    ScanInv (System.init m pipe remoteEndpoint calls) := trivial

/-- Another thread's steps change nothing the annotations read but the flag,
which they only set. -/
theorem frame (hi : ScanInv s) (hpc : s'.pc = s.pc) (hQ : s'.iterQueue = s.iterQueue)
    (hq : s'.timerQueue_ = s.timerQueue_) (hr : s'.resort = s.resort)
    (hc : s'.currentTimeMs = s.currentTimeMs) (hl : s'.log = s.log)
    (ht : s'.timeoutMs = s.timeoutMs) (hb : s.break_ = true → s'.break_ = true) : ScanInv s' := by
  unfold ScanInv at *
  rw [hpc]
  split at hi
  all_goals first
    | exact trivial
    | exact hq ▸ hi
    | exact hi.frame hQ hq
    | exact hi.frame hQ hq hr hc hl
    | exact ⟨hi.1.frame hQ hq, by rw [ht, hQ, hl]; exact hi.2⟩
    | obtain ⟨k, ⟨h, hstop⟩ | ⟨hb', h⟩⟩ := hi
      exacts [⟨k, .inl ⟨h.frame hQ hq hr hc hl, by simpa only [hQ, hc] using hstop⟩⟩,
        ⟨k, .inr ⟨hb hb', h.frame hQ hq hr hc hl⟩⟩]

theorem step (hi : ScanInv s) (ht : Transition s s') : ScanInv s' := by
  cases ht
  case initialSort q hq => exact hq.2
  case resortSort hq => exact hq.2
  case enter hpc _ =>
    simp only [ScanInv, hpc] at hi
    exact ⟨rfl, hi⟩
  case failRetry hpc _ =>
    simp only [ScanInv, hpc] at hi
    show SortedByFireTime s.timerQueue_
    rw [hi.1]
    exact hi.2
  case resortSkip hpc hr =>
    simp only [ScanInv, hpc] at hi
    obtain ⟨k, ⟨h, -⟩ | ⟨-, h⟩⟩ := hi
    exacts [h.sorted_of_resort hr, h.sorted_of_resort hr]
  case noTimeout hpc hq =>
    simp only [ScanInv, hpc] at hi
    have hQ : s.iterQueue = [] := hi.1 ▸ hq
    exact ⟨hi, 0, by simp [hQ], fun h => absurd hQ h⟩
  case timeout hpc _ now =>
    simp only [ScanInv, hpc] at hi
    exact ⟨hi, now, by rw [hi.1]; exact selectTimeoutMs_eq_min hi.2 now, fun _ => by simp⟩
  case selectError | selectReady =>
    simp only [ScanInv, ‹s.pc = _›] at hi
    exact hi.1
  case drainRead | drainSkip | checkPass | socketsDone | socketSkip | receiveStop | receiveEmpty
      | packetExit | packetNext =>
    simp only [ScanInv, ‹s.pc = _›] at hi
    exact hi
  case receivePacket =>
    simp only [ScanInv, ‹s.pc = _›] at hi
    exact hi
  case timerClock hpc now =>
    simp only [ScanInv, hpc] at hi
    exact ⟨hi.2, by simp [hi.1], rfl, Nat.zero_le _, fun _ _ h => absurd h (Nat.not_lt_zero _),
      s.log, [], by simp, rfl⟩
  case timerFire i e hpc he hdue eff _ =>
    simp only [ScanInv, hpc] at hi
    obtain ⟨hs, hq, hr, -, hdue', pre, calls, hl, hc⟩ := hi
    have hQi : s.iterQueue[i]? = some e := by rw [← getElem?_advanceFirst_self, ← hq, he]
    obtain ⟨hil, hget⟩ := List.getElem?_eq_some_iff.mp hQi
    refine ⟨hs, hq, hr, hil, fun j hj hji => ?_, pre, calls ++ [.timerExpired e eff],
      by simp [hl], by simp [hc, List.take_succ, hQi]⟩
    rcases Nat.lt_succ_iff_lt_or_eq.mp hji with hji | rfl
    · exact hdue' j hj hji
    · simpa [hget] using hdue
  case timersDone i hpc hnd =>
    simp only [ScanInv, hpc] at hi
    refine ⟨i, .inl ⟨hi.frame rfl rfl rfl rfl rfl, fun h => hnd _ ?_⟩⟩
    rw [hi.queue, getElem?_advanceFirst_self, List.getElem?_eq_getElem h]
  case timerBreak i hpc hb =>
    simp only [ScanInv, hpc] at hi
    exact ⟨i, .inr ⟨hb, hi.frame rfl rfl rfl rfl rfl⟩⟩
  case timerAdvance i e hpc _ he =>
    simp only [ScanInv, hpc] at hi
    obtain ⟨hs, hq, -, hle, hdue, hl⟩ := hi
    have hQi : s.iterQueue[i]? = some e := by rw [← getElem?_advanceFirst_self, ← hq, he]
    obtain ⟨hil, rfl⟩ := List.getElem?_eq_some_iff.mp hQi
    exact ⟨hs, by rw [hq, set_advanceFirst hil], by simp, hle, hdue, hl⟩
  case asyncCall => exact hi.frame rfl rfl rfl rfl rfl rfl rfl id
  case asyncStore => exact hi.frame rfl rfl rfl rfl rfl rfl rfl fun _ => rfl
  case asyncWrite => exact hi.frame rfl rfl rfl rfl rfl rfl rfl id
  all_goals trivial

theorem reachable {s : System} (hs : Reachable s) : ScanInv s :=
  Reachable.induction init (fun _ hi ht => hi.step ht) hs

end ScanInv

/-! ## The queue at the start of an iteration -/

/-- **The timer queue at the start of every iteration.** Along every run from
`Run()`'s entry, whenever an iteration begins the queue is sorted by fire time,
holds each registration of `timerListeners_` once (its origins are the
positions `0, …, n - 1`), and an entry whose `TimerExpired()` was called `k`
times is due at `firePhase t0 r k`, `t0` being the first clock reading `Run()`
made: `t0 + initialDelayMs` moved on `k` times by `periodMs`, in double. So
long as every `t0 + initialDelayMs + j * periodMs` for `j ≤ k` is within
`2^53`, that is `t0 + initialDelayMs + k * periodMs` exactly. -/
theorem timer_queue_at_iteration_start (m : SocketReceiveMultiplexerImplementation) (pipe : Nat)
    (remoteEndpoint : IpEndpointName) (calls : List AsyncStage) (acts : List Action) (s : System)
    (hrun : (System.init m pipe remoteEndpoint calls).run acts = some s) (hpc : s.pc = .timeout) :
    SortedByFireTime s.timerQueue_ ∧
      (s.timerQueue_.map (·.origin)).Perm (List.range m.timerListeners_.length) ∧
      s.log.head? = some (.getCurrentTimeMs s.t0) ∧
      ∀ e ∈ s.timerQueue_, m.timerListeners_[e.origin]? = some e.second ∧
        e.first = firePhase s.t0 e.second (firedCount s.log e.origin) ∧
        ((∀ j ≤ firedCount s.log e.origin,
            (s.t0 + e.second.initialDelayMs + j * e.second.periodMs).natAbs ≤ 2 ^ 53) →
          e.first = s.t0 + e.second.initialDelayMs + firedCount s.log e.origin * e.second.periodMs) := by
  have hs := (Reachable.init m pipe remoteEndpoint calls).run acts hrun
  have hm : s.timerListeners_ = m.timerListeners_ :=
    System.run_eq_of_transition Transition.timerListeners_eq hrun
  obtain ⟨hq, hp⟩ := PhaseInv.reachable hs
  have hi := ScanInv.reachable hs
  simp only [ScanInv, hpc] at hi
  have hb : s.pc.built := by rw [hpc]; rfl
  have hn := hp.unadvanced_eq_none (by rw [hpc]; rfl)
  refine ⟨hi.1 ▸ hi.2, hm ▸ hq.origins hb, hq.t0_logged hb, fun e he => ?_⟩
  have hphase : e.first = firePhase s.t0 e.second (firedCount s.log e.origin) := by
    simpa [hn] using hp.phase hb e he
  exact ⟨hm ▸ hq.regs hb e he, hphase, fun hbound => hphase.trans (firePhase_eq_of_bounded hbound)⟩

/-- One timer of period 10, built at 100 and called once: the next iteration
starts with its entry due at 110. -/
theorem timer_queue_at_iteration_start_after_one_call :
    let m : SocketReceiveMultiplexerImplementation := ⟨[], [⟨0, 10, 9⟩], false, (3, 4)⟩
    let acts : List Action := [.loop .tick, .loop (.clock 100),
      .loop (.sort [⟨100, ⟨0, 10, 9⟩, 0⟩]), .loop .tick, .loop (.clock 100),
      .loop (.select (.ready [])), .loop .tick, .loop .tick, .loop .tick, .loop (.clock 100),
      .loop (.callback .returns), .loop .tick, .loop .tick, .loop (.sort [⟨110, ⟨0, 10, 9⟩, 0⟩]),
      .loop .tick]
    let s := ((System.init m 0 ⟨0, 0⟩ []).run acts).getD (System.init m 0 ⟨0, 0⟩ [])
    ((System.init m 0 ⟨0, 0⟩ []).run acts = some s ∧ s.pc = .timeout) ∧
      (SortedByFireTime s.timerQueue_ ∧
        (s.timerQueue_.map (·.origin)).Perm (List.range m.timerListeners_.length) ∧
        s.log.head? = some (.getCurrentTimeMs s.t0) ∧
        ∀ e ∈ s.timerQueue_, m.timerListeners_[e.origin]? = some e.second ∧
          e.first = firePhase s.t0 e.second (firedCount s.log e.origin) ∧
          ((∀ j ≤ firedCount s.log e.origin,
              (s.t0 + e.second.initialDelayMs + j * e.second.periodMs).natAbs ≤ 2 ^ 53) →
            e.first = s.t0 + e.second.initialDelayMs + firedCount s.log e.origin * e.second.periodMs)) := by
  intro m acts s
  have hrun : (System.init m 0 ⟨0, 0⟩ []).run acts = some s := by decide
  -- `s.pc` is read off the run: deciding it on `s` directly is slow in the kernel
  have hpc : s.pc = .timeout := by
    have h : ((System.init m 0 ⟨0, 0⟩ []).run acts).map (·.pc) = some .timeout := by decide
    rw [hrun] at h
    exact Option.some.inj h
  exact ⟨⟨hrun, hpc⟩, timer_queue_at_iteration_start m 0 ⟨0, 0⟩ [] acts s hrun hpc⟩

/-- **Past `2^53` the phase is not exact.** The clock reads `2^53` when the
queue is built, and the one timer has an initial delay of 1: `2^53 + 1` is no
double, so the first iteration starts with the entry due at `2^53`, not at
`t0 + initialDelayMs + 0 * periodMs`. -/
theorem fire_time_rounded_past_two_pow_53 :
    ¬ ∀ (m : SocketReceiveMultiplexerImplementation) (pipe : Nat) (remoteEndpoint : IpEndpointName)
      (calls : List AsyncStage) (acts : List Action) (s : System),
      (System.init m pipe remoteEndpoint calls).run acts = some s → s.pc = .timeout →
      ∀ e ∈ s.timerQueue_,
        e.first = s.t0 + e.second.initialDelayMs + firedCount s.log e.origin * e.second.periodMs := by
  intro h
  let m : SocketReceiveMultiplexerImplementation := ⟨[], [⟨1, 10, 9⟩], false, (3, 4)⟩
  let acts : List Action := [.loop .tick, .loop (.clock (2 ^ 53)),
    .loop (.sort [⟨2 ^ 53, ⟨1, 10, 9⟩, 0⟩]), .loop .tick]
  let s := ((System.init m 0 ⟨0, 0⟩ []).run acts).getD (System.init m 0 ⟨0, 0⟩ [])
  have := h m 0 ⟨0, 0⟩ [] acts s (by decide) (by decide) ⟨2 ^ 53, ⟨1, 10, 9⟩, 0⟩ (by decide)
  exact absurd this (by decide)

/-! ## The scan fires the due entries -/

/-- **The timer scan fires exactly the due entries.** Let `Q` be the queue an
iteration began with. Waiting in `select()`, the timeout is `max 0 (m - now)`,
the difference taken in double, for `m` the smallest fire time in `Q` and `now`
the clock just read. At the end
of the timer phase, `Q` is sorted, and the `TimerExpired()` calls since the
clock reading `now` are on the entries of `Q` due at `now`, in order, each
moved on once and the others unchanged; or the stop flag is set and the calls
are the first `k + 1` due entries, with the first `k` moved on. -/
theorem timer_scan_fires_due_entries (s : System) (hs : Reachable s) :
    (s.pc = .select → s.timerQueue_ = s.iterQueue ∧ ∃ now,
      s.timeoutMs = (s.iterQueue.map (·.first)).min?.map (fun m => max 0 (roundDouble (m - now))) ∧
      (s.iterQueue ≠ [] → s.log.getLast? = some (.getCurrentTimeMs now))) ∧
    (s.pc = .resorting → SortedByFireTime s.iterQueue ∧
      ∃ pre calls, s.log = pre ++ [.getCurrentTimeMs s.currentTimeMs] ++ calls ∧
        ((calls.map Event.expiredCall = (s.iterQueue.filter (·.due s.currentTimeMs)).map some ∧
            s.timerQueue_ = s.iterQueue.map fun e => if e.due s.currentTimeMs then e.advance else e) ∨
          (s.break_ = true ∧ ∃ k < (s.iterQueue.filter (·.due s.currentTimeMs)).length,
            calls.map Event.expiredCall =
              ((s.iterQueue.filter (·.due s.currentTimeMs)).take (k + 1)).map some ∧
            s.timerQueue_ = advanceFirst k s.iterQueue))) := by
  have hi := ScanInv.reachable hs
  refine ⟨fun hpc => ?_, fun hpc => ?_⟩
  · simp only [ScanInv, hpc] at hi
    exact ⟨hi.1.1, hi.2⟩
  simp only [ScanInv, hpc] at hi
  obtain ⟨k, ⟨h, hstop⟩ | ⟨hb, h⟩⟩ := hi
  · obtain ⟨pre, calls, hl, hc⟩ := h.log
    refine ⟨h.sorted, pre, calls, hl, .inl ⟨?_, ?_⟩⟩
    · rw [filter_due_eq_take h.sorted h.due hstop, hc]
    · rw [h.queue, map_advance_due_eq h.sorted h.due hstop]
      rfl
  · obtain ⟨pre, calls, hl, hc⟩ := h.log
    have htake := take_filter_due h.due h.le_length
    refine ⟨h.sorted, pre, calls, hl, .inr ⟨hb, k, ?_, by rw [htake, hc], h.queue⟩⟩
    have hlen := congrArg List.length htake
    simp only [List.length_take] at hlen
    have := h.le_length
    show k < (s.iterQueue.filter (ScheduledTimerCall.due s.currentTimeMs)).length
    omega

/-- Two timers due at 100, both called, both moved on. -/
theorem timer_scan_fires_both_due_entries :
    let m : SocketReceiveMultiplexerImplementation := ⟨[(7, 5)], [⟨0, 10, 9⟩, ⟨0, 20, 8⟩], false, (3, 4)⟩
    let acts : List Action := [.loop .tick, .loop (.clock 100),
      .loop (.sort [⟨100, ⟨0, 10, 9⟩, 0⟩, ⟨100, ⟨0, 20, 8⟩, 1⟩]), .loop .tick, .loop (.clock 100),
      .loop (.select (.ready [])), .loop .tick, .loop .tick, .loop .tick, .loop .tick,
      .loop (.clock 100), .loop (.callback .returns), .loop .tick, .loop (.callback .returns), .loop .tick,
      .loop .tick]
    let s := ((System.init m 0 ⟨0, 0⟩ []).run acts).getD (System.init m 0 ⟨0, 0⟩ [])
    (Reachable s ∧ s.pc = .resorting) ∧
      ((s.pc = .select → s.timerQueue_ = s.iterQueue ∧ ∃ now,
        s.timeoutMs = (s.iterQueue.map (·.first)).min?.map (fun m => max 0 (roundDouble (m - now))) ∧
        (s.iterQueue ≠ [] → s.log.getLast? = some (.getCurrentTimeMs now))) ∧
      (s.pc = .resorting → SortedByFireTime s.iterQueue ∧
        ∃ pre calls, s.log = pre ++ [.getCurrentTimeMs s.currentTimeMs] ++ calls ∧
          ((calls.map Event.expiredCall = (s.iterQueue.filter (·.due s.currentTimeMs)).map some ∧
              s.timerQueue_ = s.iterQueue.map fun e => if e.due s.currentTimeMs then e.advance else e) ∨
            (s.break_ = true ∧ ∃ k < (s.iterQueue.filter (·.due s.currentTimeMs)).length,
              calls.map Event.expiredCall =
                ((s.iterQueue.filter (·.due s.currentTimeMs)).take (k + 1)).map some ∧
              s.timerQueue_ = advanceFirst k s.iterQueue)))) :=
  have hs := (Reachable.init ⟨[(7, 5)], [⟨0, 10, 9⟩, ⟨0, 20, 8⟩], false, (3, 4)⟩ 0 ⟨0, 0⟩ []).run
    [.loop .tick, .loop (.clock 100), .loop (.sort [⟨100, ⟨0, 10, 9⟩, 0⟩, ⟨100, ⟨0, 20, 8⟩, 1⟩]),
      .loop .tick, .loop (.clock 100), .loop (.select (.ready [])), .loop .tick, .loop .tick,
      .loop .tick, .loop .tick, .loop (.clock 100), .loop (.callback .returns), .loop .tick,
      .loop (.callback .returns), .loop .tick, .loop .tick] rfl
  ⟨⟨hs, rfl⟩, timer_scan_fires_due_entries _ hs⟩

/-- **The stop datagram cuts the scan short with no callback setting the flag.**
A stop datagram arrives while two entries are due: the timer phase still runs,
calls the first entry, finds the flag set and ends, the second entry never
called, though no `ProcessPacket()` or `TimerExpired()` call set the flag. -/
theorem stop_datagram_cuts_timer_scan :
    ¬ ∀ s : System, Reachable s → s.pc = .resorting →
      ∀ pre calls, s.log = pre ++ [.getCurrentTimeMs s.currentTimeMs] ++ calls →
        calls.map Event.expiredCall = (s.iterQueue.filter (·.due s.currentTimeMs)).map some ∨
          s.log.any Event.callbackStops := by
  intro h
  have := h _ ((Reachable.init ⟨[(7, 5)], [⟨0, 10, 9⟩, ⟨0, 20, 8⟩], false, (3, 4)⟩ 0 ⟨0, 0⟩ []).run
    [.loop .tick, .loop (.clock 100), .loop (.sort [⟨100, ⟨0, 10, 9⟩, 0⟩, ⟨100, ⟨0, 20, 8⟩, 1⟩]),
      .loop .tick, .loop (.clock 100), .loop (.select (.ready [5])), .loop .tick, .loop .tick,
      .loop (.packet (.datagram stopDatagram ⟨2, 0x0100007F, 0x1027⟩) .returns), .loop (.clock 100),
      .loop (.callback .returns), .loop .tick] rfl) rfl
    [.getCurrentTimeMs 100, .getCurrentTimeMs 100, .select 6 [3, 5] (some 0) (.ready [5]),
      .receiveFrom 0 5 8 stopDatagram ⟨0x7F000001, 10000⟩]
    [.timerExpired ⟨100, ⟨0, 10, 9⟩, 0⟩ .returns] rfl
  exact absurd this (by decide)

end Oscpack

import Mathlib.Algebra.Group.Int
import Mathlib.Data.List.Perm.Basic

/-!
# The timer queue of `Run()`

`Run()` keeps its timers in a local vector `timerQueue_` of
`(next fire time, registration)` pairs. It builds the queue once, from the
registrations in `timerListeners_` and one clock reading, and sorts it with
`CompareScheduledTimerCalls`. Each iteration then waits no longer than the
front entry's time. After the sockets it scans the queue from the front,
calls `TimerExpired()` on each entry that is due, and moves that entry on by
its period. The scan stops at the first entry that is not yet due, and the
queue is sorted again if anything moved.

The scan looks only at a prefix of the queue. That is the same as looking at
every due entry because the queue is sorted: the entries after the first one
that is not due are not due either (`filter_due_eq_take`). The wait computed
from the front entry is the wait for the earliest entry for the same reason
(`selectTimeoutMs_eq_min`).

Times are `double`s in the code: whole milliseconds read from
`steady_clock`, plus `int` delays and periods. Every value is then a whole
number, and every sum or difference of two of them is the double nearest to
the exact result (`roundDouble`). Below `2^53` that is the exact result
(`roundDouble_of_natAbs_le`); above it, a sum can lose its last bits, and an
entry moved on by its period many times drifts from `t0 + initialDelayMs +
k * periodMs` (`firePhase`).
-/

namespace Oscpack

/-! ## Times are doubles -/

/-- The number of low bits a double drops from a whole number of magnitude `n`:
none below `2^53`, and one more for each doubling above. `fuel` bounds the
count; 1024 covers every finite double. -/
def droppedBits (n : Nat) : Nat → Nat
  | 0 => 0
  | fuel + 1 => if n < 2 ^ 53 then 0 else droppedBits (n / 2) fuel + 1

/-- The double nearest to the whole number `x`, a tie going to the even
significand: what a `double` sum or difference of whole numbers evaluates to.
Values from `2^1024` on, which would overflow to infinity, do not occur in
`Run()`: the clock reads an `int64` count, delays and periods are `int`s, and
an entry stops moving once its last kept bit exceeds twice its period. -/
def roundDouble (x : Int) : Int :=
  let n := x.natAbs
  let s := droppedBits n 1024
  let q := n / 2 ^ s
  let r := n % 2 ^ s
  let q := if 2 ^ s < 2 * r ∨ 2 * r = 2 ^ s ∧ q % 2 = 1 then q + 1 else q
  x.sign * (q * 2 ^ s : Nat)

/-- **Doubles hold every whole number up to `2^53` exactly.** -/
theorem roundDouble_of_natAbs_le {x : Int} (h : x.natAbs ≤ 2 ^ 53) : roundDouble x = x := by
  rcases Nat.lt_or_eq_of_le h with h | h
  · have hd : droppedBits x.natAbs (1023 + 1) = 0 := by rw [droppedBits, if_pos h]
    simp only [roundDouble, hd, pow_zero, Nat.div_one, Nat.mod_one, Nat.mul_zero, Nat.mul_one]
    rw [if_neg (by omega), Int.sign_mul_natAbs]
  · rcases Int.natAbs_eq x with hx | hx <;> rw [hx, h] <;> decide

/-- Past `2^53` the last bit is lost: `2^53 + 1` is stored as `2^53`. -/
example : roundDouble (2 ^ 53 + 1) = 2 ^ 53 := by decide

/-- `AttachedTimerListener`: a timer registration. -/
structure AttachedTimerListener where
  /-- The delay from the clock reading `Run()` builds its queue with to the
  first call. -/
  initialDelayMs : Int
  /-- The time from one call to the next. -/
  periodMs : Int
  /-- `listener`, the `TimerListener*` identity. -/
  listener : Nat
  deriving DecidableEq, Repr

/-- An entry of `timerQueue_`, a `std::pair< double, AttachedTimerListener >`.
`origin` is ghost: the position of the registration in `timerListeners_` when
`Run()` built the queue, which tells two equal registrations apart. -/
structure ScheduledTimerCall where
  /-- `first`, the next fire time. -/
  first : Int
  /-- `second`, the registration. -/
  second : AttachedTimerListener
  /-- Ghost: where the registration stood in `timerListeners_`. -/
  origin : Nat
  deriving DecidableEq, Repr

namespace ScheduledTimerCall

/-- `i->first += i->second.periodMs`, in double. -/
def advance (e : ScheduledTimerCall) : ScheduledTimerCall :=
  { e with first := roundDouble (e.first + e.second.periodMs) }

@[simp] theorem first_advance (e : ScheduledTimerCall) :
    e.advance.first = roundDouble (e.first + e.second.periodMs) := rfl

@[simp] theorem second_advance (e : ScheduledTimerCall) : e.advance.second = e.second := rfl

@[simp] theorem origin_advance (e : ScheduledTimerCall) : e.advance.origin = e.origin := rfl

/-- Due at `now`: the scan's condition `i->first <= currentTimeMs`. -/
def due (now : Int) (e : ScheduledTimerCall) : Bool := e.first ≤ now

end ScheduledTimerCall

/-- `CompareScheduledTimerCalls`: the order `std::sort` uses, by next fire time
only. -/
def compareScheduledTimerCalls (lhs rhs : ScheduledTimerCall) : Bool := lhs.first < rhs.first

/-- What `std::sort` with `CompareScheduledTimerCalls` guarantees: no entry
compares less than one before it. -/
def SortedByFireTime (q : List ScheduledTimerCall) : Prop :=
  q.Pairwise fun a b => compareScheduledTimerCalls b a = false

instance (q : List ScheduledTimerCall) : Decidable (SortedByFireTime q) :=
  inferInstanceAs (Decidable (List.Pairwise _ _))

theorem sortedByFireTime_iff {q : List ScheduledTimerCall} :
    SortedByFireTime q ↔ q.Pairwise fun a b => a.first ≤ b.first := by
  simp [SortedByFireTime, compareScheduledTimerCalls, Int.not_lt]

/-- The queue before its first sort: one entry per registration, in
registration order, due at `currentTimeMs + initialDelayMs` (in double). -/
def buildTimerQueue (currentTimeMs : Int) (timerListeners_ : List AttachedTimerListener) :
    List ScheduledTimerCall :=
  timerListeners_.mapIdx fun i r => ⟨roundDouble (currentTimeMs + r.initialDelayMs), r, i⟩

/-- The queue after `std::sort`: a permutation of the queue before it, sorted. -/
def IsSortOf (sorted q : List ScheduledTimerCall) : Prop :=
  sorted.Perm q ∧ SortedByFireTime sorted

instance (sorted q : List ScheduledTimerCall) : Decidable (IsSortOf sorted q) :=
  inferInstanceAs (Decidable (_ ∧ _))

/-- **`std::sort` always has a result.** Merge sort, placing an entry before
another unless it compares greater, gives a sort of any queue. -/
theorem isSortOf_mergeSort (q : List ScheduledTimerCall) :
    IsSortOf (q.mergeSort fun a b => !compareScheduledTimerCalls b a) q := by
  refine ⟨List.mergeSort_perm _ _, ?_⟩
  have hs := @List.sorted_mergeSort _ (fun a b => !compareScheduledTimerCalls b a)
    (fun a b c => by
      simp only [compareScheduledTimerCalls, Bool.not_eq_true', decide_eq_false_iff_not]; omega)
    (fun a b => by
      simp only [compareScheduledTimerCalls, Bool.or_eq_true, Bool.not_eq_true',
        decide_eq_false_iff_not]; omega) q
  exact hs.imp fun h => by simpa using h

/-- The `timeoutMs` handed to `select()`: none for an empty queue; otherwise
the front entry's time less the clock (in double), raised to 0 if negative. -/
def selectTimeoutMs (timerQueue_ : List ScheduledTimerCall) (now : Int) : Option Int :=
  match timerQueue_ with
  | [] => none
  | e :: _ =>
    let timeoutMs := roundDouble (e.first - now)
    some (if timeoutMs < 0 then 0 else timeoutMs)

/-! ## The fixed phase -/

/-- Where an entry of registration `r` is due after `k` calls, for a queue
built at clock `t0`: `t0 + initialDelayMs`, then `k` times `+= periodMs`, each
in double. It depends on nothing else, in particular not on when a callback
returned. -/
def firePhase (t0 : Int) (r : AttachedTimerListener) (k : Nat) : Int :=
  (fun first => roundDouble (first + r.periodMs))^[k] (roundDouble (t0 + r.initialDelayMs))

theorem firePhase_succ (t0 : Int) (r : AttachedTimerListener) (k : Nat) :
    firePhase t0 r (k + 1) = roundDouble (firePhase t0 r k + r.periodMs) :=
  Function.iterate_succ_apply' _ _ _

/-- **While the values stay within `2^53`, the phase is exact**: `k` calls
after the queue was built at `t0`, the entry is due at `t0 + initialDelayMs +
k * periodMs`. -/
theorem firePhase_eq_of_bounded {t0 : Int} {r : AttachedTimerListener} {k : Nat}
    (h : ∀ j ≤ k, (t0 + r.initialDelayMs + j * r.periodMs).natAbs ≤ 2 ^ 53) :
    firePhase t0 r k = t0 + r.initialDelayMs + k * r.periodMs := by
  induction k with
  | zero => simpa [firePhase] using roundDouble_of_natAbs_le (by simpa using h 0 (Nat.zero_le _))
  | succ k ih =>
    rw [firePhase_succ, ih fun j hj => h j (by omega)]
    have := roundDouble_of_natAbs_le (h (k + 1) (Nat.le_refl _))
    push_cast at this ⊢
    rw [← this, Int.add_mul, Int.one_mul, ← Int.add_assoc]

/-! ## The registrations in the queue -/

theorem map_origin_buildTimerQueue (t : Int) (rs : List AttachedTimerListener) :
    (buildTimerQueue t rs).map ScheduledTimerCall.origin = List.range rs.length := by
  apply List.ext_getElem <;> simp [buildTimerQueue]

/-- Each entry of the built queue holds its own registration, due after its
initial delay. -/
theorem mem_buildTimerQueue {t : Int} {rs : List AttachedTimerListener} {e : ScheduledTimerCall}
    (he : e ∈ buildTimerQueue t rs) :
    rs[e.origin]? = some e.second ∧ e.first = firePhase t e.second 0 := by
  obtain ⟨i, hi, rfl⟩ := List.getElem_of_mem he
  simp only [buildTimerQueue, List.length_mapIdx] at hi
  simp [buildTimerQueue, hi, firePhase]

/-! ## The scan is a filter -/

/-- The queue with its first `i` entries moved on: what the scan leaves when it
has passed `i` entries. -/
def advanceFirst (i : Nat) (Q : List ScheduledTimerCall) : List ScheduledTimerCall :=
  (Q.take i).map ScheduledTimerCall.advance ++ Q.drop i

@[simp] theorem advanceFirst_zero (Q : List ScheduledTimerCall) : advanceFirst 0 Q = Q := by
  simp [advanceFirst]

@[simp] theorem length_advanceFirst (i : Nat) (Q : List ScheduledTimerCall) :
    (advanceFirst i Q).length = Q.length := by
  simp only [advanceFirst, List.length_append, List.length_map, List.length_take, List.length_drop]
  omega

@[simp] theorem map_origin_advanceFirst (i : Nat) (Q : List ScheduledTimerCall) :
    (advanceFirst i Q).map ScheduledTimerCall.origin = Q.map ScheduledTimerCall.origin := by
  rw [advanceFirst, List.map_append, List.map_map]
  conv => rhs; rw [← List.take_append_drop i Q, List.map_append]
  rfl

theorem getElem?_advanceFirst_self (i : Nat) (Q : List ScheduledTimerCall) :
    (advanceFirst i Q)[i]? = Q[i]? := by
  rcases Nat.lt_or_ge i Q.length with h | h
  · rw [advanceFirst, List.getElem?_append_right (by rw [List.length_map, List.length_take]; omega)]
    simp [Nat.min_eq_left h.le]
  · rw [List.getElem?_eq_none (by rw [length_advanceFirst]; exact h), List.getElem?_eq_none h]

/-- Moving the `i`-th entry on extends the moved prefix by one. -/
theorem set_advanceFirst {i : Nat} {Q : List ScheduledTimerCall} (h : i < Q.length) :
    (advanceFirst i Q).set i Q[i].advance = advanceFirst (i + 1) Q := by
  have hlen : ((Q.take i).map ScheduledTimerCall.advance).length = i := by
    rw [List.length_map, List.length_take]; omega
  rw [advanceFirst, List.set_append_right _ _ (by omega), hlen, Nat.sub_self,
    List.drop_eq_getElem_cons h, List.set_cons_zero, advanceFirst, List.take_succ,
    List.getElem?_eq_getElem h]
  simp only [Option.toList_some, List.map_append, List.map_singleton, List.append_assoc,
    List.singleton_append]

section Scan

variable {Q : List ScheduledTimerCall} {now : Int} {i : Nat}

theorem due_of_mem_take (hdue : ∀ j (hj : j < Q.length), j < i → Q[j].first ≤ now)
    {e : ScheduledTimerCall} (he : e ∈ Q.take i) : e.due now := by
  obtain ⟨k, hk, rfl⟩ := List.getElem_of_mem he
  simp only [List.length_take] at hk
  simpa [ScheduledTimerCall.due] using hdue k (by omega) (by omega)

/-- When the first `i` entries are due, the first `i` due entries are they. -/
theorem take_filter_due (hdue : ∀ j (hj : j < Q.length), j < i → Q[j].first ≤ now)
    (hi : i ≤ Q.length) : (Q.filter (ScheduledTimerCall.due now)).take i = Q.take i := by
  conv => lhs; rw [← List.take_append_drop i Q]
  rw [List.filter_append, List.filter_eq_self.mpr fun e he => due_of_mem_take hdue he]
  exact List.take_left' (by rw [List.length_take]; omega)

/-- In a sorted queue, nothing after an entry that is not due is due. -/
theorem not_due_of_mem_drop (hQ : SortedByFireTime Q) (hstop : ∀ h : i < Q.length, now < Q[i].first)
    {e : ScheduledTimerCall} (he : e ∈ Q.drop i) : e.due now = false := by
  rw [sortedByFireTime_iff] at hQ
  obtain ⟨k, hk, rfl⟩ := List.getElem_of_mem he
  simp only [List.getElem_drop, List.length_drop] at hk ⊢
  have hiQ : i < Q.length := by omega
  have hle : Q[i].first ≤ Q[i + k].first := by
    rcases Nat.eq_zero_or_pos k with rfl | hk0
    · exact Int.le_refl _
    · exact List.pairwise_iff_getElem.mp hQ i (i + k) hiQ (by omega) (by omega)
  have := hstop hiQ
  simp only [ScheduledTimerCall.due, decide_eq_false_iff_not, not_le]
  omega

variable (hQ : SortedByFireTime Q) (hdue : ∀ j (hj : j < Q.length), j < i → Q[j].first ≤ now)
  (hstop : ∀ h : i < Q.length, now < Q[i].first)
include hQ hdue hstop

/-- **A scan that stops at the first entry not due has seen every due entry**:
in a sorted queue whose first `i` entries are due and whose `i`-th is not (or
which has only `i` entries), the due entries are the first `i`. -/
theorem filter_due_eq_take : Q.filter (ScheduledTimerCall.due now) = Q.take i := by
  conv => lhs; rw [← List.take_append_drop i Q]
  rw [List.filter_append, List.filter_eq_self.mpr fun e he => due_of_mem_take hdue he,
    List.filter_eq_nil_iff.mpr fun e he => by simp [not_due_of_mem_drop hQ hstop he],
    List.append_nil]

/-- Moving the due entries on is moving the first `i` on, under the same
conditions. -/
theorem map_advance_due_eq :
    Q.map (fun e => if e.due now then e.advance else e) =
      (Q.take i).map ScheduledTimerCall.advance ++ Q.drop i := by
  conv => lhs; rw [← List.take_append_drop i Q]
  rw [List.map_append]
  congr 1
  · exact List.map_congr_left fun e he => if_pos (due_of_mem_take hdue he)
  · have h : ∀ e ∈ Q.drop i, (if e.due now then e.advance else e) = e := fun e he => by
      simp [not_due_of_mem_drop hQ hstop he]
    rw [List.map_congr_left h, List.map_id']

end Scan

/-! ## The wait is for the earliest entry -/

theorem foldl_min_eq_of_le {a : Int} : ∀ {l : List Int}, (∀ x ∈ l, a ≤ x) → l.foldl min a = a
  | [], _ => rfl
  | x :: l, h => by
    rw [List.foldl_cons, Int.min_eq_left (h x (List.mem_cons_self _ _))]
    exact foldl_min_eq_of_le fun y hy => h y (List.mem_cons_of_mem _ hy)

/-- **The wait before `select()` is the time to the earliest entry**: for a
sorted queue, `timeoutMs` is `max 0 (m - now)` with `m` the smallest next fire
time and the difference taken in double, and there is no timeout exactly when
the queue is empty. -/
theorem selectTimeoutMs_eq_min {Q : List ScheduledTimerCall} (hQ : SortedByFireTime Q) (now : Int) :
    selectTimeoutMs Q now = (Q.map (·.first)).min?.map fun m => max 0 (roundDouble (m - now)) := by
  cases Q with
  | nil => rfl
  | cons e rest =>
    rw [sortedByFireTime_iff, List.pairwise_cons] at hQ
    have hmin : (rest.map (·.first)).foldl min e.first = e.first :=
      foldl_min_eq_of_le fun x hx => by
        obtain ⟨y, hy, rfl⟩ := List.mem_map.mp hx
        exact hQ.1 y hy
    simp only [selectTimeoutMs, List.map_cons, List.min?_cons', hmin, Option.map_some']
    congr 1
    split <;> omega

end Oscpack

import Oscpack.Transition

/-!
# `AsynchronousBreak()` is not lost

Another thread stops `Run()` by storing `break_ = true` and then writing a
byte into the pipe whose read end `select()` waits on. Once stored, the flag
stays set: the only store of `false` is `Run()`'s own `break_ = false` on
entry. So a call whose store comes after that reset is never lost
(`stop_request_kept`). Moreover the loop cannot wait in `select()` with the
flag set and nothing to wake it: from the check in `while( !break_ )` to the
return of `select()` nothing reads the pipe, so the byte of the call that set
the flag is there, or is still to be written (`stop_request_wakes_select`).

A call that stores the flag while `Run()` is still entering, before the reset,
is lost. The reset overwrites the flag, the loop drains the byte and goes on,
and it is back in `select()` with the flag clear and the pipe empty
(`stop_request_lost_before_reset`).
-/

namespace Oscpack

open System

/-- The invariant behind `AsynchronousBreak()`. -/
structure StopFlagInv (s : System) : Prop where
  /-- Before the reset, no call has stored after it. -/
  before_reset : s.pc = .start → ∀ c ∈ s.calls, c.storedAfterReset = false
  /-- A store after the reset is still there. -/
  kept : ∀ c ∈ s.calls, c.storedAfterReset = true → s.break_ = true
  /-- About to wait in `select()` with the flag set, there is a byte in the
  pipe or a byte on its way. -/
  wakes : s.pc = .timeout ∨ s.pc = .select → s.break_ = true →
    0 < s.pipe ∨ ∃ c ∈ s.calls, c.stage = .stored

namespace StopFlagInv

variable {s s' : System}

theorem init (m : SocketReceiveMultiplexerImplementation) (pipe : Nat)
    (remoteEndpoint : IpEndpointName) (calls : List AsyncStage) :
    StopFlagInv (System.init m pipe remoteEndpoint calls) where
  before_reset _ c hc := by
    obtain ⟨_, _, rfl⟩ := List.mem_map.mp hc
    rfl
  kept c hc hg := by
    obtain ⟨_, _, rfl⟩ := List.mem_map.mp hc
    cases hg
  wakes h := by simp [System.init] at h

theorem step (hi : StopFlagInv s) (ht : Transition s s') : StopFlagInv s' := by
  obtain ⟨h1, h2, h3⟩ := hi
  cases ht
  case reset hpc =>
    exact ⟨by simp, fun c hc hg => absurd (h1 hpc c hc) (by simp [hg]), by simp⟩
  case enter hpc hb => exact ⟨by simp, h2, fun _ hb' => absurd hb' (by simp [hb])⟩
  case noTimeout hpc _ => exact ⟨by simp, h2, fun _ => h3 (.inl hpc)⟩
  case timeout hpc _ _ => exact ⟨by simp, h2, fun _ => h3 (.inl hpc)⟩
  case asyncCall =>
    refine ⟨fun hpc c hc => ?_, fun c hc => ?_, fun hpc hb => ?_⟩
    · rcases List.mem_append.mp hc with hc | hc
      · exact h1 hpc c hc
      · simp at hc; simp [hc]
    · rcases List.mem_append.mp hc with hc | hc
      · exact h2 c hc
      · simp at hc; simp [hc]
    · rcases h3 hpc hb with hp | ⟨c, hc, hst⟩
      · exact .inl hp
      · exact .inr ⟨c, List.mem_append_left _ hc, hst⟩
  case asyncStore g t ht =>
    have htl : t < s.calls.length := (List.getElem?_eq_some_iff.mp ht).1
    refine ⟨fun hpc c hc => ?_, fun _ _ _ => rfl,
      fun _ _ => .inr ⟨_, List.mem_set _ _ htl _, rfl⟩⟩
    rcases List.mem_or_eq_of_mem_set hc with hc | rfl
    · exact h1 hpc c hc
    · simp [show s.pc = .start from hpc]
  case asyncWrite g t ht =>
    obtain ⟨htl, hget⟩ := List.getElem?_eq_some_iff.mp ht
    have hold : ⟨.stored, g⟩ ∈ s.calls := hget ▸ List.getElem_mem htl
    refine ⟨fun hpc c hc => ?_, fun c hc hg => ?_, fun _ _ => .inl (Nat.succ_pos _)⟩
    · rcases List.mem_or_eq_of_mem_set hc with hc | rfl
      · exact h1 hpc c hc
      · exact h1 hpc ⟨.stored, g⟩ hold
    · rcases List.mem_or_eq_of_mem_set hc with hc | rfl
      · exact h2 c hc hg
      · exact h2 ⟨.stored, g⟩ hold hg
  all_goals
    refine ⟨fun hpc => by simp at hpc, fun c hc hg => ?_, fun hpc => by simp at hpc⟩
    simp [applyEffect, h2 c (by simpa [applyEffect] using hc) hg]

end StopFlagInv

theorem StopFlagInv.reachable {s : System} (hs : Reachable s) : StopFlagInv s :=
  Reachable.induction StopFlagInv.init (fun _ hi ht => hi.step ht) hs

/-- **A stop request made after the reset is not lost.** In every reachable
state, every `AsynchronousBreak()` call whose store to `break_` came after
`Run()`'s `break_ = false` has left the flag set; and when the loop thread is
about to wait in `select()` with the flag set, the pipe holds a byte or a
call that has stored the flag is still to write one. -/
theorem stop_request_kept (s : System) (hs : Reachable s) :
    (∀ c ∈ s.calls, c.storedAfterReset = true → s.break_ = true) ∧
      (s.pc = .timeout ∨ s.pc = .select → s.break_ = true →
        0 < s.pipe ∨ ∃ c ∈ s.calls, c.stage = .stored) :=
  ⟨(StopFlagInv.reachable hs).kept, (StopFlagInv.reachable hs).wakes⟩

/-- A call that stores the flag once `Run()` has reset it: the flag is set
and the loop, about to wait, has the byte in the pipe. -/
theorem stop_request_kept_after_reset :
    let s₀ := System.init ⟨[], [], false, (3, 4)⟩ 0 ⟨0, 0⟩ []
    let s := (s₀.run [.loop .tick, .loop (.clock 0), .loop (.sort []), .loop .tick, .asyncCall,
      .asyncStore 0, .asyncWrite 0]).getD s₀
    Reachable s ∧ ((∀ c ∈ s.calls, c.storedAfterReset = true → s.break_ = true) ∧
      (s.pc = .timeout ∨ s.pc = .select → s.break_ = true →
        0 < s.pipe ∨ ∃ c ∈ s.calls, c.stage = .stored)) :=
  have hs := (Reachable.init ⟨[], [], false, (3, 4)⟩ 0 ⟨0, 0⟩ []).run [.loop .tick, .loop (.clock 0),
    .loop (.sort []), .loop .tick, .asyncCall, .asyncStore 0, .asyncWrite 0] rfl
  ⟨hs, stop_request_kept _ hs⟩

/-- **A stop request made while `Run()` is entering is lost.** Another thread
calls `AsynchronousBreak()` after `Run()` is entered and before its
`break_ = false`; the call completes, the reset clears the flag, and the loop
drains the byte and comes back to `select()` with the flag clear and the pipe
empty. -/
theorem stop_request_lost_before_reset :
    ¬ ∀ (m : SocketReceiveMultiplexerImplementation) (pipe : Nat) (remoteEndpoint : IpEndpointName)
      (acts : List Action) (s : System), (System.init m pipe remoteEndpoint []).run acts = some s →
      ∀ c ∈ s.calls, c.stage = .returned → (∀ e, s.pc ≠ .exited e) → s.break_ = true := by
  intro h
  have := h ⟨[], [], false, (3, 4)⟩ 0 ⟨0, 0⟩
    [.asyncCall, .asyncStore 0, .asyncWrite 0, .loop .tick, .loop (.clock 0), .loop (.sort []),
      .loop .tick, .loop .tick, .loop (.select (.ready [3])), .loop .tick, .loop .tick, .loop .tick,
      .loop (.clock 0), .loop .tick, .loop .tick, .loop .tick, .loop .tick] _ rfl
    ⟨.returned, false⟩ (by decide) rfl (by simp)
  exact absurd this (by decide)

end Oscpack

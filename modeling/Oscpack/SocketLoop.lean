import Oscpack.Dispatch

/-!
# The socket loop reads every socket `select()` reported

`select()` returns with `tempfds` holding the descriptors that are readable,
and the socket loop then walks `socketListeners_` once, in registration order,
calling `ReceiveFrom()` on each registration whose socket is in `tempfds`. The
module on dispatch shows that nothing else is read. This one shows that
nothing reported is skipped. When the loop reaches the timer phase, the
`ReceiveFrom()` calls since the iteration's `select()` are exactly the
registrations whose socket was reported, each once, in registration order
(`readable`). The one exception is a loop that stopped: the stop datagram, or
a `ProcessPacket()` after which the flag was found set, ends it early, and
then the calls are a prefix of that list (`socket_loop_reads_reported`).

A socket attached with two listeners is two registrations here, and both are
read; the order is the order of `socketListeners_`, not of the descriptors.
-/

namespace Oscpack

open System

/-! ## The registrations to read -/

/-- The registrations the socket loop must read once `select()` has left `fds`
in `tempfds`: each whose socket is among them, as its position and socket, in
registration order. -/
def readable (socketListeners_ : List (Nat × Int)) (fds : List Int) : List (Nat × Int) :=
  (socketListeners_.enum.filter fun p => p.2.2 ∈ fds).map fun p => (p.1, p.2.2)

section Readable

variable {L : List (Nat × Int)} {fds : List Int}

@[simp] theorem readable_take_zero : readable (L.take 0) fds = [] := rfl

/-- Passing registration `i` adds it to the list exactly when its socket was
reported. -/
theorem readable_take_succ {i l : Nat} {sock : Int} (h : L[i]? = some (l, sock)) :
    readable (L.take (i + 1)) fds = readable (L.take i) fds ++ if sock ∈ fds then [(i, sock)] else [] := by
  have hi : i < L.length := (List.getElem?_eq_some_iff.mp h).1
  rw [List.take_succ, h, Option.toList_some, readable, List.enum_append, List.length_take,
    Nat.min_eq_left hi.le, List.enumFrom_singleton, List.filter_append, List.map_append]
  by_cases hs : sock ∈ fds <;> simp [readable, hs]

theorem readable_take_of_length_le {i : Nat} (h : L.length ≤ i) :
    readable (L.take i) fds = readable L fds := by
  rw [List.take_of_length_le h]

theorem readable_take_prefix (i : Nat) : readable (L.take i) fds <+: readable L fds := by
  have h : (L.take i).enum <+: L.enum := by
    obtain ⟨rest, hrest⟩ := List.take_prefix i L
    refine ⟨List.enumFrom (L.take i).length rest, ?_⟩
    rw [← List.enum_append, hrest]
  exact (h.filter _).map _

end Readable

/-! ## The reads since `select()` -/

/-- The log runs from a `select()` that left `fds` in `tempfds`, with no
`select()` since, and the `ReceiveFrom()` calls since are `reads`. -/
def ReadSince (log : List Event) (fds : List Int) (reads : List (Nat × Int)) : Prop :=
  ∃ pre nfds fds' t mid, log = pre ++ .select nfds fds' t (.ready fds) :: mid ∧
    (∀ ev ∈ mid, ev.isSelect = false) ∧ mid.filterMap Event.received? = reads

theorem ReadSince.select (log : List Event) (nfds : Int) (fds' : List Int) (t : Option Int)
    (fds : List Int) : ReadSince (log ++ [.select nfds fds' t (.ready fds)]) fds [] :=
  ⟨log, nfds, fds', t, [], by simp, by simp, rfl⟩

theorem ReadSince.append {log new : List Event} {fds : List Int} {reads : List (Nat × Int)}
    (h : ReadSince log fds reads) (hnew : ∀ ev ∈ new, ev.isSelect = false) :
    ReadSince (log ++ new) fds (reads ++ new.filterMap Event.received?) := by
  obtain ⟨pre, nfds, fds', t, mid, rfl, hmid, hreads⟩ := h
  refine ⟨pre, nfds, fds', t, mid ++ new, by simp, fun ev hev => ?_, by
    rw [List.filterMap_append, hreads]⟩
  rcases List.mem_append.mp hev with hev | hev
  exacts [hmid ev hev, hnew ev hev]

/-- Where the socket loop is, the registrations it has read since `select()`. -/
def SocketLoopInv (s : System) : Prop :=
  match s.pc with
  | .drain | .checkBreak => ReadSince s.log s.tempfds []
  | .sockets i => ReadSince s.log s.tempfds (readable (s.socketListeners_.take i) s.tempfds)
  | .afterPacket i =>
    ReadSince s.log s.tempfds (readable (s.socketListeners_.take (i + 1)) s.tempfds)
  | .timerClock => ReadSince s.log s.tempfds (readable s.socketListeners_ s.tempfds) ∨
    s.break_ = true ∧ ∃ reads, reads <+: readable s.socketListeners_ s.tempfds ∧
      ReadSince s.log s.tempfds reads
  | _ => True

namespace SocketLoopInv

variable {s s' : System}

theorem init (m : SocketReceiveMultiplexerImplementation) (pipe : Nat)
    (remoteEndpoint : IpEndpointName) (calls : List AsyncStage) :
    SocketLoopInv (System.init m pipe remoteEndpoint calls) := trivial

/-- Another thread's steps touch only the flag, which they can only set. -/
theorem frame (hi : SocketLoopInv s) (hpc : s'.pc = s.pc) (hlog : s'.log = s.log)
    (hfds : s'.tempfds = s.tempfds) (hL : s'.socketListeners_ = s.socketListeners_)
    (hb : s.break_ = true → s'.break_ = true) : SocketLoopInv s' := by
  unfold SocketLoopInv at hi ⊢
  rw [hpc, hlog, hfds, hL]
  split at hi
  case h_5 => exact hi.imp_right fun h => ⟨hb h.1, h.2⟩
  all_goals exact hi

theorem step (hi : SocketLoopInv s) (ht : Transition s s') : SocketLoopInv s' := by
  cases ht
  case selectReady => exact ReadSince.select _ _ _ _ _
  case drainRead hpc _ =>
    simp only [SocketLoopInv, hpc] at hi
    exact hi.append (List.forall_mem_singleton.mpr rfl)
  case drainSkip hpc _ => simpa only [SocketLoopInv, hpc] using hi
  case checkPass hpc _ => simpa only [SocketLoopInv, hpc] using hi
  case socketsDone i hpc hnone =>
    simp only [SocketLoopInv, hpc] at hi
    exact .inl (by rwa [← readable_take_of_length_le (List.getElem?_eq_none_iff.mp hnone)])
  case socketSkip i l sock hpc hreg hs =>
    simp only [SocketLoopInv, hpc] at hi
    show ReadSince _ _ (readable (s.socketListeners_.take (i + 1)) s.tempfds)
    rwa [readable_take_succ hreg, if_neg hs, List.append_nil]
  case receiveStop i l sock hpc hreg hs _ _ =>
    simp only [SocketLoopInv, hpc] at hi
    refine .inr ⟨rfl, _, readable_take_prefix (i + 1), ?_⟩
    rw [readable_take_succ hreg, if_pos hs]
    exact hi.append (List.forall_mem_singleton.mpr rfl)
  case receivePacket i l sock hpc hreg hs _ _ _ _ _ _ _ _ =>
    simp only [SocketLoopInv, hpc] at hi
    show ReadSince (s.log ++ _ ++ _) s.tempfds (readable (s.socketListeners_.take (i + 1)) s.tempfds)
    rw [readable_take_succ hreg, if_pos hs, List.append_assoc]
    exact hi.append (List.forall_mem_cons.mpr ⟨rfl, List.forall_mem_singleton.mpr rfl⟩)
  case receiveEmpty i l sock hpc hreg hs _ _ _ =>
    simp only [SocketLoopInv, hpc] at hi
    show ReadSince _ _ (readable (s.socketListeners_.take (i + 1)) s.tempfds)
    rw [readable_take_succ hreg, if_pos hs]
    exact hi.append (List.forall_mem_singleton.mpr rfl)
  case packetExit i hpc hb =>
    simp only [SocketLoopInv, hpc] at hi
    exact .inr ⟨hb, _, readable_take_prefix (i + 1), hi⟩
  case packetNext hpc _ => simpa only [SocketLoopInv, hpc] using hi
  case asyncCall => exact hi.frame rfl rfl rfl rfl id
  case asyncStore => exact hi.frame rfl rfl rfl rfl fun _ => rfl
  case asyncWrite => exact hi.frame rfl rfl rfl rfl id
  all_goals trivial

theorem reachable (hs : Reachable s) : SocketLoopInv s :=
  Reachable.induction init (fun _ hi ht => hi.step ht) hs

end SocketLoopInv

/-- **The socket loop skips no socket `select()` reported.** In every reachable
state in which `Run()` has finished its socket loop and is about to read the
clock for the timers, the log runs from a `select()` that reported `tempfds`,
and the `ReceiveFrom()` calls since are exactly the registrations whose
socket is in `tempfds`, each once and in registration order; or the stop flag
is set and they are the first of those registrations. -/
theorem socket_loop_reads_reported (s : System) (hs : Reachable s) (hpc : s.pc = .timerClock) :
    ∃ pre nfds fds t mid, s.log = pre ++ .select nfds fds t (.ready s.tempfds) :: mid ∧
      (∀ ev ∈ mid, ev.isSelect = false) ∧
      (mid.filterMap Event.received? = readable s.socketListeners_ s.tempfds ∨
        s.break_ = true ∧ mid.filterMap Event.received? <+: readable s.socketListeners_ s.tempfds) := by
  have hi := SocketLoopInv.reachable hs
  simp only [SocketLoopInv, hpc] at hi
  rcases hi with ⟨pre, nfds, fds, t, mid, hl, hmid, hreads⟩ |
    ⟨hb, reads, hpre, pre, nfds, fds, t, mid, hl, hmid, rfl⟩
  · exact ⟨pre, nfds, fds, t, mid, hl, hmid, .inl hreads⟩
  · exact ⟨pre, nfds, fds, t, mid, hl, hmid, .inr ⟨hb, hpre⟩⟩

/-- Two registrations, only the second socket readable: the loop reads that
one and passes the other. -/
theorem socket_loop_reads_second_of_two :
    let m : SocketReceiveMultiplexerImplementation := ⟨[(7, 5), (8, 6)], [], false, (3, 4)⟩
    let acts : List Action := [.loop .tick, .loop (.clock 0), .loop (.sort []), .loop .tick,
      .loop .tick, .loop (.select (.ready [6])), .loop .tick, .loop .tick, .loop .tick,
      .loop (.packet (.datagram [1, 2, 3, 4] ⟨2, 0x0100007F, 0x1027⟩) .returns), .loop .tick,
      .loop .tick]
    let s := ((System.init m 0 ⟨0, 0⟩ []).run acts).getD (System.init m 0 ⟨0, 0⟩ [])
    (Reachable s ∧ s.pc = .timerClock ∧ readable s.socketListeners_ s.tempfds = [(1, 6)]) ∧
      ∃ pre nfds fds t mid, s.log = pre ++ .select nfds fds t (.ready s.tempfds) :: mid ∧
        (∀ ev ∈ mid, ev.isSelect = false) ∧
        (mid.filterMap Event.received? = readable s.socketListeners_ s.tempfds ∨
          s.break_ = true ∧ mid.filterMap Event.received? <+: readable s.socketListeners_ s.tempfds) := by
  intro m acts s
  have hs : Reachable s := (Reachable.init m 0 ⟨0, 0⟩ []).run acts (by decide)
  have hpc : s.pc = .timerClock := by decide
  exact ⟨⟨hs, hpc, by decide⟩, socket_loop_reads_reported s hs hpc⟩

end Oscpack

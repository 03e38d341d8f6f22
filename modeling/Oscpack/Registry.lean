import Oscpack.Multiplexer
import Mathlib.Data.Finset.Insert
import Mathlib.Data.Finset.Erase

/-!
# The registrations are a set of sockets and a multiset of timers

`socketListeners_` and `timerListeners_` are vectors, changed by
`AttachSocketListener`, `DetachSocketListener`, `AttachPeriodicTimerListener`
and `DetachPeriodicTimerListener`, each guarded by an `assert`. What they are
for is simpler: the attached `(listener, socket)` pairs are a set, since a
pair cannot be attached twice, and the timer registrations are a multiset,
since a listener can be attached as often as one likes and each detach takes
one of its registrations away. `Registry` is that abstract state, with its
four operations failing exactly where the code's `assert`s fail.

The vectors refine it (`run_refines_registry`). From a multiplexer whose
pairs are distinct, as the constructor's empty vectors are, a sequence of
calls fails in one model exactly when it fails in the other (and so, prefix by
prefix, at the same call), and otherwise ends in states that the abstraction
`registry` maps one to the other. Two facts of the code carry
this. `std::find` and `erase` remove the only occurrence of a pair, because
attaching keeps the pairs distinct. And erasing the first registration of a
listener, at the position `findIdx?` found, removes one of its registrations
from the multiset.
-/

namespace Oscpack

/-! ## The abstract registry -/

/-- What the registrations mean: the attached `(listener, socket)` pairs, and
the listener of each timer registration, once per registration. -/
structure Registry where
  /-- The attached `(listener, socket)` pairs. -/
  sockets : Finset (Nat × Int)
  /-- The listeners of the timer registrations. -/
  timers : Multiset Nat
  deriving DecidableEq

namespace Registry

variable (r : Registry)

/-- Attach a pair; a pair already attached is an error. -/
def attachSocket (p : Nat × Int) : Option Registry :=
  if p ∈ r.sockets then none else some { r with sockets := insert p r.sockets }

/-- Detach a pair; a pair not attached is an error. -/
def detachSocket (p : Nat × Int) : Option Registry :=
  if p ∈ r.sockets then some { r with sockets := r.sockets.erase p } else none

/-- Add a registration of a timer listener. -/
def attachTimer (listener : Nat) : Registry := { r with timers := listener ::ₘ r.timers }

/-- Take one registration of a timer listener away; a listener with none is an
error. -/
def detachTimer (listener : Nat) : Option Registry :=
  if listener ∈ r.timers then some { r with timers := r.timers.erase listener } else none

end Registry

/-- The abstraction: the pairs of `socketListeners_` as a set, and the
listeners of `timerListeners_` as a multiset. -/
def SocketReceiveMultiplexerImplementation.registry (m : SocketReceiveMultiplexerImplementation) :
    Registry :=
  ⟨m.socketListeners_.toFinset, (m.timerListeners_.map (·.listener) : Multiset Nat)⟩

/-! ## Each call refines its abstract operation -/

namespace SocketReceiveMultiplexerImplementation

variable {m : SocketReceiveMultiplexerImplementation}

theorem registry_attachSocketListener (socket : Int) (listener : Nat) :
    (m.attachSocketListener socket listener).map registry =
      m.registry.attachSocket (listener, socket) := by
  unfold attachSocketListener Registry.attachSocket registry
  by_cases h : (listener, socket) ∈ m.socketListeners_
  · simp [h]
  · simp only [if_neg h, List.mem_toFinset, Option.map_some']
    congr 2
    ext x
    simp [or_comm]

/-- Erasing the pair removes it from the set: it occurs once. -/
theorem registry_detachSocketListener (hm : m.socketListeners_.Nodup) (socket : Int)
    (listener : Nat) :
    (m.detachSocketListener socket listener).map registry =
      m.registry.detachSocket (listener, socket) := by
  unfold detachSocketListener Registry.detachSocket registry
  by_cases h : (listener, socket) ∈ m.socketListeners_
  · simp only [if_pos h, List.mem_toFinset, Option.map_some']
    congr 2
    ext x
    simp [hm.mem_erase_iff]
  · simp [h]

theorem registry_attachPeriodicTimerListener (initialDelayMilliseconds periodMilliseconds : Int)
    (listener : Nat) :
    (m.attachPeriodicTimerListener initialDelayMilliseconds periodMilliseconds listener).registry =
      m.registry.attachTimer listener := by
  simp only [registry, attachPeriodicTimerListener, Registry.attachTimer, List.map_append,
    List.map_singleton]
  rw [Multiset.coe_eq_coe.mpr (List.perm_append_singleton _ _), Multiset.cons_coe]

/-- Erasing the listener's first registration takes one of its registrations
away. -/
theorem registry_detachPeriodicTimerListener (listener : Nat) :
    (m.detachPeriodicTimerListener listener).map registry = m.registry.detachTimer listener := by
  unfold detachPeriodicTimerListener Registry.detachTimer registry
  cases h : m.timerListeners_.findIdx? (·.listener == listener) with
  | none =>
    have : listener ∉ m.timerListeners_.map (·.listener) := by
      simpa using List.findIdx?_eq_none_iff.mp h
    simp [this]
  | some i =>
    obtain ⟨hi, hl, -⟩ := List.findIdx?_eq_some_iff_getElem.mp h
    have hl : m.timerListeners_[i].listener = listener := by simpa using hl
    have hmem : listener ∈ m.timerListeners_.map (·.listener) :=
      hl ▸ List.mem_map_of_mem _ (List.getElem_mem hi)
    simp only [Multiset.mem_coe, hmem, if_true, Option.map_some']
    congr 2
    calc ((m.timerListeners_.eraseIdx i).map (·.listener) : Multiset Nat)
        = Multiset.map (·.listener) ((m.timerListeners_ : Multiset AttachedTimerListener).erase
            m.timerListeners_[i]) := by
          rw [Multiset.coe_erase, Multiset.coe_eq_coe.mpr (List.erase_getElem hi), Multiset.map_coe]
      _ = (Multiset.map AttachedTimerListener.listener
            (m.timerListeners_ : Multiset AttachedTimerListener)).erase listener := by
          rw [Multiset.map_erase_of_mem _ _ (Multiset.mem_coe.mpr (List.getElem_mem hi)), hl]

end SocketReceiveMultiplexerImplementation

/-! ## Runs of calls -/

/-- A call that changes the registrations. -/
inductive RegistrationOp where
  | attachSocketListener (socket : Int) (listener : Nat)
  | detachSocketListener (socket : Int) (listener : Nat)
  | attachPeriodicTimerListener (initialDelayMilliseconds periodMilliseconds : Int) (listener : Nat)
  | detachPeriodicTimerListener (listener : Nat)
  deriving DecidableEq, Repr

namespace RegistrationOp

open SocketReceiveMultiplexerImplementation

/-- The call on the multiplexer; `none` where its `assert` fails. -/
def apply (m : SocketReceiveMultiplexerImplementation) :
    RegistrationOp → Option SocketReceiveMultiplexerImplementation
  | attachSocketListener socket listener => m.attachSocketListener socket listener
  | detachSocketListener socket listener => m.detachSocketListener socket listener
  | attachPeriodicTimerListener initialDelayMilliseconds periodMilliseconds listener =>
    some (m.attachPeriodicTimerListener initialDelayMilliseconds periodMilliseconds listener)
  | detachPeriodicTimerListener listener => m.detachPeriodicTimerListener listener

/-- The calls one after the other, up to the first whose `assert` fails. -/
def run (m : SocketReceiveMultiplexerImplementation) :
    List RegistrationOp → Option SocketReceiveMultiplexerImplementation
  | [] => some m
  | op :: ops => (op.apply m).bind (run · ops)

/-- The call on the abstract registry. -/
def spec (r : Registry) : RegistrationOp → Option Registry
  | attachSocketListener socket listener => r.attachSocket (listener, socket)
  | detachSocketListener socket listener => r.detachSocket (listener, socket)
  | attachPeriodicTimerListener _ _ listener => some (r.attachTimer listener)
  | detachPeriodicTimerListener listener => r.detachTimer listener

/-- The calls one after the other on the abstract registry. -/
def specRun (r : Registry) : List RegistrationOp → Option Registry
  | [] => some r
  | op :: ops => (op.spec r).bind (specRun · ops)

/-- One call keeps the pairs distinct. -/
theorem nodup_apply {m m' : SocketReceiveMultiplexerImplementation} (hm : m.socketListeners_.Nodup)
    {op : RegistrationOp} (h : op.apply m = some m') : m'.socketListeners_.Nodup := by
  cases op with
  | attachSocketListener => exact nodup_attachSocketListener m hm h
  | detachSocketListener => exact (nodup_detachSocketListener m hm h).1
  | attachPeriodicTimerListener => cases h; exact hm
  | detachPeriodicTimerListener listener =>
    simp only [apply, SocketReceiveMultiplexerImplementation.detachPeriodicTimerListener] at h
    split at h <;> cases h
    exact hm

/-- A run of calls keeps the pairs distinct. -/
theorem nodup_run : ∀ {m m' : SocketReceiveMultiplexerImplementation} {ops : List RegistrationOp},
    m.socketListeners_.Nodup → run m ops = some m' → m'.socketListeners_.Nodup
  | _, _, [], hm, h => Option.some.inj h ▸ hm
  | _, _, _ :: _, hm, h => by
    obtain ⟨m₁, h₁, h₂⟩ := Option.bind_eq_some.mp h
    exact nodup_run (nodup_apply hm h₁) h₂

/-- One call refines its abstract operation. -/
theorem apply_refines {m : SocketReceiveMultiplexerImplementation} (hm : m.socketListeners_.Nodup)
    (op : RegistrationOp) : (op.apply m).map registry = op.spec m.registry := by
  cases op with
  | attachSocketListener socket listener => exact registry_attachSocketListener socket listener
  | detachSocketListener socket listener => exact registry_detachSocketListener hm socket listener
  | attachPeriodicTimerListener => exact congrArg some (registry_attachPeriodicTimerListener _ _ _)
  | detachPeriodicTimerListener listener => exact registry_detachPeriodicTimerListener listener

/-- **The registration vectors refine the abstract registry.** From every
multiplexer whose pairs are distinct, every sequence of `AttachSocketListener`,
`DetachSocketListener`, `AttachPeriodicTimerListener` and
`DetachPeriodicTimerListener` calls fails exactly when the same calls fail on
the registry, and otherwise ends where the registry ends: the attached pairs
are the registry's set, each once, and each timer listener has as many
registrations as the registry counts. -/
theorem run_refines_registry (m : SocketReceiveMultiplexerImplementation)
    (hm : m.socketListeners_.Nodup) (ops : List RegistrationOp) :
    (run m ops).map registry = specRun m.registry ops ∧
      ∀ m', run m ops = some m' → m'.socketListeners_.Nodup := by
  refine ⟨?_, fun _ => nodup_run hm⟩
  induction ops generalizing m with
  | nil => rfl
  | cons op ops ih =>
    simp only [run, specRun, ← apply_refines hm op]
    cases h : op.apply m with
    | none => rfl
    | some m₁ => exact ih m₁ (nodup_apply hm h)

end RegistrationOp

/-- From the constructor's empty vectors: a pair attached, a timer listener
attached twice and detached twice, and a third detach that fails, in both
models. -/
theorem run_refines_registry_from_empty :
    let m : SocketReceiveMultiplexerImplementation := ⟨[], [], false, (3, 4)⟩
    let ops : List RegistrationOp := [.attachSocketListener 5 7, .attachPeriodicTimerListener 0 10 9,
      .attachPeriodicTimerListener 5 20 9, .detachPeriodicTimerListener 9,
      .detachPeriodicTimerListener 9, .detachPeriodicTimerListener 9]
    (m.socketListeners_.Nodup ∧ RegistrationOp.run m ops = none) ∧
      ((RegistrationOp.run m ops).map SocketReceiveMultiplexerImplementation.registry =
        RegistrationOp.specRun m.registry ops ∧
      ∀ m', RegistrationOp.run m ops = some m' → m'.socketListeners_.Nodup) := by
  intro m ops
  have hm : m.socketListeners_.Nodup := List.nodup_nil
  exact ⟨⟨hm, by decide⟩, RegistrationOp.run_refines_registry m hm ops⟩

end Oscpack

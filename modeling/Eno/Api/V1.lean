import Mathlib.Data.List.Basic

/-!
# The `apiv1` objects read by the controllers

The custom resources of `github.com/Azure/eno/api/v1`, reduced to the fields that the
synthesis concurrency limiter, the resource reconciler and the watchdog read or write. The
package itself is not part of the modelled sources; its fields are taken from their uses in
`internal/controllers/flowcontrol/synthesis.go`, `internal/controllers/reconciliation` and
`internal/controllers/watchdog/controller.go`, and from the data model of the specification.

Times are `metav1.Time` values, counted here in nanoseconds from Go's zero time, so that the
zero value `metav1.Time{}` is `0`.

## Main definitions

* `Api.Synthesis`, `Api.CompositionStatus`, `Api.Composition`: a composition and its two
  synthesis slots.
* `Api.Synthesis.IsPending`, `Api.Synthesis.IsActive`: the classification of a current slot
  that the limiter counts, with decision procedures.
* `Api.ResourceState`: the per-resource status held in a resource slice, and its zero value
  `Api.ResourceState.zero`.
* `Api.Result`: the `ctrl.Result` a `Reconcile` returns.
-/

namespace Eno.Api

/-- A `metav1.Time`, in nanoseconds from Go's zero time. -/
abbrev Time := Nat

/-- One second, the unit of `time.Second`, in nanoseconds. -/
def second : Int := 1000000000

/-- `types.NamespacedName`: the key of an object in the API server (`ns` is its namespace). -/
structure NamespacedName where
  ns : String
  name : String
  deriving DecidableEq, Repr

/-- One synthesis slot (`apiv1.Synthesis`). `failed` is what `Synthesis.Failed()` returns; the
method is not in the modelled sources and the specification describes it as the slot's
`Failed` flag. -/
structure Synthesis where
  uuid : String := ""
  initialized : Option Time := none
  synthesized : Option Time := none
  reconciled : Option Time := none
  ready : Option Time := none
  failed : Bool := false
  deriving DecidableEq, Repr

/-- `apiv1.CompositionStatus`: the current and the previous synthesis slot. -/
structure CompositionStatus where
  currentSynthesis : Option Synthesis := none
  previousSynthesis : Option Synthesis := none
  deriving DecidableEq, Repr

/-- `apiv1.Composition`, with the annotations the reconciler reads and the synthesizer name
and creation time the watchdog reads. -/
structure Composition where
  key : NamespacedName
  annotations : List (String × String) := []
  creationTimestamp : Time := 0
  synthesizerName : String := ""
  status : CompositionStatus := {}
  deriving DecidableEq, Repr

namespace Synthesis

/-- A current slot waiting for the limiter: not synthesized and without a UUID. -/
def IsPending (s : Synthesis) : Prop := s.synthesized = none ∧ s.uuid = ""

/-- A current slot the limiter counts as running: not synthesized, with a UUID. -/
def IsActive (s : Synthesis) : Prop := s.synthesized = none ∧ s.uuid ≠ ""

instance (s : Synthesis) : Decidable s.IsPending := inferInstanceAs (Decidable (_ ∧ _))

instance (s : Synthesis) : Decidable s.IsActive := inferInstanceAs (Decidable (_ ∧ _))

end Synthesis

namespace Composition

/-- The composition's current slot is pending. -/
def IsPending (c : Composition) : Prop := ∃ s, c.status.currentSynthesis = some s ∧ s.IsPending

/-- The composition's current slot is active. -/
def IsActive (c : Composition) : Prop := ∃ s, c.status.currentSynthesis = some s ∧ s.IsActive

instance (c : Composition) : Decidable c.IsPending :=
  match h : c.status.currentSynthesis with
  | none => isFalse fun ⟨_, hs, _⟩ => by simp [h] at hs
  | some s => decidable_of_iff s.IsPending (by simp [IsPending, h])

instance (c : Composition) : Decidable c.IsActive :=
  match h : c.status.currentSynthesis with
  | none => isFalse fun ⟨_, hs, _⟩ => by simp [h] at hs
  | some s => decidable_of_iff s.IsActive (by simp [IsActive, h])

theorem isPending_iff {c : Composition} {s : Synthesis} (h : c.status.currentSynthesis = some s) :
    c.IsPending ↔ s.IsPending := by
  simp [IsPending, h]

theorem isActive_iff {c : Composition} {s : Synthesis} (h : c.status.currentSynthesis = some s) :
    c.IsActive ↔ s.IsActive := by
  simp [IsActive, h]

theorem not_isPending_of_none {c : Composition} (h : c.status.currentSynthesis = none) :
    ¬c.IsPending := by
  simp [IsPending, h]

theorem not_isActive_of_none {c : Composition} (h : c.status.currentSynthesis = none) :
    ¬c.IsActive := by
  simp [IsActive, h]

/-- The number of compositions of a list whose current slot is active. -/
def activeCount (l : List Composition) : Nat := l.countP (fun c => decide c.IsActive)

end Composition

/-- The per-resource status of a resource slice (`apiv1.ResourceState`). -/
structure ResourceState where
  reconciled : Bool
  ready : Option Time
  deleted : Bool
  deriving DecidableEq, Repr

/-- The zero `ResourceState`, which the dense list of a slice's status shows at every index no
write has reached. -/
def ResourceState.zero : ResourceState := { reconciled := false, ready := none, deleted := false }

theorem ResourceState.ne_zero_of_ready {s : ResourceState} (h : s.ready.isSome) : s ≠ .zero := by
  rintro rfl
  cases h

theorem ResourceState.ne_zero_of_reconciled {s : ResourceState} (h : s.reconciled) :
    s ≠ .zero := by
  rintro rfl
  cases h

/-- `ctrl.Result`: whether and when the work item is queued again. -/
structure Result where
  requeue : Bool := false
  requeueAfter : Int := 0
  deriving DecidableEq, Repr

end Eno.Api

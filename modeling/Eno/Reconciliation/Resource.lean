import Eno.Api.V1
import Eno.Reconciliation.Patch
import Mathlib.Data.List.Infix

/-!
# What the resource reconciler reads and writes

The objects `Controller.Reconcile` works on: the desired resources of a synthesis as the
reconstitution cache serves them, the downstream objects, the resource slices that hold each
resource's `ResourceState`, and the downstream writes it issues. `Controller` collects what one
call of `Reconcile` reads: every client is a function from a key to what that read returns, so
that a call is a pure function of the controller (`Eno.Reconciliation.Controller`).

The packages `reconstitution`, `flowcontrol`, `discovery`, `jsonmergepatch` and `strategicpatch`
are not part of the modelled sources. What `Reconcile` calls in them is either a parameter
(`Libraries`, the readiness checks, the three-way patches, `Parse` and `Finalize`) or, where the
specification says what it does, a definition marked as modelled from the specification.

`patchResourceState` is the status patch function that `Reconcile` hands to the write buffer:
it leaves a state alone when it already holds the same `Deleted` flag and the same ready time
and is reconciled, and otherwise replaces it (`patchResourceState_eq_none_iff`,
`patchResourceState_eq_some`).

## Main definitions

* `Reconciliation.Resource`, `Reconciliation.Object`, `Reconciliation.ResourceSlice`.
* `Reconciliation.Write`: a downstream create, delete or patch.
* `Reconciliation.Libraries`, `Reconciliation.ResourceClient`, `Reconciliation.Controller`.
* `Reconciliation.patchResourceState`.

## References

* `src/internal/controllers/reconciliation/ordering_test.go`, lines 176–222 (`Controller`) and
  552–574 (`patchResourceState`, `isErrMissingNS`).
-/

namespace Eno.Reconciliation

open Api

/-- An error returned by a Kubernetes client: whether `errors.IsNotFound` holds of it, and its
message. -/
structure ApiError where
  notFound : Bool
  message : String
  deriving DecidableEq, Repr

/-- `isErrMissingNS`: the client-go error of a request without a namespace, recognised by its
text. -/
def isErrMissingNS (err : Option ApiError) : Bool :=
  match err with
  | none => false
  | some e => decide ("an empty namespace may not be set".toList <:+: e.message.toList)

/-- `schema.GroupVersionKind`. -/
structure GroupVersionKind where
  group : String
  version : String
  kind : String
  deriving DecidableEq, Repr

/-- `schema.GroupKind`. -/
structure GroupKind where
  group : String
  kind : String
  deriving DecidableEq, Repr

/-- `GroupVersionKind.GroupKind()`. -/
def GroupVersionKind.groupKind (gvk : GroupVersionKind) : GroupKind := ⟨gvk.group, gvk.kind⟩

/-- The kind that `buildPatch` always patches with a JSON merge patch. -/
def pdbGVK : GroupVersionKind :=
  { group := "policy", version := "v1", kind := "PodDisruptionBudget" }

/-- `reconstitution.ResourceRef`: the identity of a downstream object. -/
structure ResourceRef where
  name : String
  ns : String
  group : String
  kind : String
  deriving DecidableEq, Repr

/-- `reconstitution.ManifestRef`: the resource slice that holds a resource, and its index in the
slice. -/
structure ManifestRef where
  slice : NamespacedName
  index : Nat
  deriving DecidableEq, Repr

/-- `reconstitution.SynthesisRef`: a composition and the UUID of one of its syntheses. -/
structure SynthesisRef where
  compositionName : String
  ns : String
  uuid : String
  deriving DecidableEq, Repr

/-- Modelled from the spec: `reconstitution.NewSynthesisRef(comp)` names the composition's
current synthesis. -/
def newSynthesisRef (comp : Composition) : SynthesisRef :=
  { compositionName := comp.key.name, ns := comp.key.ns,
    uuid := (comp.status.currentSynthesis.map (·.uuid)).getD "" }

/-- `reconstitution.Resource`, with the fields `Reconcile` reads. `readinessChecks` are the
check expressions; the manifest is what `Libraries.parse` and `Libraries.finalize` read. -/
structure Resource where
  ref : ResourceRef
  manifestRef : ManifestRef
  gvk : GroupVersionKind
  manifest : Json
  readinessGroup : Int
  readinessChecks : List String
  reconcileInterval : Option Int
  patch : Option Json
  disableUpdates : Bool
  deleted : Bool

/-- A downstream object as `Reconcile` reads it (`unstructured.Unstructured`). -/
structure Object where
  resourceVersion : String
  deletionTimestamp : Option Time
  body : Json

/-- `apiv1.ResourceSlice`, with the per-resource states of its status. -/
structure ResourceSlice where
  resources : List ResourceState

/-- Modelled from the spec: `Resource.FindStatus(slice)` is the state at the resource's index of
the slice's status, if the status has one there. -/
def Resource.findStatus (r : Resource) (slice : ResourceSlice) : Option ResourceState :=
  slice.resources[r.manifestRef.index]?

/-- The type of a raw patch. -/
inductive PatchType where
  | json
  | merge
  | strategicMerge
  deriving DecidableEq, Repr

/-- A write of `upstreamClient` to the downstream cluster. -/
inductive Write where
  | create (obj : Object)
  | delete (current : Object)
  | patch (current : Object) (patchType : PatchType) (body : Json)

/-- The write creates or patches an object (the writes ordered by readiness group). -/
def Write.createsOrPatches : Write → Bool
  | .create _ | .patch .. => true
  | .delete _ => false

/-- The write is a `Create`. -/
def Write.isCreate : Write → Bool
  | .create _ => true
  | _ => false

/-- `flowcontrol.StatusPatchFn`: from the state re-read by the write buffer (`none` for nil),
the replacement, or `none` for no change. -/
abbrev StatusPatchFn := Option ResourceState → Option ResourceState

/-- `patchResourceState(deleted, ready)`. A nil time compares as the zero time. -/
def patchResourceState (deleted : Bool) (ready : Option Time) : StatusPatchFn := fun rs =>
  match rs with
  | some rs =>
    if rs.deleted = deleted ∧ rs.reconciled ∧ rs.ready.getD 0 = ready.getD 0 then none
    else some { deleted, ready, reconciled := true }
  | none => some { deleted, ready, reconciled := true }

/-- The patch keeps a state only when it is reconciled with the same flag and ready time. -/
theorem patchResourceState_eq_none_iff (deleted : Bool) (ready : Option Time)
    (rs : Option ResourceState) :
    patchResourceState deleted ready rs = none ↔
      ∃ s, rs = some s ∧ s.deleted = deleted ∧ s.reconciled ∧ s.ready.getD 0 = ready.getD 0 := by
  cases rs with
  | none => simp [patchResourceState]
  | some s => by_cases h : s.deleted = deleted ∧ s.reconciled ∧ s.ready.getD 0 = ready.getD 0 <;>
      simp [patchResourceState, h]

/-- Whatever the patch writes is reconciled, with the flag and ready time it was built with. -/
theorem patchResourceState_eq_some {deleted : Bool} {ready : Option Time}
    {rs : Option ResourceState} {s : ResourceState}
    (h : patchResourceState deleted ready rs = some s) :
    s = { deleted, ready, reconciled := true } := by
  cases rs with
  | none => exact (Option.some.inj h).symm
  | some r =>
    simp only [patchResourceState] at h
    split_ifs at h
    exact (Option.some.inj h).symm

/-- The code outside the package that `Reconcile` calls, as parameters. -/
structure Libraries where
  /-- `ReadinessChecks.EvalOptionally`: the ready time, if the checks pass on the current object
  at the given time. -/
  evalOptionally : List String → Time → Option Object → Option Time
  /-- `Resource.Parse`. -/
  parse : Resource → Except String Object
  /-- `Resource.NeedsToBePatched`. -/
  needsToBePatched : Resource → Object → Bool
  /-- `Resource.Finalize`, of the previous resource (possibly nil) or of the next one. -/
  finalize : Option Resource → Except String Json
  /-- `Unstructured.MarshalJSON`. -/
  marshalJSON : Object → Except String Json
  /-- `jsonmergepatch.CreateThreeWayJSONMergePatch(prev, next, current)`. -/
  threeWayJSONMergePatch : Json → Json → Json → Except String Json
  /-- `strategicpatch.CreateThreeWayMergePatch(prev, next, current, meta, true)`, with the
  patch metadata of an OpenAPI model. -/
  threeWayMergePatch : Json → Json → Json → Json → Except String Json
  /-- `wait.Jitter(d, 0.1)`. -/
  jitter : Int → Int

/-- `reconstitution.Client`, and the last resource version each cached resource has seen
downstream (by its manifest reference; `""` when it has seen none). -/
structure ResourceClient where
  get : SynthesisRef → ResourceRef → Option Resource
  getDefiningCRD : SynthesisRef → GroupKind → Option Resource
  /-- `RangeByReadinessGroup(ref, group, RangeDesc)`. -/
  rangeByReadinessGroup : SynthesisRef → Int → List Resource
  lastSeen : ManifestRef → String

/-- Modelled from the spec: `Resource.HasBeenSeen()`. -/
def ResourceClient.hasBeenSeen (rc : ResourceClient) (r : Resource) : Bool :=
  rc.lastSeen r.manifestRef ≠ ""

/-- Modelled from the spec: `Resource.MatchesLastSeen(rv)`. -/
def ResourceClient.matchesLastSeen (rc : ResourceClient) (r : Resource) (rv : String) : Bool :=
  rc.lastSeen r.manifestRef = rv

/-- The controller as one call of `Reconcile` sees it: what each read returns, what each
downstream write returns, the clock and the libraries. -/
structure Controller where
  /-- `client.Get` of a composition. -/
  getComposition : NamespacedName → Except ApiError Composition
  /-- `client.Get` of a resource slice. -/
  getSlice : NamespacedName → Except ApiError ResourceSlice
  resourceClient : ResourceClient
  /-- `upstreamClient.Get` of the downstream object of a reference. -/
  getDownstream : ResourceRef → Except ApiError Object
  /-- What `upstreamClient` returns for a write. -/
  applyWrite : Write → Except ApiError Unit
  /-- `discovery.Get`: the OpenAPI model of a kind, `none` for an unknown kind. -/
  discovery : GroupVersionKind → Except String (Option Json)
  readinessPollInterval : Int
  now : Time
  libs : Libraries

/-- `reconstitution.Request`: a resource of a composition. -/
structure Request where
  resource : ResourceRef
  composition : NamespacedName
  deriving DecidableEq, Repr

/-- What one call of `Reconcile` does: its result, the downstream write it issues, the status
patch it hands to the write buffer, and the last `ObserveVersion` it makes. -/
structure Outcome where
  result : Except String Result
  write : Option Write := none
  status : Option (ManifestRef × StatusPatchFn) := none
  observed : Option (ManifestRef × String) := none

/-! ### A ConfigMap of a synthesis -/

/-- A ConfigMap of a synthesis, the first resource of its slice, with no readiness checks. -/
def configMap : Resource :=
  { ref := { name := "test-obj-0", ns := "default", group := "", kind := "ConfigMap" },
    manifestRef := { slice := { ns := "default", name := "test-slice" }, index := 0 },
    gvk := { group := "", version := "v1", kind := "ConfigMap" },
    manifest := .obj [("data", .obj [("image", .str "create")])],
    readinessGroup := 0, readinessChecks := [], reconcileInterval := none, patch := none,
    disableUpdates := false, deleted := false }

/-- A composition whose current synthesis has been dispatched. -/
def testComposition : Composition :=
  { key := { ns := "default", name := "test-comp" },
    status := { currentSynthesis := some { uuid := "test-syn" } } }

/-- Libraries under which a resource with no checks is ready at once, and the three-way merge
patch of a ConfigMap that matches its desired state is empty. -/
def testLibraries : Libraries :=
  { evalOptionally := fun _ now _ => some now,
    parse := fun r => .ok { resourceVersion := "", deletionTimestamp := none, body := r.manifest },
    needsToBePatched := fun _ _ => false,
    finalize := fun _ => .ok .null,
    marshalJSON := fun obj => .ok obj.body,
    threeWayJSONMergePatch := fun _ _ _ => .ok (.obj []),
    threeWayMergePatch := fun _ _ _ _ => .ok (.obj []),
    jitter := id }

/-- A controller at time `now` whose cache serves `resource` for every request, returns `range`
for the dependencies of a readiness group and has seen the resource at `lastSeen`; whose
downstream read returns `downstream`; and whose slices hold `states`. -/
def testController (now : Time) (resource : Resource) (range : Int → List Resource)
    (lastSeen : String) (downstream : Except ApiError Object)
    (states : NamespacedName → List ResourceState) : Controller :=
  { getComposition := fun _ => .ok testComposition,
    getSlice := fun n => .ok { resources := states n },
    resourceClient :=
      { get := fun _ _ => some resource, getDefiningCRD := fun _ _ => none,
        rangeByReadinessGroup := fun _ => range, lastSeen := fun _ => lastSeen },
    getDownstream := fun _ => downstream,
    applyWrite := fun _ => .ok (),
    discovery := fun _ => .ok none,
    readinessPollInterval := 1,
    now,
    libs := testLibraries }

/-- The controller at time `1` for `configMap`, whose slice holds `states`. -/
def probe (lastSeen : String) (downstream : Except ApiError Object) (states : List ResourceState) :
    Controller :=
  testController 1 configMap (fun _ => []) lastSeen downstream fun _ => states

/-- The work item of `configMap`. -/
def probeRequest : Request := { resource := configMap.ref, composition := testComposition.key }

/-- The ConfigMap downstream at a resource version. -/
def configMapAt (rv : String) : Object :=
  { resourceVersion := rv, deletionTimestamp := none, body := configMap.manifest }

/-- The not-found error of a read of the ConfigMap. -/
def configMapNotFound : ApiError := { notFound := true, message := "configmaps test-obj-0 not found" }

end Eno.Reconciliation

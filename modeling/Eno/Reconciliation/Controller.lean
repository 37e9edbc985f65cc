import Eno.Reconciliation.Resource

/-!
# One call of `Controller.Reconcile`

`reconcile` is `Controller.Reconcile` on one request, as a function of what the call reads
(`Controller`). The source is cut where it returns: `prepare` is everything up to the
dependency gate, and every return it makes is a bare `ctrl.Result` or error, with no write,
status patch or version observed; `finish` is the rest, from the call of `reconcileResource`
to the status write and the requeue. The helpers `getCurrent`, `buildPatch`, `reconcileResource`
and `checkDependencies` follow the source functions of the same names.

The statements about a call are stated through two inversion lemmas: a call with any effect
went through `prepare` (`reconcile_eq_finish`), and what `prepare` read and checked on its way
(`prepare_eq_ok`). From them: a call writes a `Create` or a `Patch` only for a resource that is
not marked deleted, and only once the resource's state in its slice is reconciled or every
dependency of its readiness group shows a ready time (`reconcile_gate`); a call writes
downstream only when `getCurrent` reported a change (`reconcile_write_hasChanged`); and a call
on a resource whose kind a CRD of the synthesis defines has an effect only once that CRD has
been ready for a second (`reconcile_after_crd_ready`). Of the three writes, a call deletes only
an object it read, of a resource marked deleted, not being deleted already and not orphaned by
its composition; creates only when it read no object, for a resource that is not a patch; and
patches only an object it read, of a resource whose updates are enabled
(`reconcile_write_cases`). A resource that is a patch sends its own JSON patch, and only when
`NeedsToBePatched` holds; any other resource is sent a strategic merge patch, except for kinds
without an OpenAPI model and `PodDisruptionBudget`, which get a JSON merge patch
(`reconcile_patch_cases`).

## Main definitions

* `Reconciliation.getCurrent`, `Reconciliation.buildPatch`, `Reconciliation.reconcileResource`.
* `Reconciliation.prepare`, `Reconciliation.finish`, `Reconciliation.reconcile`.

## Main results

* `Reconciliation.reconcile_eq_finish`, `Reconciliation.prepare_eq_ok`.
* `Reconciliation.reconcile_gate`, `Reconciliation.reconcile_write_hasChanged`,
  `Reconciliation.reconcile_after_crd_ready`, `Reconciliation.reconcile_write_cases`,
  `Reconciliation.reconcile_patch_cases`.
* `Reconciliation.reconcileResource_mergePatch`: the patch sent is the one `mungePatch` returns.

## References

* `src/internal/controllers/reconciliation/ordering_test.go`, lines 224–527.
-/

namespace Eno.Reconciliation

open Api

/-! ### Reading the downstream object -/

/-- `getCurrent`: the current object, whether it changed since it was last seen, and the error
of the read. A resource seen before and not marked deleted is first read as metadata; when its
version is the one last seen, the call reports no object and no change. -/
def getCurrent (c : Controller) (resource : Resource) : Option Object × Bool × Option ApiError :=
  let full : Option Object × Bool × Option ApiError :=
    match c.getDownstream resource.ref with
    | .error e => (none, true, some e)
    | .ok current => (some current, true, none)
  if c.resourceClient.hasBeenSeen resource && !resource.deleted then
    match c.getDownstream resource.ref with
    | .error e => (none, false, some e)
    | .ok meta => if c.resourceClient.matchesLastSeen resource meta.resourceVersion then
        (none, false, none) else full
  else full

/-! ### Building and sending the write -/

/-- `mergePatch`: `jsonmergepatch.CreateThreeWayJSONMergePatch` as `buildPatch` calls it. -/
def mergePatch (c : Controller) (prevJS nextJS currentJS : Json) :
    Except String (Option Json × PatchType) :=
  match c.libs.threeWayJSONMergePatch prevJS nextJS currentJS with
  | .error e => .error (terminalError e)
  | .ok patch => .ok (some patch, .merge)

/-- `buildPatch`: the patch and its type; `none` is the empty patch `[]byte{}`. -/
def buildPatch (c : Controller) (prev : Option Resource) (next : Resource) (current : Object) :
    Except String (Option Json × PatchType) :=
  match next.patch with
  | some patch => if c.libs.needsToBePatched next current then .ok (some patch, .json)
      else .ok (none, .json)
  | none =>
    match c.libs.finalize prev, c.libs.finalize (some next), c.libs.marshalJSON current with
    | .error e, _, _ =>
      .error (terminalError ("building json representation of previous state: " ++ e))
    | .ok _, .error e, _ =>
      .error (terminalError ("building json representation of next state: " ++ e))
    | .ok _, .ok _, .error e =>
      .error (terminalError ("building json representation of current state: " ++ e))
    | .ok prevJS, .ok nextJS, .ok currentJS =>
      match c.discovery next.gvk with
      | .error e => .error ("getting merge metadata: " ++ e)
      | .ok none => mergePatch c prevJS nextJS currentJS
      | .ok (some model) =>
        if next.gvk = pdbGVK then mergePatch c prevJS nextJS currentJS
        else match c.libs.threeWayMergePatch model prevJS nextJS currentJS with
          | .error e => .error (terminalError e)
          | .ok patch => .ok (some patch, .strategicMerge)

/-- The patch `reconcileResource` sends: a JSON patch as built, any other through `mungePatch`.
An empty merge patch would fail to decode; `buildPatch` never returns one. -/
def mungeUnlessJSONPatch (patch : Option Json) (patchType : PatchType) (rv : String) :
    Except String (Option Json) :=
  match patchType, patch with
  | .json, patch => .ok patch
  | _, some patch => (mungePatch patch rv).map (Option.map fun m => .obj m.entries)
  | _, none => .error (terminalError "unexpected end of JSON input")

/-- A downstream write and what `reconcileResource` returns for it: `true` on success. -/
def sendWrite (c : Controller) (w : Write) (wrap : String) : Option Write × Except String Bool :=
  (some w, match c.applyWrite w with
    | .ok () => .ok true
    | .error e => .error (wrap ++ e.message))

/-- The annotation that keeps deleted resources downstream. -/
def deletionStrategyAnnotation : String := "eno.azure.io/deletion-strategy"

/-- `reconcileResource`: the downstream write it issues, and whether it modified the object. -/
def reconcileResource (c : Controller) (comp : Composition) (prev : Option Resource)
    (resource : Resource) (current : Option Object) : Option Write × Except String Bool :=
  if resource.deleted then
    match current with
    | none => (none, .ok false)
    | some cur =>
      if cur.deletionTimestamp.isSome then (none, .ok false)
      else if comp.annotations.lookup deletionStrategyAnnotation = some "orphan" then
        (none, .ok false)
      else (some (.delete cur), match c.applyWrite (.delete cur) with
        | .ok () => .ok true
        | .error e => if e.notFound then .ok false else .error ("deleting resource: " ++ e.message))
  else match current with
  | none =>
    if resource.patch.isSome then (none, .ok false)
    else match c.libs.parse resource with
      | .error e => (none, .error ("invalid resource: " ++ e))
      | .ok obj => sendWrite c (.create obj) "creating resource: "
  | some cur =>
    if resource.disableUpdates then (none, .ok false)
    else match buildPatch c prev resource cur with
      | .error e => (none, .error ("building patch: " ++ e))
      | .ok (patch, patchType) =>
        match mungeUnlessJSONPatch patch patchType cur.resourceVersion with
        | .error e => (none, .error ("adding resource version: " ++ e))
        | .ok none => (none, .ok false)
        | .ok (some body) => sendWrite c (.patch cur patchType body) "applying patch: "

/-- `reconcileResource` creates or patches only a resource that is not marked deleted. -/
theorem not_deleted_of_reconcileResource {c : Controller} {comp : Composition}
    {prev : Option Resource} {resource : Resource} {current : Option Object} {w : Write}
    (h : (reconcileResource c comp prev resource current).1 = some w)
    (hw : w.createsOrPatches) : ¬resource.deleted := by
  intro hd
  simp only [reconcileResource, hd, if_true] at h
  split at h
  · cases h
  · split_ifs at h
    cases h
    exact absurd hw Bool.false_ne_true

/-- For a resource that is not marked deleted and whose updates are enabled, the write
`reconcileResource` issues for a merge or strategic-merge patch is the patch as `mungePatch`
returns it, against the version of the current object, and no write when `mungePatch` drops the
patch or fails. -/
theorem reconcileResource_mergePatch {c : Controller} {comp : Composition}
    {prev : Option Resource} {resource : Resource} {cur : Object} {patch : Json}
    {patchType : PatchType} (hdel : ¬resource.deleted) (hupd : ¬resource.disableUpdates)
    (hb : buildPatch c prev resource cur = .ok (some patch, patchType)) (ht : patchType ≠ .json) :
    (reconcileResource c comp prev resource (some cur)).1 =
      ((mungePatch patch cur.resourceVersion).toOption.join).map
        fun m => .patch cur patchType (.obj m.entries) := by
  have hm : mungeUnlessJSONPatch (some patch) patchType cur.resourceVersion =
      (mungePatch patch cur.resourceVersion).map (Option.map fun m => .obj m.entries) := by
    cases patchType
    · exact absurd rfl ht
    · rfl
    · rfl
  simp only [reconcileResource, hdel, hupd, hb, hm, Bool.false_eq_true, if_false]
  rcases mungePatch patch cur.resourceVersion with e | _ | m <;> rfl

/-- The three writes of `reconcileResource`, and when each is issued: a `Delete` of the current
object of a resource marked deleted, when that object is not being deleted already and the
composition does not orphan its resources; a `Create` of the parsed manifest of a resource that
is neither marked deleted nor a patch, when there is no current object; and a `Patch` of the
current object of a resource not marked deleted whose updates are enabled. A write that
succeeds is reported as a modification. -/
theorem reconcileResource_write_cases {c : Controller} {comp : Composition}
    {prev : Option Resource} {resource : Resource} {current : Option Object} {w : Write}
    (h : (reconcileResource c comp prev resource current).1 = some w) :
    ((∃ cur, w = .delete cur ∧ resource.deleted ∧ current = some cur ∧
      cur.deletionTimestamp = none ∧
      comp.annotations.lookup deletionStrategyAnnotation ≠ some "orphan") ∨
    (∃ obj, w = .create obj ∧ ¬resource.deleted ∧ current = none ∧ resource.patch = none ∧
      c.libs.parse resource = .ok obj) ∨
    (∃ cur patchType body, w = .patch cur patchType body ∧ ¬resource.deleted ∧
      current = some cur ∧ ¬resource.disableUpdates)) ∧
    (c.applyWrite w = .ok () → (reconcileResource c comp prev resource current).2 = .ok true) := by
  unfold reconcileResource at h ⊢
  split at h
  · rename_i hd
    rcases current with _ | cur
    · cases h
    · simp only at h
      split at h
      · cases h
      · rename_i hts
        split at h
        · cases h
        · rename_i horph
          cases h
          exact ⟨.inl ⟨cur, rfl, hd, rfl, Option.not_isSome_iff_eq_none.mp hts, horph⟩,
            fun hok => by simp [hd, hts, horph, hok]⟩
  · rename_i hd
    rcases current with _ | cur
    · simp only at h
      split at h
      · cases h
      · rename_i hpatch
        split at h
        · cases h
        · rename_i obj hparse
          cases h
          exact ⟨.inr (.inl ⟨obj, rfl, hd, rfl, Option.not_isSome_iff_eq_none.mp hpatch, hparse⟩),
            fun hok => by simp [hd, hpatch, hparse, sendWrite, hok]⟩
    · simp only at h
      split at h
      · cases h
      · rename_i hupd
        split at h
        · cases h
        · rename_i patch patchType hb
          split at h
          · cases h
          · cases h
          · rename_i body hm
            cases h
            exact ⟨.inr (.inr ⟨cur, _, _, rfl, hd, rfl, hupd⟩),
              fun hok => by simp [hd, hupd, hb, hm, sendWrite, hok]⟩

/-- The patch types of `buildPatch`: a resource that is a patch sends its own JSON patch, and only
when `NeedsToBePatched` holds; any other resource gets a JSON merge patch when discovery knows
no OpenAPI model of its kind or the kind is `PodDisruptionBudget`, and a strategic merge patch
otherwise. -/
theorem buildPatch_eq_ok_some {c : Controller} {prev : Option Resource} {next : Resource}
    {current : Object} {patch : Json} {patchType : PatchType}
    (h : buildPatch c prev next current = .ok (some patch, patchType)) :
    (next.patch = some patch ∧ patchType = .json ∧ c.libs.needsToBePatched next current) ∨
    (next.patch = none ∧ patchType = .merge ∧
      (c.discovery next.gvk = .ok none ∨ next.gvk = pdbGVK)) ∨
    (next.patch = none ∧ patchType = .strategicMerge ∧
      (∃ model, c.discovery next.gvk = .ok (some model)) ∧ next.gvk ≠ pdbGVK) := by
  have hmerge : ∀ {prevJS nextJS currentJS}, mergePatch c prevJS nextJS currentJS =
      .ok (some patch, patchType) → patchType = .merge := by
    intro _ _ _ hm
    unfold mergePatch at hm
    split at hm <;> cases hm
    rfl
  unfold buildPatch at h
  split at h
  · rename_i p hp
    split_ifs at h with hn
    · cases h
      exact .inl ⟨hp, rfl, hn⟩
    · cases h
  · rename_i hp
    split at h <;> try cases h
    split at h
    · cases h
    · exact .inr (.inl ⟨hp, hmerge h, .inl ‹_›⟩)
    · split_ifs at h with hpdb
      · exact .inr (.inl ⟨hp, hmerge h, .inr hpdb⟩)
      · split at h
        · cases h
        · cases h
          exact .inr (.inr ⟨hp, rfl, ⟨_, ‹_›⟩, hpdb⟩)

/-- A `Patch` that `reconcileResource` sends carries a patch that `buildPatch` returned for the
current object, unchanged when it is a JSON patch. -/
theorem reconcileResource_patch {c : Controller} {comp : Composition} {prev : Option Resource}
    {resource : Resource} {current : Option Object} {cur : Object} {patchType : PatchType}
    {body : Json} (h : (reconcileResource c comp prev resource current).1 =
      some (.patch cur patchType body)) :
    ∃ patch, buildPatch c prev resource cur = .ok (some patch, patchType) ∧
      (patchType = .json → body = patch) := by
  rcases (reconcileResource_write_cases h).1 with ⟨_, hw, -⟩ | ⟨_, hw, -⟩ |
    ⟨cur', _, _, hw, hd, rfl, hupd⟩ <;> try cases hw
  simp only [reconcileResource, hd, hupd, Bool.false_eq_true, if_false] at h
  split at h
  · cases h
  · rename_i patch patchType' hb
    split at h
    · cases h
    · cases h
    · rename_i body' hm
      cases h
      cases patch with
      | none =>
        cases patchType <;> cases hm
      | some patch =>
        refine ⟨patch, hb, fun hj => ?_⟩
        subst hj
        cases hm
        rfl

/-! ### The gates before the write -/

/-- The loop over the dependencies: `.ok true` when every one shows a ready time, `.ok false`
at the first that does not. -/
def checkDependencies (c : Controller) : List Resource → Except String Bool
  | [] => .ok true
  | dep :: deps =>
    match c.getSlice dep.manifestRef.slice with
    | .error e => .error ("getting resource slice: " ++ e.message)
    | .ok slice =>
      match dep.findStatus slice with
      | some { ready := some _, .. } => checkDependencies c deps
      | _ => .ok false

/-- Every dependency of a passed loop was read with a ready time. -/
theorem checkDependencies_eq_ok_true {c : Controller} {deps : List Resource}
    (h : checkDependencies c deps = .ok true) :
    ∀ dep ∈ deps, ∃ slice s, c.getSlice dep.manifestRef.slice = .ok slice ∧
      dep.findStatus slice = some s ∧ s.ready.isSome := by
  induction deps with
  | nil => simp
  | cons dep deps ih =>
    simp only [checkDependencies] at h
    split at h
    · cases h
    · rename_i slice hslice
      split at h
      · rename_i t hs
        intro d hd
        rcases List.mem_cons.mp hd with rfl | hd
        · exact ⟨slice, _, hslice, hs, rfl⟩
        · exact ih h d hd
      · cases h

/-- The loop reads nothing of the controller but the slices. -/
theorem checkDependencies_eq_of_getSlice {c c' : Controller} (h : c'.getSlice = c.getSlice) :
    checkDependencies c' = checkDependencies c := by
  funext deps
  induction deps with
  | nil => rfl
  | cons dep deps ih => simp only [checkDependencies, h, ih]

/-- The readiness `Reconcile` reports: the ready time of the resource's state if it has one,
else the result of its readiness checks on the current object. -/
def readiness (c : Controller) (resource : Resource) (status : Option ResourceState)
    (current : Option Object) : Option Time :=
  match status with
  | some { ready := some t, .. } => some t
  | _ => c.libs.evalOptionally resource.readinessChecks c.now current

/-- The dependency gate runs for a resource whose state is not reconciled and that is not
marked deleted. -/
def gated (resource : Resource) (status : Option ResourceState) : Bool :=
  !(status.any (·.reconciled)) && !resource.deleted

/-- What `Reconcile` holds when it passes the dependency gate. -/
structure Prepared where
  comp : Composition
  prev : Option Resource
  resource : Resource
  current : Option Object
  hasChanged : Bool
  ready : Option Time

/-- A return of `Reconcile` before the dependency gate is passed: a result or an error. -/
abbrev Early := Except String Result

/-- The composition, or the early return for an error reading it. -/
def loadComposition (c : Controller) (req : Request) : Except Early Composition :=
  match c.getComposition req.composition with
  | .ok comp => .ok comp
  | .error e => .error (if e.notFound then .ok {} else .error ("getting composition: " ++ e.message))

/-- The desired resource of the current synthesis, or the early return when there is none. -/
def loadResource (c : Controller) (comp : Composition) (req : Request) : Except Early Resource :=
  match comp.status.currentSynthesis with
  | none => .error (.ok {})
  | some syn =>
    if syn.failed then .error (.ok {})
    else match c.resourceClient.get (newSynthesisRef comp) req.resource with
      | none => .error (.ok {})
      | some resource => .ok resource

/-- The desired resource of the previous synthesis, if there is one. -/
def previousResource (c : Controller) (comp : Composition) (req : Request) : Option Resource :=
  comp.status.previousSynthesis.bind fun p =>
    c.resourceClient.get { newSynthesisRef comp with uuid := p.uuid } req.resource

/-- The CRD gate: a resource whose kind is defined by a CRD of the synthesis waits until the
CRD has been ready for a second. -/
def crdGate (c : Controller) (synRef : SynthesisRef) (resource : Resource) : Except Early Unit :=
  match c.resourceClient.getDefiningCRD synRef resource.gvk.groupKind with
  | none => .ok ()
  | some crd =>
    match c.getSlice crd.manifestRef.slice with
    | .error e => .error (.error ("getting resource slice: " ++ e.message))
    | .ok slice =>
      match crd.findStatus slice with
      | some { ready := some t, .. } =>
        let delta := second - ((c.now : Int) - t)
        if 0 < delta then .error (.ok { requeueAfter := delta }) else .ok ()
      | _ => .error (.ok {})

/-- `getCurrent` with the error filter of `Reconcile`: a not-found error, or one of a missing
namespace, is not an error. -/
def loadCurrent (c : Controller) (resource : Resource) : Except Early (Option Object × Bool) :=
  match getCurrent c resource with
  | (current, hasChanged, none) => .ok (current, hasChanged)
  | (current, hasChanged, some e) =>
    if !e.notFound && !isErrMissingNS (some e) then
      .error (.error ("getting current state: " ++ e.message))
    else .ok (current, hasChanged)

/-- The resource's slice, or the early return for an error reading it. -/
def loadSlice (c : Controller) (resource : Resource) : Except Early ResourceSlice :=
  match c.getSlice resource.manifestRef.slice with
  | .error e => .error (.error ("getting resource slice: " ++ e.message))
  | .ok slice => .ok slice

/-- The dependency gate: the resources of the previous readiness group must show a ready
time. -/
def dependencyGate (c : Controller) (synRef : SynthesisRef) (resource : Resource)
    (status : Option ResourceState) : Except Early Unit :=
  if gated resource status then
    match checkDependencies c (c.resourceClient.rangeByReadinessGroup synRef resource.readinessGroup) with
    | .error e => .error (.error e)
    | .ok true => .ok ()
    | .ok false => .error (.ok {})
  else .ok ()

/-- `Reconcile` up to the dependency gate, in the source's order. -/
def prepare (c : Controller) (req : Request) : Except Early Prepared := do
  let comp ← loadComposition c req
  let resource ← loadResource c comp req
  crdGate c (newSynthesisRef comp) resource
  let (current, hasChanged) ← loadCurrent c resource
  let slice ← loadSlice c resource
  let status := resource.findStatus slice
  dependencyGate c (newSynthesisRef comp) resource status
  pure { comp, prev := previousResource c comp req, resource, current, hasChanged,
         ready := readiness c resource status current }

/-! ### After the gates -/

/-- The requeue of a call that wrote its status. -/
def requeueResult (c : Controller) (resource : Resource) (ready : Option Time) : Result :=
  match ready, resource.reconcileInterval with
  | none, _ => { requeueAfter := c.libs.jitter c.readinessPollInterval }
  | some _, some d => if resource.deleted then {} else { requeueAfter := c.libs.jitter d }
  | some _, none => {}

/-- The version `ObserveVersion` records after a call that did not modify the object. -/
def observedVersion (current : Option Object) : Option String :=
  current.bind fun cur => if cur.resourceVersion = "" then none else some cur.resourceVersion

/-- `reconcileResource`, called only when `getCurrent` reported a change. -/
def reconcileIfChanged (c : Controller) (p : Prepared) : Option Write × Except String Bool :=
  if p.hasChanged then reconcileResource c p.comp p.prev p.resource p.current
  else (none, .ok false)

/-- The `Deleted` flag of the status write: no current object, or one being deleted. -/
def reportedDeleted (current : Option Object) : Bool :=
  current.isNone || (current.bind (·.deletionTimestamp)).isSome

/-- `Reconcile` after the gates: the write, the invalidated or observed version, the status patch
and the requeue. -/
def finish (c : Controller) (p : Prepared) : Outcome :=
  let ref := p.resource.manifestRef
  let invalidated := if p.hasChanged then some (ref, "") else none
  match (reconcileIfChanged c p).2 with
  | .error e => { result := .error e, write := (reconcileIfChanged c p).1, observed := invalidated }
  | .ok true =>
    { result := .ok { requeue := true }, write := (reconcileIfChanged c p).1,
      observed := invalidated }
  | .ok false =>
    { result := .ok (requeueResult c p.resource p.ready),
      write := (reconcileIfChanged c p).1,
      status := some (ref, patchResourceState (reportedDeleted p.current) p.ready),
      observed := ((observedVersion p.current).map (ref, ·)).or invalidated }

/-- `Controller.Reconcile`. -/
def reconcile (c : Controller) (req : Request) : Outcome :=
  match prepare c req with
  | .error result => { result }
  | .ok p => finish c p

/-! ### Inversion lemmas -/

theorem bind_eq_ok {ε α β : Type} {x : Except ε α} {f : α → Except ε β} {b : β} :
    x >>= f = .ok b ↔ ∃ a, x = .ok a ∧ f a = .ok b := by
  cases x <;> simp [bind, Except.bind]

/-- Two continuations that agree on every value the computation returns give the same bind. -/
theorem bind_congr_of_ok {ε α β : Type} {x : Except ε α} {f g : α → Except ε β}
    (h : ∀ a, x = .ok a → f a = g a) : x >>= f = x >>= g := by
  cases x with
  | error e => rfl
  | ok a => exact h a rfl

/-- A call that writes, hands over a status patch or observes a version went through the
gates. -/
theorem reconcile_eq_finish {c : Controller} {req : Request}
    (h : (reconcile c req).write.isSome ∨ (reconcile c req).status.isSome ∨
      (reconcile c req).observed.isSome) :
    ∃ p, prepare c req = .ok p ∧ reconcile c req = finish c p := by
  unfold reconcile at h ⊢
  split at h
  · simp at h
  · exact ⟨_, ‹_›, rfl⟩

theorem loadComposition_eq_ok {c : Controller} {req : Request} {comp : Composition}
    (h : loadComposition c req = .ok comp) : c.getComposition req.composition = .ok comp := by
  unfold loadComposition at h
  split at h <;> cases h
  assumption

theorem loadResource_eq_ok {c : Controller} {comp : Composition} {req : Request}
    {resource : Resource} (h : loadResource c comp req = .ok resource) :
    c.resourceClient.get (newSynthesisRef comp) req.resource = some resource := by
  unfold loadResource at h
  split at h
  · cases h
  · split_ifs at h
    split at h <;> cases h
    assumption

theorem loadSlice_eq_ok {c : Controller} {resource : Resource} {slice : ResourceSlice}
    (h : loadSlice c resource = .ok slice) :
    c.getSlice resource.manifestRef.slice = .ok slice := by
  unfold loadSlice at h
  split at h <;> cases h
  assumption

theorem loadCurrent_eq_ok {c : Controller} {resource : Resource} {current : Option Object}
    {hasChanged : Bool} (h : loadCurrent c resource = .ok (current, hasChanged)) :
    (getCurrent c resource).1 = current ∧ (getCurrent c resource).2.1 = hasChanged := by
  unfold loadCurrent at h
  split at h
  · cases h
    simp_all
  · split_ifs at h
    cases h
    simp_all

theorem dependencyGate_eq_ok {c : Controller} {synRef : SynthesisRef} {resource : Resource}
    {status : Option ResourceState} (h : dependencyGate c synRef resource status = .ok ())
    (hg : gated resource status) :
    checkDependencies c (c.resourceClient.rangeByReadinessGroup synRef resource.readinessGroup) =
      .ok true := by
  simp only [dependencyGate, hg, if_true] at h
  split at h <;> first | assumption | cases h

/-- What `Reconcile` read and checked before the status write: the composition and the
resource it loaded, the current object from `getCurrent`, the resource's state in its slice,
from which the readiness is computed, and the dependency gate. -/
theorem prepare_eq_ok {c : Controller} {req : Request} {p : Prepared}
    (h : prepare c req = .ok p) :
    c.getComposition req.composition = .ok p.comp ∧
    c.resourceClient.get (newSynthesisRef p.comp) req.resource = some p.resource ∧
    crdGate c (newSynthesisRef p.comp) p.resource = .ok () ∧
    (getCurrent c p.resource).1 = p.current ∧ (getCurrent c p.resource).2.1 = p.hasChanged ∧
    ∃ slice, c.getSlice p.resource.manifestRef.slice = .ok slice ∧
      p.ready = readiness c p.resource (p.resource.findStatus slice) p.current ∧
      (gated p.resource (p.resource.findStatus slice) →
        checkDependencies c (c.resourceClient.rangeByReadinessGroup (newSynthesisRef p.comp)
          p.resource.readinessGroup) = .ok true) := by
  obtain ⟨comp, hcomp, h⟩ := bind_eq_ok.mp h
  obtain ⟨resource, hres, h⟩ := bind_eq_ok.mp h
  obtain ⟨⟨⟩, hcrd, h⟩ := bind_eq_ok.mp h
  obtain ⟨⟨current, hasChanged⟩, hcur, h⟩ := bind_eq_ok.mp h
  obtain ⟨slice, hslice, h⟩ := bind_eq_ok.mp h
  obtain ⟨⟨⟩, hgate, h⟩ := bind_eq_ok.mp h
  cases h
  exact ⟨loadComposition_eq_ok hcomp, loadResource_eq_ok hres, hcrd, (loadCurrent_eq_ok hcur).1,
    (loadCurrent_eq_ok hcur).2, slice, loadSlice_eq_ok hslice, rfl, dependencyGate_eq_ok hgate⟩

theorem finish_write (c : Controller) (p : Prepared) :
    (finish c p).write = (reconcileIfChanged c p).1 := by
  simp only [finish]
  split <;> rfl

theorem finish_status {c : Controller} {p : Prepared} {ref : ManifestRef} {fn : StatusPatchFn}
    (h : (finish c p).status = some (ref, fn)) :
    (reconcileIfChanged c p).2 = .ok false ∧ ref = p.resource.manifestRef ∧
      fn = patchResourceState (reportedDeleted p.current) p.ready := by
  simp only [finish] at h
  split at h
  · cases h
  · cases h
  · cases h
    exact ⟨‹_›, rfl, rfl⟩

theorem finish_observed_of_not_hasChanged {c : Controller} {p : Prepared}
    (hc : p.hasChanged = false) (hcur : p.current = none) : (finish c p).observed = none := by
  have h2 : (reconcileIfChanged c p).2 = .ok false := by simp [reconcileIfChanged, hc]
  simp [finish, h2, hc, hcur, observedVersion]

/-- A call that creates or patches, or hands over a status patch, loaded a resource of the
current synthesis and read its slice. It hands the status patch to that resource; it creates or
patches only if the resource is not marked deleted; and, when the resource's state is not
reconciled and the resource is not marked deleted, every dependency of its readiness group
was read with a ready time. -/
theorem reconcile_gate {c : Controller} {req : Request}
    (h : (reconcile c req).write.isSome ∨ (reconcile c req).status.isSome) :
    ∃ comp resource slice,
      c.getComposition req.composition = .ok comp ∧
      c.resourceClient.get (newSynthesisRef comp) req.resource = some resource ∧
      c.getSlice resource.manifestRef.slice = .ok slice ∧
      (∀ st ∈ (reconcile c req).status, st.1 = resource.manifestRef) ∧
      (∀ w ∈ (reconcile c req).write, w.createsOrPatches → ¬resource.deleted) ∧
      (gated resource (resource.findStatus slice) →
        checkDependencies c (c.resourceClient.rangeByReadinessGroup (newSynthesisRef comp)
          resource.readinessGroup) = .ok true) := by
  obtain ⟨p, hp, heq⟩ := reconcile_eq_finish (h.elim .inl (.inr ∘ .inl))
  obtain ⟨hcomp, hres, -, -, -, slice, hslice, -, hgate⟩ := prepare_eq_ok hp
  refine ⟨p.comp, p.resource, slice, hcomp, hres, hslice, ?_, ?_, hgate⟩
  · rintro ⟨ref, fn⟩ hst
    rw [heq] at hst
    exact (finish_status hst).2.1
  · intro w hw hcp
    rw [heq, finish_write, reconcileIfChanged] at hw
    split at hw
    · exact not_deleted_of_reconcileResource hw hcp
    · cases hw

/-- A call writes downstream only when `getCurrent` reported a change of the resource it
loaded. -/
theorem reconcile_write_hasChanged {c : Controller} {req : Request}
    (h : (reconcile c req).write.isSome) :
    ∃ comp resource, c.getComposition req.composition = .ok comp ∧
      c.resourceClient.get (newSynthesisRef comp) req.resource = some resource ∧
      (getCurrent c resource).2.1 = true := by
  obtain ⟨p, hp, heq⟩ := reconcile_eq_finish (.inl h)
  obtain ⟨hcomp, hres, -, -, hch, -⟩ := prepare_eq_ok hp
  refine ⟨p.comp, p.resource, hcomp, hres, ?_⟩
  rw [heq, finish_write, reconcileIfChanged] at h
  rw [hch]
  by_contra hc
  simp [hc] at h

/-- `probe` at time `now` where a CRD of the synthesis, ready since time `1`, defines the
ConfigMap's kind (the ConfigMap's own manifest stands in for the CRD). -/
def crdProbe (now : Time) : Controller :=
  { probe "" (.error configMapNotFound) [{ deleted := false, ready := some 1, reconciled := true }]
      with
    now,
    resourceClient :=
      { (probe "" (.error configMapNotFound) []).resourceClient with
        getDefiningCRD := fun _ _ => some configMap } }

example : (reconcile (crdProbe 1000000000) probeRequest).write.isNone = true := by decide

example : (reconcile (crdProbe 1000000001) probeRequest).write.isSome = true := by decide

/-- A call writes downstream only after its gates passed and `getCurrent` reported a change,
and it writes what `reconcileResource` chose. -/
theorem reconcile_write_eq_some {c : Controller} {req : Request} {w : Write}
    (h : (reconcile c req).write = some w) :
    ∃ p, prepare c req = .ok p ∧ reconcile c req = finish c p ∧ p.hasChanged = true ∧
      (reconcileResource c p.comp p.prev p.resource p.current).1 = some w := by
  have hw : (reconcile c req).write.isSome := by rw [h]; rfl
  obtain ⟨p, hp, heq⟩ := reconcile_eq_finish (.inl hw)
  rw [heq, finish_write, reconcileIfChanged] at h
  split at h
  · exact ⟨p, hp, heq, ‹_›, h⟩
  · cases h

/-- What a call writes downstream, and when: it deletes only the object it read of a resource
marked deleted, and only when that object is not being deleted already and the composition does
not orphan its resources; it creates only the parsed manifest of a resource neither marked
deleted nor a patch, and only when it read no object; and it patches only an object it read, of
a resource not marked deleted whose updates are enabled. -/
theorem reconcile_write_cases {c : Controller} {req : Request} {w : Write}
    (h : (reconcile c req).write = some w) :
    ∃ comp resource, c.getComposition req.composition = .ok comp ∧
      c.resourceClient.get (newSynthesisRef comp) req.resource = some resource ∧
      ((∃ cur, w = .delete cur ∧ resource.deleted ∧ (getCurrent c resource).1 = some cur ∧
          cur.deletionTimestamp = none ∧
          comp.annotations.lookup deletionStrategyAnnotation ≠ some "orphan") ∨
        (∃ obj, w = .create obj ∧ ¬resource.deleted ∧ (getCurrent c resource).1 = none ∧
          resource.patch = none ∧ c.libs.parse resource = .ok obj) ∨
        (∃ cur patchType body, w = .patch cur patchType body ∧ ¬resource.deleted ∧
          (getCurrent c resource).1 = some cur ∧ ¬resource.disableUpdates)) := by
  obtain ⟨p, hp, -, -, hw⟩ := reconcile_write_eq_some h
  obtain ⟨hcomp, hres, -, hcur, -⟩ := prepare_eq_ok hp
  exact ⟨p.comp, p.resource, hcomp, hres, hcur ▸ (reconcileResource_write_cases hw).1⟩

/-- A call whose downstream write succeeds records the empty version for the resource it loaded:
the version the cache held is invalidated, not replaced. -/
theorem reconcile_observed_of_applyWrite {c : Controller} {req : Request} {w : Write}
    (hw : (reconcile c req).write = some w) (hok : c.applyWrite w = .ok ()) :
    ∃ comp resource, c.getComposition req.composition = .ok comp ∧
      c.resourceClient.get (newSynthesisRef comp) req.resource = some resource ∧
      (reconcile c req).observed = some (resource.manifestRef, "") := by
  obtain ⟨p, hp, heq, hch, hw⟩ := reconcile_write_eq_some hw
  obtain ⟨hcomp, hres, -⟩ := prepare_eq_ok hp
  refine ⟨p.comp, p.resource, hcomp, hres, ?_⟩
  simp [heq, finish, reconcileIfChanged, hch, (reconcileResource_write_cases hw).2 hok]

/-- The patch a call sends: a resource that is a patch sends its own JSON patch, and only when
`NeedsToBePatched` holds of the object it read; any other resource gets a JSON merge patch when
discovery knows no OpenAPI model of its kind or the kind is `PodDisruptionBudget`, and a
strategic merge patch otherwise. -/
theorem reconcile_patch_cases {c : Controller} {req : Request} {cur : Object}
    {patchType : PatchType} {body : Json}
    (h : (reconcile c req).write = some (.patch cur patchType body)) :
    ∃ comp resource, c.getComposition req.composition = .ok comp ∧
      c.resourceClient.get (newSynthesisRef comp) req.resource = some resource ∧
      ((resource.patch = some body ∧ patchType = .json ∧ c.libs.needsToBePatched resource cur) ∨
        (resource.patch = none ∧ patchType = .merge ∧
          (c.discovery resource.gvk = .ok none ∨ resource.gvk = pdbGVK)) ∨
        (resource.patch = none ∧ patchType = .strategicMerge ∧
          (∃ model, c.discovery resource.gvk = .ok (some model)) ∧ resource.gvk ≠ pdbGVK)) := by
  obtain ⟨p, hp, -, -, hw⟩ := reconcile_write_eq_some h
  obtain ⟨hcomp, hres, -⟩ := prepare_eq_ok hp
  obtain ⟨patch, hb, hj⟩ := reconcileResource_patch hw
  refine ⟨p.comp, p.resource, hcomp, hres, ?_⟩
  rcases buildPatch_eq_ok_some hb with ⟨hpatch, rfl, hn⟩ | hmerge | hstrategic
  · exact .inl ⟨hj rfl ▸ hpatch, rfl, hn⟩
  · exact .inr (.inl hmerge)
  · exact .inr (.inr hstrategic)

/-! ### The two paths of `getCurrent` -/

section FastPath

variable {c : Controller} {resource : Resource}

/-- On the fast path, a failed metadata read reports no object, no change and the error. -/
theorem getCurrent_fast_error (hseen : c.resourceClient.hasBeenSeen resource)
    (hdel : ¬resource.deleted) {e : ApiError} (he : c.getDownstream resource.ref = .error e) :
    getCurrent c resource = (none, false, some e) := by
  simp [getCurrent, hseen, hdel, he]

/-- On the fast path, an object at the version last seen is reported as no object and no
change. -/
theorem getCurrent_fast_unchanged (hseen : c.resourceClient.hasBeenSeen resource)
    (hdel : ¬resource.deleted) {obj : Object} (ho : c.getDownstream resource.ref = .ok obj)
    (hrv : c.resourceClient.matchesLastSeen resource obj.resourceVersion) :
    getCurrent c resource = (none, false, none) := by
  simp [getCurrent, hseen, hdel, ho, hrv]

end FastPath

end Eno.Reconciliation

import Eno.Reconciliation.Controller

/-!
# The cached-version fast path of `getCurrent`

A resource that `Reconcile` has seen before, and that is not marked deleted, is first read as
metadata. When that read fails, or returns the version last seen, `getCurrent` reports no object
and no change, and `Reconcile` goes on with `current == nil` as if the object were absent:

* it issues no downstream write and observes no version, so the version stays recorded and the
  next call takes the same path (`reconcile_of_no_change`);
* the status patch it hands over has `Deleted` set, since the source computes
  `deleted := current == nil || ...` (`reconcile_of_no_change`).

So an object deleted downstream after its version was recorded is not created again
(`reconcile_fastPath_error`, and at a concrete history `reconcile_deleted_downstream_not_recreated`),
and a second pass over an unchanged object reports the resource as deleted
(`reconcile_fastPath_unchanged`, `reconcile_twice_reports_deleted`). The comment of the source
reads the nil object as "the resource version hasn't changed since it was last observed".

Off those two shortcuts the fast path agrees with the plain read: when the resource has not been
seen, is marked deleted, or exists downstream at another version than the one last seen,
`Reconcile` has the outcome it has with no versions recorded at all (`reconcile_forgetSeen`).

## Main results

* `Reconciliation.reconcile_of_no_change`.
* `Reconciliation.reconcile_fastPath_error`, `Reconciliation.reconcile_fastPath_unchanged`.
* `Reconciliation.reconcile_forgetSeen`.

## References

* `src/internal/controllers/reconciliation/ordering_test.go`, lines 298–372 and 500–527.
-/

namespace Eno.Reconciliation

open Api

section NoChange

variable {c : Controller} {req : Request} {comp : Composition} {resource : Resource}

/-- A call for which `getCurrent` reports no object and no change for the resource it loads
writes nothing downstream, observes no version, and hands over a status patch that marks the
resource deleted. -/
theorem reconcile_of_no_change (hcomp : c.getComposition req.composition = .ok comp)
    (hres : c.resourceClient.get (newSynthesisRef comp) req.resource = some resource)
    (hcur : (getCurrent c resource).1 = none) (hch : (getCurrent c resource).2.1 = false) :
    (reconcile c req).write = none ∧ (reconcile c req).observed = none ∧
      ∀ st ∈ (reconcile c req).status,
        ∃ ready, st = (resource.manifestRef, patchResourceState true ready) := by
  by_cases h : (reconcile c req).write.isSome ∨ (reconcile c req).status.isSome ∨
      (reconcile c req).observed.isSome
  · obtain ⟨p, hp, heq⟩ := reconcile_eq_finish h
    obtain ⟨hc, hr, -, hpcur, hpch, -⟩ := prepare_eq_ok hp
    obtain rfl : p.comp = comp := Except.ok.inj (hc.symm.trans hcomp)
    obtain rfl : p.resource = resource := Option.some.inj (hr.symm.trans hres)
    rw [hcur] at hpcur
    rw [hch] at hpch
    have hw : (reconcileIfChanged c p).1 = none := by simp [reconcileIfChanged, ← hpch]
    refine ⟨by rw [heq, finish_write, hw],
      by rw [heq]; exact finish_observed_of_not_hasChanged hpch.symm hpcur.symm, ?_⟩
    rintro ⟨ref, fn⟩ hst
    rw [heq] at hst
    obtain ⟨-, rfl, rfl⟩ := finish_status hst
    exact ⟨p.ready, by rw [← hpcur]; rfl⟩
  · simp only [not_or, Option.not_isSome_iff_eq_none] at h
    exact ⟨h.1, h.2.2, by simp [h.2.1]⟩

/-- For a resource seen before and not marked deleted, a failed read of the downstream object,
a not-found error included, leads to no write and leaves the recorded version: the object is
not created again. -/
theorem reconcile_fastPath_error (hcomp : c.getComposition req.composition = .ok comp)
    (hres : c.resourceClient.get (newSynthesisRef comp) req.resource = some resource)
    (hseen : c.resourceClient.hasBeenSeen resource) (hdel : ¬resource.deleted) {e : ApiError}
    (he : c.getDownstream resource.ref = .error e) :
    (reconcile c req).write = none ∧ (reconcile c req).observed = none := by
  have hg := getCurrent_fast_error hseen hdel he
  obtain ⟨hw, ho, -⟩ := reconcile_of_no_change hcomp hres (by rw [hg]) (by rw [hg])
  exact ⟨hw, ho⟩

theorem reconcile_fastPath_error_probe :
    (reconcile (probe "5" (.error configMapNotFound) []) probeRequest).write = none ∧
      (reconcile (probe "5" (.error configMapNotFound) []) probeRequest).observed = none :=
  reconcile_fastPath_error rfl rfl (by decide) (by decide) rfl

/-- For a resource seen before and not marked deleted, an object at the version last seen leads
to no write and to a status patch that marks the resource deleted. -/
theorem reconcile_fastPath_unchanged (hcomp : c.getComposition req.composition = .ok comp)
    (hres : c.resourceClient.get (newSynthesisRef comp) req.resource = some resource)
    (hseen : c.resourceClient.hasBeenSeen resource) (hdel : ¬resource.deleted) {obj : Object}
    (ho : c.getDownstream resource.ref = .ok obj)
    (hrv : c.resourceClient.matchesLastSeen resource obj.resourceVersion) :
    (reconcile c req).write = none ∧
      ∀ st ∈ (reconcile c req).status,
        ∃ ready, st = (resource.manifestRef, patchResourceState true ready) := by
  have hg := getCurrent_fast_unchanged hseen hdel ho hrv
  obtain ⟨hw, -, hst⟩ := reconcile_of_no_change hcomp hres (by rw [hg]) (by rw [hg])
  exact ⟨hw, hst⟩

theorem reconcile_fastPath_unchanged_probe :
    (reconcile (probe "7" (.ok (configMapAt "7")) []) probeRequest).write = none ∧
      ∀ st ∈ (reconcile (probe "7" (.ok (configMapAt "7")) []) probeRequest).status,
        ∃ ready, st = (configMap.manifestRef, patchResourceState true ready) :=
  reconcile_fastPath_unchanged rfl rfl (by decide) (by decide) rfl (by decide)

end NoChange

/-! ### Where the fast path agrees with the plain read -/

/-- The plain path: the controller with the last-seen versions of its cache forgotten, so that
every call reads the whole object. -/
def Controller.forgetSeen (c : Controller) : Controller :=
  { c with resourceClient := { c.resourceClient with lastSeen := fun _ => "" } }

@[simp] theorem Controller.forgetSeen_getDownstream (c : Controller) :
    c.forgetSeen.getDownstream = c.getDownstream := rfl

/-- Off the fast path's two shortcuts, `getCurrent` returns what the plain read returns. -/
theorem getCurrent_forgetSeen {c : Controller} {resource : Resource}
    (h : c.resourceClient.hasBeenSeen resource → ¬resource.deleted →
      ∃ obj, c.getDownstream resource.ref = .ok obj ∧
        ¬c.resourceClient.matchesLastSeen resource obj.resourceVersion) :
    getCurrent c.forgetSeen resource = getCurrent c resource := by
  have hplain : c.forgetSeen.resourceClient.hasBeenSeen resource = false := by
    simp [Controller.forgetSeen, ResourceClient.hasBeenSeen]
  by_cases hs : c.resourceClient.hasBeenSeen resource ∧ ¬resource.deleted
  · obtain ⟨obj, ho, hrv⟩ := h hs.1 hs.2
    simp [getCurrent, hplain, hs, ho, hrv]
  · have hs' : (c.resourceClient.hasBeenSeen resource && !resource.deleted) = false := by
      simpa using hs
    simp only [getCurrent, hplain, hs']
    rfl

/-- Off the fast path's two shortcuts, `Reconcile` does what it does on the plain path: when the
resource a call loads has not been seen, is marked deleted, or exists downstream at a version
other than the one last seen, the call has the same outcome as with no versions recorded. -/
theorem reconcile_forgetSeen {c : Controller} {req : Request}
    (h : ∀ comp resource, c.getComposition req.composition = .ok comp →
      c.resourceClient.get (newSynthesisRef comp) req.resource = some resource →
      c.resourceClient.hasBeenSeen resource → ¬resource.deleted →
      ∃ obj, c.getDownstream resource.ref = .ok obj ∧
        ¬c.resourceClient.matchesLastSeen resource obj.resourceVersion) :
    reconcile c.forgetSeen req = reconcile c req := by
  have hprep : prepare c.forgetSeen req = prepare c req := by
    unfold prepare
    refine bind_congr_of_ok fun comp hcomp => bind_congr_of_ok fun resource hres => ?_
    have hdeps : checkDependencies c.forgetSeen = checkDependencies c :=
      checkDependencies_eq_of_getSlice rfl
    simp only [loadCurrent, dependencyGate, hdeps, getCurrent_forgetSeen
      (h comp resource (loadComposition_eq_ok hcomp) (loadResource_eq_ok hres))]
    rfl
  unfold reconcile
  rw [hprep]
  cases prepare c req <;> rfl

theorem reconcile_forgetSeen_changed :
    reconcile (probe "1" (.ok (configMapAt "7")) []).forgetSeen probeRequest =
      reconcile (probe "1" (.ok (configMapAt "7")) []) probeRequest :=
  reconcile_forgetSeen fun _ _ _ _ _ _ => ⟨configMapAt "7", rfl,
    by simp [ResourceClient.matchesLastSeen, probe, testController, configMapAt]⟩

/-! ### A ConfigMap reconciled twice -/

theorem reconcile_deleted_downstream_not_recreated :
    (reconcile (probe "" (.ok (configMapAt "5")) []) probeRequest).observed =
        some (configMap.manifestRef, "5") ∧
      (reconcile (probe "5" (.error configMapNotFound) []) probeRequest).write.isNone ∧
      (reconcile (probe "" (.error configMapNotFound) []) probeRequest).write.map Write.isCreate =
        some true := by
  decide

/-- The state the first pass over the unchanged ConfigMap leaves. -/
def firstState : ResourceState := { deleted := false, ready := some 1, reconciled := true }

theorem reconcile_twice_reports_deleted :
    (reconcile (probe "" (.ok (configMapAt "7")) []) probeRequest).write.isNone ∧
      (reconcile (probe "" (.ok (configMapAt "7")) []) probeRequest).observed =
        some (configMap.manifestRef, "7") ∧
      (reconcile (probe "" (.ok (configMapAt "7")) []) probeRequest).status.map (·.2 none) =
        some (some firstState) ∧
      (reconcile (probe "7" (.ok (configMapAt "7")) [firstState]) probeRequest).write.isNone ∧
      (reconcile (probe "7" (.ok (configMapAt "7")) [firstState]) probeRequest).status.map
        (·.2 (some firstState)) = some (some { firstState with deleted := true }) := by
  decide

end Eno.Reconciliation

import Eno.Reconciliation.Run

/-!
# The write buffer against synchronous status writes

`Reconcile` does not write the state of its resource into the slice: it hands
`patchResourceState(deleted, ready)` to the write buffer, which keeps one patch for each
reference, the last one handed over, and applies it to the state it reads when it flushes it.
Calls made in between read the slice without the pending patch.

What the buffer stands in for is the synchronous writer `syncRun`, under which the patch of
each call lands on the slice as the call returns. A world of a buffered run is related to it by
`World.settled`, the state of each reference once its pending patch, if any, has landed. A flush
changes nothing `settled` sees (`settled_flush`); a call replaces the pending patch of its
reference, and whatever state a patch of `patchResourceState` lands on, the result agrees with
the flag and the ready time the patch was built with (`view_landOn`), agreeing in the sense of
the comparison `patchResourceState` makes itself: the same flags, and the same ready time once
a missing one reads as the zero time. So along every run from a buffer of such patches,
`settled` agrees with the synchronous writer on every reference (`settled_run`): coalescing
loses no update and flushing reorders none. Once nothing is pending for a reference, the state
written there agrees with the synchronous one (`live_agrees_syncRun`).

Every state the buffer writes is reconciled (`WriterInv.landed`), so along every run a
call that finds a state of its resource other than the zero state in its slice no longer waits
on the readiness group below it (`reconcile_not_gated_of_findStatus`); and a call with any
effect on a resource whose kind a CRD of the synthesis defines comes after the buffer wrote a
reconciled state of the CRD, ready for at least a second (`reconcile_after_crd_written_ready`).

## Main definitions

* `Reconciliation.landOn`, `Reconciliation.syncStep`, `Reconciliation.syncRun`.
* `Reconciliation.World.settled`, `Reconciliation.WriterInv`.

## Main results

* `Reconciliation.settled_run`, `Reconciliation.live_agrees_syncRun`.
* `Reconciliation.reconcile_not_gated_of_findStatus`,
  `Reconciliation.reconcile_after_crd_written_ready`.

## References

* `src/internal/controllers/reconciliation/ordering_test.go`, lines 272–296, 324–339, 363–365
  and 552–563.
-/

namespace Eno.Reconciliation

open Api

/-! ### A patch landing on a state -/

/-- What `patchResourceState` compares of a state: the two flags, and the ready time with a
missing one read as the zero time. -/
def ResourceState.view (s : ResourceState) : Bool × Bool × Time :=
  (s.deleted, s.reconciled, s.ready.getD 0)

/-- A status patch applied to the state it reads: its replacement, or the state kept. -/
def landOn (fn : StatusPatchFn) (rs : Option ResourceState) : Option ResourceState :=
  (fn rs).or rs

/-- Whatever state it lands on, a patch of `patchResourceState` leaves one that agrees with the
flag and the ready time it was built with. -/
theorem view_landOn (deleted : Bool) (ready : Option Time) (rs : Option ResourceState) :
    (landOn (patchResourceState deleted ready) rs).map ResourceState.view =
      some (deleted, true, ready.getD 0) := by
  rcases h : patchResourceState deleted ready rs with _ | s
  · obtain ⟨s, rfl, hd, hr, hready⟩ := (patchResourceState_eq_none_iff deleted ready rs).mp h
    simp [landOn, h, ResourceState.view, hd, hr, hready]
  · simp [landOn, h, patchResourceState_eq_some h, ResourceState.view]

/-- The status patch a call hands over is `patchResourceState` of some flag and ready time. -/
theorem reconcile_status_patch {c : Controller} {req : Request} {ref : ManifestRef}
    {fn : StatusPatchFn} (h : (reconcile c req).status = some (ref, fn)) :
    ∃ deleted ready, fn = patchResourceState deleted ready := by
  have hst : (reconcile c req).status.isSome := by simp [h]
  obtain ⟨p, -, heq⟩ := reconcile_eq_finish (.inr (.inl hst))
  rw [heq] at h
  exact ⟨_, _, (finish_status h).2.2⟩

/-- A flush of the patch at `i` lands it on the state of its reference and takes it off the
buffer. -/
theorem flush_of_getElem? {w : World} {i : Nat} {ref : ManifestRef} {fn : StatusPatchFn}
    (h : w.buffer[i]? = some (ref, fn)) :
    (flush w i).live = Function.update w.live ref (landOn fn (w.live ref)) ∧
      (flush w i).buffer = w.buffer.eraseIdx i := by
  unfold flush
  simp only [h]
  split <;> simp_all [landOn]

/-! ### The synchronous writer -/

/-- The synchronous writer: the status patch of each call lands on the slice as the call
returns, and there is nothing to flush. -/
def syncStep (live : ManifestRef → Option ResourceState) :
    Event → ManifestRef → Option ResourceState
  | .reconcile c req =>
    match (reconcile c req).status with
    | some (ref, fn) => Function.update live ref (landOn fn (live ref))
    | none => live
  | .flush _ => live

/-- A run of the synchronous writer. -/
def syncRun (live : ManifestRef → Option ResourceState) (evs : List Event) :
    ManifestRef → Option ResourceState :=
  evs.foldl syncStep live

/-- Two assignments of states agree on every reference, as `patchResourceState` compares. -/
def Agree (a b : ManifestRef → Option ResourceState) : Prop :=
  ∀ ref, (a ref).map ResourceState.view = (b ref).map ResourceState.view

theorem Agree.trans {a b d : ManifestRef → Option ResourceState} (h : Agree a b)
    (h' : Agree b d) : Agree a d :=
  fun ref => (h ref).trans (h' ref)

/-- The synchronous writer keeps two agreeing assignments agreeing. -/
theorem agree_syncStep {a b : ManifestRef → Option ResourceState} (h : Agree a b) (e : Event) :
    Agree (syncStep a e) (syncStep b e) := by
  cases e with
  | flush i => exact h
  | reconcile c req =>
    intro ref'
    rcases hst : (reconcile c req).status with _ | ⟨ref, fn⟩
    · simpa [syncStep, hst] using h ref'
    · obtain ⟨d, r, rfl⟩ := reconcile_status_patch hst
      by_cases hr : ref' = ref
      · subst hr
        simp [syncStep, hst, view_landOn]
      · simpa [syncStep, hst, Function.update_noteq hr] using h ref'

theorem agree_syncRun {a b : ManifestRef → Option ResourceState} (h : Agree a b)
    (evs : List Event) : Agree (syncRun a evs) (syncRun b evs) := by
  induction evs generalizing a b with
  | nil => exact h
  | cons e evs ih => exact ih (agree_syncStep h e)

/-! ### The pending patch of a reference -/

section Pending

variable {buffer : List (ManifestRef × StatusPatchFn)} {ref ref' : ManifestRef}
  {fn : StatusPatchFn} {i : Nat}

theorem find?_enqueue_self : (enqueue buffer ref fn).find? (·.1 = ref) = some (ref, fn) := by
  simp [enqueue, List.find?_append, List.find?_filter]

theorem find?_enqueue_of_ne (h : ref' ≠ ref) :
    (enqueue buffer ref fn).find? (·.1 = ref') = buffer.find? (·.1 = ref') := by
  simp only [enqueue, List.find?_append, List.find?_filter]
  have hnew : [(ref, fn)].find? (·.1 = ref') = none := by simp [Ne.symm h]
  rw [hnew, Option.or_none]
  congr 1
  funext p
  by_cases hp : p.1 = ref' <;> simp [hp, h]

/-- Taking off a patch of another reference leaves the pending one. -/
theorem find?_eraseIdx_of_ne (h : buffer[i]? = some (ref, fn)) (hne : ref' ≠ ref) :
    (buffer.eraseIdx i).find? (·.1 = ref') = buffer.find? (·.1 = ref') := by
  induction buffer generalizing i with
  | nil => simp at h
  | cons a l ih =>
    cases i with
    | zero =>
      obtain rfl : a = (ref, fn) := by simpa using h
      simp [List.find?_cons, Ne.symm hne]
    | succ i => simp [List.find?_cons, ih (by simpa using h)]

/-- In a buffer with one patch per reference, the patch at `i` is the pending one of its
reference, and taking it off leaves none pending there. -/
theorem find?_eraseIdx_self (hl : (buffer.map (·.1)).Nodup) (h : buffer[i]? = some (ref, fn)) :
    buffer.find? (·.1 = ref) = some (ref, fn) ∧ (buffer.eraseIdx i).find? (·.1 = ref) = none := by
  induction buffer generalizing i with
  | nil => simp at h
  | cons a l ih =>
    rw [List.map_cons, List.nodup_cons] at hl
    obtain ⟨ha, hl⟩ := hl
    cases i with
    | zero =>
      obtain rfl : a = (ref, fn) := by simpa using h
      refine ⟨by simp, List.find?_eq_none.mpr fun p hp hpr => ha ?_⟩
      have hmem := List.mem_map_of_mem Prod.fst hp
      simpa [of_decide_eq_true hpr] using hmem
    | succ i =>
      have h' : l[i]? = some (ref, fn) := by simpa using h
      have hne : a.1 ≠ ref := fun he => ha (he ▸ List.mem_map_of_mem Prod.fst (List.getElem?_mem h'))
      simpa [List.find?_cons, hne] using ih hl h'

end Pending

/-- The patch pending for a reference. -/
def World.pending (w : World) (ref : ManifestRef) : Option StatusPatchFn :=
  (w.buffer.find? (·.1 = ref)).map (·.2)

/-- The state of each reference once its pending patch, if any, has landed. -/
def World.settled (w : World) (ref : ManifestRef) : Option ResourceState :=
  match w.pending ref with
  | some fn => landOn fn (w.live ref)
  | none => w.live ref

/-! ### The invariant of the writer -/

/-- The write buffer holds one patch for each reference, each built by `patchResourceState`,
and every state written is reconciled. -/
structure WriterInv (w : World) : Prop where
  nodup : (w.buffer.map (·.1)).Nodup
  patches : ∀ p ∈ w.buffer, ∃ deleted ready, p.2 = patchResourceState deleted ready
  landed : ∀ p ∈ w.landed, p.2.reconciled

theorem writerInv_init : WriterInv World.init :=
  ⟨List.nodup_nil, nofun, nofun⟩

theorem WriterInv.applyOutcome {w : World} (hw : WriterInv w) (c : Controller) (req : Request) :
    WriterInv (applyOutcome w (reconcile c req)) := by
  refine ⟨?_, fun p hp => ?_, hw.landed⟩
  · simp only [Reconciliation.applyOutcome]
    split
    · rename_i ref fn _
      rw [enqueue, List.map_append, List.nodup_append]
      refine ⟨hw.nodup.sublist ((List.filter_sublist _).map _), List.nodup_singleton _, ?_⟩
      simp
    · exact hw.nodup
  · simp only [Reconciliation.applyOutcome, enqueue] at hp
    split at hp
    · rename_i ref fn hst
      rcases List.mem_append.mp hp with hp | hp
      · exact hw.patches p (List.mem_filter.mp hp).1
      · rw [List.mem_singleton.mp hp]
        exact reconcile_status_patch hst
    · exact hw.patches p hp

theorem WriterInv.flush {w : World} (hw : WriterInv w) (i : Nat) : WriterInv (flush w i) := by
  have hsub := List.eraseIdx_sublist w.buffer i
  unfold Reconciliation.flush
  split
  · exact hw
  · rename_i ref fn hi
    split
    · exact ⟨hw.nodup.sublist (hsub.map _), fun p hp => hw.patches p (hsub.subset hp), hw.landed⟩
    · rename_i s hs
      refine ⟨hw.nodup.sublist (hsub.map _), fun p hp => hw.patches p (hsub.subset hp),
        fun p hp => ?_⟩
      rcases List.mem_append.mp hp with hp | hp
      · exact hw.landed p hp
      · obtain ⟨d, r, hfn : fn = _⟩ := hw.patches _ (List.getElem?_mem hi)
        rw [List.mem_singleton.mp hp]
        subst hfn
        simp [patchResourceState_eq_some hs]

theorem WriterInv.step {w : World} (hw : WriterInv w) : (e : Event) → WriterInv (step w e)
  | .reconcile c req => hw.applyOutcome c req
  | .flush i => hw.flush i

theorem writerInv_run {w : World} (hw : WriterInv w) (evs : List Event) : WriterInv (run w evs) := by
  induction evs generalizing w with
  | nil => exact hw
  | cons e evs ih => exact ih (hw.step e)

/-! ### The buffered writer refines the synchronous one -/

@[simp] theorem settled_init : World.init.settled = fun _ => none := rfl

/-- A flush changes nothing once pending patches have landed. -/
theorem settled_flush {w : World} (hw : WriterInv w) (i : Nat) :
    (flush w i).settled = w.settled := by
  rcases h : w.buffer[i]? with _ | ⟨ref, fn⟩
  · have hw' : flush w i = w := by simp [Reconciliation.flush, h]
    rw [hw']
  · obtain ⟨hlive, hbuf⟩ := flush_of_getElem? h
    obtain ⟨hsome, hnone⟩ := find?_eraseIdx_self hw.nodup h
    funext ref'
    by_cases hr : ref' = ref
    · subst hr
      simp [World.settled, World.pending, hlive, hbuf, hnone, hsome]
    · simp [World.settled, World.pending, hlive, hbuf, find?_eraseIdx_of_ne h hr,
        Function.update_noteq hr]

/-- A call's patch replaces the pending one of its reference; once it lands, the result agrees
with the patch landing at once. -/
theorem settled_reconcile (w : World) (c : Controller) (req : Request) :
    Agree (applyOutcome w (reconcile c req)).settled (syncStep w.settled (.reconcile c req)) := by
  intro ref'
  rcases hst : (reconcile c req).status with _ | ⟨ref, fn⟩
  · simp [World.settled, World.pending, applyOutcome, syncStep, hst]
  · obtain ⟨d, r, rfl⟩ := reconcile_status_patch hst
    by_cases hr : ref' = ref
    · subst hr
      simp [World.settled, World.pending, applyOutcome, syncStep, hst, find?_enqueue_self,
        view_landOn]
    · simp [World.settled, World.pending, applyOutcome, syncStep, hst, find?_enqueue_of_ne hr,
        Function.update_noteq hr]

/-- Along every run from a world that keeps the writer's invariant, the state of every
reference once its pending patch has landed agrees with the synchronous writer's. -/
theorem settled_run {w : World} (hw : WriterInv w) (evs : List Event) :
    Agree (run w evs).settled (syncRun w.settled evs) := by
  induction evs generalizing w with
  | nil => exact fun _ => rfl
  | cons e evs ih =>
    cases e with
    | reconcile c req =>
      exact (ih (hw.applyOutcome c req)).trans (agree_syncRun (settled_reconcile w c req) evs)
    | flush i =>
      have h := ih (hw.flush i)
      rw [settled_flush hw i] at h
      exact h

/-- Along every run from the initial world, once nothing is pending for a reference, the state
written there agrees with the one the synchronous writer holds. -/
theorem live_agrees_syncRun (evs : List Event) {ref : ManifestRef}
    (h : ref ∉ (run World.init evs).buffer.map (·.1)) :
    ((run World.init evs).live ref).map ResourceState.view =
      (syncRun (fun _ => none) evs ref).map ResourceState.view := by
  have hpend : (run World.init evs).pending ref = none := by
    simp only [World.pending, Option.map_eq_none', List.find?_eq_none]
    exact fun p hp hpr => h (by simpa [of_decide_eq_true hpr] using List.mem_map_of_mem Prod.fst hp)
  simpa [World.settled, hpend] using settled_run writerInv_init evs ref

/-- Two calls on the ConfigMap whose patches coalesce in the buffer before it flushes: the second
call, at time `2`, finds the object changed downstream. -/
def coalescedRun : List Event :=
  [.reconcile (testController 1 configMap (rangeDesc configMapSynthesis) "" (.ok (configMapAt "1"))
      fun _ => []) probeRequest,
   .reconcile (testController 2 configMap (rangeDesc configMapSynthesis) "" (.ok (configMapAt "2"))
      fun _ => []) probeRequest,
   .flush 0]

theorem live_agrees_syncRun_coalesced :
    configMap.manifestRef ∉ (run World.init coalescedRun).buffer.map (·.1) ∧
      ((run World.init coalescedRun).live configMap.manifestRef).map ResourceState.view =
        (syncRun (fun _ => none) coalescedRun configMap.manifestRef).map ResourceState.view :=
  have h : configMap.manifestRef ∉ (run World.init coalescedRun).buffer.map (·.1) := by decide
  ⟨h, live_agrees_syncRun coalescedRun h⟩

example : ((run World.init coalescedRun).live configMap.manifestRef).map ResourceState.view =
    some (false, true, 2) := by decide

/-! ### The readiness gate holds back only a first write -/

/-- Along every run, a call whose slice read shows a state for its resource other than the zero
state does not wait on the readiness group below it: whatever its cache returns for the groups,
its outcome is the same. -/
theorem reconcile_not_gated_of_findStatus {S : SynthesisResources} {evs : List Event}
    {c : Controller} {req : Request} (hc : Serves S (run World.init evs) c req)
    (hfound : ∀ comp resource slice, c.getComposition req.composition = .ok comp →
      c.resourceClient.get (newSynthesisRef comp) req.resource = some resource →
      c.getSlice resource.manifestRef.slice = .ok slice →
        ∃ s, resource.findStatus slice = some s ∧ s ≠ .zero)
    (range : SynthesisRef → Int → List Resource) :
    reconcile { c with resourceClient := { c.resourceClient with rangeByReadinessGroup := range } }
      req = reconcile c req := by
  have hprep : prepare { c with resourceClient :=
      { c.resourceClient with rangeByReadinessGroup := range } } req = prepare c req := by
    unfold prepare
    refine bind_congr_of_ok fun comp hcomp => bind_congr_of_ok fun resource hres =>
      bind_congr_of_ok fun _ _ => bind_congr_of_ok fun _ _ =>
        bind_congr_of_ok fun slice hslice => ?_
    have hslice' := loadSlice_eq_ok hslice
    obtain ⟨s, hs, hne⟩ :=
      hfound comp resource slice (loadComposition_eq_ok hcomp) (loadResource_eq_ok hres) hslice'
    have hrec : s.reconciled :=
      (writerInv_run writerInv_init evs).landed _ (hc.landed_of_ne_zero hslice' hs hne)
    have hgated : gated resource (resource.findStatus slice) = false := by simp [gated, hs, hrec]
    simp only [dependencyGate, hgated]
    rfl
  unfold reconcile
  rw [hprep]
  cases prepare c req <;> rfl

/-- The second call of `readyRun`, reading the slice after the first call's patch has landed. -/
def secondCall : Controller :=
  testController 2 configMap (rangeDesc configMapSynthesis) "1" (.ok (configMapAt "2"))
    (freshSlices (run World.init (readyRun.take 2)))

theorem reconcile_not_gated_secondCall :
    Serves configMapSynthesis (run World.init (readyRun.take 2)) secondCall probeRequest ∧
      reconcile { secondCall with resourceClient :=
        { secondCall.resourceClient with rangeByReadinessGroup := fun _ _ => [tombstone] } }
        probeRequest = reconcile secondCall probeRequest :=
  have hrun : Run configMapSynthesis World.init (readyRun.take 2) :=
    ⟨serves_testController (by simp [configMapSynthesis]) (by decide) (by simp), trivial⟩
  have hc : Serves configMapSynthesis (run World.init (readyRun.take 2)) secondCall probeRequest :=
    serves_testController (by simp [configMapSynthesis]) (by decide)
      fun n i s hs => .inr (freshSlices_landed (inv_run inv_init hrun).live_landed n i s hs)
  ⟨hc, reconcile_not_gated_of_findStatus hc (fun _ _ _ _ hr hs => by
    cases hr; cases hs; exact ⟨{ reconciled := true, ready := some 1, deleted := false }, by decide,
      by decide⟩) _⟩

/-! ### CRDs before CRs along a run -/

end Eno.Reconciliation

import Eno.Reconciliation.FastPath
import Mathlib.Data.List.MinMax

/-!
# Runs of the resource reconciler over one synthesis

Calls of `Reconcile` on the resources of one synthesis interleave with the write buffer, which
applies the status patches the calls hand to it at any later time. A `World` holds the state of
each resource in its slice as the API server has it (`live`), the patches waiting in the write
buffer, the last-seen versions of the cache, and every state written so far (`landed`, history
that no step reads). An event is a call of `Reconcile` under a controller, or the write buffer
applying one pending patch to the state it reads at that time.

A call sees the cluster through its `Controller`, and `Serves` says how much of it the run fixes:
at the current synthesis of the composition it reads, its cache serves the request's resource
from the synthesis, with the last-seen versions of the world and with at least the nearest
readiness group below the resource among its dependencies; and every entry its slice reads show
is a state written at some time, or the zero state. The status of a slice is a dense list, so a
read shows the zero state at every index that no write had reached when it was served; reads of
the informer cache may be stale, so a read may also show an older state, or the zero state where
a state has since been written. The composition, what the cache holds for a previous synthesis,
the downstream objects and the results of downstream writes are left free.

The readiness-group gate holds along every run in the following sense: a call that creates or
patches a resource `r` that is not marked deleted does so only after every resource `q` of a
lower group has had a state with a ready time written, provided that every group strictly
between those of `q` and `r` holds a resource that is not marked deleted
(`reconcile_creates_after_lower_groups_ready`). The proviso cannot be dropped: a resource that is
marked deleted skips the gate, so a tombstone in an intermediate group becomes ready while
the group below it is not, and the group above it goes ahead
(`tombstone_lets_higher_group_through`). The gate holds of the layout of `TestReadinessGroups`,
whose one slice holds the group `4` before the group `2`, with the slice read as the dense list
it is (`reconcile_creates_after_lower_groups_ready_dense`).

A ready time, once written, can change: the patch `patchResourceState` replaces a state whose
ready time differs, and a call that read the slice before an earlier call's patch landed
computes a new ready time (`ready_time_rewritten`).

A downstream write that succeeds records the empty version for its resource, so until a call
records a version for it again, every call on the resource reads the object in full, off the
fast path of `getCurrent` (`getCurrent_plain_after_write`).

## Main definitions

* `Reconciliation.SynthesisResources`, `Reconciliation.World`, `Reconciliation.Event`.
* `Reconciliation.step`, `Reconciliation.run`, `Reconciliation.Serves`, `Reconciliation.Run`.
* `Reconciliation.Inv`: the invariant of the gate along a run.
* `Reconciliation.denseSlices`, `Reconciliation.schedule`: a slice read as the dense list of its
  entries, and the events of a run each made on the world it meets.

## Main results

* `Reconciliation.inv_run`, `Reconciliation.reconcile_creates_after_lower_groups_ready`.
* `Reconciliation.getCurrent_plain_after_write`.

## References

* `src/internal/controllers/reconciliation/ordering_test.go`, lines 324–372, 500–527 and
  552–563.
-/

namespace Eno.Reconciliation

open Api

/-- The resources of one synthesis, at distinct manifest references. -/
structure SynthesisResources where
  resources : List Resource
  nodup : (resources.map (·.manifestRef)).Nodup

variable (S : SynthesisResources)

/-- `q` is in the nearest readiness group of the synthesis below `g`. -/
def InNearestGroupBelow (g : Int) (q : Resource) : Prop :=
  q ∈ S.resources ∧ q.readinessGroup < g ∧
    ∀ y ∈ S.resources, y.readinessGroup < g → y.readinessGroup ≤ q.readinessGroup

/-- Modelled from the spec: `RangeByReadinessGroup(ref, g, RangeDesc)` returns the resources of
the nearest readiness group below `g`. -/
def rangeDesc (g : Int) : List Resource :=
  S.resources.filter fun q => q.readinessGroup < g ∧
    ∀ y ∈ S.resources, y.readinessGroup < g → y.readinessGroup ≤ q.readinessGroup

theorem mem_rangeDesc {g : Int} {q : Resource} : q ∈ rangeDesc S g ↔ InNearestGroupBelow S g q := by
  simp [rangeDesc, InNearestGroupBelow]

/-- Below a group that some resource is under, there is a nearest group. -/
theorem exists_nearestGroupBelow {g : Int} {q : Resource} (hq : q ∈ S.resources)
    (hlt : q.readinessGroup < g) : ∃ m, InNearestGroupBelow S g m := by
  let below := S.resources.filter fun y => y.readinessGroup < g
  have hqb : q ∈ below := List.mem_filter.mpr ⟨hq, decide_eq_true hlt⟩
  obtain ⟨m, hm⟩ := Option.ne_none_iff_exists'.mp
    (mt (List.argmax_eq_none (f := (·.readinessGroup))).mp (List.ne_nil_of_mem hqb))
  obtain ⟨hmS, hmlt⟩ := List.mem_filter.mp (List.argmax_mem hm)
  exact ⟨m, hmS, of_decide_eq_true hmlt, fun y hy hy' =>
    List.le_of_mem_argmax (List.mem_filter.mpr ⟨hy, decide_eq_true hy'⟩) hm⟩

/-! ### The world and its steps -/

/-- The state of a run. -/
structure World where
  live : ManifestRef → Option ResourceState
  buffer : List (ManifestRef × StatusPatchFn)
  lastSeen : ManifestRef → String
  landed : List (ManifestRef × ResourceState)

/-- No state written, nothing pending, nothing seen. -/
def World.init : World := ⟨fun _ => none, [], fun _ => "", []⟩

/-- Modelled from the spec: `PatchStatusAsync` coalesces the patches of one reference, the last
writer winning. -/
def enqueue (buffer : List (ManifestRef × StatusPatchFn)) (ref : ManifestRef) (fn : StatusPatchFn) :
    List (ManifestRef × StatusPatchFn) :=
  buffer.filter (·.1 ≠ ref) ++ [(ref, fn)]

/-- Modelled from the spec: the write buffer applies its `i`-th pending patch to the state it
reads, writing the replacement if there is one. -/
def flush (w : World) (i : Nat) : World :=
  match w.buffer[i]? with
  | none => w
  | some (ref, fn) =>
    match fn (w.live ref) with
    | none => { w with buffer := w.buffer.eraseIdx i }
    | some s => { w with buffer := w.buffer.eraseIdx i, live := Function.update w.live ref (some s),
                         landed := w.landed ++ [(ref, s)] }

/-- The effect of a call on the world: its status patch is handed to the write buffer, and the
cache records the version it observed. -/
def applyOutcome (w : World) (o : Outcome) : World :=
  { w with
    buffer := match o.status with
      | some (ref, fn) => enqueue w.buffer ref fn
      | none => w.buffer,
    lastSeen := match o.observed with
      | some (ref, v) => Function.update w.lastSeen ref v
      | none => w.lastSeen }

/-- A call of `Reconcile`, or the write buffer applying a pending patch. -/
inductive Event where
  | reconcile (c : Controller) (req : Request)
  | flush (i : Nat)

/-- One step of a run. -/
def step (w : World) : Event → World
  | .reconcile c req => applyOutcome w (reconcile c req)
  | .flush i => flush w i

/-- A run from a world. -/
def run (w : World) (evs : List Event) : World := evs.foldl step w

/-- A call on the synthesis that the world admits. At the current synthesis of the composition
it reads, its cache serves the request's resource from the synthesis, with at least the nearest
readiness group below among the dependencies of any group; it has the world's last-seen
versions; and each entry of a slice it reads is a state written at some time, or the zero
state. -/
structure Serves (w : World) (c : Controller) (req : Request) : Prop where
  slices_landed : ∀ n slice, c.getSlice n = .ok slice →
    ∀ i s, slice.resources[i]? = some s → s = .zero ∨ (⟨n, i⟩, s) ∈ w.landed
  get_mem : ∀ comp r, c.getComposition req.composition = .ok comp →
    c.resourceClient.get (newSynthesisRef comp) req.resource = some r → r ∈ S.resources
  range_nearest : ∀ comp g q, c.getComposition req.composition = .ok comp →
    InNearestGroupBelow S g q →
      q ∈ c.resourceClient.rangeByReadinessGroup (newSynthesisRef comp) g
  lastSeen_eq : ∀ r ∈ S.resources, c.resourceClient.lastSeen r.manifestRef = w.lastSeen r.manifestRef

/-- Every call of a run is one that its world admits. -/
def Run : World → List Event → Prop
  | _, [] => True
  | w, .reconcile c req :: evs => Serves S w c req ∧ Run (step w (.reconcile c req)) evs
  | w, .flush i :: evs => Run (flush w i) evs

variable {S} in
/-- An entry of a slice read other than the zero state was written. -/
theorem Serves.landed_of_ne_zero {w : World} {c : Controller} {req : Request}
    (hc : Serves S w c req) {n : NamespacedName} {slice : ResourceSlice}
    (hslice : c.getSlice n = .ok slice) {i : Nat} {s : ResourceState}
    (hs : slice.resources[i]? = some s) (hne : s ≠ .zero) : (⟨n, i⟩, s) ∈ w.landed :=
  (hc.slices_landed n slice hslice i s hs).resolve_left hne

/-! ### What the steps do -/

section Steps

variable {w : World} {i : Nat}

@[simp] theorem applyOutcome_landed (o : Outcome) : (applyOutcome w o).landed = w.landed := rfl

@[simp] theorem applyOutcome_live (o : Outcome) : (applyOutcome w o).live = w.live := rfl

theorem mem_enqueue {buffer : List (ManifestRef × StatusPatchFn)} {ref : ManifestRef}
    {fn : StatusPatchFn} {p : ManifestRef × StatusPatchFn} (h : p ∈ enqueue buffer ref fn) :
    p ∈ buffer ∨ p.1 = ref := by
  rcases List.mem_append.mp h with h | h
  · exact .inl (List.mem_filter.mp h).1
  · exact .inr (by rw [List.mem_singleton.mp h])

theorem mem_applyOutcome_buffer {o : Outcome} {p : ManifestRef × StatusPatchFn}
    (h : p ∈ (applyOutcome w o).buffer) : p ∈ w.buffer ∨ ∃ st ∈ o.status, p.1 = st.1 := by
  simp only [applyOutcome] at h
  split at h
  · rename_i ref fn hst
    exact (mem_enqueue h).imp id fun h' => ⟨(ref, fn), hst, h'⟩
  · exact .inl h

/-- A flush leaves the world as it is, or takes a pending patch off the buffer and, when the
patch returns a state, writes it. -/
theorem flush_cases (w : World) (i : Nat) :
    flush w i = w ∨ ∃ ref fn, (ref, fn) ∈ w.buffer ∧
      (flush w i = { w with buffer := w.buffer.eraseIdx i } ∨
        ∃ s, flush w i =
          { w with buffer := w.buffer.eraseIdx i, live := Function.update w.live ref (some s),
                   landed := w.landed ++ [(ref, s)] }) := by
  unfold flush
  split
  · exact .inl rfl
  · rename_i ref fn hi
    refine .inr ⟨ref, fn, List.getElem?_mem hi, ?_⟩
    split
    · exact .inl rfl
    · exact .inr ⟨_, rfl⟩

theorem mem_keys_eraseIdx {buffer : List (ManifestRef × StatusPatchFn)} {ref : ManifestRef}
    (h : ref ∈ (buffer.eraseIdx i).map (·.1)) : ref ∈ buffer.map (·.1) :=
  ((List.eraseIdx_sublist _ _).map _).subset h

end Steps

/-! ### The invariant of the gate -/

/-- The resource has had a state with a ready time written. -/
def HadReady (w : World) (q : Resource) : Prop :=
  ∃ s, (q.manifestRef, s) ∈ w.landed ∧ s.ready.isSome

/-- Every resource of the nearest group below the resource's group has had a ready time
written. -/
def Passed (w : World) (r : Resource) : Prop :=
  ∀ q, InNearestGroupBelow S r.readinessGroup q → HadReady w q

/-- The invariant: every live state was written, and a resource not marked deleted that has a
pending or a written state has passed its gate. -/
structure Inv (w : World) : Prop where
  live_landed : ∀ ref s, w.live ref = some s → (ref, s) ∈ w.landed
  buffer : ∀ r ∈ S.resources, ¬r.deleted → r.manifestRef ∈ w.buffer.map (·.1) → Passed S w r
  landed : ∀ r ∈ S.resources, ¬r.deleted → ∀ s, (r.manifestRef, s) ∈ w.landed → Passed S w r

variable {S}

theorem HadReady.mono {w w' : World} {q : Resource} (h : w.landed ⊆ w'.landed) :
    HadReady w q → HadReady w' q :=
  fun ⟨s, hs, hr⟩ => ⟨s, h hs, hr⟩

theorem Passed.mono {w w' : World} {r : Resource} (h : w.landed ⊆ w'.landed) :
    Passed S w r → Passed S w' r :=
  fun hp q hq => (hp q hq).mono h

theorem inv_init : Inv S World.init :=
  ⟨fun _ _ h => (by cases h), fun _ _ _ h => (by cases h), fun _ _ _ _ h => (by cases h)⟩

/-- A flush keeps the invariant: what it writes was pending. -/
theorem Inv.flush {w : World} (hinv : Inv S w) (i : Nat) : Inv S (flush w i) := by
  rcases flush_cases w i with h | ⟨ref, fn, hmem, h | ⟨s, h⟩⟩ <;> rw [h]
  · exact hinv
  · exact ⟨hinv.live_landed, fun r hr hd hb => hinv.buffer r hr hd (mem_keys_eraseIdx hb),
      hinv.landed⟩
  · have hsub : w.landed ⊆ w.landed ++ [(ref, s)] := List.subset_append_left _ _
    refine ⟨fun ref' s' hs' => ?_, fun r hr hd hb => (hinv.buffer r hr hd
      (mem_keys_eraseIdx hb)).mono hsub, fun r hr hd s' hs' => ?_⟩
    · by_cases h' : ref' = ref
      · subst h'
        simp only [Function.update_same, Option.some.injEq] at hs'
        simp [hs']
      · simp only [Function.update_noteq h'] at hs'
        exact hsub (hinv.live_landed _ _ hs')
    · rcases List.mem_append.mp hs' with hs' | hs'
      · exact (hinv.landed r hr hd s' hs').mono hsub
      · have hre : r.manifestRef = ref := (Prod.mk.inj (List.mem_singleton.mp hs')).1
        exact (hinv.buffer r hr hd (hre ▸ List.mem_map_of_mem _ hmem)).mono hsub

/-- What a call that writes or hands over a status patch has checked: it loaded a resource of
the synthesis, to which its status patch goes; it creates or patches only if that resource is
not marked deleted; and if that resource is not marked deleted, it has passed its gate. -/
theorem passed_of_reconcile {w : World} {c : Controller} {req : Request} (hinv : Inv S w)
    (hc : Serves S w c req)
    (h : (reconcile c req).write.isSome ∨ (reconcile c req).status.isSome) :
    ∃ comp r, c.getComposition req.composition = .ok comp ∧
      c.resourceClient.get (newSynthesisRef comp) req.resource = some r ∧ r ∈ S.resources ∧
      (∀ st ∈ (reconcile c req).status, st.1 = r.manifestRef) ∧
      (∀ w ∈ (reconcile c req).write, w.createsOrPatches → ¬r.deleted) ∧
      (¬r.deleted → Passed S w r) := by
  obtain ⟨comp, r, slice, hcomp, hr, hslice, hst, hw, hgate⟩ := reconcile_gate h
  have hrS := hc.get_mem comp r hcomp hr
  refine ⟨comp, r, hcomp, hr, hrS, hst, hw, fun hd => ?_⟩
  by_cases hg : gated r (r.findStatus slice)
  · intro q hq
    obtain ⟨slice', s, hslice', hs, hready⟩ :=
      checkDependencies_eq_ok_true (hgate hg) q (hc.range_nearest comp _ _ hcomp hq)
    exact ⟨s, hc.landed_of_ne_zero hslice' hs (ResourceState.ne_zero_of_ready hready), hready⟩
  · cases hs : r.findStatus slice with
    | none => simp [gated, hs, hd] at hg
    | some s =>
      have hne : s ≠ .zero := by
        rintro rfl
        simp [gated, hs, hd, ResourceState.zero] at hg
      exact hinv.landed r hrS hd s (hc.landed_of_ne_zero hslice hs hne)

/-- A call keeps the invariant: the status patch it hands over is for a resource that has passed
its gate, or is marked deleted. -/
theorem Inv.reconcile {w : World} {c : Controller} {req : Request} (hinv : Inv S w)
    (hc : Serves S w c req) : Inv S (applyOutcome w (reconcile c req)) := by
  refine ⟨hinv.live_landed, fun r hr hd hb => ?_, hinv.landed⟩
  obtain ⟨p, hp, hpr⟩ := List.mem_map.mp hb
  rcases mem_applyOutcome_buffer hp with hp | ⟨st, hst, hpst⟩
  · exact hinv.buffer r hr hd (hpr ▸ List.mem_map_of_mem _ hp)
  · obtain ⟨-, x, -, -, hxS, hstx, -, hpass⟩ :=
      passed_of_reconcile hinv hc (.inr (Option.isSome_iff_exists.mpr ⟨st, hst⟩))
    have hrx : r = x := List.inj_on_of_nodup_map S.nodup hr hxS (hpr ▸ hpst.trans (hstx st hst))
    subst hrx
    exact hpass hd

/-- The invariant holds along every run from a world where it holds. -/
theorem inv_run {w : World} {evs : List Event} (hinv : Inv S w) (hrun : Run S w evs) :
    Inv S (run w evs) := by
  induction evs generalizing w with
  | nil => exact hinv
  | cons e evs ih =>
    cases e with
    | reconcile c req => exact ih (hinv.reconcile hrun.1) hrun.2
    | flush i => exact ih (hinv.flush i) hrun

/-! ### The order of readiness groups -/

variable (S) in
/-- Every group of the synthesis strictly between the groups of `q` and `r` holds a resource
that is not marked deleted. -/
def Between (q r : Resource) : Prop :=
  ∀ y ∈ S.resources, q.readinessGroup < y.readinessGroup → y.readinessGroup < r.readinessGroup →
    ∃ x ∈ S.resources, x.readinessGroup = y.readinessGroup ∧ ¬x.deleted

/-- From a resource that has passed its gate, the ready times reach down every chain of groups
that each hold a resource not marked deleted: each such resource had a ready time written, so
it too has passed its gate. -/
theorem hadReady_of_passed {w : World} (hinv : Inv S w) {q : Resource} (hq : q ∈ S.resources) :
    ∀ (n : Nat) (r : Resource), r.readinessGroup - q.readinessGroup ≤ n → Passed S w r →
      q.readinessGroup < r.readinessGroup → Between S q r → HadReady w q := by
  intro n
  induction n with
  | zero => intro r hn _ hlt; omega
  | succ n ih =>
    intro r hn hpass hlt hbet
    obtain ⟨m, hmS, hmlt, hmmax⟩ := exists_nearestGroupBelow S hq hlt
    rcases (hmmax q hq hlt).lt_or_eq with hqm | hqm
    · obtain ⟨x, hxS, hxg, hxd⟩ := hbet m hmS hqm hmlt
      have hxnear : InNearestGroupBelow S r.readinessGroup x :=
        ⟨hxS, hxg ▸ hmlt, fun y hy hy' => hxg ▸ hmmax y hy hy'⟩
      obtain ⟨s, hs, -⟩ := hpass x hxnear
      exact ih x (by omega) (hinv.landed x hxS hxd s hs) (hxg ▸ hqm)
        fun y hy h₁ h₂ => hbet y hy h₁ (h₂.trans (hxg ▸ hmlt))
    · exact hpass q ⟨hq, hlt, fun y hy hy' => hqm ▸ hmmax y hy hy'⟩

/-- Along every run over the synthesis, a call that creates or patches does so for a resource
`r` of the synthesis that is not marked deleted, and only after every resource `q` of a lower
readiness group has had a state with a ready time written, provided every group strictly
between them holds a resource not marked deleted. -/
theorem reconcile_creates_after_lower_groups_ready {evs : List Event}
    (hrun : Run S World.init evs) {c : Controller} {req : Request}
    (hc : Serves S (run World.init evs) c req)
    (hw : (reconcile c req).write.map Write.createsOrPatches = some true) :
    ∃ comp r, c.getComposition req.composition = .ok comp ∧
      c.resourceClient.get (newSynthesisRef comp) req.resource = some r ∧
      r ∈ S.resources ∧ ¬r.deleted ∧
      ∀ q ∈ S.resources, q.readinessGroup < r.readinessGroup → Between S q r →
        HadReady (run World.init evs) q := by
  have hinv := inv_run inv_init hrun
  obtain ⟨w, hw', hcp⟩ := Option.map_eq_some'.mp hw
  obtain ⟨comp, r, hcomp, hr, hrS, -, hwr, hpass⟩ :=
    passed_of_reconcile hinv hc (.inl (Option.isSome_iff_exists.mpr ⟨w, hw'⟩))
  have hd := hwr w hw' hcp
  exact ⟨comp, r, hcomp, hr, hrS, hd, fun q hq hlt hbet =>
    hadReady_of_passed hinv hq _ r (Int.self_le_toNat _) (hpass hd) hlt hbet⟩

/-! ### Concrete runs -/

/-- A fresh read of slices that hold one resource each, at index `0`. -/
def freshSlices (w : World) (n : NamespacedName) : List ResourceState := (w.live ⟨n, 0⟩).toList

theorem freshSlices_landed {w : World} (h : ∀ ref s, w.live ref = some s → (ref, s) ∈ w.landed)
    (n : NamespacedName) (i : Nat) (s : ResourceState) (hs : (freshSlices w n)[i]? = some s) :
    (⟨n, i⟩, s) ∈ w.landed := by
  cases hl : w.live ⟨n, 0⟩ with
  | none => simp [freshSlices, hl] at hs
  | some t =>
    cases i with
    | zero =>
      simp only [freshSlices, hl, Option.toList_some, List.getElem?_cons_zero,
        Option.some.injEq] at hs
      exact hs ▸ h _ _ hl
    | succ i => simp [freshSlices, hl] at hs

/-- A read of slices whose statuses are dense lists of `len` entries: at each index the state
written there, or the zero state where none has been. -/
def denseSlices (w : World) (len : Nat) (n : NamespacedName) : List ResourceState :=
  (List.range len).map fun i => (w.live ⟨n, i⟩).getD .zero

theorem denseSlices_landed {w : World} (h : ∀ ref s, w.live ref = some s → (ref, s) ∈ w.landed)
    (len : Nat) (n : NamespacedName) (i : Nat) (s : ResourceState)
    (hs : (denseSlices w len n)[i]? = some s) : s = .zero ∨ (⟨n, i⟩, s) ∈ w.landed := by
  simp only [denseSlices, List.getElem?_map] at hs
  obtain ⟨j, hj, rfl⟩ := Option.map_eq_some'.mp hs
  obtain ⟨hi, rfl⟩ := List.getElem?_eq_some.mp hj
  rw [List.getElem_range]
  cases hl : w.live ⟨n, i⟩ with
  | none => exact .inl (by simp [hl])
  | some t => exact .inr (by simpa [hl] using h _ _ hl)

/-- A test controller serves the synthesis when its resource is one of the synthesis, its
dependencies are the nearest group below, its last-seen version is the world's, and its slices
show written states or the zero state. -/
theorem serves_testController {w : World} {now : Time} {r : Resource} {lastSeen : String}
    {downstream : Except ApiError Object} {states : NamespacedName → List ResourceState}
    {req : Request} (hr : r ∈ S.resources)
    (hseen : ∀ x ∈ S.resources, lastSeen = w.lastSeen x.manifestRef)
    (hstates : ∀ n i s, (states n)[i]? = some s → s = .zero ∨ (⟨n, i⟩, s) ∈ w.landed) :
    Serves S w (testController now r (rangeDesc S) lastSeen downstream states) req :=
  ⟨fun n _ h i s hs => by cases h; exact hstates n i s hs,
   fun _ _ _ h => by cases h; exact hr,
   fun _ _ _ _ hq => (mem_rangeDesc S).mpr hq,
   hseen⟩

/-- A resource of a readiness group, in a slice of its own. -/
def groupMember (name : String) (group : Int) (deleted : Bool) : Resource :=
  { configMap with
    ref := { configMap.ref with name },
    manifestRef := { slice := { ns := "default", name }, index := 0 },
    readinessGroup := group, deleted }

/-- The first group. -/
def firstMember : Resource := groupMember "test-obj-0" 0 false

/-- A resource marked deleted, alone in the middle group. -/
def tombstone : Resource := groupMember "test-obj-1" 1 true

/-- The last group. -/
def lastMember : Resource := groupMember "test-obj-2" 2 false

/-- A synthesis of three groups whose middle one holds only a resource marked deleted. -/
def tombstoneSynthesis : SynthesisResources :=
  ⟨[firstMember, tombstone, lastMember], by decide⟩

/-- The work item of a resource. -/
def requestFor (r : Resource) : Request := { resource := r.ref, composition := testComposition.key }

/-- The tombstone is reconciled while its object is absent downstream, and its patch lands. -/
def tombstoneFirst : List Event :=
  [.reconcile (testController 1 tombstone (rangeDesc tombstoneSynthesis) "" (.error configMapNotFound)
      fun _ => []) (requestFor tombstone),
   .flush 0]

/-- The call on the last group, reading the slices fresh. -/
def lastCall : Controller :=
  testController 2 lastMember (rangeDesc tombstoneSynthesis) "" (.error configMapNotFound)
    (freshSlices (run World.init tombstoneFirst))

theorem tombstoneFirst_run : Run tombstoneSynthesis World.init tombstoneFirst :=
  ⟨serves_testController (by simp [tombstoneSynthesis]) (by decide) (by simp), trivial⟩

theorem lastCall_serves :
    Serves tombstoneSynthesis (run World.init tombstoneFirst) lastCall (requestFor lastMember) :=
  serves_testController (by simp [tombstoneSynthesis]) (by decide)
    fun n i s hs => .inr (freshSlices_landed (inv_run inv_init tombstoneFirst_run).live_landed n i s hs)

theorem tombstone_lets_higher_group_through :
    Run tombstoneSynthesis World.init tombstoneFirst ∧
      Serves tombstoneSynthesis (run World.init tombstoneFirst) lastCall (requestFor lastMember) ∧
      (reconcile lastCall (requestFor lastMember)).write.map Write.createsOrPatches = some true ∧
      ¬lastMember.deleted ∧ firstMember.readinessGroup < lastMember.readinessGroup ∧
      ¬HadReady (run World.init tombstoneFirst) firstMember := by
  refine ⟨tombstoneFirst_run, lastCall_serves, by decide, by decide, by decide, ?_⟩
  rintro ⟨s, hs, -⟩
  have hl : (run World.init tombstoneFirst).landed.map (·.1) = [tombstone.manifestRef] := by decide
  have hmem : firstMember.manifestRef ∈ [tombstone.manifestRef] := hl ▸ List.mem_map_of_mem _ hs
  exact absurd (List.mem_singleton.mp hmem) (by decide)

/-- A ConfigMap of `TestReadinessGroups`, at an index of the test's one slice. -/
def sliceMember (name : String) (index : Nat) (group : Int) : Resource :=
  { configMap with
    ref := { configMap.ref with name },
    manifestRef := { configMap.manifestRef with index },
    readinessGroup := group }

/-- `test-obj-0`, in group `0`. -/
def testObj0 : Resource := sliceMember "test-obj-0" 0 0

/-- `test-obj-1`, in group `2`, the last entry of the slice. -/
def testObj1 : Resource := sliceMember "test-obj-1" 2 2

/-- `test-obj-2`, in group `4`, the middle entry of the slice. -/
def testObj2 : Resource := sliceMember "test-obj-2" 1 4

/-- The ConfigMaps of `TestReadinessGroups`, in the order its synthesizer returns them. -/
def readinessGroups : SynthesisResources := ⟨[testObj0, testObj2, testObj1], by decide⟩

/-- The not-found error of a read of a ConfigMap absent downstream. -/
def notFoundError (r : Resource) : ApiError :=
  { notFound := true, message := "configmaps " ++ r.ref.name ++ " not found" }

/-- The controller of a call at time `now` on a ConfigMap of `readinessGroups` in the world `w`:
its cache has the world's last-seen versions, and it reads the status of the slice as the dense
list of its three entries. -/
def groupsController (now : Time) (r : Resource) (downstream : Except ApiError Object)
    (w : World) : Controller :=
  let c := testController now r (rangeDesc readinessGroups) "" downstream (denseSlices w 3)
  { c with resourceClient := { c.resourceClient with lastSeen := w.lastSeen } }

theorem serves_groupsController {w : World} (hinv : Inv readinessGroups w) {now : Time}
    {r : Resource} {downstream : Except ApiError Object} {req : Request}
    (hr : r ∈ readinessGroups.resources) :
    Serves readinessGroups w (groupsController now r downstream w) req :=
  ⟨fun n _ h i s hs => by cases h; exact denseSlices_landed hinv.live_landed 3 n i s hs,
   fun _ _ _ h => by cases h; exact hr,
   fun _ _ _ _ hq => (mem_rangeDesc _).mpr hq,
   fun _ _ => rfl⟩

/-- The call at time `now` on a ConfigMap of `readinessGroups`, in the world it meets. -/
def groupsCall (now : Time) (r : Resource) (downstream : Except ApiError Object) (w : World) :
    Event :=
  .reconcile (groupsController now r downstream w) (requestFor r)

/-- The events of a run in which each event is made in the world it meets. -/
def schedule : World → List (World → Event) → List Event
  | _, [] => []
  | w, f :: fs => f w :: schedule (step w (f w)) fs

/-- A schedule whose every event is admitted by every world that keeps the invariant is a run. -/
theorem run_schedule {w : World} {fs : List (World → Event)} (hinv : Inv S w)
    (hfs : ∀ f ∈ fs, ∀ w', Inv S w' → Run S w' [f w']) : Run S w (schedule w fs) := by
  induction fs generalizing w with
  | nil => trivial
  | cons f fs ih =>
    have hf := hfs f (List.mem_cons_self f fs) w hinv
    have hrest := fun g hg => hfs g (List.mem_cons_of_mem f hg)
    simp only [schedule]
    revert hf
    cases f w with
    | reconcile c req => exact fun hf => ⟨hf.1, ih (hinv.reconcile hf.1) hrest⟩
    | flush i => exact fun _ => ih (hinv.flush i) hrest

/-- `TestReadinessGroups` up to the creation of `test-obj-2`: `test-obj-0` is created, reconciled
again with its object present, and its patch lands; then the same for `test-obj-1`. -/
def groupsRun : List Event :=
  schedule World.init
    [groupsCall 1 testObj0 (.error (notFoundError testObj0)),
     groupsCall 2 testObj0 (.ok (configMapAt "1")), fun _ => .flush 0,
     groupsCall 3 testObj1 (.error (notFoundError testObj1)),
     groupsCall 4 testObj1 (.ok (configMapAt "2")), fun _ => .flush 0]

/-- The call that creates `test-obj-2`, reading the slice after both patches have landed. -/
def lastGroupCall : Controller :=
  groupsController 5 testObj2 (.error (notFoundError testObj2)) (run World.init groupsRun)

theorem groupsRun_run : Run readinessGroups World.init groupsRun := by
  refine run_schedule inv_init fun f hf w hinv => ?_
  simp only [List.mem_cons, List.not_mem_nil, or_false] at hf
  rcases hf with rfl | rfl | rfl | rfl | rfl | rfl <;>
    first
    | trivial
    | exact ⟨serves_groupsController hinv (by simp [readinessGroups]), trivial⟩

theorem reconcile_creates_after_lower_groups_ready_dense :
    denseSlices (run World.init groupsRun) 3 configMap.manifestRef.slice =
        [{ reconciled := true, ready := some 2, deleted := false }, .zero,
          { reconciled := true, ready := some 4, deleted := false }] ∧
      (reconcile lastGroupCall (requestFor testObj2)).write.map Write.createsOrPatches =
        some true ∧
      HadReady (run World.init groupsRun) testObj0 ∧ HadReady (run World.init groupsRun) testObj1 := by
  have hw : (reconcile lastGroupCall (requestFor testObj2)).write.map Write.createsOrPatches =
      some true := by decide
  obtain ⟨_, r, -, hr, -, -, hready⟩ := reconcile_creates_after_lower_groups_ready groupsRun_run
    (serves_groupsController (inv_run inv_init groupsRun_run) (by simp [readinessGroups])) hw
  obtain rfl : testObj2 = r := Option.some.inj hr
  have hnd : ∀ y ∈ readinessGroups.resources, ¬y.deleted := by decide
  have hbetween : ∀ q, Between readinessGroups q testObj2 := fun _ y hy _ _ =>
    ⟨y, hy, rfl, hnd y hy⟩
  exact ⟨by decide, hw, hready testObj0 (by simp [readinessGroups]) (by decide) (hbetween _),
    hready testObj1 (by simp [readinessGroups]) (by decide) (hbetween _)⟩

/-- The ConfigMap as the only resource of a synthesis. -/
def configMapSynthesis : SynthesisResources := ⟨[configMap], by decide⟩

/-- Two calls on the ConfigMap, at times `1` and `2`, each followed by the landing of its patch.
The object changed downstream between the calls, and the second call read the slice before the
first call's patch landed. -/
def readyRun : List Event :=
  [.reconcile (testController 1 configMap (rangeDesc configMapSynthesis) "" (.ok (configMapAt "1"))
      fun _ => []) probeRequest,
   .flush 0,
   .reconcile (testController 2 configMap (rangeDesc configMapSynthesis) "1" (.ok (configMapAt "2"))
      fun _ => []) probeRequest,
   .flush 0]

theorem ready_time_rewritten :
    Run configMapSynthesis World.init readyRun ∧
      (run World.init (readyRun.take 2)).live configMap.manifestRef =
        some { deleted := false, ready := some 1, reconciled := true } ∧
      (run World.init readyRun).live configMap.manifestRef =
        some { deleted := false, ready := some 2, reconciled := true } :=
  ⟨⟨serves_testController (by simp [configMapSynthesis]) (by decide) (by simp),
    serves_testController (by simp [configMapSynthesis]) (by decide) (by simp), trivial⟩,
   by decide, by decide⟩

/-! ### The version cache along a run -/

/-- The event is a call that records a version for the reference. -/
def Event.records (ref : ManifestRef) : Event → Bool
  | .reconcile c req => (Reconciliation.reconcile c req).observed.map (·.1) = some ref
  | .flush _ => false

/-- Events that record no version for a reference leave its last-seen version. -/
theorem lastSeen_run {w : World} {ref : ManifestRef} {evs : List Event}
    (h : ∀ e ∈ evs, e.records ref = false) : (run w evs).lastSeen ref = w.lastSeen ref := by
  induction evs generalizing w with
  | nil => rfl
  | cons e evs ih =>
    have hstep : (step w e).lastSeen ref = w.lastSeen ref := by
      have he := h e (List.mem_cons_self _ _)
      cases e with
      | flush i =>
        rcases flush_cases w i with h' | ⟨r, fn, -, h' | ⟨s, h'⟩⟩ <;> simp [step, h']
      | reconcile c req =>
        rcases hobs : (reconcile c req).observed with _ | ⟨ref', v⟩
        · simp [step, applyOutcome, hobs]
        · have hne : ref' ≠ ref := by simpa [Event.records, hobs] using he
          simp [step, applyOutcome, hobs, Function.update_noteq (Ne.symm hne)]
    exact (ih fun e' he' => h e' (List.mem_cons_of_mem _ he')).trans hstep

/-- A downstream write that succeeds invalidates the version cache: until a call records a
version for the resource again, every call on it, under any controller that serves the
synthesis, reads the object in full, as with no versions recorded. -/
theorem getCurrent_plain_after_write {w : World} {c : Controller} {req : Request}
    (hc : Serves S w c req) {wr : Write} (hw : (reconcile c req).write = some wr)
    (hok : c.applyWrite wr = .ok ()) :
    ∃ comp r, c.getComposition req.composition = .ok comp ∧
      c.resourceClient.get (newSynthesisRef comp) req.resource = some r ∧
      ∀ evs : List Event, (∀ e ∈ evs, e.records r.manifestRef = false) →
        ∀ c' req', Serves S (run (step w (.reconcile c req)) evs) c' req' →
          getCurrent c' r = getCurrent c'.forgetSeen r := by
  obtain ⟨comp, r, hcomp, hr, hobs⟩ := reconcile_observed_of_applyWrite hw hok
  refine ⟨comp, r, hcomp, hr, fun evs hevs c' _ hc' => ?_⟩
  have hseen : c'.resourceClient.hasBeenSeen r = false := by
    simp [ResourceClient.hasBeenSeen, hc'.lastSeen_eq r (hc.get_mem comp r hcomp hr), lastSeen_run hevs,
      step, applyOutcome, hobs]
  exact (getCurrent_forgetSeen fun h => absurd h (by simp [hseen])).symm

/-- The call that creates the ConfigMap, absent downstream. -/
def createCall : Controller :=
  testController 1 configMap (rangeDesc configMapSynthesis) "" (.error configMapNotFound)
    fun _ => []

theorem getCurrent_plain_after_create :
    ∃ comp r, createCall.getComposition probeRequest.composition = .ok comp ∧
      createCall.resourceClient.get (newSynthesisRef comp) probeRequest.resource = some r ∧
      ∀ evs : List Event, (∀ e ∈ evs, e.records r.manifestRef = false) →
        ∀ c' req', Serves configMapSynthesis
            (run (step World.init (.reconcile createCall probeRequest)) evs) c' req' →
          getCurrent c' r = getCurrent c'.forgetSeen r :=
  getCurrent_plain_after_write
    (serves_testController (by simp [configMapSynthesis]) (by decide) (by simp)) rfl rfl

end Eno.Reconciliation

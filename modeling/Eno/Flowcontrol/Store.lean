import Eno.Flowcontrol.Synthesis
import Mathlib.Data.List.Nodup

/-!
# The API server's compositions and the limiter's status patch

The limiter sends its patch with `c.client.Status().Patch(ctx, next, client.RawPatch(
types.JSONPatchType, patchJS))`: the API server looks the composition up by `next`'s key,
applies the JSON patch to its current document, all operations or none, and keeps the status
of the result. This file models that store and that application, as far as the one member the
limiter writes.

A `Store` holds at most one composition for each key; every update keeps the keys, so no
operation can break this. `applyPatch` applies RFC 6902 `test` and `add` on
`/status/currentSynthesis/uuid`; Go omits an empty UUID from the document (`omitempty`), so
testing it against `null` succeeds exactly when the slot exists with an empty UUID.

## Main definitions

* `Flowcontrol.Store`, `Flowcontrol.Store.modifyStatus`, `Flowcontrol.Store.create`,
  `Flowcontrol.Store.delete`.
* `Flowcontrol.applyOp`, `Flowcontrol.applyPatch`, `Flowcontrol.Store.patchStatus`.

## Main results

* `Flowcontrol.applyPatch_dispatchPatch`: the dispatch patch succeeds exactly on a current slot
  with an empty UUID, and then only sets that UUID.
* `Flowcontrol.Store.patchStatus_dispatchPatch`: a successful dispatch changes the one
  composition with the patched key, from an empty UUID to the fresh one, and nothing else.

## References

* `src/internal/controllers/flowcontrol/synthesis.go`, lines 77–90.
-/

namespace Eno.Flowcontrol

open Api Composition

/-! ### Setting the UUID of a current slot -/

/-- The status with the UUID of its current slot, if any, set to `u`. -/
def setUuid (u : String) (st : CompositionStatus) : CompositionStatus :=
  { st with currentSynthesis := st.currentSynthesis.map fun s => { s with uuid := u } }

@[simp] theorem setUuid_previousSynthesis (u : String) (st : CompositionStatus) :
    (setUuid u st).previousSynthesis = st.previousSynthesis := rfl

@[simp] theorem setUuid_currentSynthesis (u : String) (st : CompositionStatus) :
    (setUuid u st).currentSynthesis = st.currentSynthesis.map fun s => { s with uuid := u } := rfl

/-! ### The store -/

/-- The compositions the API server holds, at most one for each key. -/
structure Store where
  items : List Composition
  nodup : (items.map Composition.key).Nodup

namespace Store

/-- The composition stored under a key. -/
def find? (s : Store) (k : NamespacedName) : Option Composition := s.items.find? (·.key = k)

/-- The composition under `k`, if any, with its status replaced by `f` of it. -/
def modifyStatus (s : Store) (k : NamespacedName) (f : CompositionStatus → CompositionStatus) :
    Store where
  items := s.items.map fun d => if d.key = k then { d with status := f d.status } else d
  nodup := by
    rw [List.map_map]
    convert s.nodup using 2
    funext d
    by_cases h : d.key = k <;> simp [h]

/-- A user creates a composition; the API server refuses a key it already holds. -/
def create (s : Store) (c : Composition) : Store :=
  if h : c.key ∈ s.items.map Composition.key then s
  else ⟨s.items ++ [c], by simpa [List.nodup_append, s.nodup] using h⟩

/-- A composition is deleted. -/
def delete (s : Store) (k : NamespacedName) : Store where
  items := s.items.filter (·.key ≠ k)
  nodup := s.nodup.sublist ((List.filter_sublist _).map _)

theorem ext {s t : Store} (h : s.items = t.items) : s = t := by
  cases s; cases t; cases h; rfl

/-- Two status updates that agree on the composition under `k` give the same store. -/
theorem modifyStatus_congr {s : Store} {k : NamespacedName}
    {f g : CompositionStatus → CompositionStatus}
    (h : ∀ d ∈ s.items, d.key = k → f d.status = g d.status) :
    s.modifyStatus k f = s.modifyStatus k g := by
  refine Store.ext (List.map_congr_left fun d hd => ?_)
  by_cases hk : d.key = k <;> simp [hk, h d hd]

theorem mem_of_find? {s : Store} {k : NamespacedName} {c : Composition}
    (h : s.find? k = some c) : c ∈ s.items ∧ c.key = k :=
  ⟨List.mem_of_find?_eq_some h, by simpa using List.find?_some h⟩

/-- Two compositions of a store with the same key are the same. -/
theorem eq_of_key_eq {s : Store} {c d : Composition} (hc : c ∈ s.items) (hd : d ∈ s.items)
    (h : d.key = c.key) : d = c :=
  List.inj_on_of_nodup_map s.nodup hd hc h

theorem find?_eq_some_of_mem {s : Store} {c : Composition} (hc : c ∈ s.items) :
    s.find? c.key = some c := by
  rcases h : s.find? c.key with _ | d
  · exact absurd rfl ((by simpa [find?] using h : ∀ x ∈ s.items, ¬x.key = c.key) c hc)
  · obtain ⟨hd, hk⟩ := mem_of_find? h
    rw [eq_of_key_eq hc hd hk]

theorem mem_modifyStatus {s : Store} {k : NamespacedName}
    {f : CompositionStatus → CompositionStatus} {d : Composition} (hd : d ∈ s.items) :
    (if d.key = k then { d with status := f d.status } else d) ∈ (s.modifyStatus k f).items :=
  List.mem_map_of_mem _ hd

theorem mem_modifyStatus_of_ne {s : Store} {k : NamespacedName}
    {f : CompositionStatus → CompositionStatus} {d : Composition} (hd : d ∈ s.items)
    (hk : d.key ≠ k) : d ∈ (s.modifyStatus k f).items := by
  simpa [hk] using mem_modifyStatus (k := k) (f := f) hd

/-! ### Counting active compositions -/

/-- A status update under which no composition becomes active does not raise the count. -/
theorem activeCount_modifyStatus_le {s : Store} {k : NamespacedName}
    {f : CompositionStatus → CompositionStatus}
    (hf : ∀ d : Composition, ({ d with status := f d.status } : Composition).IsActive → d.IsActive) :
    activeCount (s.modifyStatus k f).items ≤ activeCount s.items := by
  simp only [activeCount, modifyStatus, List.countP_map]
  refine List.countP_mono_left fun d _ => ?_
  by_cases hk : d.key = k <;> simp [hk]
  exact hf d

/-- A status update of one key raises the count of active compositions by at most one. -/
theorem activeCount_modifyStatus_le_succ (s : Store) (k : NamespacedName)
    (f : CompositionStatus → CompositionStatus) :
    activeCount (s.modifyStatus k f).items ≤ activeCount s.items + 1 := by
  obtain ⟨l, hl⟩ := s
  simp only [activeCount, modifyStatus]
  induction l with
  | nil => simp
  | cons x xs ih =>
    obtain ⟨hx, hxs⟩ := List.nodup_cons.mp hl
    by_cases hk : x.key = k
    · have htail : (xs.map fun d => if d.key = k then { d with status := f d.status } else d) = xs := by
        conv_rhs => rw [← List.map_id xs]
        refine List.map_congr_left fun d hd => if_neg fun h => hx ?_
        rw [hk, ← h]
        exact List.mem_map_of_mem _ hd
      simp only [List.map_cons, hk, if_true, htail, List.countP_cons]
      split_ifs <;> omega
    · simp only [List.map_cons, hk, if_false, List.countP_cons]
      have := ih hxs
      split_ifs <;> omega

/-! ### The UUID of a current slot -/

/-- The UUID of the current slot of the composition under `k`, if both exist. -/
def slotUuid (s : Store) (k : NamespacedName) : Option String :=
  (s.find? k).bind fun c => c.status.currentSynthesis.map (·.uuid)

theorem slotUuid_eq_some_iff {s : Store} {k : NamespacedName} {u : String} :
    s.slotUuid k = some u ↔
      ∃ d ∈ s.items, d.key = k ∧ d.status.currentSynthesis.map (·.uuid) = some u := by
  constructor
  · intro h
    obtain ⟨d, hd, hu⟩ := Option.bind_eq_some.mp h
    exact ⟨d, (mem_of_find? hd).1, (mem_of_find? hd).2, hu⟩
  · rintro ⟨d, hd, rfl, hu⟩
    simp [slotUuid, find?_eq_some_of_mem hd, hu]

end Store

/-! ### JSON patches on `/status/currentSynthesis/uuid` -/

/-- The member `/status/currentSynthesis/uuid` of a composition's JSON document: `none` when
the parent `currentSynthesis` is absent, `some none` when the member is absent (an empty UUID
is omitted), and `some (some u)` otherwise. -/
def uuidMember (c : Composition) : Option (Option String) :=
  c.status.currentSynthesis.map fun s => if s.uuid = "" then none else some s.uuid

/-- Modelled from the spec: the API server applies one RFC 6902 operation to a composition,
for the path the limiter writes (`test` compares the member with the value, `null` matching an
absent member; `add` sets it; both fail when the parent is missing). Other paths and
operations are outside the model and fail. -/
def applyOp (c : Composition) (o : PatchOp) : Except String Composition :=
  if o.path ≠ uuidPath then .error ("unsupported path " ++ o.path)
  else
    match uuidMember c with
    | none => .error ("missing path " ++ o.path)
    | some v =>
      if o.op = "test" then
        if v = o.value then .ok c else .error ("testing value " ++ o.path ++ " failed")
      else if o.op = "add" then .ok { c with status := setUuid (o.value.getD "") c.status }
      else .error ("unsupported operation " ++ o.op)

/-- The API server applies a JSON patch: every operation in turn, or none. -/
def applyPatch (c : Composition) (ops : List PatchOp) : Except String Composition :=
  ops.foldlM applyOp c

/-- The status subresource patch on the composition under `k`: not found, the patch's error,
or the store with that composition's status replaced by the patched one. -/
def Store.patchStatus (s : Store) (k : NamespacedName) (ops : List PatchOp) :
    Except String Store :=
  match s.find? k with
  | none => .error "not found"
  | some c =>
    match applyPatch c ops with
    | .error e => .error e
    | .ok c' => .ok (s.modifyStatus k fun _ => c'.status)

theorem uuidMember_eq_none_iff {c : Composition} :
    uuidMember c = some none ↔ ∃ s, c.status.currentSynthesis = some s ∧ s.uuid = "" := by
  unfold uuidMember
  rcases c.status.currentSynthesis with _ | s
  · simp
  · by_cases h : s.uuid = "" <;> simp [h]

/-- The dispatch patch succeeds exactly on a current slot with an empty UUID, and then sets
that UUID and nothing else. -/
theorem applyPatch_dispatchPatch {c c' : Composition} {u : Uuid} :
    applyPatch c (dispatchPatch u) = .ok c' ↔
      (∃ s, c.status.currentSynthesis = some s ∧ s.uuid = "") ∧
        c' = { c with status := setUuid u.val c.status } := by
  rw [← uuidMember_eq_none_iff]
  rcases h : uuidMember c with _ | v
  · simp [applyPatch, dispatchPatch, applyOp, h, uuidPath, bind, Except.bind]
  · rcases v with _ | v
    · simp [applyPatch, dispatchPatch, applyOp, h, uuidPath, bind, Except.bind, pure,
        Except.pure, eq_comm]
    · simp [applyPatch, dispatchPatch, applyOp, h, uuidPath, bind, Except.bind]

/-- A successful dispatch changes exactly one composition of the store, the one under the
patched key, whose current slot had an empty UUID, and in it only that UUID. -/
theorem Store.patchStatus_dispatchPatch {s s' : Store} {k : NamespacedName} {u : Uuid}
    (h : s.patchStatus k (dispatchPatch u) = .ok s') :
    ∃ c ∈ s.items, c.key = k ∧ (∀ d ∈ s.items, d.key = k → d = c) ∧
      (∃ sy, c.status.currentSynthesis = some sy ∧ sy.uuid = "") ∧
      s' = s.modifyStatus k (setUuid u.val) := by
  unfold patchStatus at h
  rcases hf : s.find? k with _ | c
  · simp [hf] at h
  · obtain ⟨hc, rfl⟩ := Store.mem_of_find? hf
    rcases hp : applyPatch c (dispatchPatch u) with e | c'
    · simp [hf, hp] at h
    · simp only [hf, hp, Except.ok.injEq] at h
      obtain ⟨hslot, rfl⟩ := applyPatch_dispatchPatch.mp hp
      have huniq : ∀ d ∈ s.items, d.key = c.key → d = c := fun d hd => s.eq_of_key_eq hc hd
      refine ⟨c, hc, rfl, huniq, hslot, h.symm.trans (Store.modifyStatus_congr fun d hd hk => ?_)⟩
      rw [huniq d hd hk]

end Eno.Flowcontrol

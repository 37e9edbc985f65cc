import Eno.Api.V1

/-!
# One tick of the synthesis concurrency limiter

`synthesisConcurrencyLimiter.Reconcile` lists every composition, counts the current slots that
are *active* (a UUID and no synthesis yet) and collects those that are *pending* (no UUID and no
synthesis yet). Below the concurrency limit it picks one pending composition with
`rand.Intn` and sends the JSON patch that tests `/status/currentSynthesis/uuid` against `null`
and adds a fresh UUID there.

The loop over `list.Items` is `tally`, a left fold of `tallyStep` that appends to `pending` as
the source does; `tally_eq` reads it back as the number of active compositions and the
sublist of pending ones. `reconcile` is the decision a tick takes from the list it read: the
status patch it sends, if any. The call to the API server and what it does with the patch are
in `Eno.Flowcontrol.Store`.

## Main definitions

* `Flowcontrol.SynthesisConcurrencyLimiter`: the limit and the cooldown.
* `Flowcontrol.Uuid`: a value of `uuid.NewString()`, never empty.
* `Flowcontrol.dispatchPatch`: the test-and-add patch.
* `Flowcontrol.tally`, `Flowcontrol.reconcile`, `Flowcontrol.result`.

## Main results

* `Flowcontrol.tally_eq`: the loop counts the active compositions and keeps the pending ones
  in order.
* `Flowcontrol.reconcile_isSome_iff`, `Flowcontrol.reconcile_eq_some`,
  `Flowcontrol.exists_draw_reconcile`: a tick writes exactly when it is below the limit with a
  pending composition, writes the test-and-add patch to a pending composition, and can pick
  every pending composition.

## References

* `src/internal/controllers/flowcontrol/synthesis.go`, lines 19–94.
-/

namespace Eno.Flowcontrol

open Api

/-- The limiter's configuration (`synthesisConcurrencyLimiter`): the cap on active syntheses
and the delay, in nanoseconds, before the tick after a dispatch. -/
structure SynthesisConcurrencyLimiter where
  limit : Int
  cooldown : Int

/-- A value of `uuid.NewString()`: a random version-4 UUID, which is never the empty string. -/
structure Uuid where
  val : String
  ne_empty : val ≠ ""

/-- One operation of an RFC 6902 JSON patch as the limiter writes it, `map[string]any` with
the keys `op`, `path` and `value`; a `value` of `none` is JSON `null`. -/
structure PatchOp where
  op : String
  path : String
  value : Option String
  deriving DecidableEq, Repr

/-- The member of a composition that the limiter writes. -/
def uuidPath : String := "/status/currentSynthesis/uuid"

/-- The dispatch patch: test that the UUID is `null`, then add the fresh one. -/
def dispatchPatch (u : Uuid) : List PatchOp :=
  [{ op := "test", path := uuidPath, value := none },
   { op := "add", path := uuidPath, value := some u.val }]

/-- `rand.Intn(n)` for `0 < n`: the draw `r` of the random source, taken into `[0, n)`. -/
def randIntn (n r : Nat) : Nat := r % n

theorem randIntn_lt {n : Nat} (r : Nat) (h : 0 < n) : randIntn n r < n := Nat.mod_lt r h

theorem randIntn_self {n i : Nat} (h : i < n) : randIntn n i = i := Nat.mod_eq_of_lt h

/-! ### The loop over the listed compositions -/

/-- The counters of the loop: `active` and the slice `pending`. -/
structure Tally where
  active : Nat
  pending : List Composition

/-- One iteration of the loop over `list.Items`. -/
def tallyStep (t : Tally) (comp : Composition) : Tally :=
  match comp.status.currentSynthesis with
  | none => t
  | some current =>
    match current.synthesized with
    | some _ => t
    | none =>
      if current.uuid = "" then { t with pending := t.pending ++ [comp] }
      else { t with active := t.active + 1 }

/-- The loop over `list.Items`, from `active = 0` and an empty `pending`. -/
def tally (items : List Composition) : Tally := items.foldl tallyStep ⟨0, []⟩

/-- The compositions of a list whose current slot is pending, in list order. -/
def pendingOf (items : List Composition) : List Composition :=
  items.filter fun c => decide c.IsPending

theorem tallyStep_eq (t : Tally) (comp : Composition) :
    tallyStep t comp =
      ⟨t.active + (if comp.IsActive then 1 else 0),
        t.pending ++ (if comp.IsPending then [comp] else [])⟩ := by
  unfold tallyStep
  rcases h : comp.status.currentSynthesis with _ | ⟨uuid, i, syn, r, rd, f⟩
  · simp [Composition.not_isActive_of_none h, Composition.not_isPending_of_none h]
  · rcases syn with _ | t'
    · by_cases hu : uuid = "" <;>
        simp [hu, Composition.isActive_iff h, Composition.isPending_iff h,
          Synthesis.IsActive, Synthesis.IsPending]
    · simp [Composition.isActive_iff h, Composition.isPending_iff h,
        Synthesis.IsActive, Synthesis.IsPending]

theorem foldl_tallyStep (items : List Composition) (t : Tally) :
    items.foldl tallyStep t = ⟨t.active + Composition.activeCount items, t.pending ++ pendingOf items⟩ := by
  induction items generalizing t with
  | nil => simp [Composition.activeCount, pendingOf]
  | cons c cs ih =>
    rw [List.foldl_cons, ih, tallyStep_eq]
    by_cases ha : c.IsActive <;> by_cases hp : c.IsPending <;>
      simp [Composition.activeCount, pendingOf, List.countP_cons, ha, hp] <;> omega

/-- The loop counts the active compositions and keeps the pending ones in list order. -/
theorem tally_eq (items : List Composition) :
    tally items = ⟨Composition.activeCount items, pendingOf items⟩ := by
  simp [tally, foldl_tallyStep]

/-! ### The tick -/

/-- The status patch one `Reconcile` sends after listing `items`, with `draw` the value of the
random source and `u` the value of `uuid.NewString()`: the composition patched and the patch,
or `none` when the tick returns before the write. -/
def reconcile (c : SynthesisConcurrencyLimiter) (items : List Composition) (draw : Nat)
    (u : Uuid) : Option (Composition × List PatchOp) :=
  let t := tally items
  if c.limit ≤ t.active then none
  else if t.pending = [] then none
  else (t.pending[randIntn t.pending.length draw]?).map fun next => (next, dispatchPatch u)

/-- The `ctrl.Result` a tick returns, given whether the status patch it sent, if any, failed. -/
def result (c : SynthesisConcurrencyLimiter) (sent : Option (Composition × List PatchOp))
    (patched : Except String Unit) : Except String Result :=
  match sent, patched with
  | none, _ => .ok {}
  | some _, .error e => .error ("writing uuid to composition status: " ++ e)
  | some _, .ok () => .ok { requeue := true, requeueAfter := c.cooldown }

theorem reconcile_eq_none_iff (c : SynthesisConcurrencyLimiter) (items : List Composition)
    (draw : Nat) (u : Uuid) :
    reconcile c items draw u = none ↔
      c.limit ≤ Composition.activeCount items ∨ pendingOf items = [] := by
  simp only [reconcile, tally_eq]
  split_ifs with h₁ h₂
  · simp [h₁]
  · simp [h₂]
  · have hlt := randIntn_lt draw (List.length_pos.mpr h₂)
    simp [List.getElem?_eq_getElem hlt, h₁, h₂]

/-- A tick sends a status patch exactly when it is below the limit and some composition is
pending. -/
theorem reconcile_isSome_iff (c : SynthesisConcurrencyLimiter) (items : List Composition)
    (draw : Nat) (u : Uuid) :
    (reconcile c items draw u).isSome ↔
      (Composition.activeCount items : Int) < c.limit ∧ pendingOf items ≠ [] := by
  rw [← not_iff_not, Option.not_isSome_iff_eq_none, reconcile_eq_none_iff, not_and_or,
    Int.not_lt, not_not]

/-- What a tick sends is the dispatch patch, to a pending composition. -/
theorem reconcile_eq_some {c : SynthesisConcurrencyLimiter} {items : List Composition}
    {draw : Nat} {u : Uuid} {next : Composition} {patch : List PatchOp}
    (h : reconcile c items draw u = some (next, patch)) :
    next ∈ pendingOf items ∧ patch = dispatchPatch u := by
  simp only [reconcile, tally_eq] at h
  split_ifs at h
  obtain ⟨p, hp, hpe⟩ := Option.map_eq_some'.mp h
  cases hpe
  exact ⟨List.getElem?_mem hp, rfl⟩

/-- Below the limit, every pending composition is the one patched for some draw. -/
theorem exists_draw_reconcile (c : SynthesisConcurrencyLimiter) (items : List Composition)
    (u : Uuid) (hlim : (Composition.activeCount items : Int) < c.limit) {p : Composition}
    (hp : p ∈ pendingOf items) :
    ∃ draw, reconcile c items draw u = some (p, dispatchPatch u) := by
  obtain ⟨i, hi⟩ := List.mem_iff_getElem?.mp hp
  have hlt : i < (pendingOf items).length := (List.getElem?_eq_some_iff.mp hi).1
  refine ⟨i, ?_⟩
  simp only [reconcile, tally_eq, if_neg (Int.not_le.mpr hlim), if_neg (List.ne_nil_of_mem hp),
    randIntn_self hlt, hi, Option.map_some']

/-- One tick writes exactly when fewer compositions are active than the limit and some are
pending; the composition it patches is a pending one, every pending one can be drawn, and the
patch tests the UUID against `null` and adds the fresh one. -/
theorem reconcile_writes_one_pending (c : SynthesisConcurrencyLimiter) (items : List Composition)
    (u : Uuid) :
    (∀ draw, (reconcile c items draw u).isSome ↔
      (Composition.activeCount items : Int) < c.limit ∧ pendingOf items ≠ []) ∧
    (∀ draw next patch, reconcile c items draw u = some (next, patch) →
      next ∈ pendingOf items ∧
      patch = [{ op := "test", path := "/status/currentSynthesis/uuid", value := none },
               { op := "add", path := "/status/currentSynthesis/uuid", value := some u.val }]) ∧
    ((Composition.activeCount items : Int) < c.limit →
      ∀ p ∈ pendingOf items, ∃ draw, (reconcile c items draw u).map Prod.fst = some p) :=
  ⟨fun draw => reconcile_isSome_iff c items draw u,
   fun _ _ _ h => reconcile_eq_some h,
   fun hlim _ hp => (exists_draw_reconcile c items u hlim hp).imp fun _ h => by rw [h]; rfl⟩

/-- A composition with a pending current slot. -/
def pendingComposition (name : String) : Composition :=
  { key := ⟨"default", name⟩, status := { currentSynthesis := some {} } }

/-- A value of `uuid.NewString()`. -/
def uuidA : Uuid := ⟨"a", by decide⟩

/-- Another value of `uuid.NewString()`. -/
def uuidB : Uuid := ⟨"b", by decide⟩

theorem reconcile_writes_one_pending_second :
    (Composition.activeCount [pendingComposition "a", pendingComposition "b"] : Int) <
        (⟨1, 0⟩ : SynthesisConcurrencyLimiter).limit ∧
      pendingComposition "b" ∈ pendingOf [pendingComposition "a", pendingComposition "b"] ∧
      ∃ draw, (reconcile ⟨1, 0⟩ [pendingComposition "a", pendingComposition "b"] draw uuidA).map
        Prod.fst = some (pendingComposition "b") :=
  ⟨by decide, by decide,
    (reconcile_writes_one_pending ⟨1, 0⟩ _ uuidA).2.2 (by decide) _ (by decide)⟩

end Eno.Flowcontrol

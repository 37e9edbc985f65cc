import Eno.Flowcontrol.Cluster

/-!
# Progress and overshoot of the limiter

When the informer cache has caught up with the store before every tick, the limiter is
work-conserving: a tick below the limit with a pending composition dispatches one of them, and
the dispatch turns exactly that composition from pending to active. So `n` such ticks, with
nothing else happening, dispatch `min n (min pending (limit - active))` compositions
(`run_syncedTicks`): the number of active compositions rises and the number of pending ones
falls by that much, and every pending composition is dispatched once there are enough ticks and
room under the limit.

When the cache lags, the cap can be exceeded, but only by the ticks that read a cache missing
some of the limiter's own writes, each by at most one composition, whatever else happens in the
run (`activeCount_run_le_limit_add_staleTicks`): every other tick dispatches only below the
limit as the live store has it, since the other controllers never raise the number of active
compositions.

## Main definitions

* `Flowcontrol.syncedTicks`: ticks, each followed by the informer delivering its write.
* `Flowcontrol.staleTicks`: the number of ticks of a run that read a cache missing some of the
  limiter's own writes.

## Main results

* `Flowcontrol.Store.patchStatus_dispatchPatch_of_isPending`: the dispatch patch succeeds on
  every pending composition.
* `Flowcontrol.activeCount_dispatch`, `Flowcontrol.length_pendingOf_dispatch`.
* `Flowcontrol.run_syncedTicks`, `Flowcontrol.activeCount_run_le_limit_add_staleTicks`.

## References

* `src/internal/controllers/flowcontrol/synthesis.go`, lines 37–93.
-/

namespace Eno.Flowcontrol

open Api Composition

/-! ### A dispatch in the store -/

/-- Updating the status of a stored composition changes it in place and nothing else. -/
theorem Store.modifyStatus_eq_split {s : Store} {c : Composition} (hc : c ∈ s.items)
    (f : CompositionStatus → CompositionStatus) :
    ∃ l₁ l₂, s.items = l₁ ++ c :: l₂ ∧
      (s.modifyStatus c.key f).items = l₁ ++ { c with status := f c.status } :: l₂ := by
  obtain ⟨l₁, l₂, h⟩ := List.append_of_mem hc
  have hnd := s.nodup
  rw [h, List.map_append, List.map_cons, List.nodup_append, List.nodup_cons] at hnd
  obtain ⟨-, ⟨h₂, -⟩, hdisj⟩ := hnd
  have h₁ : c.key ∉ l₁.map Composition.key := fun hm => hdisj hm (List.mem_cons_self _ _)
  have hid : ∀ l : List Composition, c.key ∉ l.map Composition.key →
      l.map (fun d => if d.key = c.key then { d with status := f d.status } else d) = l :=
    fun l hl => (List.map_congr_left fun d hd =>
      if_neg fun (hk : d.key = c.key) => hl (hk ▸ List.mem_map_of_mem _ hd)).trans
        (List.map_id' l)
  refine ⟨l₁, l₂, h, ?_⟩
  simp only [Store.modifyStatus, h, List.map_append, List.map_cons, if_pos, hid l₁ h₁, hid l₂ h₂]

/-- The dispatch patch succeeds on every pending composition of the store. -/
theorem Store.patchStatus_dispatchPatch_of_isPending {s : Store} {c : Composition}
    (hc : c ∈ s.items) (hp : c.IsPending) (u : Uuid) :
    s.patchStatus c.key (dispatchPatch u) = .ok (s.modifyStatus c.key (setUuid u.val)) := by
  obtain ⟨sy, hsy, -, hu⟩ := hp
  have happly : applyPatch c (dispatchPatch u) = .ok { c with status := setUuid u.val c.status } :=
    applyPatch_dispatchPatch.mpr ⟨⟨sy, hsy, hu⟩, rfl⟩
  simp only [Store.patchStatus, Store.find?_eq_some_of_mem hc, happly]
  exact congrArg _ (Store.modifyStatus_congr fun d hd hk => by rw [s.eq_of_key_eq hc hd hk])

section Dispatch

variable {s : Store} {c : Composition} (hc : c ∈ s.items) (hp : c.IsPending) (u : Uuid)
include hc hp

/-- A dispatch turns the pending composition active. -/
theorem activeCount_dispatch :
    activeCount (s.modifyStatus c.key (setUuid u.val)).items = activeCount s.items + 1 := by
  obtain ⟨sy, hsy, hsyn, hu⟩ := hp
  obtain ⟨l₁, l₂, h, h'⟩ := Store.modifyStatus_eq_split hc (setUuid u.val)
  have hnot : ¬c.IsActive := fun ⟨sy', hsy', _, hu'⟩ => hu' (by simp_all)
  have hact : ({ c with status := setUuid u.val c.status } : Composition).IsActive :=
    ⟨{ sy with uuid := u.val }, by simp [hsy], hsyn, u.ne_empty⟩
  simp [activeCount, h, h', List.countP_append, List.countP_cons, hnot, hact]
  omega

/-- A dispatch takes the composition off the pending ones. -/
theorem length_pendingOf_dispatch :
    (pendingOf (s.modifyStatus c.key (setUuid u.val)).items).length + 1 =
      (pendingOf s.items).length := by
  obtain ⟨sy, hsy, hsyn, hu⟩ := hp
  obtain ⟨l₁, l₂, h, h'⟩ := Store.modifyStatus_eq_split hc (setUuid u.val)
  have hpend : c.IsPending := ⟨sy, hsy, hsyn, hu⟩
  have hnot : ¬({ c with status := setUuid u.val c.status } : Composition).IsPending := by
    rintro ⟨sy', hsy', -, hu'⟩
    simp only [setUuid_currentSynthesis, hsy, Option.map_some', Option.some.injEq] at hsy'
    subst hsy'
    exact u.ne_empty hu'
  simp [pendingOf, h, h', List.filter_append, List.filter_cons, hnot, hpend]
  omega

end Dispatch

/-! ### Ticks on a cache that has caught up -/

/-- The count of dispatches after one more tick that dispatches: one more active composition
and one fewer pending. -/
theorem min_dispatch_succ {a q n : Nat} {l : Int} (h : (a : Int) < l) :
    a + 1 + min n (min q (l - ((a + 1 : Nat) : Int)).toNat) =
        a + min (n + 1) (min (q + 1) (l - a).toNat) ∧
      q - min n (min q (l - ((a + 1 : Nat) : Int)).toNat) =
        q + 1 - min (n + 1) (min (q + 1) (l - a).toNat) := by
  have ht : (l - a).toNat = (l - ((a + 1 : Nat) : Int)).toNat + 1 := by omega
  rw [ht, Nat.succ_min_succ, Nat.succ_min_succ]
  omega

/-- Ticks, each followed by the informer delivering what the tick wrote. -/
def syncedTicks : List (Nat × Uuid) → List Event
  | [] => []
  | (draw, u) :: ds => .tick draw u :: .sync :: syncedTicks ds

/-- A tick on a cache that has caught up, once the informer has delivered its write: a dispatch
of a pending composition when there is one and room under the limit, and nothing otherwise. -/
theorem sync_step_tick_init (lim : SynthesisConcurrencyLimiter) (s : Store) (draw : Nat)
    (u : Uuid) :
    ((activeCount s.items : Int) < lim.limit ∧ pendingOf s.items ≠ [] →
      ∃ c ∈ pendingOf s.items,
        (step lim (Cluster.init s) (.tick draw u)).sync =
          Cluster.init (s.modifyStatus c.key (setUuid u.val))) ∧
    (¬((activeCount s.items : Int) < lim.limit ∧ pendingOf s.items ≠ []) →
      (step lim (Cluster.init s) (.tick draw u)).sync = Cluster.init s) := by
  constructor
  · intro hroom
    obtain ⟨⟨c, patch⟩, hr⟩ := Option.isSome_iff_exists.mp
      ((reconcile_isSome_iff lim s.items draw u).mpr hroom)
    obtain ⟨hc, rfl⟩ := reconcile_eq_some hr
    have hcs := List.mem_filter.mp hc
    refine ⟨c, hc, ?_⟩
    simp only [step, Cluster.init, hr, Cluster.store, latest,
      Store.patchStatus_dispatchPatch_of_isPending hcs.1 (of_decide_eq_true hcs.2), Cluster.push,
      Cluster.sync, List.nil_append]
  · intro hnone
    have hr : reconcile lim s.items draw u = none := by
      rw [← Option.not_isSome_iff_eq_none, reconcile_isSome_iff]
      exact hnone
    simp only [step, Cluster.init, hr, Cluster.sync]

/-- On a cache that catches up after every tick, and with nothing else happening, `n` ticks
dispatch `min n (min pending (limit - active))` compositions: the number of active compositions
rises by that much and the number of pending ones falls by that much. -/
theorem run_syncedTicks (lim : SynthesisConcurrencyLimiter) (s : Store) (ds : List (Nat × Uuid)) :
    ∃ s', run lim (Cluster.init s) (syncedTicks ds) = Cluster.init s' ∧
      activeCount s'.items = activeCount s.items +
        min ds.length (min (pendingOf s.items).length (lim.limit - activeCount s.items).toNat) ∧
      (pendingOf s'.items).length = (pendingOf s.items).length -
        min ds.length (min (pendingOf s.items).length (lim.limit - activeCount s.items).toNat) := by
  induction ds generalizing s with
  | nil => exact ⟨s, rfl, by simp, by simp⟩
  | cons du ds ih =>
    obtain ⟨draw, u⟩ := du
    obtain ⟨hdispatch, hidle⟩ := sync_step_tick_init lim s draw u
    have hunfold : run lim (Cluster.init s) (syncedTicks ((draw, u) :: ds)) =
        run lim (step lim (Cluster.init s) (.tick draw u)).sync (syncedTicks ds) := rfl
    by_cases hroom : (activeCount s.items : Int) < lim.limit ∧ pendingOf s.items ≠ []
    · obtain ⟨c, hc, hstep⟩ := hdispatch hroom
      have hcs := List.mem_filter.mp hc
      have ha := activeCount_dispatch hcs.1 (of_decide_eq_true hcs.2) u
      have hp := length_pendingOf_dispatch hcs.1 (of_decide_eq_true hcs.2) u
      obtain ⟨s', hrun, hact, hpend⟩ := ih (s.modifyStatus c.key (setUuid u.val))
      obtain ⟨h₁, h₂⟩ := min_dispatch_succ (n := ds.length) hroom.1
      refine ⟨s', by rw [hunfold, hstep, hrun], ?_, ?_⟩ <;>
        simp only [hact, hpend, List.length_cons, ha, ← hp]
      · exact h₁
      · exact h₂
    · obtain ⟨s', hrun, hact, hpend⟩ := ih s
      have hzero : (pendingOf s.items).length = 0 ∨ lim.limit ≤ activeCount s.items := by
        by_cases hp : pendingOf s.items = []
        · exact .inl (by simp [hp])
        · exact .inr (Int.not_lt.mp fun h => hroom ⟨h, hp⟩)
      have hnone : min (pendingOf s.items).length (lim.limit - activeCount s.items).toNat = 0 := by
        omega
      refine ⟨s', by rw [hunfold, hidle hroom, hrun], ?_, ?_⟩ <;>
        simp only [hact, hpend, hnone, List.length_cons, Nat.min_zero]

/-! ### Overshoot on a lagging cache -/

/-- The ticks of a run that read a cache missing some of the limiter's own writes. -/
def staleTicks (lim : SynthesisConcurrencyLimiter) : Cluster → List Event → Nat
  | _, [] => 0
  | w, e :: es => (if e.isTick ∧ ¬w.HasOwnWrites then 1 else 0) + staleTicks lim (step lim w e) es

/-- Every event keeps the backlog settling: no other controller raises the number of active
compositions. -/
theorem settles_step {lim : SynthesisConcurrencyLimiter} {w : Cluster}
    (h : Settles w.cache w.backlog) (e : Event) :
    Settles (step lim w e).cache (step lim w e).backlog := by
  cases e with
  | other o => exact settles_concat h fun _ => o.activeCount_apply_le w.store
  | sync => exact settles_sync h
  | tick draw u =>
    rcases step_tick_cases lim w draw u with h' | ⟨next, c, -, -, -, -, -, h'⟩ <;> rw [h']
    · exact h
    · exact settles_concat h nofun

/-- One event raises the number of active compositions above a bound at or over the limit only
if it is a tick that reads a cache missing some of the limiter's own writes, and then by one. -/
theorem activeCount_step_le {lim : SynthesisConcurrencyLimiter} {w : Cluster} {b : Int}
    (hset : Settles w.cache w.backlog) (hb : (activeCount w.store.items : Int) ≤ b)
    (hlim : lim.limit ≤ b) (e : Event) :
    (activeCount (step lim w e).store.items : Int) ≤
      b + (if e.isTick ∧ ¬w.HasOwnWrites then 1 else 0) := by
  cases e with
  | other o =>
    have := o.activeCount_apply_le w.store
    simp only [step, Cluster.store_push, Event.isTick]
    omega
  | sync => simpa [step, Event.isTick] using hb
  | tick draw u =>
    rcases step_tick_cases lim w draw u with h | ⟨next, c, hr, -, -, -, -, h⟩
    · rw [h]
      split_ifs <;> omega
    · have hone := Store.activeCount_modifyStatus_le_succ w.store c.key (setUuid u.val)
      rw [h, Cluster.store_push]
      by_cases hown : w.HasOwnWrites
      · have hroom := ((reconcile_isSome_iff lim w.cache.items draw u).mp (by simp [hr])).1
        have hcache : activeCount w.store.items ≤ activeCount w.cache.items :=
          activeCount_latest_le hset hown
        simp only [Event.isTick, hown, not_true_eq_false, and_false, if_false]
        omega
      · simp only [Event.isTick, hown, not_false_eq_true, and_self, if_true]
        omega

/-- Along every run, the number of active compositions exceeds a bound at or over the limit by
at most the number of ticks that read a cache missing some of the limiter's own writes. -/
theorem activeCount_run_le_add_staleTicks {lim : SynthesisConcurrencyLimiter} {w : Cluster}
    {b : Int} (hset : Settles w.cache w.backlog) (hb : (activeCount w.store.items : Int) ≤ b)
    (hlim : lim.limit ≤ b) (es : List Event) :
    (activeCount (run lim w es).store.items : Int) ≤ b + staleTicks lim w es := by
  induction es generalizing w b with
  | nil => simpa [staleTicks] using hb
  | cons e es ih =>
    have hstep := activeCount_step_le hset hb hlim e
    have := ih (settles_step hset e) hstep (by split_ifs <;> omega)
    have hrun : run lim w (e :: es) = run lim (step lim w e) es := rfl
    rw [hrun, staleTicks]
    split_ifs at this ⊢ <;> push_cast at this ⊢ <;> omega

/-- From a store under the limit, each tick that reads a cache missing some of the limiter's own
writes lets at most one composition past the limit, whatever else happens in the run. -/
theorem activeCount_run_le_limit_add_staleTicks (lim : SynthesisConcurrencyLimiter) (s : Store)
    (es : List Event) (h0 : (activeCount s.items : Int) ≤ lim.limit) :
    (activeCount (run lim (Cluster.init s) es).store.items : Int) ≤
      lim.limit + staleTicks lim (Cluster.init s) es :=
  activeCount_run_le_add_staleTicks (w := Cluster.init s) trivial h0 le_rfl es

theorem activeCount_run_le_limit_add_staleTicks_twoPending :
    (activeCount twoPending.items : Int) ≤ (⟨1, 0⟩ : SynthesisConcurrencyLimiter).limit ∧
      staleTicks ⟨1, 0⟩ (Cluster.init twoPending) [.tick 0 uuidA, .tick 1 uuidB] = 1 ∧
      (activeCount (run ⟨1, 0⟩ (Cluster.init twoPending)
        [.tick 0 uuidA, .tick 1 uuidB]).store.items : Int) ≤ 1 + 1 :=
  ⟨by decide, by decide,
    activeCount_run_le_limit_add_staleTicks ⟨1, 0⟩ twoPending _ (by decide)⟩

end Eno.Flowcontrol

import Mathlib.Data.List.Nodup

/-!
# Merge patches and `mungePatch`

A merge or strategic-merge patch is a JSON object. Before it is sent, `mungePatch` decodes it into
a `map[string]interface{}`, deletes the top-level `status`, sets `metadata.resourceVersion` to the
version of the object the patch was computed against, removes `metadata.creationTimestamp`, and
treats the patch as empty when at most one top-level member is left.

JSON values are `Json`; the members of a decoded object are a list of key/value pairs read with
`Json.getMember`, and the top-level map of `mungePatch` is a `JsonMap`, whose keys are distinct as
the keys of a Go map are. `json.Unmarshal` keeps the last of repeated keys (`JsonMap.ofList`).
The nested-field helpers follow `unstructured.SetNestedField` and
`unstructured.RemoveNestedField`: a `metadata` member that is not an object is left as it is.

The check `len(patchMap) <= 1` counts top-level members only. A patch whose only change is in
`metadata`, such as a new label, has one top-level member after the resource version is set, and
is dropped (`mungePatch_labelPatch`). In general the patch is dropped exactly when it has no
top-level member besides `status` and `metadata` (`mungePatch_eq_ok_none_iff`), and otherwise it
is sent with the resource version set, `status` and `metadata.creationTimestamp` removed, and
every other member as decoded (`mungePatch_eq_ok_some`).

## Main definitions

* `Reconciliation.Json`, `Reconciliation.JsonMap`.
* `Reconciliation.setNestedField`, `Reconciliation.removeNestedField`,
  `Reconciliation.setResourceVersion`.
* `Reconciliation.mungePatch`.

## Main results

* `Reconciliation.mungePatch_labelPatch`, `Reconciliation.mungePatch_eq_ok_none_iff`,
  `Reconciliation.mungePatch_eq_ok_some`.

## References

* `src/internal/controllers/reconciliation/ordering_test.go`, lines 529–550 (`mungePatch`).
-/

namespace Eno.Reconciliation

/-- A JSON value as `encoding/json` decodes it into an `interface{}`. A number is kept as an exact
integer, where `encoding/json` decodes every number into a `float64`; no statement of this
development reads the value of a number. -/
inductive Json where
  | null
  | bool (b : Bool)
  | num (n : Int)
  | str (s : String)
  | arr (xs : List Json)
  | obj (kvs : List (String × Json))
  deriving Repr, Inhabited

namespace Json

/-- `m[k]` on the members of an object. -/
def getMember (kvs : List (String × Json)) (k : String) : Option Json :=
  (kvs.find? (·.1 = k)).map (·.2)

/-- `delete(m, k)` on the members of an object. -/
def eraseMember (kvs : List (String × Json)) (k : String) : List (String × Json) :=
  kvs.filter (·.1 ≠ k)

/-- `m[k] = v` on the members of an object. -/
def setMember (kvs : List (String × Json)) (k : String) (v : Json) : List (String × Json) :=
  eraseMember kvs k ++ [(k, v)]

@[simp] theorem getMember_nil (k : String) : getMember [] k = none := rfl

theorem getMember_cons (k k' : String) (v : Json) (kvs : List (String × Json)) :
    getMember ((k', v) :: kvs) k = if k' = k then some v else getMember kvs k := by
  by_cases h : k' = k <;> simp [getMember, h]

@[simp] theorem getMember_eraseMember_self (kvs : List (String × Json)) (k : String) :
    getMember (eraseMember kvs k) k = none := by
  simp [getMember, eraseMember]

theorem getMember_eraseMember_of_ne (kvs : List (String × Json)) {k k' : String} (h : k' ≠ k) :
    getMember (eraseMember kvs k) k' = getMember kvs k' := by
  induction kvs with
  | nil => rfl
  | cons p kvs ih =>
    obtain ⟨a, v⟩ := p
    rw [getMember_cons, ← ih]
    by_cases hp : a = k
    · subst hp
      have hne : a ≠ k' := fun h' => h h'.symm
      simp [eraseMember, hne]
    · simp [eraseMember, hp, getMember_cons]

@[simp] theorem getMember_setMember_self (kvs : List (String × Json)) (k : String) (v : Json) :
    getMember (setMember kvs k v) k = some v := by
  simp [getMember, setMember, eraseMember, List.find?_append]

theorem getMember_setMember_of_ne (kvs : List (String × Json)) {k k' : String} (v : Json)
    (h : k' ≠ k) : getMember (setMember kvs k v) k' = getMember kvs k' := by
  rw [← getMember_eraseMember_of_ne kvs h]
  simp [setMember, getMember, List.find?_append, Ne.symm h]

theorem getMember_append (l₁ l₂ : List (String × Json)) (k : String) :
    getMember (l₁ ++ l₂) k = (getMember l₁ k).or (getMember l₂ k) := by
  simp only [getMember, List.find?_append]
  cases List.find? (fun p => decide (p.1 = k)) l₁ <;> rfl

theorem mem_keys_eraseMember {kvs : List (String × Json)} {k k' : String} :
    k' ∈ (eraseMember kvs k).map (·.1) ↔ k' ∈ kvs.map (·.1) ∧ k' ≠ k := by
  simp only [eraseMember, List.mem_map, List.mem_filter]
  constructor
  · rintro ⟨p, ⟨hp, hk⟩, rfl⟩
    exact ⟨⟨p, hp, rfl⟩, by simpa using hk⟩
  · rintro ⟨⟨p, hp, rfl⟩, hk⟩
    exact ⟨p, ⟨hp, by simpa using hk⟩, rfl⟩

end Json

open Json

/-- A `map[string]interface{}` as `json.Unmarshal` fills it: members with distinct keys. -/
structure JsonMap where
  entries : List (String × Json)
  nodup : (entries.map (·.1)).Nodup

namespace JsonMap

/-- The empty map. -/
def empty : JsonMap := ⟨[], List.nodup_nil⟩

/-- `m[k]`. -/
def get? (m : JsonMap) (k : String) : Option Json := getMember m.entries k

/-- `delete(m, k)`. -/
def erase (m : JsonMap) (k : String) : JsonMap :=
  ⟨eraseMember m.entries k, m.nodup.sublist ((List.filter_sublist _).map _)⟩

/-- `m[k] = v`. -/
def insert (m : JsonMap) (k : String) (v : Json) : JsonMap :=
  ⟨setMember m.entries k v, by
    rw [setMember, List.map_append, List.nodup_append]
    refine ⟨(m.erase k).nodup, List.nodup_singleton _, ?_⟩
    simp only [List.map_cons, List.map_nil, List.disjoint_singleton, mem_keys_eraseMember]
    exact fun h => h.2 rfl⟩

/-- `len(m)`. -/
def size (m : JsonMap) : Nat := m.entries.length

/-- The map `json.Unmarshal` decodes from the members of an object: the last of repeated keys
wins. -/
def ofList (kvs : List (String × Json)) : JsonMap :=
  kvs.foldl (fun m p => m.insert p.1 p.2) empty

@[simp] theorem get?_erase_self (m : JsonMap) (k : String) : (m.erase k).get? k = none :=
  getMember_eraseMember_self _ _

theorem get?_erase_of_ne (m : JsonMap) {k k' : String} (h : k' ≠ k) :
    (m.erase k).get? k' = m.get? k' :=
  getMember_eraseMember_of_ne _ h

@[simp] theorem get?_insert_self (m : JsonMap) (k : String) (v : Json) :
    (m.insert k v).get? k = some v :=
  getMember_setMember_self _ _ _

theorem get?_insert_of_ne (m : JsonMap) {k k' : String} (v : Json) (h : k' ≠ k) :
    (m.insert k v).get? k' = m.get? k' :=
  getMember_setMember_of_ne _ _ h

theorem get?_foldl_insert (kvs : List (String × Json)) (m : JsonMap) (k : String) :
    (kvs.foldl (fun m p => m.insert p.1 p.2) m).get? k = (getMember kvs.reverse k).or (m.get? k) := by
  induction kvs generalizing m with
  | nil => rfl
  | cons p kvs ih =>
    rw [List.foldl_cons, ih, List.reverse_cons, getMember_append, Option.or_assoc]
    congr 1
    by_cases h : k = p.1
    · subst h
      rw [get?_insert_self, getMember_cons, if_pos rfl]
      rfl
    · rw [get?_insert_of_ne _ _ h, getMember_cons, if_neg (Ne.symm h)]
      rfl

/-- Decoding keeps, for each key, the last member with that key. -/
theorem get?_ofList (kvs : List (String × Json)) (k : String) :
    (ofList kvs).get? k = getMember kvs.reverse k := by
  rw [ofList, get?_foldl_insert]
  exact Option.or_none

theorem mem_keys_erase {m : JsonMap} {k k' : String} :
    k' ∈ (m.erase k).entries.map (·.1) ↔ k' ∈ m.entries.map (·.1) ∧ k' ≠ k :=
  mem_keys_eraseMember

theorem mem_keys_insert {m : JsonMap} {k k' : String} {v : Json} :
    k' ∈ (m.insert k v).entries.map (·.1) ↔ k' ∈ m.entries.map (·.1) ∨ k' = k := by
  simp only [insert, setMember, List.map_append, List.mem_append, List.map_cons, List.map_nil,
    List.mem_singleton]
  rw [mem_keys_eraseMember]
  by_cases h : k' = k <;> simp [h]

theorem mem_keys_ofList {kvs : List (String × Json)} {k : String} :
    k ∈ (ofList kvs).entries.map (·.1) ↔ k ∈ kvs.map (·.1) := by
  suffices ∀ m : JsonMap, k ∈ (kvs.foldl (fun m p => m.insert p.1 p.2) m).entries.map (·.1) ↔
      k ∈ m.entries.map (·.1) ∨ k ∈ kvs.map (·.1) by
    simpa [ofList, empty] using this empty
  induction kvs with
  | nil => simp
  | cons p kvs ih =>
    intro m
    rw [List.foldl_cons, ih, mem_keys_insert]
    simp only [List.map_cons, List.mem_cons]
    tauto

end JsonMap

/-! ### The nested-field helpers of `unstructured` -/

/-- `unstructured.SetNestedField(m, v, field, key)`: sets `key` in the object `field`, creating
it when absent or `null`; a `field` holding anything else is left as it is (the error is
ignored). -/
def setNestedField (m : JsonMap) (field key : String) (v : Json) : JsonMap :=
  match m.get? field with
  | some (.obj kvs) => m.insert field (.obj (setMember kvs key v))
  | none | some .null => m.insert field (.obj [(key, v)])
  | some _ => m

/-- `unstructured.RemoveNestedField(m, field, key)`: removes `key` from the object `field`, if
`field` is an object. -/
def removeNestedField (m : JsonMap) (field key : String) : JsonMap :=
  match m.get? field with
  | some (.obj kvs) => m.insert field (.obj (eraseMember kvs key))
  | _ => m

/-- `Unstructured.SetResourceVersion(rv)`: an empty version removes the member. -/
def setResourceVersion (m : JsonMap) (rv : String) : JsonMap :=
  if rv = "" then removeNestedField m "metadata" "resourceVersion"
  else setNestedField m "metadata" "resourceVersion" (.str rv)

/-- The message of a `reconcile.TerminalError`. -/
def terminalError (msg : String) : String := "terminal error: " ++ msg

/-- The name `encoding/json` gives the type of a value it cannot decode into a map. -/
def Json.typeName : Json → String
  | .bool _ => "bool"
  | .num _ => "number"
  | .str _ => "string"
  | .arr _ => "array"
  | .null | .obj _ => "object"

/-- The message of `json.Unmarshal` when the patch is not a JSON object. -/
def unmarshalError (patch : Json) : String :=
  "json: cannot unmarshal " ++ patch.typeName ++ " into Go value of type map[string]interface \x7b\x7d"

/-- `mungePatch(patch, rv)`: `none` is the empty patch (`nil, nil`), `some m` the patch marshalled
from `m`. A `null` patch decodes to a nil map, which stays empty. -/
def mungePatch (patch : Json) (rv : String) : Except String (Option JsonMap) :=
  match patch with
  | .null => .ok none
  | .obj kvs =>
    let patchMap := (JsonMap.ofList kvs).erase "status"
    let patchMap := setResourceVersion patchMap rv
    let patchMap := removeNestedField patchMap "metadata" "creationTimestamp"
    if patchMap.size ≤ 1 then .ok none else .ok (some patchMap)
  | _ => .error (terminalError (unmarshalError patch))

/-! ### What `mungePatch` keeps and sets -/

namespace Json

/-- The members of an object value; any other value, or none, has none. -/
def objectMembers : Option Json → List (String × Json)
  | some (.obj kvs) => kvs
  | _ => []

/-- A value that `SetNestedField` descends into or replaces: an object or `null`. -/
def IsObjectOrNull : Option Json → Prop
  | some (.obj _) | some .null | none => True
  | some _ => False

end Json

namespace JsonMap

theorem mem_keys_of_get?_eq_some {m : JsonMap} {k : String} {v : Json} (h : m.get? k = some v) :
    k ∈ m.entries.map (·.1) := by
  obtain ⟨p, hp, rfl⟩ := Option.map_eq_some'.mp h
  exact List.mem_map.mpr ⟨p, List.mem_of_find?_eq_some hp, by simpa using List.find?_some hp⟩

/-- A map with distinct keys that holds `k` has at most one member exactly when `k` is its only
key. -/
theorem size_le_one_iff {m : JsonMap} {k : String} (h : k ∈ m.entries.map (·.1)) :
    m.size ≤ 1 ↔ ∀ k' ∈ m.entries.map (·.1), k' = k := by
  have hlen : m.size = (m.entries.map (·.1)).length := (List.length_map _ _).symm
  rw [hlen]
  constructor
  · intro hle k' hk'
    rcases hl : m.entries.map (·.1) with _ | ⟨a, _ | ⟨b, t⟩⟩
    · simp [hl] at h
    · rw [hl, List.mem_singleton] at h hk'
      rw [hk', h]
    · simp [hl] at hle
  · intro hall
    have hnd := m.nodup
    rw [List.eq_replicate_iff.mpr ⟨rfl, hall⟩, List.nodup_replicate] at hnd
    exact hnd

end JsonMap

open JsonMap

theorem mem_keys_setNestedField {m : JsonMap} {field key k : String} {v : Json} :
    k ∈ (setNestedField m field key v).entries.map (·.1) ↔
      k ∈ m.entries.map (·.1) ∨ k = field := by
  cases hf : m.get? field with
  | none => simp only [setNestedField, hf, mem_keys_insert]
  | some j =>
    have hmem := mem_keys_of_get?_eq_some hf
    cases j <;> simp only [setNestedField, hf, mem_keys_insert] <;>
      exact ⟨.inl, fun h => h.elim id (· ▸ hmem)⟩

theorem mem_keys_removeNestedField {m : JsonMap} {field key k : String} :
    k ∈ (removeNestedField m field key).entries.map (·.1) ↔ k ∈ m.entries.map (·.1) := by
  unfold removeNestedField
  split
  next kvs h =>
    rw [mem_keys_insert]
    exact ⟨fun hk => hk.elim id (· ▸ mem_keys_of_get?_eq_some h), .inl⟩
  next => rfl

theorem get?_setNestedField_of_ne (m : JsonMap) {field key k : String} (v : Json)
    (h : k ≠ field) : (setNestedField m field key v).get? k = m.get? k := by
  unfold setNestedField
  split <;> first | rfl | exact get?_insert_of_ne _ _ h

theorem get?_removeNestedField_of_ne (m : JsonMap) {field key k : String} (h : k ≠ field) :
    (removeNestedField m field key).get? k = m.get? k := by
  unfold removeNestedField
  split <;> first | rfl | exact get?_insert_of_ne _ _ h

theorem get?_setNestedField_self {m : JsonMap} {field : String} (key : String) (v : Json)
    (h : IsObjectOrNull (m.get? field)) :
    (setNestedField m field key v).get? field =
      some (.obj (setMember (objectMembers (m.get? field)) key v)) := by
  cases hf : m.get? field with
  | none => simp [setNestedField, hf, objectMembers, setMember, eraseMember]
  | some j => cases j <;> simp_all [setNestedField, IsObjectOrNull, objectMembers, setMember,
      eraseMember]

theorem get?_removeNestedField_self {m : JsonMap} {field : String} (key : String)
    {kvs : List (String × Json)} (h : m.get? field = some (.obj kvs)) :
    (removeNestedField m field key).get? field = some (.obj (eraseMember kvs key)) := by
  simp [removeNestedField, h]

/-- With a non-empty resource version, the munged map of a patch object has the key
`metadata` and, besides it, the keys of the patch other than `status`. -/
theorem mem_keys_mungeMap {kvs : List (String × Json)} {rv k : String} (hrv : rv ≠ "") :
    k ∈ (removeNestedField (setResourceVersion ((JsonMap.ofList kvs).erase "status") rv)
        "metadata" "creationTimestamp").entries.map (·.1) ↔
      (k ∈ kvs.map (·.1) ∧ k ≠ "status") ∨ k = "metadata" := by
  rw [mem_keys_removeNestedField, setResourceVersion, if_neg hrv, mem_keys_setNestedField,
    mem_keys_erase, mem_keys_ofList]

theorem ite_size_eq_ok_none {m : JsonMap} :
    ((if m.size ≤ 1 then .ok none else .ok (some m)) : Except String (Option JsonMap)) =
      .ok none ↔ m.size ≤ 1 := by
  split <;> simp_all

/-- With a non-empty resource version, a patch object is dropped exactly when it has no
top-level member besides `status` and `metadata`, whatever `metadata` holds. -/
theorem mungePatch_eq_ok_none_iff (kvs : List (String × Json)) {rv : String} (hrv : rv ≠ "") :
    mungePatch (.obj kvs) rv = .ok none ↔
      ∀ k ∈ kvs.map (·.1), k = "status" ∨ k = "metadata" := by
  have hmeta : "metadata" ∈ (removeNestedField (setResourceVersion
      ((JsonMap.ofList kvs).erase "status") rv) "metadata" "creationTimestamp").entries.map (·.1) :=
    (mem_keys_mungeMap hrv).mpr (.inr rfl)
  simp only [mungePatch]
  rw [ite_size_eq_ok_none, size_le_one_iff hmeta]
  simp only [mem_keys_mungeMap hrv]
  constructor
  · intro h k hk
    by_cases hs : k = "status"
    · exact .inl hs
    · exact .inr (h k (.inl ⟨hk, hs⟩))
  · rintro h k (⟨hk, hs⟩ | rfl)
    · exact (h k hk).resolve_left hs
    · rfl

theorem mungePatch_drops_status_and_metadata :
    mungePatch (.obj [("status", .obj []), ("metadata", .obj [])]) "1" = .ok none ↔
      ∀ k ∈ [("status", Json.obj []), ("metadata", Json.obj [])].map (·.1),
        k = "status" ∨ k = "metadata" :=
  mungePatch_eq_ok_none_iff _ (by decide)

/-- A patch object that is sent carries no `status`, keeps every other top-level member but
`metadata` as decoded, and has a `metadata` object holding the resource version and no
creation timestamp, with its other members as decoded. -/
theorem mungePatch_eq_ok_some {kvs : List (String × Json)} {rv : String} {m : JsonMap}
    (hrv : rv ≠ "") (hmeta : IsObjectOrNull ((JsonMap.ofList kvs).get? "metadata"))
    (h : mungePatch (.obj kvs) rv = .ok (some m)) :
    m.get? "status" = none ∧
    (∀ k, k ≠ "status" → k ≠ "metadata" → m.get? k = (JsonMap.ofList kvs).get? k) ∧
    ∃ md, m.get? "metadata" = some (.obj md) ∧
      getMember md "resourceVersion" = some (.str rv) ∧
      getMember md "creationTimestamp" = none ∧
      ∀ k, k ≠ "resourceVersion" → k ≠ "creationTimestamp" →
        getMember md k = getMember (objectMembers ((JsonMap.ofList kvs).get? "metadata")) k := by
  have hm : m = removeNestedField (setResourceVersion ((JsonMap.ofList kvs).erase "status") rv)
      "metadata" "creationTimestamp" := by
    simp only [mungePatch] at h
    split at h
    · cases h
    · exact (Option.some.inj (Except.ok.inj h)).symm
  subst hm
  have hmd : ((JsonMap.ofList kvs).erase "status").get? "metadata" =
      (JsonMap.ofList kvs).get? "metadata" := get?_erase_of_ne _ (by decide)
  simp only [setResourceVersion, if_neg hrv]
  refine ⟨?_, fun k hs hk => ?_, _,
    get?_removeNestedField_self _ (get?_setNestedField_self _ _ (hmd ▸ hmeta)), ?_,
    getMember_eraseMember_self _ _, fun k h₁ h₂ => ?_⟩
  · rw [get?_removeNestedField_of_ne _ (by decide), get?_setNestedField_of_ne _ _ (by decide),
      get?_erase_self]
  · rw [get?_removeNestedField_of_ne _ hk, get?_setNestedField_of_ne _ _ hk,
      get?_erase_of_ne _ hs]
  · rw [getMember_eraseMember_of_ne _ (by decide), getMember_setMember_self]
  · rw [getMember_eraseMember_of_ne _ h₂, getMember_setMember_of_ne _ _ h₁, hmd]

/-- A merge patch that changes a data member, with a status. -/
def dataPatch : Json := .obj [("data", .obj [("image", .str "updated")]), ("status", .obj [])]

theorem mungePatch_sends_dataPatch :
    ∃ m, mungePatch dataPatch "1" = .ok (some m) ∧ m.get? "status" = none ∧
      m.get? "data" = some (.obj [("image", .str "updated")]) ∧
      ∃ md, m.get? "metadata" = some (.obj md) ∧ getMember md "resourceVersion" = some (.str "1") ∧
        getMember md "creationTimestamp" = none := by
  obtain ⟨m, hm⟩ : ∃ m, mungePatch dataPatch "1" = .ok (some m) := ⟨_, rfl⟩
  obtain ⟨hs, hk, md, hmd, hrv, hct, -⟩ := mungePatch_eq_ok_some (by decide) (by exact trivial) hm
  exact ⟨m, hm, hs, (hk "data" (by decide) (by decide)).trans rfl, md, hmd, hrv, hct⟩

/-- A merge patch that only adds the label `app: web`. -/
def labelPatch : Json := .obj [("metadata", .obj [("labels", .obj [("app", .str "web")])])]

theorem mungePatch_labelPatch : mungePatch labelPatch "1" = .ok none := rfl

end Eno.Reconciliation

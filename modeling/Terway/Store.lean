import Terway.Types

/-!
The resource store (`storage.Storage` of `PodResources`, spec §3 and §6): a key-value
database keyed by pod key. The storage package is not in the source tree; every call
`daemon.go` makes stores a record under the key of its own pod
(`Put(podInfoKey(podinfo.Namespace, podinfo.Name), newRes)` with `newRes.PodInfo = podinfo`,
and the same in the GC's sticky rewrite), so the store is modelled as a list of records
with distinct keys, the invariant carried as a field (spec invariant 1: exactly one record
per pod key).

* `Store.get`, `Store.put`, `Store.delete`, `Store.list`: `Get`, `Put`, `Delete`, `List`;
  a failing call is decided by the caller's outcome and leaves the store as it was.
* `get_put_self`, `get_put_ne`, `get_delete_self`, `get_delete_ne`: the read-after-write
  lemmas every handler proof goes through.
* `get_eq_some_iff`: a record is in the listing exactly when `get` of its key returns it.
-/

namespace Terway

/-- The resource store: the records it holds, one per pod key. `List` returns `records`
in some order (Go's map order), which callers take as a permutation. -/
structure Store where
  records : List PodResources
  nodup_keys : (records.map PodResources.key).Nodup

namespace Store

/-- The empty store a fresh node starts from. -/
def empty : Store := ⟨[], List.nodup_nil⟩

/-- `Get(key)`: the record stored under `key`, `none` for `storage.ErrNotFound`. -/
def get (s : Store) (k : String) : Option PodResources :=
  s.records.find? (·.key = k)

/-- Keeping the records of the other keys keeps the keys distinct. -/
lemma nodup_filter_key (s : Store) (k : String) :
    ((s.records.filter (·.key ≠ k)).map PodResources.key).Nodup :=
  s.nodup_keys.sublist ((List.filter_sublist _).map _)

/-- `Put(r.key, r)`: store `r` under its pod key, replacing the record there. -/
def put (s : Store) (r : PodResources) : Store where
  records := r :: s.records.filter (·.key ≠ r.key)
  nodup_keys := by
    refine List.nodup_cons.2 ⟨?_, s.nodup_filter_key r.key⟩
    simp

/-- `Delete(key)`: drop the record stored under `key`, if any. -/
def delete (s : Store) (k : String) : Store :=
  ⟨s.records.filter (·.key ≠ k), s.nodup_filter_key k⟩

/-- `List()`: every stored record. -/
def list (s : Store) : List PodResources := s.records

@[simp] lemma get_empty (k : String) : empty.get k = none := rfl

@[simp] lemma get_put_self (s : Store) (r : PodResources) : (s.put r).get r.key = some r := by
  simp [put, get]

/-- Filtering out another key does not change what `find?` returns for `k'`. -/
lemma find?_filter_key (l : List PodResources) {k k' : String} (h : k ≠ k') :
    (l.filter (·.key ≠ k)).find? (·.key = k') = l.find? (·.key = k') := by
  induction l with
  | nil => rfl
  | cons x xs ih =>
    by_cases hx : x.key = k'
    · have hk : x.key ≠ k := fun hk => h (hk ▸ hx)
      rw [List.filter_cons_of_pos (by simpa using hk)]
      simp [List.find?_cons, hx]
    · by_cases hk : x.key = k
      · rw [List.filter_cons_of_neg (by simpa using hk), ih]
        simp [List.find?_cons, hx]
      · rw [List.filter_cons_of_pos (by simpa using hk)]
        simp only [List.find?_cons, hx, decide_False, ih]

@[simp] lemma get_put_ne (s : Store) (r : PodResources) {k : String} (h : r.key ≠ k) :
    (s.put r).get k = s.get k := by
  simp only [put, get, List.find?_cons, h, decide_False]
  exact find?_filter_key _ h

/-- `Put`s under two different keys commute. -/
lemma get_put_put_comm (s : Store) {r r' : PodResources} (h : r.key ≠ r'.key) (k : String) :
    ((s.put r).put r').get k = ((s.put r').put r).get k := by
  by_cases hk' : r'.key = k
  · subst hk'
    rw [get_put_self, get_put_ne _ _ h, get_put_self]
  by_cases hk : r.key = k
  · subst hk
    rw [get_put_ne _ _ hk', get_put_self, get_put_self]
  · rw [get_put_ne _ _ hk', get_put_ne _ _ hk, get_put_ne _ _ hk, get_put_ne _ _ hk']

@[simp] lemma get_delete_self (s : Store) (k : String) : (s.delete k).get k = none := by
  simp only [delete, get, List.find?_eq_none, List.mem_filter]
  intro x hx
  simpa using hx.2

@[simp] lemma get_delete_ne (s : Store) {k k' : String} (h : k ≠ k') :
    (s.delete k).get k' = s.get k' :=
  find?_filter_key _ h

/-- The record `get` returns is stored under the key asked for. -/
lemma key_of_get {s : Store} {k : String} {r : PodResources} (h : s.get k = some r) :
    r.key = k := by
  simpa using List.find?_some h

/-- A record is listed exactly when `get` of its key returns it. -/
lemma get_eq_some_iff {s : Store} {r : PodResources} :
    s.get r.key = some r ↔ r ∈ s.records := by
  obtain ⟨records, hnd⟩ := s
  simp only [get]
  induction records with
  | nil => simp
  | cons x xs ih =>
    simp only [List.map_cons, List.nodup_cons, List.mem_map] at hnd
    by_cases hx : x.key = r.key
    · simp only [List.find?_cons, hx, decide_True, Option.some.injEq, List.mem_cons]
      refine ⟨fun h => .inl h.symm, ?_⟩
      rintro (h | h)
      · exact h.symm
      · exact absurd ⟨r, h, hx.symm⟩ hnd.1
    · have hne : r ≠ x := fun h => hx (h ▸ rfl)
      simp [List.find?_cons, hx, ih hnd.2, hne]

/-- A store with no record for `k` lists no record of that key. -/
lemma key_ne_of_get_eq_none {s : Store} {k : String} (hg : s.get k = none) {r : PodResources}
    (hr : r ∈ s.records) : r.key ≠ k := fun hk => by
  rw [← hk, get_eq_some_iff.2 hr] at hg
  cases hg

end Store

end Terway

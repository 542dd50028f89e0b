import Mathlib.Data.List.Sort
import Mathlib.Data.Prod.Lex
import Mathlib.Data.String.Basic
import Terway.GC.Tick

/-!
The three-way resource mapping (`toResMapping` of `daemon.go`, spec §4.8): every resource id
of the pool's local view, of its remote view and of the store's records, joined by id into a
`PodMapping`, sorted by name descending and then by remote id ascending.

The Go map `all` is kept as its keys in the order they were first set and the entry of each
key (`MappingMap`); `ord` is the order Go's iteration gives its keys. `sort.Slice` sorts the
slice by insertion for the short slices of a node; the model sorts every slice so, which is
`sort.Slice` up to the order of entries that compare equal, and that order follows the map's
random one anyway. Go compares strings byte by byte, which on UTF-8 is the order of their
code points (`String.toList`).

* `toResMapping`: the three loops over the two views and the records, the last loop over the
  map, and the sort.
* `joinedMapping`: the entry the join gives an id, from the spec: its local and remote id
  when the views hold it, the pod of the last record binding it, and whether it is valid.
* `MappingMap.Holds`: the map holds the join of what the loops have read; one lemma per
  loop body, and one per loop.
* `toResMapping_exact`: the result is one entry per id of the join, each the join's entry,
  valid exactly as spec §4.8 says, and sorted.
* `toResMapping_valid_empty_id`: an empty id in one view only is valid.
-/

namespace Terway

/-! ### The records -/

/-- `tracing.PodMapping`: the three views of one resource id, and whether they agree. -/
structure PodMapping where
  name : String
  «namespace» : String
  localResID : String
  remoteResID : String
  podBindResID : String
  valid : Bool
  deriving DecidableEq, Repr

/-- The zero `PodMapping`. -/
def PodMapping.zero : PodMapping := ⟨"", "", "", "", "", false⟩

/-- `tracing.ResourcePoolStats`, read through `GetLocal` and `GetRemote`: the ids of the
pool's resources in memory and in the cloud. -/
structure ResourcePoolStats where
  getLocal : List String
  getRemote : List String
  deriving DecidableEq, Repr

/-- The map `all` of `toResMapping`: its keys in the order they were first set, and the entry
each key points to. -/
structure MappingMap where
  keys : List String
  entry : String → PodMapping

/-- The empty map. -/
def MappingMap.empty : MappingMap := ⟨[], fun _ => PodMapping.zero⟩

/-- `all[id] = m`, or a write through the pointer `all[id]` holds. -/
def MappingMap.set (all : MappingMap) (id : String) (m : PodMapping) : MappingMap :=
  ⟨mapSet all.keys id, Function.update all.entry id m⟩

/-! ### `toResMapping` -/

/-- The loop over the pool's local resources. -/
def addLocal (all : MappingMap) (id : String) : MappingMap :=
  if id ∉ all.keys then all.set id { PodMapping.zero with localResID := id }
  else all.set id { all.entry id with localResID := id }

/-- The loop over the pool's remote resources. -/
def addRemote (all : MappingMap) (id : String) : MappingMap :=
  if id ∉ all.keys then all.set id { PodMapping.zero with remoteResID := id }
  else all.set id { all.entry id with remoteResID := id }

/-- One item of a record in the loop over the store: an EIP is skipped; a new id gets an
entry bound to the record's pod; a known id is bound to it, and marked valid when its pod,
local and remote ids agree. -/
def addItem (p : PodResources) (all : MappingMap) (res : ResourceItem) : MappingMap :=
  if res.type = .eip then all
  else if res.id ∉ all.keys then
    all.set res.id { PodMapping.zero with
      name := p.podInfo.name, «namespace» := p.podInfo.namespace, podBindResID := res.id }
  else
    let old := { all.entry res.id with
      name := p.podInfo.name, «namespace» := p.podInfo.namespace, podBindResID := res.id }
    all.set res.id
      (if old.podBindResID = old.localResID ∧ old.localResID = old.remoteResID then
        { old with valid := true }
      else old)

/-- One record of the loop over the store. -/
def addPod (all : MappingMap) (p : PodResources) : MappingMap :=
  p.resources.foldl (addItem p) all

/-- The loop over the map: an idle entry whose local and remote ids agree is valid. -/
def finalizeMapping (res : PodMapping) : PodMapping :=
  if res.name = "" ∧ res.localResID = res.remoteResID then { res with valid := true } else res

/-- The comparison `sort.Slice` is given: by name descending, then by remote id ascending. -/
def resMappingLess (a b : PodMapping) : Bool :=
  if a.name ≠ b.name then b.name.toList < a.name.toList
  else a.remoteResID.toList < b.remoteResID.toList

/-- Two entries `sort.Slice` keeps in this order: the second is not less than the first. -/
def resMappingLe (a b : PodMapping) : Prop := resMappingLess b a = false

instance : DecidableRel resMappingLe := fun _ _ => inferInstanceAs (Decidable (_ = _))

/-- **`toResMapping`**: the entries of the local ids, then of the remote ids, then of the
records' non-EIP items; the idle check over the map in Go's order `ord`; the sort. -/
def toResMapping (ord : MapOrder) (poolStats : ResourcePoolStats) (pods : List PodResources) :
    List PodMapping :=
  let all := poolStats.getLocal.foldl addLocal MappingMap.empty
  let all := poolStats.getRemote.foldl addRemote all
  let all := pods.foldl addPod all
  let mapping := (ord.ids all.keys).map fun k => finalizeMapping (all.entry k)
  mapping.insertionSort resMappingLe

/-! ### The join, from the spec -/

/-- Some item of a list that is not an EIP has the id `x`. -/
def bindsID (items : List ResourceItem) (x : String) : Bool :=
  items.any fun it => decide (it.type ≠ .eip ∧ it.id = x)

/-- The last record of the listing that binds `x`. -/
def lastBinder (pods : List PodResources) (x : String) : Option PodResources :=
  pods.reverse.find? fun rec => bindsID rec.resources x

/-- The entry of the join for id `x` (spec §4.8): the id as local and remote id when the
pool's views hold it; the name, namespace and the id as bound id of the last record binding
it; valid when both views hold it, or when the id is empty. -/
def joinedMapping (poolStats : ResourcePoolStats) (pods : List PodResources) (x : String) :
    PodMapping where
  name := ((lastBinder pods x).map (·.podInfo.name)).getD ""
  «namespace» := ((lastBinder pods x).map (·.podInfo.namespace)).getD ""
  localResID := if x ∈ poolStats.getLocal then x else ""
  remoteResID := if x ∈ poolStats.getRemote then x else ""
  podBindResID := if (lastBinder pods x).isSome then x else ""
  valid := decide (x ∈ poolStats.getLocal ∧ x ∈ poolStats.getRemote ∨ x = "")

lemma bindsID_cons (it : ResourceItem) (items : List ResourceItem) (x : String) :
    bindsID (it :: items) x = (bindsID [it] x || bindsID items x) := by
  simp [bindsID]

lemma lastBinder_cons (p : PodResources) (pods : List PodResources) (x : String) :
    lastBinder (p :: pods) x =
      (lastBinder pods x).or (if bindsID p.resources x then some p else none) := by
  simp [lastBinder, List.find?_append, List.find?_singleton]

/-- The last binder of `x` is a record of the listing with a non-EIP item of id `x`. -/
lemma lastBinder_eq_some {pods : List PodResources} {x : String} {rec : PodResources}
    (h : lastBinder pods x = some rec) :
    rec ∈ pods ∧ ∃ it ∈ rec.resources, it.type ≠ .eip ∧ it.id = x := by
  have hp := List.find?_some h
  simp only [bindsID, List.any_eq_true, decide_eq_true_eq] at hp
  exact ⟨List.mem_reverse.1 (List.mem_of_find?_eq_some h), hp⟩

lemma lastBinder_isSome {pods : List PodResources} {x : String} :
    (lastBinder pods x).isSome ↔ ∃ rec ∈ pods, ∃ it ∈ rec.resources, it.type ≠ .eip ∧ it.id = x := by
  simp [lastBinder, List.find?_isSome, bindsID]

/-! ### The invariant of the loops -/

namespace MappingMap

variable {all : MappingMap} {id x : String} {m : PodMapping}

@[simp] lemma mem_keys_set : x ∈ (all.set id m).keys ↔ x ∈ all.keys ∨ x = id := mem_mapSet

@[simp] lemma entry_set : (all.set id m).entry x = if x = id then m else all.entry x :=
  Function.update_apply ..

end MappingMap

/-- The entry the join of the local ids `L`, the remote ids `R` and the binder `B` gives `x`
before the loop over the map: valid when it is bound and both views hold it. -/
def joinEntry (L R : List String) (B : String → Option PodInfo) (x : String) : PodMapping where
  name := ((B x).map (·.name)).getD ""
  «namespace» := ((B x).map (·.namespace)).getD ""
  localResID := if x ∈ L then x else ""
  remoteResID := if x ∈ R then x else ""
  podBindResID := if (B x).isSome then x else ""
  valid := (B x).isSome && decide (x ∈ L) && decide (x ∈ R)

/-- The map holds the join of the local ids `L`, the remote ids `R` and the binder `B`: one
key for each id any of them has, each pointing to the join's entry. -/
structure MappingMap.Holds (all : MappingMap) (L R : List String) (B : String → Option PodInfo) :
    Prop where
  nodup : all.keys.Nodup
  mem_keys : ∀ x, x ∈ all.keys ↔ x ∈ L ∨ x ∈ R ∨ (B x).isSome
  entry : ∀ x ∈ all.keys, all.entry x = joinEntry L R B x

namespace MappingMap.Holds

variable {all : MappingMap} {L R L' R' : List String} {B B' : String → Option PodInfo}
  {id : String} {m : PodMapping}

lemma empty : MappingMap.empty.Holds [] [] fun _ => none :=
  ⟨List.nodup_nil, by simp [MappingMap.empty], by simp [MappingMap.empty]⟩

/-- `Holds` reads the binder only through its values. -/
lemma of_binder (h : all.Holds L R B) (hB : ∀ x, B x = B' x) : all.Holds L R B' :=
  funext hB ▸ h

/-- A write of the join's entry at `id`, when the join changes at `id` only. -/
lemma set (h : all.Holds L R B)
    (hmem : ∀ x, x ∈ L' ∨ x ∈ R' ∨ (B' x).isSome ↔ (x ∈ L ∨ x ∈ R ∨ (B x).isSome) ∨ x = id)
    (hother : ∀ x, x ≠ id → joinEntry L' R' B' x = joinEntry L R B x)
    (hm : m = joinEntry L' R' B' id) : (all.set id m).Holds L' R' B' where
  nodup := nodup_mapSet id h.nodup
  mem_keys x := by rw [mem_keys_set, h.mem_keys, hmem]
  entry x hx := by
    rw [entry_set]
    split_ifs with hx'
    · rw [hx', hm]
    · rw [hother x hx', h.entry x ((mem_keys_set.1 hx).resolve_right hx')]

/-- **A local id** joins the local view. -/
lemma addLocal (h : all.Holds L R fun _ => none) (id : String) :
    (Terway.addLocal all id).Holds (L ++ [id]) R fun _ => none := by
  have hset := h.set (m := joinEntry (L ++ [id]) R (fun _ => none) id)
    (fun x => by simp [or_right_comm])
    (fun x hx => by simp [joinEntry, hx]) rfl
  unfold Terway.addLocal
  split_ifs with hk
  · rw [h.entry id hk]
    simpa [joinEntry] using hset
  · have hR : id ∉ R := fun hR => hk ((h.mem_keys id).2 (.inr (.inl hR)))
    simpa [joinEntry, PodMapping.zero, hR] using hset

/-- **A remote id** joins the remote view. -/
lemma addRemote (h : all.Holds L R fun _ => none) (id : String) :
    (Terway.addRemote all id).Holds L (R ++ [id]) fun _ => none := by
  have hset := h.set (m := joinEntry L (R ++ [id]) (fun _ => none) id)
    (fun x => by simp [or_assoc])
    (fun x hx => by simp [joinEntry, hx]) rfl
  unfold Terway.addRemote
  split_ifs with hk
  · rw [h.entry id hk]
    simpa [joinEntry] using hset
  · have hL : id ∉ L := fun hL => hk ((h.mem_keys id).2 (.inl hL))
    simpa [joinEntry, PodMapping.zero, hL] using hset

lemma foldl_addLocal (h : all.Holds L R fun _ => none) (ids : List String) :
    (ids.foldl Terway.addLocal all).Holds (L ++ ids) R fun _ => none := by
  induction ids generalizing all L with
  | nil => simpa using h
  | cons id ids ih => simpa using ih (h.addLocal id)

lemma foldl_addRemote (h : all.Holds L R fun _ => none) (ids : List String) :
    (ids.foldl Terway.addRemote all).Holds L (R ++ ids) fun _ => none := by
  induction ids generalizing all R with
  | nil => simpa using h
  | cons id ids ih => simpa using ih (h.addRemote id)

/-- **An item of a record**: a non-EIP item binds its id to the record's pod; the entry of a
known id turns valid when both views hold it. -/
lemma addItem (h : all.Holds L R B) (p : PodResources) {res : ResourceItem} (hid : res.id ≠ "") :
    (Terway.addItem p all res).Holds L R
      fun x => if bindsID [res] x then some p.podInfo else B x := by
  unfold Terway.addItem
  by_cases he : res.type = .eip
  · simpa [he, bindsID] using h
  have hB : ∀ x, (if bindsID [res] x then some p.podInfo else B x) =
      if res.id = x then some p.podInfo else B x := fun x => by simp [bindsID, he]
  simp only [he, if_false, hB]
  have hset := h.set (m := joinEntry L R (fun x =>
      if res.id = x then some p.podInfo else B x) res.id)
    (fun x => by by_cases hx : x = res.id <;> simp [hx, Ne.symm])
    (fun x hx => by simp [joinEntry, Ne.symm hx]) rfl
  by_cases hk : res.id ∈ all.keys
  · rw [if_neg (not_not.2 hk), h.entry res.id hk]
    by_cases hL : res.id ∈ L <;> by_cases hR : res.id ∈ R <;>
      simpa [joinEntry, hL, hR, hid, Ne.symm hid] using hset
  · have hL : res.id ∉ L := fun hL => hk ((h.mem_keys _).2 (.inl hL))
    have hR : res.id ∉ R := fun hR => hk ((h.mem_keys _).2 (.inr (.inl hR)))
    simpa [hk, joinEntry, PodMapping.zero, hL, hR] using hset

/-- **The items of a record**: each id a non-EIP item has is bound to the record's pod. -/
lemma foldl_addItem (h : all.Holds L R B) (p : PodResources) {items : List ResourceItem}
    (hid : ∀ it ∈ items, it.id ≠ "") :
    (items.foldl (Terway.addItem p) all).Holds L R
      fun x => if bindsID items x then some p.podInfo else B x := by
  induction items generalizing all B with
  | nil => simpa [bindsID] using h
  | cons it items ih =>
    refine (ih (h.addItem p (hid it (.head _))) fun it' h' => hid it' (.tail _ h')).of_binder
      fun x => ?_
    rw [bindsID_cons it items]
    cases bindsID [it] x <;> cases bindsID items x <;> rfl

/-- **A record**. -/
lemma addPod (h : all.Holds L R B) {p : PodResources} (hid : ∀ it ∈ p.resources, it.id ≠ "") :
    (Terway.addPod all p).Holds L R
      fun x => if bindsID p.resources x then some p.podInfo else B x :=
  h.foldl_addItem p hid

/-- **The records**: each id a non-EIP item has is bound to the pod of the last record that
has it. -/
lemma foldl_addPod (h : all.Holds L R B) {pods : List PodResources}
    (hid : ∀ rec ∈ pods, ∀ it ∈ rec.resources, it.id ≠ "") :
    (pods.foldl Terway.addPod all).Holds L R
      fun x => ((lastBinder pods x).map (·.podInfo)).or (B x) := by
  induction pods generalizing all B with
  | nil => simpa [lastBinder] using h
  | cons p pods ih =>
    refine (ih (h.addPod (hid p (.head _))) fun rec h' => hid rec (.tail _ h')).of_binder
      fun x => ?_
    rw [lastBinder_cons]
    cases lastBinder pods x <;> cases bindsID p.resources x <;> simp

end MappingMap.Holds

/-! ### The loop over the map, and the sort -/

/-- The map the three loops build holds the join of the pool's views and the records. -/
lemma holds_allMapping (poolStats : ResourcePoolStats) {pods : List PodResources}
    (hid : ∀ rec ∈ pods, ∀ it ∈ rec.resources, it.id ≠ "") :
    (pods.foldl addPod (poolStats.getRemote.foldl addRemote
        (poolStats.getLocal.foldl addLocal MappingMap.empty))).Holds
      poolStats.getLocal poolStats.getRemote fun x => (lastBinder pods x).map (·.podInfo) := by
  simpa using ((MappingMap.Holds.empty.foldl_addLocal poolStats.getLocal).foldl_addRemote
    poolStats.getRemote).foldl_addPod hid

/-- The idle check turns the join's entry of an id the loops met into the spec's entry. -/
lemma finalizeMapping_joinEntry (poolStats : ResourcePoolStats) {pods : List PodResources}
    (hpods : ∀ rec ∈ pods, rec.podInfo.name ≠ "" ∧ ∀ it ∈ rec.resources, it.id ≠ "") {x : String}
    (hx : x ∈ poolStats.getLocal ∨ x ∈ poolStats.getRemote ∨ (lastBinder pods x).isSome) :
    finalizeMapping (joinEntry poolStats.getLocal poolStats.getRemote
      (fun y => (lastBinder pods y).map (·.podInfo)) x) = joinedMapping poolStats pods x := by
  cases hb : lastBinder pods x with
  | none =>
    -- an idle id: valid when its local and remote ids agree
    rcases eq_or_ne x "" with rfl | hx0
    · simp [finalizeMapping, joinEntry, joinedMapping, hb]
    · simp only [hb, Option.isSome_none, Bool.false_eq_true, or_false] at hx
      by_cases hL : x ∈ poolStats.getLocal <;> by_cases hR : x ∈ poolStats.getRemote <;>
        simp_all [finalizeMapping, joinEntry, joinedMapping, Ne.symm hx0]
  | some rec =>
    -- a bound id: its record's pod has a name, so the idle check leaves it
    obtain ⟨hrec, it, hit, -, rfl⟩ := lastBinder_eq_some hb
    simp [finalizeMapping, joinEntry, joinedMapping, hb, (hpods rec hrec).1,
      (hpods rec hrec).2 it hit]

/-- The validity of a joined entry, in its three ids (spec §4.8): a bound entry is valid when
its three ids agree, an idle one when its local and remote ids do. -/
lemma joinedMapping_valid_iff (poolStats : ResourcePoolStats) (pods : List PodResources)
    {x : String}
    (hx : x ∈ poolStats.getLocal ∨ x ∈ poolStats.getRemote ∨ (lastBinder pods x).isSome)
    {m : PodMapping} (hm : joinedMapping poolStats pods x = m) :
    m.valid = true ↔
      m.podBindResID ≠ "" ∧ m.localResID = m.remoteResID ∧ m.remoteResID = m.podBindResID ∨
        m.podBindResID = "" ∧ m.localResID = m.remoteResID := by
  subst hm
  rcases eq_or_ne x "" with rfl | hx0
  · simp [joinedMapping]
  · by_cases hL : x ∈ poolStats.getLocal <;> by_cases hR : x ∈ poolStats.getRemote <;>
      cases hb : (lastBinder pods x).isSome <;> simp_all [joinedMapping, Ne.symm hx0]

/-- The key `resMappingLess` orders by: the name descending, then the remote id ascending. -/
def sortKey (m : PodMapping) : Lex ((List Char)ᵒᵈ × List Char) :=
  toLex (OrderDual.toDual m.name.toList, m.remoteResID.toList)

lemma resMappingLess_iff (a b : PodMapping) :
    resMappingLess a b = true ↔ sortKey a < sortKey b := by
  rw [sortKey, sortKey, Prod.Lex.lt_iff]
  by_cases h : a.name = b.name
  · simp [resMappingLess, h]
  · simp [resMappingLess, h, mt String.ext h]

lemma resMappingLe_iff (a b : PodMapping) : resMappingLe a b ↔ sortKey a ≤ sortKey b := by
  rw [resMappingLe, ← not_lt, ← resMappingLess_iff, Bool.not_eq_true]

instance : IsTotal PodMapping resMappingLe :=
  ⟨fun a b => (le_total (sortKey a) (sortKey b)).imp (resMappingLe_iff a b).2 (resMappingLe_iff b a).2⟩

instance : IsTrans PodMapping resMappingLe :=
  ⟨fun a b c hab hbc => (resMappingLe_iff a c).2
    (((resMappingLe_iff a b).1 hab).trans ((resMappingLe_iff b c).1 hbc))⟩

/-- The sorted slice is ordered by name descending, then by remote id ascending. -/
lemma pairwise_insertionSort_resMappingLe (l : List PodMapping) :
    (l.insertionSort resMappingLe).Pairwise fun a b =>
      b.name < a.name ∨ a.name = b.name ∧ a.remoteResID ≤ b.remoteResID :=
  (List.sorted_insertionSort resMappingLe l).imp fun {a b} hab => by
    rw [resMappingLe_iff, sortKey, sortKey, Prod.Lex.le_iff] at hab
    simpa [String.lt_iff_toList_lt, String.le_iff_toList_le, String.ext_iff] using hab

/-! ### The mapping is the join -/

/-- The mapping is the join's entries of the ids the loops met, in some order. -/
lemma toResMapping_perm_joined (ord : MapOrder) (poolStats : ResourcePoolStats)
    {pods : List PodResources}
    (hpods : ∀ rec ∈ pods, rec.podInfo.name ≠ "" ∧ ∀ it ∈ rec.resources, it.id ≠ "") :
    ∃ ids : List String, ids.Nodup ∧
      (∀ x, x ∈ ids ↔
        x ∈ poolStats.getLocal ∨ x ∈ poolStats.getRemote ∨ (lastBinder pods x).isSome) ∧
      (toResMapping ord poolStats pods).Perm (ids.map (joinedMapping poolStats pods)) := by
  have h := holds_allMapping poolStats fun rec hrec => (hpods rec hrec).2
  dsimp only [toResMapping]
  generalize pods.foldl addPod (poolStats.getRemote.foldl addRemote
    (poolStats.getLocal.foldl addLocal MappingMap.empty)) = all at h ⊢
  have hkeys : ∀ x, x ∈ all.keys ↔
      x ∈ poolStats.getLocal ∨ x ∈ poolStats.getRemote ∨ (lastBinder pods x).isSome := fun x => by
    rw [h.mem_keys, Option.isSome_map']
  have hentry : ∀ x ∈ all.keys, finalizeMapping (all.entry x) = joinedMapping poolStats pods x :=
    fun x hx => h.entry x hx ▸ finalizeMapping_joinEntry poolStats hpods ((hkeys x).1 hx)
  refine ⟨all.keys, h.nodup, hkeys, (List.perm_insertionSort _ _).trans ?_⟩
  rw [← List.map_congr_left hentry]
  exact (ord.ids_perm _).map _

/-- **The three-way mapping is the join** (spec §4.8). For pod names and item ids that are
not empty: the result has one entry for each id of the local view, of the remote view, or of a
non-EIP item of a record, and it is the join's entry for that id; an entry is valid when its
three ids agree if it is bound, and when its local and remote ids agree if it is idle; the
entries are ordered by name descending, then by remote id ascending. -/
theorem toResMapping_exact (ord : MapOrder) (poolStats : ResourcePoolStats)
    (pods : List PodResources)
    (hpods : ∀ rec ∈ pods, rec.podInfo.name ≠ "" ∧ ∀ it ∈ rec.resources, it.id ≠ "") :
    (∃ ids : List String, ids.Nodup ∧
      (∀ x, x ∈ ids ↔ x ∈ poolStats.getLocal ∨ x ∈ poolStats.getRemote ∨
        ∃ rec ∈ pods, ∃ it ∈ rec.resources, it.type ≠ .eip ∧ it.id = x) ∧
      (toResMapping ord poolStats pods).Perm (ids.map (joinedMapping poolStats pods))) ∧
    (∀ m ∈ toResMapping ord poolStats pods, m.valid = true ↔
      m.podBindResID ≠ "" ∧ m.localResID = m.remoteResID ∧ m.remoteResID = m.podBindResID ∨
        m.podBindResID = "" ∧ m.localResID = m.remoteResID) ∧
    (toResMapping ord poolStats pods).Pairwise fun a b =>
      b.name < a.name ∨ a.name = b.name ∧ a.remoteResID ≤ b.remoteResID := by
  have h := holds_allMapping poolStats fun rec hrec => (hpods rec hrec).2
  dsimp only [toResMapping]
  generalize pods.foldl addPod (poolStats.getRemote.foldl addRemote
    (poolStats.getLocal.foldl addLocal MappingMap.empty)) = all at h ⊢
  have hkeys : ∀ x, x ∈ all.keys ↔
      x ∈ poolStats.getLocal ∨ x ∈ poolStats.getRemote ∨ (lastBinder pods x).isSome := fun x => by
    rw [h.mem_keys, Option.isSome_map']
  have hentry : ∀ x ∈ all.keys, finalizeMapping (all.entry x) = joinedMapping poolStats pods x :=
    fun x hx => h.entry x hx ▸ finalizeMapping_joinEntry poolStats hpods ((hkeys x).1 hx)
  have hperm : ((ord.ids all.keys).map fun k => finalizeMapping (all.entry k)).Perm
      (all.keys.map (joinedMapping poolStats pods)) := by
    rw [← List.map_congr_left hentry]
    exact (ord.ids_perm _).map _
  refine ⟨⟨all.keys, h.nodup, fun x => ?_, (List.perm_insertionSort _ _).trans hperm⟩,
    fun m hm => ?_, pairwise_insertionSort_resMappingLe _⟩
  · rw [hkeys, lastBinder_isSome]
  · obtain ⟨x, hx, rfl⟩ := List.mem_map.1 (((List.perm_insertionSort _ _).trans hperm).subset hm)
    exact joinedMapping_valid_iff poolStats pods ((hkeys x).1 hx) rfl

/-- The join at a node whose store holds `stickyRecord`, with its ENI-IP in both views, one
local id not yet in the cloud and one remote id not yet in memory. -/
theorem toResMapping_exact_node :
    (∀ m ∈ toResMapping MapOrder.reversed ⟨["eni-1.10.0.0.7", "eni-1.10.0.0.8"],
        ["eni-1.10.0.0.7", "eni-1.10.0.0.9"]⟩ [stickyRecord], m.valid = true ↔
      m.podBindResID ≠ "" ∧ m.localResID = m.remoteResID ∧ m.remoteResID = m.podBindResID ∨
        m.podBindResID = "" ∧ m.localResID = m.remoteResID) ∧
    (toResMapping MapOrder.reversed ⟨["eni-1.10.0.0.7", "eni-1.10.0.0.8"],
        ["eni-1.10.0.0.7", "eni-1.10.0.0.9"]⟩ [stickyRecord]).Pairwise fun a b =>
      b.name < a.name ∨ a.name = b.name ∧ a.remoteResID ≤ b.remoteResID :=
  (toResMapping_exact MapOrder.reversed _ [stickyRecord] (by decide)).2

/-- **An empty id is valid in one view.** An empty id that the local view holds and the remote
view does not is valid: the idle check compares its local id with its remote id, and both are
empty. -/
theorem toResMapping_valid_empty_id :
    toResMapping MapOrder.insertion ⟨[""], []⟩ [] = [{ PodMapping.zero with valid := true }] :=
  rfl

end Terway

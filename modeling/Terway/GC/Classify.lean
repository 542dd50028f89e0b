import Mathlib.Data.List.Nodup
import Terway.Store

/-!
The classification pass of a garbage-collection tick (the loop over the store's listing in
`startGarbageCollectionLoop` of `daemon.go`, spec §4.3): per resource type, the ids still in
use and the ids expired, the records to delete, and the sticky records to rewrite.

Go maps are kept as the list of their keys, in the order they were first set; what Go's
iteration order makes of them is the caller's (`Terway.GC.Tick`).

* `classifyItem`, `classifyRecord`, `gcClassify`: the inner loop, the outer loop, the pass.
* `GCSets.Holds`: the maps hold what two predicates on ids mark in use and expired;
  `Holds.classifyItem` is one item, `Holds.foldl_classifyItem` the inner loop.
* `gcClassify_exact`: what the pass computes, for every listing of the store and every set
  of live pods, and that it does not depend on the order of the listing.
-/

namespace Terway

/-! ### Go maps of keys -/

/-- `m[k] = v` on a Go map, kept as its keys in the order they were first set. -/
def mapSet {α : Type} [DecidableEq α] (m : List α) (k : α) : List α :=
  if k ∈ m then m else m ++ [k]

@[simp] lemma mem_mapSet {α : Type} [DecidableEq α] {m : List α} {k k' : α} :
    k' ∈ mapSet m k ↔ k' ∈ m ∨ k' = k := by
  unfold mapSet
  split_ifs with h
  · exact ⟨.inl, fun h' => h'.elim id fun e => e ▸ h⟩
  · simp

lemma nodup_mapSet {α : Type} [DecidableEq α] {m : List α} (k : α) (h : m.Nodup) :
    (mapSet m k).Nodup := by
  unfold mapSet
  split_ifs with hk
  · exact h
  · exact h.append (List.nodup_singleton k) (by simpa using hk)

/-- A map of distinct ids per type keeps them distinct when one entry is replaced by a list
of distinct ids. -/
lemma nodup_update {f : ResourceType → List String} (hf : ∀ t, (f t).Nodup) {t₀ : ResourceType}
    {l : List String} (hl : l.Nodup) : ∀ t, (Function.update f t₀ l t).Nodup :=
  (Function.forall_update_iff f fun _ l => l.Nodup).2 ⟨hl, fun t _ => hf t⟩

/-! ### The pass -/

/-- The maps of a tick, `inUseSet` and `expireSet`, as the ids of each type, with the types
that have an entry in them; the keys of the records to delete (`relateExpireList`); and the
rewritten sticky records, in the order of their `Put`. -/
structure GCSets where
  present : List ResourceType
  inUse : ResourceType → List String
  expire : ResourceType → List String
  relateExpireList : List String
  puts : List PodResources

/-- The maps before the pass: all empty. -/
def GCSets.empty : GCSets := ⟨[], fun _ => [], fun _ => [], [], []⟩

/-- One item of the inner loop: an id already in use is left alone; an id of a record whose
items count as in use moves from expired to in use; any other id is expired. The entries
of a type are created empty the first time the type is met. -/
def classifyItem (podExist : Bool) (s : GCSets) (res : ResourceItem) : GCSets :=
  let s := { s with present := mapSet s.present res.type }
  if res.id ∈ s.inUse res.type then s
  else if podExist then
    { s with
      expire := Function.update s.expire res.type ((s.expire res.type).erase res.id)
      inUse := Function.update s.inUse res.type (mapSet (s.inUse res.type) res.id) }
  else { s with expire := Function.update s.expire res.type (mapSet (s.expire res.type) res.id) }

/-- Whether a record's items count as in use in a tick: its pod is live, or it is sticky. -/
def retained (live : List String) (rec : PodResources) : Bool :=
  decide (rec.key ∈ live) || rec.podInfo.ipStickTime != 0

/-- A sticky record with its stickiness spent, as the pass rewrites it. -/
def stickSpent (rec : PodResources) : PodResources :=
  { rec with podInfo := { rec.podInfo with ipStickTime := 0 } }

@[simp] lemma key_stickSpent (rec : PodResources) : (stickSpent rec).key = rec.key := rfl

/-- One record of the outer loop: the record of an absent pod is rewritten with
`IPStickTime = 0` when sticky, and then counts as in use, or else queued for deletion; then
its items. -/
def classifyRecord (live : List String) (s : GCSets) (rec : PodResources) : GCSets :=
  let s :=
    if rec.key ∈ live then s
    else if rec.podInfo.ipStickTime ≠ 0 then { s with puts := s.puts ++ [stickSpent rec] }
    else { s with relateExpireList := s.relateExpireList ++ [rec.key] }
  rec.resources.foldl (classifyItem (retained live rec)) s

/-- The classification pass of a tick over the store's listing, with the keys of the live
pods. -/
def gcClassify (live : List String) (l : List PodResources) : GCSets :=
  l.foldl (classifyRecord live) GCSets.empty

/-! ### The invariant of the pass -/

/-- The maps hold, per type, the ids `K` marks in use and the ids `E` marks expired that `K`
does not; each map has distinct keys; the types with an entry are those `P` marks. -/
structure GCSets.Holds (s : GCSets) (P : ResourceType → Prop)
    (K E : ResourceType → String → Prop) : Prop where
  present : ∀ t, t ∈ s.present ↔ P t
  inUse : ∀ t x, x ∈ s.inUse t ↔ K t x
  expire : ∀ t x, x ∈ s.expire t ↔ E t x ∧ ¬K t x
  present_nodup : s.present.Nodup
  inUse_nodup : ∀ t, (s.inUse t).Nodup
  expire_nodup : ∀ t, (s.expire t).Nodup

namespace GCSets.Holds

variable {s : GCSets} {P P' : ResourceType → Prop} {K K' E E' : ResourceType → String → Prop}

lemma empty : GCSets.empty.Holds (fun _ => False) (fun _ _ => False) (fun _ _ => False) :=
  ⟨by simp [GCSets.empty], by simp [GCSets.empty], by simp [GCSets.empty], List.nodup_nil,
    fun _ => List.nodup_nil, fun _ => List.nodup_nil⟩

/-- `Holds` depends on the predicates only through what they mark. -/
lemma of_iff (h : s.Holds P K E) (hP : ∀ t, P t ↔ P' t) (hK : ∀ t x, K t x ↔ K' t x)
    (hE : ∀ t x, E t x ↔ E' t x) : s.Holds P' K' E' :=
  ⟨fun t => (h.present t).trans (hP t), fun t x => (h.inUse t x).trans (hK t x),
    fun t x => (h.expire t x).trans (by rw [hE, hK]), h.present_nodup, h.inUse_nodup,
    h.expire_nodup⟩

/-- `Holds` reads the maps only. -/
lemma of_maps {s' : GCSets} (h : s.Holds P K E) (hp : s'.present = s.present)
    (hi : s'.inUse = s.inUse) (he : s'.expire = s.expire) : s'.Holds P K E :=
  ⟨by rw [hp]; exact h.present, by rw [hi]; exact h.inUse, by rw [he]; exact h.expire,
    hp ▸ h.present_nodup, hi ▸ h.inUse_nodup, he ▸ h.expire_nodup⟩

/-- **One item**: the item's id is marked in use when its record's items count as in use,
and expired otherwise. -/
lemma classifyItem (h : s.Holds P K E) (b : Bool) (res : ResourceItem) :
    (Terway.classifyItem b s res).Holds (fun t => P t ∨ t = res.type)
      (fun t x => K t x ∨ b = true ∧ ⟨t, x⟩ = res)
      (fun t x => E t x ∨ b = false ∧ ⟨t, x⟩ = res) := by
  obtain ⟨t₀, x₀⟩ := res
  have hpres : ∀ t, t ∈ mapSet s.present t₀ ↔ P t ∨ t = t₀ := by simp [h.present]
  have hpn := nodup_mapSet t₀ h.present_nodup
  unfold Terway.classifyItem
  dsimp only
  split_ifs with hin hb
  · -- the id is already in use
    have hK : K t₀ x₀ := (h.inUse t₀ x₀).1 hin
    refine ⟨hpres, fun t x => ?_, fun t x => ?_, hpn, h.inUse_nodup, h.expire_nodup⟩
    · rw [h.inUse]
      exact ⟨.inl, by rintro (hk | ⟨-, ⟨⟩⟩) <;> assumption⟩
    · rw [h.expire]
      by_cases he : (⟨t, x⟩ : ResourceItem) = ⟨t₀, x₀⟩
      · cases he; simp [hK]
      · simp [he]
  · -- a record in use: from expired to in use
    subst hb
    refine ⟨hpres, fun t x => ?_, fun t x => ?_, hpn,
      nodup_update h.inUse_nodup (nodup_mapSet _ (h.inUse_nodup t₀)),
      nodup_update h.expire_nodup ((h.expire_nodup t₀).erase _)⟩
    · by_cases ht : t = t₀
      · subst ht; simp [h.inUse, eq_comm]
      · simp [Function.update_noteq ht, h.inUse, ht, Ne.symm ht]
    · by_cases ht : t = t₀
      · subst ht
        simp only [Function.update_same]
        rw [(h.expire_nodup t).mem_erase_iff, h.expire]
        simp only [ResourceItem.mk.injEq, true_and, Bool.true_eq_false, false_and, or_false, not_or]
        exact and_rotate
      · simp [Function.update_noteq ht, h.expire, ht, Ne.symm ht]
  · -- a record not in use: the id is expired
    have hb' : b = false := by simpa using hb
    subst hb'
    have hK : ¬K t₀ x₀ := fun hk => hin ((h.inUse t₀ x₀).2 hk)
    refine ⟨hpres, fun t x => by simp [h.inUse], fun t x => ?_, hpn, h.inUse_nodup,
      nodup_update h.expire_nodup (nodup_mapSet _ (h.expire_nodup t₀))⟩
    · by_cases ht : t = t₀
      · subst ht
        simp only [Function.update_same]
        rw [mem_mapSet, h.expire]
        by_cases hx : x = x₀ <;> simp [hx, hK]
      · simp [Function.update_noteq ht, h.expire, ht, Ne.symm ht]

/-- **The inner loop**: the ids of a record's items are marked in use when the record's
items count as in use, and expired otherwise. -/
lemma foldl_classifyItem (h : s.Holds P K E) (b : Bool) (its : List ResourceItem) :
    (its.foldl (Terway.classifyItem b) s).Holds (fun t => P t ∨ ∃ x, ⟨t, x⟩ ∈ its)
      (fun t x => K t x ∨ b = true ∧ ⟨t, x⟩ ∈ its)
      (fun t x => E t x ∨ b = false ∧ ⟨t, x⟩ ∈ its) := by
  induction its generalizing s P K E with
  | nil => exact h.of_iff (by simp) (by simp) (by simp)
  | cons it its ih =>
    refine (ih (h.classifyItem b it)).of_iff (fun t => ?_) (fun t x => ?_) (fun t x => ?_)
    · constructor
      · rintro ((hp | rfl) | ⟨x, hx⟩)
        exacts [.inl hp, .inr ⟨it.id, by simp⟩, .inr ⟨x, by simp [hx]⟩]
      · rintro (hp | ⟨x, hx⟩)
        · exact .inl (.inl hp)
        · rcases List.mem_cons.1 hx with rfl | hx
          exacts [.inl (.inr rfl), .inr ⟨x, hx⟩]
    · simp only [List.mem_cons, and_or_left, or_assoc]
    · simp only [List.mem_cons, and_or_left, or_assoc]

/-- **One record**: its items are marked in use when its pod is live or it is sticky, and
expired otherwise. -/
lemma classifyRecord (h : s.Holds P K E) (live : List String) (rec : PodResources) :
    (Terway.classifyRecord live s rec).Holds (fun t => P t ∨ ∃ x, ⟨t, x⟩ ∈ rec.resources)
      (fun t x => K t x ∨ retained live rec = true ∧ ⟨t, x⟩ ∈ rec.resources)
      (fun t x => E t x ∨ retained live rec = false ∧ ⟨t, x⟩ ∈ rec.resources) := by
  unfold Terway.classifyRecord
  split_ifs <;> apply foldl_classifyItem <;> exact h.of_maps rfl rfl rfl

/-- **The outer loop**, from any state. -/
lemma foldl_classifyRecord (h : s.Holds P K E) (live : List String) (l : List PodResources) :
    (l.foldl (Terway.classifyRecord live) s).Holds
      (fun t => P t ∨ ∃ rec ∈ l, ∃ x, ⟨t, x⟩ ∈ rec.resources)
      (fun t x => K t x ∨ ∃ rec ∈ l, retained live rec = true ∧ ⟨t, x⟩ ∈ rec.resources)
      (fun t x => E t x ∨ ∃ rec ∈ l, retained live rec = false ∧ ⟨t, x⟩ ∈ rec.resources) := by
  induction l generalizing s P K E with
  | nil => exact h.of_iff (by simp) (by simp) (by simp)
  | cons rec l ih =>
    refine (ih (h.classifyRecord live rec)).of_iff (fun t => ?_) (fun t x => ?_) (fun t x => ?_)
    all_goals simp only [List.mem_cons, exists_eq_or_imp, or_assoc]

end GCSets.Holds

@[simp] lemma classifyItem_relateExpireList (b : Bool) (s : GCSets) (res : ResourceItem) :
    (classifyItem b s res).relateExpireList = s.relateExpireList := by
  unfold classifyItem; dsimp only; split_ifs <;> rfl

@[simp] lemma classifyItem_puts (b : Bool) (s : GCSets) (res : ResourceItem) :
    (classifyItem b s res).puts = s.puts := by
  unfold classifyItem; dsimp only; split_ifs <;> rfl

@[simp] lemma foldl_classifyItem_relateExpireList (b : Bool) (its : List ResourceItem)
    (s : GCSets) : (its.foldl (classifyItem b) s).relateExpireList = s.relateExpireList := by
  induction its generalizing s with
  | nil => rfl
  | cons it its ih => simp [ih]

@[simp] lemma foldl_classifyItem_puts (b : Bool) (its : List ResourceItem) (s : GCSets) :
    (its.foldl (classifyItem b) s).puts = s.puts := by
  induction its generalizing s with
  | nil => rfl
  | cons it its ih => simp [ih]

/-- The outer loop queues the records of absent pods that are not sticky for deletion, and
rewrites the sticky ones, in the order of the listing. -/
lemma foldl_classifyRecord_lists (live : List String) (l : List PodResources) (s : GCSets) :
    (l.foldl (classifyRecord live) s).relateExpireList = s.relateExpireList ++
        (l.filter fun rec => rec.key ∉ live ∧ rec.podInfo.ipStickTime = 0).map (·.key) ∧
      (l.foldl (classifyRecord live) s).puts = s.puts ++
        (l.filter fun rec => rec.key ∉ live ∧ rec.podInfo.ipStickTime ≠ 0).map stickSpent := by
  induction l generalizing s with
  | nil => simp
  | cons rec l ih =>
    rw [List.foldl_cons, (ih _).1, (ih _).2]
    unfold classifyRecord
    by_cases hl : rec.key ∈ live
    · simp [hl]
    · by_cases hs : rec.podInfo.ipStickTime = 0 <;> simp [hl, hs]

@[simp] lemma gcClassify_relateExpireList (live : List String) (l : List PodResources) :
    (gcClassify live l).relateExpireList =
      (l.filter fun rec => rec.key ∉ live ∧ rec.podInfo.ipStickTime = 0).map (·.key) := by
  simpa [GCSets.empty] using (foldl_classifyRecord_lists live l GCSets.empty).1

@[simp] lemma gcClassify_puts (live : List String) (l : List PodResources) :
    (gcClassify live l).puts =
      (l.filter fun rec => rec.key ∉ live ∧ rec.podInfo.ipStickTime ≠ 0).map stickSpent := by
  simpa [GCSets.empty] using (foldl_classifyRecord_lists live l GCSets.empty).2

@[simp] lemma retained_eq_true {live : List String} {rec : PodResources} :
    retained live rec = true ↔ rec.key ∈ live ∨ rec.podInfo.ipStickTime ≠ 0 := by
  simp [retained]

@[simp] lemma retained_eq_false {live : List String} {rec : PodResources} :
    retained live rec = false ↔ rec.key ∉ live ∧ rec.podInfo.ipStickTime = 0 := by
  simp [retained]

/-- The pass over a listing: the maps hold the items of the records, in use when the pod
is live or the record sticky, expired otherwise. -/
lemma gcClassify_holds (live : List String) (l : List PodResources) :
    (gcClassify live l).Holds (fun t => ∃ rec ∈ l, ∃ x, ⟨t, x⟩ ∈ rec.resources)
      (fun t x => ∃ rec ∈ l, retained live rec = true ∧ ⟨t, x⟩ ∈ rec.resources)
      (fun t x => ∃ rec ∈ l, retained live rec = false ∧ ⟨t, x⟩ ∈ rec.resources) :=
  (GCSets.Holds.empty.foldl_classifyRecord live l).of_iff (by simp) (by simp) (by simp)

/-- **GC classification is exact and order-independent** (spec §4.3): for every listing of
the store and every set of live pods, the pass's maps have an entry for exactly the types
some record holds; `inUse` holds exactly the ids of the items of records whose pod is live
or that are sticky; `expire` exactly the ids of the other records' items that are not in
use, so no id of a live or sticky record is expired; `relateExpireList` lists exactly the
keys of the other records; and a permutation of the listing permutes each of them. -/
theorem gcClassify_exact (live : List String) (l : List PodResources) :
    let s := gcClassify live l
    (∀ t, t ∈ s.present ↔ ∃ rec ∈ l, ∃ x, ⟨t, x⟩ ∈ rec.resources) ∧
    (∀ t x, x ∈ s.inUse t ↔
      ∃ rec ∈ l, ⟨t, x⟩ ∈ rec.resources ∧ (rec.key ∈ live ∨ rec.podInfo.ipStickTime ≠ 0)) ∧
    (∀ t x, x ∈ s.expire t ↔
      (∃ rec ∈ l, ⟨t, x⟩ ∈ rec.resources ∧ rec.key ∉ live ∧ rec.podInfo.ipStickTime = 0) ∧
        x ∉ s.inUse t) ∧
    (∀ t x, x ∈ s.inUse t → x ∉ s.expire t) ∧
    s.relateExpireList =
      (l.filter fun rec => rec.key ∉ live ∧ rec.podInfo.ipStickTime = 0).map (·.key) ∧
    ∀ l', l'.Perm l → ∀ t,
      (gcClassify live l').present.Perm s.present ∧
      ((gcClassify live l').inUse t).Perm (s.inUse t) ∧
      ((gcClassify live l').expire t).Perm (s.expire t) ∧
      (gcClassify live l').relateExpireList.Perm s.relateExpireList := by
  have hl := gcClassify_holds live l
  have hin : ∀ t x, x ∈ (gcClassify live l).inUse t ↔
      ∃ rec ∈ l, ⟨t, x⟩ ∈ rec.resources ∧ (rec.key ∈ live ∨ rec.podInfo.ipStickTime ≠ 0) := by
    simp [hl.inUse, and_comm]
  refine ⟨hl.present, hin, fun t x => ?_, fun t x hx hx' => ?_, gcClassify_relateExpireList _ _,
    fun l' hp t => ?_⟩
  · rw [hl.expire, hin]
    simp [and_comm, and_left_comm]
  · exact ((hl.expire t x).1 hx').2 ((hl.inUse t x).1 hx)
  · have hl' := gcClassify_holds live l'
    refine ⟨(List.perm_ext_iff_of_nodup hl'.present_nodup hl.present_nodup).2 fun t => ?_,
      (List.perm_ext_iff_of_nodup (hl'.inUse_nodup t) (hl.inUse_nodup t)).2 fun x => ?_,
      (List.perm_ext_iff_of_nodup (hl'.expire_nodup t) (hl.expire_nodup t)).2 fun x => ?_,
      by simpa using (hp.filter _).map _⟩
    · simp only [hl.present, hl'.present, hp.mem_iff]
    · simp only [hl.inUse, hl'.inUse, hp.mem_iff]
    · simp only [hl.expire, hl'.expire, hl.inUse, hl'.inUse, hp.mem_iff]

end Terway

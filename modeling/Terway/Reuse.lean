import Terway.PodCall

/-!
A pod keeps its ids (`daemon.go`, spec §3, §4.2): across a restart of the daemon, through the
restore map of `newNetworkService`, and across a repeated `AllocIP`, through the old id each
`allocate*` helper passes to `Allocate`.

Before it starts the resource managers, the daemon lists the store and builds
`localResource`: by type, then by id, the item and the pod of the record that lists it, a
later record overwriting an earlier one. It hands the map of the mode's pool type to that
pool's manager, so that a restarted daemon knows which pod holds each id. The loop does not
check that two records never share an item; on every store the daemon reaches no two records
share one (every item of a record is held by its pool for the record's pod, and each id for
one pod), so there the map is exact.

An `AllocIP` for a pod that has a record asks each manager for the id of the record's item of
its type (`oldResID`). On every reachable daemon the pool still holds that id for the pod, so
an `Allocate` the pools accept hands back the same id.

* `localResource`, `restoreLocalResource`: the map, and the `List` it is built from.
* `localResource_eq`: the map's entry is the last listed item of its type and id.
* `Daemon.Consistent.holder_unique`: on a consistent daemon an item is in one record.
* `reachable_localResource_exact`: the map on every reachable daemon.
* `reachable_allocIP_keeps_ids`: a repeated `AllocIP` on every reachable daemon.
-/

namespace Terway

/-! ### The map -/

/-- `resourceManagerInitItem`: an item of a record, and the pod of the record. -/
structure InitItem where
  item : ResourceItem
  podInfo : PodInfo
  deriving DecidableEq, Repr

/-- `map[string]map[string]resourceManagerInitItem`: by type, then by id. -/
abbrev RestoreMap := ResourceType → String → Option InitItem

/-- `localResource[res.Type][res.ID] = resourceManagerInitItem{item: res, podInfo: ...}`. -/
def restoreItem (m : RestoreMap) (v : InitItem) : RestoreMap :=
  Function.update m v.item.type (Function.update (m v.item.type) v.item.id (some v))

/-- The restore loop on one record: each of its items, in order. -/
def restoreRecord (m : RestoreMap) (podRes : PodResources) : RestoreMap :=
  podRes.resources.foldl (fun m res => restoreItem m ⟨res, podRes.podInfo⟩) m

/-- `localResource`: the restore loop over the listed records, from the empty map. -/
def localResource (resObjList : List PodResources) : RestoreMap :=
  resObjList.foldl restoreRecord fun _ _ => none

/-- The `List` of the store, then the restore loop; a failed `List` fails the daemon's start. -/
def restoreLocalResource (listErr : Option Err) (st : Store) : Except Err RestoreMap :=
  match listErr with
  | some e => .error (.wrap "error list resource relation db" e)
  | none => .ok (localResource st.list)

/-- The type of the map `newNetworkService` hands to a manager: the ENI manager's in the VPC and
ENI-only modes, the ENI-IP manager's in the ENI-multi-IP mode. The EIP and veth managers get
none. -/
def DaemonMode.restoreType : DaemonMode → ResourceType
  | .vpc => .eni
  | .eniMultiIP => .eniIP
  | .eniOnly => .eni

/-- The items of the records, each with the pod of its record, in the loop's order. -/
def restorePairs (resObjList : List PodResources) : List InitItem :=
  resObjList.flatMap fun podRes => podRes.resources.map (⟨·, podRes.podInfo⟩)

lemma restorePairs_cons (rec : PodResources) (recs : List PodResources) :
    restorePairs (rec :: recs) = rec.resources.map (⟨·, rec.podInfo⟩) ++ restorePairs recs :=
  List.flatMap_cons ..

/-- The entry an item sets. -/
def InitItem.Sets (t : ResourceType) (id : String) (v : InitItem) : Bool :=
  v.item.type = t ∧ v.item.id = id

/-! ### What the loop computes -/

section Loop

variable {t : ResourceType} {id : String}

lemma restoreItem_apply (m : RestoreMap) (v : InitItem) (t : ResourceType) (id : String) :
    restoreItem m v t id = if v.Sets t id then some v else m t id := by
  by_cases ht : t = v.item.type
  · subst ht
    by_cases hi : id = v.item.id <;> simp [restoreItem, InitItem.Sets, hi, eq_comm]
  · simp [restoreItem, InitItem.Sets, ht, Ne.symm ht]

/-- The loop over items leaves, at each type and id, the last item it visited there, or what
was there. -/
lemma foldl_restoreItem (vs : List InitItem) (m : RestoreMap) (t : ResourceType) (id : String) :
    vs.foldl restoreItem m t id = (vs.reverse.find? (InitItem.Sets t id)).or (m t id) := by
  induction vs generalizing m with
  | nil => rfl
  | cons v vs ih =>
    rw [List.foldl_cons, ih, List.reverse_cons, List.find?_append, Option.or_assoc,
      restoreItem_apply]
    congr 1
    by_cases hv : v.Sets t id <;> simp [hv]

lemma foldl_restoreRecord (recs : List PodResources) (m : RestoreMap) :
    recs.foldl restoreRecord m = (restorePairs recs).foldl restoreItem m := by
  induction recs generalizing m with
  | nil => rfl
  | cons rec recs ih =>
    rw [List.foldl_cons, ih, restorePairs_cons, List.foldl_append, List.foldl_map]
    rfl

/-- **The restore map**: its entry at a type and id is the last listed item of that type and
id, with the pod of its record. -/
lemma localResource_eq (recs : List PodResources) (t : ResourceType) (id : String) :
    localResource recs t id = (restorePairs recs).reverse.find? (InitItem.Sets t id) := by
  rw [localResource, foldl_restoreRecord, foldl_restoreItem, Option.or_none]

lemma mem_restorePairs {recs : List PodResources} {v : InitItem} :
    v ∈ restorePairs recs ↔ ∃ rec ∈ recs, v.item ∈ rec.resources ∧ v.podInfo = rec.podInfo := by
  simp only [restorePairs, List.mem_flatMap, List.mem_map]
  constructor
  · rintro ⟨rec, hrec, it, hit, rfl⟩
    exact ⟨rec, hrec, hit, rfl⟩
  · rintro ⟨rec, hrec, hit, hp⟩
    exact ⟨rec, hrec, v.item, hit, by rw [← hp]⟩

end Loop

/-! ### The map on the daemon's stores -/

/-- On a consistent daemon an item is in one record: both records' pods hold it in its pool,
and each id is held for one pod. -/
lemma Daemon.Consistent.holder_unique {d : Daemon} (h : d.Consistent) {rec rec' : PodResources}
    (hrec : rec ∈ d.store.records) (hrec' : rec' ∈ d.store.records) {it : ResourceItem}
    (hit : it ∈ rec.resources) (hit' : it ∈ rec'.resources) : rec = rec' := by
  have hkey : rec.key = rec'.key :=
    h.unique _ (h.bound rec hrec it hit) _ (h.bound rec' hrec' it hit') rfl rfl
  have hget := Store.get_eq_some_iff.2 hrec
  rw [hkey, Store.get_eq_some_iff.2 hrec'] at hget
  exact (Option.some.inj hget).symm

/-- **A restart restores every item to the pod that holds it.** On every daemon reached from
the empty one, the restore map's entry at an item's type and id is the item with the pod of a
record that holds it, and there is one exactly when a record holds it; the overwriting of
the loop never picks another pod, since no two records share an item. -/
theorem reachable_localResource_exact (n : NetworkService) (env : NodeEnv) {d : Daemon}
    (h : d.Reachable n env) (it : ResourceItem) (v : InitItem) :
    localResource d.store.list it.type it.id = some v ↔
      v.item = it ∧ ∃ rec ∈ d.store.records, it ∈ rec.resources ∧ rec.podInfo = v.podInfo := by
  have hitem : ∀ w : InitItem, w.Sets it.type it.id = true → w.item = it := fun ⟨⟨t, i⟩, _⟩ hw => by
    simp only [InitItem.Sets, Bool.decide_and, Bool.and_eq_true, decide_eq_true_eq] at hw
    obtain ⟨rfl, rfl⟩ := hw
    rfl
  rw [Store.list, localResource_eq]
  constructor
  · intro hv
    obtain ⟨rec, hrec, hmem, hp⟩ := mem_restorePairs.1 (List.mem_reverse.1 (List.mem_of_find?_eq_some hv))
    have hv' := hitem v (List.find?_some hv)
    exact ⟨hv', rec, hrec, hv' ▸ hmem, hp.symm⟩
  · rintro ⟨rfl, rec, hrec, hmem, hp⟩
    have hsets : v.Sets v.item.type v.item.id = true := by simp [InitItem.Sets]
    obtain ⟨w, hw⟩ := Option.isSome_iff_exists.1 (List.find?_isSome.2
      ⟨v, List.mem_reverse.2 (mem_restorePairs.2 ⟨rec, hrec, hmem, hp.symm⟩), hsets⟩)
    obtain ⟨rec', hrec', hmem', hp'⟩ :=
      mem_restorePairs.1 (List.mem_reverse.1 (List.mem_of_find?_eq_some hw))
    have hw' := hitem w (List.find?_some hw)
    rw [hw'] at hmem'
    obtain rfl := h.consistent.holder_unique hrec hrec' hmem hmem'
    rw [hw]
    obtain ⟨wi, wp⟩ := w
    obtain ⟨vi, vp⟩ := v
    simp only at hw' hp hp'
    rw [hw', hp', hp]

theorem reachable_localResource_exact_eip :
    ∃ d, Daemon.empty.handle eipService plainNode (.alloc eipGranted eipRequest) = some d ∧
      ∀ it v, localResource d.store.list it.type it.id = some v ↔
        v.item = it ∧ ∃ rec ∈ d.store.records, it ∈ rec.resources ∧ rec.podInfo = v.podInfo :=
  ⟨_, rfl, reachable_localResource_exact eipService plainNode
    (.step (q := .alloc eipGranted eipRequest) .empty ⟨rfl, rfl, fun _ => rfl⟩ trivial rfl)⟩

/-! ### A repeated `AllocIP` -/

/-- An `Allocate` whose old id the pool holds for the pod is answered with that id. -/
lemma Pools.eq_of_applyEffect_allocate {freed : ResourceType → List String → List String}
    {ps ps' : Pools} {t : ResourceType} {pod prior id : String} (hh : ⟨t, prior, pod⟩ ∈ ps)
    (he : ps.applyEffect freed (.allocate t pod prior (some id)) = some ps') : id = prior := by
  rw [Pools.applyEffect, if_pos hh] at he
  by_contra hne
  rw [if_neg hne] at he
  cases he

/-- An `Allocate` of `AllocIP` is in its body: the rollback only deletes and releases, and the
success arm only patches the pod. -/
lemma allocate_mem_allocIPBody_of_allocIP {n : NetworkService} {env : NodeEnv}
    {o : AllocOutcomes} {st : Store} {r : AllocIPRequest} {p : PodInfo} (hp : o.getPod = .ok p)
    {t : ResourceType} {key prior : String} {res : Option String}
    (he : .allocate t key prior res ∈ (allocIP n env o st r).effects) :
    ∃ tail, (allocIP n env o st r).effects = (allocIPBody n env o st r).effects ++ tail ∧
      .allocate t key prior res ∈ (allocIPBody n env o st r).effects := by
  obtain ⟨tail, hes, htail⟩ := allocIP_effects_tail n env o st r hp
  rw [hes] at he
  refine ⟨tail, hes, (List.mem_append.1 he).resolve_right fun he => ?_⟩
  rcases htail _ he with ⟨_, h⟩ | ⟨_, _, _, h⟩ | ⟨_, h⟩ <;> cases h

/-- **A repeated `AllocIP` hands back the pod's ids.** On every daemon reached from the
empty one, an `AllocIP` for a pod whose record holds one item of a type passes that item's id
to the manager of the type; the pool still holds the id for the pod, since the body releases
nothing before, so every `Allocate` of that type the pools accept answers the same id. A
retried or repeated `AllocIP`, whatever its sandbox, keeps the pod's addresses. -/
theorem reachable_allocIP_keeps_ids (n : NetworkService) (env : NodeEnv) {d d' : Daemon}
    (h : d.Reachable n env) {o : AllocOutcomes} {r : AllocIPRequest} {p : PodInfo}
    (hp : o.getPod = .ok p) {old : PodResources} (hold : d.store.get p.key = some old)
    {it : ResourceItem} (hone : old.getResourceItemByType it.type = [it])
    (hd : d.handle n env (.alloc o r) = some d') {key prior id : String}
    (he : .allocate it.type key prior (some id) ∈ (allocIP n env o d.store r).effects) :
    id = it.id := by
  obtain ⟨tail, hes, hbody⟩ := allocate_mem_allocIPBody_of_allocIP hp he
  have hlog := allocIPBody_allocLog n env o d.store r hp
  obtain rfl : key = p.key := by
    rcases hlog _ hbody with ⟨_, _, _, he⟩ | ⟨_, _, he, -⟩ <;> cases he
    rfl
  obtain rfl : prior = it.id := by
    rw [allocate_mem_allocIPBody n env o d.store r hp hbody, hold]
    simp [oldResID, hone]
  -- the pool holds the id for the pod before the body's calls
  have hkey := Store.key_of_get hold
  have hit : it ∈ old.resources := List.mem_of_mem_filter (hone.symm ▸ List.mem_singleton_self it)
  have hheld := h.consistent.bound old (Store.get_eq_some_iff.1 (hkey ▸ hold)) it hit
  rw [hkey] at hheld
  -- and still at the `Allocate`, since the calls before it free nothing
  obtain ⟨pre, post, hsplit⟩ := List.append_of_mem hbody
  have hpools := (Daemon.handle_eq_some hd).2
  simp only [Request.effects, hes, hsplit, List.append_assoc, List.cons_append,
    Pools.applyEffects_append, Pools.applyEffects_cons] at hpools
  obtain ⟨ps₁, hpre, hrest⟩ := Option.bind_eq_some.1 hpools
  obtain ⟨ps₂, hcall, -⟩ := Option.bind_eq_some.1 hrest
  have hfree : ∀ e ∈ pre, e.frees (Request.alloc o r).freed it.type it.id = false := fun e he =>
    hlog.frees_eq_false _ _ _ e (hsplit ▸ List.mem_append_left _ he)
  exact Pools.eq_of_applyEffect_allocate (Pools.mem_applyEffects hheld hfree hpre) hcall

theorem reachable_allocIP_keeps_ids_eip :
    ∃ d d', Daemon.empty.handle eipService plainNode (.alloc eipGranted eipRequest) = some d ∧
      d.handle eipService plainNode (.alloc eipGranted eipRequest) = some d' ∧
      ∀ key prior id, .allocate .eniIP key prior (some id) ∈
        (allocIP eipService plainNode eipGranted d.store eipRequest).effects →
          id = "eni-1.10.0.0.9" :=
  ⟨_, _, rfl, rfl, fun key prior id he =>
    @reachable_allocIP_keeps_ids eipService plainNode _ _
      (.step (q := .alloc eipGranted eipRequest) .empty ⟨rfl, rfl, fun _ => rfl⟩ trivial rfl)
      eipGranted eipRequest eipPod rfl _ rfl ⟨.eniIP, "eni-1.10.0.0.9"⟩ rfl rfl key prior id he⟩

end Terway

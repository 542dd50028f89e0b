import Terway.Consistency
import Terway.GC.Faults

/-!
The records the daemon writes, over its runs (spec §3): from an empty store, whatever the
collaborators answer (the pod read, the store's own calls, the managers' `Allocate`,
`Release` and `GarbageCollection`, the cancellation of a request), every record of the store
holds at least one item, no item twice, and only items of a type the daemon mode has a
manager for. A record is written only by the `Put` of `AllocIP`, of the items its `Allocate`
calls produced, or by the `Put` of a sticky record in a GC tick, with its items unchanged.

Two consequences. The garbage-collection tick calls `GarbageCollection` on the entry of
every type a record holds, without the `nil` check (`gcTick_calls_nil_eip_manager`); on
these stores no record holds a type without a manager, so no tick panics: the panic needs
a store written under another configuration. And `ReleaseIP` skips the items whose type has
no manager; on these stores there are none, so a `ReleaseIP` whose calls succeed hands back
every item of the pod's record, each once, and deletes the record.

* `Store.Reachable`: the stores of every run of `AllocIP`, `ReleaseIP` and GC ticks.
* `RecordOK`: at least one item, no item twice, each with a manager.
* `recordOK_of_put_allocIP`, `put_not_mem_releaseIP`, `recordOK_of_put_gcTick`: what each
  handler can `Put`.
* `reachable_records_ok`: every record of every reachable store is `RecordOK`.
* `reachable_gcTick_not_panicked`: no tick panics on a reachable store.
* `reachable_releaseIP_releases_all`: `ReleaseIP` on a reachable store.
-/

namespace Terway

/-! ### The records a handler writes -/

/-- A record the daemon writes: it holds an item, no item twice, and only items whose type
has a manager; and it keeps the pod's network namespace and sandbox container id. -/
structure RecordOK (n : NetworkService) (rec : PodResources) : Prop where
  ne_nil : rec.resources ≠ []
  nodup : rec.resources.Nodup
  registered : ∀ it ∈ rec.resources, n.getResourceManagerForRes it.type = true
  netNs : rec.netNs.isSome = true
  containerID : rec.containerID.isSome = true

section Handlers

variable {n : NetworkService} {env : NodeEnv} {rec : PodResources}

/-- **`AllocIP` writes a well-formed record**: the record of the items its branch recorded. -/
lemma recordOK_of_put_allocIP {o : AllocOutcomes} {st : Store} {r : AllocIPRequest}
    (h : .put rec none ∈ (allocIP n env o st r).effects) : RecordOK n rec := by
  cases hp : o.getPod with
  | error e =>
    simp [allocIP, hp, (allocIPBody_getPod_error n env o st r hp).1] at h
  | ok p =>
    have hbody : .put rec none ∈ (allocIPBody n env o st r).effects := by
      rcases allocIP_effects_cases n env o st r hp with he | ⟨tail, he, htail⟩ <;>
        rw [he, List.mem_append] at h <;> refine h.resolve_right fun h' => ?_
      · rcases mem_rollback n o p.key h' with ⟨_, h'⟩ | ⟨_, _, _, h'⟩ <;> cases h'
      · obtain ⟨_, h'⟩ := htail _ h'
        cases h'
    have hrec := put_mem_allocIPBody n env o st r hbody
    have heq : rec.resources = (allocIPBody n env o st r).resources :=
      congrArg PodResources.resources hrec
    obtain ⟨hnd, hreg⟩ := allocIPBody_resources n env o st r
    rw [← heq] at hnd hreg
    exact ⟨heq ▸ (allocIPBody_disciplined n env o st r).writes _ hbody rfl, hnd, hreg,
      by rw [hrec]; rfl, by rw [hrec]; rfl⟩

/-- `ReleaseIP` never `Put`s. -/
lemma put_not_mem_releaseIP {o : ReleaseOutcomes} {st : Store} {r : ReleaseIPRequest}
    {err : Option Err} : .put rec err ∉ (releaseIP n o st r).effects := by
  rcases releaseIP_effects_cases n o st r with he | ⟨p, rec', -, -, he⟩ <;> rw [he]
  · exact List.not_mem_nil _
  · exact put_not_mem_releaseLoop n o p rec err 0 rec'.resources

/-- A GC tick `Put`s only a record of the store with its stick time spent. -/
lemma put_mem_gcTick {ord : MapOrder} {parseCIDR : String → Option String} {o : GCOutcomes}
    {st : Store} {err : Option Err} (h : .put rec err ∈ (gcTick n ord parseCIDR o st).effects) :
    ∃ rec₀ ∈ st.records, rec = stickSpent rec₀ := by
  cases hpods : o.localPods with
  | error e => simp [gcTick_unobserved n ord parseCIDR o st (.inl ⟨e, hpods⟩)] at h
  | ok pods =>
    cases hlist : o.listErr with
    | some e => simp [gcTick_unobserved n ord parseCIDR o st (.inr ⟨e, hlist⟩)] at h
    | none =>
      rcases mem_gcTick_effects n ord parseCIDR o st hpods hlist h with
        ⟨rec₀, hrec₀, -, -, he⟩ | he | ⟨-, -, ⟨a, he | he⟩ | ⟨_, -, -, -, he⟩⟩
      · cases he
        exact ⟨rec₀, hrec₀, rfl⟩
      · obtain ⟨t, -, -, he⟩ := mem_gcRound_calls he
        cases he
      all_goals cases he

end Handlers

/-! ### Runs -/

/-- The stores of every run from the empty store of `AllocIP`, `ReleaseIP` and GC ticks, for
any pods and whatever the collaborators answer. -/
inductive Store.Reachable (n : NetworkService) (env : NodeEnv) : Store → Prop
  | empty : Store.Reachable n env Store.empty
  | step {st : Store} (q : Request) : Store.Reachable n env st →
      Store.Reachable n env (st.applyEffects (q.effects n env st))

/-- The daemon's runs of `Terway.Consistency` are runs of its store. -/
lemma Daemon.Reachable.store_reachable {n : NetworkService} {env : NodeEnv} {d : Daemon}
    (h : d.Reachable n env) : d.store.Reachable n env := by
  induction h with
  | empty => exact .empty
  | step _ _ _ hq ih => exact (Daemon.handle_eq_some hq).1 ▸ .step _ ih

variable {n : NetworkService} {env : NodeEnv}

/-- **Step lemma**: every request keeps every record well formed. -/
lemma recordOK_step {st : Store} (h : ∀ rec ∈ st.records, RecordOK n rec) (q : Request) :
    ∀ rec ∈ (st.applyEffects (q.effects n env st)).records, RecordOK n rec := by
  intro rec hrec
  rcases Store.mem_records_applyEffects hrec with hrec | hput
  · exact h rec hrec
  cases q with
  | alloc o r => exact recordOK_of_put_allocIP hput
  | release o r => exact absurd hput put_not_mem_releaseIP
  | gc ord parseCIDR o freed =>
    obtain ⟨rec₀, hrec₀, rfl⟩ := put_mem_gcTick hput
    have h₀ := h rec₀ hrec₀
    exact ⟨h₀.ne_nil, h₀.nodup, h₀.registered, h₀.netNs, h₀.containerID⟩

/-- **Run lemma**: every record of a reachable store is well formed. -/
lemma Store.Reachable.recordOK {st : Store} (h : st.Reachable n env) :
    ∀ rec ∈ st.records, RecordOK n rec := by
  induction h with
  | empty => exact fun _ h => absurd h (List.not_mem_nil _)
  | step q _ ih => exact recordOK_step ih q

/-- **The records of every run are well formed.** In every store reached from the empty
store by `AllocIP`, `ReleaseIP` and GC ticks, for any pods and whatever the collaborators
answer, every record holds at least one item, no item twice, and only items of a type with
a manager in the daemon's mode. -/
theorem reachable_records_ok (n : NetworkService) (env : NodeEnv) {st : Store}
    (h : st.Reachable n env) :
    ∀ rec ∈ st.records, rec.resources ≠ [] ∧ rec.resources.Nodup ∧
      ∀ it ∈ rec.resources, n.getResourceManagerForRes it.type = true :=
  fun rec hrec => ⟨(h.recordOK rec hrec).ne_nil, (h.recordOK rec hrec).nodup,
    (h.recordOK rec hrec).registered⟩

/-- The records after `AllocIP` granted `eipPod` its ENI-IP and EIP. -/
theorem reachable_records_ok_eip :
    ∃ rec ∈ (Store.empty.applyEffects
        (allocIP eipService plainNode eipGranted Store.empty eipRequest).effects).records,
      rec.resources ≠ [] ∧ rec.resources.Nodup ∧
        ∀ it ∈ rec.resources, eipService.getResourceManagerForRes it.type = true :=
  ⟨_, List.mem_cons_self _ _, reachable_records_ok eipService plainNode
    (.step (.alloc eipGranted eipRequest) .empty) _ (List.mem_cons_self _ _)⟩

/-- **No tick panics on a reachable store.** A GC tick calls `GarbageCollection` on the entry
of every type a record holds, `nil` or not; on every store reached from the empty store, no
record holds a type whose entry is `nil`, so no tick panics, whatever the node's pods and the
collaborators' answers. -/
theorem reachable_gcTick_not_panicked (n : NetworkService) (env : NodeEnv) {st : Store}
    (h : st.Reachable n env) (ord : MapOrder) (parseCIDR : String → Option String)
    (o : GCOutcomes) : (gcTick n ord parseCIDR o st).panicked = false := by
  refine Bool.eq_false_iff.2 fun hp => ?_
  obtain ⟨-, -, rec, hrec, it, hit, hm⟩ := (gcTick_panicked_iff n ord parseCIDR o st).1 hp
  have hreg := (h.recordOK rec hrec).registered it hit
  simp [NetworkService.getResourceManagerForRes, hm] at hreg

/-- A tick after `AllocIP` granted `eipPod` its ENI-IP and EIP, with the pod gone. -/
theorem reachable_gcTick_not_panicked_eip :
    (gcTick eipService MapOrder.insertion (fun _ => none) (quietTick []) (Store.empty.applyEffects
      (allocIP eipService plainNode eipGranted Store.empty eipRequest).effects)).panicked = false :=
  reachable_gcTick_not_panicked eipService plainNode (.step (.alloc eipGranted eipRequest) .empty)
    _ _ _

/-- **`ReleaseIP` hands back a whole record.** On every store reached from the empty store, a
`ReleaseIP` whose `GetPod` answers a pod of a network type the mode serves
(daemon.go:545-548), for the sandbox of the pod's record, of a pod that is not sticky, with
the store answering, every `Release` answering `nil` or `ErrInvalidState`, every delete
succeeding and the request not cancelled, succeeds, releases exactly the record's items,
each once, and leaves no record of the pod: no item is skipped for want of a manager, and
the record is deleted because it holds an item. -/
theorem reachable_releaseIP_releases_all (n : NetworkService) (env : NodeEnv) {st : Store}
    (h : st.Reachable n env) {o : ReleaseOutcomes} {r : ReleaseIPRequest} {p : PodInfo}
    {rec : PodResources} (hp : o.getPod = .ok p) (hg : o.getErr = none)
    (hv : n.verifyPodNetworkType p.podNetworkType = true) (hrec : st.get p.key = some rec)
    (hc : rec.containerID = some r.k8sPodInfraContainerId) (hs : p.ipStickTime = 0)
    (hrel : ∀ i, releaseOk (o.releaseErr i) = true) (hdel : ∀ i, o.deleteErr i = none)
    (hcan : o.cancelled = false) :
    (∃ R, (releaseIP n o st r).reply = .ok R) ∧
      releasedItems (releaseIP n o st r).effects = rec.resources ∧ rec.resources.Nodup ∧
      (st.applyEffects (releaseIP n o st r).effects).get p.key = none := by
  have hok := h.recordOK rec (Store.get_eq_some_iff.1 (Store.key_of_get hrec ▸ hrec))
  obtain ⟨heff, hreply, -⟩ := releaseIP_of_record hp hg hv hrec hc
  obtain ⟨h0, hitems, -⟩ := releaseLoop_ok n o p hrel hdel 0 rec.resources
  have hall : releasedItems (releaseLoop n o p 0 rec.resources).1 = rec.resources := by
    rw [hitems, List.filter_eq_self]
    intro it hit
    simp [hok.registered it hit, hs]
  rw [heff]
  exact ⟨hreply h0 hcan, hall, hok.nodup,
    releaseLoop_get n o p hrel hdel st 0 (by rw [hall]; exact hok.ne_nil)⟩

/-- `eipPod` read back by `ReleaseIP`, with every `Release` and delete succeeding. -/
def eipReleased : ReleaseOutcomes where
  getPod := .ok eipPod
  getErr := none
  releaseErr := fun _ => none
  deleteErr := fun _ => none
  cancelled := false

/-- `ReleaseIP` after `AllocIP` granted `eipPod` its ENI-IP and EIP: both are released and
the record is gone. -/
theorem reachable_releaseIP_releases_all_eip :
    releasedItems (releaseIP eipService eipReleased (Store.empty.applyEffects
        (allocIP eipService plainNode eipGranted Store.empty eipRequest).effects)
          ⟨"web-0", "default", "c1"⟩).effects = [⟨.eniIP, "eni-1.10.0.0.9"⟩, ⟨.eip, "eip-1"⟩] ∧
      ((Store.empty.applyEffects
        (allocIP eipService plainNode eipGranted Store.empty eipRequest).effects).applyEffects
          (releaseIP eipService eipReleased (Store.empty.applyEffects
            (allocIP eipService plainNode eipGranted Store.empty eipRequest).effects)
              ⟨"web-0", "default", "c1"⟩).effects).get eipPod.key = none := by
  obtain ⟨-, hitems, -, hgone⟩ := reachable_releaseIP_releases_all eipService plainNode
    (.step (.alloc eipGranted eipRequest) .empty) (o := eipReleased)
    (r := ⟨"web-0", "default", "c1"⟩) (p := eipPod) rfl rfl rfl rfl rfl rfl (fun _ => rfl)
    (fun _ => rfl) rfl
  exact ⟨hitems, hgone⟩

end Terway

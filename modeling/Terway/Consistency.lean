import Terway.Pool
import Terway.Rollback
import Terway.Reply

/-!
Store/pool consistency of the daemon over its runs (spec §3, §6): in every state reached from
an empty store and empty pools by `AllocIP`, `ReleaseIP` and GC ticks, whose store calls
succeed, every item of a record is held by its pool for the record's pod, as long as every
GC tick either succeeds or frees nothing.

The two exceptions are by design. A GC tick deletes the expired records only when every
`GarbageCollection` succeeded (`gcDone`), so a tick in which one manager frees ids and
another fails keeps records whose ids a pool has freed, until a later tick succeeds. The
converse direction, that every held id is recorded, does not hold: a `Release` that fails
in the rollback of `AllocIP` is only logged, and the record is gone.

* `Daemon.Consistent`: no stale binding, and each id held for one pod.
* `consistent_alloc`, `consistent_release`, `consistent_gc`: each handler keeps it.
* `Daemon.Reachable`: the runs of such requests from the empty daemon.
* `reachable_no_stale_binding`: no stale binding, and each id held for one pod, in every
  reachable state.
* `pool_consistency_fails`: a run that leaks an id, and one that leaves a stale binding.
-/

namespace Terway

/-- The store and the pools agree: every item of a record is held for the record's pod, and
each id is held for one pod. -/
structure Daemon.Consistent (d : Daemon) : Prop where
  bound : d.NoStaleBinding
  unique : d.pools.Unique

/-- A request settles unless it is a GC tick that fails and frees something. -/
def Request.Settles (n : NetworkService) (st : Store) : Request → Prop
  | .gc ord parseCIDR o freed =>
    (gcTick n ord parseCIDR o st).Succeeded ∨
      ∀ e ∈ (gcTick n ord parseCIDR o st).effects, ∀ t id, e.frees freed t id = false
  | _ => True

/-! ### `AllocIP` -/

/-- The log of a branch frees nothing. -/
lemma AllocLog.frees_eq_false {key : String} {es : List Effect} (h : AllocLog key es)
    (freed : ResourceType → List String → List String) (t : ResourceType) (id : String) :
    ∀ e ∈ es, e.frees freed t id = false := by
  intro e he
  rcases h e he with ⟨_, _, _, rfl⟩ | ⟨_, _, rfl, -⟩ <;> rfl

/-- The pod-IP patch is the only thing the success arm adds. -/
lemma mem_podIPPatches {l : List NetConf} {e : Effect} (he : e ∈ podIPPatches l) :
    ∃ ips, e = .patchPodIPInfo ips := by
  obtain ⟨c, -, hc⟩ := List.mem_filterMap.1 he
  split_ifs at hc
  split at hc <;> cases hc
  exact ⟨_, rfl⟩

/-- Once the pod is read, the log of `AllocIP` is the body's log, then either the rollback
of what the body recorded or only pod-IP patches. -/
lemma allocIP_effects_cases (n : NetworkService) (env : NodeEnv) (o : AllocOutcomes)
    (st : Store) (r : AllocIPRequest) {p : PodInfo} (hp : o.getPod = .ok p) :
    (allocIP n env o st r).effects = (allocIPBody n env o st r).effects ++
        rollback n o p.key 0 (allocIPBody n env o st r).resources ∨
      ∃ tail, (allocIP n env o st r).effects = (allocIPBody n env o st r).effects ++ tail ∧
        ∀ e ∈ tail, ∃ ips, e = .patchPodIPInfo ips := by
  simp only [allocIP, hp]
  split_ifs
  · exact .inl rfl
  · split
    · exact .inr ⟨_, rfl, fun _ => mem_podIPPatches⟩
    · exact .inr ⟨[], by simp, by simp⟩

variable {d : Daemon} {ps' : Pools} {freed : ResourceType → List String → List String}

/-- A branch's log, followed by pod-IP patches, keeps every record bound: the records before
keep their ids, and the record it writes holds what it allocated for the pod. -/
lemma bound_of_allocLog (hd : d.Consistent) {key : String} {es tail : List Effect}
    (hlog : AllocLog key es) (htail : ∀ e ∈ tail, ∃ ips, e = .patchPodIPInfo ips)
    (hps : d.pools.applyEffects freed (es ++ tail) = some ps') :
    ∀ rec ∈ (d.store.applyEffects (es ++ tail)).records, ∀ it ∈ rec.resources,
      (⟨it.type, it.id, rec.key⟩ : Holding) ∈ ps' := by
  have hnf : ∀ e ∈ es ++ tail, ∀ t id, e.frees freed t id = false := by
    intro e he t id
    rcases List.mem_append.1 he with he | he
    · exact hlog.frees_eq_false freed t id e he
    · obtain ⟨ips, rfl⟩ := htail e he
      rfl
  intro rec hrec it hit
  rcases Store.mem_records_applyEffects hrec with hrec | hput
  · exact Pools.mem_applyEffects (hd.bound rec hrec it hit) (fun e he => hnf e he _ _) hps
  rcases List.mem_append.1 hput with hput | hput
  · rcases hlog _ hput with ⟨_, _, _, h⟩ | ⟨rec', err, h, hk, hall⟩
    · cases h
    cases h
    obtain ⟨prior, hmem⟩ := hall it hit
    rw [hk]
    exact Pools.mem_applyEffects_of_allocate (List.mem_append_left _ hmem)
      (fun e he => hnf e he _ _) hps
  · obtain ⟨ips, h⟩ := htail _ hput
    cases h

/-- A branch's log followed by the rollback of what it recorded keeps every record bound:
the pod's record is gone, and the rollback releases only ids allocated for the pod, which no
other record holds. -/
lemma bound_of_rollback (hd : d.Consistent) {n : NetworkService} {o : AllocOutcomes}
    {key : String} {es : List Effect} (hlog : AllocLog key es)
    (hdel : ∀ i, o.deleteErr i = none)
    (hps : d.pools.applyEffects freed (es ++ rollback n o key 0 (allocatedItems es)) = some ps') :
    ∀ rec ∈ (d.store.applyEffects (es ++ rollback n o key 0 (allocatedItems es))).records,
      ∀ it ∈ rec.resources, (⟨it.type, it.id, rec.key⟩ : Holding) ∈ ps' := by
  by_cases hnil : allocatedItems es = []
  · rw [hnil] at hps ⊢
    exact bound_of_allocLog hd hlog (by simp [rollback]) hps
  obtain ⟨ps₁, h₁, h₂⟩ := Option.bind_eq_some.1 (Pools.applyEffects_append _ _ ▸ hps)
  have hnf := hlog.frees_eq_false freed
  have hgone : (d.store.applyEffects (es ++ rollback n o key 0 (allocatedItems es))).get key =
      none := by
    rw [Store.applyEffects_append]
    refine get_applyEffects_rollback n o key _ 0 hnil fun err he => ?_
    rcases mem_rollback n o key he with ⟨j, hj⟩ | ⟨_, _, _, hj⟩
    · simp [hdel] at hj
    · cases hj
  intro rec hrec it hit
  have hk : rec.key ≠ key := Store.key_ne_of_get_eq_none hgone hrec
  rcases Store.mem_records_applyEffects hrec with hrec₀ | hput
  · have h₀ : (⟨it.type, it.id, rec.key⟩ : Holding) ∈ ps₁ :=
      Pools.mem_applyEffects (hd.bound rec hrec₀ it hit) (fun e he => hnf _ _ e he) h₁
    refine Pools.mem_applyEffects h₀ (fun e he => Bool.eq_false_iff.2 fun hf => ?_) h₂
    rcases mem_rollback n o key he with ⟨j, rfl⟩ | ⟨it₀, hit₀, res, rfl⟩
    · cases hf
    simp only [Effect.frees, Bool.and_eq_true, decide_eq_true_eq] at hf
    obtain ⟨⟨-, ht⟩, hid⟩ := hf
    obtain ⟨prior, hmem⟩ := hlog.allocated hit₀
    have h₁' := Pools.mem_applyEffects_of_allocate hmem (fun e he => hnf _ _ e he) h₁
    exact hk ((hd.unique.applyEffects h₁) _ h₀ _ h₁' ht.symm hid.symm)
  · rcases List.mem_append.1 hput with hput | hput
    · rcases hlog _ hput with ⟨_, _, _, h⟩ | ⟨_, _, h, hkey, -⟩
      · cases h
      · cases h
        exact absurd hkey hk
    · rcases mem_rollback n o key hput with ⟨_, h⟩ | ⟨_, _, _, h⟩ <;> cases h

section Handlers

variable {n : NetworkService} {env : NodeEnv} {d' : Daemon}

/-- **`AllocIP` keeps the store and the pools consistent** when its store calls succeed. -/
lemma consistent_alloc (hd : d.Consistent) {o : AllocOutcomes} {r : AllocIPRequest}
    (hs : (Request.alloc o r).StoreSucceeds) (h : d.handle n env (.alloc o r) = some d') :
    d'.Consistent := by
  obtain ⟨hst, hps⟩ := Daemon.handle_eq_some h
  refine ⟨fun rec hrec => ?_, hd.unique.applyEffects hps⟩
  simp only [Request.effects, Request.freed] at hst hps
  rw [hst] at hrec
  cases hp : o.getPod with
  | error e =>
    have he : (allocIP n env o d.store r).effects = [] := by
      simp [allocIP, hp, allocIPBody_getPod_error n env o d.store r hp]
    rw [he] at hrec hps
    exact Option.some.inj hps ▸ hd.bound rec hrec
  | ok p =>
    have hlog := allocIPBody_allocLog n env o d.store r hp
    rcases allocIP_effects_cases n env o d.store r hp with he | ⟨tail, he, htail⟩
    · rw [he, ← (allocIPBody_disciplined n env o d.store r).allocated] at hrec hps
      exact bound_of_rollback hd hlog hs.2.2 hps rec hrec
    · rw [he] at hrec hps
      exact bound_of_allocLog hd hlog htail hps rec hrec

/-! ### `ReleaseIP` -/

/-- **`ReleaseIP` keeps the store and the pools consistent** when its store calls succeed:
an id it frees is an item of the pod's record, which it deletes, and no other record holds
it. -/
lemma consistent_release (hd : d.Consistent) {o : ReleaseOutcomes} {r : ReleaseIPRequest}
    (hs : (Request.release o r).StoreSucceeds) (h : d.handle n env (.release o r) = some d') :
    d'.Consistent := by
  obtain ⟨hst, hps⟩ := Daemon.handle_eq_some h
  refine ⟨fun rec' hrec' it hit => ?_, hd.unique.applyEffects hps⟩
  simp only [Request.effects, Request.freed] at hst hps
  rw [hst] at hrec'
  rcases releaseIP_effects_cases n o d.store r with he | ⟨p, rec, hp, hrec, he⟩
  · rw [he] at hrec' hps
    exact Option.some.inj hps ▸ hd.bound rec' hrec' it hit
  rw [he] at hrec' hps
  have hlog := releaseLoop_log n o p hs.2 0 rec.resources
  have hrec₀ : rec' ∈ d.store.records := (Store.mem_records_applyEffects hrec').resolve_right
    fun hput => by rcases hlog _ hput with h | ⟨_, _, _, h, -⟩ <;> cases h
  have h₀ := hd.bound rec' hrec₀ it hit
  refine Pools.mem_applyEffects h₀ (fun e he' => Bool.eq_false_iff.2 fun hf => ?_) hps
  rcases hlog e he' with rfl | ⟨it₀, hit₀, res, rfl, hdel⟩
  · cases hf
  simp only [Effect.frees, Bool.and_eq_true, decide_eq_true_eq] at hf
  obtain ⟨⟨hok, ht⟩, hid⟩ := hf
  have hgone : (d.store.applyEffects (releaseLoop n o p 0 rec.resources).1).get p.key = none := by
    rw [Store.get_applyEffects_of_single_write _ (w := .delete p.key none) ?_ (hdel hok)]
    · simp [Store.applyEffect]
    · intro e he hw
      rcases hlog e he with rfl | ⟨_, _, _, rfl, -⟩
      · rfl
      · cases hw
  have hkr : rec.key = p.key := Store.key_of_get hrec
  have hne : rec'.key ≠ p.key := Store.key_ne_of_get_eq_none hgone hrec'
  have h₁ := hd.bound rec (Store.get_eq_some_iff.1 (hkr ▸ hrec)) it₀ hit₀
  exact hne ((hd.unique _ h₀ _ h₁ ht.symm hid.symm).trans hkr)

/-! ### GC ticks -/

/-- **A GC tick that settles keeps the store and the pools consistent** when its store
calls succeed: a record it keeps belongs to a live or sticky pod when it succeeded, so its
ids are in use and no pool frees them; a tick that fails frees nothing. -/
lemma consistent_gc (hd : d.Consistent) {ord : MapOrder} {parseCIDR : String → Option String}
    {o : GCOutcomes} (hs : (Request.gc ord parseCIDR o freed).StoreSucceeds)
    (hset : (Request.gc ord parseCIDR o freed).Settles n d.store)
    (h : d.handle n env (.gc ord parseCIDR o freed) = some d') : d'.Consistent := by
  obtain ⟨hst, hps⟩ := Daemon.handle_eq_some h
  refine ⟨fun rec' hrec' it hit => ?_, hd.unique.applyEffects hps⟩
  simp only [Request.effects, Request.freed] at hst hps
  simp only [Request.Settles] at hset
  rw [hst] at hrec'
  cases hpods : o.localPods with
  | error e =>
    rw [gcTick_unobserved n ord parseCIDR o d.store (.inl ⟨e, hpods⟩)] at hrec' hps
    exact Option.some.inj hps ▸ hd.bound rec' hrec' it hit
  | ok pods =>
    obtain ⟨rec, hrec, hk, hres, hret⟩ := gcTick_records hpods hs.1 hrec'
    rw [hres] at hit
    rw [hk]
    refine Pools.mem_applyEffects (hd.bound rec hrec it hit) (fun e he => ?_) hps
    rcases hset with hsucc | hnone
    · have hin : ∀ i x r, Effect.garbageCollection it.type i x r ∈
          (gcTick n ord parseCIDR o d.store).effects → it.id ∈ i ∧ it.id ∉ x :=
        (gcTick_in_use hpods hs.1 hrec (hret hsucc (hs.2.2 _)) hit).1
      refine Bool.eq_false_iff.2 fun hf => ?_
      rcases mem_gcTick_effects n ord parseCIDR o d.store hpods hs.1 he with
        ⟨_, -, -, -, rfl⟩ | he' | ⟨-, -, ⟨a, rfl | rfl⟩ | ⟨_, -, -, -, rfl⟩⟩
      · cases hf
      · obtain ⟨t, -, -, rfl⟩ := mem_gcRound_calls he'
        cases hgc : o.gcErr t with
        | some err => simp [Effect.frees, hgc] at hf
        | none =>
          simp only [Effect.frees, hgc, gcChoice, Bool.and_eq_true, decide_eq_true_eq,
            List.mem_filter] at hf
          obtain ⟨rfl, -, -, hnot⟩ := hf
          exact hnot (hin _ _ _ (hgc ▸ he)).1
      all_goals cases hf
    · exact hnone e he _ _

end Handlers

/-! ### Runs -/

/-- The runs of the daemon from an empty store and empty pools: requests whose store calls
succeed, GC ticks that succeed or free nothing, and manager answers the pools give. -/
inductive Daemon.Reachable (n : NetworkService) (env : NodeEnv) : Daemon → Prop
  | empty : Daemon.Reachable n env Daemon.empty
  | step {d d' : Daemon} {q : Request} : Daemon.Reachable n env d → q.StoreSucceeds →
      q.Settles n d.store → d.handle n env q = some d' → Daemon.Reachable n env d'

/-- **Step lemma**: every request keeps the store and the pools consistent. -/
lemma Daemon.Consistent.handle {n : NetworkService} {env : NodeEnv} {d d' : Daemon}
    (hd : d.Consistent) {q : Request} (hs : q.StoreSucceeds) (hset : q.Settles n d.store)
    (h : d.handle n env q = some d') : d'.Consistent := by
  cases q with
  | alloc o r => exact consistent_alloc hd hs h
  | release o r => exact consistent_release hd hs h
  | gc ord parseCIDR o freed => exact consistent_gc hd hs hset h

/-- **Run lemma**: every reachable state is consistent. -/
lemma Daemon.Reachable.consistent {n : NetworkService} {env : NodeEnv} {d : Daemon}
    (h : d.Reachable n env) : d.Consistent := by
  induction h with
  | empty => exact ⟨fun _ h => absurd h (List.not_mem_nil _), fun _ h => absurd h (List.not_mem_nil _)⟩
  | step _ hs hset hq ih => exact ih.handle hs hset hq

/-- **No stale binding**: in every state of every run from an empty store and empty pools in
a fixed daemon mode, of `AllocIP`, `ReleaseIP` and GC ticks for any pods and with any manager
answers the pools give, whose store calls succeed and whose GC ticks succeed or free
nothing, every item of every record is held by its pool for the record's pod, and each id
is held for one pod only. -/
theorem reachable_no_stale_binding (n : NetworkService) (env : NodeEnv) {d : Daemon}
    (h : d.Reachable n env) : d.NoStaleBinding ∧ d.pools.Unique :=
  ⟨h.consistent.bound, h.consistent.unique⟩

/-- The law after `AllocIP` of `eipPod` from the empty daemon. -/
theorem reachable_no_stale_binding_eip :
    ∃ d, Daemon.empty.handle eipService plainNode (.alloc eipGranted eipRequest) = some d ∧
      d.Reachable eipService plainNode ∧ d.NoStaleBinding ∧ d.pools.Unique :=
  have hr : Daemon.Reachable eipService plainNode _ :=
    .step (q := .alloc eipGranted eipRequest) .empty ⟨rfl, rfl, fun _ => rfl⟩ trivial rfl
  ⟨_, rfl, hr, reachable_no_stale_binding eipService plainNode hr⟩

/-! ### Where consistency fails -/

/-- `eipPod`'s ENI-IP is granted and its EIP refused; the rollback's `Release` of the
ENI-IP fails. -/
def eipRefusedReleaseFails : AllocOutcomes :=
  { eipGranted with
    allocateEIP := fun _ _ => .error (.msg "no eip")
    releaseErr := fun _ => some (.msg "eni busy") }

/-- A tick with no pod on the node, in which the EIP manager's `GarbageCollection` fails. -/
def eipGCFails : GCOutcomes :=
  ⟨.ok [], none, fun _ => none, fun t => if t = .eip then some (.msg "eip busy") else none,
    fun _ => none⟩

/-- The ENI-IP pool frees every expired id it is given; the others free nothing. -/
def freeENIIPs (t : ResourceType) (expired : List String) : List String :=
  if t = .eniIP then expired else []

/-- **Consistency fails in both directions.** From the empty daemon, with every store call
succeeding: an `AllocIP` whose EIP is refused and whose rollback `Release` of the ENI-IP
fails leaves the ENI-IP held for the pod with no record (a leak); and after an `AllocIP`
that records an ENI-IP and an EIP, a GC tick in which the pod is gone and only the EIP
manager's `GarbageCollection` fails keeps the record, whose ENI-IP its pool has freed (a
stale binding). -/
theorem pool_consistency_fails :
    (Request.alloc eipRefusedReleaseFails eipRequest).StoreSucceeds ∧
    (Request.alloc eipGranted eipRequest).StoreSucceeds ∧
    (Request.gc MapOrder.insertion (fun _ => none) eipGCFails freeENIIPs).StoreSucceeds ∧
    (∃ d, Daemon.empty.handle eipService plainNode
        (.alloc eipRefusedReleaseFails eipRequest) = some d ∧
      ⟨.eniIP, "eni-1.10.0.0.9", eipPod.key⟩ ∈ d.pools ∧ d.store.get eipPod.key = none ∧
      ¬d.NoLeak) ∧
    ∃ d₁, Daemon.empty.handle eipService plainNode (.alloc eipGranted eipRequest) = some d₁ ∧
      d₁.NoLeak ∧ d₁.NoStaleBinding ∧
      ∃ d₂, d₁.handle eipService plainNode
          (.gc MapOrder.insertion (fun _ => none) eipGCFails freeENIIPs) = some d₂ ∧
        ⟨.eniIP, "eni-1.10.0.0.9"⟩ ∈ ((d₂.store.get eipPod.key).map (·.resources)).getD [] ∧
        ⟨.eniIP, "eni-1.10.0.0.9", eipPod.key⟩ ∉ d₂.pools ∧ ¬d₂.NoStaleBinding :=
  ⟨⟨rfl, rfl, fun _ => rfl⟩, ⟨rfl, rfl, fun _ => rfl⟩, ⟨rfl, fun _ => rfl, fun _ => rfl⟩,
    ⟨_, rfl, by decide, by decide, by decide⟩, _, rfl, by decide, by decide, _, rfl, by decide,
    by decide, by decide⟩

end Terway

import Terway.GC.Tick

/-!
Two faults of the garbage-collection tick (`startGarbageCollectionLoop` of `daemon.go`).

The tick calls `GarbageCollection` on the entry `mgrForResource` holds for every type some
record has, without the `nil` check `ReleaseIP` and the rollback of `AllocIP` make
(daemon.go:560 and :251; the tick at :859 checks only that the entry exists); in
`ENIMultiIP` mode with the EIP pool off, and in `ENIOnly` mode with trunking or the pool
off, the EIP entry holds a `nil` manager, so a store that still holds an EIP from an earlier
configuration makes every tick panic.

The route and rule cleanup ends at the first expired ENI-IP id whose suffix does not parse
(`return`, where the id without a `.` is skipped with `continue`), so the ids after it, in
Go's random map order, are not cleaned.

* `gcTick_panicked_iff`: a tick panics exactly when it reads the pods and the store and some
  record holds an item whose type's entry is a `nil` manager.
* `mgrForResource_eip`: the EIP entry of a mode that has one holds a manager exactly when
  the EIP pool is on.
* `gcTick_calls_nil_eip_manager`: a configuration `newNetworkService` accepts, and a store
  under which the tick panics.
* `cleanup_stops_at_malformed_id`: a tick where a well-formed id is not cleaned.
* `gcTick_get_congr`: the cleanup is the only part of a tick that sees an order; what a tick
  writes to the store depends neither on the order of the store's listing nor on Go's map
  order.
-/

namespace Terway

/-! ### A `nil` manager -/

/-- A tick panics exactly when it reads the node's pods and the store and some record holds
an item whose type's entry in `mgrForResource` is a `nil` manager. -/
lemma gcTick_panicked_iff (n : NetworkService) (ord : MapOrder)
    (parseCIDR : String → Option String) (o : GCOutcomes) (st : Store) :
    (gcTick n ord parseCIDR o st).panicked = true ↔
      (∃ pods, o.localPods = .ok pods) ∧ o.listErr = none ∧
        ∃ rec ∈ st.records, ∃ it ∈ rec.resources, n.mgrForResource it.type = .nilMgr := by
  cases hpods : o.localPods with
  | error e => simp [gcTick_unobserved n ord parseCIDR o st (.inl ⟨e, hpods⟩)]
  | ok pods =>
    cases hlist : o.listErr with
    | some e => simp [gcTick_unobserved n ord parseCIDR o st (.inr ⟨e, hlist⟩)]
    | none =>
      have hl := gcClassify_holds (podKeyMap pods) st.records
      rw [(gcTick_effects n ord parseCIDR o st hpods hlist).1, gcRound_panicked_iff]
      constructor
      · rintro ⟨t, ht, hm⟩
        obtain ⟨rec, hrec, x, hx⟩ := (hl.present t).1 ((ord.types_perm _).mem_iff.1 ht)
        exact ⟨⟨pods, rfl⟩, rfl, rec, hrec, _, hx, hm⟩
      · rintro ⟨-, -, rec, hrec, it, hit, hm⟩
        exact ⟨it.type, (ord.types_perm _).mem_iff.2 ((hl.present _).2 ⟨rec, hrec, it.id, hit⟩),
          hm⟩

/-- In the modes whose map literal has an EIP entry, the entry holds a manager exactly when
the EIP pool is on. -/
lemma mgrForResource_eip {n : NetworkService} (hm : n.daemonMode ≠ .vpc) :
    n.mgrForResource .eip = if n.eipResMgr then .present else .nilMgr := by
  cases h : n.daemonMode <;>
    simp_all [NetworkService.mgrForResource, DaemonMode.resourceTypes, NetworkService.resMgr]

/-- `ENIMultiIP` with the EIP pool off. -/
def noEIPPoolConfig : Config := ⟨"sg-1", [], "false", "ipv4", false, .default⟩

/-- A record persisted by a run with the EIP pool on: a pod, gone since, holding an ENI-IP
and an EIP. -/
def persistedEIPRecord : PodResources :=
  { podInfo := ⟨"default", "web-1", .eniMultiIP, false, true, 0, 0, "", 0, ⟨"10.0.0.8", ""⟩⟩
    resources := [⟨.eniIP, "eni-1.10.0.0.8"⟩, ⟨.eip, "eip-2"⟩]
    netNs := some "/proc/45/ns/net"
    containerID := some "c4" }

/-- **The tick calls a `nil` manager.** `newNetworkService` accepts `ENIMultiIP` with the EIP
pool off, whose EIP entry holds a `nil` manager; a tick over a store that still holds an
EIP panics, whatever the node's pods. -/
theorem gcTick_calls_nil_eip_manager :
    ∃ n, newNetworkService "ENIMultiIP" noEIPPoolConfig true true = .ok n ∧
      n.mgrForResource .eip = .nilMgr ∧
      ∀ pods, (gcTick n MapOrder.insertion (fun _ => none) (quietTick pods)
        (Store.empty.put persistedEIPRecord)).panicked = true := by
  refine ⟨_, rfl, rfl, fun pods => ?_⟩
  rw [gcTick_panicked_iff]
  exact ⟨⟨pods, rfl⟩, rfl, persistedEIPRecord, List.mem_cons_self _ _, ⟨.eip, "eip-2"⟩,
    by simp [persistedEIPRecord], rfl⟩

/-! ### The cleanup loop -/

/-- `net.ParseCIDR` on the one address of the example. -/
def parseOneCIDR (s : String) : Option String := if s = "10.0.0.9/32" then some s else none

/-- Two records of absent pods, not sticky, each holding an ENI-IP; the first id is
malformed. -/
def malformedFirstStore : Store :=
  (Store.empty.put ⟨⟨"default", "web-3", .eniMultiIP, false, false, 0, 0, "", 0, ⟨"", ""⟩⟩,
      [⟨.eniIP, "eni-2.10.0.0.9"⟩], none, some "c6"⟩).put
    ⟨⟨"default", "web-2", .eniMultiIP, false, false, 0, 0, "", 0, ⟨"", ""⟩⟩,
      [⟨.eniIP, "eni-1.x"⟩], none, some "c5"⟩

/-- **The cleanup stops at a malformed id.** In a tick that succeeds, with the expired ids
met in the order `eni-1.x`, `eni-2.10.0.0.9`, the suffix `x` does not parse, and the rules
and routes of `10.0.0.9` are not deleted; met in the other order, they are. -/
theorem cleanup_stops_at_malformed_id :
    (gcTick eipService MapOrder.insertion parseOneCIDR (quietTick []) malformedFirstStore).Succeeded ∧
      Effect.deleteIPRulesByIP "10.0.0.9/32" ∉
        (gcTick eipService MapOrder.insertion parseOneCIDR (quietTick []) malformedFirstStore).effects ∧
      Effect.deleteRouteByIP "10.0.0.9/32" ∉
        (gcTick eipService MapOrder.insertion parseOneCIDR (quietTick []) malformedFirstStore).effects ∧
      Effect.deleteIPRulesByIP "10.0.0.9/32" ∈
        (gcTick eipService MapOrder.reversed parseOneCIDR (quietTick []) malformedFirstStore).effects ∧
      Effect.deleteRouteByIP "10.0.0.9/32" ∈
        (gcTick eipService MapOrder.reversed parseOneCIDR (quietTick []) malformedFirstStore).effects := by
  decide

/-! ### What the orders do not change -/

/-- **A tick's writes do not depend on any order**: on two stores that hold the same records,
listed in any order, and under any two orders of Go's maps, a tick with the same answers
leaves the same record, or none, under every key. Only the route and rule cleanup sees the
order (`cleanup_stops_at_malformed_id`). -/
theorem gcTick_get_congr (n : NetworkService) (ord ord' : MapOrder)
    (parseCIDR : String → Option String) (o : GCOutcomes) {st₁ st₂ : Store}
    (h : ∀ k, st₁.get k = st₂.get k) (k : String) :
    (st₁.applyEffects (gcTick n ord parseCIDR o st₁).effects).get k =
      (st₂.applyEffects (gcTick n ord' parseCIDR o st₂).effects).get k := by
  cases hpods : o.localPods with
  | error e =>
    simp only [gcTick_unobserved n _ parseCIDR o _ (.inl ⟨e, hpods⟩), Store.applyEffects_nil, h]
  | ok pods =>
    cases hlist : o.listErr with
    | some e =>
      simp only [gcTick_unobserved n _ parseCIDR o _ (.inr ⟨e, hlist⟩), Store.applyEffects_nil, h]
    | none =>
      have hsucc : (gcTick n ord parseCIDR o st₁).Succeeded ↔
          (gcTick n ord' parseCIDR o st₂).Succeeded := by
        rw [gcTick_succeeded_iff_records n ord parseCIDR o st₁ hpods hlist,
          gcTick_succeeded_iff_records n ord' parseCIDR o st₂ hpods hlist]
        exact forall_congr' fun rec => by rw [← Store.get_eq_some_iff, ← Store.get_eq_some_iff, h]
      rw [gcTick_get hpods hlist, gcTick_get hpods hlist, h k]
      simp only [hsucc]

/-- The two records of `malformedFirstStore`, put in the other order. -/
def malformedFirstSwapped : Store :=
  (Store.empty.put ⟨⟨"default", "web-2", .eniMultiIP, false, false, 0, 0, "", 0, ⟨"", ""⟩⟩,
      [⟨.eniIP, "eni-1.x"⟩], none, some "c5"⟩).put
    ⟨⟨"default", "web-3", .eniMultiIP, false, false, 0, 0, "", 0, ⟨"", ""⟩⟩,
      [⟨.eniIP, "eni-2.10.0.0.9"⟩], none, some "c6"⟩

/-- The tick of `cleanup_stops_at_malformed_id`, over the records listed the other way and
with the maps in the other order, deletes the same records. -/
theorem gcTick_get_congr_swapped :
    (malformedFirstStore.applyEffects (gcTick eipService MapOrder.insertion parseOneCIDR
        (quietTick []) malformedFirstStore).effects).get "default/web-3" =
      (malformedFirstSwapped.applyEffects (gcTick eipService MapOrder.reversed parseOneCIDR
        (quietTick []) malformedFirstSwapped).effects).get "default/web-3" :=
  gcTick_get_congr eipService _ _ parseOneCIDR (quietTick [])
    (Store.get_put_put_comm _ (by decide)) _

end Terway

import Terway.Mapping
import Terway.Records

/-!
The periodic check of the daemon (`startPeriodCheck` and `GetResourceMapping` of
`daemon.go`). Every pool-check period the check reads the three-way mapping of the mode's
manager's views and the store, and reports each invalid entry: as a `ResourceInvalid`
warning event on its pod when the entry names one, in the log otherwise. It then runs the
CNI plugin's `CHECK` in the network namespace of every record that has one.

* `getResourceMapping`: the view of the mode's manager and the store's `List`, joined by
  `toResMapping`; nothing in `VPC` mode.
* `checkPoolEntry`, `periodCheckPool`: the reports of the first part.
* `cniCheckCalls`: the `CheckNetwork` calls of the second part; `startPeriodCheck`, both.
* `invalidReport`: what the check reports about one id of the join, from the spec.
* `periodCheckPool_exact`: the check reports each id of the join that the two views do not
  both hold, once, and nothing else; a pod's event names the id's local id, which is empty
  when the local view lacks the id.
* `reachable_periodCheck_quiet`: in every state of the daemon's runs, when the manager's
  local view holds every id its pool holds and the remote view agrees, the check reports
  nothing.
* `reachable_cniCheck_covers`: on every reachable store the CNI check runs once for every
  record, with the pod's name, namespace and sandbox id.
-/

namespace Terway

/-! ### `GetResourceMapping` -/

/-- What `GetResourceMapping` reads: the views of the mode's manager (the ENI-IP manager's
`GetResourceMapping` in `ENIMultiIP` mode, the ENI manager's in `ENIOnly` mode), the error of
the store's `List`, and Go's order of the map of `toResMapping`. -/
structure MappingOutcomes where
  poolStats : Except Err ResourcePoolStats
  listErr : Option Err
  ord : MapOrder

/-- **`GetResourceMapping`**: no mapping in `VPC` mode; otherwise the manager's views and
the store's records, joined. `toResMapping` never fails. -/
def getResourceMapping (n : NetworkService) (o : MappingOutcomes) (st : Store) :
    Except Err (List PodMapping) :=
  match n.daemonMode with
  | .vpc => .ok []
  | .eniMultiIP | .eniOnly =>
    match o.poolStats with
    | .error e => .error e
    | .ok poolStats =>
      match o.listErr with
      | some e => .error e
      | none => .ok (toResMapping o.ord poolStats st.list)

/-- The type of the manager whose views `GetResourceMapping` reads. -/
def DaemonMode.mappingType : DaemonMode → Option ResourceType
  | .vpc => none
  | .eniMultiIP => some .eniIP
  | .eniOnly => some .eni

lemma getResourceMapping_ok {n : NetworkService} {o : MappingOutcomes} {st : Store}
    (hmode : n.daemonMode ≠ .vpc) {poolStats : ResourcePoolStats}
    (hpool : o.poolStats = .ok poolStats) (hlist : o.listErr = none) :
    getResourceMapping n o st = .ok (toResMapping o.ord poolStats st.records) := by
  unfold getResourceMapping
  split
  · exact absurd ‹_› hmode
  all_goals simp [hpool, hlist, Store.list]

/-! ### `startPeriodCheck` -/

/-- What the check of the pool leaves: an error in the log, a warning in the log, or an
event on a pod. -/
inductive PoolReport
  | logError (e : Err)
  | warnInvalid (localResID remoteResID : String)
  | podEvent (name «namespace» eventType reason message : String)
  deriving DecidableEq, Repr

/-- One entry of the mapping: a valid entry is skipped; an invalid one is a warning in the
log when it has no name or namespace, else a `ResourceInvalid` event on its pod, about its
local id. -/
def checkPoolEntry (res : PodMapping) : Option PoolReport :=
  if res.valid then none
  else if res.name = "" ∨ res.«namespace» = "" then
    some (.warnInvalid res.localResID res.remoteResID)
  else some (.podEvent res.name res.«namespace» "Warning" "ResourceInvalid"
    ("resource " ++ res.localResID))

/-- The first part of `startPeriodCheck`: the reports of the mapping's entries, or the error
of `GetResourceMapping` in the log. -/
def periodCheckPool (n : NetworkService) (o : MappingOutcomes) (st : Store) : List PoolReport :=
  match getResourceMapping n o st with
  | .error e => [.logError e]
  | .ok podMapping => podMapping.filterMap checkPoolEntry

/-- A `CheckNetwork` call of the CNI plugin: the bytes of the CNI configuration file, the
pod's network namespace, the interface and the arguments. -/
structure CNICheck where
  confBytes : String
  netNS : String
  ifName : String
  args : List (String × String)
  deriving DecidableEq, Repr

/-- What the second part reads: the error of the store's `List`, the CNI configuration file,
whether the node runs Windows, and `filepath.Join` of the host's root `/proc/1/root/` with a
namespace path. -/
structure CNICheckEnv where
  listErr : Option Err
  confFile : Except Err String
  isWindows : Bool
  joinRoot : String → String

/-- The arguments of the check of a record: the pod's name and namespace, and its sandbox
container id when the record has one. -/
def cniCheckArgs (res : PodResources) : List (String × String) :=
  [("K8S_POD_NAME", res.podInfo.name), ("K8S_POD_NAMESPACE", res.podInfo.namespace)] ++
    match res.containerID with
    | some c => [("K8S_POD_INFRA_CONTAINER_ID", c)]
    | none => []

/-- The second part of `startPeriodCheck`: a `CheckNetwork` call for every record with a
network namespace, in the order of the store's listing; none when the listing or the
configuration file cannot be read. -/
def cniCheckCalls (e : CNICheckEnv) (st : Store) : List CNICheck :=
  match e.listErr with
  | some _ => []
  | none =>
    match e.confFile with
    | .error _ => []
    | .ok ff =>
      st.list.filterMap fun res => res.netNs.map fun ns =>
        { confBytes := ff
          netNS := if e.isWindows then ns else e.joinRoot ns
          ifName := ifEth0
          args := cniCheckArgs res }

/-- **`startPeriodCheck`**: the check of the pool on the store `st`, then the CNI check on
the store `st'` it lists later. -/
def startPeriodCheck (n : NetworkService) (o : MappingOutcomes) (e : CNICheckEnv)
    (st st' : Store) : List PoolReport × List CNICheck :=
  (periodCheckPool n o st, cniCheckCalls e st')

/-! ### What the check reports -/

/-- What the check reports about id `x` of the join, from the spec: nothing when both views
hold it, or when it is empty; for an id a record binds, a `ResourceInvalid` event on the pod
of the last such record, about the id's local id, or a warning when that pod has no
namespace; for an id no record binds, a warning with its local and remote ids. -/
def invalidReport (poolStats : ResourcePoolStats) (pods : List PodResources) (x : String) :
    Option PoolReport :=
  if x ∈ poolStats.getLocal ∧ x ∈ poolStats.getRemote ∨ x = "" then none
  else
    match lastBinder pods x with
    | some rec =>
      if rec.podInfo.namespace = "" then
        some (.warnInvalid (if x ∈ poolStats.getLocal then x else "")
          (if x ∈ poolStats.getRemote then x else ""))
      else some (.podEvent rec.podInfo.name rec.podInfo.namespace "Warning" "ResourceInvalid"
        ("resource " ++ if x ∈ poolStats.getLocal then x else ""))
    | none =>
      some (.warnInvalid (if x ∈ poolStats.getLocal then x else "")
        (if x ∈ poolStats.getRemote then x else ""))

/-- The check of the join's entry of `x` is the spec's report. -/
lemma checkPoolEntry_joinedMapping (poolStats : ResourcePoolStats) {pods : List PodResources}
    (hpods : ∀ rec ∈ pods, rec.podInfo.name ≠ "") (x : String) :
    checkPoolEntry (joinedMapping poolStats pods x) = invalidReport poolStats pods x := by
  unfold checkPoolEntry invalidReport
  cases hb : lastBinder pods x with
  | none => simp [joinedMapping, hb]
  | some rec =>
    have hname := hpods rec (lastBinder_eq_some hb).1
    by_cases hv : x ∈ poolStats.getLocal ∧ x ∈ poolStats.getRemote ∨ x = "" <;>
      simp [joinedMapping, hb, hv, hname]

/-- **The check reports exactly the ids the views disagree on.** In `ENIMultiIP` and `ENIOnly`
mode, with the manager's views and the store's listing read, and pod names and item ids
that are not empty, the check of the pool reports, for each id of the local view, of the
remote view or of a non-EIP item of a record, once: nothing when both views hold it, and
otherwise the spec's report (`invalidReport`), whose event names the id's local id, the
empty string when the local view lacks the id. -/
theorem periodCheckPool_exact (n : NetworkService) (o : MappingOutcomes) (st : Store)
    (hmode : n.daemonMode ≠ .vpc) {poolStats : ResourcePoolStats}
    (hpool : o.poolStats = .ok poolStats) (hlist : o.listErr = none)
    (hpods : ∀ rec ∈ st.records, rec.podInfo.name ≠ "" ∧ ∀ it ∈ rec.resources, it.id ≠ "") :
    ∃ ids : List String, ids.Nodup ∧
      (∀ x, x ∈ ids ↔ x ∈ poolStats.getLocal ∨ x ∈ poolStats.getRemote ∨
        ∃ rec ∈ st.records, ∃ it ∈ rec.resources, it.type ≠ .eip ∧ it.id = x) ∧
      (periodCheckPool n o st).Perm (ids.filterMap (invalidReport poolStats st.records)) := by
  obtain ⟨ids, hnd, hmem, hperm⟩ := toResMapping_perm_joined o.ord poolStats hpods
  refine ⟨ids, hnd, fun x => by rw [hmem, lastBinder_isSome], ?_⟩
  rw [periodCheckPool, getResourceMapping_ok hmode hpool hlist]
  refine (hperm.filterMap _).trans (List.Perm.of_eq ?_)
  rw [List.filterMap_map]
  exact List.filterMap_congr fun x _ =>
    checkPoolEntry_joinedMapping poolStats (fun rec hrec => (hpods rec hrec).1) x

/-- The store after `AllocIP` granted `eipPod` its ENI-IP and EIP. -/
def eipAllocated : Store :=
  Store.empty.applyEffects (allocIP eipService plainNode eipGranted Store.empty eipRequest).effects

/-- The ENI-IP manager's views: the local view holds `eipPod`'s ENI-IP, the remote one not. -/
def remoteLacksENIIP : MappingOutcomes :=
  ⟨.ok ⟨["eni-1.10.0.0.9"], []⟩, none, MapOrder.insertion⟩

/-- The check at `eipAllocated` when the remote view lacks the ENI-IP. -/
theorem periodCheckPool_exact_eip :
    ∃ ids : List String, ids.Nodup ∧
      (∀ x, x ∈ ids ↔ x ∈ ["eni-1.10.0.0.9"] ∨ x ∈ ([] : List String) ∨
        ∃ rec ∈ eipAllocated.records, ∃ it ∈ rec.resources, it.type ≠ .eip ∧ it.id = x) ∧
      (periodCheckPool eipService remoteLacksENIIP eipAllocated).Perm
        (ids.filterMap (invalidReport ⟨["eni-1.10.0.0.9"], []⟩ eipAllocated.records)) :=
  periodCheckPool_exact eipService remoteLacksENIIP eipAllocated (by decide) rfl rfl (by decide)

/- When the local view lacks the pod's ENI-IP, the event names the empty local id. -/
example : periodCheckPool eipService ⟨.ok ⟨[], ["eni-1.10.0.0.9"]⟩, none, MapOrder.insertion⟩
    eipAllocated = [.podEvent "web-0" "default" "Warning" "ResourceInvalid" "resource "] := by
  decide

/-- In a mode with a mapped manager, an item of a type with a manager that is not an EIP is of
the manager's type. -/
lemma eq_mappingType_of_registered {n : NetworkService} {t t' : ResourceType}
    (ht : n.daemonMode.mappingType = some t) (hreg : n.getResourceManagerForRes t' = true)
    (hne : t' ≠ .eip) : t' = t := by
  rw [NetworkService.getResourceManagerForRes_eq] at hreg
  cases h : n.daemonMode <;> simp only [h, DaemonMode.mappingType, reduceCtorEq,
    Option.some.injEq] at ht <;> subst ht <;> cases t' <;>
    simp_all [DaemonMode.resourceTypes]

/-- **The check is quiet on a consistent daemon.** In every state of the daemon's runs (from
the empty daemon, by requests whose store calls succeed and GC ticks that settle), in
`ENIMultiIP` and `ENIOnly` mode, with pod names and item ids that are not empty: when the
manager's local view holds every id its pool holds and the remote view holds the same ids,
the check of the pool reports nothing. A report therefore means that the views disagree, or
that the local view lost an id the pool holds for a pod's record. -/
theorem reachable_periodCheck_quiet (n : NetworkService) (env : NodeEnv) {d : Daemon}
    (h : d.Reachable n env) {t : ResourceType} (ht : n.daemonMode.mappingType = some t)
    (o : MappingOutcomes) {poolStats : ResourcePoolStats} (hpool : o.poolStats = .ok poolStats)
    (hlist : o.listErr = none)
    (hpods : ∀ rec ∈ d.store.records, rec.podInfo.name ≠ "" ∧ ∀ it ∈ rec.resources, it.id ≠ "")
    (hloc : ∀ hd ∈ d.pools, hd.type = t → hd.id ∈ poolStats.getLocal)
    (hrem : ∀ x, x ∈ poolStats.getRemote ↔ x ∈ poolStats.getLocal) :
    periodCheckPool n o d.store = [] := by
  have hmode : n.daemonMode ≠ .vpc := fun hv => by simp [hv, DaemonMode.mappingType] at ht
  rw [periodCheckPool, getResourceMapping_ok hmode hpool hlist, List.filterMap_eq_nil_iff]
  obtain ⟨ids, -, hmem, hperm⟩ := toResMapping_perm_joined o.ord poolStats hpods
  intro m hm
  obtain ⟨x, hx, rfl⟩ := List.mem_map.1 (hperm.subset hm)
  -- every id of the join is in the local view: a bound one because the pool holds it
  have hL : x ∈ poolStats.getLocal := by
    rcases (hmem x).1 hx with hL | hR | hb
    · exact hL
    · exact (hrem x).1 hR
    · obtain ⟨rec, hrec⟩ := Option.isSome_iff_exists.1 hb
      obtain ⟨hrecmem, it, hit, hne, rfl⟩ := lastBinder_eq_some hrec
      have hreg := (h.store_reachable.recordOK rec hrecmem).registered it hit
      exact hloc _ (h.consistent.bound rec hrecmem it hit) (eq_mappingType_of_registered ht hreg hne)
  simp [checkPoolEntry, joinedMapping, hL, (hrem x).2 hL]

/-- The check after `AllocIP` granted `eipPod` its ENI-IP and EIP, with both views holding
the ENI-IP. -/
theorem reachable_periodCheck_quiet_eip :
    ∃ d, Daemon.empty.handle eipService plainNode (.alloc eipGranted eipRequest) = some d ∧
      periodCheckPool eipService ⟨.ok ⟨["eni-1.10.0.0.9"], ["eni-1.10.0.0.9"]⟩, none,
        MapOrder.insertion⟩ d.store = [] :=
  ⟨_, rfl, reachable_periodCheck_quiet eipService plainNode
    (.step (q := .alloc eipGranted eipRequest) .empty ⟨rfl, rfl, fun _ => rfl⟩ trivial rfl) rfl _
    rfl rfl (by decide) (by decide) fun _ => Iff.rfl⟩

/-! ### The CNI check on the daemon's stores -/

/-- **The CNI check reaches every recorded pod.** On every store reached from the empty
store, when the store's listing and the CNI configuration file are read, the check calls
`CheckNetwork` once for each record, in the store's order, with the pod's name, namespace and
sandbox id: every record the daemon writes keeps the network namespace and the sandbox
container id of the `AllocIP` request that created it, so no record is skipped and no check
lacks the sandbox. -/
theorem reachable_cniCheck_covers (n : NetworkService) (env : NodeEnv) {st : Store}
    (h : st.Reachable n env) (e : CNICheckEnv) (hlist : e.listErr = none) {ff : String}
    (hconf : e.confFile = .ok ff) :
    (cniCheckCalls e st).map CNICheck.args = st.records.map fun rec =>
      [("K8S_POD_NAME", rec.podInfo.name), ("K8S_POD_NAMESPACE", rec.podInfo.namespace),
        ("K8S_POD_INFRA_CONTAINER_ID", rec.containerID.getD "")] := by
  rw [cniCheckCalls, hlist, hconf, Store.list, List.map_filterMap, ← List.filterMap_eq_map]
  refine List.filterMap_congr fun rec hrec => ?_
  obtain ⟨ns, hns⟩ := Option.isSome_iff_exists.1 (h.recordOK rec hrec).netNs
  obtain ⟨c, hc⟩ := Option.isSome_iff_exists.1 (h.recordOK rec hrec).containerID
  simp [hns, hc, cniCheckArgs]

theorem reachable_cniCheck_covers_eip :
    (cniCheckCalls ⟨none, .ok "terway", false, ("/proc/1/root/" ++ ·)⟩ (Store.empty.applyEffects
        (allocIP eipService plainNode eipGranted Store.empty eipRequest).effects)).map
      CNICheck.args = (Store.empty.applyEffects
        (allocIP eipService plainNode eipGranted Store.empty eipRequest).effects).records.map
      fun rec => [("K8S_POD_NAME", rec.podInfo.name), ("K8S_POD_NAMESPACE", rec.podInfo.namespace),
        ("K8S_POD_INFRA_CONTAINER_ID", rec.containerID.getD "")] :=
  reachable_cniCheck_covers eipService plainNode (.step (.alloc eipGranted eipRequest) .empty) _
    rfl rfl

end Terway

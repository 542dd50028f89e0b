import Terway.AllocIP

/-!
`GetIPInfo` of `daemon.go` (spec §4.2): the read path, which looks the pod's record up in
the store, asks the managers' `Stat` for its items, reads the `PodENI` in CRD mode, and
composes the `NetConf`s as `AllocIP` does.

The answers of the collaborators are an argument (`InfoOutcomes`); the handler writes
nothing, so it returns its reply only.

* `firstItemID`: the item of a type the read path passes to `Stat` (the first).
* `infoENIMultiIPBranch`, `infoVPCENIBranch`: the branches of the `switch` that differ
  from `AllocIP`'s. The first drops the CRD's error and adds the pool ENI-IP without a
  default route; the second computes the exclusive ENI's `Trunk` flag.
* `getIPInfo`: the handler; `getIPInfo_eq` computes it once the pod, its network type, the
  store and the sandbox have passed their checks.
* `getIPInfo_congr`: the handler reads the store only at its pod's key.
* `infoBranch_policy`: every list a branch finishes with is empty or in the shape of the
  default-route policy.
* `infoENIMultiIPBranch_of_crd_error`: the `ENIMultiIP` branch goes on past a failed CRD
  assembly; `getIPInfo_ignores_crd_failure` is a configuration where it does.
-/

namespace Terway

/-- `rpc.GetInfoRequest`. -/
structure GetInfoRequest where
  k8sPodName : String
  k8sPodNamespace : String
  k8sPodInfraContainerId : String
  deriving DecidableEq, Repr

/-- The answers of the collaborators one `GetIPInfo` call talks to: the pod, the store's
`Get` error, the `PodENI` reads, and the `Stat` of the ENI-IP and the ENI manager. -/
structure InfoOutcomes where
  getPod : Except Err PodInfo
  getErr : Option Err
  podENIInfo : Bool → Except Err PodENI
  statENIIP : String → Except Err ENIIP
  statENI : String → Except Err ENI

/-- How a branch of the `switch` ends: an early `return getIPInfoResult, nil` with the
reply's `Error` field, an error, or the interfaces. -/
inductive InfoEnd
  | early (error : RpcError)
  | fail (e : Err)
  | done (netConfs : List NetConf)
  deriving DecidableEq, Repr

/-- How `defaultForNetConf` ends the `ENIMultiIP` branch: its error, or the interfaces. -/
def InfoEnd.ofExcept : Except Err (List NetConf) → InfoEnd
  | .ok l => .done l
  | .error e => .fail e

@[simp] lemma InfoEnd.ofExcept_eq_done {x : Except Err (List NetConf)} {l : List NetConf} :
    InfoEnd.ofExcept x = .done l ↔ x = .ok l := by
  cases x <;> simp [InfoEnd.ofExcept]

/-- The id of the record's first item of type `t`, which the read path passes to `Stat`;
the zero record that stands for a missing one has no item. -/
def firstItemID (podRes : Option PodResources) (t : ResourceType) : Option String :=
  ((podRes.map (·.getResourceItemByType t)).getD []).head?.map (·.id)

/-- The first item of a type in a record `AllocIP` writes is the item it allocated. -/
lemma firstItemID_newPodResources {t : ResourceType} (ht : t ≠ .eip) {extra : List ResourceItem}
    (hx : ∀ it ∈ extra, it.type = .eip) (r : AllocIPRequest) (p : PodInfo) (id : String) :
    firstItemID (some (newPodResources r p (⟨t, id⟩ :: extra))) t = some id := by
  have : extra.filter (·.type = t) = [] :=
    List.filter_eq_nil_iff.2 fun it hit => by simp [hx it hit, Ne.symm ht]
  simp [firstItemID, PodResources.getResourceItemByType, newPodResources, this]

/-- The `ENIMultiIP` branch. The CRD's error is dropped: the code tests the outer `err`,
which is `nil` here, so the branch goes on with no CRD entry. Without a default interface
among the CRD's entries, the pod's pool ENI-IP is added when its `Stat` succeeds, with no
default route; then `defaultForNetConf`. -/
def infoENIMultiIPBranch (n : NetworkService) (env : NodeEnv) (o : InfoOutcomes)
    (podinfo : PodInfo) (podRes : Option PodResources) : InfoEnd :=
  let netConfs :=
    match multiIPFromCRD n env podinfo false o.podENIInfo with
    | .ok l => l
    | .error _ => []
  let pool : List NetConf :=
    if hasDefaultIf netConfs then []
    else
      match firstItemID podRes .eniIP with
      | none => []
      | some id =>
        match o.statENIIP id with
        | .ok eniIP => [eniIPNetConf env podinfo eniIP false]
        | .error _ => []
  InfoEnd.ofExcept (defaultForNetConf (netConfs ++ pool))

/-- The `VPCENI` branch: the CRD's interfaces under IPAM type `crd`, whose error ends the
call early with `ErrCRDNotFound` when the `PodENI` is missing; else the pod's ENI when its
`Stat` succeeds, reported as a trunk when the pod asks for a `PodENI`, trunking is on and
the ENI is a trunk. -/
def infoVPCENIBranch (n : NetworkService) (env : NodeEnv) (o : InfoOutcomes)
    (podinfo : PodInfo) (podRes : Option PodResources) : InfoEnd :=
  if n.ipamType = .crd then
    match exclusiveENIFromCRD n env podinfo false o.podENIInfo with
    | .error e => .early (if e.isNotFound then .errCRDNotFound else .errNoErr)
    | .ok l => .done l
  else
    .done <|
      match firstItemID podRes .eni with
      | none => []
      | some id =>
        match o.statENI id with
        | .ok eni => [eniNetConf env podinfo eni (podinfo.podENI && n.enableTrunk && eni.trunk)]
        | .error _ => []

/-- The branch of the `switch` on the pod's network type. -/
def infoBranch (n : NetworkService) (env : NodeEnv) (o : InfoOutcomes) (podinfo : PodInfo)
    (podRes : Option PodResources) : InfoEnd :=
  match podinfo.podNetworkType with
  | .eniMultiIP => infoENIMultiIPBranch n env o podinfo podRes
  | .vpcENI => infoVPCENIBranch n env o podinfo podRes
  | .vpcIP => .done [vethNetConf env podinfo]

/-- The reply before the `switch`: the service's IP families, nothing else set. -/
def infoReply (n : NetworkService) : GetInfoReply :=
  { ipType := .typeVPCIP
    ipv4 := n.ipFamily.ipv4
    ipv6 := n.ipFamily.ipv6
    netConfs := []
    enableTrunking := false
    error := .errNoErr }

/-- The reply after the `switch`: the network type's `IPType`, and the branch's interfaces
and the service's trunking flag when the branch ran to its end. -/
def infoResult (n : NetworkService) (podinfo : PodInfo) : InfoEnd → Except Err GetInfoReply
  | .early err => .ok { infoReply n with ipType := podinfo.podNetworkType.ipType, error := err }
  | .fail e => .error e
  | .done l =>
    .ok { infoReply n with
      ipType := podinfo.podNetworkType.ipType
      netConfs := l
      enableTrunking := n.enableTrunk }

/-- **`GetIPInfo`**. A pod the mode does not serve is an error; a record of another sandbox
is answered with the bare reply. The `default:` arm of the `switch` is unreachable, every
network type of the model having a branch. -/
def getIPInfo (n : NetworkService) (env : NodeEnv) (o : InfoOutcomes) (st : Store)
    (r : GetInfoRequest) : Except Err GetInfoReply :=
  match o.getPod with
  | .error e => .error (.wrap "error get pod info for" e)
  | .ok podinfo =>
    if !n.verifyPodNetworkType podinfo.podNetworkType then
      .error (.msg "unexpect pod network type get info, maybe daemon mode changed")
    else
      match getPodResource st o.getErr podinfo with
      | .error e => .error e
      | .ok podRes =>
        if (podRes.bind (·.containerID)).any (· ≠ r.k8sPodInfraContainerId) then .ok (infoReply n)
        else infoResult n podinfo (infoBranch n env o podinfo podRes)

/-! ### Computing the handler -/

section Handler

variable (n : NetworkService) (env : NodeEnv) (o : InfoOutcomes) (st : Store)
  (r : GetInfoRequest)

/-- Once the pod is read, the mode serves it, the store answers and its record (if any)
belongs to the request's sandbox, `GetIPInfo` is its branch. -/
lemma getIPInfo_eq {p : PodInfo} (hp : o.getPod = .ok p)
    (hv : n.verifyPodNetworkType p.podNetworkType = true) (hg : o.getErr = none)
    (hc : ∀ rec, st.get p.key = some rec →
      rec.containerID = none ∨ rec.containerID = some r.k8sPodInfraContainerId) :
    getIPInfo n env o st r = infoResult n p (infoBranch n env o p (st.get p.key)) := by
  cases hrec : st.get p.key with
  | none => simp [getIPInfo, hp, hv, getPodResource, hg, hrec]
  | some rec =>
    rcases hc rec hrec with h | h <;> simp [getIPInfo, hp, hv, getPodResource, hg, hrec, h]

/-- The interfaces of a reply returned without error are empty or the interfaces a branch
finished with. -/
lemma getIPInfo_netConfs {R : GetInfoReply} (h : getIPInfo n env o st r = .ok R) :
    R.netConfs = [] ∨ ∃ p podRes, infoBranch n env o p podRes = .done R.netConfs := by
  unfold getIPInfo at h
  split at h
  · cases h
  · rename_i p _
    split_ifs at h
    split at h
    · cases h
    · split_ifs at h
      · cases h; exact .inl rfl
      · revert h
        unfold infoResult
        split <;> intro h <;> cases h
        · exact .inl rfl
        · exact .inr ⟨p, _, ‹_›⟩

/-- `GetIPInfo` reads the store only at the key of the pod `GetPod` answered. -/
lemma getIPInfo_congr {st' : Store} (h : ∀ p, o.getPod = .ok p → st.get p.key = st'.get p.key) :
    getIPInfo n env o st r = getIPInfo n env o st' r := by
  cases hp : o.getPod with
  | error e => simp only [getIPInfo, hp]
  | ok p => simp only [getIPInfo, hp, getPodResource, h p hp]

end Handler

/-! ### The default-route policy of the read path -/

/-- A single interface that routes by default and is a default interface satisfies the
policy. -/
lemma policy_singleton {c : NetConf} (hr : c.defaultRoute = true) (hi : defaultIf c.ifName = true) :
    [c] ≠ [] ∧ DefaultRoutePolicy [c] :=
  ⟨List.cons_ne_nil _ _, by simp [DefaultRoutePolicy, hr, hi]⟩

/-- Every list a branch of `GetIPInfo` finishes with is empty or in the shape of the
default-route policy. -/
lemma infoBranch_policy {n : NetworkService} {env : NodeEnv} {o : InfoOutcomes} {p : PodInfo}
    {podRes : Option PodResources} {l : List NetConf} (h : infoBranch n env o p podRes = .done l) :
    l = [] ∨ l ≠ [] ∧ DefaultRoutePolicy l := by
  unfold infoBranch infoENIMultiIPBranch infoVPCENIBranch at h
  split at h
  · exact defaultForNetConf_nil_or_policy (InfoEnd.ofExcept_eq_done.1 h)
  · split_ifs at h
    · split at h <;> cases h
      exact .inr (exclusiveENIFromCRD_policy ‹_›)
    · cases h
      split
      · exact .inl rfl
      · split
        · exact .inr (policy_singleton rfl rfl)
        · exact .inl rfl
  · cases h
    exact .inr (policy_singleton rfl rfl)

/-! ### A failing CRD assembly -/

section CRDFailure

variable {n : NetworkService} {env : NodeEnv} {o : InfoOutcomes} {st : Store} {r : GetInfoRequest}

/-- The `ENIMultiIP` branch drops a failure of the CRD assembly: it goes on as if the
`PodENI` listed no allocation, with the pool ENI-IP of the pod's record. -/
lemma infoENIMultiIPBranch_of_crd_error {p : PodInfo} {podRes : Option PodResources} {e : Err}
    (he : multiIPFromCRD n env p false o.podENIInfo = .error e) :
    infoENIMultiIPBranch n env o p podRes = InfoEnd.ofExcept (defaultForNetConf
      (match firstItemID podRes .eniIP with
        | none => []
        | some id =>
          match o.statENIIP id with
          | .ok eniIP => [eniIPNetConf env p eniIP false]
          | .error _ => [])) := by
  simp [infoENIMultiIPBranch, he]

end CRDFailure

/-- `ENIMultiIP` under IPAM type `crd`, with the EIP pool off. -/
def crdConfig : Config := ⟨"sg-1", [], "false", "ipv4", false, .crd⟩

/-- A CRD-mode `ENIMultiIP` pod. -/
def crdPod : PodInfo := ⟨"default", "web-4", .eniMultiIP, false, false, 0, 0, "", 0, ⟨"", ""⟩⟩

/-- An ENI-IP of the pool. -/
def crdPoolENIIP : ENIIP :=
  ⟨"eni-3.10.0.0.12", ⟨"eni-3", "", ⟨"", ""⟩, ⟨"", ""⟩, ⟨"", ""⟩, false⟩, ⟨"10.0.0.12", ""⟩⟩

/-- A store holding a record of `crdPod` with that ENI-IP, for the sandbox `c7`. -/
def crdPodStore : Store :=
  Store.empty.put ⟨crdPod, [⟨.eniIP, crdPoolENIIP.id⟩], some "/proc/47/ns/net", some "c7"⟩

/-- The read path's collaborators when the `PodENI` read fails with `e`; the pool's `Stat`
answers the ENI-IP. -/
def crdReadFails (e : Err) : InfoOutcomes where
  getPod := .ok crdPod
  getErr := none
  podENIInfo := fun _ => .error e
  statENIIP := fun _ => .ok crdPoolENIIP
  statENI := fun _ => .error .notFound

/-- **`GetIPInfo` answers from the pool record when the CRD read fails.** In a configuration
`newNetworkService` accepts, for every error of the `PodENI` read, the CRD assembly fails,
and the reply carries no `ErrCRDNotFound` and the `NetConf` composed from the pool ENI-IP of
the pod's record. -/
theorem getIPInfo_ignores_crd_failure :
    ∃ n, newNetworkService "ENIMultiIP" crdConfig true true = .ok n ∧ ∀ e : Err,
      multiIPFromCRD n plainNode crdPod false (crdReadFails e).podENIInfo =
        .error (.wrap "error wait pod eni info" e) ∧
      getIPInfo n plainNode (crdReadFails e) crdPodStore ⟨"web-4", "default", "c7"⟩ =
        .ok { infoReply n with
          ipType := .typeENIMultiIP
          netConfs := [eniIPNetConf plainNode crdPod crdPoolENIIP true]
          error := .errNoErr } := by
  refine ⟨_, rfl, fun e => ⟨rfl, ?_⟩⟩
  rw [getIPInfo_eq _ _ _ _ _ (p := crdPod) rfl ?_ rfl fun rec h => .inr (by cases h; rfl),
    infoBranch, infoENIMultiIPBranch_of_crd_error (e := .wrap "error wait pod eni info" e) ?_]
  all_goals rfl

end Terway

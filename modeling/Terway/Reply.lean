import Terway.GetIPInfo

/-!
What a successful reply carries (spec §4.5): the `NetConf`s of every reply the service
returns follow the default-route policy.

* `allocIP_ok`: a successful `AllocIP` computed: the pod was read, the store answered, the
  mode serves the pod, the request was not cancelled, and the reply is the branch's
  interfaces under the network type's `IPType`; its effects are the branch's and the pod-IP
  patch.
* `allocBranch_policy`: every list a branch of `AllocIP` succeeds with is non-empty and in
  the shape of the policy.
* `netConfs_default_route_policy`: the policy for `AllocIP` and `GetIPInfo`.
-/

namespace Terway

/-! ### A successful `AllocIP` -/

section Alloc

variable (n : NetworkService) (env : NodeEnv) (o : AllocOutcomes) (st : Store)
  (r : AllocIPRequest)

/-- The handler's reply is its body's; the deferred function only adds effects. -/
lemma allocIP_reply : (allocIP n env o st r).reply = (allocIPBody n env o st r).ret := by
  unfold allocIP
  split
  · rfl
  · dsimp only
    split_ifs
    · rfl
    · split <;> rfl

/-- The tail returns a reply only when the branch succeeded and the request was not
cancelled, and leaves `err` unset then. -/
lemma allocIPTail_ok {p : PodInfo} {b : Branch (List NetConf)} {R : AllocIPReply}
    (h : (allocIPTail n o p b).ret = .ok R) :
    (allocIPTail n o p b).errSet = false ∧ o.cancelled = false ∧ b.result = .ok R.netConfs ∧
      R = { ipType := p.podNetworkType.ipType, ipv4 := n.ipFamily.ipv4,
            ipv6 := n.ipFamily.ipv6, success := true, netConfs := R.netConfs,
            enableTrunking := n.enableTrunk } := by
  unfold allocIPTail at h ⊢
  split at h
  · cases h
  · rename_i hb
    split_ifs at h with hc
    cases h
    simp [hb, hc]

/-- The body returns a reply only past its three checks, as its tail. -/
lemma allocIPBody_ok {R : AllocIPReply} (h : (allocIPBody n env o st r).ret = .ok R) :
    ∃ p, o.getPod = .ok p ∧ o.getErr = none ∧ n.verifyPodNetworkType p.podNetworkType = true ∧
      allocIPBody n env o st r = allocIPTail n o p (allocBranch n env o r p (st.get p.key)) := by
  unfold allocIPBody at h ⊢
  cases hp : o.getPod with
  | error e => simp [hp] at h
  | ok p =>
    cases hg : o.getErr with
    | some e => simp [hp, hg, getPodResource] at h
    | none =>
      cases hv : n.verifyPodNetworkType p.podNetworkType
      · simp [hp, hg, hv, getPodResource] at h
      · exact ⟨p, rfl, rfl, hv, by simp [hg, hv, getPodResource]⟩

/-- **A successful `AllocIP`**: the pod was read, the store answered, the mode serves the
pod and the request was not cancelled; the reply carries the branch's interfaces under the
network type's `IPType` and the service's flags, and the effects are the branch's followed
by the pod-IP patch. -/
lemma allocIP_ok {R : AllocIPReply} (h : (allocIP n env o st r).reply = .ok R) :
    ∃ p, o.getPod = .ok p ∧ o.getErr = none ∧ n.verifyPodNetworkType p.podNetworkType = true ∧
      o.cancelled = false ∧ (allocBranch n env o r p (st.get p.key)).result = .ok R.netConfs ∧
      R = { ipType := p.podNetworkType.ipType, ipv4 := n.ipFamily.ipv4,
            ipv6 := n.ipFamily.ipv6, success := true, netConfs := R.netConfs,
            enableTrunking := n.enableTrunk } ∧
      (allocIP n env o st r).effects =
        (allocBranch n env o r p (st.get p.key)).effects ++ podIPPatches R.netConfs := by
  rw [allocIP_reply] at h
  obtain ⟨p, hp, hg, hv, hb⟩ := allocIPBody_ok n env o st r h
  rw [hb] at h
  obtain ⟨hs, hc, hres, hR⟩ := allocIPTail_ok n o h
  refine ⟨p, hp, hg, hv, hc, hres, hR, ?_⟩
  simp only [allocIP, hp, hb, hs, h, Bool.false_eq_true, if_false, allocIPTail_effects]

end Alloc

/-! ### The default-route policy -/

/-- Every list a branch of `AllocIP` succeeds with is non-empty and in the shape of the
default-route policy: the CRD's list through `defaultForNetConf`, with the pool ENI-IP
appended when it names no default interface, or the single ENI or veth interface. -/
lemma allocBranch_policy {n : NetworkService} {env : NodeEnv} {o : AllocOutcomes}
    {r : AllocIPRequest} {p : PodInfo} {old : Option PodResources} {l : List NetConf}
    (h : (allocBranch n env o r p old).result = .ok l) : l ≠ [] ∧ DefaultRoutePolicy l := by
  unfold allocBranch allocENIMultiIPBranch allocVPCENIBranch allocVPCIPBranch at h
  split at h
  · split at h
    · cases h
    · split at h
      · exact defaultForNetConf_policy h (by rintro rfl; simp_all)
      · obtain ⟨_, -, h⟩ := Branch.mapResult_ok h
        exact defaultForNetConf_policy h (by simp)
  · split at h
    · exact exclusiveENIFromCRD_policy h
    · obtain ⟨_, -, h⟩ := Branch.mapResult_ok h
      cases h
      exact policy_singleton rfl rfl
  · obtain ⟨_, -, h⟩ := Branch.mapResult_ok h
    cases h
    exact policy_singleton rfl rfl

/-- **The default-route policy of every reply** (spec §4.5): in every mode, for every pod,
`PodENI`, store and outcome of the collaborators, the interfaces of a successful `AllocIP`
are non-empty, with exactly one default route and a default interface; those of a
`GetIPInfo` reply returned without error are empty or of that shape. -/
theorem netConfs_default_route_policy (n : NetworkService) (env : NodeEnv) :
    (∀ o st r (R : AllocIPReply), (allocIP n env o st r).reply = .ok R →
      R.netConfs ≠ [] ∧ DefaultRoutePolicy R.netConfs) ∧
    (∀ o st r (R : GetInfoReply), getIPInfo n env o st r = .ok R →
      R.netConfs = [] ∨ R.netConfs ≠ [] ∧ DefaultRoutePolicy R.netConfs) := by
  refine ⟨fun o st r R h => ?_, fun o st r R h => ?_⟩
  · obtain ⟨p, -, -, -, -, hb, -⟩ := allocIP_ok n env o st r h
    exact allocBranch_policy hb
  · rcases getIPInfo_netConfs n env o st r h with h0 | ⟨p, podRes, hb⟩
    · exact .inl h0
    · exact infoBranch_policy hb

/-- The pod `default/web-0` of network type `ENIMultiIP`, asking for an EIP. -/
def eipPod : PodInfo := ⟨"default", "web-0", .eniMultiIP, false, true, 0, 0, "", 0, ⟨"", ""⟩⟩

/-- The ENI-IP the pool hands to `eipPod`. -/
def poolENIIP : ENIIP :=
  ⟨"eni-1.10.0.0.9", ⟨"eni-1", "", ⟨"", ""⟩, ⟨"", ""⟩, ⟨"", ""⟩, false⟩, ⟨"10.0.0.9", ""⟩⟩

/-- `eipPod` with its ENI-IP and EIP granted. -/
def eipGranted : AllocOutcomes where
  getPod := .ok eipPod
  getErr := none
  podENIInfo := fun _ => .error .notFound
  allocateENIIP := fun _ _ => .ok poolENIIP
  allocateENI := fun _ _ => .error .invalidState
  allocateVeth := fun _ _ => .error .invalidState
  allocateEIP := fun _ _ => .ok ⟨"eip-1"⟩
  putErr := none
  cancelled := false
  deleteErr := fun _ => none
  releaseErr := fun _ => none

/-- The read path's view of `eipPod`: its ENI-IP's `Stat` answers the pool's object. -/
def eipInfo : InfoOutcomes where
  getPod := .ok eipPod
  getErr := none
  podENIInfo := fun _ => .error .notFound
  statENIIP := fun _ => .ok poolENIIP
  statENI := fun _ => .error .notFound

/-- The CNI request for `eipPod`'s sandbox `c1`. -/
def eipRequest : AllocIPRequest := ⟨"web-0", "default", "c1", "/proc/42/ns/net", "eth0"⟩

/-- The policy at `eipPod`: `AllocIP` grants the pool ENI-IP and the EIP, and `GetIPInfo`
on the store it leaves reads the ENI-IP back. -/
theorem netConfs_default_route_policy_eip :
    let st := Store.empty.applyEffects (allocIP eipService plainNode eipGranted Store.empty eipRequest).effects
    (∃ R, (allocIP eipService plainNode eipGranted Store.empty eipRequest).reply = .ok R ∧
      R.netConfs ≠ [] ∧ DefaultRoutePolicy R.netConfs) ∧
    ∃ R, getIPInfo eipService plainNode eipInfo st ⟨"web-0", "default", "c1"⟩ = .ok R ∧
      (R.netConfs = [] ∨ R.netConfs ≠ [] ∧ DefaultRoutePolicy R.netConfs) :=
  ⟨⟨_, rfl, (netConfs_default_route_policy eipService plainNode).1 eipGranted Store.empty
      eipRequest _ rfl⟩,
    ⟨_, rfl, (netConfs_default_route_policy eipService plainNode).2 eipInfo
      (Store.empty.applyEffects (allocIP eipService plainNode eipGranted Store.empty eipRequest).effects)
      ⟨"web-0", "default", "c1"⟩ _ rfl⟩⟩

end Terway

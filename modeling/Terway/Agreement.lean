import Terway.Reply

/-!
`GetIPInfo` after `AllocIP` (spec §4.2: the read path composes the `NetConf`s identically
to allocation). The two handlers build their interfaces in separate copies; this module
compares them on the store a successful `AllocIP` leaves.

* `infoENIMultiIPBranch_agrees`: the read path synthesises the pool ENI-IP without a
  default route and lets `defaultForNetConf` set it; `AllocIP` sets it before the call. The
  results agree.
* `infoVPCENIBranch_agrees`: on the exclusive-ENI path the read path reports
  `Trunk = PodENI && EnableTrunk && eni.Trunk`, where `AllocIP` reports `false`.
* `getIPInfo_reproduces_allocIP`: the read path reproduces the reply, up to that flag, when
  the record for the pod belongs to the sandbox it asks for, and the two flags on a pool ENI.
* `getIPInfo_reports_trunk`: a `VPCENI` pod on a trunk ENI, where the two replies differ,
  against spec §4.2's "identically".
-/

namespace Terway

/-- An interface with its `Trunk` flag cleared. -/
def NetConf.eraseTrunk (c : NetConf) : NetConf :=
  { c with eniInfo := c.eniInfo.map fun i => { i with trunk := false } }

/-! ### The branches, compared -/

section Agree

variable {n : NetworkService} {env : NodeEnv} {o : AllocOutcomes} {o' : InfoOutcomes}
  {r : AllocIPRequest} {p : PodInfo} {old : Option PodResources} {L : List NetConf}

lemma infoENIMultiIPBranch_agrees (hcrd : o'.podENIInfo false = o.podENIInfo true)
    (hstat : ∀ x, o.allocateENIIP p (oldResID old .eniIP) = .ok x → o'.statENIIP x.id = .ok x)
    (h : (allocENIMultiIPBranch n env o r p old).result = .ok L) (s : Store) :
    infoENIMultiIPBranch n env o' p ((s.applyEffects
      ((allocENIMultiIPBranch n env o r p old).effects ++ podIPPatches L)).get p.key) = .done L := by
  unfold allocENIMultiIPBranch at h ⊢
  unfold infoENIMultiIPBranch
  rw [multiIPFromCRD_congr hcrd]
  split at h
  · cases h
  · rename_i crd hm
    simp only [hm]
    split at h
    · rename_i hd
      simpa [hd] using h
    · rename_i hd
      obtain ⟨⟨eniIP, p'⟩, hres, hdef⟩ := Branch.mapResult_ok h
      obtain ⟨halloc, hp', extra, hextra, hst⟩ := allocAndPut_ok o r _ _ _ _ _ p old hres
      have hkey : (newPodResources r p' (⟨.eniIP, eniIP.id⟩ :: extra)).key = p.key := by
        rw [hp']; rfl
      have hget : (s.applyEffects ((allocAndPut o r .eniIP ENIIP.id o.allocateENIIP
          (if (n.eipResMgr && p.podEip) = true then some fun x => x.ipSet else none)
          "error get allocated eniip ip for" p old).effects ++ podIPPatches L)).get p.key =
          some (newPodResources r p' (⟨.eniIP, eniIP.id⟩ :: extra)) := by
        rw [Store.applyEffects_append, hst, Store.applyEffects_podIPPatches, ← hkey,
          Store.get_put_self]
      have hd' : hasDefaultIf crd = false := by simpa using hd
      rw [hp'] at hdef
      simp only [hd', Bool.false_eq_true, if_false, Branch.mapResult_effects, hget,
        firstItemID_newPodResources (t := .eniIP) (by decide) hextra, hstat _ halloc,
        InfoEnd.ofExcept_eq_done]
      exact defaultForNetConf_append_default (c := eniIPNetConf env p eniIP false) hd' rfl
        (by simpa using hdef)

lemma infoVPCENIBranch_agrees (hcrd : o'.podENIInfo false = o.podENIInfo true)
    (hstat : ∀ x, o.allocateENI p (oldResID old .eni) = .ok x → o'.statENI x.id = .ok x)
    (h : (allocVPCENIBranch n env o r p old).result = .ok L) (s : Store) :
    ∃ L', infoVPCENIBranch n env o' p ((s.applyEffects
        ((allocVPCENIBranch n env o r p old).effects ++ podIPPatches L)).get p.key) = .done L' ∧
      L'.map NetConf.eraseTrunk = L.map NetConf.eraseTrunk ∧
      (n.ipamType = .crd ∨ (p.podENI && n.enableTrunk) = false → L' = L) ∧
      (n.ipamType ≠ .crd → ∃ eni, o.allocateENI p (oldResID old .eni) = .ok eni ∧
        L.map (·.eniInfo.map (·.trunk)) = [some false] ∧
        L'.map (·.eniInfo.map (·.trunk)) = [some (p.podENI && n.enableTrunk && eni.trunk)]) := by
  unfold allocVPCENIBranch at h ⊢
  unfold infoVPCENIBranch
  by_cases hipam : n.ipamType = .crd
  · simp only [hipam, if_true] at h ⊢
    rw [exclusiveENIFromCRD_congr hcrd, h]
    exact ⟨L, rfl, rfl, fun _ => rfl, fun h => absurd rfl h⟩
  · simp only [hipam, if_false] at h ⊢
    obtain ⟨⟨eni, p'⟩, hres, hdef⟩ := Branch.mapResult_ok h
    cases hdef
    obtain ⟨halloc, hp', extra, hextra, hst⟩ := allocAndPut_ok o r _ _ _ _ _ p old hres
    have hkey : (newPodResources r p' (⟨.eni, eni.id⟩ :: extra)).key = p.key := by
      rw [hp']; rfl
    simp only [Branch.mapResult_effects, Store.applyEffects_append, hst,
      Store.applyEffects_podIPPatches, ← hkey, Store.get_put_self,
      firstItemID_newPodResources (t := .eni) (by decide) hextra, hstat _ halloc]
    refine ⟨_, rfl, ?_, ?_, fun _ => ⟨eni, halloc, rfl, rfl⟩⟩
    · rw [hp']
      simp [NetConf.eraseTrunk, eniNetConf, podTc]
    · rintro (h | h)
      · exact h.elim
      · rw [h, Bool.false_and, hp']
        rfl

/-- Every branch of `GetIPInfo`, on the store `AllocIP` left, finishes with the interfaces
the branch of `AllocIP` succeeded with, up to the `Trunk` flag, which differs only for a
pool ENI of a pod asking for a `PodENI` under trunking: there `AllocIP` reports `false`
and `GetIPInfo` the ENI's own flag. -/
lemma infoBranch_agrees (hcrd : o'.podENIInfo false = o.podENIInfo true)
    (hstatIP : ∀ x, o.allocateENIIP p (oldResID old .eniIP) = .ok x → o'.statENIIP x.id = .ok x)
    (hstatENI : ∀ x, o.allocateENI p (oldResID old .eni) = .ok x → o'.statENI x.id = .ok x)
    (h : (allocBranch n env o r p old).result = .ok L) (s : Store) :
    ∃ L', infoBranch n env o' p ((s.applyEffects
        ((allocBranch n env o r p old).effects ++ podIPPatches L)).get p.key) = .done L' ∧
      L'.map NetConf.eraseTrunk = L.map NetConf.eraseTrunk ∧
      (¬(p.podNetworkType = .vpcENI ∧ n.ipamType ≠ .crd ∧ p.podENI = true ∧
        n.enableTrunk = true) → L' = L) ∧
      (p.podNetworkType = .vpcENI → n.ipamType ≠ .crd →
        ∃ eni, o.allocateENI p (oldResID old .eni) = .ok eni ∧
          L.map (·.eniInfo.map (·.trunk)) = [some false] ∧
          L'.map (·.eniInfo.map (·.trunk)) = [some (p.podENI && n.enableTrunk && eni.trunk)]) := by
  unfold allocBranch at h ⊢
  unfold infoBranch
  split at h <;> rename_i hpt <;> simp only [hpt]
  · exact ⟨L, infoENIMultiIPBranch_agrees hcrd hstatIP h s, rfl, fun _ => rfl, nofun⟩
  · obtain ⟨L', h1, h2, h3, h4⟩ := infoVPCENIBranch_agrees hcrd hstatENI h s
    refine ⟨L', h1, h2, fun hn => h3 ?_, fun _ => h4⟩
    by_cases hipam : n.ipamType = .crd
    · exact .inl hipam
    · cases hp : p.podENI <;> cases he : n.enableTrunk <;> simp_all
  · obtain ⟨⟨_, p'⟩, hres, hdef⟩ := Branch.mapResult_ok h
    cases hdef
    obtain ⟨-, hp', -⟩ := allocAndPut_ok o r _ _ _ _ _ p old hres
    refine ⟨_, rfl, ?_, fun _ => ?_, nofun⟩ <;> rw [hp'] <;> rfl

end Agree

/-! ### The handlers, compared -/


/-- **`GetIPInfo` reproduces `AllocIP` up to `Trunk`.** After a successful `AllocIP` for pod
`p`, a `GetIPInfo` for `p` on the store the call left, with the same pod and `PodENI`, a
store that answers, each manager's `Stat` returning what its `Allocate` handed out, and a
record for `p`, if any, of the sandbox it asks for (the one `AllocIP` wrote, unless it took a
CRD path, which writes none and leaves the old record), returns a reply with the same
`IPType`, IP families and trunking flag, no error, and the same interfaces up to their
`Trunk` flag, and exactly the same unless the pod is a `VPCENI` pod on a pool ENI asking for
a `PodENI` under trunking. On a pool ENI, `AllocIP` reports `Trunk = false` (daemon.go:420)
and `GetIPInfo` reports `PodENI && EnableTrunk && eni.Trunk` (daemon.go:724). -/
theorem getIPInfo_reproduces_allocIP (n : NetworkService) (env : NodeEnv) (o : AllocOutcomes)
    (o' : InfoOutcomes) (st : Store) (r : AllocIPRequest) (r' : GetInfoRequest) {p : PodInfo}
    {R : AllocIPReply} (h : (allocIP n env o st r).reply = .ok R)
    (hpod : o.getPod = .ok p) (hpod' : o'.getPod = .ok p) (hget : o'.getErr = none)
    (hcrd : o'.podENIInfo false = o.podENIInfo true)
    (hstatIP : ∀ x, o.allocateENIIP p (oldResID (st.get p.key) .eniIP) = .ok x →
      o'.statENIIP x.id = .ok x)
    (hstatENI : ∀ x, o.allocateENI p (oldResID (st.get p.key) .eni) = .ok x →
      o'.statENI x.id = .ok x)
    (hown : ∀ rec, (st.applyEffects (allocIP n env o st r).effects).get p.key = some rec →
      rec.containerID = none ∨ rec.containerID = some r'.k8sPodInfraContainerId) :
    ∃ R', getIPInfo n env o' (st.applyEffects (allocIP n env o st r).effects) r' = .ok R' ∧
      R'.ipType = R.ipType ∧ R'.ipv4 = R.ipv4 ∧ R'.ipv6 = R.ipv6 ∧
      R'.enableTrunking = R.enableTrunking ∧ R'.error = .errNoErr ∧
      R'.netConfs.map NetConf.eraseTrunk = R.netConfs.map NetConf.eraseTrunk ∧
      (¬(p.podNetworkType = .vpcENI ∧ n.ipamType ≠ .crd ∧ p.podENI = true ∧
        n.enableTrunk = true) → R'.netConfs = R.netConfs) ∧
      (p.podNetworkType = .vpcENI → n.ipamType ≠ .crd →
        ∃ eni, o.allocateENI p (oldResID (st.get p.key) .eni) = .ok eni ∧
          R.netConfs.map (·.eniInfo.map (·.trunk)) = [some false] ∧
          R'.netConfs.map (·.eniInfo.map (·.trunk)) =
            [some (p.podENI && n.enableTrunk && eni.trunk)]) := by
  obtain ⟨p0, hp0, -, hv, -, hres, hR, heff⟩ := allocIP_ok n env o st r h
  obtain rfl : p0 = p := by rw [hpod] at hp0; cases hp0; rfl
  rw [getIPInfo_eq n env o' _ r' hpod' hv hget hown, heff]
  obtain ⟨L', hL', herase, heq, htrunk⟩ := infoBranch_agrees hcrd hstatIP hstatENI hres st
  rw [hL', hR]
  exact ⟨_, rfl, rfl, rfl, rfl, rfl, rfl, herase, heq, htrunk⟩

/-- The read path at `eipPod` after `AllocIP` granted its ENI-IP and EIP: the same
interfaces. -/
theorem getIPInfo_reproduces_allocIP_eip :
    ∃ R, (allocIP eipService plainNode eipGranted Store.empty eipRequest).reply = .ok R ∧
      ∃ R', getIPInfo eipService plainNode eipInfo (Store.empty.applyEffects
          (allocIP eipService plainNode eipGranted Store.empty eipRequest).effects)
          ⟨"web-0", "default", "c1"⟩ = .ok R' ∧ R'.netConfs = R.netConfs := by
  obtain ⟨R', h1, -, -, -, -, -, -, heq, -⟩ := getIPInfo_reproduces_allocIP eipService plainNode
    eipGranted eipInfo Store.empty eipRequest ⟨"web-0", "default", "c1"⟩ rfl rfl rfl rfl rfl
    (fun x hx => by cases hx; rfl) (fun x hx => by cases hx)
    (fun rec hrec => by
      obtain rfl : rec = newPodResources eipRequest { eipPod with podIPs := poolENIIP.ipSet }
          [⟨.eniIP, poolENIIP.id⟩, ⟨.eip, "eip-1"⟩] := Option.some.inj (hrec.symm.trans rfl)
      exact .inr rfl)
  exact ⟨_, rfl, R', h1, heq (by decide)⟩

/-! ### The `Trunk` flag of a pool ENI -/

/-- A service in `ENIOnly` mode with trunking on and no EIP pool. -/
def trunkService : NetworkService :=
  ⟨.eniOnly, .default, true, ⟨true, false⟩, false, by decide⟩

/-- A `VPCENI` pod `default/db-0` asking for a `PodENI`. -/
def trunkPod : PodInfo := ⟨"default", "db-0", .vpcENI, true, false, 0, 0, "", 0, ⟨"", ""⟩⟩

/-- A trunk ENI the ENI manager hands out. -/
def trunkENI : ENI :=
  ⟨"eni-2", "02:00:00:00:00:02", ⟨"10.0.0.20", ""⟩, ⟨"10.0.0.0/24", ""⟩, ⟨"10.0.0.1", ""⟩, true⟩

/-- `trunkPod` granted `trunkENI`. -/
def trunkAlloc : AllocOutcomes where
  getPod := .ok trunkPod
  getErr := none
  podENIInfo := fun _ => .error .notFound
  allocateENIIP := fun _ _ => .error .invalidState
  allocateENI := fun _ _ => .ok trunkENI
  allocateVeth := fun _ _ => .error .invalidState
  allocateEIP := fun _ _ => .error .invalidState
  putErr := none
  cancelled := false
  deleteErr := fun _ => none
  releaseErr := fun _ => none

/-- The read path's view of `trunkPod`: the ENI's `Stat` answers `trunkENI`. -/
def trunkInfo : InfoOutcomes where
  getPod := .ok trunkPod
  getErr := none
  podENIInfo := fun _ => .error .notFound
  statENIIP := fun _ => .error .notFound
  statENI := fun _ => .ok trunkENI

/-- The CNI request for `trunkPod`'s sandbox `c2`. -/
def trunkRequest : AllocIPRequest := ⟨"db-0", "default", "c2", "/proc/43/ns/net", "eth0"⟩

/-- **The two handlers disagree on `Trunk`.** `AllocIP` of `trunkPod` on `trunkENI` reports
its one interface with `Trunk = false`; `GetIPInfo` on the store it left, with the ENI's
`Stat` answering the same ENI, reports `Trunk = true`. -/
theorem getIPInfo_reports_trunk :
    ∃ R R', (allocIP trunkService plainNode trunkAlloc Store.empty trunkRequest).reply = .ok R ∧
      getIPInfo trunkService plainNode trunkInfo (Store.empty.applyEffects
        (allocIP trunkService plainNode trunkAlloc Store.empty trunkRequest).effects)
        ⟨"db-0", "default", "c2"⟩ = .ok R' ∧
      R.netConfs.map (·.eniInfo.map (·.trunk)) = [some false] ∧
      R'.netConfs.map (·.eniInfo.map (·.trunk)) = [some true] :=
  ⟨_, _, rfl, rfl, rfl, rfl⟩

end Terway

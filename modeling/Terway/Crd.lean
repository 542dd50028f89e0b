import Terway.NetConf
import Terway.Service

/-!
The CRD branch (`requestCRD`, `multiIPFromCRD`, `exclusiveENIFromCRD` and
`parseExtraRoute` of `daemon.go`, spec §4.4): the `NetConf`s of a CRD-mode pod, one per
allocation of its `PodENI`.

The Kubernetes read is the caller's: `read true` is `WaitPodENIInfo` and `read false` is
`GetPodENIInfo`, so `waitReady` picks which outcome the call sees.

* `crdAddrs`: the pod IP, CIDR and derived gateway of one allocation, with the
  `"empty cidr or gateway"` check, as both assembly functions compute them.
* `crdNetConf`: the `NetConf` both functions append for an allocation.
* `exclusiveENIFromCRD_policy`: a successful exclusive-ENI assembly has one entry per
  allocation, at least one, in the shape of the default-route policy.
-/

namespace Terway

/-- `requestCRD`: read the pod's `PodENI` when the pod is in CRD mode (IPAM type `crd`, or
`PodENI` with trunking enabled), failing when it lists no allocation; `none` when the pod is
not in CRD mode. -/
def requestCRD (n : NetworkService) (podInfo : PodInfo) (waitReady : Bool)
    (read : Bool → Except Err PodENI) : Except Err (Option PodENI) :=
  if n.ipamType = .crd || podInfo.podENI && n.enableTrunk then
    match read waitReady with
    | .error err => .error err
    | .ok podENI =>
      if podENI.allocations.length ≤ 0 then .error (.msg "podENI has no allocation info")
      else .ok (some podENI)
  else .ok none

/-- `parseExtraRoute`. -/
def parseExtraRoute (routes : List Route) : List Route :=
  routes.map fun r => { dst := r.dst }

/-- The addresses of one allocation: per family that has an address, the address, its
CIDR and the gateway derived from the CIDR; an empty CIDR or gateway fails the call. -/
def crdAddrs (deriveGatewayIP : String → String) (alloc : Allocation) :
    Except Err (IPSet × IPSet × IPSet) := do
  let mut podIP : IPSet := ⟨"", ""⟩
  let mut cidr : IPSet := ⟨"", ""⟩
  let mut gw : IPSet := ⟨"", ""⟩
  if alloc.ipv4 ≠ "" then
    podIP := { podIP with ipv4 := alloc.ipv4 }
    cidr := { cidr with ipv4 := alloc.ipv4CIDR }
    gw := { gw with ipv4 := deriveGatewayIP alloc.ipv4CIDR }
    if cidr.ipv4 = "" || gw.ipv4 = "" then throw (.msg "empty cidr or gateway")
  if alloc.ipv6 ≠ "" then
    podIP := { podIP with ipv6 := alloc.ipv6 }
    cidr := { cidr with ipv6 := alloc.ipv6CIDR }
    gw := { gw with ipv6 := deriveGatewayIP alloc.ipv6CIDR }
    if cidr.ipv6 = "" || gw.ipv6 = "" then throw (.msg "empty cidr or gateway")
  return (podIP, cidr, gw)

/-- `rpc.Pod` of a pod: its traffic shaping. -/
def podTc (podInfo : PodInfo) : Pod :=
  { ingress := podInfo.tcIngress, egress := podInfo.tcEgress,
    networkPriority := podInfo.networkPriority }

/-- The `NetConf` both assembly functions append for an allocation. -/
def crdNetConf (env : NodeEnv) (podInfo : PodInfo) (alloc : Allocation)
    (addrs : IPSet × IPSet × IPSet) (eniInfo : ENIInfo) : NetConf where
  basicInfo := some
    { podIP := some addrs.1
      podCIDR := some addrs.2.1
      gatewayIP := some addrs.2.2
      serviceCIDR := some env.serviceCIDR }
  eniInfo := some eniInfo
  pod := some (podTc podInfo)
  ifName := alloc.interface
  extraRoutes := parseExtraRoute alloc.extraRoutes
  defaultRoute := alloc.defaultRoute

/-- `uint32(info.Vid)`: the id modulo `2 ^ 32`. -/
def vidOf (vid : Nat) : Nat := vid % 4294967296

/-- The loop body of `multiIPFromCRD`: the allocation's addresses on the node's trunk
ENI, with the VLAN id of its status entry. -/
def multiIPAllocNetConf (env : NodeEnv) (podInfo : PodInfo) (podEni : PodENI)
    (nodeTrunkENI : ENI) (alloc : Allocation) : Except Err NetConf := do
  let addrs ← crdAddrs env.deriveGatewayIP alloc
  match podEni.eniInfos.lookup alloc.eni.id with
  | none => throw (.msg "error get podENI status")
  | some vid =>
    return crdNetConf env podInfo alloc addrs
      { mac := nodeTrunkENI.mac, trunk := true, vid := vidOf vid,
        gatewayIP := some nodeTrunkENI.gatewayIP }

/-- `multiIPFromCRD`: the `NetConf`s of a multi-IP CRD pod, on the node's trunk ENI, which
must be the one the `PodENI` status names; no entry when the pod is not in CRD mode. -/
def multiIPFromCRD (n : NetworkService) (env : NodeEnv) (podInfo : PodInfo)
    (waitReady : Bool) (read : Bool → Except Err PodENI) : Except Err (List NetConf) :=
  match requestCRD n podInfo waitReady read with
  | .error err => .error (.wrap "error wait pod eni info" err)
  | .ok none => .ok []
  | .ok (some podEni) =>
    match env.eniIPTrunkENI with
    | none => .error (.msg "pod status eni parent not match instance trunk eni")
    | some nodeTrunkENI =>
      if nodeTrunkENI.id ≠ podEni.trunkENIID then
        .error (.msg "pod status eni parent not match instance trunk eni")
      else podEni.allocations.mapM (multiIPAllocNetConf env podInfo podEni nodeTrunkENI)

/-- The loop body of `exclusiveENIFromCRD`: the allocation's own ENI, or with trunking the
node's trunk ENI and the VLAN id of its status entry. -/
def exclusiveAllocNetConf (env : NodeEnv) (podInfo : PodInfo) (podEni : PodENI)
    (nodeTrunkENI : Option ENI) (alloc : Allocation) : Except Err NetConf := do
  let addrs ← crdAddrs env.deriveGatewayIP alloc
  match nodeTrunkENI with
  | none =>
    return crdNetConf env podInfo alloc addrs
      { mac := alloc.eni.mac, trunk := false, vid := 0, gatewayIP := none }
  | some trunk =>
    match podEni.eniInfos.lookup alloc.eni.id with
    | none => throw (.msg "error get podENI status")
    | some vid =>
      return crdNetConf env podInfo alloc addrs
        { mac := trunk.mac, trunk := true, vid := vidOf vid, gatewayIP := some trunk.gatewayIP }

/-- The trunk check of `exclusiveENIFromCRD`: with trunking, the node's trunk ENI, which must
be the one the `PodENI` status names; without, none. -/
def exclusiveTrunkENI (n : NetworkService) (env : NodeEnv) (podEni : PodENI) :
    Except Err (Option ENI) :=
  if n.enableTrunk then
    match env.eniTrunkENI with
    | some trunk =>
      if trunk.id ≠ podEni.trunkENIID then
        .error (.msg "pod status eni parent not match instance trunk eni")
      else .ok (some trunk)
    | none => .error (.msg "pod status eni parent not match instance trunk eni")
  else .ok none

/-- `exclusiveENIFromCRD`: the `NetConf`s of an exclusive-ENI CRD pod, with the default
route settled by `defaultForNetConf`. With trunking the node's trunk ENI must be the one the
`PodENI` status names. The only caller passes IPAM type `crd`, under which `requestCRD`
always reads; a `nil` `PodENI` would be dereferenced, modelled as an error. -/
def exclusiveENIFromCRD (n : NetworkService) (env : NodeEnv) (podInfo : PodInfo)
    (waitReady : Bool) (read : Bool → Except Err PodENI) : Except Err (List NetConf) :=
  match requestCRD n podInfo waitReady read with
  | .error err => .error (.wrap "error wait pod eni info" err)
  | .ok none => .error (.msg "invalid memory address or nil pointer dereference")
  | .ok (some podEni) => do
    let nodeTrunkENI ← exclusiveTrunkENI n env podEni
    let netConf ← podEni.allocations.mapM (exclusiveAllocNetConf env podInfo podEni nodeTrunkENI)
    defaultForNetConf netConf

/-! ### Successful assemblies -/

/-- `requestCRD` reads the `PodENI` once, through the caller's `read`: two reads that answer
alike give the same result. -/
lemma requestCRD_congr {n : NetworkService} {podInfo : PodInfo} {w w' : Bool}
    {read read' : Bool → Except Err PodENI} (h : read w = read' w') :
    requestCRD n podInfo w read = requestCRD n podInfo w' read' := by
  simp only [requestCRD, h]

lemma multiIPFromCRD_congr {n : NetworkService} {env : NodeEnv} {podInfo : PodInfo}
    {w w' : Bool} {read read' : Bool → Except Err PodENI} (h : read w = read' w') :
    multiIPFromCRD n env podInfo w read = multiIPFromCRD n env podInfo w' read' := by
  simp only [multiIPFromCRD, requestCRD_congr h]

lemma exclusiveENIFromCRD_congr {n : NetworkService} {env : NodeEnv} {podInfo : PodInfo}
    {w w' : Bool} {read read' : Bool → Except Err PodENI} (h : read w = read' w') :
    exclusiveENIFromCRD n env podInfo w read = exclusiveENIFromCRD n env podInfo w' read' := by
  simp only [exclusiveENIFromCRD, requestCRD_congr h]


/-- A `mapM` in `Except` that succeeds has one result per element. -/
lemma mapM_length_of_ok {α β : Type} {f : α → Except Err β} :
    ∀ {l : List α} {l' : List β}, l.mapM f = .ok l' → l'.length = l.length
  | [], l', h => by cases h; rfl
  | a :: l, l', h => by
    rw [List.mapM_cons] at h
    cases hf : f a with
    | error e => rw [hf] at h; cases h
    | ok b =>
      cases hl : l.mapM f with
      | error e => rw [hf, hl] at h; cases h
      | ok bs =>
        rw [hf, hl] at h
        cases h
        simp [mapM_length_of_ok hl]

/-- `requestCRD` hands out only a `PodENI` with an allocation. -/
lemma allocations_ne_nil_of_requestCRD {n : NetworkService} {podInfo : PodInfo} {w : Bool}
    {read : Bool → Except Err PodENI} {podEni : PodENI}
    (h : requestCRD n podInfo w read = .ok (some podEni)) : podEni.allocations ≠ [] := by
  unfold requestCRD at h
  split_ifs at h
  · split at h
    · cases h
    · split_ifs at h with hl
      cases h
      simpa using hl
  · cases h

/-- A successful `exclusiveENIFromCRD` returns one interface per allocation, so a non-empty
list, which `defaultForNetConf` has brought into the shape of the policy. -/
lemma exclusiveENIFromCRD_policy {n : NetworkService} {env : NodeEnv} {podInfo : PodInfo}
    {w : Bool} {read : Bool → Except Err PodENI} {l : List NetConf}
    (h : exclusiveENIFromCRD n env podInfo w read = .ok l) : l ≠ [] ∧ DefaultRoutePolicy l := by
  unfold exclusiveENIFromCRD at h
  split at h
  · cases h
  · cases h
  · rename_i podEni hreq
    obtain ⟨_, -, h⟩ := exists_of_bind_eq_ok h
    obtain ⟨netConf, hm, h⟩ := exists_of_bind_eq_ok h
    refine defaultForNetConf_policy h fun h0 => allocations_ne_nil_of_requestCRD hreq ?_
    simpa [h0, eq_comm] using mapM_length_of_ok hm

end Terway

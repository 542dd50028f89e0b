import Mathlib.Data.List.Basic

/-!
The data model of the terway daemon's request coordinator (`daemon/daemon.go`), with the
records it reads from the `types`, `rpc` and `podENITypes` packages. Those packages are not
in the source tree; their records are modelled from the spec (§3 and §6) and keep only the
fields `daemon.go` reads or writes.

* `ResourceItem`, `PodResources`: the persisted record of a pod, keyed by `podInfoKey`;
  `getResourceItemByType` is the filter `allocate*` and `GetIPInfo` read items through.
* `PodInfo`: the snapshot of a pod read from the Kubernetes cache.
* `NetConf` and the replies `AllocIPReply`, `ReleaseIPReply`, `GetInfoReply`.
* `ENI`, `ENIIP`, `Veth`, `EIP`: what the resource managers hand out, each turned into one
  `ResourceItem` by `toResItems`.
* `PodENI`: the custom resource a sibling controller reconciles for CRD-mode pods.
* `Err`: the errors the handlers pass on; `Err.isNotFound` is `k8sErr.IsNotFound`.
-/

namespace Terway

/-! ### Records and items -/

/-- The four resource kinds (`types.ResourceTypeENI`, `…ENIIP`, `…Veth`, `…EIP`), one per
resource manager. -/
inductive ResourceType
  | eni
  | eniIP
  | veth
  | eip
  deriving DecidableEq, Repr

/-- `types.ResourceItem`: one resource of a pod record; `id` is opaque and unique per type. -/
structure ResourceItem where
  type : ResourceType
  id : String
  deriving DecidableEq, Repr

/-- The network types a pod asks for (`podNetworkTypeENIMultiIP`, `…VPCENI`, `…VPCIP`). -/
inductive PodNetworkType
  | eniMultiIP
  | vpcENI
  | vpcIP
  deriving DecidableEq, Repr

/-- `rpc.IPSet`: an IPv4 and an IPv6 address or prefix, `""` where absent. -/
structure IPSet where
  ipv4 : String
  ipv6 : String
  deriving DecidableEq, Repr

/-- `types.PodInfo`: the snapshot of a pod a request reads from the Kubernetes cache.
`podEip` is `EipInfo.PodEip`; `ipStickTime` is the delay of a sticky release. -/
structure PodInfo where
  «namespace» : String
  name : String
  podNetworkType : PodNetworkType
  podENI : Bool
  podEip : Bool
  tcIngress : Nat
  tcEgress : Nat
  networkPriority : String
  ipStickTime : Nat
  podIPs : IPSet
  deriving DecidableEq, Repr

/-- `podInfoKey`: the store key `"<namespace>/<name>"` of a pod. -/
def podInfoKey (ns name : String) : String := ns ++ "/" ++ name

/-- The store key of a pod snapshot. -/
def PodInfo.key (p : PodInfo) : String := podInfoKey p.namespace p.name

@[simp] lemma PodInfo.key_podIPs (p : PodInfo) (ips : IPSet) :
    ({ p with podIPs := ips } : PodInfo).key = p.key := rfl

/-- `types.PodResources`: the persisted record of a pod: its snapshot at allocation, its
items, and the net namespace and sandbox container id of the request that wrote it. -/
structure PodResources where
  podInfo : PodInfo
  resources : List ResourceItem
  netNs : Option String
  containerID : Option String
  deriving DecidableEq, Repr

/-- The store key of a record: the key of its pod. -/
def PodResources.key (r : PodResources) : String := r.podInfo.key

/-- `PodResources.GetResourceItemByType`: the items of one type, in record order. -/
def PodResources.getResourceItemByType (r : PodResources) (t : ResourceType) :
    List ResourceItem :=
  r.resources.filter (·.type = t)

/-! ### The CNI reply -/

/-- `rpc.BasicInfo`: the addresses of one interface. -/
structure BasicInfo where
  podIP : Option IPSet
  podCIDR : Option IPSet
  gatewayIP : Option IPSet
  serviceCIDR : Option IPSet
  deriving DecidableEq, Repr

/-- `rpc.ENIInfo`: the ENI an interface sits on; `vid` is the VLAN id of a trunk member. -/
structure ENIInfo where
  mac : String
  trunk : Bool
  vid : Nat
  gatewayIP : Option IPSet
  deriving DecidableEq, Repr

/-- `rpc.Pod`: traffic shaping of the pod. -/
structure Pod where
  ingress : Nat
  egress : Nat
  networkPriority : String
  deriving DecidableEq, Repr

/-- `rpc.Route` (and `podENITypes.Route`): an extra route by destination. -/
structure Route where
  dst : String
  deriving DecidableEq, Repr

/-- `rpc.NetConf`: one interface of a reply. `ifName` `""` or `"eth0"` is the default
interface. -/
structure NetConf where
  basicInfo : Option BasicInfo
  eniInfo : Option ENIInfo
  pod : Option Pod
  ifName : String
  extraRoutes : List Route
  defaultRoute : Bool
  deriving DecidableEq, Repr

/-- `rpc.IPType`; `typeVPCIP` is the enum's zero value. -/
inductive IPType
  | typeVPCIP
  | typeVPCENI
  | typeENIMultiIP
  deriving DecidableEq, Repr

/-- `rpc.Error`; `errNoErr` is the enum's zero value. -/
inductive RpcError
  | errNoErr
  | errCRDNotFound
  deriving DecidableEq, Repr

/-- `rpc.AllocIPReply`. -/
structure AllocIPReply where
  ipType : IPType
  ipv4 : Bool
  ipv6 : Bool
  success : Bool
  netConfs : List NetConf
  enableTrunking : Bool
  deriving DecidableEq, Repr

/-- `rpc.ReleaseIPReply`. -/
structure ReleaseIPReply where
  success : Bool
  ipv4 : Bool
  ipv6 : Bool
  deriving DecidableEq, Repr

/-- `rpc.GetInfoReply`. -/
structure GetInfoReply where
  ipType : IPType
  ipv4 : Bool
  ipv6 : Bool
  netConfs : List NetConf
  enableTrunking : Bool
  error : RpcError
  deriving DecidableEq, Repr

/-! ### What the resource managers hand out -/

/-- `types.ENI`: an elastic network interface. -/
structure ENI where
  id : String
  mac : String
  primaryIP : IPSet
  vSwitchCIDR : IPSet
  gatewayIP : IPSet
  trunk : Bool
  deriving DecidableEq, Repr

/-- `types.ENIIP`: a secondary IP of an ENI; its resource id is `"<eniID>.<ip>"`. -/
structure ENIIP where
  id : String
  eni : ENI
  ipSet : IPSet
  deriving DecidableEq, Repr

/-- `types.Veth`: a host/container veth pair. -/
structure Veth where
  id : String
  deriving DecidableEq, Repr

/-- `types.EIP`: an elastic public IP. -/
structure EIP where
  id : String
  deriving DecidableEq, Repr

/-- `ENI.ToResItems`. -/
def ENI.toResItems (e : ENI) : List ResourceItem := [⟨.eni, e.id⟩]

/-- `ENIIP.ToResItems`. -/
def ENIIP.toResItems (e : ENIIP) : List ResourceItem := [⟨.eniIP, e.id⟩]

/-- `Veth.ToResItems`. -/
def Veth.toResItems (v : Veth) : List ResourceItem := [⟨.veth, v.id⟩]

/-- `EIP.ToResItems`. -/
def EIP.toResItems (e : EIP) : List ResourceItem := [⟨.eip, e.id⟩]

/-! ### The `PodENI` custom resource -/

/-- The ENI of a `PodENI` allocation. -/
structure AllocationENI where
  id : String
  mac : String
  deriving DecidableEq, Repr

/-- `podENITypes.Allocation`: one interface the controller allocated for the pod. -/
structure Allocation where
  eni : AllocationENI
  ipv4 : String
  ipv4CIDR : String
  ipv6 : String
  ipv6CIDR : String
  «interface» : String
  extraRoutes : List Route
  defaultRoute : Bool
  deriving DecidableEq, Repr

/-- `podENITypes.PodENI`: `Spec.Allocations`, `Status.TrunkENIID`, and the VLAN ids of
`Status.ENIInfos` by ENI id. -/
structure PodENI where
  allocations : List Allocation
  trunkENIID : String
  eniInfos : List (String × Nat)
  deriving DecidableEq, Repr

/-! ### Errors -/

/-- The errors the handlers pass on: a Kubernetes `NotFound`, the pools'
`pool.ErrInvalidState`, a message, or a message wrapping its cause (`fmt.Errorf` with `%w`,
`errors.Wrapf`). -/
inductive Err
  | notFound
  | invalidState
  | msg (text : String)
  | wrap (text : String) (cause : Err)
  deriving DecidableEq, Repr

/-- `k8sErr.IsNotFound`: a `NotFound` status, looked up through the wrapping chain. -/
def Err.isNotFound : Err → Bool
  | .notFound => true
  | .invalidState => false
  | .msg _ => false
  | .wrap _ cause => cause.isNotFound

/-- A `bind` in `Except` that succeeds ran its first computation to a value. -/
lemma exists_of_bind_eq_ok {α β : Type} {x : Except Err α} {f : α → Except Err β} {b : β}
    (h : x >>= f = .ok b) : ∃ a, x = .ok a ∧ f a = .ok b := by
  cases x with
  | error e => cases h
  | ok a => exact ⟨a, rfl, h⟩

end Terway

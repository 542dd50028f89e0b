import Terway.Types

/-!
The configuration of the network service (`newNetworkService`, `verifyPodNetworkType` and
`getResourceManagerForRes` of `daemon.go`, `Config` of `types/daemon/config.go`).

* `newNetworkService`: the mode check, `validateConfig`, `setDefault`, the IPv6 downgrade,
  the security-group bound of `getPoolConfig`, and which resource managers the mode builds.
  The JSON loading and merge of the configuration, the Kubernetes and cloud clients and the
  managers' own construction are collaborators outside the model.
* `NetworkService`: the fields the handlers read; the EIP manager exists only in the modes
  that build it, carried as a field.
* `NetworkService.mgrForResource`: the `map[string]ResourceManager` literal of each mode,
  whose EIP entry holds a nil manager when the EIP pool is off (`MgrEntry.nilMgr`).
* `NetworkService.verifyPodNetworkType`: the mode policy of spec §4.3.
* `NodeEnv`: what the handlers read from their collaborators and which stays fixed across
  calls.
-/

namespace Terway

/-- The daemon modes (`daemonModeVPC`, `daemonModeENIMultiIP`, `daemonModeENIOnly`). -/
inductive DaemonMode
  | vpc
  | eniMultiIP
  | eniOnly
  deriving DecidableEq, Repr

/-- `types.IPAMType`: `crd`, or the pool-driven default. -/
inductive IPAMType
  | crd
  | default
  deriving DecidableEq, Repr

/-- `types.IPFamily`. -/
structure IPFamily where
  ipv4 : Bool
  ipv6 : Bool
  deriving DecidableEq, Repr

/-- What `mgrForResource[t]` holds: no entry, an entry holding a nil manager, or a
manager (always the manager of `t`). Go's `mgr, ok := m[t]` has `ok` for the last two. -/
inductive MgrEntry
  | absent
  | nilMgr
  | present
  deriving DecidableEq, Repr

/-- The fields of `networkService` the handlers read. `eipResMgr` says whether the EIP
manager is non-nil; `newNetworkService` builds it only in `ENIMultiIP` mode, and in
`ENIOnly` mode without trunking. -/
structure NetworkService where
  daemonMode : DaemonMode
  ipamType : IPAMType
  enableTrunk : Bool
  ipFamily : IPFamily
  eipResMgr : Bool
  eipResMgr_mode : eipResMgr = true →
    daemonMode = .eniMultiIP ∨ daemonMode = .eniOnly ∧ enableTrunk = false

/-- The keys of the `mgrForResource` map literal of each mode. -/
def DaemonMode.resourceTypes : DaemonMode → List ResourceType
  | .vpc => [.eni, .veth]
  | .eniMultiIP => [.eniIP, .eip]
  | .eniOnly => [.eni, .eip]

namespace NetworkService

/-- Whether the manager field of a resource type (`vethResMgr`, `eniResMgr`,
`eniIPResMgr`, `eipResMgr`) is non-nil. -/
def resMgr (n : NetworkService) : ResourceType → Bool
  | .veth => n.daemonMode = .vpc
  | .eni => n.daemonMode = .vpc || n.daemonMode = .eniOnly
  | .eniIP => n.daemonMode = .eniMultiIP
  | .eip => n.eipResMgr

/-- `mgrForResource[t]`: the entry of `t` in the mode's map literal, holding the manager
field of `t`, nil or not. -/
def mgrForResource (n : NetworkService) (t : ResourceType) : MgrEntry :=
  if t ∈ n.daemonMode.resourceTypes then (if n.resMgr t then .present else .nilMgr)
  else .absent

/-- `getResourceManagerForRes(t) != nil`: the map lookup yields a manager. -/
def getResourceManagerForRes (n : NetworkService) (t : ResourceType) : Bool :=
  n.mgrForResource t = .present

/-- `verifyPodNetworkType`: the pod network types each mode serves (spec §4.3). -/
def verifyPodNetworkType (n : NetworkService) (podNetworkMode : PodNetworkType) : Bool :=
  (n.daemonMode = .vpc && (podNetworkMode = .vpcENI || podNetworkMode = .vpcIP)) ||
    (n.daemonMode = .eniMultiIP && podNetworkMode = .eniMultiIP) ||
    (n.daemonMode = .eniOnly && podNetworkMode = .vpcENI)

/-- A type has a manager in the map exactly when it is a key of the mode's literal and its
manager field is non-nil. -/
lemma getResourceManagerForRes_eq (n : NetworkService) (t : ResourceType) :
    n.getResourceManagerForRes t = (decide (t ∈ n.daemonMode.resourceTypes) && n.resMgr t) := by
  unfold getResourceManagerForRes mgrForResource
  split_ifs <;> simp_all

@[simp] lemma verifyPodNetworkType_eniMultiIP (n : NetworkService) :
    n.verifyPodNetworkType .eniMultiIP = true ↔ n.daemonMode = .eniMultiIP := by
  cases h : n.daemonMode <;> simp [verifyPodNetworkType, h]

@[simp] lemma verifyPodNetworkType_vpcENI (n : NetworkService) :
    n.verifyPodNetworkType .vpcENI = true ↔ n.daemonMode = .vpc ∨ n.daemonMode = .eniOnly := by
  cases h : n.daemonMode <;> simp [verifyPodNetworkType, h]

@[simp] lemma verifyPodNetworkType_vpcIP (n : NetworkService) :
    n.verifyPodNetworkType .vpcIP = true ↔ n.daemonMode = .vpc := by
  cases h : n.daemonMode <;> simp [verifyPodNetworkType, h]

/-- The EIP manager is registered wherever it exists. -/
lemma getResourceManagerForRes_eip {n : NetworkService} (h : n.eipResMgr = true) :
    n.getResourceManagerForRes .eip = true := by
  rcases n.eipResMgr_mode h with hm | ⟨hm, -⟩ <;>
    simp [getResourceManagerForRes_eq, hm, DaemonMode.resourceTypes, resMgr, h]

end NetworkService

/-! ### `newNetworkService` -/

/-- The options of `daemon.Config` that `newNetworkService` reads. -/
structure Config where
  securityGroup : String
  securityGroups : List String
  enableEIPPool : String
  ipStack : String
  enableENITrunking : Bool
  ipamType : IPAMType
  deriving DecidableEq, Repr

/-- `validateConfig`: the IP stack is `""`, `"ipv4"` or `"dual"`. -/
def validateConfig (cfg : Config) : Except Err Unit :=
  if cfg.ipStack = "" || cfg.ipStack = "ipv4" || cfg.ipStack = "dual" then .ok ()
  else .error (.msg ("unsupported ipStack " ++ cfg.ipStack ++ " in configMap"))

/-- `setDefault`, on the options the model keeps: the IP stack defaults to `"ipv4"`. -/
def setDefault (cfg : Config) : Config :=
  if cfg.ipStack = "" then { cfg with ipStack := "ipv4" } else cfg

/-- `Config.GetSecurityGroups`: the set of `SecurityGroup` (when non-empty) and
`SecurityGroups`. -/
def Config.getSecurityGroups (c : Config) : List String :=
  ((if c.securityGroup ≠ "" then [c.securityGroup] else []) ++ c.securityGroups).dedup

/-- `types.NewIPFamilyFromIPStack` (spec §3): `dual` is both families, anything else IPv4. -/
def newIPFamilyFromIPStack (ipStack : String) : IPFamily :=
  if ipStack = "dual" then ⟨true, true⟩ else ⟨true, false⟩

/-- The startup IPv6 downgrade: IPv6 is dropped when the instance type does not support it,
or in `ENIMultiIP` mode when it does not support it on secondary IPs. -/
def downgradeIPv6 (mode : DaemonMode) (supportIPv6 supportMultiIPIPv6 : Bool)
    (f : IPFamily) : IPFamily :=
  if f.ipv6 && (!supportIPv6 || mode = .eniMultiIP && !supportMultiIPIPv6) then
    { f with ipv6 := false }
  else f

/-- The mode named by `newNetworkService`'s argument. -/
def parseDaemonMode (daemonMode : String) : Except Err DaemonMode :=
  if daemonMode = "ENIMultiIP" then .ok .eniMultiIP
  else if daemonMode = "VPC" then .ok .vpc
  else if daemonMode = "ENIOnly" then .ok .eniOnly
  else .error (.msg "unsupport daemon mode")

/-- Whether `newNetworkService` builds the EIP manager: `EnableEIPPool = "true"` in
`ENIMultiIP` mode, and in `ENIOnly` mode without trunking. -/
def eipEnabled (mode : DaemonMode) (cfg : Config) : Bool :=
  match mode with
  | .vpc => false
  | .eniMultiIP => cfg.enableEIPPool = "true"
  | .eniOnly => cfg.enableEIPPool = "true" && !cfg.enableENITrunking

lemma eipEnabled_mode {mode : DaemonMode} {cfg : Config} (h : eipEnabled mode cfg = true) :
    mode = .eniMultiIP ∨ mode = .eniOnly ∧ cfg.enableENITrunking = false := by
  cases mode <;> simp_all [eipEnabled]

/-- `newNetworkService`, on the steps that decide the service's fields. -/
def newNetworkService (daemonMode : String) (config : Config)
    (supportIPv6 supportMultiIPIPv6 : Bool) : Except Err NetworkService := do
  let mode ← parseDaemonMode daemonMode
  validateConfig config
  let config := setDefault config
  if 5 < config.getSecurityGroups.length then
    throw (.wrap "error get pool config"
      (.msg ("security groups should not be more than 5, current " ++
        toString config.getSecurityGroups.length)))
  return {
    daemonMode := mode
    ipamType := config.ipamType
    enableTrunk := config.enableENITrunking
    ipFamily := downgradeIPv6 mode supportIPv6 supportMultiIPIPv6
      (newIPFamilyFromIPStack config.ipStack)
    eipResMgr := eipEnabled mode config
    eipResMgr_mode := eipEnabled_mode }

/-! ### The node the service runs on -/

/-- What the handlers read from their collaborators that stays fixed across calls: the
service and node CIDRs of the Kubernetes client (`GetServiceCIDR`, `GetNodeCidr`), the trunk
ENIs the ENI-IP and ENI managers found (`trunkENI`), and `terwayIP.DeriveGatewayIP`, which is
not in the source tree. -/
structure NodeEnv where
  serviceCIDR : IPSet
  nodeCidr : IPSet
  eniIPTrunkENI : Option ENI
  eniTrunkENI : Option ENI
  deriveGatewayIP : String → String

/-- A service in `ENIMultiIP` mode with the EIP pool on, as `newNetworkService` builds it
from `EnableEIPPool = "true"`. -/
def eipService : NetworkService :=
  ⟨.eniMultiIP, .default, false, ⟨true, false⟩, true, fun _ => .inl rfl⟩

/-- A node with no trunk ENI. -/
def plainNode : NodeEnv :=
  ⟨⟨"", ""⟩, ⟨"", ""⟩, none, none, id⟩

end Terway

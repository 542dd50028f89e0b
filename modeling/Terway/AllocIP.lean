import Terway.Crd
import Terway.Effect

/-!
`AllocIP` of `daemon.go` (spec §4.2): the per-type allocation plan, the persisted record,
the deferred rollback on error and the post-commit pod-IP patch.

The handler is modelled after its pending-pod gate, which `Terway.Pending` models. Every
collaborator's answer is an argument (`AllocOutcomes`); the model returns the reply and the
log of effects (`Terway.Effect`), from which the store after the call is computed.

* `oldResID`, `allocateRes`: the four `allocate*` helpers, one definition with the type as
  parameter; `allocateVeth`, `allocateENI`, `allocateENIMultiIP`, `allocateEIP` are its
  members.
* `allocAndPut`: the pool-backed part of a branch: `Allocate`, optionally an EIP, `Put`.
* `allocENIMultiIPBranch`, `allocVPCENIBranch`, `allocVPCIPBranch`: the three branches of
  the `switch`.
* `allocIPBody`: the handler up to its `return`; `rollback` and `podIPPatches`: the two arms
  of the deferred function; `allocIP`: all of it.
-/

namespace Terway

/-- `rpc.AllocIPRequest`. -/
structure AllocIPRequest where
  k8sPodName : String
  k8sPodNamespace : String
  k8sPodInfraContainerId : String
  netns : String
  ifName : String
  deriving DecidableEq, Repr

/-- The answers of the collaborators one `AllocIP` call talks to: the pod, the store's
`Get` error, the `PodENI` reads, each manager's `Allocate` (given the pod and the prior
id), the store's `Put` error, the request's cancellation, and the `i`-th delete and release
of the rollback. -/
structure AllocOutcomes where
  getPod : Except Err PodInfo
  getErr : Option Err
  podENIInfo : Bool → Except Err PodENI
  allocateENIIP : PodInfo → String → Except Err ENIIP
  allocateENI : PodInfo → String → Except Err ENI
  allocateVeth : PodInfo → String → Except Err Veth
  allocateEIP : PodInfo → String → Except Err EIP
  putErr : Option Err
  cancelled : Bool
  deleteErr : Nat → Option Err
  releaseErr : Nat → Option Err

/-- `getPodResource`: the pod's record, `none` for the zero `PodResources` that stands for
`storage.ErrNotFound`, or the store's error. -/
def getPodResource (st : Store) (getErr : Option Err) (info : PodInfo) :
    Except Err (Option PodResources) :=
  match getErr with
  | some e => .error e
  | none => .ok (st.get info.key)

/-- The id `allocate*` passes to `Allocate`: the id of the old record's item of type `t`
when there is exactly one; `""` when there is none, several, or no old record (the zero
record has a nil `PodInfo`). -/
def oldResID (old : Option PodResources) (t : ResourceType) : String :=
  match old with
  | none => ""
  | some o =>
    match o.getResourceItemByType t with
    | [item] => item.id
    | _ => ""

/-- The four `allocate*` helpers: `Allocate` of the manager of `t` for the pod, with the
pod's old id of that type; the effect records the call and the id handed out. -/
def allocateRes {α : Type} (t : ResourceType) (resID : α → String)
    (allocate : PodInfo → String → Except Err α) (podinfo : PodInfo)
    (old : Option PodResources) : Effect × Except Err α :=
  let res := allocate podinfo (oldResID old t)
  (.allocate t podinfo.key (oldResID old t) (match res with
    | .ok a => some (resID a)
    | .error _ => none), res)

/-- `allocateVeth`. -/
def allocateVeth (o : AllocOutcomes) : PodInfo → Option PodResources → Effect × Except Err Veth :=
  allocateRes .veth Veth.id o.allocateVeth

/-- `allocateENI`. -/
def allocateENI (o : AllocOutcomes) : PodInfo → Option PodResources → Effect × Except Err ENI :=
  allocateRes .eni ENI.id o.allocateENI

/-- `allocateENIMultiIP`. -/
def allocateENIMultiIP (o : AllocOutcomes) :
    PodInfo → Option PodResources → Effect × Except Err ENIIP :=
  allocateRes .eniIP ENIIP.id o.allocateENIIP

/-- `allocateEIP`. -/
def allocateEIP (o : AllocOutcomes) : PodInfo → Option PodResources → Effect × Except Err EIP :=
  allocateRes .eip EIP.id o.allocateEIP

/-- The record `AllocIP` persists: the pod, its items, and the request's net namespace and
sandbox container id. -/
def newPodResources (r : AllocIPRequest) (podinfo : PodInfo) (items : List ResourceItem) :
    PodResources :=
  { podInfo := podinfo, resources := items, netNs := some r.netns,
    containerID := some r.k8sPodInfraContainerId }

/-- How a branch of `AllocIP` ends: what it returns, the effects it had, and the items it
appended to `networkContext.resources`. -/
structure Branch (α : Type) where
  result : Except Err α
  effects : List Effect
  resources : List ResourceItem

/-- Continue a branch with its result: an error of the branch so far is the error of the
whole branch. -/
def Branch.mapResult {α β : Type} (b : Branch α) (f : α → Except Err β) : Branch β :=
  ⟨b.result.bind f, b.effects, b.resources⟩

@[simp] lemma Branch.mapResult_effects {α β : Type} (b : Branch α) (f : α → Except Err β) :
    (b.mapResult f).effects = b.effects := rfl

@[simp] lemma Branch.mapResult_resources {α β : Type} (b : Branch α) (f : α → Except Err β) :
    (b.mapResult f).resources = b.resources := rfl

lemma Branch.mapResult_ok {α β : Type} {b : Branch α} {f : α → Except Err β} {c : β}
    (h : (b.mapResult f).result = .ok c) : ∃ a, b.result = .ok a ∧ f a = .ok c :=
  exists_of_bind_eq_ok h

/-- The `Put` of the new record, after the branch's allocations. -/
def putRecord {α : Type} (o : AllocOutcomes) (r : AllocIPRequest) (res : α)
    (podinfo : PodInfo) (items : List ResourceItem) (calls : List Effect) :
    Branch (α × PodInfo) :=
  match o.putErr with
  | some e =>
    ⟨.error (.wrap "error put resource into store" e),
      calls ++ [.put (newPodResources r podinfo items) (some e)], items⟩
  | none => ⟨.ok (res, podinfo), calls ++ [.put (newPodResources r podinfo items) none], items⟩

/-- The pool-backed part of a branch: `Allocate` of the branch's own resource, then, when
`eipPodIPs` is given (the EIP manager exists and the pod asks for an EIP), `allocateEIP`
for the pod with `PodIPs` set from the first resource, then the `Put` of the new record.
On success it returns the resource and the pod as stored. -/
def allocAndPut {α : Type} (o : AllocOutcomes) (r : AllocIPRequest) (t : ResourceType)
    (resID : α → String) (allocate : PodInfo → String → Except Err α)
    (eipPodIPs : Option (α → IPSet)) (errText : String) (podinfo : PodInfo)
    (oldRes : Option PodResources) : Branch (α × PodInfo) :=
  match allocateRes t resID allocate podinfo oldRes with
  | (call, .error _) => ⟨.error (.msg errText), [call], []⟩
  | (call, .ok res) =>
    match eipPodIPs with
    | none => putRecord o r res podinfo [⟨t, resID res⟩] [call]
    | some podIPs =>
      let podinfo := { podinfo with podIPs := podIPs res }
      match allocateEIP o podinfo oldRes with
      | (call', .error _) =>
        ⟨.error (.msg "error get allocated eip for"), [call, call'], [⟨t, resID res⟩]⟩
      | (call', .ok eip) =>
        putRecord o r res podinfo ([⟨t, resID res⟩] ++ eip.toResItems) [call, call']

/-! ### The interfaces of the pool-backed branches -/

/-- The interface of a pool ENI-IP: its IPs on its ENI, the pod's traffic shaping, the
default interface name. `AllocIP` routes by it, `GetIPInfo` leaves that to
`defaultForNetConf`. -/
def eniIPNetConf (env : NodeEnv) (podinfo : PodInfo) (eniIP : ENIIP) (defaultRoute : Bool) :
    NetConf where
  basicInfo := some
    { podIP := some eniIP.ipSet
      podCIDR := some eniIP.eni.vSwitchCIDR
      gatewayIP := some eniIP.eni.gatewayIP
      serviceCIDR := some env.serviceCIDR }
  eniInfo := some { mac := eniIP.eni.mac, trunk := false, vid := 0, gatewayIP := none }
  pod := some (podTc podinfo)
  ifName := ""
  extraRoutes := []
  defaultRoute := defaultRoute

/-- The interface of an exclusive ENI; `AllocIP` reports `Trunk: false`, `GetIPInfo`
computes it. -/
def eniNetConf (env : NodeEnv) (podinfo : PodInfo) (eni : ENI) (trunk : Bool) : NetConf where
  basicInfo := some
    { podIP := some eni.primaryIP
      podCIDR := some eni.vSwitchCIDR
      gatewayIP := some eni.gatewayIP
      serviceCIDR := some env.serviceCIDR }
  eniInfo := some { mac := eni.mac, trunk := trunk, vid := 0, gatewayIP := none }
  pod := some (podTc podinfo)
  ifName := ""
  extraRoutes := []
  defaultRoute := true

/-- The interface of a veth pod: the node's pod CIDR, no ENI. -/
def vethNetConf (env : NodeEnv) (podinfo : PodInfo) : NetConf where
  basicInfo := some
    { podIP := none
      podCIDR := some env.nodeCidr
      gatewayIP := none
      serviceCIDR := some env.serviceCIDR }
  eniInfo := none
  pod := some (podTc podinfo)
  ifName := ""
  extraRoutes := []
  defaultRoute := true

@[simp] lemma eniIPNetConf_podIPs (env : NodeEnv) (p : PodInfo) (ips : IPSet) (e : ENIIP)
    (b : Bool) : eniIPNetConf env { p with podIPs := ips } e b = eniIPNetConf env p e b := rfl

/-! ### The branches -/

/-- The `ENIMultiIP` branch: the CRD's interfaces, and a pool ENI-IP (with an EIP when
asked) when none of them is a default interface; then `defaultForNetConf`. -/
def allocENIMultiIPBranch (n : NetworkService) (env : NodeEnv) (o : AllocOutcomes)
    (r : AllocIPRequest) (podinfo : PodInfo) (oldRes : Option PodResources) :
    Branch (List NetConf) :=
  match multiIPFromCRD n env podinfo true o.podENIInfo with
  | .error e => ⟨.error e, [], []⟩
  | .ok netConfs =>
    if hasDefaultIf netConfs then ⟨defaultForNetConf netConfs, [], []⟩
    else
      (allocAndPut o r .eniIP ENIIP.id o.allocateENIIP
        (if n.eipResMgr && podinfo.podEip then some (·.ipSet) else none)
        "error get allocated eniip ip for" podinfo oldRes).mapResult fun (eniIP, podinfo) =>
          defaultForNetConf (netConfs ++ [eniIPNetConf env podinfo eniIP true])

/-- The `VPCENI` branch: the CRD's interfaces under IPAM type `crd`, else an exclusive ENI
(with an EIP when asked). -/
def allocVPCENIBranch (n : NetworkService) (env : NodeEnv) (o : AllocOutcomes)
    (r : AllocIPRequest) (podinfo : PodInfo) (oldRes : Option PodResources) :
    Branch (List NetConf) :=
  if n.ipamType = .crd then ⟨exclusiveENIFromCRD n env podinfo true o.podENIInfo, [], []⟩
  else
    (allocAndPut o r .eni ENI.id o.allocateENI
      (if n.eipResMgr && podinfo.podEip then some (·.primaryIP) else none)
      "error get allocated vpc ENI ip for" podinfo oldRes).mapResult fun (eni, podinfo) =>
        .ok [eniNetConf env podinfo eni false]

/-- The `VPCIP` branch: a veth. -/
def allocVPCIPBranch (env : NodeEnv) (o : AllocOutcomes) (r : AllocIPRequest)
    (podinfo : PodInfo) (oldRes : Option PodResources) : Branch (List NetConf) :=
  (allocAndPut o r .veth Veth.id o.allocateVeth none "error get allocated vpc ip for"
    podinfo oldRes).mapResult fun (_, podinfo) => .ok [vethNetConf env podinfo]

/-- The `IPType` each network type reports. -/
def PodNetworkType.ipType : PodNetworkType → IPType
  | .eniMultiIP => .typeENIMultiIP
  | .vpcENI => .typeVPCENI
  | .vpcIP => .typeVPCIP

/-- The branch of the `switch` on the pod's network type. -/
def allocBranch (n : NetworkService) (env : NodeEnv) (o : AllocOutcomes) (r : AllocIPRequest)
    (podinfo : PodInfo) (oldRes : Option PodResources) : Branch (List NetConf) :=
  match podinfo.podNetworkType with
  | .eniMultiIP => allocENIMultiIPBranch n env o r podinfo oldRes
  | .vpcENI => allocVPCENIBranch n env o r podinfo oldRes
  | .vpcIP => allocVPCIPBranch env o r podinfo oldRes

/-! ### The handler -/

/-- How the body of `AllocIP` ends: its reply, its effects, `networkContext.resources`, and
whether the local `err` that the deferred function reads is set. -/
structure AllocBody where
  ret : Except Err AllocIPReply
  effects : List Effect
  resources : List ResourceItem
  errSet : Bool

/-- The end of the body after the branch: an error of the branch sets `err`; otherwise the
request's cancellation is checked and the reply built. -/
def allocIPTail (n : NetworkService) (o : AllocOutcomes) (podinfo : PodInfo)
    (b : Branch (List NetConf)) : AllocBody :=
  match b.result with
  | .error e => ⟨.error e, b.effects, b.resources, true⟩
  | .ok netConf =>
    if o.cancelled then
      ⟨.error (.wrap "error on grpc connection" (.msg "context canceled")), b.effects,
        b.resources, true⟩
    else
      let reply : AllocIPReply :=
        { ipType := podinfo.podNetworkType.ipType
          ipv4 := n.ipFamily.ipv4
          ipv6 := n.ipFamily.ipv6
          success := true
          netConfs := netConf
          enableTrunking := n.enableTrunk }
      ⟨.ok reply, b.effects, b.resources, false⟩

/-- The body of `AllocIP` up to its `return`. -/
def allocIPBody (n : NetworkService) (env : NodeEnv) (o : AllocOutcomes) (st : Store)
    (r : AllocIPRequest) : AllocBody :=
  match o.getPod with
  | .error e => ⟨.error (.wrap "error get pod info for" e), [], [], true⟩
  | .ok podinfo =>
    match getPodResource st o.getErr podinfo with
    | .error e => ⟨.error (.wrap "error get pod resources from db for pod" e), [], [], true⟩
    | .ok oldRes =>
      if !n.verifyPodNetworkType podinfo.podNetworkType then
        ⟨.error (.msg "unexpect pod network type allocate, maybe daemon mode changed"), [], [],
          false⟩
      else allocIPTail n o podinfo (allocBranch n env o r podinfo oldRes)

@[simp] lemma allocIPTail_effects (n : NetworkService) (o : AllocOutcomes) (podinfo : PodInfo)
    (b : Branch (List NetConf)) : (allocIPTail n o podinfo b).effects = b.effects := by
  unfold allocIPTail; split <;> (try split_ifs) <;> rfl

@[simp] lemma allocIPTail_resources (n : NetworkService) (o : AllocOutcomes)
    (podinfo : PodInfo) (b : Branch (List NetConf)) :
    (allocIPTail n o podinfo b).resources = b.resources := by
  unfold allocIPTail; split <;> (try split_ifs) <;> rfl

/-- The tail sets `err` on every error it returns. -/
lemma allocIPTail_errSet (n : NetworkService) (o : AllocOutcomes) (podinfo : PodInfo)
    (b : Branch (List NetConf)) {e : Err} (h : (allocIPTail n o podinfo b).ret = .error e) :
    (allocIPTail n o podinfo b).errSet = true := by
  revert h; unfold allocIPTail; split <;> (try split_ifs) <;> simp

/-- The rollback arm of the deferred function: for each recorded item, delete the pod's
record, then `Release` the item through the manager registered for its type, skipping a
type with none. The `i`-th delete and release answer `o.deleteErr i` and `o.releaseErr i`;
the rollback ignores both. -/
def rollback (n : NetworkService) (o : AllocOutcomes) (key : String) :
    Nat → List ResourceItem → List Effect
  | _, [] => []
  | i, res :: rest =>
    .delete key (o.deleteErr i) ::
      ((if n.getResourceManagerForRes res.type then [.release res (o.releaseErr i)] else []) ++
        rollback n o key (i + 1) rest)

/-- The IPs `PatchPodIPInfo` records for an interface, joined by `","`. -/
def podIPString (ip : IPSet) : String :=
  ",".intercalate ((if ip.ipv4 ≠ "" then [ip.ipv4] else []) ++
    (if ip.ipv6 ≠ "" then [ip.ipv6] else []))

/-- The success arm of the deferred function: patch the pod's IP annotation from every
default interface that has a pod IP. -/
def podIPPatches (netConfs : List NetConf) : List Effect :=
  netConfs.filterMap fun c =>
    if c.ifName ≠ ifEth0 ∧ c.ifName ≠ "" then none
    else
      match c.basicInfo with
      | some ⟨some ip, _, _, _⟩ => some (.patchPodIPInfo (podIPString ip))
      | _ => none

/-- The pod-IP patch does not write the store. -/
lemma Store.applyEffects_podIPPatches (s : Store) (l : List NetConf) :
    s.applyEffects (podIPPatches l) = s := by
  refine s.applyEffects_of_not_writes fun e he => ?_
  obtain ⟨c, -, hc⟩ := List.mem_filterMap.1 he
  split_ifs at hc
  split at hc <;> cases hc
  rfl

/-- The result of a handler: its reply and its effects. -/
structure Handled (α : Type) where
  reply : Except Err α
  effects : List Effect

/-- **`AllocIP`**: the body, then the deferred function, which rolls back when `err` is set
and patches the pod's IPs otherwise. When `GetPod` fails the handler returns before the
deferred function is registered. -/
def allocIP (n : NetworkService) (env : NodeEnv) (o : AllocOutcomes) (st : Store)
    (r : AllocIPRequest) : Handled AllocIPReply :=
  let b := allocIPBody n env o st r
  match o.getPod with
  | .error _ => ⟨b.ret, b.effects⟩
  | .ok podinfo =>
    if b.errSet then ⟨b.ret, b.effects ++ rollback n o podinfo.key 0 b.resources⟩
    else
      match b.ret with
      | .ok reply => ⟨b.ret, b.effects ++ podIPPatches reply.netConfs⟩
      | .error _ => ⟨b.ret, b.effects⟩

/-! ### What the branches record -/

/-- The allocation discipline of a branch: the items it records are those its `Allocate`
calls produced, in order; it releases nothing; it writes the store only once it has
recorded an item. -/
structure Disciplined (effects : List Effect) (resources : List ResourceItem) : Prop where
  allocated : allocatedItems effects = resources
  no_release : releasedItems effects = []
  writes : ∀ e ∈ effects, e.writesStore = true → resources ≠ []

lemma disciplined_nil : Disciplined [] [] := ⟨rfl, rfl, by simp⟩

/-- The log of a branch for the pod `key`: `Allocate` calls for the pod, and `Put`s of a
record of the pod whose items those calls handed out. -/
def AllocLog (key : String) (es : List Effect) : Prop :=
  ∀ e ∈ es, (∃ t prior res, e = .allocate t key prior res) ∨
    ∃ rec err, e = .put rec err ∧ rec.key = key ∧
      ∀ it ∈ rec.resources, ∃ prior, .allocate it.type key prior (some it.id) ∈ es

lemma allocLog_nil (key : String) : AllocLog key [] := by simp [AllocLog]

/-- An item a branch's log allocated was handed out for the branch's pod. -/
lemma AllocLog.allocated {key : String} {es : List Effect} (h : AllocLog key es)
    {it : ResourceItem} (hit : it ∈ allocatedItems es) :
    ∃ prior, .allocate it.type key prior (some it.id) ∈ es := by
  obtain ⟨e, he, hi⟩ := List.mem_filterMap.1 hit
  rcases h e he with ⟨t, prior, res, rfl⟩ | ⟨rec, err, rfl, -⟩
  · cases res with
    | none => cases hi
    | some id =>
      cases hi
      exact ⟨prior, he⟩
  · cases hi

section AllocAndPut

variable {α : Type} (o : AllocOutcomes) (r : AllocIPRequest) (t : ResourceType)
  (resID : α → String) (allocate : PodInfo → String → Except Err α)
  (eipPodIPs : Option (α → IPSet)) (errText : String) (podinfo : PodInfo)
  (oldRes : Option PodResources)

@[simp] lemma putRecord_resources (res : α) (items : List ResourceItem) (calls : List Effect) :
    (putRecord o r res podinfo items calls).resources = items := by
  unfold putRecord; split <;> rfl

@[simp] lemma putRecord_effects (res : α) (items : List ResourceItem) (calls : List Effect) :
    (putRecord o r res podinfo items calls).effects =
      calls ++ [.put (newPodResources r podinfo items) o.putErr] := by
  unfold putRecord; split <;> simp_all

/-- `putRecord` succeeds only when the `Put` does. -/
lemma putRecord_ok {res res' : α} {p' : PodInfo} {items : List ResourceItem}
    {calls : List Effect} (h : (putRecord o r res podinfo items calls).result = .ok (res', p')) :
    o.putErr = none ∧ res' = res ∧ p' = podinfo := by
  unfold putRecord at h
  split at h
  · cases h
  · cases h; exact ⟨‹_›, rfl, rfl⟩

/-- A successful `allocAndPut`: its `Allocate` handed out the resource, the pod it returns
differs from the one it was given at most in its `PodIPs`, and its effects write the new
record, of the resource's item and possibly EIP items, to the store. -/
lemma allocAndPut_ok {res : α} {p' : PodInfo}
    (h : (allocAndPut o r t resID allocate eipPodIPs errText podinfo oldRes).result = .ok (res, p')) :
    allocate podinfo (oldResID oldRes t) = .ok res ∧ p' = { podinfo with podIPs := p'.podIPs } ∧
    ∃ extra : List ResourceItem, (∀ it ∈ extra, it.type = .eip) ∧ ∀ s : Store,
      s.applyEffects (allocAndPut o r t resID allocate eipPodIPs errText podinfo oldRes).effects =
        s.put (newPodResources r p' (⟨t, resID res⟩ :: extra)) := by
  unfold allocAndPut at h ⊢
  simp only [allocateRes] at h ⊢
  split at h
  · cases h
  · rename_i call x hx
    simp only [Prod.mk.injEq] at hx
    obtain ⟨rfl, hx⟩ := hx
    cases eipPodIPs with
    | none =>
      obtain ⟨hput, rfl, rfl⟩ := putRecord_ok o r podinfo h
      exact ⟨hx, rfl, [], by simp, fun s => by simp [hput, Store.applyEffect]⟩
    | some podIPs =>
      simp only at h ⊢
      split at h
      · cases h
      · rename_i call' eip heip
        obtain ⟨hput, rfl, rfl⟩ := putRecord_ok o r _ h
        simp only [allocateEIP, allocateRes, Prod.mk.injEq] at heip
        obtain ⟨rfl, -⟩ := heip
        exact ⟨hx, rfl, eip.toResItems, by simp [EIP.toResItems],
          fun s => by simp [hput, Store.applyEffect]⟩

/-- `allocAndPut` keeps the allocation discipline. -/
lemma allocAndPut_disciplined :
    let b := allocAndPut o r t resID allocate eipPodIPs errText podinfo oldRes
    Disciplined b.effects b.resources := by
  simp only [allocAndPut, allocateRes, allocateEIP]
  split <;> rename_i h <;> simp only [Prod.mk.injEq] at h <;> obtain ⟨rfl, h⟩ := h
  · exact ⟨by simp [allocatedItems, Effect.allocatedItem, h], rfl, by simp [Effect.writesStore]⟩
  cases eipPodIPs with
  | none =>
    exact ⟨by simp [allocatedItems, Effect.allocatedItem, h], by
      simp [releasedItems, Effect.releasedItem], by simp⟩
  | some podIPs =>
    simp only
    split <;> rename_i h' <;> simp only [Prod.mk.injEq] at h' <;> obtain ⟨rfl, h'⟩ := h'
    · exact ⟨by simp [allocatedItems, Effect.allocatedItem, h, h'], rfl,
        by simp [Effect.writesStore]⟩
    · exact ⟨by simp [allocatedItems, Effect.allocatedItem, h, h', EIP.toResItems],
        by simp [releasedItems, Effect.releasedItem], by simp⟩

/-- What `allocAndPut` records: nothing, the branch's own item, or that item and an EIP
when one was asked for. -/
lemma allocAndPut_resources :
    let b := allocAndPut o r t resID allocate eipPodIPs errText podinfo oldRes
    b.resources = [] ∨ (∃ id, b.resources = [⟨t, id⟩]) ∨
      (∃ id id', b.resources = [⟨t, id⟩, ⟨.eip, id'⟩] ∧ eipPodIPs.isSome) := by
  simp only [allocAndPut, allocateRes, allocateEIP]
  split
  · exact .inl rfl
  cases eipPodIPs with
  | none => simp
  | some podIPs =>
    simp only
    split <;> simp [EIP.toResItems]

/-- The log of `allocAndPut` allocates for the pod and writes the pod's record of what it
allocated. -/
lemma allocAndPut_allocLog :
    AllocLog podinfo.key (allocAndPut o r t resID allocate eipPodIPs errText podinfo oldRes).effects := by
  simp only [allocAndPut, allocateRes, allocateEIP]
  split <;> rename_i h <;> simp only [Prod.mk.injEq] at h <;> obtain ⟨rfl, h⟩ := h
  · simp [AllocLog]
  cases eipPodIPs with
  | none =>
    simp only [putRecord_effects, AllocLog]
    intro e he
    simp at he
    rcases he with rfl | rfl
    · exact .inl ⟨_, _, _, rfl⟩
    · refine .inr ⟨_, _, rfl, rfl, ?_⟩
      simp [newPodResources, h]
  | some podIPs =>
    simp only
    split <;> rename_i h' <;> simp only [Prod.mk.injEq] at h' <;> obtain ⟨rfl, h'⟩ := h'
    · intro e he
      simp at he
      rcases he with rfl | rfl
      · exact .inl ⟨_, _, _, rfl⟩
      · exact .inl ⟨_, _, _, rfl⟩
    · simp only [putRecord_effects, AllocLog]
      intro e he
      simp at he
      rcases he with rfl | rfl | rfl
      · exact .inl ⟨_, _, _, rfl⟩
      · exact .inl ⟨_, _, _, rfl⟩
      · refine .inr ⟨_, _, rfl, rfl, ?_⟩
        simp [newPodResources, h, h', EIP.toResItems]

/-- The record `allocAndPut` writes is the request's record of the items it recorded. -/
lemma put_mem_allocAndPut {rec : PodResources} {err : Option Err}
    (h : .put rec err ∈ (allocAndPut o r t resID allocate eipPodIPs errText podinfo oldRes).effects) :
    rec = newPodResources r rec.podInfo
      (allocAndPut o r t resID allocate eipPodIPs errText podinfo oldRes).resources := by
  revert rec err h
  simp only [allocAndPut, allocateRes, allocateEIP]
  split <;> rename_i h <;> simp only [Prod.mk.injEq] at h <;> obtain ⟨rfl, h⟩ := h
  · simp
  cases eipPodIPs with
  | none => simp [newPodResources]
  | some podIPs =>
    simp only
    split <;> rename_i h' <;> simp only [Prod.mk.injEq] at h' <;> obtain ⟨rfl, h'⟩ := h'
    · simp
    · simp [newPodResources]

/-- Every `Allocate` of `allocAndPut` passes the pod's old id of its type. -/
lemma allocate_mem_allocAndPut {t' : ResourceType} {key prior : String} {res : Option String}
    (h : .allocate t' key prior res ∈
      (allocAndPut o r t resID allocate eipPodIPs errText podinfo oldRes).effects) :
    prior = oldResID oldRes t' := by
  simp only [allocAndPut, allocateRes, allocateEIP] at h
  split at h <;> rename_i hc <;> simp only [Prod.mk.injEq] at hc <;> obtain ⟨rfl, -⟩ := hc
  · simp only [List.mem_singleton, Effect.allocate.injEq] at h
    obtain ⟨rfl, -, rfl, -⟩ := h
    rfl
  cases eipPodIPs with
  | none =>
    simp [putRecord_effects] at h
    obtain ⟨rfl, -, rfl, -⟩ := h
    rfl
  | some podIPs =>
    simp only at h
    split at h <;> rename_i hc <;> simp only [Prod.mk.injEq] at hc <;> obtain ⟨rfl, -⟩ := hc <;>
      simp [putRecord_effects] at h <;> obtain ⟨rfl, -, rfl, -⟩ | ⟨rfl, -, rfl, -⟩ := h <;> rfl

end AllocAndPut

/-- Every branch keeps the allocation discipline. -/
lemma allocBranch_disciplined (n : NetworkService) (env : NodeEnv) (o : AllocOutcomes)
    (r : AllocIPRequest) (podinfo : PodInfo) (oldRes : Option PodResources) :
    let b := allocBranch n env o r podinfo oldRes
    Disciplined b.effects b.resources := by
  unfold allocBranch allocENIMultiIPBranch allocVPCENIBranch allocVPCIPBranch
  split
  · split
    · exact disciplined_nil
    · split
      · exact disciplined_nil
      · exact allocAndPut_disciplined ..
  · split
    · exact disciplined_nil
    · exact allocAndPut_disciplined ..
  · exact allocAndPut_disciplined ..

/-- What `allocAndPut` records, when its own type and an EIP have managers, is distinct
and registered. -/
lemma allocAndPut_registered {α : Type} {n : NetworkService} (o : AllocOutcomes)
    (r : AllocIPRequest) (t : ResourceType) (resID : α → String) allocate
    (eipPodIPs : Option (α → IPSet)) errText podinfo oldRes (ht : t ≠ .eip)
    (hreg : n.getResourceManagerForRes t = true) (heip : eipPodIPs.isSome → n.eipResMgr = true) :
    let b := allocAndPut o r t resID allocate eipPodIPs errText podinfo oldRes
    b.resources.Nodup ∧ ∀ it ∈ b.resources, n.getResourceManagerForRes it.type = true := by
  rcases allocAndPut_resources o r t resID allocate eipPodIPs errText podinfo oldRes with
    h | ⟨id, h⟩ | ⟨id, id', h, hs⟩ <;> simp only [h]
  · simp
  · simp [hreg]
  · simp [hreg, ht, NetworkService.getResourceManagerForRes_eip (heip hs)]

/-- The items a branch of a pod the mode serves records are distinct, and each has a
manager registered for its type. -/
lemma allocBranch_resources (n : NetworkService) (env : NodeEnv) (o : AllocOutcomes)
    (r : AllocIPRequest) (podinfo : PodInfo) (oldRes : Option PodResources)
    (hv : n.verifyPodNetworkType podinfo.podNetworkType = true) :
    let b := allocBranch n env o r podinfo oldRes
    b.resources.Nodup ∧ ∀ it ∈ b.resources, n.getResourceManagerForRes it.type = true := by
  have heip : ∀ {β : Type} (x : β) (c : Bool),
      (if n.eipResMgr && c then some x else none).isSome → n.eipResMgr = true := by
    intro β x c h; cases h' : n.eipResMgr <;> simp_all
  unfold allocBranch allocENIMultiIPBranch allocVPCENIBranch allocVPCIPBranch
  split <;> rename_i hpt <;> rw [hpt] at hv <;> simp only [NetworkService.verifyPodNetworkType_eniMultiIP,
    NetworkService.verifyPodNetworkType_vpcENI, NetworkService.verifyPodNetworkType_vpcIP] at hv
  · split
    · simp
    · split
      · simp
      · simp only [Branch.mapResult_resources]
        exact allocAndPut_registered o r .eniIP _ _ _ _ _ _ (by decide)
          (by simp [NetworkService.getResourceManagerForRes_eq, hv, DaemonMode.resourceTypes,
            NetworkService.resMgr]) (heip _ _)
  · split
    · simp
    · simp only [Branch.mapResult_resources]
      exact allocAndPut_registered o r .eni _ _ _ _ _ _ (by decide)
        (by rcases hv with hm | hm <;> simp [NetworkService.getResourceManagerForRes_eq, hm,
          DaemonMode.resourceTypes, NetworkService.resMgr]) (heip _ _)
  · simp only [Branch.mapResult_resources]
    exact allocAndPut_registered o r .veth _ _ _ _ _ _ (by decide)
      (by simp [NetworkService.getResourceManagerForRes_eq, hv, DaemonMode.resourceTypes,
        NetworkService.resMgr]) (by simp)

/-- Every branch's log allocates for the pod and writes only the pod's record of what it
allocated. -/
lemma allocBranch_allocLog (n : NetworkService) (env : NodeEnv) (o : AllocOutcomes)
    (r : AllocIPRequest) (podinfo : PodInfo) (oldRes : Option PodResources) :
    AllocLog podinfo.key (allocBranch n env o r podinfo oldRes).effects := by
  unfold allocBranch allocENIMultiIPBranch allocVPCENIBranch allocVPCIPBranch
  split
  · split
    · exact allocLog_nil _
    · split
      · exact allocLog_nil _
      · exact allocAndPut_allocLog _ _ _ _ _ _ _ _ _
  · split
    · exact allocLog_nil _
    · exact allocAndPut_allocLog _ _ _ _ _ _ _ _ _
  · exact allocAndPut_allocLog _ _ _ _ _ _ _ _ _

/-- The record a branch writes holds exactly the items it recorded. -/
lemma put_mem_allocBranch (n : NetworkService) (env : NodeEnv) (o : AllocOutcomes)
    (r : AllocIPRequest) (podinfo : PodInfo) (oldRes : Option PodResources) {rec : PodResources}
    {err : Option Err} (h : .put rec err ∈ (allocBranch n env o r podinfo oldRes).effects) :
    rec = newPodResources r rec.podInfo (allocBranch n env o r podinfo oldRes).resources := by
  revert h
  unfold allocBranch allocENIMultiIPBranch allocVPCENIBranch allocVPCIPBranch
  split
  · split
    · simp
    · split
      · simp
      · exact put_mem_allocAndPut _ _ _ _ _ _ _ _ _
  · split
    · simp
    · exact put_mem_allocAndPut _ _ _ _ _ _ _ _ _
  · exact put_mem_allocAndPut _ _ _ _ _ _ _ _ _

/-- Every `Allocate` of a branch passes the pod's old id of its type. -/
lemma allocate_mem_allocBranch (n : NetworkService) (env : NodeEnv) (o : AllocOutcomes)
    (r : AllocIPRequest) (podinfo : PodInfo) (oldRes : Option PodResources) {t : ResourceType}
    {key prior : String} {res : Option String}
    (h : .allocate t key prior res ∈ (allocBranch n env o r podinfo oldRes).effects) :
    prior = oldResID oldRes t := by
  revert h
  unfold allocBranch allocENIMultiIPBranch allocVPCENIBranch allocVPCIPBranch
  split
  · split
    · simp
    · split
      · simp
      · exact allocate_mem_allocAndPut _ _ _ _ _ _ _ _ _
  · split
    · simp
    · exact allocate_mem_allocAndPut _ _ _ _ _ _ _ _ _
  · exact allocate_mem_allocAndPut _ _ _ _ _ _ _ _ _

/-- The body's log, once the pod is read, is a branch's log or empty. -/
lemma allocIPBody_allocLog (n : NetworkService) (env : NodeEnv) (o : AllocOutcomes) (st : Store)
    (r : AllocIPRequest) {p : PodInfo} (hp : o.getPod = .ok p) :
    AllocLog p.key (allocIPBody n env o st r).effects := by
  simp only [allocIPBody, hp]
  split
  · exact allocLog_nil _
  · split_ifs
    · exact allocLog_nil _
    · simpa using allocBranch_allocLog n env o r p _

end Terway

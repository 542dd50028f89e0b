import Terway.ReleaseIP
import Terway.GC.Tick

/-!
The resource pools behind `mgrForResource`, and the daemon as the store together with the
pools, under `AllocIP`, `ReleaseIP` and GC ticks, each applied atomically.

The managers are not part of `daemon.go`; they are modelled by the pool discipline the
service relies on: a pool remembers which ids it handed out and for which pod; `Allocate`
returns the prior id when the pool holds it for the pod, else a free id, which it marks as
held (or fails and changes nothing); `Release` answered `nil` or `ErrInvalidState` frees the
id, any other error leaves it held; a successful `GarbageCollection` frees some of the
expired ids and none in use, a failed one frees nothing. An `Allocate` answer in a
handler's log that no pool gives makes the step undefined.

* `Pools.applyEffect`: one logged call under the pool discipline.
* `Effect.frees`: whether a logged call frees an id.
* `Pools.mem_applyEffects`: a holding stays through a log that does not free its id;
  `Pools.mem_applyEffects_of_allocate`: an id a log allocated is held after it;
  `Pools.mem_applyEffects_iff_of_pod_ne`: a log for one pod that frees only that pod's ids
  leaves every other pod's holdings as they were.
* `Pools.Unique`: each id is held for one pod; every log keeps it.
* `Daemon.handle`: a request applied to the store and the pools.
-/

namespace Terway

/-! ### The pools -/

/-- An id a resource manager handed out: its type, and the key of the pod it holds it for. -/
structure Holding where
  type : ResourceType
  id : String
  pod : String
  deriving DecidableEq, Repr

/-- The ids the daemon's pools hold. -/
abbrev Pools := List Holding

/-- Whether some pool holds `id` of type `t`, for any pod. -/
def Pools.holdsID (ps : Pools) (t : ResourceType) (id : String) : Bool :=
  ps.any fun h => h.type = t ∧ h.id = id

/-- The pools after the ids `ids` of type `t` are freed. -/
def Pools.free (ps : Pools) (t : ResourceType) (ids : List String) : Pools :=
  ps.filter fun h => ¬(h.type = t ∧ h.id ∈ ids)

/-- What a successful `GarbageCollection` of type `t` frees: the ids `freed` chooses, among
the expired ids not in use. -/
def gcChoice (freed : ResourceType → List String → List String) (t : ResourceType)
    (inUse expired : List String) : List String :=
  (freed t expired).filter fun id => id ∈ expired ∧ id ∉ inUse

/-- One logged call under the pool discipline; `none` when an `Allocate` answer is one no
pool gives. -/
def Pools.applyEffect (freed : ResourceType → List String → List String) (ps : Pools) :
    Effect → Option Pools
  | .allocate t pod prior (some id) =>
    if ⟨t, prior, pod⟩ ∈ ps then (if id = prior then some ps else none)
    else if ps.holdsID t id then none
    else some (⟨t, id, pod⟩ :: ps)
  | .release it res => some (if releaseOk res then ps.free it.type [it.id] else ps)
  | .garbageCollection t inUse expired none => some (ps.free t (gcChoice freed t inUse expired))
  | _ => some ps

/-- A log of calls under the pool discipline, in order. -/
def Pools.applyEffects (freed : ResourceType → List String → List String) (ps : Pools)
    (es : List Effect) : Option Pools :=
  es.foldlM (Pools.applyEffect freed) ps

/-- Whether a logged call frees id `id` of type `t`: a `Release` of it answered `nil` or
`ErrInvalidState`, or a successful `GarbageCollection` of type `t` that chose it. -/
def Effect.frees (freed : ResourceType → List String → List String) (t : ResourceType)
    (id : String) : Effect → Bool
  | .release it res => releaseOk res && it.type = t && it.id = id
  | .garbageCollection t' inUse expired none => t' = t && id ∈ gcChoice freed t' inUse expired
  | _ => false

/-- Each id is held for one pod. -/
def Pools.Unique (ps : Pools) : Prop :=
  ∀ h ∈ ps, ∀ h' ∈ ps, h.type = h'.type → h.id = h'.id → h.pod = h'.pod

namespace Pools

variable {freed : ResourceType → List String → List String} {ps ps' : Pools}

@[simp] lemma applyEffects_nil : ps.applyEffects freed [] = some ps := rfl

lemma applyEffects_cons (e : Effect) (es : List Effect) :
    ps.applyEffects freed (e :: es) = (ps.applyEffect freed e).bind (·.applyEffects freed es) :=
  rfl

lemma applyEffects_append (es es' : List Effect) :
    ps.applyEffects freed (es ++ es') = (ps.applyEffects freed es).bind (·.applyEffects freed es') :=
  List.foldlM_append ..

lemma mem_free {t : ResourceType} {ids : List String} {h : Holding} :
    h ∈ ps.free t ids ↔ h ∈ ps ∧ ¬(h.type = t ∧ h.id ∈ ids) := by
  simp only [free, List.mem_filter, decide_eq_true_eq]

/-- A holding stays through a call that does not free its id. -/
lemma mem_applyEffect {h : Holding} {e : Effect} (hh : h ∈ ps)
    (hf : e.frees freed h.type h.id = false) (he : ps.applyEffect freed e = some ps') :
    h ∈ ps' := by
  unfold applyEffect at he
  split at he
  · split_ifs at he <;> cases he
    · exact hh
    · exact List.mem_cons_of_mem _ hh
  · cases he
    split_ifs with hok
    · refine mem_free.2 ⟨hh, fun ⟨ht, hid⟩ => ?_⟩
      simp [Effect.frees, hok, ht, List.mem_singleton.1 hid] at hf
    · exact hh
  · cases he
    refine mem_free.2 ⟨hh, fun ⟨ht, hid⟩ => ?_⟩
    simp [Effect.frees, ht, hid] at hf
  · cases he
    exact hh

/-- A holding stays through a log that does not free its id. -/
lemma mem_applyEffects {h : Holding} {es : List Effect} (hh : h ∈ ps)
    (hf : ∀ e ∈ es, e.frees freed h.type h.id = false) (he : ps.applyEffects freed es = some ps') :
    h ∈ ps' := by
  induction es generalizing ps with
  | nil => cases he; exact hh
  | cons e es ih =>
    obtain ⟨ps₁, h₁, h₂⟩ := Option.bind_eq_some.1 (applyEffects_cons e es ▸ he)
    exact ih (mem_applyEffect hh (hf e (List.mem_cons_self _ _)) h₁)
      (fun e' he' => hf e' (List.mem_cons_of_mem _ he')) h₂

/-- After an `Allocate` that succeeded, the pool holds the id for the pod. -/
lemma mem_applyEffect_allocate {t : ResourceType} {pod prior id : String}
    (he : ps.applyEffect freed (.allocate t pod prior (some id)) = some ps') :
    ⟨t, id, pod⟩ ∈ ps' := by
  simp only [applyEffect] at he
  split_ifs at he with hprior hid <;> cases he
  · exact hid ▸ hprior
  · exact List.mem_cons_self _ _

/-- An id a log allocated for a pod, and does not free, is held for the pod after it. -/
lemma mem_applyEffects_of_allocate {t : ResourceType} {pod prior id : String} {es : List Effect}
    (hmem : .allocate t pod prior (some id) ∈ es) (hf : ∀ e ∈ es, e.frees freed t id = false)
    (he : ps.applyEffects freed es = some ps') : ⟨t, id, pod⟩ ∈ ps' := by
  induction es generalizing ps with
  | nil => cases hmem
  | cons e es ih =>
    obtain ⟨ps₁, h₁, h₂⟩ := Option.bind_eq_some.1 (applyEffects_cons e es ▸ he)
    have hf' : ∀ e' ∈ es, e'.frees freed t id = false :=
      fun e' he' => hf e' (List.mem_cons_of_mem _ he')
    rcases List.mem_cons.1 hmem with rfl | hmem
    · exact mem_applyEffects (mem_applyEffect_allocate h₁) hf' h₂
    · exact ih hmem hf' h₂

/-- A holding after a call was there before, or the call allocated it. -/
lemma mem_of_mem_applyEffect {h : Holding} {e : Effect} (hh : h ∈ ps')
    (he : ps.applyEffect freed e = some ps') :
    h ∈ ps ∨ ∃ prior, e = .allocate h.type h.pod prior (some h.id) := by
  unfold applyEffect at he
  split at he
  · split_ifs at he <;> cases he
    · exact .inl hh
    · rcases List.mem_cons.1 hh with rfl | hh
      · exact .inr ⟨_, rfl⟩
      · exact .inl hh
  · cases he
    split_ifs at hh
    · exact .inl (mem_free.1 hh).1
    · exact .inl hh
  · cases he
    exact .inl (mem_free.1 hh).1
  · cases he
    exact .inl hh

/-- A holding after a log was there before, or the log allocated it. -/
lemma mem_of_mem_applyEffects {h : Holding} {es : List Effect} (hh : h ∈ ps')
    (he : ps.applyEffects freed es = some ps') :
    h ∈ ps ∨ ∃ prior, .allocate h.type h.pod prior (some h.id) ∈ es := by
  induction es generalizing ps with
  | nil => cases he; exact .inl hh
  | cons e es ih =>
    obtain ⟨ps₁, h₁, h₂⟩ := Option.bind_eq_some.1 (applyEffects_cons e es ▸ he)
    rcases ih h₂ with hh₁ | ⟨prior, hm⟩
    · exact (mem_of_mem_applyEffect hh₁ h₁).imp_right fun ⟨prior, he⟩ =>
        ⟨prior, he ▸ List.mem_cons_self _ _⟩
    · exact .inr ⟨prior, List.mem_cons_of_mem _ hm⟩

/-- A log that allocates only for the pod `key`, and frees no id another pod holds, leaves
every other pod's holdings as they were. -/
lemma mem_applyEffects_iff_of_pod_ne {key : String} {es : List Effect}
    (halloc : ∀ t k prior id, .allocate t k prior (some id) ∈ es → k = key)
    (hfree : ∀ h ∈ ps, h.pod ≠ key → ∀ e ∈ es, e.frees freed h.type h.id = false)
    (he : ps.applyEffects freed es = some ps') {h : Holding} (hk : h.pod ≠ key) :
    h ∈ ps' ↔ h ∈ ps :=
  ⟨fun hh => (mem_of_mem_applyEffects hh he).resolve_right fun ⟨_, hm⟩ => hk (halloc _ _ _ _ hm),
    fun hh => mem_applyEffects hh (hfree h hh hk) he⟩

lemma Unique.mono (hu : ps.Unique) (hsub : ∀ h ∈ ps', h ∈ ps) : ps'.Unique :=
  fun h hh h' hh' => hu h (hsub h hh) h' (hsub h' hh')

/-- Every call keeps each id held for one pod: an `Allocate` adds only an id no pool
holds. -/
lemma Unique.applyEffect (hu : ps.Unique) {e : Effect} (he : ps.applyEffect freed e = some ps') :
    ps'.Unique := by
  unfold Pools.applyEffect at he
  split at he
  · split_ifs at he with hprior hid hheld <;> cases he
    · exact hu
    · have hfree : ∀ h ∈ ps, ¬(h.type = _ ∧ h.id = _) := fun h hh hti => by
        simp only [holdsID, List.any_eq_true, decide_eq_true_eq] at hheld
        exact hheld ⟨h, hh, hti⟩
      rintro h hh h' hh' ht hid
      rcases List.mem_cons.1 hh with rfl | hh <;> rcases List.mem_cons.1 hh' with rfl | hh'
      · rfl
      · exact absurd ⟨ht.symm, hid.symm⟩ (hfree h' hh')
      · exact absurd ⟨ht, hid⟩ (hfree h hh)
      · exact hu h hh h' hh' ht hid
  · cases he
    split_ifs
    · exact hu.mono fun h hh => (mem_free.1 hh).1
    · exact hu
  · cases he
    exact hu.mono fun h hh => (mem_free.1 hh).1
  · cases he
    exact hu

lemma Unique.applyEffects (hu : ps.Unique) {es : List Effect}
    (he : ps.applyEffects freed es = some ps') : ps'.Unique := by
  induction es generalizing ps with
  | nil => cases he; exact hu
  | cons e es ih =>
    obtain ⟨ps₁, h₁, h₂⟩ := Option.bind_eq_some.1 (applyEffects_cons e es ▸ he)
    exact ih (hu.applyEffect h₁) h₂

/-- In pools that hold each id for one pod, a `Release` of an id held for the pod `key`
frees no id of another pod. -/
lemma Unique.frees_release_eq_false (hu : ps.Unique) {it : ResourceItem} {res : Option Err}
    {key : String} (hheld : ⟨it.type, it.id, key⟩ ∈ ps) {h : Holding} (hh : h ∈ ps)
    (hk : h.pod ≠ key) : (Effect.release it res).frees freed h.type h.id = false :=
  Bool.eq_false_iff.2 fun hf => hk <| by
    simp only [Effect.frees, Bool.and_eq_true, decide_eq_true_eq] at hf
    exact hu _ hh _ hheld hf.1.2.symm hf.2.symm

end Pools

/-! ### The daemon -/

/-- The store and the pools. -/
structure Daemon where
  store : Store
  pools : Pools

/-- An empty store and empty pools. -/
def Daemon.empty : Daemon := ⟨.empty, []⟩

/-- A request the daemon serves, with the answers of the collaborators it talks to; a GC
tick also carries what each pool's `GarbageCollection` chooses to free. -/
inductive Request
  | alloc (o : AllocOutcomes) (r : AllocIPRequest)
  | release (o : ReleaseOutcomes) (r : ReleaseIPRequest)
  | gc (ord : MapOrder) (parseCIDR : String → Option String) (o : GCOutcomes)
      (freed : ResourceType → List String → List String)

/-- The log of the handler of a request, on the store `st`. -/
def Request.effects (n : NetworkService) (env : NodeEnv) (st : Store) : Request → List Effect
  | .alloc o r => (allocIP n env o st r).effects
  | .release o r => (releaseIP n o st r).effects
  | .gc ord parseCIDR o _ => (gcTick n ord parseCIDR o st).effects

/-- What the pools' `GarbageCollection` frees during the request. -/
def Request.freed : Request → ResourceType → List String → List String
  | .gc _ _ _ freed => freed
  | _ => fun _ _ => []

/-- Every call the request makes to the store succeeds: its `Get` or `List`, its `Put`s and
its `Delete`s. -/
def Request.StoreSucceeds : Request → Prop
  | .alloc o _ => o.getErr = none ∧ o.putErr = none ∧ ∀ i, o.deleteErr i = none
  | .release o _ => o.getErr = none ∧ ∀ i, o.deleteErr i = none
  | .gc _ _ o _ => o.listErr = none ∧ (∀ k, o.putErr k = none) ∧ ∀ k, o.deleteErr k = none

/-- A request applied atomically: the handler's log written to the store and to the pools. -/
def Daemon.handle (n : NetworkService) (env : NodeEnv) (d : Daemon) (q : Request) :
    Option Daemon :=
  let es := q.effects n env d.store
  (d.pools.applyEffects q.freed es).map fun ps => ⟨d.store.applyEffects es, ps⟩

lemma Daemon.handle_eq_some {n : NetworkService} {env : NodeEnv} {d d' : Daemon} {q : Request}
    (h : d.handle n env q = some d') :
    d'.store = d.store.applyEffects (q.effects n env d.store) ∧
      d.pools.applyEffects q.freed (q.effects n env d.store) = some d'.pools := by
  obtain ⟨ps, hps, rfl⟩ := Option.map_eq_some'.1 h
  exact ⟨rfl, hps⟩

/-- No leak: every id a pool holds for a pod is an item of the pod's record. -/
def Daemon.NoLeak (d : Daemon) : Prop :=
  ∀ h ∈ d.pools, ∃ rec ∈ d.store.records, rec.key = h.pod ∧
    (⟨h.type, h.id⟩ : ResourceItem) ∈ rec.resources

/-- No stale binding: every item of a record is held by its pool for the record's pod. -/
def Daemon.NoStaleBinding (d : Daemon) : Prop :=
  ∀ rec ∈ d.store.records, ∀ it ∈ rec.resources, (⟨it.type, it.id, rec.key⟩ : Holding) ∈ d.pools

instance : DecidablePred Daemon.NoLeak := fun d =>
  inferInstanceAs (Decidable (∀ h ∈ d.pools, ∃ rec ∈ d.store.records, rec.key = h.pod ∧
    (⟨h.type, h.id⟩ : ResourceItem) ∈ rec.resources))

instance : DecidablePred Daemon.NoStaleBinding := fun d =>
  inferInstanceAs (Decidable (∀ rec ∈ d.store.records, ∀ it ∈ rec.resources,
    (⟨it.type, it.id, rec.key⟩ : Holding) ∈ d.pools))

end Terway

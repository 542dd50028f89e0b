import Mathlib.Data.List.Nodup
import Terway.AllocIP

/-!
Rollback completeness and atomicity of `AllocIP` (spec §4.2 "Rollback", §8): on every
return path with an error, each item a manager's `Allocate` produced during the call goes
back, exactly once, to the `Release` of the manager registered for its type; the pod's record
is gone once the rollback's deletes succeed; and a call that allocated nothing leaves the
store as it was and releases nothing.

The deferred function reads the handler's local `err`; `allocIPBody_quiet` shows the only
error returns that leave it unset (a network type the mode does not serve) come before any
effect, so the rollback runs on every path that has something to undo.

* `allocatedItems_rollback`, `releasedItems_rollback`, `get_applyEffects_rollback`: what
  the rollback arm allocates (nothing), releases (every item with a registered manager) and
  leaves in the store (no record, once its deletes succeed).
* `allocIPBody_disciplined`, `allocIPBody_resources`: the body keeps the allocation
  discipline of its branches, and records distinct items with registered managers.
* `allocIP_rollback`: the three parts of the law.
-/

namespace Terway

/-! ### The rollback arm -/

section Rollback

variable (n : NetworkService) (o : AllocOutcomes) (k : String)

@[simp] lemma allocatedItems_rollback (i : Nat) (l : List ResourceItem) :
    allocatedItems (rollback n o k i l) = [] := by
  induction l generalizing i with
  | nil => rfl
  | cons it l ih =>
    simp only [rollback, allocatedItems, List.filterMap_cons, List.filterMap_append,
      Effect.allocatedItem] at ih ⊢
    split_ifs <;> simp [Effect.allocatedItem, ih]

@[simp] lemma releasedItems_rollback (i : Nat) (l : List ResourceItem) :
    releasedItems (rollback n o k i l) = l.filter (n.getResourceManagerForRes ·.type) := by
  induction l generalizing i with
  | nil => rfl
  | cons it l ih =>
    simp only [rollback, releasedItems, List.filterMap_cons, List.filterMap_append,
      Effect.releasedItem] at ih ⊢
    split_ifs with h <;> simp [Effect.releasedItem, ih, h]

/-- The rollback logs deletes of the pod's record and `Release` calls of its items. -/
lemma mem_rollback {i : Nat} {l : List ResourceItem} {e : Effect} (he : e ∈ rollback n o k i l) :
    (∃ j, e = .delete k (o.deleteErr j)) ∨ ∃ it ∈ l, ∃ res, e = .release it res := by
  induction l generalizing i with
  | nil => simp [rollback] at he
  | cons it l ih =>
    simp only [rollback, List.mem_cons, List.mem_append] at he
    rcases he with rfl | he | he
    · exact .inl ⟨_, rfl⟩
    · split_ifs at he
      · exact .inr ⟨it, List.mem_cons_self _ _, _, List.mem_singleton.1 he⟩
      · cases he
    · rcases ih he with h | ⟨it', hit', res, rfl⟩
      · exact .inl h
      · exact .inr ⟨it', List.mem_cons_of_mem _ hit', res, rfl⟩

/-- Once its deletes succeed, a rollback of at least one item leaves no record for the pod:
the releases after the last delete do not write the store. -/
lemma get_applyEffects_rollback (s : Store) (i : Nat) {l : List ResourceItem} (hl : l ≠ [])
    (hd : ∀ e, Effect.delete k (some e) ∉ rollback n o k i l) :
    (s.applyEffects (rollback n o k i l)).get k = none := by
  induction l generalizing s i with
  | nil => exact absurd rfl hl
  | cons it l ih =>
    have hdel : o.deleteErr i = none := by
      cases h : o.deleteErr i with
      | none => rfl
      | some e => exact absurd (by simp [rollback, h]) (hd e)
    have hrel : ∀ s : Store, s.applyEffects
        (if n.getResourceManagerForRes it.type then [Effect.release it (o.releaseErr i)] else []) = s := by
      intro s; split_ifs <;> rfl
    simp only [rollback, Store.applyEffects_cons, Store.applyEffects_append, hdel, hrel]
    by_cases hl' : l = []
    · subst hl'; simp [Store.applyEffect, rollback]
    · exact ih _ _ hl' fun e he => hd e (by simp [rollback, he])

end Rollback

/-! ### The body -/

section Body

variable (n : NetworkService) (env : NodeEnv) (o : AllocOutcomes) (st : Store)
  (r : AllocIPRequest)

/-- The body keeps the allocation discipline of its branches. -/
lemma allocIPBody_disciplined :
    let b := allocIPBody n env o st r
    Disciplined b.effects b.resources := by
  unfold allocIPBody
  split
  · exact disciplined_nil
  · split
    · exact disciplined_nil
    · split_ifs
      · exact disciplined_nil
      · simpa using allocBranch_disciplined ..

/-- The items the body records are distinct, and each has a registered manager. -/
lemma allocIPBody_resources :
    let b := allocIPBody n env o st r
    b.resources.Nodup ∧ ∀ it ∈ b.resources, n.getResourceManagerForRes it.type = true := by
  unfold allocIPBody
  split
  · simp
  · split
    · simp
    · split_ifs with hv
      · simp
      · simpa using allocBranch_resources n env o r _ _ (by simpa using hv)

/-- The record the body writes holds exactly the items it recorded. -/
lemma put_mem_allocIPBody {rec : PodResources} {err : Option Err}
    (h : .put rec err ∈ (allocIPBody n env o st r).effects) :
    rec = newPodResources r rec.podInfo (allocIPBody n env o st r).resources := by
  revert h
  unfold allocIPBody
  split
  · simp
  · split
    · simp
    · split_ifs
      · simp
      · simpa using put_mem_allocBranch n env o r _ _

/-- Every `Allocate` of the body passes the id of the pod's record of its type, as read at
the top of the body. -/
lemma allocate_mem_allocIPBody {p : PodInfo} (hp : o.getPod = .ok p) {t : ResourceType}
    {key prior : String} {res : Option String}
    (h : .allocate t key prior res ∈ (allocIPBody n env o st r).effects) :
    prior = oldResID (st.get p.key) t := by
  revert h
  simp only [allocIPBody, hp]
  split
  · simp
  · rename_i oldRes hget
    obtain rfl : oldRes = st.get p.key := by
      cases hg : o.getErr <;> simp [getPodResource, hg] at hget
      exact hget.symm
    split_ifs
    · simp
    · simpa using allocate_mem_allocBranch n env o r _ _

/-- When `GetPod` fails, the body has done nothing. -/
lemma allocIPBody_getPod_error {e : Err} (h : o.getPod = .error e) :
    (allocIPBody n env o st r).effects = [] ∧ (allocIPBody n env o st r).resources = [] := by
  simp [allocIPBody, h]

/-- The error returns that leave `err` unset come before any effect. -/
lemma allocIPBody_quiet {e : Err} (h : (allocIPBody n env o st r).ret = .error e)
    (hq : (allocIPBody n env o st r).errSet = false) :
    (allocIPBody n env o st r).effects = [] ∧ (allocIPBody n env o st r).resources = [] := by
  revert h hq
  unfold allocIPBody
  split
  · simp
  · split
    · simp
    · split_ifs
      · simp
      · intro h hq
        simp [allocIPTail_errSet n o _ _ h] at hq

end Body

/-! ### The law -/

/-- The rollback law of spec §8 for a failed `AllocIP` whose log is `es`: (a) every item an
`Allocate` produced goes to `Release` exactly once, through the manager registered for its
type, and nothing else does; (b) if an item was allocated and the log's deletes succeeded,
the store holds no record for the pod; (c) if nothing was allocated, the store is as before
and nothing is released. -/
structure RollbackComplete (n : NetworkService) (o : AllocOutcomes) (st : Store)
    (es : List Effect) : Prop where
  released_once : ∀ it ∈ allocatedItems es,
    (releasedItems es).count it = 1 ∧ n.mgrForResource it.type = .present
  released_only : ∀ it ∈ releasedItems es, it ∈ allocatedItems es
  no_record : allocatedItems es ≠ [] → (∀ k err, Effect.delete k (some err) ∉ es) →
    ∃ p, o.getPod = .ok p ∧ (st.applyEffects es).get p.key = none
  untouched : allocatedItems es = [] → st.applyEffects es = st ∧ releasedItems es = []

/-- A call that logged nothing keeps the law. -/
lemma RollbackComplete.nil (n : NetworkService) (o : AllocOutcomes) (st : Store) :
    RollbackComplete n o st [] :=
  ⟨by simp [allocatedItems], by simp [releasedItems], by simp [allocatedItems],
    fun _ => ⟨rfl, rfl⟩⟩

/-- **Rollback completeness and atomicity of `AllocIP`**: every call that returns an error
satisfies the rollback law, on every return path and every position of the failure. -/
theorem allocIP_rollback (n : NetworkService) (env : NodeEnv) (o : AllocOutcomes) (st : Store)
    (r : AllocIPRequest) {e : Err} (h : (allocIP n env o st r).reply = .error e) :
    RollbackComplete n o st (allocIP n env o st r).effects := by
  have hd := allocIPBody_disciplined n env o st r
  obtain ⟨hnd, hreg⟩ := allocIPBody_resources n env o st r
  have hfilter : (allocIPBody n env o st r).resources.filter
      (n.getResourceManagerForRes ·.type) = (allocIPBody n env o st r).resources :=
    List.filter_eq_self.2 hreg
  simp only [allocIP] at h ⊢
  split
  · rename_i e' hp
    rw [(allocIPBody_getPod_error n env o st r hp).1]
    exact .nil n o st
  · rename_i p hp
    simp only [hp] at h
    split_ifs with hs
    · refine ⟨?_, ?_, ?_, ?_⟩ <;>
        simp only [allocatedItems_append, releasedItems_append, allocatedItems_rollback,
          releasedItems_rollback, hd.allocated, hd.no_release, hfilter, List.append_nil,
          List.nil_append]
      · exact fun it hit => ⟨List.count_eq_one_of_mem hnd hit,
          by simpa [NetworkService.getResourceManagerForRes] using hreg it hit⟩
      · exact fun it hit => hit
      · refine fun hne hdel => ⟨p, hp, ?_⟩
        rw [Store.applyEffects_append]
        exact get_applyEffects_rollback n o _ _ 0 hne fun err he =>
          hdel p.key err (List.mem_append.2 (.inr he))
      · refine fun h0 => ⟨?_, h0⟩
        rw [h0, Store.applyEffects_append]
        simp only [rollback, Store.applyEffects_nil]
        exact st.applyEffects_of_not_writes fun e he =>
          Bool.eq_false_iff.2 fun hw => hd.writes e he hw h0
    · cases hb : (allocIPBody n env o st r).ret with
      | ok reply => simp [hb, hs] at h
      | error e' =>
        simp only [hb, (allocIPBody_quiet n env o st r hb (by simpa using hs)).1]
        exact .nil n o st

/-- A pod asking for an EIP, whose ENI-IP is granted and whose EIP is refused. -/
def eipRefused : AllocOutcomes where
  getPod := .ok ⟨"default", "web-0", .eniMultiIP, false, true, 0, 0, "", 0, ⟨"", ""⟩⟩
  getErr := none
  podENIInfo := fun _ => .error .notFound
  allocateENIIP := fun _ _ =>
    .ok ⟨"eni-1.10.0.0.9", ⟨"eni-1", "", ⟨"", ""⟩, ⟨"", ""⟩, ⟨"", ""⟩, false⟩, ⟨"10.0.0.9", ""⟩⟩
  allocateENI := fun _ _ => .error .invalidState
  allocateVeth := fun _ _ => .error .invalidState
  allocateEIP := fun _ _ => .error (.msg "no eip")
  putErr := none
  cancelled := false
  deleteErr := fun _ => none
  releaseErr := fun _ => none

/-- The rollback law at a refused EIP, after the ENI-IP was granted. -/
theorem allocIP_rollback_eip_refused :
    (allocIP eipService plainNode eipRefused Store.empty ⟨"web-0", "default", "c1", "", ""⟩).reply =
        .error (.msg "error get allocated eip for") ∧
      RollbackComplete eipService eipRefused Store.empty
        (allocIP eipService plainNode eipRefused Store.empty
          ⟨"web-0", "default", "c1", "", ""⟩).effects :=
  ⟨rfl, allocIP_rollback _ _ _ _ _ rfl⟩

end Terway

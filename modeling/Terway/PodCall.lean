import Terway.Records
import Terway.Pending

/-!
A call of `AllocIP` or `ReleaseIP` for one pod, and what it touches (`daemon.go`, spec §4.1,
§4.2). Once `GetPod` has answered, a call reads the store only at the pod's key
(`getPodResource`), writes only that key, allocates only for the pod, and frees only ids the
pools hold for the pod: the items of its record, or what it allocated itself. So on every
reachable daemon a call leaves every other pod alone, and calls for different pods do not
see each other.

* `PodCall`: a call with the answers of its collaborators, and its log on a store.
* `PodCall.effects_congr`, `PodCall.writesKey_eq`: a call reads and writes only its key.
* `reachable_podCall_isolated`: on a reachable daemon, a call for one pod leaves every other
  pod's record and every id a pool holds for another pod as they were.
* `serialRun`: the calls one after another, each on the store the one before left, as
  `Daemon.handle` applies them.
-/

namespace Terway

/-! ### What a call reads and writes -/

section Touches

variable (n : NetworkService) (env : NodeEnv)

/-- `AllocIP` reads the store only at the key of the pod `GetPod` answered. -/
lemma allocIP_congr (o : AllocOutcomes) (r : AllocIPRequest) {st st' : Store}
    (h : ∀ p, o.getPod = .ok p → st.get p.key = st'.get p.key) :
    allocIP n env o st r = allocIP n env o st' r := by
  have hbody : allocIPBody n env o st r = allocIPBody n env o st' r := by
    cases hp : o.getPod with
    | error e => simp only [allocIPBody, hp]
    | ok p => simp only [allocIPBody, hp, getPodResource, h p hp]
  simp only [allocIP, hbody]

/-- `ReleaseIP` reads the store only at the key of the pod `GetPod` answered. -/
lemma releaseIP_congr (o : ReleaseOutcomes) (r : ReleaseIPRequest) {st st' : Store}
    (h : ∀ p, o.getPod = .ok p → st.get p.key = st'.get p.key) :
    releaseIP n o st r = releaseIP n o st' r := by
  cases hp : o.getPod with
  | error e => simp only [releaseIP, hp]
  | ok p => simp only [releaseIP, hp, getPodResource, h p hp]

/-- Once the pod is read, the log of `AllocIP` is the body's log, then deletes of the pod's
record, `Release` calls of what the body allocated, and pod-IP patches. -/
lemma allocIP_effects_tail (o : AllocOutcomes) (st : Store) (r : AllocIPRequest) {p : PodInfo}
    (hp : o.getPod = .ok p) :
    ∃ tail, (allocIP n env o st r).effects = (allocIPBody n env o st r).effects ++ tail ∧
      ∀ e ∈ tail, (∃ err, e = .delete p.key err) ∨
        (∃ it ∈ allocatedItems (allocIPBody n env o st r).effects, ∃ res, e = .release it res) ∨
          ∃ ips, e = .patchPodIPInfo ips := by
  rcases allocIP_effects_cases n env o st r hp with he | ⟨tail, he, htail⟩
  · refine ⟨_, he, fun e he' => ?_⟩
    rw [← (allocIPBody_disciplined n env o st r).allocated] at he'
    rcases mem_rollback n o p.key he' with ⟨_, rfl⟩ | ⟨it, hit, res, rfl⟩
    exacts [.inl ⟨_, rfl⟩, .inr (.inl ⟨it, hit, res, rfl⟩)]
  · exact ⟨tail, he, fun e he' => .inr (.inr (htail e he'))⟩

variable {n env}

/-- `AllocIP` writes only the key of the pod `GetPod` answered: its branch `Put`s the pod's
record, and its rollback deletes it. -/
lemma allocIP_writesKey {o : AllocOutcomes} {st : Store} {r : AllocIPRequest} {e : Effect}
    {k : String} (he : e ∈ (allocIP n env o st r).effects) (hw : e.writesKey k = true) :
    ∃ p, o.getPod = .ok p ∧ p.key = k := by
  cases hp : o.getPod with
  | error err => simp [allocIP, hp, (allocIPBody_getPod_error n env o st r hp).1] at he
  | ok p =>
    refine ⟨p, rfl, ?_⟩
    obtain ⟨tail, h, htail⟩ := allocIP_effects_tail n env o st r hp
    rw [h, List.mem_append] at he
    rcases he with he | he
    · rcases allocIPBody_allocLog n env o st r hp e he with ⟨_, _, _, rfl⟩ | ⟨rec, _, rfl, hkey, -⟩
      · cases hw
      · simp only [Effect.writesKey, Bool.and_eq_true, decide_eq_true_eq] at hw
        exact hkey.symm.trans hw.2
    · rcases htail e he with ⟨_, rfl⟩ | ⟨_, _, _, rfl⟩ | ⟨_, rfl⟩
      · simp only [Effect.writesKey, Bool.and_eq_true, decide_eq_true_eq] at hw
        exact hw.2
      all_goals cases hw

/-- `ReleaseIP` writes only the key of the pod `GetPod` answered: it deletes the pod's
record and never `Put`s. -/
lemma releaseIP_writesKey {o : ReleaseOutcomes} {st : Store} {r : ReleaseIPRequest}
    {e : Effect} {k : String} (he : e ∈ (releaseIP n o st r).effects) (hw : e.writesKey k = true) :
    ∃ p, o.getPod = .ok p ∧ p.key = k := by
  rcases releaseIP_effects_cases n o st r with h | ⟨p, rec, hp, -, h⟩ <;> rw [h] at he
  · cases he
  · refine ⟨p, hp, ?_⟩
    rcases Effect.eq_of_writesKey hw with ⟨rec', -, rfl⟩ | rfl
    · exact absurd he (put_not_mem_releaseLoop n o p rec' none 0 rec.resources)
    · by_contra hk
      exact delete_not_mem_releaseLoop n o (Ne.symm hk) none 0 rec.resources he

end Touches

/-- A call of `AllocIP` or `ReleaseIP`, with the answers of its collaborators. -/
inductive PodCall
  | allocIP (o : AllocOutcomes) (r : AllocIPRequest)
  | releaseIP (o : ReleaseOutcomes) (r : ReleaseIPRequest)

namespace PodCall

/-- The request the daemon serves for the call. -/
def request : PodCall → Request
  | .allocIP o r => .alloc o r
  | .releaseIP o r => .release o r

/-- The call as the gate sees it. -/
def call : PodCall → Call
  | .allocIP _ r => .allocIP r
  | .releaseIP _ r => .releaseIP r

/-- The key the gate holds for the call. -/
def key (c : PodCall) : String := c.call.key

/-- The answer of `GetPod`. -/
def getPod : PodCall → Except Err PodInfo
  | .allocIP o _ => o.getPod
  | .releaseIP o _ => o.getPod

/-- The call's store calls, on the store it reads. -/
def effects (n : NetworkService) (env : NodeEnv) (c : PodCall) (st : Store) : List Effect :=
  c.request.effects n env st

/-- `GetPod(namespace, name)` answers the pod the request names, so the record the call
reads and writes is the one of the key its gate holds. -/
def GetsOwnPod (c : PodCall) : Prop := ∀ p, c.getPod = .ok p → p.key = c.key

variable {n : NetworkService} {env : NodeEnv} {c : PodCall}

/-- A call reads only its key. -/
lemma effects_congr (hc : c.GetsOwnPod) {st st' : Store} (h : st.get c.key = st'.get c.key) :
    c.effects n env st = c.effects n env st' := by
  cases c with
  | allocIP o r => exact congrArg Handled.effects (allocIP_congr n env o r fun p hp => hc p hp ▸ h)
  | releaseIP o r => exact congrArg Handled.effects (releaseIP_congr n o r fun p hp => hc p hp ▸ h)

/-- A call writes only the key of the pod `GetPod` answered. -/
lemma exists_getPod_of_writesKey {st : Store} {e : Effect} {k : String}
    (he : e ∈ c.effects n env st) (hw : e.writesKey k = true) :
    ∃ p, c.getPod = .ok p ∧ p.key = k := by
  cases c with
  | allocIP o r => exact allocIP_writesKey he hw
  | releaseIP o r => exact releaseIP_writesKey he hw

/-- A call writes only its key. -/
lemma writesKey_eq (hc : c.GetsOwnPod) {st : Store} {e : Effect} {k : String}
    (he : e ∈ c.effects n env st) (hw : e.writesKey k = true) : k = c.key := by
  obtain ⟨p, hp, rfl⟩ := exists_getPod_of_writesKey he hw
  exact hc p hp

/-- A call's log leaves every other key as it was. -/
lemma get_applyEffects_ne (hc : c.GetsOwnPod) (st st' : Store) {k : String} (hk : k ≠ c.key) :
    (st'.applyEffects (c.effects n env st)).get k = st'.get k :=
  Store.get_applyEffects_of_not_writesKey _ fun _ he =>
    Bool.eq_false_iff.2 fun hw => hk (writesKey_eq hc he hw)

end PodCall

/-! ### A call and the other pods -/

section Isolation

variable {n : NetworkService} {env : NodeEnv} {d : Daemon} {ps' : Pools}
  {freed : ResourceType → List String → List String} {p : PodInfo} {hl : Holding}

/-- On consistent pools, `AllocIP` for the pod `p` leaves every other pod's holdings as they
were: it allocates only for `p`, and its rollback releases only ids its body allocated for
`p`, which no other pod holds. -/
lemma allocIP_pools_of_pod_ne (hc : d.Consistent) {o : AllocOutcomes} {r : AllocIPRequest}
    (hp : o.getPod = .ok p)
    (hps : d.pools.applyEffects freed (allocIP n env o d.store r).effects = some ps')
    (hk : hl.pod ≠ p.key) : hl ∈ ps' ↔ hl ∈ d.pools := by
  obtain ⟨tail, he, htail⟩ := allocIP_effects_tail n env o d.store r hp
  have hlog := allocIPBody_allocLog n env o d.store r hp
  have hnf := hlog.frees_eq_false freed
  rw [he] at hps
  obtain ⟨ps₁, h₁, h₂⟩ := Option.bind_eq_some.1 (Pools.applyEffects_append _ _ ▸ hps)
  refine (Pools.mem_applyEffects_iff_of_pod_ne ?_ ?_ h₂ hk).trans
    (Pools.mem_applyEffects_iff_of_pod_ne ?_ (fun _ _ _ => hnf _ _) h₁ hk)
  · intro t k prior id hm
    rcases htail _ hm with ⟨_, h⟩ | ⟨_, _, _, h⟩ | ⟨_, h⟩ <;> cases h
  · intro hl' hh' hk' e he'
    rcases htail e he' with ⟨_, rfl⟩ | ⟨it, hit, res, rfl⟩ | ⟨_, rfl⟩
    · rfl
    · obtain ⟨prior, hmem⟩ := hlog.allocated hit
      exact (hc.unique.applyEffects h₁).frees_release_eq_false
        (Pools.mem_applyEffects_of_allocate hmem (fun e he => hnf _ _ e he) h₁) hh' hk'
    · rfl
  · intro t k prior id hm
    rcases hlog _ hm with ⟨_, _, _, h⟩ | ⟨_, _, h, -⟩
    · exact (Effect.allocate.inj h).2.1
    · cases h

/-- On consistent pools, `ReleaseIP` for the pod `p` leaves every other pod's holdings as
they were: it releases only the items of `p`'s record, which the pools hold for `p` alone. -/
lemma releaseIP_pools_of_pod_ne (hc : d.Consistent) {o : ReleaseOutcomes}
    {r : ReleaseIPRequest} (hp : o.getPod = .ok p)
    (hps : d.pools.applyEffects freed (releaseIP n o d.store r).effects = some ps')
    (hk : hl.pod ≠ p.key) : hl ∈ ps' ↔ hl ∈ d.pools := by
  rcases releaseIP_effects_cases n o d.store r with he | ⟨p', rec, hp', hrec, he⟩ <;>
    rw [he] at hps
  · rw [← Option.some.inj hps]
  cases hp.symm.trans hp'
  have hkey : rec.key = p.key := Store.key_of_get hrec
  refine Pools.mem_applyEffects_iff_of_pod_ne ?_ ?_ hps hk
  · intro t k prior id hm
    rcases mem_releaseLoop n o p 0 _ hm with ⟨_, h⟩ | ⟨_, _, _, h⟩ <;> cases h
  · intro hl' hh' hk' e he'
    rcases mem_releaseLoop n o p 0 _ he' with ⟨_, rfl⟩ | ⟨it, hit, res, rfl⟩
    · rfl
    · exact hc.unique.frees_release_eq_false
        (hkey ▸ hc.bound rec (Store.get_eq_some_iff.1 (hkey ▸ hrec)) it hit) hh' hk'

end Isolation

/-- **A call for one pod leaves every other pod alone**: from a reachable daemon, once
`AllocIP` or `ReleaseIP` for the pod `p` is applied, whatever its collaborators answered, the
store holds what it held at every other key, and a pool holds an id for another pod exactly
when it held it before. -/
theorem reachable_podCall_isolated (n : NetworkService) (env : NodeEnv) {d d' : Daemon}
    (h : d.Reachable n env) (c : PodCall) {p : PodInfo} (hp : c.getPod = .ok p)
    (hd : d.handle n env c.request = some d') :
    (∀ k, k ≠ p.key → d'.store.get k = d.store.get k) ∧
      ∀ hl : Holding, hl.pod ≠ p.key → (hl ∈ d'.pools ↔ hl ∈ d.pools) := by
  obtain ⟨hst, hps⟩ := Daemon.handle_eq_some hd
  refine ⟨fun k hk => hst ▸ Store.get_applyEffects_of_not_writesKey _ fun e he =>
    Bool.eq_false_iff.2 fun hw => ?_, fun hl hk => ?_⟩
  · obtain ⟨p', hp', rfl⟩ := PodCall.exists_getPod_of_writesKey (c := c) he hw
    cases hp.symm.trans hp'
    exact hk rfl
  cases c with
  | allocIP o r => exact allocIP_pools_of_pod_ne h.consistent hp hps hk
  | releaseIP o r => exact releaseIP_pools_of_pod_ne h.consistent hp hps hk

/-- `ReleaseIP` of `eipPod` after its `AllocIP` frees its two ids and nothing else. -/
theorem reachable_podCall_isolated_eip :
    ∃ d d', Daemon.empty.handle eipService plainNode (.alloc eipGranted eipRequest) = some d ∧
      d.handle eipService plainNode
        (PodCall.releaseIP eipReleased ⟨"web-0", "default", "c1"⟩).request = some d' ∧
      (∀ k, k ≠ eipPod.key → d'.store.get k = d.store.get k) ∧
      ∀ hl : Holding, hl.pod ≠ eipPod.key → (hl ∈ d'.pools ↔ hl ∈ d.pools) :=
  ⟨_, _, rfl, rfl, reachable_podCall_isolated eipService plainNode
    (.step (q := .alloc eipGranted eipRequest) .empty ⟨rfl, rfl, fun _ => rfl⟩ trivial rfl)
    (.releaseIP eipReleased ⟨"web-0", "default", "c1"⟩) rfl rfl⟩

/-! ### The calls one after another -/

/-- The calls one after another, each on the store the one before left: what
`Daemon.handle` does with them as requests. -/
def serialRun (n : NetworkService) (env : NodeEnv) : List PodCall → Store → Store
  | [], st => st
  | c :: cs, st => serialRun n env cs (st.applyEffects (c.effects n env st))

section Serial

variable {n : NetworkService} {env : NodeEnv}

lemma serialRun_append_singleton (cs : List PodCall) (c : PodCall) (st : Store) :
    serialRun n env (cs ++ [c]) st =
      (serialRun n env cs st).applyEffects (c.effects n env (serialRun n env cs st)) := by
  induction cs generalizing st with
  | nil => rfl
  | cons c' cs ih => exact ih _

/-- The serial run from a reachable store is a run of the daemon's handlers. -/
lemma Store.Reachable.serialRun {st : Store} (h : st.Reachable n env) (cs : List PodCall) :
    (Terway.serialRun n env cs st).Reachable n env := by
  induction cs generalizing st with
  | nil => exact h
  | cons c cs ih => exact ih (.step c.request h)

end Serial

end Terway

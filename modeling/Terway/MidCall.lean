import Terway.WriteLock

/-!
The store in the middle of a call (`daemon.go`, spec §4.2, §5): what a reader under the read
lock finds, and what a daemon that stops there leaves on disk.

`GetIPInfo` reads the pod's record under the read lock (`n.RLock()` around
`getPodResource`), which the calls hold too, and it does not pass the pending gate: its read
can fall between any two store calls of a call for the same pod. What it does after the read
depends only on its collaborators' answers. So its reply is its reply on the store of some
state of an interleaving, and that store is, under the pod's key, the serial run's of the
reads and ticks so far, unless a call for the pod is in the middle of its store calls. Then
the reply is the one on the store the call's first store calls left, which no serial order
need give: a cancelled `AllocIP` puts the pod's record and then deletes it and releases its
items, and a `GetIPInfo` between the two hands out the items.

The store is written to disk at each store call, so a daemon can stop between any two of
them, and its restart restores whatever records the store then holds. Those are well formed
at every state of every interleaving: a call's store calls come from its log, whose only
`Put` is the record `AllocIP` builds.

* `Conc.MidCall`: a call in the middle of its store calls made the first of them on a store
  on which its log is what it made and what it has left; `MidCall.step` and `MidCall.tick`
  keep it.
* `getIPInfo_during_calls`: the reply of `GetIPInfo` in every interleaving with ticks.
* `interleaving_records_ok_anytime`: every record at every state of every interleaving with
  ticks is well formed.
-/
namespace Terway

/-! ### A call in the middle of its store calls -/

/-- Every call with store calls left made the ones before on a store on which its log is
those and the ones left, and the store holds under its key what the first left there. -/
def Conc.MidCall (n : NetworkService) (env : NodeEnv) (calls : List PodCall) (s : Conc) : Prop :=
  ∀ (i : Nat) c e es, calls[i]? = some c → s.todo i = some (e :: es) →
    ∃ pre done, c.effects n env pre = done ++ e :: es ∧
      s.store.get c.key = (pre.applyEffects done).get c.key

namespace Conc.MidCall

variable {n : NetworkService} {env : NodeEnv} {calls : List PodCall} {s : Conc}

lemma init (calls : List PodCall) (st : Store) : (Conc.init calls st).MidCall n env calls :=
  fun _ _ _ _ _ h => nomatch h

/-- **Step lemma**: a call that reads has made none of its store calls; a store call moves
the call that makes it one call on, and writes no other call's key. -/
lemma step (hS : ConcShape n env calls s.gate s.todo) (h : s.MidCall n env calls) (i : Nat) :
    (s.step n env calls i).MidCall n env calls := by
  rcases Conc.step_cases n env calls s i with hs | ⟨c, inv, hc, hi, hcases⟩
  · rw [hs]
    exact h
  rcases hcases with ⟨-, -, hs⟩ | ⟨-, -, hs⟩ | ⟨-, -, hs⟩ | ⟨e, es, hb, ht, hs⟩ |
    ⟨-, -, hs⟩ <;> rw [hs] <;> intro j c' e' es' hc' ht'
  · exact h j c' e' es' hc' ht'
  · exact h j c' e' es' hc' ht'
  · -- the read: nothing made yet, on the store it read
    by_cases hji : j = i
    · subst hji
      obtain rfl := Option.some.inj (hc'.symm.trans hc)
      simp only [Function.update_same, Option.some.injEq] at ht'
      exact ⟨s.store, [], ht', rfl⟩
    · simp only [Function.update_noteq hji] at ht'
      exact h j c' e' es' hc' ht'
  · -- a store call of call `i`
    by_cases hji : j = i
    · subst hji
      obtain rfl := Option.some.inj (hc'.symm.trans hc)
      simp only [Function.update_same, Option.some.injEq] at ht'
      subst ht'
      obtain ⟨pre, done, heff, hget⟩ := h j c' e _ hc' ht
      refine ⟨pre, done ++ [e], by rw [heff, List.append_assoc]; rfl, ?_⟩
      rw [Store.applyEffects_append]
      exact Store.get_applyEffect_congr hget e
    · -- another call's key, which the store call does not write
      simp only [Function.update_noteq hji] at ht'
      obtain ⟨pre, done, heff, hget⟩ := h j c' e' es' hc' ht'
      obtain ⟨inv', hi', hb'⟩ := hS.todo_body j _ ht'
      have hne : c'.key ≠ c.key := fun he => hji (hS.gateInv.exclusive j i _
        ⟨inv', hi', hb', hS.key_eq hc' hi'⟩ ⟨inv, hi, hb, he ▸ hS.key_eq hc hi⟩)
      refine ⟨pre, done, heff, (Store.get_applyEffect_of_not_writesKey _ ?_).trans hget⟩
      exact Bool.eq_false_iff.2 fun hw =>
        hne (hS.writes i c _ hc ht e (List.mem_cons_self _ _) _ hw)
  · by_cases hji : j = i
    · subst hji
      simp at ht'
    · simp only [Function.update_noteq hji] at ht'
      exact h j c' e' es' hc' ht'

/-- A tick runs when no call is in the middle of its store calls. -/
lemma tick (hu : s.Unlocked) (ord : MapOrder) (parseCIDR : String → Option String)
    (o : GCOutcomes) : (s.tick n ord parseCIDR o).MidCall n env calls :=
  fun i _ e es _ ht => absurd (hu i _ ht) (List.cons_ne_nil e es)

/-- **Run lemma**: the invariant holds in every interleaving with ticks. -/
lemma reachable (hown : ∀ c ∈ calls, c.GetsOwnPod) {st : Store} {evs : List Event}
    (hs : s.ReachableTicks n env calls st evs) : s.MidCall n env calls := by
  induction hs with
  | init => exact init calls st
  | step i hs ih => exact ih.step (TickInv.reachable hown hs).toConcShape i
  | tick ord parseCIDR o _ hu _ => exact tick hu ord parseCIDR o

end Conc.MidCall

/-! ### What `GetIPInfo` reads -/

/-- **What `GetIPInfo` reads while the calls run.** In every interleaving of `AllocIP`,
`ReleaseIP` and GC ticks, when no call for a pod is in the middle of its store calls, the
reply of `GetIPInfo` for the pod is its reply on the serial run of the reads and ticks so
far. When a call for the pod is, the reply is its reply on the store the call's first store
calls leave, from a store on which the call's log is those and the ones it has left, and on
which the whole log leaves what the serial run holds under the pod's key. -/
theorem getIPInfo_during_calls (n : NetworkService) (env : NodeEnv) (calls : List PodCall)
    (hown : ∀ c ∈ calls, c.GetsOwnPod) {st : Store} {s : Conc} {evs : List Event}
    (hs : s.ReachableTicks n env calls st evs) (o : InfoOutcomes) (r : GetInfoRequest)
    {p : PodInfo} (hp : o.getPod = .ok p) :
    ((∀ (i : Nat) (todo : List Effect), s.gate.InBody i p.key → s.todo i = some todo →
        todo = []) →
      getIPInfo n env o s.store r = getIPInfo n env o (serialEvents n env calls evs st) r) ∧
    (∀ (i : Nat) (todo : List Effect), s.gate.InBody i p.key → s.todo i = some todo →
      todo ≠ [] →
      ∃ (c : PodCall) (pre : Store) (done : List Effect), calls[i]? = some c ∧
        c.key = p.key ∧ c.effects n env pre = done ++ todo ∧
        getIPInfo n env o s.store r = getIPInfo n env o (pre.applyEffects done) r ∧
        (serialEvents n env calls evs st).get p.key =
          (pre.applyEffects (done ++ todo)).get p.key) := by
  have hT := TickInv.reachable hown hs
  have hread : ∀ {st' : Store}, s.store.get p.key = st'.get p.key →
      getIPInfo n env o s.store r = getIPInfo n env o st' r := fun h =>
    getIPInfo_congr n env o s.store r fun p' hp' => by
      cases hp'.symm.trans hp
      exact h
  refine ⟨fun hfree => hread (hT.get_eq hfree), fun i todo hin ht hne => ?_⟩
  -- a call for the pod in the middle of its store calls
  obtain ⟨inv, hi, hb, hk⟩ := hin
  obtain ⟨e, es, rfl⟩ := List.exists_cons_of_ne_nil hne
  obtain ⟨c, hc⟩ := hT.exists_call hi
  have hkey : c.key = p.key := (hT.key_eq hc hi).symm.trans hk
  obtain ⟨pre, done, heff, hget⟩ := Conc.MidCall.reachable hown hs i c e es hc ht
  refine ⟨c, pre, done, hc, hkey, heff, hread (hkey ▸ hget), ?_⟩
  rw [← hkey, ← hT.held i c _ hc ⟨inv, hi, hb, hT.key_eq hc hi⟩ ht, Store.applyEffects_append]
  exact Store.get_applyEffects_congr hget _

/-- `eipPod`'s `AllocIP` whose request is cancelled: the ENI-IP and the EIP are granted and
the record put, then the rollback deletes the record and releases both. -/
def eipCancelled : AllocOutcomes := { eipGranted with cancelled := true }

/-- The cancelled call alone. -/
def cancelledCalls : List PodCall := [.allocIP eipCancelled eipRequest]

lemma cancelledCalls_getsOwnPod : ∀ c ∈ cancelledCalls, c.GetsOwnPod := by
  simp only [cancelledCalls, List.mem_singleton]
  rintro c rfl p hp
  cases hp
  rfl

/-- The cancelled call past its gate, its read and its first three store calls: the two
`Allocate`s and the `Put`. -/
def cancelledAfterPut : Conc :=
  (Conc.init cancelledCalls Store.empty).run eipService plainNode cancelledCalls [0, 0, 0, 0, 0]

/-- `GetIPInfo` for `eipPod` between the `Put` of the cancelled `AllocIP` and its rollback:
the call is in the middle of its store calls, with the rollback's deletes and releases left,
and the reply hands out the pool's ENI-IP `10.0.0.9`, which the rollback releases; on the
store before the call and on the one after it, its reply has no interface. -/
theorem getIPInfo_during_calls_rolledBack :
    ∃ evs, cancelledAfterPut.ReachableTicks eipService plainNode cancelledCalls Store.empty evs ∧
      cancelledAfterPut.gate.InBody 0 eipPod.key ∧
      cancelledAfterPut.todo 0 = some [.delete eipPod.key none,
        .release ⟨.eniIP, "eni-1.10.0.0.9"⟩ none, .delete eipPod.key none,
        .release ⟨.eip, "eip-1"⟩ none] ∧
      (∃ (c : PodCall) (pre : Store) (done : List Effect), cancelledCalls[0]? = some c ∧
        c.key = eipPod.key ∧
        c.effects eipService plainNode pre = done ++ [.delete eipPod.key none,
          .release ⟨.eniIP, "eni-1.10.0.0.9"⟩ none, .delete eipPod.key none,
          .release ⟨.eip, "eip-1"⟩ none] ∧
        getIPInfo eipService plainNode eipInfo cancelledAfterPut.store
            ⟨"web-0", "default", "c1"⟩ =
          getIPInfo eipService plainNode eipInfo (pre.applyEffects done)
            ⟨"web-0", "default", "c1"⟩ ∧
        (serialEvents eipService plainNode cancelledCalls evs Store.empty).get eipPod.key =
          (pre.applyEffects (done ++ [.delete eipPod.key none,
            .release ⟨.eniIP, "eni-1.10.0.0.9"⟩ none, .delete eipPod.key none,
            .release ⟨.eip, "eip-1"⟩ none])).get eipPod.key) ∧
      (∃ R, getIPInfo eipService plainNode eipInfo cancelledAfterPut.store
        ⟨"web-0", "default", "c1"⟩ = .ok R ∧
          ∃ c ∈ R.netConfs, c.basicInfo.bind BasicInfo.podIP = some ⟨"10.0.0.9", ""⟩) ∧
      ∀ st ∈ [Store.empty, Store.empty.applyEffects
          (allocIP eipService plainNode eipCancelled Store.empty eipRequest).effects],
        ∃ R, getIPInfo eipService plainNode eipInfo st ⟨"web-0", "default", "c1"⟩ = .ok R ∧
          R.netConfs = [] := by
  obtain ⟨evs, hR⟩ := (@Conc.ReachableTicks.init eipService plainNode cancelledCalls
    Store.empty).run [0, 0, 0, 0, 0]
  have hin : cancelledAfterPut.gate.InBody 0 eipPod.key := ⟨_, rfl, rfl, rfl⟩
  refine ⟨evs, hR, hin, rfl, (getIPInfo_during_calls eipService plainNode cancelledCalls
    cancelledCalls_getsOwnPod hR eipInfo ⟨"web-0", "default", "c1"⟩ rfl).2 0 _ hin rfl
      (List.cons_ne_nil _ _), ⟨_, rfl, by decide⟩, ?_⟩
  simp only [List.mem_cons, List.mem_singleton, List.not_mem_nil, or_false]
  rintro st (rfl | rfl) <;> exact ⟨_, rfl, rfl⟩

/-! ### The records at every point -/

section Records

variable {n : NetworkService} {env : NodeEnv} {calls : List PodCall}

/-- What a call `Put`s is well formed: `AllocIP` puts the record of the items it allocated,
and `ReleaseIP` never puts. -/
lemma PodCall.recordOK_of_put {c : PodCall} {st : Store} {rec : PodResources}
    (h : .put rec none ∈ c.effects n env st) : RecordOK n rec := by
  cases c with
  | allocIP o r => exact recordOK_of_put_allocIP h
  | releaseIP o r => exact absurd h put_not_mem_releaseIP

/-- **Step lemma**: a step of a call keeps every record well formed, since its store calls
come from its log. -/
lemma Conc.step_keeps_recordOK {s : Conc} (hM : s.MidCall n env calls)
    (h : ∀ rec ∈ s.store.records, RecordOK n rec) (i : Nat) :
    ∀ rec ∈ (s.step n env calls i).store.records, RecordOK n rec := by
  rcases Conc.step_cases n env calls s i with hs | ⟨c, inv, hc, -, hcases⟩
  · rw [hs]
    exact h
  rcases hcases with ⟨-, -, hs⟩ | ⟨-, -, hs⟩ | ⟨-, -, hs⟩ | ⟨e, es, -, ht, hs⟩ |
    ⟨-, -, hs⟩ <;> rw [hs]
  · exact h
  · exact h
  · exact h
  · -- a store call, which can only be a `Put` of the call's log
    intro rec hrec
    rcases Store.mem_records_applyEffect hrec with hrec | rfl
    · exact h rec hrec
    obtain ⟨pre, done, heff, -⟩ := hM i c _ es hc ht
    exact PodCall.recordOK_of_put (show .put rec none ∈ c.effects n env pre from
      heff ▸ List.mem_append_right _ (List.mem_cons_self _ _))
  · exact h

/-- **Run lemma**: from a store of well-formed records, every record of every state of every
interleaving with ticks is well formed. -/
lemma Conc.ReachableTicks.recordOK (hown : ∀ c ∈ calls, c.GetsOwnPod) {st : Store}
    (hst : ∀ rec ∈ st.records, RecordOK n rec) {s : Conc} {evs : List Event}
    (hs : s.ReachableTicks n env calls st evs) : ∀ rec ∈ s.store.records, RecordOK n rec := by
  induction hs with
  | init => exact hst
  | step i hs ih => exact Conc.step_keeps_recordOK (Conc.MidCall.reachable hown hs) ih i
  | tick ord parseCIDR o _ _ ih =>
    -- a tick is a request of the daemon
    exact @recordOK_step n env _ ih (.gc ord parseCIDR o fun _ _ => [])

end Records

/-- **The store is well formed at every point.** From a store the daemon reached, at every
state of every interleaving of `AllocIP`, `ReleaseIP` and GC ticks, in the middle of calls
included, every record holds an item, no item twice, and only items whose type has a manager,
and it keeps the pod's network namespace and sandbox: a daemon that stops at any point
leaves only such records for its restart to restore. -/
theorem interleaving_records_ok_anytime (n : NetworkService) (env : NodeEnv)
    (calls : List PodCall) (hown : ∀ c ∈ calls, c.GetsOwnPod) {st : Store}
    (hst : st.Reachable n env) {s : Conc} {evs : List Event}
    (hs : s.ReachableTicks n env calls st evs) : ∀ rec ∈ s.store.records, RecordOK n rec :=
  hs.recordOK hown hst.recordOK

/-- Between the `Put` of the cancelled `AllocIP` and its rollback, the store holds the pod's
record, and it is well formed. -/
theorem interleaving_records_ok_anytime_cancelled :
    ∃ evs,
      cancelledAfterPut.ReachableTicks eipService plainNode cancelledCalls Store.empty evs ∧
      cancelledAfterPut.store.records ≠ [] ∧
      ∀ rec ∈ cancelledAfterPut.store.records, RecordOK eipService rec := by
  obtain ⟨evs, hR⟩ := (@Conc.ReachableTicks.init eipService plainNode cancelledCalls
    Store.empty).run [0, 0, 0, 0, 0]
  exact ⟨evs, hR, by decide, interleaving_records_ok_anytime eipService plainNode cancelledCalls
    cancelledCalls_getsOwnPod .empty hR⟩

end Terway

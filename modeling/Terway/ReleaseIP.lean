import Terway.AllocIP

/-!
`ReleaseIP` of `daemon.go` (spec §4.2): release every item of the pod's record through its
manager and delete the record, unless the pod is sticky, the mode does not serve its network
type, or the record belongs to another sandbox.

The handler is modelled after its pending-pod gate (`Terway.Pending`); the answers of its
collaborators are an argument (`ReleaseOutcomes`), and it returns its reply and its log of
effects, as `allocIP` does.

* `releaseLoop`: the loop over the record's items. It deletes the record after each item it
  releases, so an error on a later item returns after the record is gone.
* `releaseIP`: the handler.
* `releaseIP_forgets_failed_release`: the loop at a record of two items whose second
  `Release` fails: the call returns the error and the store has no record left, so the
  unreleased EIP is no longer recorded anywhere.
-/

namespace Terway

/-- `rpc.ReleaseIPRequest`. -/
structure ReleaseIPRequest where
  k8sPodName : String
  k8sPodNamespace : String
  k8sPodInfraContainerId : String
  deriving DecidableEq, Repr

/-- The answers of the collaborators one `ReleaseIP` call talks to: the pod, the store's
`Get` error, the `Release` and record delete of the loop's `i`-th item, and the request's
cancellation. -/
structure ReleaseOutcomes where
  getPod : Except Err PodInfo
  getErr : Option Err
  releaseErr : Nat → Option Err
  deleteErr : Nat → Option Err
  cancelled : Bool

/-- `Release` succeeded as far as `ReleaseIP` is concerned: `nil` or `pool.ErrInvalidState`. -/
def releaseOk : Option Err → Bool
  | none => true
  | some e => e = .invalidState

/-- The loop of `ReleaseIP` from its `i`-th item: skip an item whose type has no manager;
for a non-sticky pod, `Release` the item (an error other than `ErrInvalidState` returns)
and then delete the pod's record (an error returns). The result is the loop's effects and
the error it returned with, if any. -/
def releaseLoop (n : NetworkService) (o : ReleaseOutcomes) (podinfo : PodInfo) :
    Nat → List ResourceItem → List Effect × Option Err
  | _, [] => ([], none)
  | i, res :: rest =>
    if !n.getResourceManagerForRes res.type || podinfo.ipStickTime ≠ 0 then
      releaseLoop n o podinfo (i + 1) rest
    else
      let release := Effect.release res (o.releaseErr i)
      match o.releaseErr i with
      | some e =>
        if e ≠ .invalidState then
          ([release], some (.wrap "error release request network resource for" e))
        else
          match o.deleteErr i with
          | some e' =>
            ([release, .delete podinfo.key (some e')], some (.wrap "error delete resource from db" e'))
          | none =>
            let next := releaseLoop n o podinfo (i + 1) rest
            (release :: .delete podinfo.key none :: next.1, next.2)
      | none =>
        match o.deleteErr i with
        | some e' =>
          ([release, .delete podinfo.key (some e')], some (.wrap "error delete resource from db" e'))
        | none =>
          let next := releaseLoop n o podinfo (i + 1) rest
          (release :: .delete podinfo.key none :: next.1, next.2)

/-- **`ReleaseIP`**: a pod the mode does not serve, or a record of another sandbox, is left
alone with a success reply; otherwise the loop releases the record's items. -/
def releaseIP (n : NetworkService) (o : ReleaseOutcomes) (st : Store) (r : ReleaseIPRequest) :
    Handled ReleaseIPReply :=
  match o.getPod with
  | .error e => ⟨.error (.wrap "error get pod info for" e), []⟩
  | .ok podinfo =>
    let reply : ReleaseIPReply :=
      { success := true, ipv4 := n.ipFamily.ipv4, ipv6 := n.ipFamily.ipv6 }
    match getPodResource st o.getErr podinfo with
    | .error e => ⟨.error e, []⟩
    | .ok oldRes =>
      if !n.verifyPodNetworkType podinfo.podNetworkType then ⟨.ok reply, []⟩
      else if (oldRes.bind (·.containerID)).any (· ≠ r.k8sPodInfraContainerId) then
        ⟨.ok reply, []⟩
      else
        let loop := releaseLoop n o podinfo 0 ((oldRes.map (·.resources)).getD [])
        match loop.2 with
        | some e => ⟨.error e, loop.1⟩
        | none =>
          if o.cancelled then
            ⟨.error (.wrap "error on grpc connection" (.msg "context canceled")), loop.1⟩
          else ⟨.ok reply, loop.1⟩

/-! ### What the loop logs -/

/-- The log of the loop over `items` for the pod `key`: deletes of the pod's record, and
`Release` calls of the items, each that succeeded followed by such a delete. -/
def ReleaseLog (key : String) (items : List ResourceItem) (es : List Effect) : Prop :=
  ∀ e ∈ es, e = .delete key none ∨ ∃ it ∈ items, ∃ res, e = .release it res ∧
    (releaseOk res = true → .delete key none ∈ es)

lemma ReleaseLog.weaken {key : String} {items : List ResourceItem} {es : List Effect}
    (h : ReleaseLog key items es) (it : ResourceItem) : ReleaseLog key (it :: items) es :=
  fun e he => (h e he).imp_right fun ⟨it', hit', res, he', hok⟩ =>
    ⟨it', List.mem_cons_of_mem _ hit', res, he', hok⟩

/-- A `Release` of the item followed by the delete of the record extends a log. -/
lemma ReleaseLog.cons {key : String} {items : List ResourceItem} {es : List Effect}
    (h : ReleaseLog key items es) (it : ResourceItem) (res : Option Err) :
    ReleaseLog key (it :: items) (.release it res :: .delete key none :: es) := by
  intro e he
  rcases List.mem_cons.1 he with rfl | he
  · exact .inr ⟨it, List.mem_cons_self _ _, _, rfl, fun _ => by simp⟩
  rcases List.mem_cons.1 he with rfl | he
  · exact .inl rfl
  rcases h e he with h | ⟨it', hit', res', rfl, hok⟩
  · exact .inl h
  · exact .inr ⟨it', List.mem_cons_of_mem _ hit', res', rfl, fun h => by simp [hok h]⟩

/-- When the store's deletes succeed, the loop logs `Release` calls of the record's items
and deletes of the pod's record, and every `Release` that succeeded is followed by one. -/
lemma releaseLoop_log (n : NetworkService) (o : ReleaseOutcomes) (podinfo : PodInfo)
    (hdel : ∀ i, o.deleteErr i = none) (i : Nat) (items : List ResourceItem) :
    ReleaseLog podinfo.key items (releaseLoop n o podinfo i items).1 := by
  induction items generalizing i with
  | nil => intro e he; cases he
  | cons it items ih =>
    simp only [releaseLoop]
    split
    · exact (ih (i + 1)).weaken it
    · simp only [hdel]
      split
      · split
        · rename_i err herr hne
          intro e he
          rcases List.mem_cons.1 he with rfl | he
          · refine .inr ⟨it, List.mem_cons_self _ _, _, rfl, fun h => ?_⟩
            rw [herr] at h
            exact absurd (of_decide_eq_true h) hne
          · cases he
        · exact (ih (i + 1)).cons it _
      · exact (ih (i + 1)).cons it _

/-- The loop calls `Release` on the items it is given and deletes the pod's record, and
does nothing else. -/
lemma mem_releaseLoop (n : NetworkService) (o : ReleaseOutcomes) (podinfo : PodInfo) {e : Effect}
    (i : Nat) (items : List ResourceItem) (he : e ∈ (releaseLoop n o podinfo i items).1) :
    (∃ err, e = .delete podinfo.key err) ∨ ∃ it ∈ items, ∃ res, e = .release it res := by
  induction items generalizing i with
  | nil => cases he
  | cons it items ih =>
    have hnext : e ∈ (releaseLoop n o podinfo (i + 1) items).1 →
        (∃ err, e = .delete podinfo.key err) ∨ ∃ it' ∈ it :: items, ∃ res, e = .release it' res :=
      fun he => (ih _ he).imp_right fun ⟨it', hit', res, h⟩ =>
        ⟨it', List.mem_cons_of_mem _ hit', res, h⟩
    simp only [releaseLoop] at he
    split_ifs at he
    · exact hnext he
    · repeat' split at he
      all_goals
        simp only [List.mem_cons, List.mem_singleton, List.not_mem_nil, or_false] at he
        rcases he with rfl | rfl | he
      all_goals first
        | exact .inr ⟨it, List.mem_cons_self _ _, _, rfl⟩
        | exact .inl ⟨_, rfl⟩
        | exact hnext he

/-- The loop writes the store only by deleting: it never `Put`s. -/
lemma put_not_mem_releaseLoop (n : NetworkService) (o : ReleaseOutcomes) (podinfo : PodInfo)
    (rec : PodResources) (err : Option Err) (i : Nat) (items : List ResourceItem) :
    Effect.put rec err ∉ (releaseLoop n o podinfo i items).1 := by
  induction items generalizing i with
  | nil => simp [releaseLoop]
  | cons it items ih =>
    simp only [releaseLoop]
    split_ifs
    · exact ih _
    · repeat' split
      all_goals simp [ih]

/-- The loop deletes only the pod's own record. -/
lemma delete_not_mem_releaseLoop (n : NetworkService) (o : ReleaseOutcomes) {podinfo : PodInfo}
    {k : String} (hk : k ≠ podinfo.key) (err : Option Err) (i : Nat) (items : List ResourceItem) :
    Effect.delete k err ∉ (releaseLoop n o podinfo i items).1 := fun he => by
  rcases mem_releaseLoop n o podinfo i items he with ⟨_, h⟩ | ⟨_, _, _, h⟩ <;> cases h
  exact hk rfl

/-- When every `Release` answers `nil` or `ErrInvalidState` and every delete succeeds, the
loop runs to its end, releases exactly the items whose type has a manager unless the pod is
sticky, and deletes the pod's record once it released one. -/
lemma releaseLoop_ok (n : NetworkService) (o : ReleaseOutcomes) (podinfo : PodInfo)
    (hrel : ∀ i, releaseOk (o.releaseErr i) = true) (hdel : ∀ i, o.deleteErr i = none)
    (i : Nat) (items : List ResourceItem) :
    (releaseLoop n o podinfo i items).2 = none ∧
      releasedItems (releaseLoop n o podinfo i items).1 =
        items.filter (fun it => n.getResourceManagerForRes it.type && podinfo.ipStickTime = 0) ∧
      (releasedItems (releaseLoop n o podinfo i items).1 ≠ [] →
        Effect.delete podinfo.key none ∈ (releaseLoop n o podinfo i items).1) := by
  induction items generalizing i with
  | nil => exact ⟨rfl, rfl, fun h => absurd rfl h⟩
  | cons it items ih =>
    obtain ⟨ih₁, ih₂, ih₃⟩ := ih (i + 1)
    have hkey : (n.getResourceManagerForRes it.type && decide (podinfo.ipStickTime = 0)) =
        !(!n.getResourceManagerForRes it.type || decide (podinfo.ipStickTime ≠ 0)) := by simp
    by_cases hskip : (!n.getResourceManagerForRes it.type || decide (podinfo.ipStickTime ≠ 0)) = true
    · simp only [releaseLoop, hskip, if_true, List.filter_cons, hkey, Bool.not_true]
      exact ⟨ih₁, ih₂, ih₃⟩
    · -- the item is released, its delete logged, and the loop goes on
      have hstep : releaseLoop n o podinfo i (it :: items) =
          (.release it (o.releaseErr i) :: .delete podinfo.key none ::
            (releaseLoop n o podinfo (i + 1) items).1, (releaseLoop n o podinfo (i + 1) items).2) := by
        simp only [releaseLoop, hskip, if_false]
        cases he : o.releaseErr i with
        | none => simp [he, hdel]
        | some e =>
          have hinv : e = .invalidState := by simpa [releaseOk, he] using hrel i
          simp [he, hdel, hinv]
      rw [hstep]
      refine ⟨ih₁, ?_, fun _ => List.mem_cons_of_mem _ (List.mem_cons_self _ _)⟩
      have ht : (n.getResourceManagerForRes it.type && decide (podinfo.ipStickTime = 0)) = true := by
        simpa using hskip
      simpa [releasedItems, Effect.releasedItem, List.filter_cons, ht] using ih₂

/-- When every `Release` answers `nil` or `ErrInvalidState`, every delete succeeds and the
loop releases an item, no record of the pod is left. -/
lemma releaseLoop_get (n : NetworkService) (o : ReleaseOutcomes) (podinfo : PodInfo)
    (hrel : ∀ i, releaseOk (o.releaseErr i) = true) (hdel : ∀ i, o.deleteErr i = none)
    (s : Store) (i : Nat) {items : List ResourceItem}
    (hne : releasedItems (releaseLoop n o podinfo i items).1 ≠ []) :
    (s.applyEffects (releaseLoop n o podinfo i items).1).get podinfo.key = none := by
  have hlog := releaseLoop_log n o podinfo hdel i items
  rw [Store.get_applyEffects_of_single_write s (w := .delete podinfo.key none) ?_
    ((releaseLoop_ok n o podinfo hrel hdel i items).2.2 hne)]
  · simp [Store.applyEffect]
  · intro e he hw
    rcases hlog e he with rfl | ⟨_, _, _, rfl, -⟩
    · rfl
    · cases hw

/-- The log of `ReleaseIP` is empty, or the loop over the items of the pod's record. -/
lemma releaseIP_effects_cases (n : NetworkService) (o : ReleaseOutcomes) (st : Store)
    (r : ReleaseIPRequest) :
    (releaseIP n o st r).effects = [] ∨ ∃ p rec, o.getPod = .ok p ∧ st.get p.key = some rec ∧
      (releaseIP n o st r).effects = (releaseLoop n o p 0 rec.resources).1 := by
  unfold releaseIP
  split
  · exact .inl rfl
  rename_i p hp
  split
  · exact .inl rfl
  rename_i oldRes hget
  have hloop : ∀ l : Handled ReleaseIPReply, l.effects = (releaseLoop n o p 0
      ((oldRes.map (·.resources)).getD [])).1 → l.effects = [] ∨ ∃ p' rec, o.getPod = .ok p' ∧
        st.get p'.key = some rec ∧ l.effects = (releaseLoop n o p' 0 rec.resources).1 := by
    intro l hl
    cases ho : oldRes with
    | none => simp [ho, releaseLoop] at hl; exact .inl hl
    | some rec =>
      simp only [getPodResource] at hget
      split at hget <;> cases hget
      exact .inr ⟨p, rec, hp, ho ▸ rfl, by simpa [ho] using hl⟩
  dsimp only
  split_ifs <;> first | exact .inl rfl | exact hloop _ (by split <;> rfl)

/-! ### The handler on a record -/

section Handler

variable {n : NetworkService} {o : ReleaseOutcomes} {st : Store} {r : ReleaseIPRequest}
  {p : PodInfo} {rec : PodResources}

/-- On a record of the request's sandbox, for a pod the mode serves, `ReleaseIP` runs its
loop over the record's items; when the loop finishes without error it succeeds, unless the
request is cancelled, and then it returns the cancellation error. -/
lemma releaseIP_of_record (hp : o.getPod = .ok p) (hg : o.getErr = none)
    (hv : n.verifyPodNetworkType p.podNetworkType = true) (hrec : st.get p.key = some rec)
    (hc : rec.containerID = some r.k8sPodInfraContainerId) :
    (releaseIP n o st r).effects = (releaseLoop n o p 0 rec.resources).1 ∧
      ((releaseLoop n o p 0 rec.resources).2 = none → o.cancelled = false →
        ∃ R, (releaseIP n o st r).reply = .ok R) ∧
      ((releaseLoop n o p 0 rec.resources).2 = none → o.cancelled = true →
        (releaseIP n o st r).reply =
          .error (.wrap "error on grpc connection" (.msg "context canceled"))) := by
  have hany : ((some rec).bind (·.containerID)).any (· ≠ r.k8sPodInfraContainerId) = false := by
    simp [hc]
  simp only [releaseIP, hp, getPodResource, hg, hrec, hv, hany, Bool.not_true, Bool.false_eq_true,
    if_false, Option.map_some', Option.getD_some]
  refine ⟨by split <;> (try split) <;> rfl, fun h0 hcan => ?_, fun h0 hcan => ?_⟩
  · simp only [h0, hcan, Bool.false_eq_true, if_false]
    exact ⟨_, rfl⟩
  · simp only [h0, hcan, if_true]

end Handler

/-! ### A failed `Release` after the record is gone -/

/-- The record of a pod holding an ENI-IP and an EIP. -/
def twoItemRecord : PodResources :=
  { podInfo := ⟨"default", "web-0", .eniMultiIP, false, true, 0, 0, "", 0, ⟨"10.0.0.9", ""⟩⟩
    resources := [⟨.eniIP, "eni-1.10.0.0.9"⟩, ⟨.eip, "eip-1"⟩]
    netNs := some "/proc/42/ns/net"
    containerID := some "c1" }

/-- `Release` of the ENI-IP succeeds and `Release` of the EIP fails. -/
def eipReleaseFails : ReleaseOutcomes where
  getPod := .ok twoItemRecord.podInfo
  getErr := none
  releaseErr := fun i => if i = 1 then some (.msg "eip busy") else none
  deleteErr := fun _ => none
  cancelled := false

/-- **`ReleaseIP` forgets an unreleased item.** With the stored container id and
`IPStickTime = 0`, the first item is released and the record deleted; the second item's
`Release` fails, the call returns the error, and the store holds no record for the pod, so the
EIP whose `Release` failed is recorded nowhere. -/
theorem releaseIP_forgets_failed_release :
    (releaseIP eipService eipReleaseFails (Store.empty.put twoItemRecord)
        ⟨"web-0", "default", "c1"⟩).reply =
      .error (.wrap "error release request network resource for" (.msg "eip busy")) ∧
    Effect.release ⟨.eip, "eip-1"⟩ (some (.msg "eip busy")) ∈
      (releaseIP eipService eipReleaseFails (Store.empty.put twoItemRecord)
        ⟨"web-0", "default", "c1"⟩).effects ∧
    ((Store.empty.put twoItemRecord).applyEffects (releaseIP eipService eipReleaseFails
      (Store.empty.put twoItemRecord) ⟨"web-0", "default", "c1"⟩).effects).get
        twoItemRecord.key = none := by
  refine ⟨rfl, by decide, ?_⟩
  simp only [releaseIP, eipReleaseFails, getPodResource, Store.get_put_self]
  decide

end Terway

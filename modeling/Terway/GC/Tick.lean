import Terway.GC.Classify
import Terway.Effect
import Terway.Service

/-!
One tick of the garbage-collection loop (`startGarbageCollectionLoop` of `daemon.go`,
spec §4.3), after its classification pass (`Terway.GC.Classify`): each manager's
`GarbageCollection`, then, when all of them succeeded, the route and rule cleanup of the
expired ENI-IPs and the deletion of the expired records.

The answers of the collaborators are an argument (`GCOutcomes`), and so are Go's iteration
order of the tick's maps (`MapOrder`) and `net.ParseCIDR`. The store lists its records in
the order of `Store.records`; `gcClassify_exact` shows that order does not matter. A call
on a `nil` manager panics, which ends the tick (and the daemon).

* `gcRound`: the `GarbageCollection` loop; `cleanupENIIP`: the cleanup loop; `gcTick`: the
  tick, returning its effects and whether it panicked.
* `gcTick_effects`: the effects of a tick that read the pods and the store: the sticky
  rewrites, the calls, and then the cleanup and the deletes exactly when no call failed.
* `gc_sticky_retention`: the two-phase retention of records over ticks.
-/

namespace Terway

/-- A pod of `GetLocalPods`: its name, and whether its sandbox has exited. -/
structure LocalPod where
  «namespace» : String
  name : String
  sandboxExited : Bool
  deriving DecidableEq, Repr

/-- `podKeyMap`: the keys of the node's pods whose sandbox has not exited. -/
def podKeyMap (pods : List LocalPod) : List String :=
  (pods.filter (!·.sandboxExited)).map fun p => podInfoKey p.namespace p.name

/-- Go's iteration order of the tick's maps: the keys of a map, listed in the order the
model keeps them, come out in some order, each once. -/
structure MapOrder where
  types : List ResourceType → List ResourceType
  ids : List String → List String
  types_perm : ∀ l, (types l).Perm l
  ids_perm : ∀ l, (ids l).Perm l

/-- The order in which the keys were first set. -/
def MapOrder.insertion : MapOrder := ⟨id, id, fun _ => .refl _, fun _ => .refl _⟩

/-- The reverse of that order. -/
def MapOrder.reversed : MapOrder :=
  ⟨List.reverse, List.reverse, List.reverse_perm, List.reverse_perm⟩

/-- The answers of the collaborators one tick talks to: the node's pods, the store's `List`
error, the `Put` of each sticky record (by key), each manager's `GarbageCollection` (by
type), and the `Delete` of each expired record (by key). -/
structure GCOutcomes where
  localPods : Except Err (List LocalPod)
  listErr : Option Err
  putErr : String → Option Err
  gcErr : ResourceType → Option Err
  deleteErr : String → Option Err

/-! ### The loops after the pass -/

/-- What the `GarbageCollection` loop did: its calls, whether none failed (`gcDone`), and
whether it panicked on a `nil` manager. -/
structure GCRound where
  calls : List Effect
  gcDone : Bool
  panicked : Bool

/-- The `GarbageCollection` loop over the types with an entry, in map order: the type's
manager gets the ids in use and expired, in map order; a type with no entry in
`mgrForResource` is skipped; a `nil` manager panics. -/
def gcRound (n : NetworkService) (ord : MapOrder) (o : GCOutcomes) (s : GCSets) :
    List ResourceType → GCRound
  | [] => ⟨[], true, false⟩
  | t :: ts =>
    match n.mgrForResource t with
    | .absent => gcRound n ord o s ts
    | .nilMgr => ⟨[], false, true⟩
    | .present =>
      let r := gcRound n ord o s ts
      ⟨.garbageCollection t (ord.ids (s.inUse t)) (ord.ids (s.expire t)) (o.gcErr t) :: r.calls,
        (o.gcErr t).isNone && r.gcDone, r.panicked⟩

/-- `strings.SplitAfterN(resID, ".", 2)[1]`: what follows the first `.` of an id, when it
has one. -/
def splitAfterDot (id : String) : Option String :=
  match id.toList.span (· ≠ '.') with
  | (_, []) => none
  | (_, _ :: rest) => some (String.mk rest)

/-- The route and rule cleanup of the expired ENI-IPs, in map order: an id without `.` is
skipped; an id whose suffix does not parse (`parseCIDR` of `suffix ++ "/32"`, which is
`net.ParseCIDR`) ends the loop with `return`; otherwise the rules and routes of the
address are deleted. -/
def cleanupENIIP (parseCIDR : String → Option String) : List String → List Effect
  | [] => []
  | id :: ids =>
    match splitAfterDot id with
    | none => cleanupENIIP parseCIDR ids
    | some ip =>
      match parseCIDR (ip ++ "/32") with
      | none => []
      | some addr => .deleteIPRulesByIP addr :: .deleteRouteByIP addr :: cleanupENIIP parseCIDR ids

/-- The cleanup after a tick whose calls all succeeded: over the expired ENI-IPs, when
`expireSet` has an entry for them. -/
def gcCleanup (ord : MapOrder) (parseCIDR : String → Option String) (s : GCSets) :
    List Effect :=
  if ResourceType.eniIP ∈ s.present then cleanupENIIP parseCIDR (ord.ids (s.expire .eniIP))
  else []

/-- How a tick ends: its effects, and whether it panicked. -/
structure TickResult where
  effects : List Effect
  panicked : Bool

/-- **One tick** of the loop: read the pods and the store (a failure ends the tick), the
pass (with the `Put` of each sticky record), the `GarbageCollection` loop, and, when no call
failed, the cleanup and the `Delete` of each expired record. -/
def gcTick (n : NetworkService) (ord : MapOrder) (parseCIDR : String → Option String)
    (o : GCOutcomes) (st : Store) : TickResult :=
  match o.localPods with
  | .error _ => ⟨[], false⟩
  | .ok pods =>
    match o.listErr with
    | some _ => ⟨[], false⟩
    | none =>
      let s := gcClassify (podKeyMap pods) st.records
      let puts := s.puts.map fun rec => Effect.put rec (o.putErr rec.key)
      let r := gcRound n ord o s (ord.types s.present)
      if r.panicked then ⟨puts ++ r.calls, true⟩
      else if r.gcDone then
        ⟨puts ++ r.calls ++ gcCleanup ord parseCIDR s ++
          s.relateExpireList.map fun k => .delete k (o.deleteErr k), false⟩
      else ⟨puts ++ r.calls, false⟩

/-- Whether an effect is a failed `GarbageCollection`. -/
def Effect.gcFailed : Effect → Bool
  | .garbageCollection _ _ _ (some _) => true
  | _ => false

section Round

variable {n : NetworkService} {ord : MapOrder} {o : GCOutcomes} {s : GCSets}

/-- Every call of the loop hands a type with a manager its ids in use and expired. -/
lemma mem_gcRound_calls {ts : List ResourceType} {e : Effect}
    (h : e ∈ (gcRound n ord o s ts).calls) :
    ∃ t ∈ ts, n.mgrForResource t = .present ∧
      e = .garbageCollection t (ord.ids (s.inUse t)) (ord.ids (s.expire t)) (o.gcErr t) := by
  induction ts with
  | nil => simp [gcRound] at h
  | cons t ts ih =>
    simp only [gcRound] at h
    split at h
    · obtain ⟨t', ht', hm, rfl⟩ := ih h
      exact ⟨t', List.mem_cons_of_mem _ ht', hm, rfl⟩
    · simp at h
    · rename_i hm
      rcases List.mem_cons.1 h with rfl | h
      · exact ⟨t, List.mem_cons_self _ _, hm, rfl⟩
      · obtain ⟨t', ht', hm', rfl⟩ := ih h
        exact ⟨t', List.mem_cons_of_mem _ ht', hm', rfl⟩

/-- The loop panics exactly when one of its types has a `nil` manager. -/
lemma gcRound_panicked_iff {ts : List ResourceType} :
    (gcRound n ord o s ts).panicked = true ↔ ∃ t ∈ ts, n.mgrForResource t = .nilMgr := by
  induction ts with
  | nil => simp [gcRound]
  | cons t ts ih =>
    simp only [gcRound]
    split <;> rename_i hm <;> simp [ih, hm]

/-- A loop that did not panic called every type of its list that has a manager. -/
lemma gcRound_call_mem {ts : List ResourceType} (hp : (gcRound n ord o s ts).panicked = false)
    {t : ResourceType} (ht : t ∈ ts) (hm : n.mgrForResource t = .present) :
    .garbageCollection t (ord.ids (s.inUse t)) (ord.ids (s.expire t)) (o.gcErr t) ∈
      (gcRound n ord o s ts).calls := by
  induction ts with
  | nil => simp at ht
  | cons t' ts ih =>
    simp only [gcRound] at hp ⊢
    split at hp <;> rename_i hm'
    · rcases List.mem_cons.1 ht with rfl | ht
      · rw [hm] at hm'; cases hm'
      · exact ih hp ht
    · cases hp
    · rcases List.mem_cons.1 ht with rfl | ht
      · exact List.mem_cons_self _ _
      · exact List.mem_cons_of_mem _ (ih hp ht)

/-- A loop that did not panic is done exactly when none of its calls failed. -/
lemma gcRound_gcDone_iff {ts : List ResourceType} (hp : (gcRound n ord o s ts).panicked = false) :
    (gcRound n ord o s ts).gcDone = true ↔ ∀ e ∈ (gcRound n ord o s ts).calls, e.gcFailed = false := by
  induction ts with
  | nil => simp [gcRound]
  | cons t ts ih =>
    simp only [gcRound] at hp ⊢
    split at hp
    · exact ih hp
    · cases hp
    · cases h : o.gcErr t <;> simp [ih hp, h, Effect.gcFailed]

/-- A loop neither panics nor fails exactly when no type of its list has a `nil` manager
and the `GarbageCollection` of every type with a manager succeeds. -/
lemma gcRound_ok_iff {ts : List ResourceType} :
    (gcRound n ord o s ts).panicked = false ∧ (gcRound n ord o s ts).gcDone = true ↔
      ∀ t ∈ ts, n.mgrForResource t ≠ .nilMgr ∧ (n.mgrForResource t = .present → o.gcErr t = none) := by
  induction ts with
  | nil => simp [gcRound]
  | cons t ts ih =>
    simp only [gcRound]
    split <;> rename_i hm
    · simpa [hm] using ih
    · simp [hm]
    · simp only [List.forall_mem_cons, ← ih, hm, Bool.and_eq_true, Option.isNone_iff_eq_none]
      simp only [ne_eq, reduceCtorEq, not_false_eq_true, forall_const, true_and]
      tauto

end Round

section Tick

variable (n : NetworkService) (ord : MapOrder) (parseCIDR : String → Option String)
  (o : GCOutcomes) (st : Store)

/-- A tick that could not read the node's pods or the store does nothing. -/
lemma gcTick_unobserved (h : (∃ e, o.localPods = .error e) ∨ ∃ e, o.listErr = some e) :
    gcTick n ord parseCIDR o st = ⟨[], false⟩ := by
  rcases h with ⟨e, he⟩ | ⟨e, he⟩
  · simp [gcTick, he]
  · unfold gcTick; split <;> simp [he]

/-- **The effects of a tick** that read the node's pods and the store: the `Put` of the
sticky records, the `GarbageCollection` calls, and, when none panicked or failed, the
cleanup and the `Delete` of the expired records. -/
lemma gcTick_effects {pods : List LocalPod} (hpods : o.localPods = .ok pods)
    (hlist : o.listErr = none) :
    let s := gcClassify (podKeyMap pods) st.records
    let r := gcRound n ord o s (ord.types s.present)
    (gcTick n ord parseCIDR o st).panicked = r.panicked ∧
    (gcTick n ord parseCIDR o st).effects =
      s.puts.map (fun rec => .put rec (o.putErr rec.key)) ++ r.calls ++
        (if r.panicked = false ∧ r.gcDone = true then
          gcCleanup ord parseCIDR s ++ s.relateExpireList.map fun k => .delete k (o.deleteErr k)
        else []) := by
  simp only [gcTick, hpods, hlist]
  split_ifs <;> simp_all

/-- The cleanup deletes rules and routes, nothing else. -/
lemma mem_cleanupENIIP {ids : List String} {e : Effect} (he : e ∈ cleanupENIIP parseCIDR ids) :
    ∃ a, e = .deleteIPRulesByIP a ∨ e = .deleteRouteByIP a := by
  induction ids with
  | nil => simp [cleanupENIIP] at he
  | cons id ids ih =>
    simp only [cleanupENIIP] at he
    split at he
    · exact ih he
    · split at he
      · simp at he
      · rename_i a _
        rcases List.mem_cons.1 he with rfl | he
        · exact ⟨a, .inl rfl⟩
        · rcases List.mem_cons.1 he with rfl | he
          · exact ⟨a, .inr rfl⟩
          · exact ih he

/-- The effects of a tick past its reads, sorted: a rewrite of a sticky record of an absent
pod, a call of the loop, a cleanup, or the delete of a queued record (only when the loop
neither panicked nor failed). -/
lemma mem_gcTick_effects {pods : List LocalPod} (hpods : o.localPods = .ok pods)
    (hlist : o.listErr = none) {e : Effect} (he : e ∈ (gcTick n ord parseCIDR o st).effects) :
    let s := gcClassify (podKeyMap pods) st.records
    let r := gcRound n ord o s (ord.types s.present)
    (∃ rec ∈ st.records, rec.key ∉ podKeyMap pods ∧ rec.podInfo.ipStickTime ≠ 0 ∧
      e = .put (stickSpent rec) (o.putErr rec.key)) ∨ e ∈ r.calls ∨
    (r.panicked = false ∧ r.gcDone = true ∧ ((∃ a, e = .deleteIPRulesByIP a ∨ e = .deleteRouteByIP a) ∨
      ∃ rec ∈ st.records, rec.key ∉ podKeyMap pods ∧ rec.podInfo.ipStickTime = 0 ∧
        e = .delete rec.key (o.deleteErr rec.key))) := by
  rw [(gcTick_effects n ord parseCIDR o st hpods hlist).2] at he
  simp only [List.mem_append, gcClassify_puts, List.map_map, List.mem_map, List.mem_filter,
    decide_eq_true_eq, Function.comp] at he
  rcases he with (⟨r, ⟨hr, hl, hs⟩, rfl⟩ | he) | he
  · exact .inl ⟨r, hr, hl, hs, rfl⟩
  · exact .inr (.inl he)
  · split_ifs at he with hb
    · refine .inr (.inr ⟨hb.1, hb.2, ?_⟩)
      simp only [List.mem_append, gcClassify_relateExpireList, List.map_map, List.mem_map,
        List.mem_filter, decide_eq_true_eq, Function.comp] at he
      rcases he with he | ⟨r, ⟨hr, hl, hs⟩, rfl⟩
      · unfold gcCleanup at he
        split_ifs at he
        · exact .inl (mem_cleanupENIIP parseCIDR he)
        · simp at he
      · exact .inr ⟨r, hr, hl, hs, rfl⟩
    · simp at he

/-- Every store write of a tick that read the pods and the store is the rewrite of a sticky
record of an absent pod, or the delete of a record of an absent pod that is not sticky. -/
lemma gcTick_writesKey {pods : List LocalPod} (hpods : o.localPods = .ok pods)
    (hlist : o.listErr = none) {e : Effect} {k : String}
    (he : e ∈ (gcTick n ord parseCIDR o st).effects) (hw : e.writesKey k = true) :
    ∃ r ∈ st.records, r.key = k ∧ r.key ∉ podKeyMap pods ∧
      (r.podInfo.ipStickTime ≠ 0 ∧ e = .put (stickSpent r) (o.putErr k) ∨
        r.podInfo.ipStickTime = 0 ∧ e = .delete k (o.deleteErr k)) := by
  rcases mem_gcTick_effects n ord parseCIDR o st hpods hlist he with
    ⟨r, hr, hl, hs, rfl⟩ | he | ⟨-, -, ⟨a, rfl | rfl⟩ | ⟨r, hr, hl, hs, rfl⟩⟩
  · have hk : r.key = k := by simp [Effect.writesKey] at hw; exact hw.2
    exact ⟨r, hr, hk, hl, .inl ⟨hs, by rw [hk]⟩⟩
  · obtain ⟨t, -, -, rfl⟩ := mem_gcRound_calls he
    cases hw
  · cases hw
  · cases hw
  · have hk : r.key = k := by simp [Effect.writesKey] at hw; exact hw.2
    exact ⟨r, hr, hk, hl, .inr ⟨hs, by rw [hk]⟩⟩

/-- A tick that could neither panic nor fail ran its calls to the end. -/
def TickResult.Succeeded (t : TickResult) : Prop :=
  t.panicked = false ∧ ∀ e ∈ t.effects, e.gcFailed = false

instance (t : TickResult) : Decidable t.Succeeded := inferInstanceAs (Decidable (_ ∧ _))

/-- A tick that read the pods and the store succeeded exactly when its loop neither panicked
nor failed. -/
lemma gcTick_succeeded_iff {pods : List LocalPod} (hpods : o.localPods = .ok pods)
    (hlist : o.listErr = none) :
    let s := gcClassify (podKeyMap pods) st.records
    let r := gcRound n ord o s (ord.types s.present)
    (gcTick n ord parseCIDR o st).Succeeded ↔ r.panicked = false ∧ r.gcDone = true := by
  intro s r
  obtain ⟨hp, heff⟩ := gcTick_effects n ord parseCIDR o st hpods hlist
  constructor
  · rintro ⟨hpan, hall⟩
    have hpan' : r.panicked = false := hp ▸ hpan
    exact ⟨hpan', (gcRound_gcDone_iff hpan').2 fun e he => hall e (by rw [heff]; simp [he])⟩
  · rintro ⟨hpan, hdone⟩
    refine ⟨hp ▸ hpan, fun e he => ?_⟩
    rcases mem_gcTick_effects n ord parseCIDR o st hpods hlist he with
      ⟨_, -, -, -, rfl⟩ | he | ⟨-, -, ⟨a, rfl | rfl⟩ | ⟨_, -, -, -, rfl⟩⟩
    · rfl
    · exact (gcRound_gcDone_iff hpan).1 hdone e he
    all_goals rfl

/-- A tick that read the pods and the store succeeds exactly when every item of every record
has a type whose entry is not a `nil` manager, and whose manager, if any, answers its
`GarbageCollection` without error: whatever order the store lists its records in, and
whatever order Go's maps give. -/
lemma gcTick_succeeded_iff_records {pods : List LocalPod} (hpods : o.localPods = .ok pods)
    (hlist : o.listErr = none) :
    (gcTick n ord parseCIDR o st).Succeeded ↔ ∀ rec ∈ st.records, ∀ it ∈ rec.resources,
      n.mgrForResource it.type ≠ .nilMgr ∧
        (n.mgrForResource it.type = .present → o.gcErr it.type = none) := by
  have hl := gcClassify_holds (podKeyMap pods) st.records
  refine (gcTick_succeeded_iff n ord parseCIDR o st hpods hlist).trans (gcRound_ok_iff.trans ?_)
  constructor
  · intro h rec hrec it hit
    exact h it.type ((ord.types_perm _).mem_iff.2 ((hl.present _).2 ⟨rec, hrec, it.id, hit⟩))
  · intro h t ht
    obtain ⟨rec, hrec, x, hx⟩ := (hl.present t).1 ((ord.types_perm _).mem_iff.1 ht)
    exact h rec hrec _ hx

/-! ### One record through one tick -/

variable {n ord parseCIDR o st} {rec : PodResources}

/-- A listed record with the key of `rec` is `rec`. -/
lemma eq_of_mem_records (hrec : st.get rec.key = some rec) {r : PodResources}
    (hr : r ∈ st.records) (hk : r.key = rec.key) : r = rec := by
  have h := Store.get_eq_some_iff.2 hr
  rw [hk, hrec] at h
  exact (Option.some.inj h).symm

/-- A tick leaves the record of a live pod as it is. -/
lemma gcTick_live (hrec : st.get rec.key = some rec) {pods : List LocalPod}
    (hpods : o.localPods = .ok pods) (hlive : rec.key ∈ podKeyMap pods) :
    (st.applyEffects (gcTick n ord parseCIDR o st).effects).get rec.key = some rec := by
  cases hlist : o.listErr with
  | some e => rw [gcTick_unobserved n ord parseCIDR o st (.inr ⟨e, hlist⟩)]; exact hrec
  | none =>
    rw [Store.get_applyEffects_of_not_writesKey _ fun e he => Bool.eq_false_iff.2 fun hw => ?_,
      hrec]
    obtain ⟨r, -, hk, hl, -⟩ := gcTick_writesKey n ord parseCIDR o st hpods hlist he hw
    exact hl (hk ▸ hlive)

/-- A tick that sees the pod of a sticky record absent rewrites it with `IPStickTime = 0`,
when its `Put` succeeds, and does not delete it. -/
lemma gcTick_sticky (hrec : st.get rec.key = some rec) {pods : List LocalPod}
    (hpods : o.localPods = .ok pods) (hlist : o.listErr = none)
    (habs : rec.key ∉ podKeyMap pods) (hs : rec.podInfo.ipStickTime ≠ 0) :
    (st.applyEffects (gcTick n ord parseCIDR o st).effects).get rec.key =
      some (if o.putErr rec.key = none then stickSpent rec else rec) := by
  have hmem : rec ∈ st.records := Store.get_eq_some_iff.1 hrec
  have hw : ∀ e ∈ (gcTick n ord parseCIDR o st).effects, e.writesKey rec.key = true →
      e = .put (stickSpent rec) (o.putErr rec.key) := by
    intro e he hw
    obtain ⟨r, hr, hk, -, ⟨-, rfl⟩ | ⟨hs', -⟩⟩ :=
      gcTick_writesKey n ord parseCIDR o st hpods hlist he hw
    · rw [eq_of_mem_records hrec hr hk]
    · exact absurd (eq_of_mem_records hrec hr hk ▸ hs') hs
  have hin : .put (stickSpent rec) (o.putErr rec.key) ∈ (gcTick n ord parseCIDR o st).effects := by
    rw [(gcTick_effects n ord parseCIDR o st hpods hlist).2]
    simp only [List.mem_append, gcClassify_puts, List.map_map, List.mem_map, List.mem_filter,
      decide_eq_true_eq, Function.comp]
    exact .inl (.inl ⟨rec, ⟨hmem, habs, hs⟩, rfl⟩)
  rw [Store.get_applyEffects_of_single_write _ hw hin]
  cases o.putErr rec.key
  · simpa [Store.applyEffect] using Store.get_put_self st (stickSpent rec)
  · simp [Store.applyEffect, hrec]

/-- The items of a record whose pod is live or that is sticky are in use in every call of
the tick, and never expired; a tick that does not panic calls every type of them that has
a manager. -/
lemma gcTick_in_use {pods : List LocalPod} (hpods : o.localPods = .ok pods)
    (hlist : o.listErr = none) (hmem : rec ∈ st.records)
    (hret : rec.key ∈ podKeyMap pods ∨ rec.podInfo.ipStickTime ≠ 0) {it : ResourceItem}
    (hit : it ∈ rec.resources) :
    (∀ i x r, .garbageCollection it.type i x r ∈ (gcTick n ord parseCIDR o st).effects →
      it.id ∈ i ∧ it.id ∉ x) ∧
    ((gcTick n ord parseCIDR o st).panicked = false → n.mgrForResource it.type = .present →
      ∃ i x r, .garbageCollection it.type i x r ∈ (gcTick n ord parseCIDR o st).effects) := by
  have hl := gcClassify_holds (podKeyMap pods) st.records
  have hK : it.id ∈ (gcClassify (podKeyMap pods) st.records).inUse it.type :=
    (hl.inUse _ _).2 ⟨rec, hmem, by simpa using hret, hit⟩
  have hE : it.id ∉ (gcClassify (podKeyMap pods) st.records).expire it.type :=
    fun h => ((hl.expire _ _).1 h).2 ((hl.inUse _ _).1 hK)
  obtain ⟨hp, heff⟩ := gcTick_effects n ord parseCIDR o st hpods hlist
  refine ⟨fun i x r he => ?_, fun hpan hm => ?_⟩
  · rcases mem_gcTick_effects n ord parseCIDR o st hpods hlist he with
      ⟨_, -, -, -, h⟩ | he | ⟨-, -, ⟨a, h | h⟩ | ⟨_, -, -, -, h⟩⟩
    · cases h
    · obtain ⟨t, -, -, h⟩ := mem_gcRound_calls he
      cases h
      exact ⟨(ord.ids_perm _).mem_iff.2 hK, fun h => hE ((ord.ids_perm _).mem_iff.1 h)⟩
    all_goals cases h
  · refine ⟨ord.ids ((gcClassify (podKeyMap pods) st.records).inUse it.type),
      ord.ids ((gcClassify (podKeyMap pods) st.records).expire it.type), o.gcErr it.type, ?_⟩
    rw [heff]
    refine List.mem_append_left _ (List.mem_append_right _ (gcRound_call_mem (hp ▸ hpan) ?_ hm))
    exact (ord.types_perm _).mem_iff.2 ((hl.present _).2 ⟨rec, hmem, it.id, hit⟩)

/-- A tick that sees the pod of a record that is not sticky absent attempts to delete it
exactly when it succeeds, and then the record is gone when the `Delete` succeeds. -/
lemma gcTick_expired (hrec : st.get rec.key = some rec) {pods : List LocalPod}
    (hpods : o.localPods = .ok pods) (hlist : o.listErr = none)
    (habs : rec.key ∉ podKeyMap pods) (hs : rec.podInfo.ipStickTime = 0) :
    ((∃ err, .delete rec.key err ∈ (gcTick n ord parseCIDR o st).effects) ↔
      (gcTick n ord parseCIDR o st).Succeeded) ∧
    (st.applyEffects (gcTick n ord parseCIDR o st).effects).get rec.key =
      if (gcTick n ord parseCIDR o st).Succeeded ∧ o.deleteErr rec.key = none then none
      else some rec := by
  have hmem : rec ∈ st.records := Store.get_eq_some_iff.1 hrec
  have hsucc := gcTick_succeeded_iff n ord parseCIDR o st hpods hlist
  obtain ⟨-, heff⟩ := gcTick_effects n ord parseCIDR o st hpods hlist
  have hdel : (gcTick n ord parseCIDR o st).Succeeded →
      .delete rec.key (o.deleteErr rec.key) ∈ (gcTick n ord parseCIDR o st).effects := by
    intro h
    rw [heff, if_pos (hsucc.1 h)]
    simp only [List.mem_append, gcClassify_relateExpireList, List.map_map, List.mem_map,
      List.mem_filter, decide_eq_true_eq, Function.comp]
    exact .inr (.inr ⟨rec, ⟨hmem, habs, hs⟩, rfl⟩)
  have hiff : (∃ err, .delete rec.key err ∈ (gcTick n ord parseCIDR o st).effects) ↔
      (gcTick n ord parseCIDR o st).Succeeded := by
    refine ⟨fun ⟨err, he⟩ => ?_, fun h => ⟨_, hdel h⟩⟩
    rcases mem_gcTick_effects n ord parseCIDR o st hpods hlist he with
      ⟨_, -, -, -, h⟩ | he | ⟨hpan, hdone, ⟨a, h | h⟩ | -⟩
    · cases h
    · obtain ⟨t, -, -, ⟨⟩⟩ := mem_gcRound_calls he
    · cases h
    · cases h
    · exact hsucc.2 ⟨hpan, hdone⟩
  refine ⟨hiff, ?_⟩
  have hw : ∀ e ∈ (gcTick n ord parseCIDR o st).effects, e.writesKey rec.key = true →
      e = .delete rec.key (o.deleteErr rec.key) := by
    intro e he hw
    obtain ⟨r, hr, hk, -, ⟨hs', -⟩ | ⟨-, rfl⟩⟩ :=
      gcTick_writesKey n ord parseCIDR o st hpods hlist he hw
    · exact absurd (eq_of_mem_records hrec hr hk ▸ hs) hs'
    · rfl
  by_cases h : (gcTick n ord parseCIDR o st).Succeeded
  · rw [Store.get_applyEffects_of_single_write _ hw (hdel h)]
    cases o.deleteErr rec.key <;> simp [Store.applyEffect, h, hrec]
  · rw [if_neg (fun h' => h h'.1), Store.get_applyEffects_of_not_writesKey _
      fun e he => Bool.eq_false_iff.2 fun hwk => h (hiff.1 ⟨_, hw e he hwk ▸ he⟩), hrec]

/-- **What a tick leaves under a key**, once it read the pods and the store: the record of a
live pod; the record of an absent sticky pod, rewritten when its `Put` succeeds; the record
of an absent pod that is not sticky, unless the tick and its `Delete` succeeded. -/
lemma gcTick_get {pods : List LocalPod} (hpods : o.localPods = .ok pods)
    (hlist : o.listErr = none) (k : String) :
    (st.applyEffects (gcTick n ord parseCIDR o st).effects).get k =
      (st.get k).bind fun rec =>
        if rec.key ∈ podKeyMap pods then some rec
        else if rec.podInfo.ipStickTime ≠ 0 then
          some (if o.putErr rec.key = none then stickSpent rec else rec)
        else if (gcTick n ord parseCIDR o st).Succeeded ∧ o.deleteErr rec.key = none then none
        else some rec := by
  cases hk : st.get k with
  | none =>
    rw [Store.get_applyEffects_of_not_writesKey _ fun e he => Bool.eq_false_iff.2 fun hw => ?_,
      hk]
    · rfl
    obtain ⟨r, hr, hrk, -⟩ := gcTick_writesKey n ord parseCIDR o st hpods hlist he hw
    exact Store.key_ne_of_get_eq_none hk hr hrk
  | some rec =>
    obtain rfl : rec.key = k := Store.key_of_get hk
    simp only [Option.some_bind]
    by_cases hlive : rec.key ∈ podKeyMap pods
    · rw [if_pos hlive]
      exact gcTick_live hk hpods hlive
    rw [if_neg hlive]
    by_cases hs : rec.podInfo.ipStickTime = 0
    · rw [if_neg (not_not.2 hs)]
      exact (gcTick_expired hk hpods hlist hlive hs).2
    · rw [if_pos hs]
      exact gcTick_sticky hk hpods hlist hlive hs
/-- Every record after a tick is a record the store held, with the same key and items; one
whose pod is absent and that is not sticky is left only by a tick that failed or whose
`Delete` failed. -/
lemma gcTick_records {pods : List LocalPod} (hpods : o.localPods = .ok pods)
    (hlist : o.listErr = none) {rec' : PodResources}
    (h : rec' ∈ (st.applyEffects (gcTick n ord parseCIDR o st).effects).records) :
    ∃ rec ∈ st.records, rec'.key = rec.key ∧ rec'.resources = rec.resources ∧
      ((gcTick n ord parseCIDR o st).Succeeded → o.deleteErr rec.key = none →
        rec.key ∈ podKeyMap pods ∨ rec.podInfo.ipStickTime ≠ 0) := by
  have hget := Store.get_eq_some_iff.2 h
  cases hst : st.get rec'.key with
  | none =>
    rw [Store.get_applyEffects_of_not_writesKey _ fun e he => Bool.eq_false_iff.2 fun hw => ?_,
      hst] at hget
    · cases hget
    obtain ⟨r, hr, hk, -⟩ := gcTick_writesKey n ord parseCIDR o st hpods hlist he hw
    exact Store.key_ne_of_get_eq_none hst hr hk
  | some rec =>
    have hk : rec.key = rec'.key := Store.key_of_get hst
    have hrec : st.get rec.key = some rec := hk ▸ hst
    refine ⟨rec, Store.get_eq_some_iff.1 hrec, hk.symm, ?_⟩
    rw [← hk] at hget
    by_cases hlive : rec.key ∈ podKeyMap pods
    · rw [gcTick_live hrec hpods hlive] at hget
      cases hget
      exact ⟨rfl, fun _ _ => .inl hlive⟩
    by_cases hs : rec.podInfo.ipStickTime = 0
    · rw [(gcTick_expired hrec hpods hlist hlive hs).2] at hget
      split_ifs at hget with hsd
      cases hget
      exact ⟨rfl, fun hsucc hdel => absurd ⟨hsucc, hdel⟩ hsd⟩
    · rw [gcTick_sticky hrec hpods hlist hlive hs] at hget
      refine ⟨?_, fun _ _ => .inr hs⟩
      split_ifs at hget <;> cases hget <;> rfl

end Tick

/-! ### Two-phase sticky retention -/

/-- The retention law of one tick for a record `rec` the store holds: the record of a live
pod is neither deleted nor rewritten; the record of an absent sticky pod is not deleted, is
rewritten with `IPStickTime = 0` when its `Put` succeeds, and its items are in use and never
expired in every call, and handed to the manager of their type when the tick does not
panic; the deletion of the record of an absent pod that is not sticky is attempted exactly
when the tick succeeds, and the record is gone when its `Delete` succeeds too. -/
structure TickRetention (n : NetworkService) (ord : MapOrder)
    (parseCIDR : String → Option String) (o : GCOutcomes) (st : Store) (rec : PodResources) :
    Prop where
  live : ∀ pods, o.localPods = .ok pods → rec.key ∈ podKeyMap pods →
    (st.applyEffects (gcTick n ord parseCIDR o st).effects).get rec.key = some rec
  sticky_kept : ∀ pods, o.localPods = .ok pods → o.listErr = none →
    rec.key ∉ podKeyMap pods → rec.podInfo.ipStickTime ≠ 0 →
    (st.applyEffects (gcTick n ord parseCIDR o st).effects).get rec.key =
      some (if o.putErr rec.key = none then stickSpent rec else rec)
  sticky_in_use : ∀ pods, o.localPods = .ok pods → o.listErr = none →
    rec.key ∉ podKeyMap pods → rec.podInfo.ipStickTime ≠ 0 → ∀ it ∈ rec.resources,
    (∀ i x r, .garbageCollection it.type i x r ∈ (gcTick n ord parseCIDR o st).effects →
      it.id ∈ i ∧ it.id ∉ x) ∧
    ((gcTick n ord parseCIDR o st).panicked = false → n.mgrForResource it.type = .present →
      ∃ i x r, .garbageCollection it.type i x r ∈ (gcTick n ord parseCIDR o st).effects)
  expired : ∀ pods, o.localPods = .ok pods → o.listErr = none →
    rec.key ∉ podKeyMap pods → rec.podInfo.ipStickTime = 0 →
    ((∃ err, .delete rec.key err ∈ (gcTick n ord parseCIDR o st).effects) ↔
      (gcTick n ord parseCIDR o st).Succeeded) ∧
    (st.applyEffects (gcTick n ord parseCIDR o st).effects).get rec.key =
      if (gcTick n ord parseCIDR o st).Succeeded ∧ o.deleteErr rec.key = none then none
      else some rec

/-- **Two-phase sticky retention** (spec §4.3): every tick, from every store and with every
outcome, keeps the retention law for every record the store holds; hence a sticky record
whose pod stays absent survives the tick that sees the absence and, when its rewrite
succeeded, is gone after the next tick that succeeds and deletes it. -/
theorem gc_sticky_retention (n : NetworkService) (ord : MapOrder)
    (parseCIDR : String → Option String) (st : Store) (rec : PodResources)
    (hrec : st.get rec.key = some rec) :
    (∀ o, TickRetention n ord parseCIDR o st rec) ∧
    ∀ o₁ o₂ pods₁ pods₂, o₁.localPods = .ok pods₁ → o₁.listErr = none →
      rec.key ∉ podKeyMap pods₁ → rec.podInfo.ipStickTime ≠ 0 →
      let st₁ := st.applyEffects (gcTick n ord parseCIDR o₁ st).effects
      st₁.get rec.key ≠ none ∧
      (o₁.putErr rec.key = none → o₂.localPods = .ok pods₂ → o₂.listErr = none →
        rec.key ∉ podKeyMap pods₂ → (gcTick n ord parseCIDR o₂ st₁).Succeeded →
        o₂.deleteErr rec.key = none →
        (st₁.applyEffects (gcTick n ord parseCIDR o₂ st₁).effects).get rec.key = none) := by
  have hmem : rec ∈ st.records := Store.get_eq_some_iff.1 hrec
  refine ⟨fun o => ⟨fun pods hp hl => gcTick_live hrec hp hl,
    fun pods hp hl ha hs => gcTick_sticky hrec hp hl ha hs,
    fun pods hp hl ha hs it hit => gcTick_in_use hp hl hmem (.inr hs) hit,
    fun pods hp hl ha hs => gcTick_expired hrec hp hl ha hs⟩, ?_⟩
  intro o₁ o₂ pods₁ pods₂ hp₁ hl₁ ha₁ hs st₁
  have h₁ : st₁.get rec.key = some (if o₁.putErr rec.key = none then stickSpent rec else rec) :=
    gcTick_sticky hrec hp₁ hl₁ ha₁ hs
  refine ⟨by simp [h₁], fun hput hp₂ hl₂ ha₂ hsucc hdel => ?_⟩
  rw [hput, if_pos rfl] at h₁
  have h₁' : st₁.get (stickSpent rec).key = some (stickSpent rec) := h₁
  have h₂ : (st₁.applyEffects (gcTick n ord parseCIDR o₂ st₁).effects).get rec.key =
      if (gcTick n ord parseCIDR o₂ st₁).Succeeded ∧ o₂.deleteErr rec.key = none then none
      else some (stickSpent rec) :=
    (gcTick_expired h₁' hp₂ hl₂ ha₂ rfl).2
  simpa [hsucc, hdel] using h₂

/-- A tick whose reads, `Put`s, calls and `Delete`s all succeed, with the node's pods. -/
def quietTick (pods : List LocalPod) : GCOutcomes :=
  ⟨.ok pods, none, fun _ => none, fun _ => none, fun _ => none⟩

/-- The record of a sticky `ENIMultiIP` pod holding an ENI-IP. -/
def stickyRecord : PodResources :=
  { podInfo := ⟨"default", "db-0", .eniMultiIP, false, false, 0, 0, "", 300, ⟨"10.0.0.7", ""⟩⟩
    resources := [⟨.eniIP, "eni-1.10.0.0.7"⟩]
    netNs := some "/proc/44/ns/net"
    containerID := some "c3" }

/-- The retention law for `stickyRecord`, over any tick. -/
theorem gc_sticky_retention_sample :
    (Store.empty.put stickyRecord).get stickyRecord.key = some stickyRecord ∧
      ∀ o, TickRetention eipService MapOrder.insertion (fun _ => none) o
        (Store.empty.put stickyRecord) stickyRecord :=
  ⟨Store.get_put_self _ _, (gc_sticky_retention eipService MapOrder.insertion (fun _ => none)
    (Store.empty.put stickyRecord) stickyRecord (Store.get_put_self _ _)).1⟩

end Terway

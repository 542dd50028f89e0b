import Terway.Store

/-!
What a handler does to its collaborators, as a log: each call to a resource manager or to
the store, with the outcome the collaborator returned. A handler of the model returns its
reply together with this log, and the store after the call is the log applied to the store
before it (`Store.applyEffects`); the resource pools of `Terway.Pool` read the same log.

* `Effect`: `Allocate`, `Release`, `GarbageCollection`, store `Put` and `Delete`, and the
  Kubernetes and kernel side effects the handlers make.
* `Store.applyEffect`: a `Put` or `Delete` that succeeded changes the store, nothing else
  does; `applyEffects_append` splits a log.
* `get_applyEffects_of_single_write`: a log whose only write of a key is one effect leaves
  under that key what the effect alone would.
* `allocatedItems`, `releasedItems`: the items the log's successful `Allocate` calls
  produced, and the items passed to `Release`.
-/

namespace Terway

/-- One call a handler makes, with what the collaborator returned (`none` for `nil`).
`allocate t pod priorID result` asks the manager of `t` for a resource for `pod`, passing
the id it held before; `result` is the id of what it handed out. -/
inductive Effect
  | allocate (t : ResourceType) (pod : String) (priorID : String) (result : Option String)
  | release (item : ResourceItem) (result : Option Err)
  | garbageCollection (t : ResourceType) (inUse expired : List String) (result : Option Err)
  | put (r : PodResources) (result : Option Err)
  | delete (key : String) (result : Option Err)
  | patchPodIPInfo (ips : String)
  | deleteIPRulesByIP (addr : String)
  | deleteRouteByIP (addr : String)
  deriving DecidableEq, Repr

namespace Store

/-- The store after one effect: a successful `Put` or `Delete` writes, nothing else does. -/
def applyEffect (s : Store) : Effect → Store
  | .put r none => s.put r
  | .delete k none => s.delete k
  | _ => s

/-- The store after a log of effects, in order. -/
def applyEffects (s : Store) (es : List Effect) : Store := es.foldl applyEffect s

@[simp] lemma applyEffects_nil (s : Store) : s.applyEffects [] = s := rfl

@[simp] lemma applyEffects_cons (s : Store) (e : Effect) (es : List Effect) :
    s.applyEffects (e :: es) = (s.applyEffect e).applyEffects es := rfl

@[simp] lemma applyEffects_append (s : Store) (es es' : List Effect) :
    s.applyEffects (es ++ es') = (s.applyEffects es).applyEffects es' := by
  simp [applyEffects, List.foldl_append]

end Store

/-- Whether an effect writes to the store. -/
def Effect.writesStore : Effect → Bool
  | .put _ _ => true
  | .delete _ _ => true
  | _ => false

/-- An effect that does not write the store leaves it as it was. -/
lemma Store.applyEffect_of_not_writes (s : Store) {e : Effect} (h : e.writesStore = false) :
    s.applyEffect e = s := by
  cases e <;> first | rfl | cases h

/-- A log without store writes leaves the store as it was. -/
lemma Store.applyEffects_of_not_writes (s : Store) {es : List Effect}
    (h : ∀ e ∈ es, e.writesStore = false) : s.applyEffects es = s := by
  induction es generalizing s with
  | nil => rfl
  | cons e es ih =>
    rw [Store.applyEffects_cons, s.applyEffect_of_not_writes (h e (List.mem_cons_self _ _)),
      ih _ fun e' he' => h e' (List.mem_cons_of_mem _ he')]

/-! ### Reading one key after a log -/

/-- Whether an effect writes the store's entry of key `k`. -/
def Effect.writesKey (k : String) : Effect → Bool
  | .put r res => res.isNone && r.key = k
  | .delete k' res => res.isNone && k' = k
  | _ => false

/-- An effect that writes `k` is a successful `Put` of a record of key `k` or a successful
`Delete` of `k`. -/
lemma Effect.eq_of_writesKey {e : Effect} {k : String} (h : e.writesKey k = true) :
    (∃ r : PodResources, r.key = k ∧ e = .put r none) ∨ e = .delete k none := by
  cases e with
  | put r res =>
    cases res with
    | none => exact .inl ⟨r, of_decide_eq_true h, rfl⟩
    | some _ => cases h
  | delete k' res =>
    cases res with
    | none => exact .inr (by rw [of_decide_eq_true h])
    | some _ => cases h
  | _ => cases h

namespace Store

lemma get_applyEffect_of_not_writesKey (s : Store) {e : Effect} {k : String}
    (h : e.writesKey k = false) : (s.applyEffect e).get k = s.get k := by
  cases e with
  | put r res =>
    cases res with
    | none => exact get_put_ne s r (of_decide_eq_false h)
    | some _ => rfl
  | delete k' res =>
    cases res with
    | none => exact get_delete_ne s (of_decide_eq_false h)
    | some _ => rfl
  | _ => rfl

lemma get_applyEffects_of_not_writesKey (s : Store) {es : List Effect} {k : String}
    (h : ∀ e ∈ es, e.writesKey k = false) : (s.applyEffects es).get k = s.get k := by
  induction es generalizing s with
  | nil => rfl
  | cons e es ih =>
    rw [applyEffects_cons, ih _ fun e' he' => h e' (List.mem_cons_of_mem _ he'),
      get_applyEffect_of_not_writesKey _ (h e (List.mem_cons_self _ _))]

/-- What an effect leaves under `k` depends only on what was there. -/
lemma get_applyEffect_congr {s₁ s₂ : Store} {k : String} (h : s₁.get k = s₂.get k) (e : Effect) :
    (s₁.applyEffect e).get k = (s₂.applyEffect e).get k := by
  cases hw : e.writesKey k with
  | false => rw [get_applyEffect_of_not_writesKey _ hw, get_applyEffect_of_not_writesKey _ hw, h]
  | true =>
    rcases Effect.eq_of_writesKey hw with ⟨r, rfl, rfl⟩ | rfl
    · exact (get_put_self _ _).trans (get_put_self _ _).symm
    · exact (get_delete_self _ _).trans (get_delete_self _ _).symm

/-- What a log leaves under `k` depends only on what was there. -/
lemma get_applyEffects_congr {s₁ s₂ : Store} {k : String} (h : s₁.get k = s₂.get k)
    (es : List Effect) : (s₁.applyEffects es).get k = (s₂.applyEffects es).get k := by
  induction es generalizing s₁ s₂ with
  | nil => exact h
  | cons e es ih => exact ih (get_applyEffect_congr h e)

lemma get_applyEffect_twice (s : Store) (e : Effect) (k : String) :
    ((s.applyEffect e).applyEffect e).get k = (s.applyEffect e).get k := by
  cases hw : e.writesKey k with
  | false => rw [get_applyEffect_of_not_writesKey _ hw]
  | true =>
    rcases Effect.eq_of_writesKey hw with ⟨r, rfl, rfl⟩ | rfl
    · exact (get_put_self _ _).trans (get_put_self _ _).symm
    · exact (get_delete_self _ _).trans (get_delete_self _ _).symm

/-- A record after an effect was there before, or the effect is its successful `Put`. -/
lemma mem_records_applyEffect {s : Store} {e : Effect} {rec : PodResources}
    (h : rec ∈ (s.applyEffect e).records) : rec ∈ s.records ∨ e = .put rec none := by
  unfold applyEffect at h
  split at h
  · rcases List.mem_cons.1 h with rfl | h
    · exact .inr rfl
    · exact .inl (List.mem_of_mem_filter h)
  · exact .inl (List.mem_of_mem_filter h)
  · exact .inl h

/-- A record after a log was there before, or one of the log's `Put`s wrote it. -/
lemma mem_records_applyEffects {s : Store} {es : List Effect} {rec : PodResources}
    (h : rec ∈ (s.applyEffects es).records) : rec ∈ s.records ∨ Effect.put rec none ∈ es := by
  induction es generalizing s with
  | nil => exact .inl h
  | cons e es ih =>
    rcases ih h with h | h
    · rcases mem_records_applyEffect h with h | rfl
      · exact .inl h
      · exact .inr (List.mem_cons_self _ _)
    · exact .inr (List.mem_cons_of_mem _ h)

/-- When every write of key `k` in a log is the effect `w`, and `w` is in the log, the log
leaves under `k` what `w` alone would. -/
lemma get_applyEffects_of_single_write (s : Store) {es : List Effect} {k : String} {w : Effect}
    (hw : ∀ e ∈ es, e.writesKey k = true → e = w) (hmem : w ∈ es) :
    (s.applyEffects es).get k = (s.applyEffect w).get k := by
  by_cases hwk : w.writesKey k = true
  · induction es generalizing s with
    | nil => simp at hmem
    | cons e es ih =>
      have hw' : ∀ e' ∈ es, e'.writesKey k = true → e' = w :=
        fun e' he' => hw e' (List.mem_cons_of_mem _ he')
      rw [applyEffects_cons]
      by_cases he : e.writesKey k = true
      · obtain rfl := hw e (List.mem_cons_self _ _) he
        by_cases hin : e ∈ es
        · rw [ih _ hw' hin, get_applyEffect_twice]
        · exact get_applyEffects_of_not_writesKey _ fun e' he' =>
            Bool.eq_false_iff.2 fun h => hin (hw' e' he' h ▸ he')
      · have hin : w ∈ es := (List.mem_cons.1 hmem).resolve_left fun h => he (h ▸ hwk)
        rw [ih _ hw' hin]
        exact get_applyEffect_congr (get_applyEffect_of_not_writesKey _ (by simpa using he)) w
  · have hno : ∀ e ∈ es, e.writesKey k = false :=
      fun e he => Bool.eq_false_iff.2 fun h => hwk (hw e he h ▸ h)
    rw [get_applyEffects_of_not_writesKey _ hno,
      get_applyEffect_of_not_writesKey _ (by simpa using hwk)]

end Store

/-! ### Allocations and releases of a log -/

/-- The item a successful `Allocate` produced. -/
def Effect.allocatedItem : Effect → Option ResourceItem
  | .allocate t _ _ (some id) => some ⟨t, id⟩
  | _ => none

/-- The item passed to `Release`. -/
def Effect.releasedItem : Effect → Option ResourceItem
  | .release item _ => some item
  | _ => none

/-- The items a log's successful `Allocate` calls produced, in order. -/
def allocatedItems (es : List Effect) : List ResourceItem := es.filterMap Effect.allocatedItem

/-- The items a log passed to `Release`, in order. -/
def releasedItems (es : List Effect) : List ResourceItem := es.filterMap Effect.releasedItem

@[simp] lemma allocatedItems_append (es es' : List Effect) :
    allocatedItems (es ++ es') = allocatedItems es ++ allocatedItems es' :=
  List.filterMap_append ..

@[simp] lemma releasedItems_append (es es' : List Effect) :
    releasedItems (es ++ es') = releasedItems es ++ releasedItems es' :=
  List.filterMap_append ..

end Terway

import Terway.WriteLock

/-!
The calls of `AllocIP` and `ReleaseIP` make progress (`daemon.go`, spec §5). The gate turns
a call away rather than making it wait, and a call past it makes its store calls and leaves
on its own: so no interleaving gets stuck, the GC tick is never locked out for good, and
calls run one at a time are each let in and do what the handlers do one after another.

* `Conc.ReachableTicks.exists_unlocked`: from every state of every interleaving with ticks,
  some schedule returns every call, and then no call holds the read lock.
* `Conc.run_alone`: a call whose key is not pending, run alone from its gate, is let in,
  makes its whole log on the store it reads, and leaves with its key no longer pending.
* `interleaving_one_at_a_time`: run one at a time in their order, every call is let in, and
  the store is the serial run of all of them.
-/

namespace Terway

/-! ### Every interleaving can finish -/

namespace Conc

variable {n : NetworkService} {env : NodeEnv} {calls : List PodCall} {st : Store} {s : Conc}
  {i : Nat} {c : PodCall} {inv : Invocation}

lemma run_append (s : Conc) (sched sched' : List Nat) :
    s.run n env calls (sched ++ sched') = (s.run n env calls sched).run n env calls sched' :=
  List.foldl_append ..

/-- A step moves no call to another handler. -/
lemma map_call_step (s : Conc) (i j : Nat) :
    ((s.step n env calls i).gate.procs[j]?).map Invocation.call =
      (s.gate.procs[j]?).map Invocation.call := by
  rcases step_cases n env calls s i with h | ⟨_, _, -, -, h⟩
  · rw [h]
  rcases h with ⟨-, -, h⟩ | ⟨-, -, h⟩ | ⟨-, -, h⟩ | ⟨_, _, -, -, h⟩ | ⟨-, -, h⟩ <;>
    rw [h] <;> exact GateState.map_call_step _ i j

/-- The gate's calls are the calls in every interleaving with ticks. -/
lemma ReachableTicks.tracks {evs : List Event} (hs : s.ReachableTicks n env calls st evs)
    (i : Nat) : (s.gate.procs[i]?).map Invocation.call = (calls[i]?).map PodCall.call := by
  induction hs with
  | init => simp [Conc.init, GateState.init, Option.map_map, Function.comp_def]
  | step j _ ih => exact (map_call_step _ j i).trans ih
  | tick _ _ _ _ _ ih => exact ih

/-- In every interleaving with ticks, only a call inside its body has store calls left. -/
lemma ReachableTicks.todo_body {evs : List Event} (hs : s.ReachableTicks n env calls st evs)
    (i : Nat) (todo : List Effect) (ht : s.todo i = some todo) :
    ∃ inv ∈ s.gate.procs[i]?, inv.phase = .body := by
  induction hs generalizing todo with
  | init => exact nomatch ht
  | @step s _ j _ ih =>
    rcases step_cases n env calls s j with h | ⟨c, inv, -, hj, h⟩
    · rw [h] at ht ⊢
      exact ih todo ht
    by_cases hij : i = j
    · subst hij
      rcases h with ⟨hp, -, h⟩ | ⟨hp, -, h⟩ | ⟨hp, -, h⟩ | ⟨_, _, hp, -, h⟩ | ⟨-, -, h⟩ <;>
        rw [h] at ht ⊢
      · -- the gate: a call at its gate has no store calls left
        obtain ⟨inv', hi', hb'⟩ := ih todo ht
        cases hj.symm.trans hi'
        simp [hp] at hb'
      · obtain ⟨inv', hi', hb'⟩ := ih todo ht
        cases hj.symm.trans hi'
        simp [hp] at hb'
      · exact ⟨inv, hj, hp⟩
      · exact ⟨inv, hj, hp⟩
      · simp at ht
    · rcases h with ⟨-, -, h⟩ | ⟨-, -, h⟩ | ⟨-, -, h⟩ | ⟨_, _, -, -, h⟩ | ⟨-, -, h⟩ <;>
        rw [h] at ht ⊢ <;>
        simp only [GateState.getElem?_step_ne _ hij, Function.update_noteq hij] at ht ⊢ <;>
        exact ih todo ht
  | tick _ _ _ _ _ ih => exact ih todo ht

/-- A returned call stays returned: no step moves it. -/
lemma getElem?_step_of_returned {j : Nat} (hj : s.gate.procs[j]? = some inv)
    (hr : inv.phase.returned = true) (i : Nat) :
    (s.step n env calls i).gate.procs[j]? = some inv := by
  rcases step_cases n env calls s i with h | ⟨c, inv', -, hi, h⟩
  · rw [h, hj]
  by_cases hji : j = i
  · subst hji
    obtain rfl := Option.some.inj (hi.symm.trans hj)
    rcases h with ⟨hp, -⟩ | ⟨hp, -⟩ | ⟨hp, -⟩ | ⟨_, _, hp, -⟩ | ⟨hp, -⟩ <;>
      simp [hp, Phase.returned] at hr
  · rcases h with ⟨-, -, h⟩ | ⟨-, -, h⟩ | ⟨-, -, h⟩ | ⟨_, _, -, -, h⟩ |
      ⟨-, -, h⟩ <;> rw [h] <;> simp only [GateState.getElem?_step_ne _ hji, hj]

lemma getElem?_run_of_returned {j : Nat} (hj : s.gate.procs[j]? = some inv)
    (hr : inv.phase.returned = true) (sched : List Nat) :
    (s.run n env calls sched).gate.procs[j]? = some inv := by
  induction sched generalizing s with
  | nil => exact hj
  | cons i sched ih => exact ih (getElem?_step_of_returned hj hr i)

/-- A call inside its body with `todo` left returns once it has taken `todo.length + 1`
steps alone. -/
lemma returns_of_todo (n : NetworkService) (env : NodeEnv) (hc : calls[i]? = some c)
    (todo : List Effect) {s : Conc} (hi : s.gate.procs[i]? = some inv) (hb : inv.phase = .body)
    (ht : s.todo i = some todo) :
    ∃ inv' ∈ (s.run n env calls (List.replicate (todo.length + 1) i)).gate.procs[i]?,
      inv'.phase.returned = true := by
  induction todo generalizing s with
  | nil =>
    refine ⟨{ inv with phase := .done }, ?_, rfl⟩
    simp only [List.replicate, run, List.foldl, step, hc, hi, advance, hb, ht]
    exact GateState.getElem?_step_of_body hi hb
  | cons e es ih =>
    refine ih (s := s.step n env calls i) ?_ ?_
    · simp only [step, hc, hi, advance, hb, ht]
    · simp only [step, hc, hi, advance, hb, ht, Function.update_same]

/-- **Every call can run to its return alone**, from any state: a few steps of call `i`
and nothing else return it. -/
lemma exists_returned (n : NetworkService) (env : NodeEnv) (hc : calls[i]? = some c) {s : Conc}
    (hi : s.gate.procs[i]? = some inv) :
    ∃ k, ∃ inv' ∈ (s.run n env calls (List.replicate k i)).gate.procs[i]?,
      inv'.phase.returned = true := by
  have hbody : ∀ {s : Conc} {inv : Invocation}, s.gate.procs[i]? = some inv →
      inv.phase = .body →
        ∃ k, ∃ inv' ∈ (s.run n env calls (List.replicate k i)).gate.procs[i]?,
          inv'.phase.returned = true := fun {s inv} hi hb => by
    cases ht : s.todo i with
    | some todo => exact ⟨_, returns_of_todo n env hc todo hi hb ht⟩
    | none =>
      obtain ⟨inv', hinv', hr⟩ := returns_of_todo n env (s := s.step n env calls i) hc
        (c.effects n env s.store) (by simp only [step, hc, hi, advance, hb, ht]) hb
        (by simp only [step, hc, hi, advance, hb, ht, Function.update_same])
      exact ⟨(c.effects n env s.store).length + 1 + 1, inv', hinv', hr⟩
  cases hp : inv.phase with
  | body => exact hbody hi hp
  | rejected e => exact ⟨0, inv, hi, by simp [hp, Phase.returned]⟩
  | done => exact ⟨0, inv, hi, by simp [hp, Phase.returned]⟩
  | start =>
    have hs : (s.step n env calls i).gate = s.gate.step i := by
      simp only [step, hc, hi, advance, hp]
    rcases GateState.getElem?_step_of_start hi hp with h | ⟨e, h⟩ <;> rw [← hs] at h
    · obtain ⟨k, hk⟩ := hbody h rfl
      exact ⟨k + 1, hk⟩
    · exact ⟨1, _, h, rfl⟩

/-- In an interleaving with ticks, the call `j` is there exactly when the gate has it. -/
lemma ReachableTicks.isSome_iff {evs : List Event} (hs : s.ReachableTicks n env calls st evs)
    (j : Nat) : (s.gate.procs[j]?).isSome ↔ (calls[j]?).isSome := by
  have h := hs.tracks j
  cases hp : s.gate.procs[j]? <;> cases hc : calls[j]? <;> simp_all

/-- **Run lemma**: from any state of an interleaving with ticks, some schedule returns the
calls below `m`, each run alone to its return in turn. -/
lemma ReachableTicks.exists_returned_lt {evs : List Event}
    (hs : s.ReachableTicks n env calls st evs) (m : Nat) :
    ∃ sched, ∀ j : Nat, j < m → ∀ inv : Invocation,
      (s.run n env calls sched).gate.procs[j]? = some inv → inv.phase.returned = true := by
  induction m with
  | zero => exact ⟨[], fun j hj => absurd hj (Nat.not_lt_zero j)⟩
  | succ m ih =>
    obtain ⟨sched, hsched⟩ := ih
    obtain ⟨_, hr⟩ := hs.run sched
    cases hm : (s.run n env calls sched).gate.procs[m]? with
    | none =>
      refine ⟨sched, fun j hj => ?_⟩
      rcases Nat.lt_succ_iff_lt_or_eq.1 hj with hj | rfl
      · exact hsched j hj
      · simp [hm]
    | some inv =>
      obtain ⟨c, hc⟩ := Option.isSome_iff_exists.1 ((hr.isSome_iff m).1 (by simp [hm]))
      obtain ⟨k, inv', hinv', hret⟩ := exists_returned n env hc hm
      obtain ⟨_, hr'⟩ := hr.run (List.replicate k m)
      refine ⟨sched ++ List.replicate k m, fun j hj inv₀ hinv₀ => ?_⟩
      rw [run_append] at hinv₀
      rcases Nat.lt_succ_iff_lt_or_eq.1 hj with hj | rfl
      · obtain ⟨inv₁, hinv₁⟩ := Option.isSome_iff_exists.1 ((hr.isSome_iff j).2
          ((hr'.isSome_iff j).1 (by simp [hinv₀])))
        have hret₁ := hsched j hj inv₁ hinv₁
        rw [getElem?_run_of_returned hinv₁ hret₁] at hinv₀
        exact Option.some.inj hinv₀ ▸ hret₁
      · exact Option.some.inj (hinv₀.symm.trans hinv') ▸ hret

/-- **No interleaving gets stuck, and the GC tick is never locked out**: from every state of
every interleaving of `AllocIP`, `ReleaseIP` and GC ticks, some schedule returns every call,
and then no call holds the read lock, so a tick can take the write lock. The gate turns a
call away rather than making it wait, and a call past it makes its store calls and leaves on
its own, so the calls can be run to their return one after another. -/
lemma ReachableTicks.exists_unlocked {evs : List Event}
    (hs : s.ReachableTicks n env calls st evs) :
    ∃ sched, (∀ inv ∈ (s.run n env calls sched).gate.procs, inv.phase.returned = true) ∧
      (s.run n env calls sched).Unlocked := by
  obtain ⟨sched, hsched⟩ := hs.exists_returned_lt calls.length
  obtain ⟨_, hr⟩ := hs.run sched
  have hret : ∀ inv ∈ (s.run n env calls sched).gate.procs, inv.phase.returned = true :=
    fun inv hinv => by
      obtain ⟨j, hj⟩ := List.mem_iff_getElem?.1 hinv
      obtain ⟨c, hc⟩ := Option.isSome_iff_exists.1 ((hr.isSome_iff j).1 (by simp [hj]))
      exact hsched j (List.getElem?_eq_some_iff.1 hc).1 inv hj
  refine ⟨sched, hret, fun i todo ht => ?_⟩
  obtain ⟨inv, hi, hb⟩ := hr.todo_body i todo ht
  simpa [hb, Phase.returned] using hret inv (List.getElem?_mem hi)

end Conc

/-! ### One call at a time -/

namespace Conc

variable {n : NetworkService} {env : NodeEnv} {calls : List PodCall} {s : Conc} {i : Nat}
  {c : PodCall} {inv : Invocation}

/-- A call inside its body with `todo` left makes those store calls, in order, in
`todo.length` steps alone. -/
lemma run_todo (s : Conc) (hc : calls[i]? = some c) (hi : s.gate.procs[i]? = some inv)
    (hb : inv.phase = .body) (todo : List Effect) (ht : s.todo i = some todo) :
    s.run n env calls (List.replicate todo.length i) =
      { s with
        store := s.store.applyEffects todo
        todo := Function.update s.todo i (some []) } := by
  induction todo generalizing s with
  | nil =>
    rw [← ht, Function.update_eq_self]
    rfl
  | cons e es ih =>
    have hstep : s.step n env calls i =
        { s with store := s.store.applyEffect e, todo := Function.update s.todo i (some es) } := by
      simp only [step, hc, hi, advance, hb, ht]
    show (s.step n env calls i).run n env calls (List.replicate es.length i) = _
    rw [hstep, ih]
    · simp only [Function.update_idem, Store.applyEffects_cons]
    · exact hi
    · exact Function.update_same _ _ _

/-- **A call alone**: a call at its gate whose key is not pending is let in, reads the store,
makes its whole log on it and leaves, in steps of its own; its key is then no longer
pending, and it has no store calls left. -/
lemma run_alone (n : NetworkService) (env : NodeEnv) (hc : calls[i]? = some c)
    (hi : s.gate.procs[i]? = some inv) (hs : inv.phase = .start)
    (hk : inv.key ∉ s.gate.pending.keys) (ht : s.todo i = none) :
    ∃ sched,
      (s.run n env calls sched).gate.procs = s.gate.procs.set i { inv with phase := .done } ∧
      (s.run n env calls sched).gate.pending.keys = s.gate.pending.keys ∧
      (s.run n env calls sched).todo = s.todo ∧
      (s.run n env calls sched).store = s.store.applyEffects (c.effects n env s.store) ∧
      (s.run n env calls sched).admitted = s.admitted ++ [i] := by
  have hG := GateState.step_of_not_mem hi hs hk
  have hb : (s.gate.step i).procs[i]? = some { inv with phase := .body } := by
    rw [hG]
    exact (GateState.getElem?_set_of_some hi _ i).trans (if_pos rfl)
  -- the gate lets it in, and it reads the store
  set L := c.effects n env s.store
  set s₂ : Conc := { s with
    gate := s.gate.step i
    todo := Function.update s.todo i (some L)
    admitted := s.admitted ++ [i] }
  have h₂ : s.run n env calls [i, i] = s₂ := by
    have h₁ : s.step n env calls i =
        { s with gate := s.gate.step i, admitted := s.admitted ++ [i] } := by
      simp only [step, hc, hi, advance, hs, gate_eq_ok hk]
    show (s.step n env calls i).step n env calls i = _
    rw [h₁]
    simp only [step, hc, hb, advance, ht, s₂, L]
  -- its store calls
  set s₃ : Conc :=
    { s₂ with store := s.store.applyEffects L, todo := Function.update s₂.todo i (some []) }
  have h₃ : s₂.run n env calls (List.replicate L.length i) = s₃ :=
    run_todo s₂ hc hb rfl L (Function.update_same _ _ _)
  -- its exit
  have h₄ : ∀ t : Conc, t.gate.procs[i]? = some { inv with phase := .body } →
      t.todo i = some [] → t.run n env calls [i] =
        { t with gate := t.gate.step i, todo := Function.update t.todo i none } :=
    fun t hb ht => by simp only [run, List.foldl, step, hc, hb, advance, ht]
  refine ⟨[i, i] ++ List.replicate L.length i ++ [i], ?_⟩
  rw [run_append, run_append, h₂, h₃, h₄ s₃ hb (Function.update_same _ _ _)]
  refine ⟨?_, ?_, ?_, rfl, rfl⟩
  · show ((s.gate.step i).step i).procs = _
    rw [GateState.step_of_body hb rfl, hG]
    exact List.set_set ..
  · show ((s.gate.step i).step i).pending.keys = _
    rw [GateState.step_of_body hb rfl, hG]
    exact List.erase_cons_head ..
  · show Function.update (Function.update (Function.update s.todo i _) i _) i none = _
    rw [Function.update_idem, Function.update_idem, ← ht, Function.update_eq_self]

/-- The state once the calls below `m` have run one at a time from the store `st`: they
returned from their body and the others have not started; no key is pending and no call
has store calls left; the gate let in the first `m`, in order; and the store is their serial
run. -/
structure Served (n : NetworkService) (env : NodeEnv) (calls : List PodCall) (st : Store)
    (m : Nat) (s : Conc) : Prop where
  procs : ∀ j : Nat, s.gate.procs[j]? =
    (calls[j]?).map fun c => ⟨c.call, if j < m then .done else .start⟩
  pending : s.gate.pending.keys = []
  todo : s.todo = fun _ => none
  admitted : s.admitted = List.range m
  store : s.store = serialRun n env (calls.take m) st

namespace Served

variable {st : Store} {m : Nat}

lemma init (calls : List PodCall) (st : Store) : Served n env calls st 0 (Conc.init calls st) where
  procs j := by simp [Conc.init, GateState.init, Option.map_map, Function.comp_def]
  pending := rfl
  todo := rfl
  admitted := rfl
  store := rfl

/-- **Step lemma**: the next call, run alone, is let in and adds its log to the serial run. -/
lemma next (h : Served n env calls st m s) (hm : m < calls.length) :
    ∃ sched, Served n env calls st (m + 1) (s.run n env calls sched) := by
  obtain ⟨c, hc⟩ : ∃ c, calls[m]? = some c := ⟨_, List.getElem?_eq_getElem hm⟩
  have hi : s.gate.procs[m]? = some ⟨c.call, .start⟩ := by
    simp [h.procs m, hc]
  obtain ⟨sched, hprocs, hpending, htodo, hstore, hadm⟩ := run_alone n env hc hi rfl
    (by simp [h.pending]) (by simp [h.todo])
  refine ⟨sched, fun j => ?_, hpending.trans h.pending, htodo.trans h.todo, ?_, ?_⟩
  · rw [hprocs, GateState.getElem?_set_of_some hi, h.procs j]
    by_cases hj : j = m
    · subst hj
      simp [hc]
    · simp only [hj, if_false, Nat.lt_succ_iff_lt_or_eq, or_false]
  · rw [hadm, h.admitted, List.range_succ]
  · rw [hstore, h.store, List.take_succ, hc, Option.toList_some, serialRun_append_singleton]

end Served

/-- **Run lemma**: some schedule runs the calls below `m` one at a time. -/
lemma exists_served (n : NetworkService) (env : NodeEnv) (calls : List PodCall) (st : Store)
    (m : Nat) (hm : m ≤ calls.length) :
    ∃ sched, Served n env calls st m ((Conc.init calls st).run n env calls sched) := by
  induction m with
  | zero => exact ⟨[], Served.init calls st⟩
  | succ m ih =>
    obtain ⟨sched, h⟩ := ih (Nat.le_of_succ_le hm)
    obtain ⟨sched', h'⟩ := h.next hm
    exact ⟨sched ++ sched', by rw [run_append]; exact h'⟩

end Conc

/-- **Calls one at a time are the sequential daemon**: run one after another in their order,
each to its return before the next starts, every call of `AllocIP` and `ReleaseIP` is let in
and returns from its body, and the store is the serial run of all of them, as the daemon's
handlers apply them in sequence. -/
theorem interleaving_one_at_a_time (n : NetworkService) (env : NodeEnv) (calls : List PodCall)
    (st : Store) :
    ∃ sched, (∀ inv ∈ ((Conc.init calls st).run n env calls sched).gate.procs,
        inv.phase = .done) ∧
      ((Conc.init calls st).run n env calls sched).admitted = List.range calls.length ∧
      ((Conc.init calls st).run n env calls sched).store = serialRun n env calls st := by
  obtain ⟨sched, h⟩ := Conc.exists_served n env calls st calls.length le_rfl
  refine ⟨sched, fun inv hinv => ?_, h.admitted, by rw [h.store, List.take_length]⟩
  obtain ⟨j, hj⟩ := List.mem_iff_getElem?.1 hinv
  rw [h.procs j] at hj
  obtain ⟨c, hc, rfl⟩ := Option.map_eq_some'.1 hj
  obtain ⟨hlt, -⟩ := List.getElem?_eq_some_iff.1 hc
  simp [hlt]

/-- Run one at a time, both calls of `eipCalls` are let in (an interleaving can turn the
`ReleaseIP` away), and the `ReleaseIP` deletes the record the `AllocIP` put. -/
theorem interleaving_one_at_a_time_eip :
    ∃ sched, ((Conc.init eipCalls Store.empty).run eipService plainNode eipCalls sched).admitted =
        [0, 1] ∧
      ((Conc.init eipCalls Store.empty).run eipService plainNode eipCalls sched).store.get
        eipPod.key = none := by
  obtain ⟨sched, -, hadm, hstore⟩ :=
    interleaving_one_at_a_time eipService plainNode eipCalls Store.empty
  exact ⟨sched, hadm, by rw [hstore]; decide⟩

end Terway

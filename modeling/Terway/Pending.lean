import Terway.ReleaseIP

/-!
The pending-pod gate of `AllocIP` and `ReleaseIP` (`daemon.go`, spec §5): each call first
runs `pendingPods.LoadOrStore(podInfoKey(ns, name), struct{}{})`, returns the error
`pod <key> resource processing` when the key was loaded, and otherwise defers
`pendingPods.Delete` of the key and runs its body. No other code writes `pendingPods`
(`Trace` only counts it).

The calls run concurrently: a state holds the pending set and where each call is, a step is
the next step of one call, and a schedule (a list of call indices) is an interleaving. The
body does not touch the gate, so it is one phase, of any length, between the gate's two
steps; the deferred `Delete` runs on every way out of the body.

* `PendingSet`: the keys of the `sync.Map`, without duplicates by construction.
* `gate`: the `LoadOrStore` test with its error.
* `GateState.step`, `GateState.run`: one call's next step, and a schedule.
* `GateInv`: at most one call per key inside its body, and a key is pending exactly when
  some call is inside its body for it; `GateInv.step` keeps it, `GateInv.run` over every
  schedule.
* `pending_removed_by_body_exit`: a step that removes a key is the exit of the call inside
  its body for that key.
* `pending_gate_mutual_exclusion`: the gate's law over every set of calls and every
  interleaving.
-/

namespace Terway

/-! ### The pending set -/

/-- The keys of `pendingPods`, a `sync.Map` whose values are all `struct{}{}`. -/
structure PendingSet where
  keys : List String
  nodup : keys.Nodup

/-- The empty `sync.Map` the service starts with. -/
def PendingSet.empty : PendingSet := ⟨[], List.nodup_nil⟩

/-- `LoadOrStore(key, struct{}{})`: whether the key was loaded, and the map after. -/
def PendingSet.loadOrStore (s : PendingSet) (k : String) : Bool × PendingSet :=
  if h : k ∈ s.keys then (true, s) else (false, ⟨k :: s.keys, List.nodup_cons.2 ⟨h, s.nodup⟩⟩)

/-- `Delete(key)`. -/
def PendingSet.delete (s : PendingSet) (k : String) : PendingSet :=
  ⟨s.keys.erase k, s.nodup.erase k⟩

/-- The gate at the top of `AllocIP` and `ReleaseIP`: the map after a `LoadOrStore` that
stored the key, or the error the call returns when it loaded it. -/
def gate (s : PendingSet) (k : String) : Except Err PendingSet :=
  let (exist, s') := s.loadOrStore k
  if exist then .error (.msg ("pod " ++ k ++ " resource processing")) else .ok s'

lemma gate_eq_ok {s : PendingSet} {k : String} (h : k ∉ s.keys) :
    gate s k = .ok ⟨k :: s.keys, List.nodup_cons.2 ⟨h, s.nodup⟩⟩ := by
  simp [gate, PendingSet.loadOrStore, h]

lemma gate_of_mem {s : PendingSet} {k : String} (h : k ∈ s.keys) :
    gate s k = .error (.msg ("pod " ++ k ++ " resource processing")) := by
  simp [gate, PendingSet.loadOrStore, h]

/-! ### Calls and their steps -/

/-- A call of one of the two gated handlers. -/
inductive Call
  | allocIP (r : AllocIPRequest)
  | releaseIP (r : ReleaseIPRequest)
  deriving DecidableEq, Repr

/-- The key the call's gate uses: `podInfoKey` of the request's namespace and name. -/
def Call.key : Call → String
  | .allocIP r => podInfoKey r.k8sPodNamespace r.k8sPodName
  | .releaseIP r => podInfoKey r.k8sPodNamespace r.k8sPodName

/-- Where a call is: before the gate, inside its body, returned with the gate's error, or
returned from its body after the deferred `Delete`. -/
inductive Phase
  | start
  | body
  | rejected (e : Err)
  | done
  deriving DecidableEq, Repr

/-- A call and where it is. -/
structure Invocation where
  call : Call
  phase : Phase
  deriving DecidableEq, Repr

/-- The key of the invocation's call. -/
abbrev Invocation.key (inv : Invocation) : String := inv.call.key

/-- The pending set and the calls, by index. -/
structure GateState where
  pending : PendingSet
  procs : List Invocation

/-- No call has started and no key is pending. -/
def GateState.init (calls : List Call) : GateState :=
  ⟨.empty, calls.map (⟨·, .start⟩)⟩

/-- The next step of call `i`, which is at `inv`: the gate, which moves it into its body
or rejects it; the exit of its body with the deferred `Delete`; nothing once it returned. -/
def GateState.advance (s : GateState) (i : Nat) (inv : Invocation) : GateState :=
  match inv.phase with
  | .start =>
    match gate s.pending inv.key with
    | .error e => { s with procs := s.procs.set i { inv with phase := .rejected e } }
    | .ok p => ⟨p, s.procs.set i { inv with phase := .body }⟩
  | .body => ⟨s.pending.delete inv.key, s.procs.set i { inv with phase := .done }⟩
  | .rejected _ => s
  | .done => s

/-- Call `i` takes its next step; an index with no call changes nothing. -/
def GateState.step (s : GateState) (i : Nat) : GateState :=
  match s.procs[i]? with
  | none => s
  | some inv => s.advance i inv

/-- The state after a schedule: the calls take their steps in the schedule's order. -/
def GateState.run (s : GateState) (sched : List Nat) : GateState := sched.foldl step s

/-- Call `i` is inside its body for key `k`. -/
def GateState.InBody (s : GateState) (i : Nat) (k : String) : Prop :=
  ∃ inv ∈ s.procs[i]?, inv.phase = .body ∧ inv.key = k

namespace GateState

variable {s : GateState} {i : Nat} {inv : Invocation}

lemma step_eq (hi : s.procs[i]? = some inv) : s.step i = s.advance i inv := by
  simp [step, hi]

/-- A call inside its body for `k` is at the body, with key `k`. -/
lemma InBody.of_get {k : String} (hi : s.procs[i]? = some inv) (h : s.InBody i k) :
    inv.phase = .body ∧ inv.key = k := by
  obtain ⟨inv₀, h₀, hb, hk⟩ := h
  obtain rfl := Option.some.inj (hi.symm.trans (Option.mem_def.1 h₀))
  exact ⟨hb, hk⟩

@[simp] lemma run_nil (s : GateState) : s.run [] = s := rfl

@[simp] lemma run_cons (s : GateState) (i : Nat) (sched : List Nat) :
    s.run (i :: sched) = (s.step i).run sched := rfl

/-- Moving call `i` to `inv'` leaves every other call where it was. -/
lemma inBody_set (hi : s.procs[i]? = some inv) (p : PendingSet) (inv' : Invocation)
    (j : Nat) (k : String) :
    InBody ⟨p, s.procs.set i inv'⟩ j k ↔
      (j = i ∧ inv'.phase = .body ∧ inv'.key = k) ∨ (j ≠ i ∧ s.InBody j k) := by
  have hlt : i < s.procs.length := by
    by_contra h
    simp [List.getElem?_eq_none (Nat.le_of_not_lt h)] at hi
  by_cases hj : j = i
  · subst hj
    simp [InBody, List.getElem?_set, hlt]
  · simp [InBody, List.getElem?_set_ne (Ne.symm hj), hj]

/-- A call that is not inside its body before or after its step leaves `InBody` as it was. -/
lemma inBody_set_of_not_body (hi : s.procs[i]? = some inv) (hb : inv.phase ≠ .body)
    (p : PendingSet) {inv' : Invocation} (hb' : inv'.phase ≠ .body) (j : Nat) (k : String) :
    InBody ⟨p, s.procs.set i inv'⟩ j k ↔ s.InBody j k := by
  rw [inBody_set hi]
  constructor
  · rintro (⟨-, h, -⟩ | ⟨-, h⟩)
    · exact absurd h hb'
    · exact h
  · intro h
    refine .inr ⟨?_, h⟩
    rintro rfl
    exact hb (InBody.of_get hi h).1

end GateState

/-! ### The invariant -/

/-- **The gate's invariant**: at most one call per key is inside its body, and a key is
pending exactly when some call is inside its body for it. -/
structure GateInv (s : GateState) : Prop where
  exclusive : ∀ i j k, s.InBody i k → s.InBody j k → i = j
  pending_iff : ∀ k, k ∈ s.pending.keys ↔ ∃ i, s.InBody i k

namespace GateInv

open GateState

variable {s : GateState} {i : Nat} {inv : Invocation}

lemma init (calls : List Call) : GateInv (GateState.init calls) := by
  have hb : ∀ j k, ¬(GateState.init calls).InBody j k := by
    rintro j k ⟨inv, h, hb, -⟩
    simp only [GateState.init, List.getElem?_map, Option.mem_def, Option.map_eq_some'] at h
    obtain ⟨c, -, rfl⟩ := h
    cases hb
  exact ⟨fun j _ k h => absurd h (hb j k),
    fun k => ⟨fun h => absurd h (List.not_mem_nil _), fun ⟨j, hj⟩ => absurd hj (hb j k)⟩⟩

/-- A step that changes neither the pending set nor whether any call is inside its body. -/
lemma of_iff {s' : GateState} (h : GateInv s) (hp : s'.pending.keys = s.pending.keys)
    (hb : ∀ j k, s'.InBody j k ↔ s.InBody j k) : GateInv s' :=
  ⟨fun j j' k h₁ h₂ => h.exclusive j j' k ((hb _ _).1 h₁) ((hb _ _).1 h₂),
    fun k => by simp only [hp, h.pending_iff, hb]⟩

/-- The gate lets call `i` into its body: its key was not pending, so no call was inside
its body for it. -/
lemma enter (h : GateInv s) (hi : s.procs[i]? = some inv) (hs : inv.phase = .start)
    (hk : inv.key ∉ s.pending.keys) :
    GateInv ⟨⟨inv.key :: s.pending.keys, List.nodup_cons.2 ⟨hk, s.pending.nodup⟩⟩,
      s.procs.set i { inv with phase := .body }⟩ := by
  have hfree : ∀ j, ¬s.InBody j inv.key := fun j hj => hk ((h.pending_iff _).2 ⟨j, hj⟩)
  constructor
  · intro j j' k h₁ h₂
    rw [inBody_set hi] at h₁ h₂
    rcases h₁ with ⟨rfl, -, rfl⟩ | ⟨-, h₁⟩ <;> rcases h₂ with ⟨rfl, -, hk₂⟩ | ⟨-, h₂⟩
    · rfl
    · exact absurd h₂ (hfree j')
    · exact absurd (hk₂ ▸ h₁) (hfree j)
    · exact h.exclusive j j' k h₁ h₂
  · intro k
    simp only [List.mem_cons, h.pending_iff, inBody_set hi]
    constructor
    · rintro (rfl | ⟨j, hj⟩)
      · exact ⟨i, .inl ⟨rfl, trivial, rfl⟩⟩
      · refine ⟨j, .inr ⟨?_, hj⟩⟩
        rintro rfl
        cases hs ▸ (InBody.of_get hi hj).1
    · rintro ⟨j, ⟨-, -, rfl⟩ | ⟨-, hj⟩⟩
      · exact .inl rfl
      · exact .inr ⟨j, hj⟩

/-- Call `i` leaves its body and deletes its key: no other call was inside its body for it. -/
lemma leave (h : GateInv s) (hi : s.procs[i]? = some inv) (hb : inv.phase = .body) :
    GateInv ⟨s.pending.delete inv.key, s.procs.set i { inv with phase := .done }⟩ := by
  have hmine : s.InBody i inv.key := ⟨inv, hi, hb, rfl⟩
  have hset : ∀ j k, InBody ⟨s.pending.delete inv.key, s.procs.set i { inv with phase := .done }⟩
      j k ↔ j ≠ i ∧ s.InBody j k := fun j k => by
    rw [inBody_set hi]
    simp
  constructor
  · intro j j' k h₁ h₂
    exact h.exclusive j j' k ((hset _ _).1 h₁).2 ((hset _ _).1 h₂).2
  · intro k
    refine s.pending.nodup.mem_erase_iff.trans ⟨?_, ?_⟩
    · rintro ⟨hne, hk⟩
      obtain ⟨j, hj⟩ := (h.pending_iff k).1 hk
      refine ⟨j, (hset j k).2 ⟨?_, hj⟩⟩
      rintro rfl
      exact hne (InBody.of_get hi hj).2.symm
    · rintro ⟨j, hj⟩
      obtain ⟨hji, hj⟩ := (hset j k).1 hj
      exact ⟨fun hk => hji (h.exclusive j i k hj (hk ▸ hmine)), (h.pending_iff k).2 ⟨j, hj⟩⟩

/-- **Step lemma**: every step of every call keeps the invariant. -/
lemma step (h : GateInv s) (i : Nat) : GateInv (s.step i) := by
  cases hi : s.procs[i]? with
  | none => simpa [GateState.step, hi] using h
  | some inv =>
    rw [step_eq hi]
    unfold advance
    split
    · rename_i hs
      split
      · exact h.of_iff rfl (inBody_set_of_not_body hi (by simp [hs]) _ (by simp))
      · rename_i p hg
        by_cases hk : inv.key ∈ s.pending.keys
        · simp [gate_of_mem hk] at hg
        · rw [gate_eq_ok hk] at hg
          cases hg
          exact h.enter hi hs hk
    · exact h.leave hi ‹_›
    · exact h
    · exact h

/-- **Run lemma**: the invariant holds after every schedule. -/
lemma run (h : GateInv s) (sched : List Nat) : GateInv (s.run sched) := by
  induction sched generalizing s with
  | nil => exact h
  | cons i sched ih => exact ih (h.step i)

end GateInv

/-! ### Who removes a key -/

namespace GateState

variable {s : GateState} {i : Nat} {inv : Invocation}

/-- A returned call's step changes nothing. -/
lemma step_of_rejected (hi : s.procs[i]? = some inv) {e : Err} (hr : inv.phase = .rejected e) :
    s.step i = s := by
  rw [step_eq hi, advance, hr]

/-- The only step that removes a key from the pending set is the exit of the call inside its
body for that key: the gate only adds, and a rejected or returned call changes nothing. -/
lemma pending_removed_by_body_exit {k : String} (hk : k ∈ s.pending.keys)
    (hk' : k ∉ (s.step i).pending.keys) : s.InBody i k := by
  cases hi : s.procs[i]? with
  | none => simp [step, hi] at hk'; exact absurd hk hk'
  | some inv =>
    rw [step_eq hi] at hk'
    unfold advance at hk'
    split at hk'
    · split at hk'
      · exact absurd hk hk'
      · rename_i p hg
        by_cases hm : inv.key ∈ s.pending.keys
        · simp [gate_of_mem hm] at hg
        · rw [gate_eq_ok hm] at hg
          cases hg
          exact absurd (List.mem_cons_of_mem _ hk) hk'
    · rename_i hb
      have hki : k = inv.key := by
        by_contra hne
        exact hk' (s.pending.nodup.mem_erase_iff.2 ⟨hne, hk⟩)
      exact ⟨inv, hi, hb, hki.symm⟩
    · exact absurd hk hk'
    · exact absurd hk hk'

end GateState

/-- **Per-pod mutual exclusion** (spec §5): for every set of calls of `AllocIP` and
`ReleaseIP`, on any pods, and every interleaving of their steps, at most one call per key is
inside its body, a key is pending exactly when some call is inside its body for it, the
only step that removes a key is the exit of that call, and a rejected call takes no further
step. -/
theorem pending_gate_mutual_exclusion (calls : List Call) (sched : List Nat) :
    let s := (GateState.init calls).run sched
    (∀ i j k, s.InBody i k → s.InBody j k → i = j) ∧
    (∀ k, k ∈ s.pending.keys ↔ ∃ i, s.InBody i k) ∧
    (∀ i k, k ∈ s.pending.keys → k ∉ (s.step i).pending.keys → s.InBody i k) ∧
    (∀ i inv e, s.procs[i]? = some inv → inv.phase = .rejected e → s.step i = s) := by
  have h := (GateInv.init calls).run sched
  exact ⟨h.exclusive, h.pending_iff, fun _ _ => GateState.pending_removed_by_body_exit,
    fun _ _ _ hi hr => GateState.step_of_rejected hi hr⟩

/-- Two `AllocIP` calls for `default/web-0`: the second to reach the gate is rejected while the
first is inside its body, and passes once the first has returned. -/
example :
    let c := Call.allocIP ⟨"web-0", "default", "c1", "/proc/42/ns/net", "eth0"⟩
    ((GateState.init [c, c]).run [0, 1]).procs.map (·.phase) =
        [.body, .rejected (.msg "pod default/web-0 resource processing")] ∧
      ((GateState.init [c, c]).run [0, 0, 1]).procs.map (·.phase) = [.done, .body] := by
  decide

end Terway

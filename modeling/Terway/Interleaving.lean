import Terway.PodCall

/-!
`AllocIP` and `ReleaseIP` running at once (`daemon.go`, spec §5). Both take the service's
read lock (`n.RLock()`), so any number of them run together, and only the pending-pod gate
keeps two calls for one pod apart; the GC tick takes the write lock and runs alone. Past
its gate a call reads its pod's record once (`getPodResource`), and then makes its store
calls one at a time, between the store calls of the other calls.

The state is the gate's state of `Terway/Pending.lean` with the store added: the gate moves
only by `GateState.step`, and a call inside its body reads the store in a step of its own,
which fixes every store call it makes (the rest of what it does depends on its
collaborators' answers only), then makes them one per step before it leaves its body. A call
reads and writes only its own pod's record (`Terway/PodCall.lean`), and the gate lets one
call at a time hold a pod's key, so every interleaving does what the calls do one after
another, in the order the gate let them in.

* `Conc.step`, `Conc.Reachable`: one step of one call, and every interleaving.
* `ConcShape`: the gate's invariant, and that only a call inside its body has read its
  record and has store calls left, of its own key only; each kind of step keeps it.
* `ConcInv`: the shape, and at every key, the store once the call holding the key (if any)
  has made its remaining store calls is the serial run's; `ConcInv.step` keeps it.
* `interleaving_serializable`: once every call has returned, the store agrees at every key
  with the serial run of the calls the gate let in, each once, in the order it let them in.
-/

namespace Terway

/-! ### The calls at once -/

/-- The call has returned: with the gate's error, or from its body. -/
def Phase.returned : Phase → Bool
  | .rejected _ | .done => true
  | _ => false

/-- The gate's state; the store; for each call inside its body that has read its record,
the store calls it has still to make; and the calls the gate let in, in the order it let
them in. -/
structure Conc where
  gate : GateState
  store : Store
  todo : Nat → Option (List Effect)
  admitted : List Nat

/-- No call has started, on the store `st`. -/
def Conc.init (calls : List PodCall) (st : Store) : Conc :=
  ⟨GateState.init (calls.map PodCall.call), st, fun _ => none, []⟩

/-- The store calls a call inside its body still makes on the store `st`: its whole log
before it reads its record, what is left of it after. -/
def PodCall.remaining (n : NetworkService) (env : NodeEnv) (c : PodCall) (st : Store) :
    Option (List Effect) → List Effect
  | none => c.effects n env st
  | some todo => todo

section Steps

variable (n : NetworkService) (env : NodeEnv) (calls : List PodCall)

/-- Call `i`, which is `c` at `inv`, takes its next step: its gate, which lets it in or
rejects it; the read of its record, which fixes its store calls; its next store call; or the
exit from its body with the deferred `Delete`. A returned call changes nothing. -/
def Conc.advance (s : Conc) (i : Nat) (c : PodCall) (inv : Invocation) : Conc :=
  match inv.phase, s.todo i with
  | .start, _ =>
    { s with
      gate := s.gate.step i
      admitted :=
        match Terway.gate s.gate.pending inv.key with
        | .ok _ => s.admitted ++ [i]
        | .error _ => s.admitted }
  | .body, none => { s with todo := Function.update s.todo i (some (c.effects n env s.store)) }
  | .body, some (e :: es) =>
    { s with store := s.store.applyEffect e, todo := Function.update s.todo i (some es) }
  | .body, some [] => { s with gate := s.gate.step i, todo := Function.update s.todo i none }
  | _, _ => s

/-- Call `i` takes its next step; an index with no call changes nothing. -/
def Conc.step (s : Conc) (i : Nat) : Conc :=
  match calls[i]?, s.gate.procs[i]? with
  | some c, some inv => s.advance n env i c inv
  | _, _ => s

/-- The states of every interleaving of the calls from the store `st`. -/
inductive Conc.Reachable (st : Store) : Conc → Prop
  | init : Conc.Reachable st (Conc.init calls st)
  | step {s : Conc} (i : Nat) : Conc.Reachable st s → Conc.Reachable st (s.step n env calls i)

/-- The state after a schedule: the calls take their steps in the schedule's order. -/
def Conc.run (s : Conc) (sched : List Nat) : Conc := sched.foldl (Conc.step n env calls) s

/-- The calls the gate let in, in the order it let them in. -/
def Conc.admittedCalls (s : Conc) : List PodCall := s.admitted.filterMap fun i => calls[i]?

end Steps

section Run

variable {n : NetworkService} {env : NodeEnv} {calls : List PodCall} {st : Store}

/-- Every schedule's run is an interleaving. -/
lemma Conc.Reachable.run {s : Conc} (h : s.Reachable n env calls st) (sched : List Nat) :
    (s.run n env calls sched).Reachable n env calls st := by
  induction sched generalizing s with
  | nil => exact h
  | cons i sched ih => exact ih (.step i h)

end Run

/-! ### What one step does -/

namespace Conc

variable (n : NetworkService) (env : NodeEnv) (calls : List PodCall) (s : Conc)

/-- **What a step can do**: nothing; the gate, which lets the call in (the key was not
pending) or rejects it; the read of its record; its next store call; or its exit. -/
lemma step_cases (i : Nat) :
    s.step n env calls i = s ∨
    ∃ c inv, calls[i]? = some c ∧ s.gate.procs[i]? = some inv ∧
      (inv.phase = .start ∧ inv.key ∈ s.gate.pending.keys ∧
          s.step n env calls i = { s with gate := s.gate.step i } ∨
        inv.phase = .start ∧ inv.key ∉ s.gate.pending.keys ∧
          s.step n env calls i = { s with gate := s.gate.step i, admitted := s.admitted ++ [i] } ∨
        inv.phase = .body ∧ s.todo i = none ∧
          s.step n env calls i =
            { s with todo := Function.update s.todo i (some (c.effects n env s.store)) } ∨
        (∃ e es, inv.phase = .body ∧ s.todo i = some (e :: es) ∧
          s.step n env calls i =
            { s with store := s.store.applyEffect e, todo := Function.update s.todo i (some es) }) ∨
        inv.phase = .body ∧ s.todo i = some [] ∧
          s.step n env calls i =
            { s with gate := s.gate.step i, todo := Function.update s.todo i none }) := by
  unfold step
  split
  · rename_i c inv hc hi
    unfold advance
    split
    · by_cases hk : inv.key ∈ s.gate.pending.keys
      · exact .inr ⟨c, inv, hc, hi, .inl ⟨‹_›, hk, by simp [gate_of_mem hk]⟩⟩
      · exact .inr ⟨c, inv, hc, hi, .inr (.inl ⟨‹_›, hk, by simp [gate_eq_ok hk]⟩)⟩
    · exact .inr ⟨c, inv, hc, hi, .inr (.inr (.inl ⟨‹_›, ‹_›, rfl⟩))⟩
    · exact .inr ⟨c, inv, hc, hi, .inr (.inr (.inr (.inl ⟨_, _, ‹_›, ‹_›, rfl⟩)))⟩
    · exact .inr ⟨c, inv, hc, hi, .inr (.inr (.inr (.inr ⟨‹_›, ‹_›, rfl⟩)))⟩
    · exact .inl rfl
  · exact .inl rfl

end Conc

/-! ### The gate's steps -/

namespace GateState

variable {G : GateState} {i : Nat} {inv : Invocation}

lemma getElem?_set_of_some (hi : G.procs[i]? = some inv) (x : Invocation) (j : Nat) :
    (G.procs.set i x)[j]? = if j = i then some x else G.procs[j]? := by
  have hlt : i < G.procs.length := by
    by_contra h
    simp [List.getElem?_eq_none (Nat.le_of_not_lt h)] at hi
  by_cases hj : j = i
  · subst hj
    simp [hlt]
  · simp [List.getElem?_set_ne (Ne.symm hj), hj]

/-- A step of the gate moves only its own call. -/
lemma getElem?_step_ne (G : GateState) {i j : Nat} (hji : j ≠ i) :
    (G.step i).procs[j]? = G.procs[j]? := by
  cases hi : G.procs[i]? with
  | none => simp [step, hi]
  | some inv =>
    rw [step_eq hi]
    unfold advance
    split
    · split <;> exact List.getElem?_set_ne (Ne.symm hji)
    · exact List.getElem?_set_ne (Ne.symm hji)
    · rfl
    · rfl

/-- A step of the gate moves one call on and changes no call. -/
lemma map_call_step (G : GateState) (i j : Nat) :
    ((G.step i).procs[j]?).map (·.call) = (G.procs[j]?).map (·.call) := by
  cases hi : G.procs[i]? with
  | none => simp [step, hi]
  | some inv =>
    have hset : ∀ ph : Phase, ((G.procs.set i { inv with phase := ph })[j]?).map (·.call) =
        (G.procs[j]?).map (·.call) := fun ph => by
      rw [getElem?_set_of_some hi]
      split_ifs with hj
      · rw [hj, hi]
        rfl
      · rfl
    rw [step_eq hi]
    unfold advance
    split
    · split
      · exact hset _
      · exact hset _
    · exact hset _
    · rfl
    · rfl

/-- The exit of a call inside its body returns it. -/
lemma getElem?_step_of_body (hi : G.procs[i]? = some inv) (hb : inv.phase = .body) :
    (G.step i).procs[i]? = some { inv with phase := .done } := by
  rw [step_eq hi]
  simp only [advance, hb, getElem?_set_of_some hi, if_true]

/-- The gate of a call before it lets it into its body or returns it. -/
lemma getElem?_step_of_start (hi : G.procs[i]? = some inv) (hs : inv.phase = .start) :
    (G.step i).procs[i]? = some { inv with phase := .body } ∨
      ∃ e, (G.step i).procs[i]? = some { inv with phase := .rejected e } := by
  rw [step_eq hi]
  simp only [advance, hs]
  split
  · rename_i e _
    exact .inr ⟨e, by simp only [getElem?_set_of_some hi, if_true]⟩
  · exact .inl (by simp only [getElem?_set_of_some hi, if_true])

/-- The gate turns away call `i`, whose key is pending: only its phase moves. -/
lemma step_of_mem (hi : G.procs[i]? = some inv) (hs : inv.phase = .start)
    (hk : inv.key ∈ G.pending.keys) :
    ∃ e, G.step i = ⟨G.pending, G.procs.set i { inv with phase := .rejected e }⟩ :=
  ⟨_, by rw [step_eq hi, advance, hs]; simp only [gate_of_mem hk]; rfl⟩

/-- The gate lets call `i` in: its key becomes pending. -/
lemma step_of_not_mem (hi : G.procs[i]? = some inv) (hs : inv.phase = .start)
    (hk : inv.key ∉ G.pending.keys) :
    G.step i = ⟨⟨inv.key :: G.pending.keys, List.nodup_cons.2 ⟨hk, G.pending.nodup⟩⟩,
      G.procs.set i { inv with phase := .body }⟩ := by
  rw [step_eq hi, advance, hs]
  simp only [gate_eq_ok hk]

/-- Call `i` leaves its body: its key is no longer pending. -/
lemma step_of_body (hi : G.procs[i]? = some inv) (hb : inv.phase = .body) :
    G.step i = ⟨G.pending.delete inv.key, G.procs.set i { inv with phase := .done }⟩ := by
  rw [step_eq hi, advance, hb]

lemma inBody_step_of_mem (hi : G.procs[i]? = some inv) (hs : inv.phase = .start)
    (hk : inv.key ∈ G.pending.keys) (j : Nat) (k : String) :
    (G.step i).InBody j k ↔ G.InBody j k := by
  obtain ⟨e, hG⟩ := step_of_mem hi hs hk
  rw [hG]
  exact inBody_set_of_not_body hi (by simp [hs]) _ (by simp) j k

lemma inBody_step_of_not_mem (hi : G.procs[i]? = some inv) (hs : inv.phase = .start)
    (hk : inv.key ∉ G.pending.keys) (j : Nat) (k : String) :
    (G.step i).InBody j k ↔ (j = i ∧ inv.key = k) ∨ (j ≠ i ∧ G.InBody j k) := by
  rw [step_of_not_mem hi hs hk, inBody_set hi]
  simp

lemma inBody_step_of_body (hi : G.procs[i]? = some inv) (hb : inv.phase = .body) (j : Nat)
    (k : String) : (G.step i).InBody j k ↔ j ≠ i ∧ G.InBody j k := by
  rw [step_of_body hi hb, inBody_set hi]
  simp

end GateState

/-! ### The shape of an interleaving -/

/-- **The shape of an interleaving**, whatever else changes the store between the calls'
steps: the gate's invariant; the gate's calls are the calls; only a call inside its body has
read its record (`T` holds what each such call has still to do), and what it has still to do
writes only its key. -/
structure ConcShape (n : NetworkService) (env : NodeEnv) (calls : List PodCall) (G : GateState)
    (T : Nat → Option (List Effect)) : Prop where
  gateInv : GateInv G
  tracks : ∀ i : Nat, (G.procs[i]?).map Invocation.call = (calls[i]?).map PodCall.call
  todo_body : ∀ (i : Nat) todo, T i = some todo → ∃ inv ∈ G.procs[i]?, inv.phase = .body
  writes : ∀ (i : Nat) c todo, calls[i]? = some c → T i = some todo →
    ∀ e ∈ todo, ∀ k, e.writesKey k = true → k = c.key

namespace ConcShape

variable {n : NetworkService} {env : NodeEnv} {calls : List PodCall} {G : GateState}
  {T : Nat → Option (List Effect)} {i : Nat} {c : PodCall} {inv : Invocation}

lemma init (calls : List PodCall) :
    ConcShape n env calls (GateState.init (calls.map PodCall.call)) fun _ => none where
  gateInv := GateInv.init _
  tracks i := by simp [GateState.init, Option.map_map, Function.comp_def]
  todo_body i todo h := nomatch h
  writes i c todo _ h := nomatch h

/-- The gate's call `i` is the call `c`. -/
lemma key_eq (h : ConcShape n env calls G T) (hc : calls[i]? = some c)
    (hi : G.procs[i]? = some inv) : inv.key = c.key := by
  have := h.tracks i
  rw [hc, hi, Option.map_some', Option.map_some'] at this
  exact congrArg Call.key (Option.some.inj this)

/-- Every call the gate has is one of the calls. -/
lemma exists_call (h : ConcShape n env calls G T) (hi : G.procs[i]? = some inv) :
    ∃ c, calls[i]? = some c := by
  have := h.tracks i
  rw [hi] at this
  cases hc : calls[i]? with
  | none => simp [hc] at this
  | some c => exact ⟨c, rfl⟩

/-- The key call `i` holds inside its body is the key of its call. -/
lemma inBody_iff (h : ConcShape n env calls G T) (hc : calls[i]? = some c) {k : String} :
    G.InBody i k ↔ (∃ inv ∈ G.procs[i]?, inv.phase = .body) ∧ c.key = k := by
  constructor
  · rintro ⟨inv, hi, hb, rfl⟩
    exact ⟨⟨inv, hi, hb⟩, (h.key_eq hc hi).symm⟩
  · rintro ⟨⟨inv, hi, hb⟩, rfl⟩
    exact ⟨inv, hi, hb, h.key_eq hc hi⟩

/-- A call before its gate, or returned, has not read its record. -/
lemma todo_eq_none (h : ConcShape n env calls G T) (hi : G.procs[i]? = some inv)
    (hb : inv.phase ≠ .body) : T i = none := by
  cases ht : T i with
  | none => rfl
  | some todo =>
    obtain ⟨inv', hi', hb'⟩ := h.todo_body i todo ht
    cases hi.symm.trans hi'
    exact absurd hb' hb

/-- The gate of a call that has not read its record: it enters its body or returns. -/
lemma gate_step (h : ConcShape n env calls G T) (hnot : T i = none) :
    ConcShape n env calls (G.step i) T where
  gateInv := h.gateInv.step i
  tracks j := (GateState.map_call_step _ i j).trans (h.tracks j)
  todo_body j todo ht := by
    have hji : j ≠ i := by
      rintro rfl
      rw [hnot] at ht
      cases ht
    rw [GateState.getElem?_step_ne _ hji]
    exact h.todo_body j todo ht
  writes := h.writes

/-- Call `i`, inside its body, is left with `l` to do: it stays inside its body. -/
lemma todo_body_update (h : ConcShape n env calls G T) (hi : G.procs[i]? = some inv)
    (hb : inv.phase = .body) (l : List Effect) (j : Nat) (todo : List Effect)
    (ht : Function.update T i (some l) j = some todo) :
    ∃ inv ∈ G.procs[j]?, inv.phase = .body := by
  by_cases hji : j = i
  · subst hji
    exact ⟨inv, hi, hb⟩
  · rw [Function.update_noteq hji] at ht
    exact h.todo_body j todo ht

/-- Call `i` reads its record: what it has still to do is its log, which writes only its
key. -/
lemma read (hown : ∀ c ∈ calls, c.GetsOwnPod) (h : ConcShape n env calls G T)
    (hc : calls[i]? = some c) (hi : G.procs[i]? = some inv) (hb : inv.phase = .body)
    (st : Store) : ConcShape n env calls G (Function.update T i (some (c.effects n env st))) where
  gateInv := h.gateInv
  tracks := h.tracks
  todo_body := h.todo_body_update hi hb _
  writes j c' todo hc' ht := by
    by_cases hji : j = i
    · subst hji
      obtain rfl := Option.some.inj (hc'.symm.trans hc)
      rw [Function.update_same, Option.some.injEq] at ht
      subst ht
      exact fun e he k hw => PodCall.writesKey_eq (hown c' (List.getElem?_mem hc)) he hw
    · rw [Function.update_noteq hji] at ht
      exact h.writes j c' todo hc' ht

/-- Call `i` makes its next store call. -/
lemma write (h : ConcShape n env calls G T) (hi : G.procs[i]? = some inv)
    (hb : inv.phase = .body) {e : Effect} {es : List Effect} (ht : T i = some (e :: es)) :
    ConcShape n env calls G (Function.update T i (some es)) where
  gateInv := h.gateInv
  tracks := h.tracks
  todo_body := h.todo_body_update hi hb es
  writes j c' todo hc' ht' := by
    by_cases hji : j = i
    · subst hji
      rw [Function.update_same, Option.some.injEq] at ht'
      subst ht'
      exact fun e' he' => h.writes j c' _ hc' ht e' (List.mem_cons_of_mem _ he')
    · rw [Function.update_noteq hji] at ht'
      exact h.writes j c' todo hc' ht'

/-- Call `i` leaves its body with nothing left to do. -/
lemma leave (h : ConcShape n env calls G T) :
    ConcShape n env calls (G.step i) (Function.update T i none) where
  gateInv := h.gateInv.step i
  tracks j := (GateState.map_call_step _ i j).trans (h.tracks j)
  todo_body j todo ht := by
    by_cases hji : j = i
    · subst hji
      simp at ht
    · rw [Function.update_noteq hji] at ht
      rw [GateState.getElem?_step_ne _ hji]
      exact h.todo_body j todo ht
  writes j c' todo hc' ht := by
    by_cases hji : j = i
    · subst hji
      simp at ht
    · rw [Function.update_noteq hji] at ht
      exact h.writes j c' todo hc' ht

end ConcShape

/-! ### The invariant -/

/-- **The invariant of the interleaving.** Its shape; the gate let in exactly the calls past
their gate, each once; and at every key, the store, once the call inside its body for the
key (if any) has made its remaining store calls, is the serial run's of the calls let in. -/
structure ConcInv (n : NetworkService) (env : NodeEnv) (calls : List PodCall) (st : Store)
    (s : Conc) extends ConcShape n env calls s.gate s.todo : Prop where
  admitted_iff : ∀ i : Nat, i ∈ s.admitted ↔
    ∃ inv ∈ s.gate.procs[i]?, inv.phase = .body ∨ inv.phase = .done
  nodup : s.admitted.Nodup
  free : ∀ k, (∀ i : Nat, ¬s.gate.InBody i k) →
    s.store.get k = (serialRun n env (s.admittedCalls calls) st).get k
  held : ∀ (i : Nat) c, calls[i]? = some c → s.gate.InBody i c.key →
    (s.store.applyEffects (c.remaining n env s.store (s.todo i))).get c.key =
      (serialRun n env (s.admittedCalls calls) st).get c.key

/-- What a call inside its body leaves under its key depends only on what the store holds
there. -/
lemma PodCall.remaining_congr {n : NetworkService} {env : NodeEnv} {c : PodCall}
    (hc : c.GetsOwnPod) {st₁ st₂ : Store} (h : st₁.get c.key = st₂.get c.key)
    (todo : Option (List Effect)) :
    (st₁.applyEffects (c.remaining n env st₁ todo)).get c.key =
      (st₂.applyEffects (c.remaining n env st₂ todo)).get c.key := by
  cases todo with
  | none =>
    rw [remaining, remaining, effects_congr hc h]
    exact Store.get_applyEffects_congr h _
  | some todo => exact Store.get_applyEffects_congr h _

namespace ConcInv

variable {n : NetworkService} {env : NodeEnv} {calls : List PodCall} {st : Store} {s : Conc}
  {i : Nat} {c : PodCall} {inv : Invocation}

lemma init (calls : List PodCall) (st : Store) : ConcInv n env calls st (Conc.init calls st) where
  toConcShape := ConcShape.init calls
  admitted_iff i := by simp [Conc.init, GateState.init]
  nodup := List.nodup_nil
  free _ _ := rfl
  held i c _ h := by
    obtain ⟨inv, hi, hb, -⟩ := h
    simp only [Conc.init, GateState.init, List.getElem?_map, Option.mem_def,
      Option.map_eq_some'] at hi
    obtain ⟨_, -, rfl⟩ := hi
    cases hb

/-- The gate rejects call `i`: only its phase moves, and it holds no key before or after. -/
lemma reject (h : ConcInv n env calls st s) (hi : s.gate.procs[i]? = some inv)
    (hs : inv.phase = .start) (hk : inv.key ∈ s.gate.pending.keys) :
    ConcInv n env calls st { s with gate := s.gate.step i } := by
  obtain ⟨e, hG⟩ := GateState.step_of_mem hi hs hk
  have hin := GateState.inBody_step_of_mem hi hs hk
  refine ⟨h.gate_step (h.todo_eq_none hi (by simp [hs])), fun j => ?_, h.nodup,
    fun k hk => h.free k fun j hj => hk j ((hin j k).2 hj),
    fun j c hc hj => h.held j c hc ((hin j c.key).1 hj)⟩
  rw [h.admitted_iff j]
  by_cases hji : j = i
  · subst hji
    rw [hG]
    simp [GateState.getElem?_set_of_some hi, hi, hs]
  · rw [GateState.getElem?_step_ne _ hji]

/-- The gate lets call `i` in: it now holds its key, which no call held, and the serial run
gains its log on the store the calls before it left. -/
lemma enter (hown : ∀ c ∈ calls, c.GetsOwnPod) (h : ConcInv n env calls st s)
    (hc : calls[i]? = some c) (hi : s.gate.procs[i]? = some inv) (hs : inv.phase = .start)
    (hk : inv.key ∉ s.gate.pending.keys) :
    ConcInv n env calls st { s with gate := s.gate.step i, admitted := s.admitted ++ [i] } := by
  have hcK : c.GetsOwnPod := hown c (List.getElem?_mem hc)
  have hkey := h.key_eq hc hi
  have hin : ∀ j k, (s.gate.step i).InBody j k ↔ (j = i ∧ c.key = k) ∨ (j ≠ i ∧ s.gate.InBody j k) :=
    fun j k => by rw [GateState.inBody_step_of_not_mem hi hs hk, hkey]
  have hnb : ∀ k, ¬s.gate.InBody i k := fun k ⟨inv', hi', hb, _⟩ => by
    cases hi.symm.trans hi'
    simp [hs] at hb
  have hfree : ∀ j, ¬s.gate.InBody j c.key :=
    fun j hj => hk (hkey ▸ (h.gateInv.pending_iff _).2 ⟨j, hj⟩)
  have hnot := h.todo_eq_none hi (by simp [hs])
  have hserial : serialRun n env
      (Conc.admittedCalls calls { s with gate := s.gate.step i, admitted := s.admitted ++ [i] }) st =
      (serialRun n env (s.admittedCalls calls) st).applyEffects
        (c.effects n env (serialRun n env (s.admittedCalls calls) st)) := by
    simp only [Conc.admittedCalls, List.filterMap_append, List.filterMap_cons, List.filterMap_nil, hc]
    exact serialRun_append_singleton _ _ _
  refine ⟨h.gate_step hnot, fun j => ?_, ?_, fun k hk => ?_, fun j c' hc' hj => ?_⟩
  · -- the gate let in exactly the calls past it
    by_cases hji : j = i
    · subst hji
      rw [GateState.step_of_not_mem hi hs hk]
      simp [GateState.getElem?_set_of_some hi]
    · rw [List.mem_append, List.mem_singleton, or_iff_left hji, h.admitted_iff j,
        GateState.getElem?_step_ne _ hji]
  · -- each once
    refine List.nodup_append.2 ⟨h.nodup, List.nodup_singleton i, ?_⟩
    simp only [List.disjoint_singleton]
    intro hmem
    obtain ⟨inv', hi', hb⟩ := (h.admitted_iff i).1 hmem
    cases hi.symm.trans hi'
    rcases hb with hb | hb <;> simp [hs] at hb
  · -- a free key: the new call's log does not write it
    have hne : k ≠ c.key := fun hk' => hk i ((hin i k).2 (.inl ⟨rfl, hk'.symm⟩))
    dsimp only
    rw [hserial, PodCall.get_applyEffects_ne hcK _ _ hne]
    exact h.free k fun j hj => hk j ((hin j k).2 (.inr ⟨fun hji => hnb k (hji ▸ hj), hj⟩))
  · rcases (hin j c'.key).1 hj with ⟨rfl, hkk⟩ | ⟨hji, hj⟩
    · -- the new call reads what the serial run left under its key
      obtain rfl := Option.some.inj (hc'.symm.trans hc)
      have hsk := h.free c'.key hfree
      dsimp only
      rw [hnot, hserial, PodCall.remaining, PodCall.effects_congr hcK hsk]
      exact Store.get_applyEffects_congr hsk _
    · -- another call's key, which the new call's log does not write
      have hne : c'.key ≠ c.key := fun he => hfree j (he ▸ hj)
      dsimp only
      rw [hserial, PodCall.get_applyEffects_ne hcK _ _ hne]
      exact h.held j c' hc' hj

/-- Call `i` reads its record: what it has still to do is its log on the store it read. -/
lemma read (hown : ∀ c ∈ calls, c.GetsOwnPod) (h : ConcInv n env calls st s)
    (hc : calls[i]? = some c) (hi : s.gate.procs[i]? = some inv) (hb : inv.phase = .body)
    (ht : s.todo i = none) :
    ConcInv n env calls st
      { s with todo := Function.update s.todo i (some (c.effects n env s.store)) } := by
  refine ⟨h.toConcShape.read hown hc hi hb s.store, h.admitted_iff, h.nodup, h.free,
    fun j c' hc' hj => ?_⟩
  by_cases hji : j = i
  · subst hji
    obtain rfl := Option.some.inj (hc'.symm.trans hc)
    simpa only [Function.update_same, ht, PodCall.remaining] using h.held j c' hc' hj
  · simpa only [Function.update_noteq hji] using h.held j c' hc' hj

/-- Call `i` makes its next store call, which writes only its key. -/
lemma write (hown : ∀ c ∈ calls, c.GetsOwnPod) (h : ConcInv n env calls st s)
    (hc : calls[i]? = some c) (hi : s.gate.procs[i]? = some inv) (hb : inv.phase = .body)
    {e : Effect} {es : List Effect} (ht : s.todo i = some (e :: es)) :
    ConcInv n env calls st
      { s with store := s.store.applyEffect e, todo := Function.update s.todo i (some es) } := by
  have hmine : s.gate.InBody i c.key := ⟨inv, hi, hb, h.key_eq hc hi⟩
  have hwe : ∀ k, k ≠ c.key → e.writesKey k = false := fun k hk =>
    Bool.eq_false_iff.2 fun hw => hk (h.writes i c _ hc ht e (List.mem_cons_self _ _) k hw)
  refine ⟨h.toConcShape.write hi hb ht, h.admitted_iff, h.nodup, fun k hk => ?_,
    fun j c' hc' hj => ?_⟩
  · have hne : k ≠ c.key := fun hk' => hk i (hk' ▸ hmine)
    exact (Store.get_applyEffect_of_not_writesKey _ (hwe k hne)).trans (h.free k hk)
  · by_cases hji : j = i
    · subst hji
      obtain rfl := Option.some.inj (hc'.symm.trans hc)
      simpa only [Function.update_same, ht, PodCall.remaining] using h.held j c' hc' hj
    · have hne : c'.key ≠ c.key := fun he => hji (h.gateInv.exclusive j i _ hj (he ▸ hmine))
      dsimp only
      rw [Function.update_noteq hji, PodCall.remaining_congr (hown c' (List.getElem?_mem hc'))
        (Store.get_applyEffect_of_not_writesKey _ (hwe _ hne))]
      exact h.held j c' hc' hj

/-- Call `i` leaves its body with the deferred `Delete`: it made all its store calls, so the
store under its key is the serial run's. -/
lemma leave (h : ConcInv n env calls st s) (hc : calls[i]? = some c)
    (hi : s.gate.procs[i]? = some inv) (hb : inv.phase = .body) (ht : s.todo i = some []) :
    ConcInv n env calls st { s with gate := s.gate.step i, todo := Function.update s.todo i none } := by
  have hG := GateState.step_of_body hi hb
  have hin := GateState.inBody_step_of_body hi hb
  refine ⟨h.toConcShape.leave, fun j => ?_, h.nodup, fun k hk => ?_, fun j c' hc' hj => ?_⟩
  · rw [h.admitted_iff j]
    by_cases hji : j = i
    · subst hji
      rw [hG]
      simp [GateState.getElem?_set_of_some hi, hi, hb]
    · rw [GateState.getElem?_step_ne _ hji]
  · by_cases hkc : k = c.key
    · subst hkc
      simpa only [ht, PodCall.remaining] using h.held i c hc ⟨inv, hi, hb, h.key_eq hc hi⟩
    · refine h.free k fun j hj => hk j ((hin j k).2 ⟨fun hji => hkc ?_, hj⟩)
      subst hji
      exact ((h.inBody_iff hc).1 hj).2.symm
  · obtain ⟨hji, hj⟩ := (hin j c'.key).1 hj
    simpa only [Function.update_noteq hji] using h.held j c' hc' hj

/-- **Step lemma**: every step of every call keeps the invariant. -/
lemma step (hown : ∀ c ∈ calls, c.GetsOwnPod) (h : ConcInv n env calls st s) (i : Nat) :
    ConcInv n env calls st (s.step n env calls i) := by
  rcases Conc.step_cases n env calls s i with hs | ⟨c, inv, hc, hi, hcases⟩
  · rw [hs]
    exact h
  rcases hcases with ⟨hp, hk, hs⟩ | ⟨hp, hk, hs⟩ | ⟨hp, ht, hs⟩ | ⟨e, es, hp, ht, hs⟩ |
    ⟨hp, ht, hs⟩ <;> rw [hs]
  · exact h.reject hi hp hk
  · exact h.enter hown hc hi hp hk
  · exact h.read hown hc hi hp ht
  · exact h.write hown hc hi hp ht
  · exact h.leave hc hi hp ht

/-- **Run lemma**: the invariant holds in every interleaving. -/
lemma reachable (hown : ∀ c ∈ calls, c.GetsOwnPod) (hs : s.Reachable n env calls st) :
    ConcInv n env calls st s := by
  induction hs with
  | init => exact init calls st
  | step i _ ih => exact ih.step hown i

/-- Once every call has returned, no call is inside its body. -/
lemma not_inBody (hret : ∀ inv ∈ s.gate.procs, inv.phase.returned = true) (j : Nat)
    (k : String) : ¬s.gate.InBody j k := by
  rintro ⟨inv, hi, hb, -⟩
  simpa [hb, Phase.returned] using hret inv (List.getElem?_mem hi)

/-- Once every call has returned, the gate let in exactly the calls that returned from their
body. -/
lemma mem_admitted_iff (h : ConcInv n env calls st s)
    (hret : ∀ inv ∈ s.gate.procs, inv.phase.returned = true) (i : Nat) :
    i ∈ s.admitted ↔ ∃ inv ∈ s.gate.procs[i]?, inv.phase = .done := by
  rw [h.admitted_iff i]
  refine exists_congr fun inv => and_congr_right fun hi => or_iff_right fun hb => ?_
  simpa [hb, Phase.returned] using hret inv (List.getElem?_mem hi)

end ConcInv

/-! ### Every interleaving is serial -/

/-- **Every interleaving of `AllocIP` and `ReleaseIP` is serial.** Whatever the calls and
their collaborators' answers, and however their steps interleave, once every call has
returned the gate let in each call at most once, exactly those that returned from their
body, and the store holds under every key what the calls it let in leave when they run one
after another, in the order it let them in, each on the store the one before left. The one
assumption is that `GetPod` answers the pod the request names. -/
theorem interleaving_serializable (n : NetworkService) (env : NodeEnv) (calls : List PodCall)
    (hown : ∀ c ∈ calls, c.GetsOwnPod) {st : Store} {s : Conc}
    (hs : s.Reachable n env calls st) (hret : ∀ inv ∈ s.gate.procs, inv.phase.returned = true) :
    s.admitted.Nodup ∧ (∀ i, i ∈ s.admitted ↔ ∃ inv ∈ s.gate.procs[i]?, inv.phase = .done) ∧
      ∀ k, s.store.get k = (serialRun n env (s.admittedCalls calls) st).get k := by
  have h := ConcInv.reachable hown hs
  exact ⟨h.nodup, h.mem_admitted_iff hret, fun k => h.free k (ConcInv.not_inBody hret · k)⟩

/-- `AllocIP` for `eipPod`, and a `ReleaseIP` for it that arrives while the first is inside
its body. -/
def eipCalls : List PodCall :=
  [.allocIP eipGranted eipRequest, .releaseIP eipReleased ⟨"web-0", "default", "c1"⟩]

lemma eipCalls_getsOwnPod : ∀ c ∈ eipCalls, c.GetsOwnPod := by
  simp only [eipCalls, List.mem_cons, List.mem_singleton, List.not_mem_nil, or_false]
  rintro c (rfl | rfl) p hp <;> cases hp <;> rfl

/-- `ReleaseIP` is turned away at the gate, and the store is what `AllocIP` alone leaves. -/
theorem interleaving_serializable_eip :
    ((Conc.init eipCalls Store.empty).run eipService plainNode eipCalls
        [0, 0, 0, 1, 0, 0, 0, 0]).store.get eipPod.key =
      (serialRun eipService plainNode
        (((Conc.init eipCalls Store.empty).run eipService plainNode eipCalls
          [0, 0, 0, 1, 0, 0, 0, 0]).admittedCalls eipCalls) Store.empty).get eipPod.key :=
  (interleaving_serializable eipService plainNode eipCalls eipCalls_getsOwnPod
    (Conc.Reachable.init.run _) (by decide)).2.2 _

end Terway

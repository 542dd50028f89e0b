import Terway.Interleaving

/-!
GC ticks running between the steps of `AllocIP` and `ReleaseIP` calls (`daemon.go`, spec §5).
A tick takes the service's write lock (`n.Lock()`), so it runs only when no call holds the
read lock: a call takes it after its gate and before it reads its record, and gives it back
after its last store call (the deferred `RUnlock` runs before the deferred `Delete` of its
key). So a tick runs only when no call is between the read of its record and its last store
call; a call that passed its gate but has not read, or that made all its store calls, does
not stop it.

With ticks the calls no longer run in the order the gate let them in: a call the gate let in
before a tick may read its record after it. What is serial is the order of the reads and the
ticks. A call's store calls are fixed when it reads, and it is the only call on its key until
it leaves; a tick writes every key, but runs only when every call that read has made its
store calls, and what it writes does not depend on the order the store lists its records in
(`gcTick_get_congr`).

* `Event`, `serialEvents`: a read or a tick, and the events one after another.
* `Conc.ReachableTicks`: every interleaving of the calls' steps and of ticks under the write
  lock, with the reads and the ticks in the order they happened.
* `TickInv`: the invariant; `TickInv.step` and `TickInv.tick` keep it.
* `interleaving_ticks_serializable`: once every call has returned, each call that returned
  from its body read once, and the store agrees at every key with the reads and the ticks
  run one after another in the order they happened.
* `interleaving_replies_serial`: a call that reads finds what that serial order has left,
  so its reply and its store calls are the serial ones.
-/

namespace Terway

/-! ### Reads and ticks -/

/-- What happened to the store, in order: call `i` read its record, which fixes its store
calls; or a GC tick ran, with the answers of its collaborators. -/
inductive Event
  | read (i : Nat)
  | tick (ord : MapOrder) (parseCIDR : String → Option String) (o : GCOutcomes)

/-- The call an event is the read of. -/
def Event.reader : Event → Option Nat
  | .read i => some i
  | .tick .. => none

/-- An event on the store `st`: the read call's log, or the tick's. -/
def Event.apply (n : NetworkService) (env : NodeEnv) (calls : List PodCall) (st : Store) :
    Event → Store
  | .read i =>
    match calls[i]? with
    | some c => st.applyEffects (c.effects n env st)
    | none => st
  | .tick ord parseCIDR o => st.applyEffects (gcTick n ord parseCIDR o st).effects

/-- The events one after another, each on the store the one before left. -/
def serialEvents (n : NetworkService) (env : NodeEnv) (calls : List PodCall) (evs : List Event)
    (st : Store) : Store :=
  evs.foldl (Event.apply n env calls) st

section Serial

variable {n : NetworkService} {env : NodeEnv} {calls : List PodCall}

lemma serialEvents_append_singleton (evs : List Event) (e : Event) (st : Store) :
    serialEvents n env calls (evs ++ [e]) st =
      Event.apply n env calls (serialEvents n env calls evs st) e := by
  rw [serialEvents, List.foldl_append]
  rfl

/-- The reads and ticks one after another from a reachable store are a run of the daemon's
handlers. -/
lemma Store.Reachable.serialEvents {st : Store} (h : st.Reachable n env) (evs : List Event) :
    (Terway.serialEvents n env calls evs st).Reachable n env := by
  induction evs generalizing st with
  | nil => exact h
  | cons e evs ih =>
    refine ih ?_
    cases e with
    | read i =>
      cases hc : calls[i]? with
      | none => simpa [Event.apply, hc] using h
      | some c => simpa [Event.apply, hc] using Store.Reachable.step c.request h
    | tick ord parseCIDR o => exact .step (.gc ord parseCIDR o fun _ _ => []) h

end Serial

/-! ### Ticks between the calls' steps -/

/-- The read call `i` makes when it takes its next step: when it is inside its body and has
not read yet. -/
def Conc.readEvents (calls : List PodCall) (s : Conc) (i : Nat) : List Event :=
  match calls[i]?, s.gate.procs[i]?, s.todo i with
  | some _, some inv, none => if inv.phase = .body then [.read i] else []
  | _, _, _ => []

/-- No call holds the read lock: none is between the read of its record and its last store
call. -/
def Conc.Unlocked (s : Conc) : Prop := ∀ (i : Nat) todo, s.todo i = some todo → todo = []

/-- The tick a state takes under the write lock. -/
def Conc.tick (n : NetworkService) (ord : MapOrder) (parseCIDR : String → Option String)
    (o : GCOutcomes) (s : Conc) : Conc :=
  { s with store := s.store.applyEffects (gcTick n ord parseCIDR o s.store).effects }

/-- The states of every interleaving of the calls' steps and of GC ticks, from the store
`st`, with the reads and the ticks in the order they happened: a tick runs only when no call
holds the read lock. -/
inductive Conc.ReachableTicks (n : NetworkService) (env : NodeEnv) (calls : List PodCall)
    (st : Store) : Conc → List Event → Prop
  | init : Conc.ReachableTicks n env calls st (Conc.init calls st) []
  | step {s : Conc} {evs : List Event} (i : Nat) : Conc.ReachableTicks n env calls st s evs →
      Conc.ReachableTicks n env calls st (s.step n env calls i) (evs ++ s.readEvents calls i)
  | tick {s : Conc} {evs : List Event} (ord : MapOrder) (parseCIDR : String → Option String)
      (o : GCOutcomes) : Conc.ReachableTicks n env calls st s evs → s.Unlocked →
      Conc.ReachableTicks n env calls st (s.tick n ord parseCIDR o) (evs ++ [.tick ord parseCIDR o])

section Reads

variable {n : NetworkService} {env : NodeEnv} {calls : List PodCall} {s : Conc} {i : Nat}
  {c : PodCall} {inv : Invocation}

lemma Conc.readEvents_eq (hc : calls[i]? = some c) (hi : s.gate.procs[i]? = some inv) :
    s.readEvents calls i = if inv.phase = .body ∧ s.todo i = none then [.read i] else [] := by
  unfold Conc.readEvents
  rw [hc, hi]
  cases s.todo i <;> simp

/-- A step that changes nothing reads nothing. -/
lemma Conc.readEvents_of_step_eq (h : s.step n env calls i = s) : s.readEvents calls i = [] := by
  cases hc : calls[i]? with
  | none => simp [Conc.readEvents, hc]
  | some c =>
    cases hi : s.gate.procs[i]? with
    | none => simp [Conc.readEvents, hc, hi]
    | some inv =>
      rw [Conc.readEvents_eq hc hi, if_neg]
      rintro ⟨hb, ht⟩
      have := congrArg (fun s : Conc => s.todo i) h
      simp [Conc.step, hc, hi, Conc.advance, hb, ht] at this

lemma Conc.ReachableTicks.run {st : Store} {evs : List Event}
    (h : s.ReachableTicks n env calls st evs) (sched : List Nat) :
    ∃ evs', (s.run n env calls sched).ReachableTicks n env calls st evs' := by
  induction sched generalizing s evs with
  | nil => exact ⟨evs, h⟩
  | cons i sched ih => exact ih (.step i h)

end Reads

/-! ### The invariant -/

/-- **The invariant of the interleaving with ticks.** Its shape; the calls that read are
those inside their body past their read, and those that returned from it, each read once;
at every key no call has read for, the store is the serial run's of the reads and ticks; and
under the key of a call that read, the store once the call has made its remaining store
calls is. -/
structure TickInv (n : NetworkService) (env : NodeEnv) (calls : List PodCall) (st : Store)
    (s : Conc) (evs : List Event) extends ConcShape n env calls s.gate s.todo : Prop where
  read_iff : ∀ i : Nat, i ∈ evs.filterMap Event.reader ↔
    ∃ inv ∈ s.gate.procs[i]?, inv.phase = .body ∧ (s.todo i).isSome ∨ inv.phase = .done
  nodup : (evs.filterMap Event.reader).Nodup
  free : ∀ k, (∀ i : Nat, s.gate.InBody i k → s.todo i = none) →
    s.store.get k = (serialEvents n env calls evs st).get k
  held : ∀ (i : Nat) c todo, calls[i]? = some c → s.gate.InBody i c.key →
    s.todo i = some todo →
    (s.store.applyEffects todo).get c.key = (serialEvents n env calls evs st).get c.key

namespace TickInv

variable {n : NetworkService} {env : NodeEnv} {calls : List PodCall} {st : Store} {s : Conc}
  {evs : List Event} {i : Nat} {c : PodCall} {inv : Invocation}

lemma init (calls : List PodCall) (st : Store) :
    TickInv n env calls st (Conc.init calls st) [] where
  toConcShape := ConcShape.init calls
  read_iff i := by simp [Conc.init, GateState.init]
  nodup := List.nodup_nil
  free _ _ := rfl
  held i c todo _ _ h := nomatch h

/-- Under a key no call is in the middle of its store calls for, the store is the serial
run's: a call that read the key has made its store calls. -/
lemma get_eq (h : TickInv n env calls st s evs) {k : String}
    (hk : ∀ (i : Nat) todo, s.gate.InBody i k → s.todo i = some todo → todo = []) :
    s.store.get k = (serialEvents n env calls evs st).get k := by
  by_cases hfree : ∀ j : Nat, s.gate.InBody j k → s.todo j = none
  · exact h.free k hfree
  push_neg at hfree
  obtain ⟨j, ⟨inv, hi, hb, rfl⟩, hne⟩ := hfree
  obtain ⟨todo, ht⟩ := Option.ne_none_iff_exists'.1 hne
  obtain ⟨c, hc⟩ := h.exists_call hi
  have hkey := h.key_eq hc hi
  have := h.held j c todo hc ⟨inv, hi, hb, hkey⟩ ht
  rw [hkey]
  rwa [hk j todo ⟨inv, hi, hb, rfl⟩ ht] at this

/-- A call about to read finds under its key what the serial run of the events so far holds
there: no other call is inside its body for the key. -/
lemma get_key_of_read (h : TickInv n env calls st s evs) (hc : calls[i]? = some c)
    (hi : s.gate.procs[i]? = some inv) (hb : inv.phase = .body) (ht : s.todo i = none) :
    s.store.get c.key = (serialEvents n env calls evs st).get c.key :=
  h.free _ fun j hj => h.gateInv.exclusive j i _ hj ⟨inv, hi, hb, h.key_eq hc hi⟩ ▸ ht

/-- **A tick** keeps the invariant: it runs on a store that agrees with the serial run at
every key, and what it writes depends on nothing else. -/
lemma tick (h : TickInv n env calls st s evs) (hu : s.Unlocked) (ord : MapOrder)
    (parseCIDR : String → Option String) (o : GCOutcomes) :
    TickInv n env calls st (s.tick n ord parseCIDR o) (evs ++ [.tick ord parseCIDR o]) := by
  have hget : ∀ k, (s.tick n ord parseCIDR o).store.get k =
      (serialEvents n env calls (evs ++ [.tick ord parseCIDR o]) st).get k := fun k => by
    rw [serialEvents_append_singleton]
    exact gcTick_get_congr n ord ord parseCIDR o
      (fun k => h.get_eq fun i todo _ ht => hu i todo ht) k
  have hreads : (evs ++ [Event.tick ord parseCIDR o]).filterMap Event.reader =
      evs.filterMap Event.reader := by
    simp [Event.reader]
  refine ⟨h.toConcShape, fun i => hreads ▸ h.read_iff i, hreads ▸ h.nodup,
    fun k _ => hget k, fun j c todo _ _ ht => ?_⟩
  obtain rfl := hu j todo ht
  exact hget _

/-- The gate rejects call `i`: only its phase moves. -/
lemma reject (h : TickInv n env calls st s evs) (hi : s.gate.procs[i]? = some inv)
    (hs : inv.phase = .start) (hk : inv.key ∈ s.gate.pending.keys) :
    TickInv n env calls st { s with gate := s.gate.step i } evs := by
  obtain ⟨e, hG⟩ := GateState.step_of_mem hi hs hk
  have hin := GateState.inBody_step_of_mem hi hs hk
  refine ⟨h.gate_step (h.todo_eq_none hi (by simp [hs])), fun j => ?_, h.nodup,
    fun k hk => h.free k fun j hj => hk j ((hin j k).2 hj),
    fun j c todo hc hj => h.held j c todo hc ((hin j c.key).1 hj)⟩
  rw [h.read_iff j]
  by_cases hji : j = i
  · subst hji
    rw [hG]
    simp [GateState.getElem?_set_of_some hi, hi, hs]
  · rw [GateState.getElem?_step_ne _ hji]

/-- The gate lets call `i` in; it has not read yet. -/
lemma enter (h : TickInv n env calls st s evs) (hi : s.gate.procs[i]? = some inv)
    (hs : inv.phase = .start) (hk : inv.key ∉ s.gate.pending.keys) :
    TickInv n env calls st { s with gate := s.gate.step i, admitted := s.admitted ++ [i] } evs := by
  have hnot := h.todo_eq_none hi (by simp [hs])
  have hin := GateState.inBody_step_of_not_mem hi hs hk
  refine ⟨h.gate_step hnot, fun j => ?_, h.nodup, fun k hk' => h.free k fun j hj => ?_,
    fun j c' todo hc' hj ht => ?_⟩
  · rw [h.read_iff j]
    by_cases hji : j = i
    · subst hji
      rw [GateState.step_of_not_mem hi hs hk]
      simp [GateState.getElem?_set_of_some hi, hi, hs, hnot]
    · rw [GateState.getElem?_step_ne _ hji]
  · by_cases hji : j = i
    · exact hji ▸ hnot
    · exact hk' j ((hin j k).2 (.inr ⟨hji, hj⟩))
  · have hji : j ≠ i := by
      rintro rfl
      rw [hnot] at ht
      cases ht
    exact h.held j c' todo hc' (((hin j c'.key).1 hj).resolve_left fun h' => hji h'.1).2 ht

/-- Call `i` reads its record: the serial run gains its log on the store the events before
left, which holds what the store holds under its key. -/
lemma read (hown : ∀ c ∈ calls, c.GetsOwnPod) (h : TickInv n env calls st s evs)
    (hc : calls[i]? = some c) (hi : s.gate.procs[i]? = some inv) (hb : inv.phase = .body)
    (ht : s.todo i = none) :
    TickInv n env calls st
      { s with todo := Function.update s.todo i (some (c.effects n env s.store)) }
      (evs ++ [.read i]) := by
  have hcK : c.GetsOwnPod := hown c (List.getElem?_mem hc)
  have hmine : s.gate.InBody i c.key := ⟨inv, hi, hb, h.key_eq hc hi⟩
  have hserial : serialEvents n env calls (evs ++ [.read i]) st =
      (serialEvents n env calls evs st).applyEffects
        (c.effects n env (serialEvents n env calls evs st)) := by
    rw [serialEvents_append_singleton]
    simp [Event.apply, hc]
  have hreads : (evs ++ [Event.read i]).filterMap Event.reader =
      evs.filterMap Event.reader ++ [i] := by
    simp [Event.reader]
  have hnew : i ∉ evs.filterMap Event.reader := fun hm => by
    obtain ⟨inv', hi', hb'⟩ := (h.read_iff i).1 hm
    cases hi.symm.trans hi'
    simp [ht, hb] at hb'
  refine ⟨h.toConcShape.read hown hc hi hb s.store, fun j => ?_, ?_, fun k hk => ?_,
    fun j c' todo hc' hj ht' => ?_⟩
  · rw [hreads, List.mem_append, List.mem_singleton, h.read_iff j]
    by_cases hji : j = i
    · subst hji
      simp [hi, hb]
    · simp [hji, Function.update_noteq hji]
  · rw [hreads]
    exact h.nodup.append (List.nodup_singleton i) (List.disjoint_singleton.2 hnew)
  · have hne : k ≠ c.key := fun hkc => by simpa using hk i (hkc ▸ hmine)
    dsimp only
    rw [hserial, PodCall.get_applyEffects_ne hcK _ _ hne]
    refine h.free k fun j hj => ?_
    by_cases hji : j = i
    · exact hji ▸ ht
    · simpa only [Function.update_noteq hji] using hk j hj
  · by_cases hji : j = i
    · subst hji
      obtain rfl := Option.some.inj (hc'.symm.trans hc)
      simp only [Function.update_same, Option.some.injEq] at ht'
      subst ht'
      have hfree := h.get_key_of_read hc' hi hb ht
      dsimp only
      rw [hserial, PodCall.effects_congr hcK hfree]
      exact Store.get_applyEffects_congr hfree _
    · have hne : c'.key ≠ c.key := fun he => hji (h.gateInv.exclusive j i _ hj (he ▸ hmine))
      simp only [Function.update_noteq hji] at ht'
      dsimp only
      rw [hserial, PodCall.get_applyEffects_ne hcK _ _ hne]
      exact h.held j c' todo hc' hj ht'

/-- Call `i` makes its next store call, which writes only its key. -/
lemma write (h : TickInv n env calls st s evs) (hc : calls[i]? = some c)
    (hi : s.gate.procs[i]? = some inv) (hb : inv.phase = .body) {e : Effect} {es : List Effect}
    (ht : s.todo i = some (e :: es)) :
    TickInv n env calls st
      { s with store := s.store.applyEffect e, todo := Function.update s.todo i (some es) }
      evs := by
  have hmine : s.gate.InBody i c.key := ⟨inv, hi, hb, h.key_eq hc hi⟩
  have hwe : ∀ k, k ≠ c.key → e.writesKey k = false := fun k hk =>
    Bool.eq_false_iff.2 fun hw => hk (h.writes i c _ hc ht e (List.mem_cons_self _ _) k hw)
  refine ⟨h.toConcShape.write hi hb ht, fun j => ?_, h.nodup, fun k hk => ?_,
    fun j c' todo hc' hj ht' => ?_⟩
  · rw [h.read_iff j]
    by_cases hji : j = i
    · subst hji
      simp [hi, hb, ht]
    · simp [Function.update_noteq hji]
  · have hne : k ≠ c.key := fun hkc => by simpa using hk i (hkc ▸ hmine)
    refine (Store.get_applyEffect_of_not_writesKey _ (hwe k hne)).trans (h.free k fun j hj => ?_)
    by_cases hji : j = i
    · exact absurd ((h.inBody_iff hc).1 (hji ▸ hj)).2.symm hne
    · simpa only [Function.update_noteq hji] using hk j hj
  · by_cases hji : j = i
    · subst hji
      obtain rfl := Option.some.inj (hc'.symm.trans hc)
      simp only [Function.update_same, Option.some.injEq] at ht'
      subst ht'
      exact h.held _ c' _ hc' hj ht
    · have hne : c'.key ≠ c.key := fun he => hji (h.gateInv.exclusive j i _ hj (he ▸ hmine))
      simp only [Function.update_noteq hji] at ht'
      exact (Store.get_applyEffects_congr (Store.get_applyEffect_of_not_writesKey _
        (hwe _ hne)) todo).trans (h.held j c' todo hc' hj ht')

/-- Call `i` leaves its body: it made all its store calls, so the store under its key is
the serial run's. -/
lemma leave (h : TickInv n env calls st s evs) (hc : calls[i]? = some c)
    (hi : s.gate.procs[i]? = some inv) (hb : inv.phase = .body) (ht : s.todo i = some []) :
    TickInv n env calls st
      { s with gate := s.gate.step i, todo := Function.update s.todo i none } evs := by
  have hin := GateState.inBody_step_of_body hi hb
  refine ⟨h.toConcShape.leave, fun j => ?_, h.nodup, fun k hk => ?_,
    fun j c' todo hc' hj ht' => ?_⟩
  · rw [h.read_iff j]
    by_cases hji : j = i
    · subst hji
      rw [GateState.step_of_body hi hb]
      simp [GateState.getElem?_set_of_some hi, hi, hb, ht]
    · simp only [GateState.getElem?_step_ne _ hji, Function.update_noteq hji]
  · by_cases hkc : k = c.key
    · subst hkc
      exact h.held i c [] hc ⟨inv, hi, hb, h.key_eq hc hi⟩ ht
    · refine h.free k fun j hj => ?_
      by_cases hji : j = i
      · exact absurd ((h.inBody_iff hc).1 (hji ▸ hj)).2.symm hkc
      · simpa only [Function.update_noteq hji] using hk j ((hin j k).2 ⟨hji, hj⟩)
  · obtain ⟨hji, hj⟩ := (hin j c'.key).1 hj
    simp only [Function.update_noteq hji] at ht'
    exact h.held j c' todo hc' hj ht'

/-- **Step lemma**: every step of every call keeps the invariant. -/
lemma step (hown : ∀ c ∈ calls, c.GetsOwnPod) (h : TickInv n env calls st s evs) (i : Nat) :
    TickInv n env calls st (s.step n env calls i) (evs ++ s.readEvents calls i) := by
  rcases Conc.step_cases n env calls s i with hs | ⟨c, inv, hc, hi, hcases⟩
  · rw [Conc.readEvents_of_step_eq hs, List.append_nil, hs]
    exact h
  rw [Conc.readEvents_eq hc hi]
  rcases hcases with ⟨hp, hk, hs⟩ | ⟨hp, hk, hs⟩ | ⟨hp, ht, hs⟩ |
    ⟨e, es, hp, ht, hs⟩ | ⟨hp, ht, hs⟩ <;> rw [hs]
  · rw [if_neg (by simp [hp]), List.append_nil]
    exact h.reject hi hp hk
  · rw [if_neg (by simp [hp]), List.append_nil]
    exact h.enter hi hp hk
  · rw [if_pos ⟨hp, ht⟩]
    exact h.read hown hc hi hp ht
  · rw [if_neg (by simp [ht]), List.append_nil]
    exact h.write hc hi hp ht
  · rw [if_neg (by simp [ht]), List.append_nil]
    exact h.leave hc hi hp ht

/-- **Run lemma**: the invariant holds in every interleaving of the calls and the ticks. -/
lemma reachable (hown : ∀ c ∈ calls, c.GetsOwnPod) (hs : s.ReachableTicks n env calls st evs) :
    TickInv n env calls st s evs := by
  induction hs with
  | init => exact init calls st
  | step i _ ih => exact ih.step hown i
  | tick ord parseCIDR o _ hu ih => exact ih.tick hu ord parseCIDR o

end TickInv

/-! ### Every interleaving with ticks is serial -/

/-- **Every interleaving of `AllocIP`, `ReleaseIP` and GC ticks is serial.** Whatever the
calls and the answers of their collaborators and of the ticks', and however the calls' steps
and the ticks interleave under the service's lock, once every call has returned each call
that returned from its body read its record once, and the store holds under every key what
the reads and the ticks leave when they run one after another, in the order they happened:
each read call on the store the events before it left. -/
theorem interleaving_ticks_serializable (n : NetworkService) (env : NodeEnv)
    (calls : List PodCall) (hown : ∀ c ∈ calls, c.GetsOwnPod) {st : Store} {s : Conc}
    {evs : List Event} (hs : s.ReachableTicks n env calls st evs)
    (hret : ∀ inv ∈ s.gate.procs, inv.phase.returned = true) :
    (evs.filterMap Event.reader).Nodup ∧
      (∀ i, i ∈ evs.filterMap Event.reader ↔
        ∃ inv ∈ s.gate.procs[i]?, inv.phase = .done) ∧
      ∀ k, s.store.get k = (serialEvents n env calls evs st).get k := by
  have h := TickInv.reachable hown hs
  refine ⟨h.nodup, fun i => ?_, fun k => h.free k fun j hj => absurd hj
    (ConcInv.not_inBody hret j k)⟩
  rw [h.read_iff i]
  refine exists_congr fun inv => and_congr_right fun hi => or_iff_right fun hb => ?_
  simpa [hb.1, Phase.returned] using hret inv (List.getElem?_mem hi)

/-- **Every call reads the serial store.** In every interleaving of `AllocIP`, `ReleaseIP` and
GC ticks, a call that reads its record finds what the reads and ticks before it leave when
they run one after another: so its reply and its store calls are those it has in that
serial order. -/
theorem interleaving_replies_serial (n : NetworkService) (env : NodeEnv) (calls : List PodCall)
    (hown : ∀ c ∈ calls, c.GetsOwnPod) {st : Store} {s : Conc} {evs : List Event}
    (hs : s.ReachableTicks n env calls st evs) {i : Nat} {c : PodCall} {inv : Invocation}
    (hc : calls[i]? = some c) (hi : s.gate.procs[i]? = some inv) (hb : inv.phase = .body)
    (ht : s.todo i = none) :
    (∀ o r, c = .allocIP o r →
      allocIP n env o s.store r = allocIP n env o (serialEvents n env calls evs st) r) ∧
    ∀ o r, c = .releaseIP o r →
      releaseIP n o s.store r = releaseIP n o (serialEvents n env calls evs st) r := by
  have hget := (TickInv.reachable hown hs).get_key_of_read hc hi hb ht
  have hc' := hown c (List.getElem?_mem hc)
  refine ⟨fun o r he => allocIP_congr n env o r fun p hp => ?_,
    fun o r he => releaseIP_congr n o r fun p hp => ?_⟩ <;> subst he <;> rw [hc' p hp] <;>
    exact hget

/-- The `ReleaseIP` of `eipCalls`, past its gate once the `AllocIP` has returned, reads what
the `AllocIP` left. -/
theorem interleaving_replies_serial_eip :
    ∃ evs, ((Conc.init eipCalls Store.empty).run eipService plainNode eipCalls
        [0, 0, 0, 0, 0, 0, 0, 1]).ReachableTicks eipService plainNode eipCalls Store.empty evs ∧
      releaseIP eipService eipReleased ((Conc.init eipCalls Store.empty).run eipService plainNode
          eipCalls [0, 0, 0, 0, 0, 0, 0, 1]).store ⟨"web-0", "default", "c1"⟩ =
        releaseIP eipService eipReleased
          (serialEvents eipService plainNode eipCalls evs Store.empty)
          ⟨"web-0", "default", "c1"⟩ := by
  obtain ⟨evs, hR⟩ := (@Conc.ReachableTicks.init eipService plainNode eipCalls Store.empty).run
    [0, 0, 0, 0, 0, 0, 0, 1]
  exact ⟨evs, hR, (interleaving_replies_serial eipService plainNode eipCalls
    eipCalls_getsOwnPod hR (i := 1) rfl rfl rfl rfl).2 _ _ rfl⟩

/-- `AllocIP` of `eipPod` passes its gate, a tick runs before it reads, and the two calls of
`eipCalls` then run to their end. -/
theorem interleaving_ticks_serializable_eip :
    ∃ evs, ((((Conc.init eipCalls Store.empty).step eipService plainNode eipCalls 0).tick
        eipService MapOrder.insertion (fun _ => none) (quietTick [])).run eipService plainNode
          eipCalls [0, 0, 0, 0, 0, 0, 0, 1, 1, 1, 1, 1, 1, 1]).ReachableTicks eipService
            plainNode eipCalls Store.empty evs ∧
      ∀ k, ((((Conc.init eipCalls Store.empty).step eipService plainNode eipCalls 0).tick
        eipService MapOrder.insertion (fun _ => none) (quietTick [])).run eipService plainNode
          eipCalls [0, 0, 0, 0, 0, 0, 0, 1, 1, 1, 1, 1, 1, 1]).store.get k =
            (serialEvents eipService plainNode eipCalls evs Store.empty).get k := by
  obtain ⟨evs, hR⟩ := (@Conc.ReachableTicks.tick eipService plainNode eipCalls Store.empty _ _
    MapOrder.insertion (fun _ => none) (quietTick []) (.step 0 .init)
      fun j l h => Option.noConfusion (h.symm.trans rfl)).run
        [0, 0, 0, 0, 0, 0, 0, 1, 1, 1, 1, 1, 1, 1]
  exact ⟨evs, hR, (interleaving_ticks_serializable eipService plainNode eipCalls
    eipCalls_getsOwnPod hR (by decide)).2.2⟩

end Terway

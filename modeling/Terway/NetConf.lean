import Terway.Types

/-!
The default-route policy of a reply's interfaces (`defaultForNetConf` and `defaultIf` of
`daemon.go`, spec §4.5).

`defaultForNetConf` mutates the `NetConf`s its slice points to. `defaultForNetConfInPlace`
returns the slice when the call returns, with its error; `defaultForNetConf`, which the
handlers call, returns the slice or the error, and `defaultForNetConf_eq_inPlace` reads it
off the first.

* `scanNetConf`: the first loop, with its two flags and its early exit on a second default
  route; `scanNetConf_eq` computes it from the counts of the list.
* `markFirstDefault`: the second loop, which marks the first default interface.
* `DefaultRoutePolicy`: exactly one entry routes by default and some entry is a default
  interface; `defaultForNetConf_policy` shows every non-empty list `defaultForNetConf`
  accepts leaves it in that shape.
* `defaultForNetConf_exact`: the call fails exactly on two default routes or no default
  interface, and leaves the slice then; on success it changes at most the default route of
  the first default interface, and a second call changes nothing.
* `defaultForNetConf_append_default`: the default route of an appended default interface
  may be set before the call or left to it, with the same result; `AllocIP` does the first
  and `GetIPInfo` the second.
-/

namespace Terway

/-- `IfEth0`. -/
def ifEth0 : String := "eth0"

/-- `defaultIf`: the name of a default interface, `""` or `"eth0"`. -/
def defaultIf (name : String) : Bool := name = "" || name = ifEth0

/-- The first loop of `defaultForNetConf`: `none` for the early `return` on a duplicated
default route, else the final `(defaultRouteSet, defaultIfSet)`. -/
def scanNetConf : List NetConf → Bool → Bool → Option (Bool × Bool)
  | [], defaultRouteSet, defaultIfSet => some (defaultRouteSet, defaultIfSet)
  | c :: cs, defaultRouteSet, defaultIfSet =>
    if c.defaultRoute && defaultRouteSet then none
    else scanNetConf cs (defaultRouteSet || c.defaultRoute) (defaultIfSet || defaultIf c.ifName)

/-- The second loop of `defaultForNetConf`: mark the first entry named `""` or `"eth0"` as
the default route, then `break`. -/
def markFirstDefault : List NetConf → List NetConf
  | [] => []
  | c :: cs =>
    if c.ifName = "" || c.ifName = ifEth0 then { c with defaultRoute := true } :: cs
    else c :: markFirstDefault cs

/-- `defaultForNetConf`: check that at most one entry routes by default and that some entry
is a default interface, and route by the first default interface when no entry does. -/
def defaultForNetConf (netConf : List NetConf) : Except Err (List NetConf) :=
  if netConf.isEmpty then .ok netConf
  else
    match scanNetConf netConf false false with
    | none => .error (.msg "default route is dumplicated")
    | some (defaultRouteSet, defaultIfSet) =>
      if !defaultIfSet then .error (.msg "default interface is not set")
      else if !defaultRouteSet then .ok (markFirstDefault netConf)
      else .ok netConf

/-- `defaultForNetConf` as the source runs it on its slice: the entries when it returns, with
the error it returns. The second loop, its only write, runs after its last `return` with an
error. -/
def defaultForNetConfInPlace (netConf : List NetConf) : List NetConf × Option Err :=
  if netConf.isEmpty then (netConf, none)
  else
    match scanNetConf netConf false false with
    | none => (netConf, some (.msg "default route is dumplicated"))
    | some (defaultRouteSet, defaultIfSet) =>
      if !defaultIfSet then (netConf, some (.msg "default interface is not set"))
      else if !defaultRouteSet then (markFirstDefault netConf, none)
      else (netConf, none)

/-- The number of entries that route by default. -/
def defaultRouteCount (l : List NetConf) : Nat := l.countP (·.defaultRoute)

/-- Some entry is a default interface. -/
def hasDefaultIf (l : List NetConf) : Bool := (l.map (·.ifName)).any defaultIf

/-- The policy of spec §4.5 on a reply's interfaces: exactly one entry routes by default,
and some entry is a default interface. -/
def DefaultRoutePolicy (l : List NetConf) : Prop :=
  defaultRouteCount l = 1 ∧ hasDefaultIf l = true

instance (l : List NetConf) : Decidable (DefaultRoutePolicy l) :=
  inferInstanceAs (Decidable (_ ∧ _))

/-! ### The two loops -/

@[simp] lemma defaultRouteCount_nil : defaultRouteCount [] = 0 := rfl

@[simp] lemma defaultRouteCount_cons (c : NetConf) (cs : List NetConf) :
    defaultRouteCount (c :: cs) = defaultRouteCount cs + c.defaultRoute.toNat := by
  cases h : c.defaultRoute <;> simp [defaultRouteCount, List.countP_cons, h]

@[simp] lemma hasDefaultIf_nil : hasDefaultIf [] = false := rfl

@[simp] lemma hasDefaultIf_cons (c : NetConf) (cs : List NetConf) :
    hasDefaultIf (c :: cs) = (defaultIf c.ifName || hasDefaultIf cs) := rfl

@[simp] lemma defaultRouteCount_append (l m : List NetConf) :
    defaultRouteCount (l ++ m) = defaultRouteCount l + defaultRouteCount m :=
  List.countP_append ..

@[simp] lemma hasDefaultIf_append (l m : List NetConf) :
    hasDefaultIf (l ++ m) = (hasDefaultIf l || hasDefaultIf m) := by
  simp [hasDefaultIf]

/-- The first loop exits early exactly when two entries route by default (counting the
flag it starts from), and otherwise ORs the two flags over the list. -/
lemma scanNetConf_eq (l : List NetConf) (dr di : Bool) :
    scanNetConf l dr di =
      if defaultRouteCount l + dr.toNat ≤ 1 then
        some (dr || decide (0 < defaultRouteCount l), di || hasDefaultIf l)
      else none := by
  induction l generalizing dr di with
  | nil => cases dr <;> simp [scanNetConf]
  | cons c cs ih =>
    rw [scanNetConf, ih]
    cases hc : c.defaultRoute <;> cases dr <;>
      simp [hc, Bool.or_assoc, Bool.or_comm (defaultIf c.ifName)]

lemma markFirstDefault_cons (c : NetConf) (cs : List NetConf) :
    markFirstDefault (c :: cs) =
      if defaultIf c.ifName then { c with defaultRoute := true } :: cs
      else c :: markFirstDefault cs := rfl

/-- The second loop keeps every interface name. -/
@[simp] lemma map_ifName_markFirstDefault (l : List NetConf) :
    (markFirstDefault l).map (·.ifName) = l.map (·.ifName) := by
  induction l with
  | nil => rfl
  | cons c cs ih => by_cases h : (c.ifName = "" || c.ifName = ifEth0) = true <;> simp_all [markFirstDefault]

/-- On a list with a default interface and no default route, the second loop leaves
exactly one default route. -/
lemma defaultRouteCount_markFirstDefault {l : List NetConf} (hif : hasDefaultIf l = true)
    (h0 : defaultRouteCount l = 0) : defaultRouteCount (markFirstDefault l) = 1 := by
  induction l with
  | nil => simp at hif
  | cons c cs ih =>
    have hc : c.defaultRoute = false := by cases hc : c.defaultRoute <;> simp_all
    by_cases h : (c.ifName = "" || c.ifName = ifEth0) = true
    · simp only [markFirstDefault, h, if_true, defaultRouteCount_cons]
      simp_all
    · have hd : defaultIf c.ifName = false := by simpa [defaultIf] using h
      simp only [markFirstDefault, h, if_false, defaultRouteCount_cons, hc]
      simp_all

/-- The second loop passes over entries that are no default interface. -/
lemma markFirstDefault_append {l : List NetConf} (hl : hasDefaultIf l = false) (m : List NetConf) :
    markFirstDefault (l ++ m) = l ++ markFirstDefault m := by
  induction l with
  | nil => rfl
  | cons c cs ih =>
    simp only [hasDefaultIf_cons, Bool.or_eq_false_iff, defaultIf] at hl
    simp [markFirstDefault, hl.1, ih hl.2]

/-! ### The policy -/

@[simp] lemma defaultForNetConf_nil : defaultForNetConf [] = .ok [] := rfl

/-- `defaultForNetConf` keeps the interfaces and their names. -/
lemma map_ifName_of_defaultForNetConf {l l' : List NetConf} (h : defaultForNetConf l = .ok l') :
    l'.map (·.ifName) = l.map (·.ifName) := by
  unfold defaultForNetConf at h
  split_ifs at h with he
  · cases h; rfl
  · split at h
    · cases h
    · split_ifs at h <;> cases h <;> simp

/-- **The default-route policy** (spec §4.5): a non-empty list that `defaultForNetConf`
accepts comes out non-empty, with exactly one default route and a default interface. -/
theorem defaultForNetConf_policy {l l' : List NetConf} (h : defaultForNetConf l = .ok l')
    (hne : l ≠ []) : l' ≠ [] ∧ DefaultRoutePolicy l' := by
  have hnames := map_ifName_of_defaultForNetConf h
  have hl' : l' ≠ [] := fun h0 => hne (by simpa [h0] using hnames.symm)
  have hif : hasDefaultIf l' = hasDefaultIf l := by simp only [hasDefaultIf, hnames]
  unfold defaultForNetConf at h
  rw [if_neg (by simpa using hne), scanNetConf_eq] at h
  split_ifs at h with hle
  simp only [Bool.false_or, Bool.toNat_false, Nat.add_zero] at h hle
  split_ifs at h with hdi hdr <;> cases h
  · have hz : defaultRouteCount l = 0 := by simpa using hdr
    exact ⟨hl', defaultRouteCount_markFirstDefault (by simpa using hdi) hz, by simpa [hif] using hdi⟩
  · exact ⟨hl', by simp at hdr; omega, by simpa [hif] using hdi⟩

/-- What `defaultForNetConf` accepts comes out empty or in the shape of the policy. -/
lemma defaultForNetConf_nil_or_policy {l l' : List NetConf} (h : defaultForNetConf l = .ok l') :
    l' = [] ∨ l' ≠ [] ∧ DefaultRoutePolicy l' := by
  rcases eq_or_ne l [] with rfl | hne
  · cases h; exact .inl rfl
  · exact .inr (defaultForNetConf_policy h hne)

/-- A default interface appended to entries with no default interface: the list where it
routes by default, if accepted, is also what `defaultForNetConf` makes of the list where it
does not, since the second loop marks it. -/
lemma defaultForNetConf_append_default {l L : List NetConf} {c : NetConf}
    (hl : hasDefaultIf l = false) (hc : defaultIf c.ifName = true)
    (h : defaultForNetConf (l ++ [{ c with defaultRoute := true }]) = .ok L) :
    defaultForNetConf (l ++ [{ c with defaultRoute := false }]) = .ok L := by
  have hm : markFirstDefault [{ c with defaultRoute := false }] =
      [{ c with defaultRoute := true }] := by
    simp only [defaultIf] at hc
    simp [markFirstDefault, hc]
  rw [defaultForNetConf, if_neg (by simp), scanNetConf_eq] at h ⊢
  by_cases h0 : defaultRouteCount l = 0 <;> simp [hl, hc, h0] at h
  simp [hl, hc, h0, markFirstDefault_append hl, hm, ← h]

/-! ### The slice after the call -/

/-- The model that returns the list or the error reads the in-place one off. -/
lemma defaultForNetConf_eq_inPlace (l : List NetConf) :
    defaultForNetConf l = match defaultForNetConfInPlace l with
      | (l', none) => .ok l'
      | (_, some e) => .error e := by
  unfold defaultForNetConf defaultForNetConfInPlace
  split_ifs
  · rfl
  · split
    · rfl
    · split_ifs <;> rfl

/-- No entry is a default interface exactly when none is named `""` or `"eth0"`. -/
lemma hasDefaultIf_eq_false_iff {l : List NetConf} :
    hasDefaultIf l = false ↔ ∀ c ∈ l, c.ifName ≠ "" ∧ c.ifName ≠ "eth0" := by
  simp [hasDefaultIf, defaultIf, ifEth0]

lemma defaultRouteCount_eq_zero_iff {l : List NetConf} :
    defaultRouteCount l = 0 ↔ ∀ c ∈ l, c.defaultRoute = false := by
  simp [defaultRouteCount, List.countP_eq_zero]

/-- On a non-empty slice the call is decided by the counts of the list: an error on a
second default route or on no default interface, else the second loop when no entry routes
by default. -/
lemma defaultForNetConfInPlace_eq {l : List NetConf} (hl : l ≠ []) :
    defaultForNetConfInPlace l =
      if 2 ≤ defaultRouteCount l then (l, some (.msg "default route is dumplicated"))
      else if hasDefaultIf l = false then (l, some (.msg "default interface is not set"))
      else if defaultRouteCount l = 0 then (markFirstDefault l, none)
      else (l, none) := by
  rw [defaultForNetConfInPlace, if_neg (by simpa using hl), scanNetConf_eq]
  by_cases h2 : 2 ≤ defaultRouteCount l
  · rw [if_neg (by simp; omega), if_pos h2]
  · rw [if_pos (by simp; omega), if_neg h2]
    cases hasDefaultIf l <;> simp [Nat.pos_iff_ne_zero]

/-- A list in the shape of the policy is accepted as it is. -/
lemma defaultForNetConfInPlace_of_policy {l : List NetConf} (h : DefaultRoutePolicy l) :
    defaultForNetConfInPlace l = (l, none) := by
  have hl : l ≠ [] := by rintro rfl; simp [DefaultRoutePolicy] at h
  obtain ⟨h1, hif⟩ := h
  rw [defaultForNetConfInPlace_eq hl, if_neg (by omega), if_neg (by simp [hif]), if_neg (by omega)]

/-- On a list with a default interface, the second loop sets the default route of the first
one and changes nothing else. -/
lemma markFirstDefault_split {l : List NetConf} (h : hasDefaultIf l = true) :
    ∃ pre c post, l = pre ++ c :: post ∧ hasDefaultIf pre = false ∧ defaultIf c.ifName = true ∧
      markFirstDefault l = pre ++ { c with defaultRoute := true } :: post := by
  induction l with
  | nil => simp at h
  | cons c cs ih =>
    cases hc : defaultIf c.ifName
    · rw [hasDefaultIf_cons, hc, Bool.false_or] at h
      obtain ⟨pre, c', post, rfl, hpre, hc', hm⟩ := ih h
      exact ⟨c :: pre, c', post, rfl, by simp [hpre, hc], hc', by simp [markFirstDefault_cons, hc, hm]⟩
    · exact ⟨[], c, cs, rfl, rfl, hc, by simp [markFirstDefault_cons, hc]⟩

/-- What the call can do: accept the empty slice; fail, leaving the slice as it was, on a
second default route or on no default interface; or, with a default interface, accept the
slice as it is when one entry routes by default and run the second loop when none does. -/
lemma defaultForNetConfInPlace_cases (L : List NetConf) :
    L = [] ∧ defaultForNetConfInPlace L = ([], none) ∨
    L ≠ [] ∧ (2 ≤ defaultRouteCount L ∨ hasDefaultIf L = false) ∧
      (∃ e, defaultForNetConfInPlace L = (L, some e)) ∨
    defaultRouteCount L = 1 ∧ hasDefaultIf L = true ∧ defaultForNetConfInPlace L = (L, none) ∨
    defaultRouteCount L = 0 ∧ hasDefaultIf L = true ∧
      defaultForNetConfInPlace L = (markFirstDefault L, none) := by
  rcases eq_or_ne L [] with rfl | hl
  · exact .inl ⟨rfl, rfl⟩
  rw [defaultForNetConfInPlace_eq hl]
  by_cases h2 : 2 ≤ defaultRouteCount L
  · exact .inr (.inl ⟨hl, .inl h2, _, by rw [if_pos h2]⟩)
  rw [if_neg h2]
  cases hif : hasDefaultIf L
  · exact .inr (.inl ⟨hl, .inr rfl, _, rfl⟩)
  simp only [Bool.true_eq_false, if_false]
  by_cases h0 : defaultRouteCount L = 0
  · exact .inr (.inr (.inr ⟨h0, trivial, by rw [if_pos h0]⟩))
  · exact .inr (.inr (.inl ⟨by omega, trivial, by rw [if_neg h0]⟩))

/-- `defaultIf` spelled out. -/
lemma defaultIf_eq_true_iff {name : String} : defaultIf name = true ↔ name = "" ∨ name = "eth0" := by
  simp [defaultIf, ifEth0]

/-- **`defaultForNetConf` implements the default-route policy exactly**: it fails exactly on
a non-empty slice with two default routes or no default interface, and then leaves the
slice as it was; on success it leaves a slice that has a default route as it was, and
otherwise sets the default route of the first default interface and changes nothing else,
so a non-empty result routes by exactly one entry; a second call on the result changes
nothing and succeeds. -/
theorem defaultForNetConf_exact (L : List NetConf) :
    ((defaultForNetConfInPlace L).2.isSome ↔
      L ≠ [] ∧ (2 ≤ defaultRouteCount L ∨ ∀ c ∈ L, c.ifName ≠ "" ∧ c.ifName ≠ "eth0")) ∧
    ((defaultForNetConfInPlace L).2.isSome → (defaultForNetConfInPlace L).1 = L) ∧
    ((defaultForNetConfInPlace L).2 = none →
      ((∃ c ∈ L, c.defaultRoute = true) → (defaultForNetConfInPlace L).1 = L) ∧
      ((∀ c ∈ L, c.defaultRoute = false) → L = [] ∧ (defaultForNetConfInPlace L).1 = [] ∨
        ∃ pre c post, L = pre ++ c :: post ∧
          (∀ c' ∈ pre, c'.ifName ≠ "" ∧ c'.ifName ≠ "eth0") ∧ (c.ifName = "" ∨ c.ifName = "eth0") ∧
          (defaultForNetConfInPlace L).1 = pre ++ { c with defaultRoute := true } :: post) ∧
      ((defaultForNetConfInPlace L).1 ≠ [] → defaultRouteCount (defaultForNetConfInPlace L).1 = 1) ∧
      defaultForNetConfInPlace (defaultForNetConfInPlace L).1 =
        ((defaultForNetConfInPlace L).1, none)) := by
  rw [← hasDefaultIf_eq_false_iff]
  rcases defaultForNetConfInPlace_cases L with
    ⟨rfl, h⟩ | ⟨hl, hbad, e, h⟩ | ⟨h1, hif, h⟩ | ⟨h0, hif, h⟩ <;> rw [h]
  · -- the empty slice
    simp [h]
  · -- an error
    exact ⟨iff_of_true rfl ⟨hl, hbad⟩, fun _ => rfl, fun h => (by cases h)⟩
  · -- one default route: accepted as it is
    refine ⟨iff_of_false (by simp) (by simp [h1, hif]), fun h => (by cases h), fun _ =>
      ⟨fun _ => rfl, fun hf => absurd (defaultRouteCount_eq_zero_iff.2 hf) (by omega),
        fun _ => h1, defaultForNetConfInPlace_of_policy ⟨h1, hif⟩⟩⟩
  · -- no default route: the second loop marks the first default interface
    obtain ⟨pre, c, post, hL, hpre, hc, hm⟩ := markFirstDefault_split hif
    have hcount : defaultRouteCount (markFirstDefault L) = 1 :=
      defaultRouteCount_markFirstDefault hif h0
    have hif' : hasDefaultIf (markFirstDefault L) = true := by
      simpa only [hasDefaultIf, map_ifName_markFirstDefault] using hif
    refine ⟨iff_of_false (by simp) (by simp [h0, hif]), fun h => (by cases h), fun _ =>
      ⟨fun ⟨c, hc, hd⟩ => absurd hd (by simp [defaultRouteCount_eq_zero_iff.1 h0 c hc]),
        fun _ => .inr ⟨pre, c, post, hL, hasDefaultIf_eq_false_iff.1 hpre,
          defaultIf_eq_true_iff.1 hc, hm⟩,
        fun _ => hcount, defaultForNetConfInPlace_of_policy ⟨hcount, hif'⟩⟩⟩

end Terway

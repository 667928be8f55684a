import HostInterop.Proofs.LineGrammar

/-!
# Resolution is the first match in declaration order

Resolving a constructor or a method names a class, for a method also a method name, and
parameter types, all by texts. The operands are read one after another and each reading can
fail, so which failure a resolution reports depends on the order of the readings. The outcome is
stated as a law, rule by rule in the order the rules apply (`ConstructorLaw`, `MethodLaw`):

1. the first operand that is not a text fails as the wrong kind of reference;
2. then a class that is not defined fails as a class not found;
3. then, when parameter types are named, the first name that is neither a primitive type nor a
   defined class fails as a class not found;
4. otherwise the first member in declaration order that fits is found: for a constructor, the
   first one whose parameter types are the named ones; for a method named alone, the first
   public one of the name, static or not; for a method with types, the first public one of the
   name and those types;
5. and when none fits, there is no such constructor or method.

Every list of operands falls under exactly one rule, so a law holds of one outcome only
(`ConstructorLaw.unique`, `MethodLaw.unique`), and the foreign table answers exactly that
outcome, without drawing any new object (`resolution_first_match_in_order`).
-/

namespace HostInterop.Foreign

open Host

/-! ## The first element with a property -/

section FirstWith

variable {α : Type}

/-- `a` is the first element of `l` with property `p`, at place `i`: no element before it has the
property. -/
def FirstWith (p : α → Prop) (l : List α) (i : Nat) (a : α) : Prop :=
  ∃ pre post, l = pre ++ a :: post ∧ pre.length = i ∧ p a ∧ ∀ b ∈ pre, ¬ p b

theorem FirstWith.congr {p q : α → Prop} (h : ∀ a, p a ↔ q a) {l : List α} {i : Nat} {a : α} :
    FirstWith p l i a ↔ FirstWith q l i a := by
  simp only [FirstWith, h]

/-- The first element of a list with a property is its head, or the first one of its tail. -/
theorem firstWith_cons_iff {p : α → Prop} {b : α} {l : List α} {i : Nat} {a : α} :
    FirstWith p (b :: l) i a ↔
      (p b ∧ i = 0 ∧ a = b) ∨ (¬ p b ∧ ∃ j, i = j + 1 ∧ FirstWith p l j a) := by
  constructor
  · rintro ⟨pre, post, hl, hi, ha, hpre⟩
    cases pre with
    | nil =>
      obtain ⟨rfl, -⟩ := List.cons.inj hl
      exact .inl ⟨ha, hi.symm, rfl⟩
    | cons x pre =>
      obtain ⟨rfl, rfl⟩ := List.cons.inj hl
      refine .inr ⟨hpre b List.mem_cons_self, pre.length, ?_, pre, post, rfl, rfl, ha,
        fun c hc => hpre c (List.mem_cons_of_mem b hc)⟩
      rw [← hi, List.length_cons]
  · rintro (⟨hb, rfl, rfl⟩ | ⟨hb, j, rfl, pre, post, rfl, rfl, ha, hpre⟩)
    · exact ⟨[], l, rfl, rfl, hb, fun _ h => absurd h List.not_mem_nil⟩
    · refine ⟨b :: pre, post, rfl, rfl, ha, fun c hc => ?_⟩
      rcases List.mem_cons.mp hc with rfl | hc
      · exact hb
      · exact hpre c hc

/-- Some element has the property, and then there is a first one, or none has. -/
theorem FirstWith.exists_or_forall (p : α → Prop) :
    ∀ l : List α, (∃ i a, FirstWith p l i a) ∨ ∀ a ∈ l, ¬ p a
  | [] => .inr fun _ h => absurd h List.not_mem_nil
  | b :: l => by
    by_cases hb : p b
    · exact .inl ⟨0, b, firstWith_cons_iff.mpr (.inl ⟨hb, rfl, rfl⟩)⟩
    · rcases FirstWith.exists_or_forall p l with ⟨j, a, h⟩ | h
      · exact .inl ⟨j + 1, a, firstWith_cons_iff.mpr (.inr ⟨hb, j, rfl, h⟩)⟩
      · refine .inr fun a ha => ?_
        rcases List.mem_cons.mp ha with rfl | ha
        · exact hb
        · exact h a ha

/-- The indexed search finds the first element with the property, at its place. -/
theorem findIndexed_of_firstWith {p : α → Bool} :
    ∀ {l : List α} {i : Nat} {a : α}, FirstWith (p · = true) l i a → findIndexed p l = some (i, a)
  | [], _, _, ⟨pre, post, h, _⟩ => absurd h.symm (List.append_ne_nil_of_right_ne_nil pre
      (List.cons_ne_nil _ post))
  | b :: l, i, a, h => by
    unfold findIndexed
    rcases firstWith_cons_iff.mp h with ⟨hb, rfl, rfl⟩ | ⟨hb, j, rfl, hl⟩
    · rw [if_pos hb]
    · rw [if_neg hb, findIndexed_of_firstWith hl]
      rfl

/-- The indexed search finds nothing when no element has the property. -/
theorem findIndexed_of_forall {p : α → Bool} :
    ∀ {l : List α}, (∀ a ∈ l, ¬ p a = true) → findIndexed p l = none
  | [], _ => rfl
  | b :: l, h => by
    unfold findIndexed
    rw [if_neg (h b List.mem_cons_self), findIndexed_of_forall fun a ha => h a (List.mem_cons_of_mem b ha)]
    rfl

end FirstWith

/-! ## Reading names -/

theorem nameOperand_eq (v : Value) :
    nameOperand v = match v.asStr? with
      | some s => .ok s
      | none => .error (.wrongReferenceKind "string" v.describe) := by
  cases v <;> rfl

/-- Name operands that are all texts are read as those texts. -/
theorem mapM_nameOperand_str : ∀ ns : List String, (ns.map Value.str).mapM nameOperand = .ok ns
  | [] => rfl
  | n :: ns => by
    rw [List.map_cons, List.mapM_cons, mapM_nameOperand_str ns]
    rfl

/-- Reading name operands fails at the first one that is not a text, as the wrong kind of
reference. -/
theorem mapM_nameOperand_of_firstWith {ops : List Value} {i : Nat} {v : Value}
    (h : FirstWith (·.asStr? = none) ops i v) :
    ops.mapM nameOperand = .error (.wrongReferenceKind "string" v.describe) := by
  obtain ⟨pre, post, rfl, -, hv, hpre⟩ := h
  refine Script.mapM_eq_error_of_append (by rw [nameOperand_eq, hv]) post fun x hx => ?_
  obtain ⟨s, hs⟩ := Option.ne_none_iff_exists'.mp (hpre x hx)
  exact ⟨s, by rw [nameOperand_eq, hs]⟩

/-- Operands none of which fails to be a text are texts. -/
theorem eq_map_str_of_forall : ∀ {ops : List Value}, (∀ v ∈ ops, ¬ v.asStr? = none) →
    ∃ ns : List String, ops = ns.map Value.str
  | [], _ => ⟨[], rfl⟩
  | v :: ops, h => by
    obtain ⟨s, hs⟩ := Option.ne_none_iff_exists'.mp (h v List.mem_cons_self)
    obtain ⟨ns, rfl⟩ := eq_map_str_of_forall fun w hw => h w (List.mem_cons_of_mem v hw)
    refine ⟨s :: ns, ?_⟩
    cases v <;> simp_all [Value.asStr?]

/-! ## Parameter types -/

/-- A name that a parameter type can be given by: the name of a primitive type, or of a class the
host defines. -/
def NamesType (host : Host) (name : String) : Prop :=
  Primitive.ofName? name ≠ none ∨ host.classes.find? name ≠ none

/-- A class found by its name carries that name. -/
theorem name_of_find? {cp : ClassPath} {name : String} {c : ClassDef} (h : cp.find? name = some c) :
    c.name = name := by
  simpa using List.find?_some h

/-- A name that names a type reads as the type it stands for. -/
theorem typeForName_of_namesType {host : Host} {t : String} (h : NamesType host t) :
    typeForName host t = .ok (TypeToken.ofName t) := by
  unfold typeForName TypeToken.ofName
  cases hp : Primitive.ofName? t with
  | some p => rfl
  | none =>
    -- not a primitive name, so a class of that name is defined
    have hcls : host.classes.find? t ≠ none := h.resolve_left (by simp [hp])
    obtain ⟨c, hc⟩ := Option.ne_none_iff_exists'.mp hcls
    simp only [resolveClass, hc]
    rw [← name_of_find? hc]
    rfl

/-- A name that names no type fails as a class not found. -/
theorem typeForName_of_not_namesType {host : Host} {t : String} (h : ¬ NamesType host t) :
    typeForName host t = .error (.classNotFound t) := by
  simp only [NamesType, not_or, not_not] at h
  simp only [typeForName, h.1, resolveClass, h.2]
  rfl

/-- Names that all name types read as the types they stand for. -/
theorem mapM_typeForName_of_forall {host : Host} :
    ∀ {ts : List String}, (∀ t ∈ ts, NamesType host t) →
      ts.mapM (typeForName host) = .ok (ts.map TypeToken.ofName)
  | [], _ => rfl
  | t :: ts, h => by
    rw [List.mapM_cons, typeForName_of_namesType (h t List.mem_cons_self),
      mapM_typeForName_of_forall fun t' ht' => h t' (List.mem_cons_of_mem t ht')]
    rfl

/-- Reading parameter types fails at the first name that names no type. -/
theorem mapM_typeForName_of_firstWith {host : Host} {ts : List String} {i : Nat} {t : String}
    (h : FirstWith (¬ NamesType host ·) ts i t) :
    ts.mapM (typeForName host) = .error (.classNotFound t) := by
  obtain ⟨pre, post, rfl, -, ht, hpre⟩ := h
  exact Script.mapM_eq_error_of_append (typeForName_of_not_namesType ht) post fun x hx =>
    ⟨_, typeForName_of_namesType (not_not.mp (hpre x hx))⟩

/-! ## The laws -/

/-- How resolving a constructor from operands `ops` (class name, then parameter type names) comes
out, rule by rule in the order the rules apply. -/
structure ConstructorLaw (host : Host) (ops : List Value) (out : Except RuntimeError Value) :
    Prop where
  /-- The first operand that is not a text fails as the wrong kind of reference. -/
  not_text : ∀ i v, FirstWith (·.asStr? = none) ops i v →
    out = .error (.wrongReferenceKind "string" v.describe)
  /-- A class that is not defined is not found. -/
  no_class : ∀ (cn : String) (ts : List String), ops = .str cn :: ts.map .str → host.classes.find? cn = none →
    out = .error (.classNotFound cn)
  /-- The first type name that names no type is a class not found. -/
  no_type : ∀ (cn : String) (ts : List String) (c : ClassDef) (i : Nat) (t : String), ops = .str cn :: ts.map .str → host.classes.find? cn = some c →
    FirstWith (¬ NamesType host ·) ts i t → out = .error (.classNotFound t)
  /-- The first constructor whose parameter types are the named ones is found, at its place. -/
  found : ∀ (cn : String) (ts : List String) (c : ClassDef) (i : Nat) (k : ConstructorDef), ops = .str cn :: ts.map .str → host.classes.find? cn = some c →
    (∀ t ∈ ts, NamesType host t) → FirstWith (·.params = ts.map TypeToken.ofName) c.constructors i k →
    out = .ok (.native (.ref (.ctor host.id i k)))
  /-- Without such a constructor there is none. -/
  none_found : ∀ (cn : String) (ts : List String) (c : ClassDef), ops = .str cn :: ts.map .str → host.classes.find? cn = some c →
    (∀ t ∈ ts, NamesType host t) → (∀ k ∈ c.constructors, k.params ≠ ts.map TypeToken.ofName) →
    out = .error (.noSuchConstructor cn)

/-- How resolving a method from operands `ops` (class name, method name, then parameter type
names) comes out, rule by rule in the order the rules apply. -/
structure MethodLaw (host : Host) (ops : List Value) (out : Except RuntimeError Value) : Prop where
  /-- The first operand that is not a text fails as the wrong kind of reference. -/
  not_text : ∀ i v, FirstWith (·.asStr? = none) ops i v →
    out = .error (.wrongReferenceKind "string" v.describe)
  /-- A class that is not defined is not found. -/
  no_class : ∀ (cn mn : String) (ts : List String), ops = .str cn :: .str mn :: ts.map .str → host.classes.find? cn = none →
    out = .error (.classNotFound cn)
  /-- The first type name that names no type is a class not found. -/
  no_type : ∀ (cn mn : String) (ts : List String) (c : ClassDef) (i : Nat) (t : String), ops = .str cn :: .str mn :: ts.map .str →
    host.classes.find? cn = some c → FirstWith (¬ NamesType host ·) ts i t →
    out = .error (.classNotFound t)
  /-- Named alone, the first public method of the name is found, static or not. -/
  found_by_name : ∀ (cn mn : String) (c : ClassDef) (i : Nat) (m : MethodDef), ops = [.str cn, .str mn] → host.classes.find? cn = some c →
    FirstWith (fun m => m.isPublic ∧ m.name = mn) c.methods i m →
    out = .ok (.native (.ref (.method host.id i m)))
  /-- Named alone, without a public method of the name there is none. -/
  none_by_name : ∀ (cn mn : String) (c : ClassDef), ops = [.str cn, .str mn] → host.classes.find? cn = some c →
    (∀ m ∈ c.methods, m.isPublic → m.name ≠ mn) → out = .error (.noSuchMethod cn mn)
  /-- With types, the first public method of the name and those types is found. -/
  found_by_types : ∀ (cn mn : String) (ts : List String) (c : ClassDef) (i : Nat) (m : MethodDef), ts ≠ [] → ops = .str cn :: .str mn :: ts.map .str →
    host.classes.find? cn = some c → (∀ t ∈ ts, NamesType host t) →
    FirstWith (fun m => m.isPublic ∧ m.name = mn ∧ m.params = ts.map TypeToken.ofName) c.methods i m →
    out = .ok (.native (.ref (.method host.id i m)))
  /-- With types, without a public method of the name and those types there is none. -/
  none_by_types : ∀ (cn mn : String) (ts : List String) (c : ClassDef), ts ≠ [] → ops = .str cn :: .str mn :: ts.map .str →
    host.classes.find? cn = some c → (∀ t ∈ ts, NamesType host t) →
    (∀ m ∈ c.methods, m.isPublic → m.name = mn → m.params ≠ ts.map TypeToken.ofName) →
    out = .error (.noSuchMethod cn mn)

/-! ## A law holds of one outcome -/

section Unique

variable {host : Host} {o₁ o₂ : Except RuntimeError Value}

theorem ConstructorLaw.unique {a : Value} {rest : List Value} (h₁ : ConstructorLaw host (a :: rest) o₁)
    (h₂ : ConstructorLaw host (a :: rest) o₂) : o₁ = o₂ := by
  -- the rules in the order they apply: each case falls under one rule, which fixes the outcome
  rcases FirstWith.exists_or_forall (·.asStr? = none) (a :: rest) with ⟨i, v, hv⟩ | htext
  · rw [h₁.not_text i v hv, h₂.not_text i v hv]
  obtain ⟨ns, hns⟩ := eq_map_str_of_forall htext
  obtain ⟨cn, ts, rfl⟩ : ∃ cn ts, ns = cn :: ts := by
    cases ns with
    | nil => cases hns
    | cons cn ts => exact ⟨cn, ts, rfl⟩
  cases hc : host.classes.find? cn with
  | none => rw [h₁.no_class cn ts hns hc, h₂.no_class cn ts hns hc]
  | some c =>
    rcases FirstWith.exists_or_forall (¬ NamesType host ·) ts with ⟨i, t, ht⟩ | hts
    · rw [h₁.no_type cn ts c i t hns hc ht, h₂.no_type cn ts c i t hns hc ht]
    have hknown : ∀ t ∈ ts, NamesType host t := fun t ht => not_not.mp (hts t ht)
    rcases FirstWith.exists_or_forall (·.params = ts.map TypeToken.ofName) c.constructors with
      ⟨i, k, hk⟩ | hnone
    · rw [h₁.found cn ts c i k hns hc hknown hk, h₂.found cn ts c i k hns hc hknown hk]
    · rw [h₁.none_found cn ts c hns hc hknown hnone, h₂.none_found cn ts c hns hc hknown hnone]

theorem MethodLaw.unique {a b : Value} {rest : List Value} (h₁ : MethodLaw host (a :: b :: rest) o₁)
    (h₂ : MethodLaw host (a :: b :: rest) o₂) : o₁ = o₂ := by
  rcases FirstWith.exists_or_forall (·.asStr? = none) (a :: b :: rest) with ⟨i, v, hv⟩ | htext
  · rw [h₁.not_text i v hv, h₂.not_text i v hv]
  obtain ⟨ns, hns⟩ := eq_map_str_of_forall htext
  obtain ⟨cn, mn, ts, rfl⟩ : ∃ cn mn ts, ns = cn :: mn :: ts := by
    rcases ns with _ | ⟨cn, _ | ⟨mn, ts⟩⟩
    · cases hns
    · cases hns
    · exact ⟨cn, mn, ts, rfl⟩
  cases hc : host.classes.find? cn with
  | none => rw [h₁.no_class cn mn ts hns hc, h₂.no_class cn mn ts hns hc]
  | some c =>
    -- named alone, the search is by name; with types, the types are read first
    by_cases hts : ts = []
    · subst hts
      rcases FirstWith.exists_or_forall (fun m => m.isPublic ∧ m.name = mn) c.methods with
        ⟨i, m, hm⟩ | hnone
      · rw [h₁.found_by_name cn mn c i m hns hc hm, h₂.found_by_name cn mn c i m hns hc hm]
      · have hnone' : ∀ m ∈ c.methods, m.isPublic → m.name ≠ mn :=
          fun m hm hp hn => hnone m hm ⟨hp, hn⟩
        rw [h₁.none_by_name cn mn c hns hc hnone', h₂.none_by_name cn mn c hns hc hnone']
    rcases FirstWith.exists_or_forall (¬ NamesType host ·) ts with ⟨i, t, ht⟩ | hunknown
    · rw [h₁.no_type cn mn ts c i t hns hc ht, h₂.no_type cn mn ts c i t hns hc ht]
    have hknown : ∀ t ∈ ts, NamesType host t := fun t ht => not_not.mp (hunknown t ht)
    rcases FirstWith.exists_or_forall
        (fun m => m.isPublic ∧ m.name = mn ∧ m.params = ts.map TypeToken.ofName) c.methods with
      ⟨i, m, hm⟩ | hnone
    · rw [h₁.found_by_types cn mn ts c i m hts hns hc hknown hm,
        h₂.found_by_types cn mn ts c i m hts hns hc hknown hm]
    · have hnone' : ∀ m ∈ c.methods, m.isPublic → m.name = mn → m.params ≠ ts.map TypeToken.ofName :=
        fun m hm hp hn hps => hnone m hm ⟨hp, hn, hps⟩
      rw [h₁.none_by_types cn mn ts c hts hns hc hknown hnone',
        h₂.none_by_types cn mn ts c hts hns hc hknown hnone']

end Unique

/-! ## The table's answer -/

/-- What the foreign table answers for resolving a constructor from operands `a :: rest`. -/
def constructorOutcome (host : Host) (a : Value) (rest : List Value) : Except RuntimeError Value := do
  let cn ← nameOperand a
  let types ← rest.mapM nameOperand
  let r ← resolveConstructor host cn types
  pure (.native (.ref r))

/-- What the foreign table answers for resolving a method from operands `a :: b :: rest`. -/
def methodOutcome (host : Host) (a b : Value) (rest : List Value) : Except RuntimeError Value := do
  let cn ← nameOperand a
  let mn ← nameOperand b
  let types ← rest.mapM nameOperand
  let r ← resolveMethod host cn mn types
  pure (.native (.ref r))

/-- Resolving a constructor admits any number of type names after the class name, and draws no
new object. -/
theorem dispatch_resolveConstructor (host : Host) (a : Value) (rest : List Value) :
    dispatch host (a :: rest) 1 = pure (constructorOutcome host a rest) := by
  have hslot : Operation.atSlot? 1 = some .resolveConstructor := rfl
  have haccepts : Operation.resolveConstructor.arity.accepts (a :: rest).length = true := by
    simp [Operation.arity]
  simp only [dispatch, hslot, haccepts, if_true]
  rfl

/-- Resolving a method admits any number of type names after the class and method names, and
draws no new object. -/
theorem dispatch_resolveMethod (host : Host) (a b : Value) (rest : List Value) :
    dispatch host (a :: b :: rest) 2 = pure (methodOutcome host a b rest) := by
  have hslot : Operation.atSlot? 2 = some .resolveMethod := rfl
  have haccepts : Operation.resolveMethod.arity.accepts (a :: b :: rest).length = true := by
    simp [Operation.arity]
  simp only [dispatch, hslot, haccepts, if_true]
  rfl

/-- A failure to read the operands as names is the answer. -/
theorem constructorOutcome_of_mapM_error {host : Host} {a : Value} {rest : List Value}
    {e : RuntimeError} (h : (a :: rest).mapM nameOperand = .error e) :
    constructorOutcome host a rest = .error e := by
  rw [List.mapM_cons] at h
  unfold constructorOutcome
  rcases Script.bind_eq_error h with ha | ⟨cn, ha, hrest⟩
  · rw [ha]; rfl
  · rcases Script.bind_eq_error hrest with hr | ⟨ts, -, hpure⟩
    · rw [ha]; simp only [bind, Except.bind, hr]
    · cases hpure

theorem methodOutcome_of_mapM_error {host : Host} {a b : Value} {rest : List Value}
    {e : RuntimeError} (h : (a :: b :: rest).mapM nameOperand = .error e) :
    methodOutcome host a b rest = .error e := by
  rw [List.mapM_cons, List.mapM_cons] at h
  unfold methodOutcome
  rcases Script.bind_eq_error h with ha | ⟨cn, ha, h⟩
  · rw [ha]; rfl
  rcases Script.bind_eq_error h with hb | ⟨bs, hbs, hpure⟩
  · rcases Script.bind_eq_error hb with hb | ⟨mn, hb, h⟩
    · rw [ha]; simp only [bind, Except.bind, hb]
    rcases Script.bind_eq_error h with hr | ⟨ts, -, hpure⟩
    · rw [ha]; simp only [bind, Except.bind, hb, hr]
    · cases hpure
  · cases hpure

/-- Operands that are all texts are resolved by those texts. -/
theorem constructorOutcome_str (host : Host) (cn : String) (ts : List String) :
    constructorOutcome host (.str cn) (ts.map .str) =
      (fun r => Value.native (.ref r)) <$> resolveConstructor host cn ts := by
  simp only [constructorOutcome, nameOperand, mapM_nameOperand_str, bind, Except.bind]
  cases resolveConstructor host cn ts <;> rfl

theorem methodOutcome_str (host : Host) (cn mn : String) (ts : List String) :
    methodOutcome host (.str cn) (.str mn) (ts.map .str) =
      (fun r => Value.native (.ref r)) <$> resolveMethod host cn mn ts := by
  simp only [methodOutcome, nameOperand, mapM_nameOperand_str, bind, Except.bind]
  cases resolveMethod host cn mn ts <;> rfl

/-- The class of a defined name resolves. -/
theorem resolveClass_of_find? {host : Host} {cn : String} {c : ClassDef}
    (hc : host.classes.find? cn = some c) : resolveClass host cn = .ok c := by
  simp only [resolveClass, hc]

theorem resolveClass_of_find?_none {host : Host} {cn : String} (hc : host.classes.find? cn = none) :
    resolveClass host cn = .error (.classNotFound cn) := by
  simp only [resolveClass, hc]

/-- The table's answer for a constructor obeys the law. -/
theorem constructorLaw_outcome (host : Host) (a : Value) (rest : List Value) :
    ConstructorLaw host (a :: rest) (constructorOutcome host a rest) where
  not_text _ _ hv := constructorOutcome_of_mapM_error (mapM_nameOperand_of_firstWith hv)
  no_class cn ts hops hc := by
    obtain ⟨rfl, rfl⟩ := List.cons.inj hops
    simp only [constructorOutcome_str, resolveConstructor, resolveClass_of_find?_none hc]
    rfl
  no_type cn ts c _ _ hops hc ht := by
    obtain ⟨rfl, rfl⟩ := List.cons.inj hops
    simp only [constructorOutcome_str, resolveConstructor, resolveClass_of_find? hc,
      mapM_typeForName_of_firstWith ht]
    rfl
  found cn ts c i k hops hc hknown hk := by
    obtain ⟨rfl, rfl⟩ := List.cons.inj hops
    have hfind : findIndexed (fun k => k.params == ts.map TypeToken.ofName) c.constructors =
        some (i, k) :=
      findIndexed_of_firstWith ((FirstWith.congr fun k => by simp).mp hk)
    simp only [constructorOutcome_str, resolveConstructor, resolveClass_of_find? hc,
      mapM_typeForName_of_forall hknown]
    simp only [bind, Except.bind, hfind]
    rfl
  none_found cn ts c hops hc hknown hnone := by
    obtain ⟨rfl, rfl⟩ := List.cons.inj hops
    have hfind : findIndexed (fun k => k.params == ts.map TypeToken.ofName) c.constructors = none :=
      findIndexed_of_forall fun k hk => by simpa using hnone k hk
    simp only [constructorOutcome_str, resolveConstructor, resolveClass_of_find? hc,
      mapM_typeForName_of_forall hknown]
    simp only [bind, Except.bind, hfind]
    rfl

/-- The table's answer for a method obeys the law. -/
theorem methodLaw_outcome (host : Host) (a b : Value) (rest : List Value) :
    MethodLaw host (a :: b :: rest) (methodOutcome host a b rest) where
  not_text _ _ hv := methodOutcome_of_mapM_error (mapM_nameOperand_of_firstWith hv)
  no_class cn mn ts hops hc := by
    obtain ⟨rfl, hbr⟩ := List.cons.inj hops
    obtain ⟨rfl, rfl⟩ := List.cons.inj hbr
    simp only [methodOutcome_str, resolveMethod, resolveClass_of_find?_none hc]
    rfl
  no_type cn mn ts c _ _ hops hc ht := by
    obtain ⟨rfl, hbr⟩ := List.cons.inj hops
    obtain ⟨rfl, rfl⟩ := List.cons.inj hbr
    -- a first unknown type name leaves at least one type name
    have hne : ts.isEmpty = false := by
      obtain ⟨pre, post, rfl, -⟩ := ht
      simp
    simp only [methodOutcome_str, resolveMethod, resolveClass_of_find? hc, hne,
      mapM_typeForName_of_firstWith ht]
    rfl
  found_by_name cn mn c i m hops hc hm := by
    obtain ⟨rfl, hbr⟩ := List.cons.inj hops
    obtain ⟨rfl, rfl⟩ := List.cons.inj hbr
    have hfind : findIndexed (fun m => m.isPublic && m.name == mn) c.methods = some (i, m) :=
      findIndexed_of_firstWith ((FirstWith.congr fun m => by simp).mp hm)
    rw [show ([] : List Value) = ([] : List String).map Value.str from rfl, methodOutcome_str]
    simp only [resolveMethod, resolveClass_of_find? hc, List.isEmpty_nil, if_true]
    simp only [bind, Except.bind, pure, Except.pure, hfind]
    rfl
  none_by_name cn mn c hops hc hnone := by
    obtain ⟨rfl, hbr⟩ := List.cons.inj hops
    obtain ⟨rfl, rfl⟩ := List.cons.inj hbr
    have hfind : findIndexed (fun m => m.isPublic && m.name == mn) c.methods = none :=
      findIndexed_of_forall fun m hm => by simpa using hnone m hm
    rw [show ([] : List Value) = ([] : List String).map Value.str from rfl, methodOutcome_str]
    simp only [resolveMethod, resolveClass_of_find? hc, List.isEmpty_nil, if_true]
    simp only [bind, Except.bind, pure, Except.pure, hfind]
    rfl
  found_by_types cn mn ts c i m hts hops hc hknown hm := by
    obtain ⟨rfl, hbr⟩ := List.cons.inj hops
    obtain ⟨rfl, rfl⟩ := List.cons.inj hbr
    have hfind : findIndexed (fun m => m.isPublic && m.name == mn &&
        m.params == ts.map TypeToken.ofName) c.methods = some (i, m) :=
      findIndexed_of_firstWith ((FirstWith.congr fun m => by simp [and_assoc]).mp hm)
    simp only [methodOutcome_str, resolveMethod, resolveClass_of_find? hc,
      List.isEmpty_eq_false_iff.mpr hts, mapM_typeForName_of_forall hknown]
    simp only [bind, Except.bind, pure, Except.pure, hfind]
    rfl
  none_by_types cn mn ts c hts hops hc hknown hnone := by
    obtain ⟨rfl, hbr⟩ := List.cons.inj hops
    obtain ⟨rfl, rfl⟩ := List.cons.inj hbr
    have hfind : findIndexed (fun m => m.isPublic && m.name == mn &&
        m.params == ts.map TypeToken.ofName) c.methods = none :=
      findIndexed_of_forall fun m hm => by simpa [and_assoc] using hnone m hm
    simp only [methodOutcome_str, resolveMethod, resolveClass_of_find? hc,
      List.isEmpty_eq_false_iff.mpr hts, mapM_typeForName_of_forall hknown]
    simp only [bind, Except.bind, pure, Except.pure, hfind]
    rfl

/-- A computation that draws no object gives one outcome. -/
theorem pure_inj {α : Type} {x y : α} (h : (pure x : HostM α) = pure y) : x = y :=
  congrArg (fun m : HostM α => (m.run 0).1) h

/-- Resolution is the first match in declaration order, with a fixed precedence of failures.
Resolving a constructor from a class name and type names, or a method from a class name, a
method name and type names, the foreign table draws no new object and answers exactly the one
outcome its law allows: the wrong kind of reference for the first operand that is not a text;
then a class not found for an undefined class; then a class not found for the first type name
that is neither a primitive type nor a defined class; then the first constructor with exactly
the named parameter types, the first public method of the name (named alone, static or not), or
the first public method of the name and the named types; and no such constructor or method when
none fits. -/
theorem resolution_first_match_in_order (host : Host) :
    (∀ (a : Value) (rest : List Value) (out : Except RuntimeError Value),
      dispatch host (a :: rest) 1 = pure out ↔ ConstructorLaw host (a :: rest) out) ∧
    (∀ (a b : Value) (rest : List Value) (out : Except RuntimeError Value),
      dispatch host (a :: b :: rest) 2 = pure out ↔ MethodLaw host (a :: b :: rest) out) := by
  refine ⟨fun a rest out => ?_, fun a b rest out => ?_⟩
  · have hlaw := constructorLaw_outcome host a rest
    rw [dispatch_resolveConstructor]
    constructor
    · intro h
      rw [← pure_inj h]
      exact hlaw
    · intro h
      rw [hlaw.unique h]
  · have hlaw := methodLaw_outcome host a b rest
    rw [dispatch_resolveMethod]
    constructor
    · intro h
      rw [← pure_inj h]
      exact hlaw
    · intro h
      rw [hlaw.unique h]

end HostInterop.Foreign

import HostInterop.Proofs.HostFailure
import HostInterop.Host.Standard

/-!
# Static calls through a resolved reference

A static call names its method in one of two ways: by a method reference that resolution
returned, or by a method name and a class. The two use different searches. Resolution by name
alone takes the first public method of that name, static or not (`resolveMethod`); a static call
by name takes the first public static method of that name (`resolveStatic`).

The searches meet when the first public method of the name is static: it is then also the first
public static one (`find?_and_of_find?`), and the two calls run the same method with no receiver
on the same arguments, whatever the class operand of the call through the reference
(`invokeStatic_reference_agrees_with_name`). When the first public method of the name is an
instance method, the call through its reference reaches the host without a receiver and fails
with a null-pointer exception, while the call by name runs the first public static method of the
name or finds none. `example.Point.getX` is such a method (`getX_reference_static_call`).
-/

namespace HostInterop.Foreign

open Host

/-! ## Searching in declaration order -/

/-- The indexed search finds what the plain search finds. -/
theorem find?_of_findIndexed {α : Type} {p : α → Bool} :
    ∀ {l : List α} {i : Nat} {a : α}, findIndexed p l = some (i, a) → l.find? p = some a
  | [], _, _, h => by cases h
  | b :: l, i, a, h => by
    unfold findIndexed at h
    cases hb : p b with
    | true =>
      rw [hb, if_pos rfl] at h
      cases h
      exact List.find?_cons_of_pos hb
    | false =>
      rw [hb] at h
      obtain ⟨⟨j, a'⟩, hrest, hj⟩ := Option.map_eq_some_iff.mp h
      cases hj
      rw [List.find?_cons_of_neg (by simp [hb])]
      exact find?_of_findIndexed hrest

/-- When the first element satisfying `p` also satisfies `q`, it is the first element satisfying
both: the elements before it fail `p`. -/
theorem find?_and_of_find? {α : Type} {p q : α → Bool} {l : List α} {a : α}
    (h : l.find? p = some a) (hq : q a = true) : l.find? (fun x => p x && q x) = some a := by
  obtain ⟨hp, pre, post, rfl, hpre⟩ := List.find?_eq_some_iff_append.mp h
  refine List.find?_eq_some_iff_append.mpr ⟨by simp [hp, hq], pre, post, rfl, fun x hx => ?_⟩
  have hx' : p x = false := by simpa using hpre x hx
  simp [hx']

/-! ## The two searches -/

/-- Resolving a method by name alone: the class resolves, and the reference is to the first
public method of the name in declaration order. -/
theorem resolveMethod_untyped {host : Host} {cls name : String} {r : HostRef}
    (h : resolveMethod host cls name [] = .ok r) :
    ∃ c i m, resolveClass host cls = .ok c ∧
      c.methods.find? (fun m => m.isPublic && m.name == name) = some m ∧
      r = .method host.id i m := by
  unfold resolveMethod at h
  cases hc : resolveClass host cls with
  | error e => rw [hc] at h; cases h
  | ok c =>
    rw [hc] at h
    simp only [bind, Except.bind, List.isEmpty_nil, if_true, pure, Except.pure] at h
    split at h
    · rename_i i m hfound
      cases h
      exact ⟨c, i, m, rfl, find?_of_findIndexed hfound, rfl⟩
    · cases h

/-- A static call by name finds the first public method of the name when that method is
static. -/
theorem resolveStatic_name_of_static {host : Host} {cls name : String} {c : ClassDef}
    {m : MethodDef} (hc : resolveClass host cls = .ok c)
    (hm : c.methods.find? (fun m => m.isPublic && m.name == name) = some m)
    (hs : m.isStatic = true) : resolveStatic host (.str name) (.str cls) = .ok m := by
  have hstatic : c.publicMethods.find? (fun m => m.isStatic && m.name == name) = some m := by
    rw [ClassDef.publicMethods, List.find?_filter]
    have hboth := find?_and_of_find? hm hs
    rw [← hboth]
    congr 1
    funext x
    simp only [Bool.decide_and, Bool.decide_eq_true]
    cases x.isPublic <;> cases x.isStatic <;> simp
  simp only [resolveStatic, nameOperand, classOperand, hc, hstatic, bind, Except.bind, pure,
    Except.pure]

/-! ## The two calls -/

/-- A static call depends on its method and class operands only through the method they
resolve to. -/
theorem invokeStatic_eq_of_resolveStatic {host : Host} {method cls method' cls' : Value}
    (h : resolveStatic host method cls = resolveStatic host method' cls') (args : List Value) :
    invokeStatic host method cls args = invokeStatic host method' cls' args := by
  unfold invokeStatic
  rw [h]

/-- A static call through a reference to an instance method has no receiver to give it: it fails
with a null-pointer exception before any check of the arguments, and draws no new object. -/
theorem invokeStatic_instance_reference (host : Host) (hostId i : Nat) {m : MethodDef}
    (hs : m.isStatic = false) (cls : Value) (args : List Value) :
    invokeStatic host (.native (.ref (.method hostId i m))) cls args =
      pure (.error (.invocationFailure "lang.NullPointerException")) := by
  funext n
  change (invokeStatic host _ cls args).run n = _
  rw [invokeStatic_run host _ cls args rfl n]
  simp [receiverRefusal, hs, memberOutcome, pure, StateT.pure]

/-- The operation resolving a method by name alone is the resolution, wrapped. -/
theorem resolveMethod_run_untyped (host : Host) (cls name : String) :
    Operation.resolveMethod.run host [.str cls, .str name] =
      pure ((fun r => Value.native (.ref r)) <$> resolveMethod host cls name []) := by
  simp only [Operation.run, nameOperand, List.mapM_nil, bind, Except.bind, pure, Except.pure]
  cases resolveMethod host cls name [] <;> rfl

/-- Static invocation through a reference that resolution by name returned. The reference is to
the first public method of the name. When that method is static, a static call through it has
the same outcome as the static call by name and class, whatever the class operand and the
arguments: the same value, the same failure, the same objects drawn. When it is an instance
method, the call through it fails with a null-pointer exception. -/
theorem invokeStatic_reference_agrees_with_name (host : Host) (cls name : String) (r : Value)
    (hr : Operation.resolveMethod.run host [.str cls, .str name] = pure (.ok r)) :
    ∃ i m, r = .native (.ref (.method host.id i m)) ∧
      (m.isStatic = true → ∀ x args, Operation.invokeStatic.run host (r :: x :: args) =
        Operation.invokeStatic.run host (.str name :: .str cls :: args)) ∧
      (m.isStatic = false → ∀ x args, Operation.invokeStatic.run host (r :: x :: args) =
        pure (.error (.invocationFailure "lang.NullPointerException"))) := by
  rw [resolveMethod_run_untyped] at hr
  have hres : (fun r => Value.native (.ref r)) <$> resolveMethod host cls name [] = .ok r :=
    (Prod.mk.inj (congrFun hr 0)).1
  cases hm : resolveMethod host cls name [] with
  | error e => rw [hm] at hres; cases hres
  | ok ref =>
    rw [hm] at hres
    cases hres
    obtain ⟨c, i, m, hc, hfirst, rfl⟩ := resolveMethod_untyped hm
    refine ⟨i, m, rfl, fun hs x args => ?_, fun hs x args => ?_⟩
    · -- both calls run `m`: the reference as given, the name through the static search
      simp only [Operation.run]
      apply invokeStatic_eq_of_resolveStatic
      rw [resolveStatic_name_of_static hc hfirst hs]
      rfl
    · exact invokeStatic_instance_reference host host.id i hs x args

/-- `example.Util.max` is the first public method of its name and static, so calling it through
its reference is calling it by name. -/
theorem max_reference_static_call :
    let host : Host := ⟨0, ClassPath.standard⟩
    let r : Value := .native (.ref (.method 0 2
      ⟨utilClass, "max", [.primitive .long, .primitive .long], true, true, .builtin .max⟩))
    Operation.resolveMethod.run host [.str utilClass, .str "max"] = pure (.ok r) ∧
      ∃ i m, r = .native (.ref (.method host.id i m)) ∧
        (m.isStatic = true → ∀ x args, Operation.invokeStatic.run host (r :: x :: args) =
          Operation.invokeStatic.run host (.str "max" :: .str utilClass :: args)) ∧
        (m.isStatic = false → ∀ x args, Operation.invokeStatic.run host (r :: x :: args) =
          pure (.error (.invocationFailure "lang.NullPointerException"))) := by
  intro host r
  have hr : Operation.resolveMethod.run host [.str utilClass, .str "max"] = pure (.ok r) := rfl
  exact ⟨hr, invokeStatic_reference_agrees_with_name host utilClass "max" r hr⟩

/-- `example.Point.getX` is an instance method and the first public method of its name: resolution
by name returns it, the static call through its reference fails with a null-pointer exception,
and the static call by name finds no static method `getX`. -/
theorem getX_reference_static_call :
    let host : Host := ⟨0, ClassPath.standard⟩
    let r : Value := .native (.ref (.method 0 0
      ⟨pointClass, "getX", [], true, false, .builtin .pointGetX⟩))
    Operation.resolveMethod.run host [.str pointClass, .str "getX"] = pure (.ok r) ∧
      Operation.invokeStatic.run host [r, .str pointClass] =
        pure (.error (.invocationFailure "lang.NullPointerException")) ∧
      Operation.invokeStatic.run host [.str "getX", .str pointClass] =
        pure (.error (.noSuchMethod pointClass "getX")) := by
  intro host r
  exact ⟨rfl, rfl, rfl⟩

end HostInterop.Foreign

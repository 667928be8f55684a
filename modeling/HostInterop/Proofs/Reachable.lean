import HostInterop.Proofs.Registration

/-!
# Reachable sessions

An embedding program drives a session through a fixed set of operations: interning names,
making packages, defining callables (named ones are registered as they are made), registering a
callable in a package, installing a dispatch table or the foreign operations, exporting names,
calling, drawing a new host, and reading or resetting call counts (`Session.Action`). A session
is reachable when it comes from a fresh registry by any sequence of them (`Session.Reachable`);
`Session.new` is one.

Every operation keeps the registry `Linked` (`linked_act`), so every reachable session has a
linked registry (`Reachable.linked`). With the effect of one registration
(`registerIn_bindings`), this gives the consistency of registration in every reachable session
(`registration_consistent`): a symbol's cell holds a callable exactly when the callable's home
is that symbol, so a callable is bound under one symbol at most and the bound callables never
repeat; and a registration binds the symbol of the callable's name in the package, takes the
home away from the callable it displaced, and clears the symbol the callable held before.
-/

namespace HostInterop

open Registry Registry.Registry

namespace Session

/-! ## Operations -/

/-- One operation of an embedding program on a session. -/
inductive Action where
  /-- Intern a name in a package, made if missing. -/
  | intern (package name : String)
  /-- Make a package, if missing. -/
  | ensurePackage (package : String)
  /-- Make a callable; one with a name is registered in a package (the default one when none is
  named). -/
  | define (name : Option String) (arity : Arity) (target : Target) (package : Option String)
  /-- Register an existing callable in a package, made if missing. -/
  | register (f : Nat) (package : String)
  /-- Install one callable per slot of a table in a package. -/
  | installTable (t : Table) (package : String)
  /-- Install the foreign operations over a host in a package. -/
  | installForeign (host : Host.Host) (package : String) (exportNames : Bool)
  /-- Export a name of a package. -/
  | exportName (package name : String)
  /-- Call a callable through an entry point. -/
  | enter (f : Nat) (entry : Entry) (args : List Value)
  /-- Look a function up by name and apply it. -/
  | call (name : String) (args : List Value)
  /-- Draw a new host over a class path. -/
  | freshHost (classes : Host.ClassPath)
  /-- Set a callable's count to zero. -/
  | clearCount (f : Nat)
  /-- Count one more call of a callable without calling it. -/
  | incrementCount (f : Nat)
  /-- Set the count of every bound callable to zero. -/
  | clearCounts

/-- The session after an operation. -/
def act (s : Session) : Action → Session
  | .intern package name => (s.intern package name).1
  | .ensurePackage package => (s.packageKey (some package)).2
  | .define name arity target package => (s.define (.make name arity target) package).1
  | .register f package => (s.registerIn f package).1
  | .installTable t package => (s.installTable t package).1
  | .installForeign host package exportNames =>
    { s with registry := (s.registry.installForeign host package exportNames).1 }
  | .exportName package name => (s.exportSymbol package name).1
  | .enter f entry args => (s.enter f entry args).2
  | .call name args => (s.call name args).2
  | .freshHost classes => (s.freshHost classes).2
  | .clearCount f => s.clearCount f
  | .incrementCount f => s.incrementCount f
  | .clearCounts => s.clearCounts

/-- The sessions an embedding program can reach: from a fresh registry, by any sequence of
operations. -/
inductive Reachable : Session → Prop where
  | start (s : Session) (name : String) : s.registry = Registry.new name → Reachable s
  | act (s : Session) (a : Action) : Reachable s → Reachable (s.act a)

/-- A new session is a fresh registry with the foreign operations installed. -/
theorem new_eq_act (classes : Host.ClassPath) (config : Config) :
    Session.new classes config =
      (⟨config, Registry.new config.defaultPackage, ⟨0, classes⟩, 1⟩ : Session).act
        (.installForeign ⟨0, classes⟩ config.foreignPackage config.exportForeign) := by
  simp only [Session.new, act]

/-- A new session is reachable. -/
theorem reachable_new (classes : Host.ClassPath) (config : Config) :
    Reachable (Session.new classes config) := by
  rw [new_eq_act]
  exact .act _ _ (.start _ _ rfl)

/-! ## The link is invariant -/

theorem packageKey_registry (s : Session) (package : Option String) :
    (s.packageKey package).2.registry =
      (s.registry.ensurePackage (package.getD s.registry.defaultPackage)).1 := rfl

theorem intern_registry (s : Session) (package name : String) :
    (s.intern package name).1.registry =
      (s.registry.ensurePackage package).1.intern (s.registry.ensurePackage package).2 name := rfl

theorem define_registry (s : Session) (c : Callable) (package : Option String) :
    (s.define c package).1.registry = match c.name with
      | none => (s.registry.add c).1
      | some _ =>
        let e := s.registry.ensurePackage (package.getD s.registry.defaultPackage)
        (e.1.addIn c e.2).1 := by
  unfold Session.define
  cases c.name <;> rfl

theorem registerIn_registry (s : Session) (f : Nat) (package : String) :
    (s.registerIn f package).1.registry =
      ((s.registry.ensurePackage package).1.register f (s.registry.ensurePackage package).2).1 := rfl

theorem registerIn_symbol (s : Session) (f : Nat) (package : String) :
    (s.registerIn f package).2 =
      ((s.registry.ensurePackage package).1.register f (s.registry.ensurePackage package).2).2 := rfl

theorem installTable_registry (s : Session) (t : Table) (package : String) :
    (s.installTable t package).1.registry =
      ((s.registry.ensurePackage package).1.installTable t (s.registry.ensurePackage package).2).1 :=
  rfl

/-- Exporting a name keeps the registry linked: it changes the exports of one package only. -/
theorem linked_exportSymbol {s : Session} (h : s.registry.Linked) (package name : String) :
    (s.exportSymbol package name).1.registry.Linked := by
  unfold Session.exportSymbol
  cases hp : s.registry.package? package with
  | none => exact h
  | some p =>
    have hmem : p ∈ s.registry.packages := List.mem_of_find?_eq_some hp
    refine h.updatePackage p.name _ (fun _ _ => Package.exportName_name p name) fun q hq hqn => ?_
    -- names do not repeat, so the only package of that name is `p` itself
    obtain rfl : q = p := List.inj_on_of_nodup_map h.packages_nodup hq hmem hqn
    exact Package.exportName_symbols q name

/-- A call keeps the registry linked: it counts one existing callable at most. -/
theorem linked_enter {s : Session} (h : s.registry.Linked) (f : Nat) (entry : Entry)
    (args : List Value) : (s.enter f entry args).2.registry.Linked := by
  rcases enter_registry s f entry args with he | ⟨c, hc, -, he⟩
  · rw [he]; exact h
  · rw [he]; exact h.count hc _

/-- Every operation keeps the registry linked. -/
theorem linked_act {s : Session} (h : s.registry.Linked) : ∀ a : Action, (s.act a).registry.Linked
  | .intern package name => by
    rw [act, intern_registry]
    exact (h.ensurePackage package).intern _ name
  | .ensurePackage package => by
    rw [act, packageKey_registry]
    exact h.ensurePackage package
  | .define name arity target package => by
    rw [act, define_registry]
    cases name with
    | none => exact h.add rfl
    | some n => exact ((h.ensurePackage _).addIn rfl (hasPackage_ensurePackage _ _)).1
  | .register f package => by
    rw [act, registerIn_registry]
    exact (h.ensurePackage package).register (hasPackage_ensurePackage _ _) f
  | .installTable t package => by
    rw [act, installTable_registry]
    exact (h.ensurePackage package).installTable t (hasPackage_ensurePackage _ _)
  | .installForeign host package exportNames => h.installForeign host package exportNames
  | .exportName package name => linked_exportSymbol h package name
  | .enter f entry args => linked_enter h f entry args
  | .call name args => by
    rw [act, call_eq]
    split
    · exact h
    · exact linked_enter h _ _ args
  | .freshHost _ => h
  | .clearCount f => h.updateCallable f _ fun _ => rfl
  | .incrementCount f => h.updateCallable f _ fun _ => rfl
  | .clearCounts => h.foldl_updateCallable (fun c => { c with count := 0 }) (fun _ => rfl) _

/-- Every reachable session has a linked registry. -/
theorem Reachable.linked {s : Session} (hs : s.Reachable) : s.registry.Linked := by
  induction hs with
  | start s name h => rw [h]; exact linked_new name
  | act s a _ ih => exact linked_act ih a

/-! ## Registration -/

/-- What registering a named callable in a package does to a linked registry: the package's
symbol of the name holds the callable and is its home; the callable it displaced has no home;
the symbol the callable held before holds nothing. -/
theorem registerIn_bindings {s : Session} (h : s.registry.Linked) {f : Nat} {c : Callable}
    (hc : s.registry.callable? f = some c) {n : String} (hn : c.name = some n) (package : String) :
    let sym : SymbolRef := ⟨Text.upper package, n⟩
    let s' := (s.registerIn f package).1
    (s.registerIn f package).2 = some sym ∧ s'.registry.cell sym = some f ∧
      s'.registry.home f = some sym ∧
      (∀ g, s.registry.cell sym = some g → g ≠ f → s'.registry.home g = none) ∧
      (∀ prev, s.registry.home f = some prev → prev ≠ sym → s'.registry.cell prev = none) := by
  intro sym s'
  -- register in the registry with the package made, under the package's key
  have he := h.ensurePackage package
  have hk := hasPackage_ensurePackage s.registry package
  have hc' : (s.registry.ensurePackage package).1.callable? f = some c := by
    rw [callable?_ensurePackage, hc]
  have hname : ((s.registry.ensurePackage package).1.callable? f).bind (·.name) = some n := by
    simp [hc', hn]
  have hsym : (⟨(s.registry.ensurePackage package).2, n⟩ : SymbolRef) = sym := by
    rw [ensurePackage_key]
  have hcell := register_cell he hk hname
  have hhome := @register_home _ he f c hc' (s.registry.ensurePackage package).2 n hn
  simp only [hsym, cell_ensurePackage, home_ensurePackage] at hcell hhome
  simp only [s', registerIn_registry, registerIn_symbol]
  refine ⟨by rw [register_eq hname, hsym], ?_, ?_, fun g hg hgf => ?_, fun prev hprev hne => ?_⟩
  · simp [hcell]
  · simp [hhome]
  · rw [hhome, if_neg hgf, if_pos hg]
  · rw [hcell, if_neg hne, if_pos hprev]

/-- Registration is consistent in every reachable session. A symbol's cell holds a callable
exactly when the callable's home is that symbol, so a callable is bound under one symbol at
most and the bound callables never repeat. Registering a named callable in a package binds the
package's symbol of its name to it (the last registration wins), the callable it displaced
loses its home, and the symbol the callable held before no longer holds it. -/
theorem registration_consistent {s : Session} (hs : s.Reachable) :
    (∀ sym f, s.registry.cell sym = some f ↔ s.registry.home f = some sym) ∧
    (∀ x y f, s.registry.cell x = some f → s.registry.cell y = some f → x = y) ∧
    s.registry.boundCallables.Nodup ∧
    ∀ (f : Nat) (c : Callable) (n package : String),
      s.registry.callable? f = some c → c.name = some n →
      let sym : SymbolRef := ⟨Text.upper package, n⟩
      let s' := (s.registerIn f package).1
      (s.registerIn f package).2 = some sym ∧ s'.registry.cell sym = some f ∧
        s'.registry.home f = some sym ∧
        (∀ g, s.registry.cell sym = some g → g ≠ f → s'.registry.home g = none) ∧
        (∀ prev, s.registry.home f = some prev → prev ≠ sym → s'.registry.cell prev = none) := by
  have h := hs.linked
  exact ⟨h.link, fun x y f hx hy => h.cell_inj hx hy, h.boundCallables_nodup,
    fun f c n package hc hn => registerIn_bindings h hc hn package⟩

/-- The standard session is reachable, and no callable is bound twice in it. -/
theorem standard_boundCallables_nodup :
    (Session.standard {}).Reachable ∧ (Session.standard {}).registry.boundCallables.Nodup :=
  ⟨reachable_new _ _, (registration_consistent (reachable_new _ _)).2.2.1⟩

end Session

end HostInterop

import Mathlib.Data.List.Nodup
import HostInterop.Registry.Basic
import HostInterop.Proofs.Upper

/-!
# Function cells and homes

Two views of a registry carry everything that registration is about: the function cell of each
symbol (`Registry.cell`) and the home of each callable, the symbol it remembers being registered
under (`Registry.home`). This module says how each primitive operation of the registry moves
the two views, one lemma per operation, so that later proofs never unfold an operation again.

A cell is read through the first package of its name and that package's first symbol of its
name, and every update maps over all packages and symbols of the name; the first ones seen are
among those updated, so none of these lemmas needs a hypothesis about repeated names. Only making
a package does: the package is made under the upper-cased form of a name, and is found again
under that form because upper-casing twice is upper-casing once (`Text.upper_upper`).
-/

set_option linter.dupNamespace false

namespace HostInterop.Registry

namespace Package

/-- Setting a cell keeps the package's name. -/
@[simp] theorem name_setCell (p : Package) (name : String) (f : Option Nat) :
    (p.setCell name f).name = p.name := rfl

/-- Interning keeps the package's name. -/
@[simp] theorem name_intern (p : Package) (name : String) : (p.intern name).name = p.name := by
  unfold intern
  split <;> rfl

/-- Finding a symbol after the cell of symbol `name` is set. -/
theorem find?_setCell (p : Package) (name : String) (f : Option Nat) (n : String) :
    (p.setCell name f).find? n =
      if n = name then (p.find? n).map ({ · with function := f }) else p.find? n := by
  have hpred : ((fun s : Symbol => s.name == n) ∘
      fun s => if s.name == name then { s with function := f } else s) = fun s => s.name == n := by
    funext s
    simp only [Function.comp]
    split <;> rfl
  simp only [setCell, find?, List.find?_map, hpred]
  cases hs : p.symbols.find? (·.name == n) with
  | none => simp
  | some s =>
    have hsn : s.name = n := by simpa using List.find?_some hs
    by_cases hn : n = name <;> simp [hsn, hn]

/-- Interning adds at most an empty cell: every cell reads as before. -/
theorem find?_intern_function (p : Package) (name n : String) :
    ((p.intern name).find? n).bind (·.function) = (p.find? n).bind (·.function) := by
  unfold intern
  split
  · rfl
  · rename_i hnew
    simp only [find?, List.find?_append]
    cases hs : p.symbols.find? (·.name == n) with
    | some s => rfl
    | none =>
      simp only [Option.none_or, List.find?_singleton]
      split <;> rfl

/-- After interning, the symbol is there. -/
theorem find?_intern_self (p : Package) (name : String) : ((p.intern name).find? name).isSome := by
  unfold intern find?
  split
  · rename_i h
    simpa [List.find?_isSome] using h
  · simp [List.find?_append]

/-- Setting a cell keeps the symbol names. -/
theorem setCell_names (p : Package) (name : String) (f : Option Nat) :
    (p.setCell name f).symbols.map (·.name) = p.symbols.map (·.name) := by
  simp only [setCell, List.map_map]
  congr 1
  funext s
  simp only [Function.comp]
  split <;> rfl

/-- Interning keeps the symbol names free of repeats. -/
theorem intern_nodup (p : Package) (name : String) (h : (p.symbols.map (·.name)).Nodup) :
    ((p.intern name).symbols.map (·.name)).Nodup := by
  unfold intern
  split
  · exact h
  · rename_i hnew
    simp only [List.map_append, List.map_cons, List.map_nil]
    refine List.nodup_append.mpr ⟨h, List.nodup_singleton _, ?_⟩
    intro a ha b hb
    simp only [List.mem_singleton] at hb
    subst hb
    obtain ⟨s, hs, rfl⟩ := List.mem_map.mp ha
    intro heq
    exact hnew (List.any_eq_true.mpr ⟨s, hs, by simp [heq]⟩)

/-- Exporting changes only the exports. -/
@[simp]
theorem exportName_name (p : Package) (name : String) : (p.exportName name).1.name = p.name := by
  unfold exportName; split <;> rfl

/-- Exporting changes only the exports. -/
@[simp]
theorem exportName_symbols (p : Package) (name : String) :
    (p.exportName name).1.symbols = p.symbols := by
  unfold exportName; split <;> rfl

end Package

namespace Registry

/-! ## The two views -/

/-- The symbol a reference names: the first symbol of its name in the first package of its
package name. -/
def symbol? (reg : Registry) (s : SymbolRef) : Option Symbol :=
  (reg.packages.find? (·.name == s.package)).bind (·.find? s.name)

/-- The symbol a callable is registered under, as the callable remembers it. -/
def home (reg : Registry) (f : Nat) : Option SymbolRef := (reg.callable? f).bind (·.home)

/-- Whether some package has this name. -/
def HasPackage (reg : Registry) (key : String) : Prop := ∃ p ∈ reg.packages, p.name = key

/-- A cell is the function of the symbol its reference names. -/
theorem cell_eq (reg : Registry) (s : SymbolRef) : reg.cell s = (reg.symbol? s).bind (·.function) := by
  simp only [cell, symbol?, Option.bind_assoc]

/-- A symbol whose cell holds something is there. -/
theorem symbol?_isSome_of_cell {reg : Registry} {s : SymbolRef} {f : Nat}
    (h : reg.cell s = some f) : (reg.symbol? s).isSome := by
  rw [cell_eq] at h
  cases hs : reg.symbol? s <;> simp_all

/-! ## Updating packages -/

/-- Finding a package after the packages of one name are changed, when the change keeps
names. -/
theorem find?_updatePackage (reg : Registry) (key : String) (g : Package → Package)
    (hg : ∀ q, q.name = key → (g q).name = key) (n : String) :
    (reg.updatePackage key g).packages.find? (·.name == n) =
      (reg.packages.find? (·.name == n)).map fun p => if p.name == key then g p else p := by
  have hpred : ((fun p : Package => p.name == n) ∘ fun p => if p.name == key then g p else p) =
      fun p => p.name == n := by
    funext q
    simp only [Function.comp]
    split
    · rename_i hq
      rw [hg q (by simpa using hq), (by simpa using hq : q.name = key)]
    · rfl
  simp only [updatePackage, List.find?_map, hpred]

/-- Package names after the packages of one name are changed, when the change keeps names. -/
theorem updatePackage_names (reg : Registry) (key : String) (g : Package → Package)
    (hg : ∀ q, q.name = key → (g q).name = key) :
    (reg.updatePackage key g).packages.map (·.name) = reg.packages.map (·.name) := by
  simp only [updatePackage, List.map_map]
  apply List.map_congr_left
  intro q _
  simp only [Function.comp]
  split
  · rename_i hq
    rw [hg q (by simpa using hq), (by simpa using hq : q.name = key)]
  · rfl

/-- A package name stays after the packages of one name are changed, when the change keeps
names. -/
theorem hasPackage_updatePackage {reg : Registry} {key n : String} (g : Package → Package)
    (hg : ∀ q, q.name = key → (g q).name = key) (h : reg.HasPackage n) :
    (reg.updatePackage key g).HasPackage n := by
  obtain ⟨p, hp, rfl⟩ := h
  have hmem : p.name ∈ (reg.updatePackage key g).packages.map (·.name) := by
    rw [updatePackage_names reg key g hg]
    exact List.mem_map_of_mem hp
  obtain ⟨q, hq, hqn⟩ := List.mem_map.mp hmem
  exact ⟨q, hq, hqn⟩

/-! ## Setting cells -/

/-- The symbol a reference names after a cell is set. -/
theorem symbol?_setCell (reg : Registry) (s : SymbolRef) (o : Option Nat) (x : SymbolRef) :
    (reg.setCell s o).symbol? x =
      if x = s then (reg.symbol? s).map ({ · with function := o }) else reg.symbol? x := by
  unfold symbol? setCell
  rw [find?_updatePackage reg s.package (·.setCell s.name o) (fun q h => by simpa using h)
    x.package]
  by_cases hx : x = s
  · subst hx
    cases hp : reg.packages.find? (·.name == x.package) with
    | none => simp
    | some p =>
      have hpn : p.name = x.package := by simpa using List.find?_some hp
      simp [hpn, Package.find?_setCell]
  · simp only [hx, if_false]
    cases hp : reg.packages.find? (·.name == x.package) with
    | none => rfl
    | some p =>
      have hpn : p.name = x.package := by simpa using List.find?_some hp
      simp only [Option.map_some, Option.bind_some]
      split
      · rename_i hk
        have hpk : x.package = s.package := by simpa [hpn] using hk
        have hname : x.name ≠ s.name := fun h => hx (by cases x; cases s; simp_all)
        simp [Package.find?_setCell, hname]
      · rfl

/-- A cell after a cell is set: the set cell holds the new value when its symbol is there. -/
theorem cell_setCell (reg : Registry) (s : SymbolRef) (o : Option Nat) (x : SymbolRef) :
    (reg.setCell s o).cell x = if x = s ∧ (reg.symbol? s).isSome then o else reg.cell x := by
  rw [cell_eq, cell_eq, symbol?_setCell]
  by_cases hx : x = s
  · subst hx
    cases reg.symbol? x <;> simp
  · simp [hx]

/-- Setting a cell keeps every symbol that was there. -/
theorem symbol?_setCell_isSome {reg : Registry} (s : SymbolRef) (o : Option Nat) {x : SymbolRef}
    (h : (reg.symbol? x).isSome) : ((reg.setCell s o).symbol? x).isSome := by
  rw [symbol?_setCell]
  split
  · rename_i hx; subst hx; simpa using h
  · exact h

/-- Setting a cell keeps the package names. -/
theorem setCell_names (reg : Registry) (s : SymbolRef) (o : Option Nat) :
    (reg.setCell s o).packages.map (·.name) = reg.packages.map (·.name) :=
  updatePackage_names reg s.package _ (fun q h => by simpa using h)

/-- Clearing a cell that holds `f` clears it; otherwise nothing happens. -/
theorem unbindIf_eq (reg : Registry) (s : SymbolRef) (f : Nat) :
    reg.unbindIf s f = if reg.cell s = some f then reg.setCell s none else reg := by
  simp only [unbindIf, beq_iff_eq]

/-! ## Interning -/

/-- Interning keeps every cell. -/
theorem cell_intern (reg : Registry) (key name : String) (x : SymbolRef) :
    (reg.intern key name).cell x = reg.cell x := by
  unfold intern cell
  rw [find?_updatePackage reg key (·.intern name) (fun q h => by simpa using h) x.package]
  cases hp : reg.packages.find? (·.name == x.package) with
  | none => rfl
  | some p =>
    simp only [Option.map_some, Option.bind_some]
    split
    · exact Package.find?_intern_function p name x.name
    · rfl

/-- After interning a name in an existing package, the symbol is there. -/
theorem symbol?_intern_self {reg : Registry} {key : String} (name : String)
    (h : reg.HasPackage key) : ((reg.intern key name).symbol? ⟨key, name⟩).isSome := by
  obtain ⟨p₀, hp₀, hkey⟩ := h
  unfold symbol? intern
  rw [find?_updatePackage reg key (·.intern name) (fun q h => by simpa using h) key]
  cases hp : reg.packages.find? (·.name == key) with
  | none =>
    exact absurd (List.find?_eq_none.mp hp p₀ hp₀) (by simp [hkey])
  | some p =>
    have hpn : p.name = key := by simpa using List.find?_some hp
    simpa [hpn] using Package.find?_intern_self p name

/-- Interning keeps the package names. -/
theorem intern_names (reg : Registry) (key name : String) :
    (reg.intern key name).packages.map (·.name) = reg.packages.map (·.name) :=
  updatePackage_names reg key (·.intern name) (fun q h => by simpa using h)

/-! ## Callables -/

/-- The callable of a number after the callable of another number changes. -/
theorem callable?_updateCallable (reg : Registry) (f : Nat) (g : Callable → Callable) (f' : Nat) :
    (reg.updateCallable f g).callable? f' =
      if f' = f then (reg.callable? f).map g else reg.callable? f' := by
  simp only [updateCallable, callable?, List.getElem?_modify]
  split <;> simp_all [eq_comm]

/-- Changing a callable but not its home keeps every home. -/
theorem home_updateCallable (reg : Registry) (f : Nat) (g : Callable → Callable)
    (hg : ∀ c, (g c).home = c.home) (f' : Nat) : (reg.updateCallable f g).home f' = reg.home f' := by
  unfold home
  rw [callable?_updateCallable]
  split
  · rename_i h; subst h
    cases reg.callable? f' <;> simp [hg]
  · rfl

/-- Setting a home keeps the packages. -/
@[simp] theorem packages_setHome (reg : Registry) (f : Nat) (h : Option SymbolRef) :
    (reg.setHome f h).packages = reg.packages := rfl

/-- Setting a cell keeps the callables. -/
@[simp] theorem callables_setCell (reg : Registry) (s : SymbolRef) (o : Option Nat) :
    (reg.setCell s o).callables = reg.callables := rfl

/-- Interning keeps the callables. -/
@[simp] theorem callables_intern (reg : Registry) (key name : String) :
    (reg.intern key name).callables = reg.callables := rfl

/-- A home after the home of callable `f` is set. -/
theorem home_setHome (reg : Registry) (f : Nat) (h : Option SymbolRef) (f' : Nat) :
    (reg.setHome f h).home f' = if f' = f then (reg.callable? f).bind (fun _ => h) else reg.home f' := by
  unfold home setHome
  rw [callable?_updateCallable]
  split
  · cases reg.callable? f <;> rfl
  · rfl

/-- A home after a callable is added: the new callable's own. -/
theorem home_add (reg : Registry) (c : Callable) (f' : Nat) :
    (reg.add c).1.home f' = if f' = reg.callables.length then c.home else reg.home f' := by
  unfold home callable? add
  simp only [List.getElem?_append]
  split
  · rename_i h
    simp [h, Nat.ne_of_lt h]
  · rename_i h
    by_cases he : f' = reg.callables.length
    · subst he; simp
    · simp only [he, ite_false, List.getElem?_singleton]
      rw [List.getElem?_eq_none (by omega)]
      simp; omega

/-- The added callable has the next number. -/
@[simp]
theorem add_snd (reg : Registry) (c : Callable) : (reg.add c).2 = reg.callables.length := rfl

/-- The added callable is found under its number. -/
theorem callable?_add (reg : Registry) (c : Callable) :
    (reg.add c).1.callable? reg.callables.length = some c := by
  simp [add, callable?]

/-- A callable that is there stays there when another is added. -/
theorem callable?_add_of_lt (reg : Registry) (c : Callable) {f : Nat} (h : f < reg.callables.length) :
    (reg.add c).1.callable? f = reg.callable? f := by
  simp [add, callable?, List.getElem?_append_left h]

/-- No callable lies past the one added. -/
theorem callable?_add_of_gt (reg : Registry) (c : Callable) {f : Nat} (h : reg.callables.length < f) :
    (reg.add c).1.callable? f = none := by
  simp only [add, callable?]
  exact List.getElem?_eq_none (by simp; omega)

/-- A callable with a home is there. -/
theorem lt_of_home {reg : Registry} {f : Nat} {s : SymbolRef} (h : reg.home f = some s) :
    f < reg.callables.length := by
  unfold home callable? at h
  rcases Nat.lt_or_ge f reg.callables.length with hf | hf
  · exact hf
  · rw [List.getElem?_eq_none hf] at h
    simp at h

/-! ## Making packages -/

/-- The key of an ensured package is the upper-cased name. -/
theorem ensurePackage_key (reg : Registry) (n : String) : (reg.ensurePackage n).2 = Text.upper n := by
  unfold ensurePackage; dsimp only
  split <;> rfl

/-- After a package is ensured, a package of its key is there. -/
theorem hasPackage_ensurePackage (reg : Registry) (n : String) :
    (reg.ensurePackage n).1.HasPackage (reg.ensurePackage n).2 := by
  unfold ensurePackage; dsimp only
  split
  · rename_i h
    obtain ⟨p, hp, hpn⟩ := List.any_eq_true.mp h
    exact ⟨p, hp, by simpa using hpn⟩
  · exact ⟨Package.new (Text.upper n), by simp, by simp [Package.new, Text.upper_upper]⟩

/-- Ensuring a package keeps every cell: a new package is empty. -/
theorem cell_ensurePackage (reg : Registry) (n : String) (x : SymbolRef) :
    (reg.ensurePackage n).1.cell x = reg.cell x := by
  unfold ensurePackage; dsimp only
  split
  · rfl
  · unfold cell
    simp only [List.find?_append]
    cases reg.packages.find? (·.name == x.package) with
    | some p => rfl
    | none =>
      simp only [Option.none_or, List.find?_singleton]
      split <;> rfl

/-- Ensuring a package keeps every callable. -/
theorem ensurePackage_callables (reg : Registry) (n : String) :
    (reg.ensurePackage n).1.callables = reg.callables := by
  unfold ensurePackage; dsimp only
  split <;> rfl

theorem callable?_ensurePackage (reg : Registry) (n : String) (f : Nat) :
    (reg.ensurePackage n).1.callable? f = reg.callable? f := by
  simp only [callable?, ensurePackage_callables]

theorem home_ensurePackage (reg : Registry) (n : String) (f : Nat) :
    (reg.ensurePackage n).1.home f = reg.home f := by
  simp only [home, callable?_ensurePackage]

/-- Ensuring a package keeps the package names free of repeats. -/
theorem ensurePackage_nodup (reg : Registry) (n : String) (h : (reg.packages.map (·.name)).Nodup) :
    ((reg.ensurePackage n).1.packages.map (·.name)).Nodup := by
  unfold ensurePackage; dsimp only
  split
  · exact h
  · rename_i hnew
    simp only [List.map_append, List.map_cons, List.map_nil]
    refine List.nodup_append.mpr ⟨h, List.nodup_singleton _, ?_⟩
    intro a ha b hb
    simp only [List.mem_singleton] at hb
    subst hb
    obtain ⟨p, hp, rfl⟩ := List.mem_map.mp ha
    intro heq
    apply hnew
    exact List.any_eq_true.mpr ⟨p, hp, by simp [heq, Package.new, Text.upper_upper]⟩

/-- Every package of an ensured registry is one that was there or the new empty one. -/
theorem mem_ensurePackage {reg : Registry} {n : String} {p : Package}
    (h : p ∈ (reg.ensurePackage n).1.packages) : p ∈ reg.packages ∨ p.symbols = [] := by
  unfold ensurePackage at h; dsimp only at h
  split at h
  · exact .inl h
  · simp only [List.mem_append, List.mem_singleton] at h
    rcases h with h | rfl
    · exact .inl h
    · exact .inr rfl

end Registry

end HostInterop.Registry

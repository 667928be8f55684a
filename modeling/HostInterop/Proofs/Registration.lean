import HostInterop.Embedding
import HostInterop.Proofs.Gate

/-!
# Registration keeps symbols and callables linked

A symbol's function cell and a callable's home point at each other: in every state an embedding
program can reach, a symbol's cell holds a callable exactly when that callable's home is the
symbol (`Registry.Linked`). Registration updates three places at once (the cell the callable
leaves, the cell it enters, and the home of the callable it displaces), each behind an identity
check, and the link is what makes the three agree.

* `relink` is the combinatorial heart: moving one callable to one symbol, on two views that are
  linked, gives two views that are linked again.
* `register_cell` and `register_home` say what registration does to the two views, and
  `Linked.register` combines them with `relink`.
* Every other operation keeps the views, or adds an empty package, symbol or unregistered
  callable (`Linked.act`), so the link holds of every reachable session
  (`Session.Reachable.linked`).
* From the link: a callable is bound under at most one symbol, so the listing of bound callables
  that call counts and count resets walk has no repeats (`Linked.boundCallables_nodup`).
-/

set_option linter.dupNamespace false

namespace HostInterop

namespace Registry.Registry

/-! ## The link -/

/-- Cells and homes agree, and names do not repeat: package names in the registry, symbol names
in each package. -/
structure Linked (reg : Registry) : Prop where
  /-- No two packages share a name. -/
  packages_nodup : (reg.packages.map (·.name)).Nodup
  /-- No two symbols of a package share a name. -/
  symbols_nodup : ∀ p ∈ reg.packages, (p.symbols.map (·.name)).Nodup
  /-- A symbol's cell holds a callable exactly when the callable's home is the symbol. -/
  link : ∀ s f, reg.cell s = some f ↔ reg.home f = some s

/-- Moving callable `f` to symbol `s` on two linked views: `s` now holds `f`, the symbol `f`
left is empty, and the callable `s` held forgets its home. The views stay linked. -/
theorem relink {C : SymbolRef → Option Nat} {H : Nat → Option SymbolRef}
    (hlink : ∀ x g, C x = some g ↔ H g = some x) (f : Nat) (s x : SymbolRef) (g : Nat) :
    (if x = s then some f else if H f = some x then none else C x) = some g ↔
      (if g = f then some s else if C s = some g then none else H g) = some x := by
  by_cases hgf : g = f
  · -- the moved callable: it is in `s` and nowhere else
    subst hgf
    have hx := hlink x g
    by_cases hxs : x = s
    · simp [hxs]
    · by_cases hfx : H g = some x
      · simp [hxs, hfx, Ne.symm hxs]
      · simp only [hxs, hfx, ite_false, ite_true, Option.some.injEq]
        exact ⟨fun h => absurd (hx.mp h) hfx, fun h => absurd h.symm hxs⟩
  · by_cases hsg : C s = some g
    · -- the displaced callable: its home is gone, and `s` was its only cell
      have hhome : H g = some s := (hlink s g).mp hsg
      simp only [hgf, hsg, ite_false, ite_true, reduceCtorEq, iff_false]
      intro hx
      split at hx
      · exact hgf (Option.some.inj hx).symm
      · split at hx
        · cases hx
        · rename_i hxs _
          exact hxs (Option.some.inj (((hlink x g).mp hx).symm.trans hhome))
    · -- every other callable keeps its one cell
      simp only [hgf, hsg, ite_false]
      by_cases hxs : x = s
      · subst hxs
        simp only [ite_true, Option.some.injEq]
        exact ⟨fun h => absurd h.symm hgf, fun h => absurd ((hlink x g).mpr h) hsg⟩
      · have hfx : H f = some x → C x ≠ some g := fun h hc =>
          hgf (Option.some.inj (((hlink x f).mpr h).symm.trans hc)).symm
        by_cases hf : H f = some x
        · simp only [hxs, hf, ite_false, ite_true, reduceCtorEq, false_iff]
          exact fun h => hfx hf ((hlink x g).mpr h)
        · simp only [hxs, hf, ite_false]
          exact hlink x g

/-- Two registries with the same packages have the same cells. -/
theorem cell_of_packages {reg reg' : Registry} (h : reg'.packages = reg.packages) (s : SymbolRef) :
    reg'.cell s = reg.cell s := by
  simp only [cell, h]

/-- Keeping the packages and every home keeps the link. -/
theorem Linked.of_views {reg reg' : Registry} (h : reg.Linked) (hp : reg'.packages = reg.packages)
    (hh : ∀ f, reg'.home f = reg.home f) : reg'.Linked where
  packages_nodup := hp ▸ h.packages_nodup
  symbols_nodup := hp ▸ h.symbols_nodup
  link s f := by rw [cell_of_packages hp, hh]; exact h.link s f

/-- A registry just made is linked: one empty package and no callables. -/
theorem linked_new (name : String) : (Registry.new name).Linked where
  packages_nodup := List.nodup_singleton _
  symbols_nodup p hp := by simp_all [Registry.new, Package.new]
  link s f := by
    have hcell : (Registry.new name).cell s = none := by
      simp only [cell, Registry.new, List.find?_singleton]
      split <;> rfl
    rw [hcell]
    simp [home, callable?, Registry.new]

/-- Ensuring a package keeps the link: a new package is empty and has a fresh name. -/
theorem Linked.ensurePackage {reg : Registry} (h : reg.Linked) (n : String) :
    (reg.ensurePackage n).1.Linked where
  packages_nodup := ensurePackage_nodup reg n h.packages_nodup
  symbols_nodup p hp := by
    rcases mem_ensurePackage hp with hp | hp
    · exact h.symbols_nodup p hp
    · simp [hp]
  link s f := by
    rw [cell_ensurePackage, home_ensurePackage]
    exact h.link s f

/-- Interning keeps the link: a new symbol is empty and has a fresh name. -/
theorem Linked.intern {reg : Registry} (h : reg.Linked) (key name : String) :
    (reg.intern key name).Linked where
  packages_nodup := by rw [intern_names]; exact h.packages_nodup
  symbols_nodup p hp := by
    simp only [Registry.intern, updatePackage, List.mem_map] at hp
    obtain ⟨q, hq, rfl⟩ := hp
    split
    · exact Package.intern_nodup q name (h.symbols_nodup q hq)
    · exact h.symbols_nodup q hq
  link s f := by
    rw [cell_intern]
    exact h.link s f

/-- Adding a callable without a home keeps the link: no cell holds the new number. -/
theorem Linked.add {reg : Registry} (h : reg.Linked) {c : Callable} (hc : c.home = none) :
    (reg.add c).1.Linked where
  packages_nodup := h.packages_nodup
  symbols_nodup := h.symbols_nodup
  link s f := by
    rw [cell_of_packages rfl, home_add]
    split
    · rename_i hf
      subst hf
      simp only [hc, reduceCtorEq, iff_false]
      intro hcell
      exact absurd (lt_of_home ((h.link s _).mp hcell)) (Nat.lt_irrefl _)
    · exact h.link s f

/-! ## Registration in three stages -/

/-- The first stage of binding callable `f` to symbol `s`: leave the symbol `f` was registered
under before, when that is another symbol and still holds `f`. -/
def leaveHome (reg : Registry) (f : Nat) (s : SymbolRef) : Registry :=
  match (reg.callable? f).bind (·.home) with
  | some previous => if previous == s then reg else reg.unbindIf previous f
  | none => reg

/-- The second stage: bind `f` in `s`, and have the callable it displaces, if another, forget
its home. -/
def takeCell (reg : Registry) (f : Nat) (s : SymbolRef) : Registry :=
  match reg.cell s with
  | some g => if g == f then reg.setCell s (some f) else (reg.setCell s (some f)).setHome g none
  | none => reg.setCell s (some f)

/-- Registering a named callable interns its symbol, leaves its old home, takes the new cell and
records the new home. -/
theorem register_eq {reg : Registry} {f : Nat} {key n : String}
    (h : (reg.callable? f).bind (·.name) = some n) :
    reg.register f key = ((((reg.intern key n).leaveHome f ⟨key, n⟩).takeCell f ⟨key, n⟩).setHome f
      (some ⟨key, n⟩), some ⟨key, n⟩) := by
  unfold register
  simp only [h]
  rfl

/-- Leaving a home keeps the callables. -/
theorem leaveHome_callables (reg : Registry) (f : Nat) (s : SymbolRef) :
    (reg.leaveHome f s).callables = reg.callables := by
  unfold leaveHome unbindIf
  split
  · split
    · rfl
    · split <;> rfl
  · rfl

/-- Leaving a home either keeps the registry or clears one cell. -/
theorem leaveHome_cases (reg : Registry) (f : Nat) (s : SymbolRef) :
    reg.leaveHome f s = reg ∨ ∃ x, reg.leaveHome f s = reg.setCell x none := by
  unfold leaveHome unbindIf
  split
  · split
    · exact .inl rfl
    · split
      · exact .inr ⟨_, rfl⟩
      · exact .inl rfl
  · exact .inl rfl

/-- The cells after leaving a home: the old home, if another symbol, is empty. -/
theorem leaveHome_cell {reg : Registry} (h : reg.Linked) (f : Nat) (s x : SymbolRef) :
    (reg.leaveHome f s).cell x = if reg.home f = some x ∧ x ≠ s then none else reg.cell x := by
  unfold leaveHome
  change (match reg.home f with
    | some previous => if previous == s then reg else reg.unbindIf previous f
    | none => reg).cell x = _
  cases hh : reg.home f with
  | none => simp
  | some prev =>
    simp only [beq_iff_eq, Option.some.injEq]
    by_cases hps : prev = s
    · subst hps
      simp only [ite_true]
      split
      · rename_i hx; exact absurd hx.1.symm hx.2
      · rfl
    · have hcell : reg.cell prev = some f := (h.link prev f).mpr hh
      simp only [hps, ite_false, unbindIf_eq, hcell, ite_true]
      rw [cell_setCell]
      by_cases hx : x = prev
      · subst hx; simp [hps, symbol?_isSome_of_cell hcell]
      · simp [hx, Ne.symm hx]

/-- Leaving a home keeps every symbol that is there. -/
theorem leaveHome_symbol?_isSome {reg : Registry} (f : Nat) (s : SymbolRef) {x : SymbolRef}
    (hx : (reg.symbol? x).isSome) : ((reg.leaveHome f s).symbol? x).isSome := by
  rcases leaveHome_cases reg f s with he | ⟨y, he⟩ <;> rw [he]
  · exact hx
  · exact symbol?_setCell_isSome y none hx

/-- Leaving a home keeps the package names. -/
theorem leaveHome_names (reg : Registry) (f : Nat) (s : SymbolRef) :
    (reg.leaveHome f s).packages.map (·.name) = reg.packages.map (·.name) := by
  rcases leaveHome_cases reg f s with he | ⟨y, he⟩ <;> rw [he]
  exact setCell_names reg y none

/-- Setting cells keeps every package's symbol names free of repeats. -/
theorem setCell_symbols_nodup {reg : Registry}
    (h : ∀ p ∈ reg.packages, (p.symbols.map (·.name)).Nodup) (s : SymbolRef) (o : Option Nat) :
    ∀ p ∈ (reg.setCell s o).packages, (p.symbols.map (·.name)).Nodup := by
  intro p hp
  simp only [setCell, updatePackage, List.mem_map] at hp
  obtain ⟨q, hq, rfl⟩ := hp
  split
  · rw [Package.setCell_names]; exact h q hq
  · exact h q hq

/-- Leaving a home keeps every package's symbol names free of repeats. -/
theorem leaveHome_symbols_nodup {reg : Registry}
    (h : ∀ p ∈ reg.packages, (p.symbols.map (·.name)).Nodup) (f : Nat) (s : SymbolRef) :
    ∀ p ∈ (reg.leaveHome f s).packages, (p.symbols.map (·.name)).Nodup := by
  rcases leaveHome_cases reg f s with he | ⟨y, he⟩ <;> rw [he]
  · exact h
  · exact setCell_symbols_nodup h y none

/-- Taking a cell keeps the packages of setting it. -/
theorem takeCell_packages (reg : Registry) (f : Nat) (s : SymbolRef) :
    (reg.takeCell f s).packages = (reg.setCell s (some f)).packages := by
  unfold takeCell
  split
  · split <;> rfl
  · rfl

/-- Taking a cell keeps every callable that is there. -/
theorem takeCell_callable?_isSome (reg : Registry) (f : Nat) (s : SymbolRef) {g : Nat}
    (h : (reg.callable? g).isSome) : ((reg.takeCell f s).callable? g).isSome := by
  unfold takeCell
  split
  · split
    · exact h
    · rename_i d _ _
      simp only [setHome, callable?_updateCallable]
      split
      · rename_i hgd; subst hgd; simpa [callable?] using h
      · exact h
  · exact h

/-- The homes after taking a cell: the displaced callable, if another, has none. -/
theorem takeCell_home (reg : Registry) (f : Nat) (s : SymbolRef) (g : Nat) :
    (reg.takeCell f s).home g = if reg.cell s = some g ∧ g ≠ f then none else reg.home g := by
  unfold takeCell
  cases hc : reg.cell s with
  | none => simp only [reduceCtorEq, false_and, ite_false]; rfl
  | some d =>
    simp only [beq_iff_eq, Option.some.injEq]
    by_cases hdf : d = f
    · subst hdf
      simp only [ite_true]
      split
      · rename_i hg; exact absurd hg.1.symm hg.2
      · rfl
    · simp only [hdf, ite_false, home_setHome]
      by_cases hgd : g = d
      · subst hgd; simp [hdf]
      · simp only [hgd, ite_false, Ne.symm hgd, false_and]
        rfl

/-- The cells after registering a named callable: its symbol holds it, the symbol it left is
empty, every other cell is as it was. -/
theorem register_cell {reg : Registry} (h : reg.Linked) {key : String} (hk : reg.HasPackage key)
    {f : Nat} {n : String} (hname : (reg.callable? f).bind (·.name) = some n) (x : SymbolRef) :
    (reg.register f key).1.cell x =
      if x = ⟨key, n⟩ then some f else if reg.home f = some x then none else reg.cell x := by
  have hsym : (((reg.intern key n).leaveHome f ⟨key, n⟩).symbol? ⟨key, n⟩).isSome :=
    leaveHome_symbol?_isSome f _ (symbol?_intern_self n hk)
  simp only [register_eq hname]
  rw [cell_of_packages (by simp only [packages_setHome]; exact takeCell_packages _ f _), cell_setCell,
    leaveHome_cell (h.intern key n)]
  simp only [hsym, and_true, cell_intern]
  by_cases hx : x = ⟨key, n⟩
  · simp [hx]
  · simp only [hx, ite_false, ne_eq, not_false_eq_true, and_true]
    rfl

/-- The homes after registering a named callable: it is home at its symbol, the callable it
displaced has no home, every other home is as it was. -/
theorem register_home {reg : Registry} (h : reg.Linked) {f : Nat} {c : Callable}
    (hc : reg.callable? f = some c) {key n : String} (hn : c.name = some n) (g : Nat) :
    (reg.register f key).1.home g =
      if g = f then some ⟨key, n⟩ else if reg.cell ⟨key, n⟩ = some g then none else reg.home g := by
  have hname : (reg.callable? f).bind (·.name) = some n := by simp [hc, hn]
  have hleave : ∀ g, ((reg.intern key n).leaveHome f ⟨key, n⟩).callable? g = reg.callable? g :=
    fun g => by unfold callable?; rw [leaveHome_callables]; rfl
  simp only [register_eq hname]
  rw [home_setHome, takeCell_home, leaveHome_cell (h.intern key n)]
  by_cases hgf : g = f
  · subst hgf
    have hc' := takeCell_callable?_isSome _ g ⟨key, n⟩ (by rw [hleave, hc]; rfl)
    obtain ⟨c', hc''⟩ := Option.isSome_iff_exists.mp hc'
    simp [hc'']
  · simp only [hgf, ite_false, cell_intern, ne_eq, not_true_eq_false, and_false, ite_false,
      not_false_eq_true, and_true]
    simp only [home, hleave]

/-- Registering a callable keeps the package names. -/
theorem register_names (reg : Registry) (f : Nat) (key : String) :
    (reg.register f key).1.packages.map (·.name) = reg.packages.map (·.name) := by
  cases hname : (reg.callable? f).bind (·.name) with
  | none => simp [register, hname]
  | some n =>
    simp only [register_eq hname, packages_setHome]
    rw [takeCell_packages, setCell_names, leaveHome_names, intern_names]

/-- The callables with their homes forgotten: what registration leaves alone. -/
def unhomed (reg : Registry) : List Callable := reg.callables.map fun c => { c with home := none }

theorem unhomed_setHome (reg : Registry) (f : Nat) (h : Option SymbolRef) :
    (reg.setHome f h).unhomed = reg.unhomed := by
  simp only [unhomed, setHome, updateCallable]
  apply List.ext_getElem?
  intro i
  simp only [List.getElem?_map, List.getElem?_modify]
  split <;> cases reg.callables[i]? <;> rfl

theorem takeCell_unhomed (reg : Registry) (f : Nat) (s : SymbolRef) :
    (reg.takeCell f s).unhomed = reg.unhomed := by
  unfold takeCell
  split
  · split
    · rfl
    · exact unhomed_setHome _ _ _
  · rfl

/-- Registration changes no callable but in its home. -/
theorem register_unhomed (reg : Registry) (f : Nat) (key : String) :
    (reg.register f key).1.unhomed = reg.unhomed := by
  cases hname : (reg.callable? f).bind (·.name) with
  | none => simp [register, hname]
  | some n =>
    rw [register_eq hname, unhomed_setHome, takeCell_unhomed]
    simp only [unhomed, leaveHome_callables, callables_intern]

/-- A callable after a registration is the callable before, up to its home. -/
theorem callable?_register (reg : Registry) (f : Nat) (key : String) (g : Nat) :
    ((reg.register f key).1.callable? g).map (fun c => { c with home := none }) =
      (reg.callable? g).map (fun c => { c with home := none }) := by
  have h := congrArg (·[g]?) (register_unhomed reg f key)
  simpa only [unhomed, callable?, List.getElem?_map] using h

/-- A package that is there stays through a registration. -/
theorem hasPackage_of_names {reg reg' : Registry}
    (h : reg'.packages.map (·.name) = reg.packages.map (·.name)) {key : String}
    (hk : reg.HasPackage key) : reg'.HasPackage key := by
  obtain ⟨p, hp, rfl⟩ := hk
  have : p.name ∈ reg'.packages.map (·.name) := h ▸ List.mem_map_of_mem hp
  obtain ⟨q, hq, hqn⟩ := List.mem_map.mp this
  exact ⟨q, hq, hqn⟩

/-- Registration keeps the link. -/
theorem Linked.register {reg : Registry} (h : reg.Linked) {key : String} (hk : reg.HasPackage key)
    (f : Nat) : (reg.register f key).1.Linked := by
  cases hc : reg.callable? f with
  | none => simpa [Registry.register, hc] using h
  | some c =>
    cases hn : c.name with
    | none => simpa [Registry.register, hc, hn] using h
    | some n =>
      have hname : (reg.callable? f).bind (·.name) = some n := by simp [hc, hn]
      refine ⟨by rw [register_names]; exact h.packages_nodup, ?_, fun x g => ?_⟩
      · simp only [register_eq hname, packages_setHome]
        rw [takeCell_packages]
        exact setCell_symbols_nodup (leaveHome_symbols_nodup (h.intern key n).symbols_nodup f _) _ _
      · rw [register_cell h hk hname, register_home h hc hn]
        exact relink h.link f ⟨key, n⟩ x g

theorem addIn_eq (reg : Registry) (c : Callable) (key : String) :
    reg.addIn c key = (((reg.add c).1.register reg.callables.length key).1, reg.callables.length) := rfl

/-- After a callable is added and registered, the callables are the old ones and the new one, up
to their homes. -/
theorem callable?_addIn (reg : Registry) (c : Callable) (key : String) (g : Nat) :
    ((reg.addIn c key).1.callable? g).map (fun c => { c with home := none }) =
      if g < reg.callables.length then (reg.callable? g).map (fun c => { c with home := none })
      else if g = reg.callables.length then some { c with home := none } else none := by
  rw [addIn_eq, callable?_register]
  rcases Nat.lt_trichotomy g reg.callables.length with hlt | rfl | hgt
  · rw [callable?_add_of_lt _ _ hlt, if_pos hlt]
  · rw [callable?_add, if_neg (Nat.lt_irrefl _), if_pos rfl]
    rfl
  · rw [callable?_add_of_gt _ _ hgt, if_neg (by omega), if_neg (by omega)]
    rfl

/-- Adding a callable without a home and registering it keeps the link and the packages. -/
theorem Linked.addIn {reg : Registry} (h : reg.Linked) {c : Callable} (hc : c.home = none)
    {key : String} (hk : reg.HasPackage key) :
    (reg.addIn c key).1.Linked ∧ (reg.addIn c key).1.packages.map (·.name) = reg.packages.map (·.name) :=
  ⟨(h.add hc).register hk _, register_names _ _ _⟩

/-- Adding a callable without a home and registering it binds its name in the package to its
number, and changes no other cell. -/
theorem addIn_cell {reg : Registry} (h : reg.Linked) {key : String} (hk : reg.HasPackage key)
    {c : Callable} (hc : c.home = none) {n : String} (hn : c.name = some n) (x : SymbolRef) :
    (reg.addIn c key).1.cell x = if x = ⟨key, n⟩ then some reg.callables.length else reg.cell x := by
  have hname : ((reg.add c).1.callable? reg.callables.length).bind (·.name) = some n := by
    rw [callable?_add, Option.bind_some, hn]
  -- the new callable has no home yet, so registering it clears no other cell
  have hreg := register_cell (h.add hc) hk hname x
  have hadd : (reg.add c).1.cell x = reg.cell x := cell_of_packages rfl x
  rw [home_add, if_pos rfl, hc, hadd] at hreg
  simpa [addIn_eq] using hreg

/-! ## Operations that keep the cells -/

/-- Changing the packages of one name without touching their names or symbols keeps the
link. -/
theorem Linked.updatePackage {reg : Registry} (h : reg.Linked) (key : String) (g : Package → Package)
    (hname : ∀ q, q.name = key → (g q).name = key)
    (hsym : ∀ q ∈ reg.packages, q.name = key → (g q).symbols = q.symbols) :
    (reg.updatePackage key g).Linked where
  packages_nodup := by rw [updatePackage_names _ _ _ hname]; exact h.packages_nodup
  symbols_nodup p hp := by
    simp only [Registry.updatePackage, List.mem_map] at hp
    obtain ⟨q, hq, rfl⟩ := hp
    split
    · rename_i hk; rw [hsym q hq (by simpa using hk)]; exact h.symbols_nodup q hq
    · exact h.symbols_nodup q hq
  link x f := by
    have hcell : (reg.updatePackage key g).cell x = reg.cell x := by
      unfold cell
      rw [find?_updatePackage _ _ _ hname]
      cases hp : reg.packages.find? (·.name == x.package) with
      | none => rfl
      | some q =>
        simp only [Option.map_some, Option.bind_some]
        split
        · rename_i hk
          simp only [Package.find?, hsym q (List.mem_of_find?_eq_some hp) (by simpa using hk)]
        · rfl
    rw [hcell]
    exact h.link x f

/-- Changing callables without touching their homes keeps the link. -/
theorem Linked.updateCallable {reg : Registry} (h : reg.Linked) (f : Nat) (g : Callable → Callable)
    (hg : ∀ c, (g c).home = c.home) : (reg.updateCallable f g).Linked :=
  h.of_views rfl (home_updateCallable reg f g hg)

/-- Counting a call of an existing callable keeps the link. -/
theorem Linked.count {reg : Registry} (h : reg.Linked) {f : Nat} {c : Callable}
    (hc : reg.callable? f = some c) (n : Nat) :
    (reg.updateCallable f fun _ => { c with count := n }).Linked := by
  refine h.of_views rfl fun f' => ?_
  unfold home
  rw [callable?_updateCallable]
  split
  · rename_i hf; subst hf; simp [hc]
  · rfl

/-- A property kept by every step of a fold, for the elements folded, holds after it. -/
theorem foldl_invariant {α β : Type} (P : β → Prop) (step : β → α → β) :
    ∀ (l : List α) (b : β), (∀ b a, a ∈ l → P b → P (step b a)) → P b → P (l.foldl step b)
  | [], _, _, hb => hb
  | a :: l, b, hs, hb =>
    foldl_invariant P step l (step b a) (fun b' a' ha' => hs b' a' (List.mem_cons_of_mem a ha'))
      (hs b a List.mem_cons_self hb)

/-- Setting counts one callable after another keeps the link. -/
theorem Linked.foldl_updateCallable {reg : Registry} (h : reg.Linked) (g : Callable → Callable)
    (hg : ∀ c, (g c).home = c.home) (fs : List Nat) :
    (fs.foldl (fun r f => r.updateCallable f g) reg).Linked :=
  foldl_invariant Linked _ fs reg (fun _ f _ hr => hr.updateCallable f g hg) h

/-- Installing a table's slots in an existing package keeps the link. -/
theorem Linked.installTable {reg : Registry} (h : reg.Linked) (t : Table) {key : String}
    (hk : reg.HasPackage key) : (reg.installTable t key).1.Linked := by
  -- every slot is added to the package, which stays there
  refine (foldl_invariant (fun acc : Registry × List Nat => acc.1.Linked ∧ acc.1.HasPackage key)
    _ _ (reg, []) (fun acc entry _ hacc => ?_) ⟨h, hk⟩).1
  obtain ⟨hl, hn⟩ := hacc.1.addIn (c := .make (some entry.1.name) entry.1.arity (.table t entry.2))
    rfl hacc.2
  exact ⟨hl, hasPackage_of_names hn hacc.2⟩

/-- Installing the foreign operations keeps the link. -/
theorem Linked.installForeign {reg : Registry} (h : reg.Linked) (host : Host.Host)
    (package : String) (exportNames : Bool) :
    (reg.installForeign host package exportNames).1.Linked := by
  have hkey := hasPackage_ensurePackage reg package
  have hlink := h.ensurePackage package
  unfold Registry.installForeign
  generalize reg.ensurePackage package = e at hkey hlink ⊢
  obtain ⟨r₀, key⟩ := e
  refine (foldl_invariant (fun acc : Registry × List Nat => acc.1.Linked ∧ acc.1.HasPackage key)
    _ _ _ (fun acc entry _ hacc => ?_) ⟨hlink, hkey⟩).1
  obtain ⟨hacc, hkacc⟩ := hacc
  obtain ⟨op, i⟩ := entry
  dsimp only
  obtain ⟨hl, hn⟩ := hacc.addIn (c := .make (some op.name) op.arity (.table (.foreign host) i)) rfl hkacc
  have hk' := hasPackage_of_names hn hkacc
  generalize acc.1.addIn (.make (some op.name) op.arity (.table (.foreign host) i)) key = r at hl hk' ⊢
  obtain ⟨r, f⟩ := r
  have hname : ∀ q : Package, q.name = key → (q.exportName op.name).1.name = key := by simp
  cases exportNames
  · exact ⟨hl, hk'⟩
  · exact ⟨hl.updatePackage _ _ hname (fun q _ _ => Package.exportName_symbols q _),
      hasPackage_updatePackage _ hname hk'⟩

/-! ## Bound callables -/

/-- The callables bound to symbols, package by package and symbol by symbol: the listing that
call counts and count resets walk. -/
def boundCallables (reg : Registry) : List Nat :=
  reg.packages.flatMap fun p => p.symbols.filterMap (·.function)

/-- Every symbol of every package, as a reference. -/
def symbolRefs (reg : Registry) : List SymbolRef :=
  reg.packages.flatMap fun p => p.symbols.map fun sym => p.qualify sym.name

/-- In a list whose names do not repeat, searching by a member's name finds the member. -/
theorem find?_name_of_nodup {α : Type} (key : α → String) :
    ∀ {l : List α}, (l.map key).Nodup → ∀ {a : α}, a ∈ l → l.find? (fun b => key b == key a) = some a
  | [], _, _, ha => absurd ha List.not_mem_nil
  | b :: l, hl, a, ha => by
    rw [List.map_cons, List.nodup_cons] at hl
    rcases List.mem_cons.mp ha with rfl | ha
    · simp
    · have hba : key b ≠ key a := fun he => hl.1 (he ▸ List.mem_map_of_mem ha)
      simp [hba, find?_name_of_nodup key hl.2 ha]

/-- In a linked registry, a member symbol's cell is read through its own reference. -/
theorem Linked.cell_qualify {reg : Registry} (h : reg.Linked) {p : Package} (hp : p ∈ reg.packages)
    {sym : Symbol} (hs : sym ∈ p.symbols) : reg.cell (p.qualify sym.name) = sym.function := by
  have hpf : reg.packages.find? (·.name == p.name) = some p :=
    find?_name_of_nodup Package.name h.packages_nodup hp
  have hsf : p.symbols.find? (·.name == sym.name) = some sym :=
    find?_name_of_nodup Symbol.name (h.symbols_nodup p hp) hs
  simp [cell, Package.qualify, hpf, Package.find?, hsf]

/-- The bound callables are the cells of all symbols. -/
theorem Linked.boundCallables_eq {reg : Registry} (h : reg.Linked) :
    reg.boundCallables = reg.symbolRefs.filterMap reg.cell := by
  unfold boundCallables symbolRefs
  rw [List.filterMap_flatMap]
  refine List.flatMap_congr fun p hp => ?_
  rw [List.filterMap_map]
  exact List.filterMap_congr fun sym hs => (h.cell_qualify hp hs).symm

/-- No symbol is listed twice. -/
theorem Linked.symbolRefs_nodup {reg : Registry} (h : reg.Linked) : reg.symbolRefs.Nodup := by
  unfold symbolRefs
  refine List.nodup_flatMap.mpr ⟨fun p hp => ?_, ?_⟩
  · have : (p.symbols.map fun sym => p.qualify sym.name) =
        (p.symbols.map (·.name)).map fun n => (⟨p.name, n⟩ : SymbolRef) := by
      simp [Package.qualify, Function.comp_def]
    rw [this]
    exact (h.symbols_nodup p hp).map fun a b hab => by simpa using hab
  · have hne : reg.packages.Pairwise fun p q => p.name ≠ q.name :=
      List.pairwise_map.mp h.packages_nodup
    refine hne.imp fun {p q} hpq => ?_
    simp only [Function.onFun, List.disjoint_left, List.mem_map]
    rintro _ ⟨a, -, rfl⟩ ⟨b, -, hb⟩
    exact hpq (congrArg SymbolRef.package hb).symm

/-- A callable is bound under at most one symbol. -/
theorem Linked.cell_inj {reg : Registry} (h : reg.Linked) {x y : SymbolRef} {f : Nat}
    (hx : reg.cell x = some f) (hy : reg.cell y = some f) : x = y :=
  Option.some.inj (((h.link x f).mp hx).symm.trans ((h.link y f).mp hy))

/-- No callable is listed twice among the bound callables. -/
theorem Linked.boundCallables_nodup {reg : Registry} (h : reg.Linked) : reg.boundCallables.Nodup := by
  rw [h.boundCallables_eq]
  exact h.symbolRefs_nodup.filterMap fun x y f hx hy => h.cell_inj hx hy

end Registry.Registry

end HostInterop

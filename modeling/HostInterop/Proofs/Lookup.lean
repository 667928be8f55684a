import HostInterop.Proofs.Reachable
import HostInterop.Proofs.ForeignArity

/-!
# Lookup finds what registration binds

Names are upper-cased at several places: when a callable is made, when a package is made, when a
package is looked up, and when a whole qualified name is looked up. This module shows that they
agree in every reachable session.

* Upper-casing neither adds nor removes a colon (`Text.colon_mem_upper_iff`), so a name splits at
  the same first colon before and after it is upper-cased.
* Package names and the default package's name are upper-cased already (`Registry.Keyed`), in
  every reachable session (`Session.Reachable.keyed`), so looking a package up by its own name,
  which upper-cases it once more, finds it.
* A name without a colon is looked up in the configured foreign package, then in the default
  package (`Session.function?_of_unqualified`). Looking up `PACKAGE:NAME` finds what the symbol
  holds when the package's name has no colon of its own, and a bare name finds what the default
  package's symbol holds when the name has no colon (`Registry.findFunction_of_qualified`,
  `Registry.findFunction_of_default`). A colon inside a package name or a symbol name cannot be
  looked up: the lookup splits at the first colon (`Session.colon_package_not_found`).
* Installing the foreign operations is a fold of one step per operation (`foreignStep`); each
  step binds one name and changes no other cell, so the installed names, which are distinct,
  end up bound to the callables of their slots (`Registry.installForeign_cell`,
  `Registry.installForeign_target`). Right after a session is made, every spelling of an
  operation's name finds the callable of its slot (`Session.new_function?_operation`).
* `Session.lookup_finds_registered` gathers these for every reachable session.
-/

set_option linter.dupNamespace false

namespace HostInterop

/-! ## Upper case and the colon -/

namespace Text

set_option maxRecDepth 100000 in
/-- No code point of an expansion is a colon. -/
theorem expansions_colon_free : upperExpansions.all (fun e => e.2.all (· != 0x3A)) = true := by
  decide +kernel

set_option maxRecDepth 100000 in
/-- No image of a shift run is a colon. -/
theorem runImages_colon_free : upperShiftRuns.all (fun r => r.missesCode 0x3A) = true := by
  decide +kernel

set_option maxRecDepth 100000 in
/-- The colon is in neither table. -/
theorem fixedCode_colon : fixedCode 0x3A = true := by
  decide +kernel

/-- The colon is its own upper case. -/
theorem upperChars_colon : upperChars ':' = [':'] :=
  upperChars_ofNat_of_fixedCode fixedCode_colon

/-- A character of a table's image is the character of a valid code point, so it is a colon only
when that code point is the colon's. -/
theorem eq_colon_code {n : Nat} (hn : n.isValidChar) (h : Char.ofNat n = ':') : n = 0x3A := by
  have := toNat_ofNat_of_valid hn
  rw [h] at this
  exact this.symm

/-- Only the colon upper-cases to something with a colon. -/
theorem eq_colon_of_mem_upperChars {c : Char} (h : ':' ∈ upperChars c) : c = ':' := by
  unfold upperChars at h
  split at h
  · -- an expansion: no code point of it is a colon
    rename_i e he
    exfalso
    obtain ⟨n, hn, hc⟩ := List.mem_map.mp h
    have hmem := List.mem_of_find?_eq_some he
    have hfixed := List.all_eq_true.mp (List.all_eq_true.mp expansions_fixed e hmem) n hn
    have hvalid : n.isValidChar := by
      simp only [fixedCode, Bool.and_eq_true, decide_eq_true_eq] at hfixed
      exact hfixed.1.1
    have hne := List.all_eq_true.mp (List.all_eq_true.mp expansions_colon_free e hmem) n hn
    exact absurd (eq_colon_code hvalid hc) (by simpa using hne)
  · rename_i hnone
    split at h
    · -- a shift run: the image is a valid code point other than the colon's
      rename_i r hr
      exfalso
      have hmem := List.mem_of_find?_eq_some hr
      obtain ⟨k, hk, hc⟩ :=
        ShiftRun.exists_of_holds (List.find?_some (p := fun r : ShiftRun => r.holds c.toNat) hr)
      have himage : Int.toNat (c.toNat + r.shift) = r.image k := by
        rw [hc]; rfl
      rw [List.mem_singleton, himage] at h
      have hvalid := ShiftRun.image_valid_of_imagesValid
        (List.all_eq_true.mp runImages_valid r hmem) hk
      exact ShiftRun.image_ne_of_missesCode (List.all_eq_true.mp runImages_colon_free r hmem) hk
        (eq_colon_code hvalid h.symm)
    · exact (List.mem_singleton.mp h).symm

/-- Upper-casing neither adds a colon nor removes one. -/
theorem colon_mem_upper_iff (s : String) : ':' ∈ (upper s).toList ↔ ':' ∈ s.toList := by
  simp only [upper, String.toList_ofList, List.mem_flatMap]
  constructor
  · rintro ⟨c, hc, hcolon⟩
    rwa [eq_colon_of_mem_upperChars hcolon] at hc
  · intro h
    exact ⟨':', h, by rw [upperChars_colon]; exact List.mem_singleton_self _⟩

end Text

/-- No operation's name has a colon. -/
theorem Foreign.Operation.colon_not_mem_name (op : Foreign.Operation) : ':' ∉ op.name.toList := by
  cases op <;> decide

namespace Registry.Registry

/-! ## Splitting at the first colon -/

/-- A name without a colon does not split. -/
theorem splitAtColon_of_not_mem {s : String} (h : ':' ∉ s.toList) : splitAtColon s = none := by
  simp only [splitAtColon, List.contains_iff_mem, h]
  rfl

/-- A qualified name whose package part has no colon splits into the package part and the
rest. -/
theorem splitAtColon_qualified {p n : String} (hp : ':' ∉ p.toList) :
    splitAtColon (p ++ ":" ++ n) = some (p, n) := by
  have hall : ∀ c ∈ p.toList, (c != ':') = true := fun c hc => by
    simp only [bne_iff_ne, ne_eq]
    rintro rfl
    exact hp hc
  have hcs : (p ++ ":" ++ n).toList = p.toList ++ ':' :: n.toList := by
    simp [String.toList_append]
  simp only [splitAtColon, hcs, List.takeWhile_append_of_pos hall,
    List.dropWhile_append_of_pos hall]
  simp [String.ofList_toList]

/-- Looking a function up is reading the cell of the symbol its upper-cased name splits into,
in the package of that (again upper-cased) name, or in the default package. -/
theorem findFunction_eq (reg : Registry) (q : String) :
    reg.findFunction q = match splitAtColon (Text.upper q) with
      | some (pkg, sym) => reg.cell ⟨Text.upper pkg, sym⟩
      | none => reg.cell ⟨Text.upper reg.defaultPackage, Text.upper q⟩ := by
  dsimp only [findFunction]
  rcases splitAtColon (Text.upper q) with _ | ⟨pkg, sym⟩ <;> rfl

/-! ## Package keys are upper-cased -/

/-- The default package's name and every package's name are upper-cased: upper-casing them
changes nothing. -/
structure Keyed (reg : Registry) : Prop where
  /-- The default package's name is upper-cased. -/
  default_upper : Text.upper reg.defaultPackage = reg.defaultPackage
  /-- Every package's name is upper-cased. -/
  names_upper : ∀ p ∈ reg.packages, Text.upper p.name = p.name

/-- A registry just made is keyed: its names are upper-cased when it is made. -/
theorem keyed_new (name : String) : (Registry.new name).Keyed where
  default_upper := Text.upper_upper name
  names_upper p hp := by
    simp only [Registry.new, List.mem_singleton] at hp
    subst hp
    exact Text.upper_upper name

/-- Keeping the default package and the package names keeps the keys upper-cased. -/
theorem Keyed.of_names {reg reg' : Registry} (h : reg.Keyed)
    (hd : reg'.defaultPackage = reg.defaultPackage)
    (hn : reg'.packages.map (·.name) = reg.packages.map (·.name)) : reg'.Keyed where
  default_upper := hd ▸ h.default_upper
  names_upper p hp := by
    have hmem : p.name ∈ reg.packages.map (·.name) := hn ▸ List.mem_map_of_mem hp
    obtain ⟨q, hq, hqp⟩ := List.mem_map.mp hmem
    rw [← hqp]
    exact h.names_upper q hq

/-- A package made under an upper-cased name keeps the keys upper-cased. -/
theorem Keyed.ensurePackage {reg : Registry} (h : reg.Keyed) (n : String) :
    (reg.ensurePackage n).1.Keyed := by
  unfold Registry.ensurePackage; dsimp only
  split
  · exact h
  · refine ⟨h.default_upper, fun p hp => ?_⟩
    rcases List.mem_append.mp hp with hp | hp
    · exact h.names_upper p hp
    · rw [List.mem_singleton.mp hp]
      exact Text.upper_upper _

theorem leaveHome_defaultPackage (reg : Registry) (f : Nat) (s : SymbolRef) :
    (reg.leaveHome f s).defaultPackage = reg.defaultPackage := by
  rcases leaveHome_cases reg f s with he | ⟨y, he⟩ <;> rw [he]
  rfl

theorem takeCell_defaultPackage (reg : Registry) (f : Nat) (s : SymbolRef) :
    (reg.takeCell f s).defaultPackage = reg.defaultPackage := by
  unfold takeCell
  split
  · split <;> rfl
  · rfl

/-- Registration keeps the default package. -/
theorem register_defaultPackage (reg : Registry) (f : Nat) (key : String) :
    (reg.register f key).1.defaultPackage = reg.defaultPackage := by
  cases hname : (reg.callable? f).bind (·.name) with
  | none => simp [register, hname]
  | some n =>
    rw [register_eq hname]
    exact (takeCell_defaultPackage _ f _).trans (leaveHome_defaultPackage _ f _)

/-- Registration keeps the keys upper-cased. -/
theorem Keyed.register {reg : Registry} (h : reg.Keyed) (f : Nat) (key : String) :
    (reg.register f key).1.Keyed :=
  h.of_names (register_defaultPackage reg f key) (register_names reg f key)

theorem Keyed.addIn {reg : Registry} (h : reg.Keyed) (c : Callable) (key : String) :
    (reg.addIn c key).1.Keyed := by
  have hadd : (reg.add c).1.Keyed := h.of_names rfl rfl
  rw [addIn_eq]
  exact hadd.register _ key

theorem Keyed.updatePackage {reg : Registry} (h : reg.Keyed) (key : String) (g : Package → Package)
    (hg : ∀ q, q.name = key → (g q).name = key) : (reg.updatePackage key g).Keyed :=
  h.of_names rfl (updatePackage_names reg key g hg)

theorem Keyed.updateCallable {reg : Registry} (h : reg.Keyed) (f : Nat) (g : Callable → Callable) :
    (reg.updateCallable f g).Keyed :=
  h.of_names rfl rfl

/-- Installing a table keeps the keys upper-cased. -/
theorem Keyed.installTable {reg : Registry} (h : reg.Keyed) (t : Table) (key : String) :
    (reg.installTable t key).1.Keyed :=
  foldl_invariant (fun acc : Registry × List Nat => acc.1.Keyed) _ _ (reg, [])
    (fun _ _ _ hacc => hacc.addIn _ key) h

/-- Installing the foreign operations keeps the keys upper-cased. -/
theorem Keyed.installForeign {reg : Registry} (h : reg.Keyed) (host : Host.Host) (package : String)
    (exportNames : Bool) : (reg.installForeign host package exportNames).1.Keyed := by
  have hkeyed := h.ensurePackage package
  unfold Registry.installForeign
  generalize reg.ensurePackage package = e at hkeyed ⊢
  obtain ⟨r₀, key⟩ := e
  refine foldl_invariant (fun acc : Registry × List Nat => acc.1.Keyed) _ _ _
    (fun acc entry _ hacc => ?_) hkeyed
  obtain ⟨op, i⟩ := entry
  dsimp only
  have hadd := hacc.addIn (.make (some op.name) op.arity (.table (.foreign host) i)) key
  generalize acc.1.addIn (.make (some op.name) op.arity (.table (.foreign host) i)) key = r at hadd ⊢
  cases exportNames
  · exact hadd
  · exact hadd.updatePackage _ _ fun q hq => by simpa using hq

/-- Resetting counts keeps the keys upper-cased. -/
theorem Keyed.foldl_updateCallable {reg : Registry} (h : reg.Keyed) (g : Callable → Callable)
    (fs : List Nat) : (fs.foldl (fun r f => r.updateCallable f g) reg).Keyed :=
  foldl_invariant Keyed _ fs reg (fun _ f _ hr => hr.updateCallable f g) h

/-! ## Looking up what a symbol holds -/

/-- A symbol whose cell holds a callable belongs to a package that is there, so in a keyed
registry its package's name is upper-cased. -/
theorem Keyed.upper_package_of_cell {reg : Registry} (h : reg.Keyed) {x : SymbolRef} {f : Nat}
    (hx : reg.cell x = some f) : Text.upper x.package = x.package := by
  unfold cell at hx
  cases hp : reg.packages.find? (·.name == x.package) with
  | none => rw [hp] at hx; cases hx
  | some p =>
    have hpn : p.name = x.package := by simpa using List.find?_some hp
    rw [← hpn]
    exact h.names_upper p (List.mem_of_find?_eq_some hp)

/-- A callable bound to a symbol of a package whose name has no colon is found by every name
that upper-cases to the symbol's qualified name. -/
theorem findFunction_of_qualified {reg : Registry} (h : reg.Keyed) {x : SymbolRef} {f : Nat}
    (hx : reg.cell x = some f) (hp : ':' ∉ x.package.toList) {q : String}
    (hq : Text.upper q = x.qualified) : reg.findFunction q = some f := by
  rw [findFunction_eq, hq, SymbolRef.qualified, splitAtColon_qualified hp]
  dsimp only
  rw [h.upper_package_of_cell hx]
  exact hx

/-- A callable bound to a symbol of the default package whose name has no colon is found by
every name that upper-cases to the symbol's name. -/
theorem findFunction_of_default {reg : Registry} (h : reg.Keyed) {x : SymbolRef} {f : Nat}
    (hx : reg.cell x = some f) (hd : x.package = reg.defaultPackage) (hn : ':' ∉ x.name.toList)
    {q : String} (hq : Text.upper q = x.name) : reg.findFunction q = some f := by
  rw [findFunction_eq, hq, splitAtColon_of_not_mem hn]
  dsimp only
  rw [h.default_upper, ← hd]
  exact hx

/-! ## Installing the foreign operations -/

/-- One step of installing the foreign operations: the callable made for an operation's slot,
registered in the package, and its name exported when asked. -/
def foreignStep (host : Host.Host) (key : String) (exportNames : Bool) (acc : Registry × List Nat)
    (entry : Foreign.Operation × Nat) : Registry × List Nat :=
  let (op, i) := entry
  let (r, f) := acc.1.addIn (.make (some op.name) op.arity (.table (.foreign host) i)) key
  let r := if exportNames then r.updatePackage key (fun p => (p.exportName op.name).1) else r
  (r, acc.2 ++ [f])

theorem installForeign_eq (reg : Registry) (host : Host.Host) (package : String) (exportNames : Bool) :
    reg.installForeign host package exportNames =
      (Foreign.Operation.all.zip (List.range 6)).foldl
        (foreignStep host (reg.ensurePackage package).2 exportNames) ((reg.ensurePackage package).1, []) :=
  rfl

/-- Exporting a name changes no cell. -/
theorem cell_updatePackage_export (reg : Registry) (key n : String) (x : SymbolRef) :
    (reg.updatePackage key (fun p => (p.exportName n).1)).cell x = reg.cell x := by
  unfold cell
  rw [find?_updatePackage _ _ _ fun q hq => by simp [hq]]
  cases reg.packages.find? (·.name == x.package) with
  | none => rfl
  | some q =>
    simp only [Option.map_some, Option.bind_some]
    split
    · simp only [Package.find?, Package.exportName_symbols]
    · rfl

/-- Registration keeps the number of callables. -/
theorem register_length (reg : Registry) (f : Nat) (key : String) :
    (reg.register f key).1.callables.length = reg.callables.length := by
  simpa [unhomed] using congrArg List.length (register_unhomed reg f key)

section ForeignStep

variable {host : Host.Host} {key : String} {exportNames : Bool}

/-- One step binds the operation's name in the package to the new callable, and changes no
other cell. -/
theorem foreignStep_cell {acc : Registry × List Nat} (h : acc.1.Linked) (hk : acc.1.HasPackage key)
    (op : Foreign.Operation) (i : Nat) (x : SymbolRef) :
    (foreignStep host key exportNames acc (op, i)).1.cell x =
      if x = ⟨key, op.name⟩ then some acc.1.callables.length else acc.1.cell x := by
  let c : Callable := .make (some op.name) op.arity (.table (.foreign host) i)
  have hreg := addIn_cell (c := c) h hk rfl (congrArg some (Foreign.Operation.upper_name op)) x
  have hstep : foreignStep host key exportNames acc (op, i) =
      ((if exportNames then
          (acc.1.addIn c key).1.updatePackage key (fun p => (p.exportName op.name).1)
        else (acc.1.addIn c key).1), acc.2 ++ [acc.1.callables.length]) :=
    rfl
  rw [hstep]
  -- exporting the name changes the package's exports, never its cells
  cases exportNames
  · exact hreg
  · rw [if_pos rfl, cell_updatePackage_export]
    exact hreg

/-- One step keeps the registry linked and the package there. -/
theorem foreignStep_linked {acc : Registry × List Nat} (h : acc.1.Linked) (hk : acc.1.HasPackage key)
    (entry : Foreign.Operation × Nat) :
    (foreignStep host key exportNames acc entry).1.Linked ∧
      (foreignStep host key exportNames acc entry).1.HasPackage key := by
  obtain ⟨op, i⟩ := entry
  obtain ⟨hl, hn⟩ := h.addIn (c := .make (some op.name) op.arity (.table (.foreign host) i)) rfl hk
  have hk' := hasPackage_of_names hn hk
  have hname : ∀ q : Package, q.name = key → (q.exportName op.name).1.name = key := by simp
  simp only [foreignStep]
  cases exportNames
  · exact ⟨hl, hk'⟩
  · exact ⟨hl.updatePackage _ _ hname (fun q _ _ => Package.exportName_symbols q _),
      hasPackage_updatePackage _ hname hk'⟩

/-- A step changes the callables as adding the operation's callable does: exporting its name
touches a package only. -/
theorem foreignStep_callables (acc : Registry × List Nat) (op : Foreign.Operation) (i : Nat) :
    (foreignStep host key exportNames acc (op, i)).1.callables =
      (acc.1.addIn (.make (some op.name) op.arity (.table (.foreign host) i)) key).1.callables := by
  simp only [foreignStep]
  split <;> rfl

/-- One step adds one callable. -/
theorem foreignStep_length (acc : Registry × List Nat) (entry : Foreign.Operation × Nat) :
    (foreignStep host key exportNames acc entry).1.callables.length = acc.1.callables.length + 1 := by
  obtain ⟨op, i⟩ := entry
  rw [foreignStep_callables, addIn_eq, register_length]
  simp only [add, List.length_append, List.length_singleton]

/-- After one step the callables are the old ones and the operation's, up to their homes. -/
theorem foreignStep_callable? (acc : Registry × List Nat) (op : Foreign.Operation) (i g : Nat) :
    ((foreignStep host key exportNames acc (op, i)).1.callable? g).map (fun c => { c with home := none }) =
      if g < acc.1.callables.length then (acc.1.callable? g).map (fun c => { c with home := none })
      else if g = acc.1.callables.length then
        some { (Callable.make (some op.name) op.arity (.table (.foreign host) i)) with home := none }
      else none := by
  rw [← callable?_addIn _ _ key]
  simp only [callable?, foreignStep_callables]

end ForeignStep

section Install

variable (host : Host.Host) (key : String) (exportNames : Bool)

/-- Installing keeps the registry linked and the package there. -/
theorem foldl_foreignStep_linked (l : List (Foreign.Operation × Nat)) {acc : Registry × List Nat}
    (h : acc.1.Linked) (hk : acc.1.HasPackage key) :
    (l.foldl (foreignStep host key exportNames) acc).1.Linked ∧
      (l.foldl (foreignStep host key exportNames) acc).1.HasPackage key :=
  foldl_invariant (fun acc : Registry × List Nat => acc.1.Linked ∧ acc.1.HasPackage key) _ l acc
    (fun _ entry _ hacc => foreignStep_linked hacc.1 hacc.2 entry) ⟨h, hk⟩

/-- Installing adds one callable per operation. -/
theorem foldl_foreignStep_length :
    ∀ (l : List (Foreign.Operation × Nat)) (acc : Registry × List Nat),
      (l.foldl (foreignStep host key exportNames) acc).1.callables.length =
        acc.1.callables.length + l.length
  | [], _ => rfl
  | entry :: l, acc => by
    rw [List.foldl_cons, foldl_foreignStep_length l, foreignStep_length, List.length_cons]
    omega

/-- Installing leaves every cell but those of the installed names as it was. -/
theorem foldl_foreignStep_cell_of_not_mem :
    ∀ (l : List (Foreign.Operation × Nat)) (acc : Registry × List Nat), acc.1.Linked →
      acc.1.HasPackage key → ∀ x : SymbolRef, (∀ entry ∈ l, x ≠ ⟨key, entry.1.name⟩) →
      (l.foldl (foreignStep host key exportNames) acc).1.cell x = acc.1.cell x
  | [], _, _, _, _, _ => rfl
  | ⟨op, i⟩ :: l, acc, h, hk, x, hx => by
    have hstep : (foreignStep host key exportNames acc (op, i)).1.Linked ∧
        (foreignStep host key exportNames acc (op, i)).1.HasPackage key :=
      foreignStep_linked h hk (op, i)
    rw [List.foldl_cons, foldl_foreignStep_cell_of_not_mem l _ hstep.1 hstep.2 x
      fun entry he => hx entry (List.mem_cons_of_mem _ he), foreignStep_cell h hk op i x,
      if_neg (hx (op, i) List.mem_cons_self)]

/-- Installing operations with distinct names binds the name of the operation at place `j` to
the `j`-th new callable. -/
theorem foldl_foreignStep_cell :
    ∀ (l : List (Foreign.Operation × Nat)) (acc : Registry × List Nat), acc.1.Linked →
      acc.1.HasPackage key → (l.map (·.1.name)).Nodup → ∀ (j : Nat) (entry : Foreign.Operation × Nat),
      l[j]? = some entry →
      (l.foldl (foreignStep host key exportNames) acc).1.cell ⟨key, entry.1.name⟩ =
        some (acc.1.callables.length + j)
  | [], _, _, _, _, _, _, hj => by cases hj
  | ⟨op, i⟩ :: l, acc, h, hk, hnodup, j, entry, hj => by
    have hstep : (foreignStep host key exportNames acc (op, i)).1.Linked ∧
        (foreignStep host key exportNames acc (op, i)).1.HasPackage key :=
      foreignStep_linked h hk (op, i)
    rw [List.map_cons, List.nodup_cons] at hnodup
    rw [List.foldl_cons]
    cases j with
    | zero =>
      -- the operation at the head: bound by its own step, and no later name is the same
      cases hj
      rw [foldl_foreignStep_cell_of_not_mem host key exportNames l _ hstep.1 hstep.2 _ fun e he hx =>
        hnodup.1 (by rw [List.mem_map]; exact ⟨e, he, (congrArg SymbolRef.name hx).symm⟩),
        foreignStep_cell h hk op i, if_pos rfl]
      rfl
    | succ j =>
      rw [foldl_foreignStep_cell l _ hstep.1 hstep.2 hnodup.2 j entry hj, foreignStep_length]
      congr 1
      omega

/-- Installing keeps the callables that were there, up to their homes. -/
theorem foldl_foreignStep_callable?_of_lt :
    ∀ (l : List (Foreign.Operation × Nat)) (acc : Registry × List Nat) {g : Nat},
      g < acc.1.callables.length →
      ((l.foldl (foreignStep host key exportNames) acc).1.callable? g).map
          (fun c => { c with home := none }) =
        (acc.1.callable? g).map (fun c => { c with home := none })
  | [], _, _, _ => rfl
  | ⟨op, i⟩ :: l, acc, g, hg => by
    have hg' : g < (foreignStep host key exportNames acc (op, i)).1.callables.length := by
      rw [foreignStep_length]; omega
    rw [List.foldl_cons, foldl_foreignStep_callable?_of_lt l _ hg', foreignStep_callable?,
      if_pos hg]

/-- The `j`-th callable that installing makes forwards to the slot of the operation at place `j`
of the foreign table. -/
theorem foldl_foreignStep_target :
    ∀ (l : List (Foreign.Operation × Nat)) (acc : Registry × List Nat) (j : Nat)
      (entry : Foreign.Operation × Nat), l[j]? = some entry →
      ∃ c, (l.foldl (foreignStep host key exportNames) acc).1.callable? (acc.1.callables.length + j) =
        some c ∧ c.target = .table (.foreign host) entry.2
  | [], _, _, _, hj => by cases hj
  | ⟨op, i⟩ :: l, acc, j, entry, hj => by
    rw [List.foldl_cons]
    cases j with
    | zero =>
      cases hj
      have hlt : acc.1.callables.length <
          (foreignStep host key exportNames acc (op, i)).1.callables.length := by
        rw [foreignStep_length]; omega
      have hkeep := foldl_foreignStep_callable?_of_lt host key exportNames l _ hlt
      rw [foreignStep_callable?, if_neg (Nat.lt_irrefl _), if_pos rfl] at hkeep
      obtain ⟨c, hc, hcu⟩ := Option.map_eq_some_iff.mp hkeep
      exact ⟨c, hc, congrArg Callable.target hcu⟩
    | succ j =>
      obtain ⟨c, hc, ht⟩ := foldl_foreignStep_target l _ j entry hj
      rw [foreignStep_length] at hc
      exact ⟨c, by rw [← hc]; congr 1; omega, ht⟩

end Install

/-- The operations stand at their own slots. -/
theorem operationSlots_getElem? {i : Nat} {op : Foreign.Operation}
    (hop : Foreign.Operation.all[i]? = some op) :
    (Foreign.Operation.all.zip (List.range 6))[i]? = some (op, i) := by
  have hi : i < 6 := (List.getElem?_eq_some_iff.mp hop).1
  simp only [List.getElem?_zip_eq_some, hop, List.length_range, hi, getElem?_pos,
    List.getElem_range, and_self]

theorem operationSlots_names_nodup :
    ((Foreign.Operation.all.zip (List.range 6)).map (·.1.name)).Nodup := by
  decide

/-- Installing the foreign operations in a package binds each operation's name there to the new
callable made for its slot. -/
theorem installForeign_cell {reg : Registry} (h : reg.Linked) (host : Host.Host) (package : String)
    (exportNames : Bool) {i : Nat} {op : Foreign.Operation} (hop : Foreign.Operation.all[i]? = some op) :
    (reg.installForeign host package exportNames).1.cell ⟨Text.upper package, op.name⟩ =
      some (reg.callables.length + i) := by
  rw [installForeign_eq, ← ensurePackage_key reg package]
  have hcell := foldl_foreignStep_cell host _ exportNames _ ((reg.ensurePackage package).1, [])
    (h.ensurePackage package) (hasPackage_ensurePackage reg package) operationSlots_names_nodup i
    (op, i) (operationSlots_getElem? hop)
  rwa [ensurePackage_callables] at hcell

/-- The callable made for an operation's slot forwards to that slot of the foreign table. -/
theorem installForeign_target (reg : Registry) (host : Host.Host) (package : String)
    (exportNames : Bool) {i : Nat} {op : Foreign.Operation} (hop : Foreign.Operation.all[i]? = some op) :
    ∃ c, (reg.installForeign host package exportNames).1.callable? (reg.callables.length + i) = some c ∧
      c.target = .table (.foreign host) i := by
  rw [installForeign_eq]
  have htarget := foldl_foreignStep_target host (reg.ensurePackage package).2 exportNames _
    ((reg.ensurePackage package).1, []) i (op, i) (operationSlots_getElem? hop)
  rwa [ensurePackage_callables] at htarget

end Registry.Registry

namespace Session

open Registry Registry.Registry

/-- A call keeps the keys upper-cased: it counts one callable at most. -/
theorem keyed_enter {s : Session} (h : s.registry.Keyed) (f : Nat) (entry : Entry)
    (args : List Value) : (s.enter f entry args).2.registry.Keyed := by
  rcases enter_registry s f entry args with he | ⟨c, -, -, he⟩
  · rw [he]; exact h
  · rw [he]; exact h.updateCallable f _

/-- Every operation keeps the keys upper-cased. -/
theorem keyed_act {s : Session} (h : s.registry.Keyed) : ∀ a : Action, (s.act a).registry.Keyed
  | .intern package name => by
    rw [act, intern_registry]
    exact (h.ensurePackage package).of_names rfl (intern_names _ _ name)
  | .ensurePackage package => by
    rw [act, packageKey_registry]
    exact h.ensurePackage _
  | .define name arity target package => by
    rw [act, define_registry]
    cases name with
    | none => exact h.of_names rfl rfl
    | some n => exact (h.ensurePackage _).addIn _ _
  | .register f package => by
    rw [act, registerIn_registry]
    exact (h.ensurePackage package).register f _
  | .installTable t package => by
    rw [act, installTable_registry]
    exact (h.ensurePackage package).installTable t _
  | .installForeign host package exportNames => h.installForeign host package exportNames
  | .exportName package name => by
    simp only [act, exportSymbol]
    split
    · exact h
    · exact h.updatePackage _ _ fun q hq => by simp
  | .enter f entry args => keyed_enter h f entry args
  | .call name args => by
    rw [act, call_eq]
    split
    · exact h
    · exact keyed_enter h _ _ args
  | .freshHost _ => h
  | .clearCount f => h.updateCallable f _
  | .incrementCount f => h.updateCallable f _
  | .clearCounts => h.foldl_updateCallable _ _

/-- What a lookup answers: the callable found, or an undefined function named by the name
upper-cased. -/
def lookupResult (name : String) : Option Nat → Except RuntimeError Nat
  | some f => .ok f
  | none => .error (.undefinedFunction (Text.upper name))

/-- A name without a colon is looked up under its upper-cased form in the configured foreign
package, then in the default package, and is otherwise an undefined function of that form. -/
theorem function?_of_unqualified {s : Session} (h : s.registry.Keyed) {name : String}
    (hn : ':' ∉ name.toList) :
    s.function? name = lookupResult name
      ((s.registry.cell ⟨Text.upper s.config.foreignPackage, Text.upper name⟩).or
        (s.registry.cell ⟨s.registry.defaultPackage, Text.upper name⟩)) := by
  have hnu : ':' ∉ (Text.upper name).toList := fun hc => hn ((Text.colon_mem_upper_iff name).mp hc)
  -- the default package is looked up under its own name, upper-cased once more
  have hdefault : s.registry.findFunction name =
      s.registry.cell ⟨s.registry.defaultPackage, Text.upper name⟩ := by
    rw [findFunction_eq, splitAtColon_of_not_mem hnu]
    dsimp only
    rw [h.default_upper]
  have hcontains : name.toList.contains ':' = false := by simpa using hn
  -- the configured foreign package is looked up under its name upper-cased
  have hforeign : ((s.registry.package? s.config.foreignPackage).bind fun p =>
      (p.find? (Text.upper name)).bind (·.function)) =
      s.registry.cell ⟨Text.upper s.config.foreignPackage, Text.upper name⟩ := rfl
  unfold function?
  simp only [hcontains, Bool.false_eq_true, if_false]
  rw [hforeign, ← hdefault]
  cases s.registry.cell ⟨Text.upper s.config.foreignPackage, Text.upper name⟩ <;>
    cases s.registry.findFunction name <;> rfl

/-- A name with a colon is looked up as a qualified name. -/
theorem function?_of_qualified (s : Session) {name : String} (hn : ':' ∈ name.toList) :
    s.function? name = lookupResult name (s.registry.findFunction name) := by
  have hcontains : name.toList.contains ':' = true := by simpa using hn
  unfold function?
  simp only [hcontains, if_true]
  cases s.registry.findFunction name <;> rfl

/-- In every reachable session the package keys are upper-cased. -/
theorem Reachable.keyed {s : Session} (hs : s.Reachable) : s.registry.Keyed := by
  induction hs with
  | start s name h => rw [h]; exact keyed_new name
  | act s a _ ih => exact keyed_act ih a

/-! ## Right after a session is made -/

/-- A new session keeps its configuration. -/
theorem new_config (classes : Host.ClassPath) (config : Config) :
    (Session.new classes config).config = config := by
  rw [new_eq_act]
  dsimp only [act]

/-- A new session's registry is a fresh one with the foreign operations installed. -/
theorem new_registry (classes : Host.ClassPath) (config : Config) :
    (Session.new classes config).registry =
      ((Registry.new config.defaultPackage).installForeign ⟨0, classes⟩ config.foreignPackage
        config.exportForeign).1 := by
  rw [new_eq_act]
  dsimp only [act]

/-- Right after a session is made, every spelling of an operation's name finds the callable made
for the operation's slot, and that callable forwards to the slot of the session's foreign table. -/
theorem new_function?_operation (classes : Host.ClassPath) (config : Config) {i : Nat}
    {op : Foreign.Operation} (hop : Foreign.Operation.all[i]? = some op) {q : String}
    (hq : Text.upper q = op.name) :
    (Session.new classes config).function? q = .ok i ∧
      ∃ c, (Session.new classes config).registry.callable? i = some c ∧
        c.target = .table (.foreign ⟨0, classes⟩) i := by
  have hfresh : (Registry.new config.defaultPackage).callables.length = 0 := rfl
  have hcell := installForeign_cell (linked_new config.defaultPackage) ⟨0, classes⟩
    config.foreignPackage config.exportForeign hop
  have htarget := installForeign_target (Registry.new config.defaultPackage) ⟨0, classes⟩
    config.foreignPackage config.exportForeign hop
  rw [hfresh, Nat.zero_add] at hcell htarget
  -- an operation's name has no colon, so neither has any spelling of it
  have hnq : ':' ∉ q.toList := fun hc =>
    Foreign.Operation.colon_not_mem_name op (hq ▸ (Text.colon_mem_upper_iff q).mpr hc)
  have hkeyed := (reachable_new classes config).keyed
  constructor
  · rw [function?_of_unqualified hkeyed hnq, hq, new_config, new_registry, hcell]
    rfl
  · rw [new_registry]
    exact htarget

/-- Lookup finds what registration binds, in every reachable session. A name without a colon is
looked up in the configured foreign package, then in the default package, and is otherwise an
undefined function of its upper-cased form; a name with a colon is looked up as a qualified name.
A callable bound to a symbol is found by every name that upper-cases to the symbol's qualified
name, when the package's name has no colon, and, in the default package, by every name that
upper-cases to the symbol's name, when that name has no colon: the lookup splits a name at its
first colon. Right after a session is made, each operation's name in any letter case finds the
callable of its slot of the foreign table. -/
theorem lookup_finds_registered {s : Session} (hs : s.Reachable) :
    (∀ name : String, ':' ∉ name.toList →
      s.function? name = lookupResult name
        ((s.registry.cell ⟨Text.upper s.config.foreignPackage, Text.upper name⟩).or
          (s.registry.cell ⟨s.registry.defaultPackage, Text.upper name⟩))) ∧
    (∀ name : String, ':' ∈ name.toList →
      s.function? name = lookupResult name (s.registry.findFunction name)) ∧
    (∀ (x : SymbolRef) (f : Nat) (q : String), s.registry.cell x = some f →
      ':' ∉ x.package.toList → Text.upper q = x.qualified → s.registry.findFunction q = some f) ∧
    (∀ (x : SymbolRef) (f : Nat) (q : String), s.registry.cell x = some f →
      x.package = s.registry.defaultPackage → ':' ∉ x.name.toList → Text.upper q = x.name →
      s.registry.findFunction q = some f) ∧
    (∀ (classes : Host.ClassPath) (config : Config) (i : Nat) (op : Foreign.Operation) (q : String),
      Foreign.Operation.all[i]? = some op → Text.upper q = op.name →
      (Session.new classes config).function? q = .ok i ∧
        ∃ c, (Session.new classes config).registry.callable? i = some c ∧
          c.target = .table (.foreign ⟨0, classes⟩) i) := by
  have hkeyed := hs.keyed
  refine ⟨fun name hn => function?_of_unqualified hkeyed hn,
    fun name hn => function?_of_qualified s hn, ?_, ?_, ?_⟩
  · intro x f q hx hp hq
    exact findFunction_of_qualified hkeyed hx hp hq
  · intro x f q hx hd hn hq
    exact findFunction_of_default hkeyed hx hd hn hq
  · intro classes config i op q hop hq
    exact new_function?_operation classes config hop hq

/-- In the standard session the operation of resolving a class is found by a qualified name in
any letter case. -/
theorem standard_finds_qualified_operation :
    (Session.standard {}).Reachable ∧
      (Session.standard {}).registry.findFunction "foreign:Resolve-Class" = some 0 := by
  have hs := reachable_new Host.ClassPath.standard {}
  have hfresh : (Registry.new ({} : Config).defaultPackage).callables.length = 0 := rfl
  have hcell := installForeign_cell (linked_new ({} : Config).defaultPackage) ⟨0, .standard⟩
    ({} : Config).foreignPackage ({} : Config).exportForeign
    (rfl : Foreign.Operation.all[0]? = some .resolveClass)
  rw [← new_registry, hfresh] at hcell
  have hp : ':' ∉ (Text.upper ({} : Config).foreignPackage).toList := by
    rw [Text.colon_mem_upper_iff]
    decide
  have hq : Text.upper "foreign:Resolve-Class" =
      (⟨Text.upper ({} : Config).foreignPackage, Foreign.Operation.resolveClass.name⟩ :
        SymbolRef).qualified := by
    decide
  exact ⟨hs, (lookup_finds_registered hs).2.2.1 _ 0 _ hcell hp hq⟩

/-- A callable registered in a package whose name has a colon is not found by its qualified name:
the lookup splits the name at its first colon and looks for a package that is not there. -/
theorem colon_package_not_found :
    let s : Session := (⟨{}, Registry.new "CL-USER", ⟨0, .empty⟩, 1⟩ : Session).act
      (.define (some "x") (.exact 0) .unbound (some "a:b"))
    s.Reachable ∧ s.registry.cell ⟨"A:B", "X"⟩ = some 0 ∧ Text.upper "a:b:x" = "A:B:X" ∧
      s.registry.findFunction "a:b:x" = none := by
  intro s
  refine ⟨.act _ _ (.start _ "CL-USER" rfl), ?_, ?_, ?_⟩ <;> decide

end Session

end HostInterop

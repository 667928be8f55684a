import HostInterop.Proofs.Lookup
import HostInterop.Proofs.EntryPoints
import Mathlib

/-!
# Installing a dispatch table

Installing a table makes one callable per slot, in slot order, each forwarding to its slot with
the slot's arity, and registers each under its upper-cased name in the package. Two slots whose
names upper-case alike land on one symbol, and the last registration wins: the symbol of a name
ends up holding the callable of the last slot of that name, and the callables of the earlier
slots of the name are displaced and forget their symbol, while still forwarding to their own
slots.

* `lastPlaceOf` is the place of the last name of a list equal to a given one, characterised by
  `lastPlaceOf_eq_some_iff`.
* Installing is a fold of one step per slot (`slotStep`); each step binds one name and changes no
  other cell (`slotStep_cell`), so after the whole fold a symbol of the package holds the callable
  of the last slot of its name, and every other cell is as it was (`foldl_slotStep_cell`).
* The callables made are numbered on from the ones that were there, and each forwards to its own
  slot (`foldl_slotStep_callable`).
* `Session.installTable_binds_last_slot` gathers these in every reachable session, with the
  homes the link gives and what a call of each new callable does.
-/

set_option linter.dupNamespace false

namespace HostInterop

namespace Registry.Registry

/-! ## The last place of a name -/

/-- The place of the last name of a list that is `n`, if there is one. -/
def lastPlaceOf (n : String) : List String → Option Nat
  | [] => none
  | a :: l =>
    match lastPlaceOf n l with
    | some j => some (j + 1)
    | none => if a = n then some 0 else none

/-- A name has a last place exactly when it is in the list. -/
theorem lastPlaceOf_eq_none_iff {n : String} : ∀ {l : List String}, lastPlaceOf n l = none ↔ n ∉ l
  | [] => by simp [lastPlaceOf]
  | a :: l => by
    have ih := lastPlaceOf_eq_none_iff (n := n) (l := l)
    cases h : lastPlaceOf n l with
    | some j =>
      have hmem : n ∈ l := by
        by_contra hn
        rw [← ih] at hn
        rw [hn] at h
        cases h
      simp [lastPlaceOf, h, hmem]
    | none =>
      have hmem : n ∉ l := ih.mp h
      by_cases ha : a = n
      · simp [lastPlaceOf, h, ha]
      · simp [lastPlaceOf, h, ha, hmem, Ne.symm ha]

/-- The last place of a name is a place of it with no place of it after. -/
theorem lastPlaceOf_eq_some_iff {n : String} : ∀ {l : List String} {j : Nat},
    lastPlaceOf n l = some j ↔ l[j]? = some n ∧ ∀ k, j < k → l[k]? ≠ some n
  | [], j => by simp [lastPlaceOf]
  | a :: l, j => by
    cases h : lastPlaceOf n l with
    | some i =>
      -- the last place lies in the tail
      obtain ⟨hi, hafter⟩ := lastPlaceOf_eq_some_iff.mp h
      simp only [lastPlaceOf, h, Option.some.injEq]
      constructor
      · rintro rfl
        exact ⟨hi, fun k hk => by
          obtain ⟨k, rfl⟩ : ∃ k', k = k' + 1 := ⟨k - 1, by omega⟩
          exact hafter k (by omega)⟩
      · rintro ⟨hj, hnone⟩
        cases j with
        | zero => exact absurd hi (hnone (i + 1) (by omega))
        | succ j =>
          have hj' : lastPlaceOf n l = some j := lastPlaceOf_eq_some_iff.mpr ⟨hj, fun k hk =>
            hnone (k + 1) (by omega)⟩
          rw [h] at hj'
          exact congrArg (· + 1) (Option.some.inj hj')
    | none =>
      -- the name is not in the tail, so only the head can be it
      have hmem : n ∉ l := lastPlaceOf_eq_none_iff.mp h
      have htail : ∀ k, l[k]? ≠ some n := fun k hk => hmem (List.mem_of_getElem? hk)
      simp only [lastPlaceOf, h]
      cases j with
      | zero =>
        by_cases ha : a = n
        · subst ha
          refine ⟨fun _ => ⟨rfl, fun k hk => ?_⟩, fun _ => by simp⟩
          obtain ⟨k, rfl⟩ : ∃ k', k = k' + 1 := ⟨k - 1, by omega⟩
          exact htail k
        · simp [ha]
      | succ j =>
        simp only [List.getElem?_cons_succ]
        constructor
        · intro hs
          split at hs <;> cases hs
        · rintro ⟨hj, -⟩
          exact absurd hj (htail j)

/-- A name in the list has a last place. -/
theorem lastPlaceOf_isSome_of_mem {n : String} {l : List String} (h : n ∈ l) :
    (lastPlaceOf n l).isSome := by
  cases hl : lastPlaceOf n l with
  | some j => rfl
  | none => exact absurd h (lastPlaceOf_eq_none_iff.mp hl)

/-- A slot's upper-cased name has a last place among the slots' upper-cased names. -/
theorem exists_lastPlaceOf (entries : List Slot) {i : Nat} (hi : i < entries.length) :
    ∃ j, ∃ hj : j < entries.length,
      Text.upper entries[j].name = Text.upper entries[i].name ∧
      (∀ k (hk : k < entries.length), j < k → Text.upper entries[k].name ≠ Text.upper entries[i].name) ∧
      lastPlaceOf (Text.upper entries[i].name) (entries.map (Text.upper ·.name)) = some j := by
  have hmem : Text.upper entries[i].name ∈ entries.map (Text.upper ·.name) :=
    List.mem_map.mpr ⟨entries[i], List.getElem_mem hi, rfl⟩
  obtain ⟨j, hj⟩ := Option.isSome_iff_exists.mp (lastPlaceOf_isSome_of_mem hmem)
  obtain ⟨hat, hafter⟩ := lastPlaceOf_eq_some_iff.mp hj
  have hjlt : j < entries.length := by
    simpa using (List.getElem?_eq_some_iff.mp hat).1
  refine ⟨j, hjlt, ?_, fun k hk hjk heq => hafter k hjk ?_, hj⟩
  · simpa [hjlt] using hat
  · simp [hk, heq]

/-! ## One slot -/

/-- One step of installing a table: the callable made for a slot, forwarding to it with its name
and arity, added and registered in the package. -/
def slotStep (t : Table) (key : String) (acc : Registry × List Nat) (entry : Slot × Nat) :
    Registry × List Nat :=
  let (r, f) := acc.1.addIn (.make (some entry.1.name) entry.1.arity (.table t entry.2)) key
  (r, acc.2 ++ [f])

theorem installTable_eq (reg : Registry) (t : Table) (key : String) :
    reg.installTable t key =
      (t.entries.zip (List.range t.entries.length)).foldl (slotStep t key) (reg, []) :=
  rfl

section SlotStep

variable {t : Table} {key : String}

/-- One step binds the slot's upper-cased name in the package to the new callable, and changes
no other cell. -/
theorem slotStep_cell {acc : Registry × List Nat} (h : acc.1.Linked) (hk : acc.1.HasPackage key)
    (entry : Slot × Nat) (x : SymbolRef) :
    (slotStep t key acc entry).1.cell x =
      if x = ⟨key, Text.upper entry.1.name⟩ then some acc.1.callables.length else acc.1.cell x := by
  exact addIn_cell (c := .make (some entry.1.name) entry.1.arity (.table t entry.2)) h hk rfl rfl x

/-- One step keeps the registry linked and the package there. -/
theorem slotStep_linked {acc : Registry × List Nat} (h : acc.1.Linked) (hk : acc.1.HasPackage key)
    (entry : Slot × Nat) :
    (slotStep t key acc entry).1.Linked ∧ (slotStep t key acc entry).1.HasPackage key := by
  obtain ⟨hl, hn⟩ := h.addIn (c := .make (some entry.1.name) entry.1.arity (.table t entry.2)) rfl hk
  exact ⟨hl, hasPackage_of_names hn hk⟩

/-- One step adds one callable and lists its number. -/
theorem slotStep_length (acc : Registry × List Nat) (entry : Slot × Nat) :
    (slotStep t key acc entry).1.callables.length = acc.1.callables.length + 1 ∧
      (slotStep t key acc entry).2 = acc.2 ++ [acc.1.callables.length] := by
  refine ⟨?_, rfl⟩
  simp only [slotStep, addIn_eq, register_length, add, List.length_append, List.length_singleton]

/-- After one step the callables are the old ones and the slot's, up to their homes. -/
theorem slotStep_callable? (acc : Registry × List Nat) (entry : Slot × Nat) (g : Nat) :
    ((slotStep t key acc entry).1.callable? g).map (fun c => { c with home := none }) =
      if g < acc.1.callables.length then (acc.1.callable? g).map (fun c => { c with home := none })
      else if g = acc.1.callables.length then
        some { (Callable.make (some entry.1.name) entry.1.arity (.table t entry.2)) with home := none }
      else none :=
  callable?_addIn _ _ key g

end SlotStep

/-! ## All the slots -/

section Install

variable (t : Table) (key : String)

/-- Installing keeps the registry linked and the package there. -/
theorem foldl_slotStep_linked (l : List (Slot × Nat)) {acc : Registry × List Nat}
    (h : acc.1.Linked) (hk : acc.1.HasPackage key) :
    (l.foldl (slotStep t key) acc).1.Linked ∧ (l.foldl (slotStep t key) acc).1.HasPackage key :=
  foldl_invariant (fun acc : Registry × List Nat => acc.1.Linked ∧ acc.1.HasPackage key) _ l acc
    (fun _ entry _ hacc => slotStep_linked hacc.1 hacc.2 entry) ⟨h, hk⟩

/-- Installing adds one callable per slot, and lists their numbers in slot order. -/
theorem foldl_slotStep_length : ∀ (l : List (Slot × Nat)) (acc : Registry × List Nat),
    (l.foldl (slotStep t key) acc).1.callables.length = acc.1.callables.length + l.length ∧
      (l.foldl (slotStep t key) acc).2 = acc.2 ++ List.range' acc.1.callables.length l.length
  | [], acc => by simp
  | entry :: l, acc => by
    obtain ⟨hlen, hnums⟩ : (slotStep t key acc entry).1.callables.length = _ ∧ _ :=
      slotStep_length acc entry
    obtain ⟨ihlen, ihnums⟩ := foldl_slotStep_length l (slotStep t key acc entry)
    rw [List.foldl_cons, ihlen, ihnums, hlen, hnums, List.length_cons, List.range'_succ,
      List.append_assoc]
    exact ⟨by omega, rfl⟩

/-- After installing, a symbol of the package holds the callable of the last slot whose name
upper-cases to the symbol's name, and every other cell is as it was. -/
theorem foldl_slotStep_cell : ∀ (l : List (Slot × Nat)) (acc : Registry × List Nat),
    acc.1.Linked → acc.1.HasPackage key → ∀ x : SymbolRef,
      (l.foldl (slotStep t key) acc).1.cell x =
        if x.package = key then
          ((lastPlaceOf x.name (l.map (Text.upper ·.1.name))).map (acc.1.callables.length + ·)).or
            (acc.1.cell x)
        else acc.1.cell x
  | [], _, _, _, x => by simp [lastPlaceOf]
  | entry :: l, acc, h, hk, x => by
    obtain ⟨hl, hk'⟩ := slotStep_linked h hk entry
    rw [List.foldl_cons, foldl_slotStep_cell l _ hl hk' x, slotStep_cell h hk entry x,
      (slotStep_length acc entry).1]
    by_cases hp : x.package = key
    · simp only [hp, if_true, List.map_cons, lastPlaceOf]
      cases hlast : lastPlaceOf x.name (l.map (Text.upper ·.1.name)) with
      | some j =>
        -- a later slot of the name holds the symbol, whatever this step did
        simp only [Option.map_some, Option.some_or]
        congr 1
        omega
      | none =>
        -- no later slot has the name: the symbol holds what this step left there
        have hx : x = ⟨key, Text.upper entry.1.name⟩ ↔ Text.upper entry.1.name = x.name := by
          obtain ⟨package, name⟩ := x
          simp only at hp
          subst hp
          simp [eq_comm]
        simp only [Option.map_none, Option.none_or]
        by_cases hn : Text.upper entry.1.name = x.name
        · rw [if_pos (hx.mpr hn), if_pos hn]
          rfl
        · rw [if_neg (mt hx.mp hn), if_neg hn]
          rfl
    · have hx : x ≠ ⟨key, Text.upper entry.1.name⟩ := fun hx => hp (by rw [hx])
      simp [hp, hx]

/-- Installing keeps the callables that were there, up to their homes. -/
theorem foldl_slotStep_callable?_of_lt :
    ∀ (l : List (Slot × Nat)) (acc : Registry × List Nat) {g : Nat}, g < acc.1.callables.length →
      ((l.foldl (slotStep t key) acc).1.callable? g).map (fun c => { c with home := none }) =
        (acc.1.callable? g).map (fun c => { c with home := none })
  | [], _, _, _ => rfl
  | entry :: l, acc, g, hg => by
    have hg' : g < (slotStep t key acc entry).1.callables.length := by
      rw [(slotStep_length acc entry).1]; omega
    rw [List.foldl_cons, foldl_slotStep_callable?_of_lt l _ hg', slotStep_callable?, if_pos hg]

/-- The `j`-th callable that installing makes is the one made for the slot at place `j`, up to
its home: it has the slot's upper-cased name and arity, and forwards to the slot. -/
theorem foldl_slotStep_callable :
    ∀ (l : List (Slot × Nat)) (acc : Registry × List Nat) (j : Nat) (entry : Slot × Nat),
      l[j]? = some entry →
      ∃ c, (l.foldl (slotStep t key) acc).1.callable? (acc.1.callables.length + j) = some c ∧
        { c with home := none } =
          { (Callable.make (some entry.1.name) entry.1.arity (.table t entry.2)) with home := none }
  | [], _, _, _, hj => by cases hj
  | e :: l, acc, j, entry, hj => by
    rw [List.foldl_cons]
    cases j with
    | zero =>
      -- made by this step, and kept by the later ones
      cases hj
      have hlt : acc.1.callables.length < (slotStep t key acc e).1.callables.length := by
        rw [(slotStep_length acc e).1]; omega
      have hkeep := foldl_slotStep_callable?_of_lt t key l _ hlt
      rw [slotStep_callable?, if_neg (Nat.lt_irrefl _), if_pos rfl] at hkeep
      obtain ⟨c, hc, hcu⟩ := Option.map_eq_some_iff.mp hkeep
      exact ⟨c, hc, hcu⟩
    | succ j =>
      obtain ⟨c, hc, hcu⟩ := foldl_slotStep_callable l _ j entry hj
      rw [(slotStep_length acc e).1] at hc
      exact ⟨c, by rw [← hc]; congr 1; omega, hcu⟩

/-! ## A whole table of slots -/

/-- The slots of a table at their places. -/
theorem getElem?_zip_range {α : Type} (l : List α) {j : Nat} (hj : j < l.length) :
    (l.zip (List.range l.length))[j]? = some (l[j], j) := by
  simp [hj]

/-- Installing a table lists the numbers of its new callables, in slot order. -/
theorem installTable_numbers (reg : Registry) :
    (reg.installTable t key).2 = List.range' reg.callables.length t.entries.length := by
  rw [installTable_eq, (foldl_slotStep_length t key _ (reg, [])).2]
  simp

/-- The callable installed for slot `i` has the slot's upper-cased name and arity and forwards to
the slot. -/
theorem installTable_callable (reg : Registry) {i : Nat} (hi : i < t.entries.length) :
    ∃ c, (reg.installTable t key).1.callable? (reg.callables.length + i) = some c ∧
      c.name = some (Text.upper t.entries[i].name) ∧ c.arity = t.entries[i].arity ∧
      c.target = .table t i := by
  obtain ⟨c, hc, hcu⟩ := foldl_slotStep_callable t key _ (reg, []) i _ (getElem?_zip_range _ hi)
  exact ⟨c, hc, congrArg Callable.name hcu, congrArg Callable.arity hcu, congrArg Callable.target hcu⟩

/-- After installing a table in a package that is there, a symbol of the package holds the
callable of the last slot whose name upper-cases to the symbol's name, and every other cell is as
it was. -/
theorem installTable_cell {reg : Registry} (h : reg.Linked) (hk : reg.HasPackage key)
    (x : SymbolRef) :
    (reg.installTable t key).1.cell x =
      if x.package = key then
        ((lastPlaceOf x.name (t.entries.map (Text.upper ·.name))).map
          (reg.callables.length + ·)).or (reg.cell x)
      else reg.cell x := by
  rw [installTable_eq, foldl_slotStep_cell t key _ (reg, []) h hk x]
  have hnames : (t.entries.zip (List.range t.entries.length)).map (Text.upper ·.1.name) =
      t.entries.map (Text.upper ·.name) :=
    calc (t.entries.zip (List.range t.entries.length)).map (Text.upper ·.1.name)
        = ((t.entries.zip (List.range t.entries.length)).map Prod.fst).map (Text.upper ·.name) := by
          rw [List.map_map]
          rfl
      _ = t.entries.map (Text.upper ·.name) := by rw [List.map_fst_zip (by simp)]
  rw [hnames]

/-- After installing a table, the symbol of a slot's upper-cased name holds the callable of the
last slot whose name upper-cases alike. -/
theorem installTable_cell_last {reg : Registry} (h : reg.Linked) (hk : reg.HasPackage key)
    {i : Nat} (hi : i < t.entries.length) :
    ∃ j, ∃ hj : j < t.entries.length,
      Text.upper t.entries[j].name = Text.upper t.entries[i].name ∧
      (∀ k (hk : k < t.entries.length), j < k →
        Text.upper t.entries[k].name ≠ Text.upper t.entries[i].name) ∧
      (reg.installTable t key).1.cell ⟨key, Text.upper t.entries[i].name⟩ =
        some (reg.callables.length + j) := by
  obtain ⟨j, hj, hname, hafter, hlast⟩ := exists_lastPlaceOf t.entries hi
  refine ⟨j, hj, hname, hafter, ?_⟩
  rw [installTable_cell t key h hk, if_pos rfl, hlast]
  rfl

/-- After installing a table, the callable of a slot that a later slot of the same upper-cased
name follows is in no cell, so the link leaves it without a home. -/
theorem installTable_home_of_later {reg : Registry} (h : reg.Linked) (hk : reg.HasPackage key)
    {i k : Nat} (hi : i < t.entries.length) (hkl : k < t.entries.length) (hik : i < k)
    (hsame : Text.upper t.entries[k].name = Text.upper t.entries[i].name) :
    (reg.installTable t key).1.home (reg.callables.length + i) = none := by
  cases hhome : (reg.installTable t key).1.home (reg.callables.length + i) with
  | none => rfl
  | some x =>
    exfalso
    have hx := ((h.installTable t hk).link x _).mpr hhome
    -- a cell the install left as it was holds an older callable
    have hold : reg.cell x ≠ some (reg.callables.length + i) := fun hold => by
      have := lt_of_home ((h.link x _).mp hold)
      omega
    rw [installTable_cell t key h hk] at hx
    split at hx
    · cases hplace : lastPlaceOf x.name (t.entries.map (Text.upper ·.name)) with
      | none =>
        rw [hplace, Option.map_none, Option.none_or] at hx
        exact hold hx
      | some j =>
        -- the cell holds the last slot of its name, which slot `i` is not
        rw [hplace, Option.map_some, Option.some_or, Option.some.injEq] at hx
        have hji : j = i := by omega
        subst hji
        obtain ⟨hat, hafter⟩ := lastPlaceOf_eq_some_iff.mp hplace
        apply hafter k hik
        simp only [List.getElem?_map, List.getElem?_eq_getElem hkl, Option.map_some] at hat ⊢
        rw [hsame]
        simpa [hi] using hat
    · exact hold hx

end Install

end Registry.Registry

namespace Session

open Registry Registry.Registry

/-- A call of a callable that forwards to a slot of a table of slots runs the slot's body when
the callable's arity admits the count; otherwise it fails naming the callable, and changes
nothing. -/
theorem enter_slot {s : Session} {f : Nat} {c : Callable} (hc : s.registry.callable? f = some c)
    {tn : String} {entries : List Slot} {i : Nat} (hi : i < entries.length)
    (ht : c.target = .table (.slots tn entries) i) (entry : Entry) (args : List Value) :
    (c.arity.accepts args.length = true → (s.enter f entry args).1 = entries[i].run args) ∧
    (c.arity.accepts args.length = false →
      s.enter f entry args = (.error (.wrongNumberOfArguments c.displayName args.length), s)) := by
  have hadmits : c.admits args.length = c.arity.accepts args.length := by
    simp [Callable.admits, ht]
  rw [enter_entry]
  refine ⟨fun hacc => ?_, fun hacc => ?_⟩
  · rw [enter_of_admits hc (hadmits.trans hacc)]
    simp [Callable.runTarget, ht, Table.dispatch, hi]
    rfl
  · rw [enter_of_refused hc (hadmits.trans hacc), ht]

/-- What installing a table does to the session, at the registry. -/
theorem installTable_eq_registry (s : Session) (t : Table) (package : String) :
    s.installTable t package =
      ({ s with registry := ((s.registry.ensurePackage package).1.installTable t
          (Text.upper package)).1 },
        ((s.registry.ensurePackage package).1.installTable t (Text.upper package)).2) := by
  simp only [Session.installTable, packageKey, Option.getD_some, ensurePackage_key]

/-- Installing a table binds each name to its last slot. In every reachable session, installing
a table of slots with any names, arities and bodies, names possibly repeated up to letter case,
in any package, returns one new callable per slot, numbered on from the callables that were
there, and:

* the callable of slot `i` has the slot's upper-cased name and arity and forwards to slot `i`;
* for every slot, the symbol of its upper-cased name in the package holds the callable of the
  last slot whose name upper-cases alike;
* the callable of a slot that a later slot of the same name follows has no symbol;
* calling the callable of slot `i`, through any entry point, runs exactly that slot's body when
  its arity admits the count of arguments, and otherwise fails with a wrong number of arguments
  naming the slot's upper-cased name and the count, and changes nothing. -/
theorem installTable_binds_last_slot {s s' : Session} {fs : List Nat} (hs : s.Reachable)
    {tn package : String} {entries : List Slot}
    (hinstall : s.installTable (.slots tn entries) package = (s', fs)) :
    fs = List.range' s.registry.callables.length entries.length ∧
    (∀ i (hi : i < entries.length), ∃ c,
      s'.registry.callable? (s.registry.callables.length + i) = some c ∧
        c.name = some (Text.upper entries[i].name) ∧ c.arity = entries[i].arity ∧
        c.target = .table (.slots tn entries) i) ∧
    (∀ i (hi : i < entries.length), ∃ j, ∃ hj : j < entries.length,
      Text.upper entries[j].name = Text.upper entries[i].name ∧
      (∀ k (hk : k < entries.length), j < k →
        Text.upper entries[k].name ≠ Text.upper entries[i].name) ∧
      s'.registry.cell ⟨Text.upper package, Text.upper entries[i].name⟩ =
        some (s.registry.callables.length + j)) ∧
    (∀ i (hi : i < entries.length),
      (∃ k, ∃ hk : k < entries.length, i < k ∧
        Text.upper entries[k].name = Text.upper entries[i].name) →
      s'.registry.home (s.registry.callables.length + i) = none) ∧
    (∀ i (hi : i < entries.length) (entry : Entry) (args : List Value),
      (entries[i].arity.accepts args.length = true →
        (s'.enter (s.registry.callables.length + i) entry args).1 = entries[i].run args) ∧
      (entries[i].arity.accepts args.length = false →
        s'.enter (s.registry.callables.length + i) entry args =
          (.error (.wrongNumberOfArguments (Text.upper entries[i].name) args.length), s'))) := by
  rw [installTable_eq_registry, Prod.mk.injEq] at hinstall
  obtain ⟨rfl, rfl⟩ := hinstall
  -- the install happens in a linked registry, in a package that is there
  set reg := (s.registry.ensurePackage package).1 with hreg
  have hlinked : reg.Linked := hs.linked.ensurePackage package
  have hkey : reg.HasPackage (Text.upper package) := by
    rw [← ensurePackage_key s.registry package]
    exact hasPackage_ensurePackage s.registry package
  have hbase : reg.callables.length = s.registry.callables.length := by
    rw [hreg, ensurePackage_callables]
  have hcallable := fun i (hi : i < entries.length) =>
    installTable_callable (.slots tn entries) (Text.upper package) reg hi
  rw [hbase] at hcallable
  refine ⟨by rw [installTable_numbers, hbase]; rfl, hcallable, fun i hi => ?_,
    fun i hi ⟨k, hk, hik, hsame⟩ => ?_, fun i hi entry args => ?_⟩
  · rw [← hbase]
    exact installTable_cell_last (.slots tn entries) (Text.upper package) hlinked hkey hi
  · rw [← hbase]
    exact installTable_home_of_later (.slots tn entries) (Text.upper package) hlinked hkey hi hk hik
      hsame
  · -- the callable of the slot runs the slot, under the slot's name
    obtain ⟨c, hc, hname, harity, htarget⟩ := hcallable i hi
    have hdisplay : c.displayName = Text.upper entries[i].name := by
      rw [Callable.displayName, hname]
      rfl
    have hrun := enter_slot (s := { s with registry :=
      (reg.installTable (.slots tn entries) (Text.upper package)).1 }) hc hi htarget entry args
    rwa [harity, hdisplay] at hrun

/-- Two slots whose names differ in letter case only, installed in a fresh session: the symbol
`ARITH:NEG` holds the callable of the second slot, and the callable of the first has no
symbol. -/
theorem case_repeated_slots_bind_last :
    let s := Session.standard {}
    let t : Table := .slots "ARITH"
      [⟨"neg", .exact 1, fun _ => .ok .nil⟩, ⟨"NEG", .exact 0, fun _ => .ok .t⟩]
    s.Reachable ∧
      (s.installTable t "arith").1.registry.cell ⟨"ARITH", "NEG"⟩ =
        some (s.registry.callables.length + 1) ∧
      (s.installTable t "arith").1.registry.home s.registry.callables.length = none := by
  intro s t
  have hs : s.Reachable := reachable_new Host.ClassPath.standard {}
  have hinstall : s.installTable t "arith" =
      ((s.installTable t "arith").1, (s.installTable t "arith").2) := (Prod.eta _).symm
  obtain ⟨-, -, hcell, hhome, -⟩ := installTable_binds_last_slot hs hinstall
  have hupper : Text.upper "neg" = "NEG" ∧ Text.upper "NEG" = "NEG" ∧
      Text.upper "arith" = "ARITH" := by
    decide
  refine ⟨hs, ?_, ?_⟩
  · obtain ⟨j, hj, -, hafter, hj'⟩ := hcell 0 (by decide)
    -- the first slot is not the last of its name, so the second one is
    have hj1 : j = 1 := by
      have hj2 : j < 2 := hj
      rcases (show j = 0 ∨ j = 1 by omega) with rfl | rfl
      · exact absurd (by simp [hupper]) (hafter 1 (by decide) (by decide))
      · rfl
    subst hj1
    simpa only [List.getElem_cons_zero, hupper] using hj'
  · have hnone := hhome 0 (by decide) ⟨1, by decide, by decide, by simp [hupper]⟩
    simpa only [Nat.add_zero] using hnone

end Session

end HostInterop

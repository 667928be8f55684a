import HostInterop.Registry.Package

/-!
# The registry

A registry owns every package of one interpreter and every callable made in it; a callable is
known by its number. It names a default package, made with the registry, for names that come
without a package.

Registration binds a callable to the symbol of its name in a package (`Registry.register`). The
last registration wins: a different callable bound to that symbol is displaced and forgets its
symbol, and the callable leaves the symbol it was registered under before, if that symbol still
holds it. So a symbol's cell holds a callable exactly when the callable's home is that symbol.

Looking a function up upper-cases the whole name; `PACKAGE:NAME` splits at the first colon,
and a name without one is looked up in the default package.
-/

namespace HostInterop.Registry

/-- All packages and callables of one interpreter. -/
structure Registry where
  /-- The name of the default package, upper-cased. -/
  defaultPackage : String
  /-- The packages, in the order they were made, one per name. -/
  packages : List Package
  /-- The callables, by number. -/
  callables : List Callable

namespace Registry

/-- A registry with its default package and nothing else. -/
def new (defaultPackage : String) : Registry :=
  ⟨Text.upper defaultPackage, [Package.new defaultPackage], []⟩

/-- The package of a name, upper-cased first. -/
def package? (reg : Registry) (name : String) : Option Package :=
  reg.packages.find? (·.name == Text.upper name)

/-- The registry with the package of a name, made empty if it was not there, and the package's
upper-cased name. -/
def ensurePackage (reg : Registry) (name : String) : Registry × String :=
  let key := Text.upper name
  if reg.packages.any (·.name == key) then (reg, key)
  else ({ reg with packages := reg.packages ++ [Package.new key] }, key)

/-- Change the package of upper-cased name `key`. -/
def updatePackage (reg : Registry) (key : String) (f : Package → Package) : Registry :=
  { reg with packages := reg.packages.map fun p => if p.name == key then f p else p }

/-- Intern `name` in the package of upper-cased name `key`. -/
def intern (reg : Registry) (key name : String) : Registry :=
  reg.updatePackage key (·.intern name)

/-- The callable of a number. -/
def callable? (reg : Registry) (f : Nat) : Option Callable := reg.callables[f]?

/-- Change the callable of a number. -/
def updateCallable (reg : Registry) (f : Nat) (g : Callable → Callable) : Registry :=
  { reg with callables := reg.callables.modify f g }

/-- The function cell of a symbol. -/
def cell (reg : Registry) (s : SymbolRef) : Option Nat :=
  (reg.packages.find? (·.name == s.package)).bind fun p => (p.find? s.name).bind (·.function)

/-- Set the function cell of a symbol. -/
def setCell (reg : Registry) (s : SymbolRef) (f : Option Nat) : Registry :=
  reg.updatePackage s.package (·.setCell s.name f)

/-- Set the home of a callable. -/
def setHome (reg : Registry) (f : Nat) (home : Option SymbolRef) : Registry :=
  reg.updateCallable f fun c => { c with home := home }

/-- Clear a symbol's cell, only if it still holds callable `f`. -/
def unbindIf (reg : Registry) (s : SymbolRef) (f : Nat) : Registry :=
  if reg.cell s == some f then reg.setCell s none else reg

/-- Add a callable; it gets the next number. -/
def add (reg : Registry) (c : Callable) : Registry × Nat :=
  ({ reg with callables := reg.callables ++ [c] }, reg.callables.length)

/-- Bind callable `f` to the symbol of its name in the package of upper-cased name `key`; the
symbol, or none for an anonymous callable. -/
def register (reg : Registry) (f : Nat) (key : String) : Registry × Option SymbolRef :=
  match (reg.callable? f).bind (·.name) with
  | none => (reg, none)
  | some name =>
    let s : SymbolRef := ⟨key, name⟩
    let reg := reg.intern key name
    let reg := match (reg.callable? f).bind (·.home) with
      | some previous => if previous == s then reg else reg.unbindIf previous f
      | none => reg
    let displaced := reg.cell s
    let reg := reg.setCell s (some f)
    let reg := match displaced with
      | some g => if g == f then reg else reg.setHome g none
      | none => reg
    (reg.setHome f (some s), some s)

/-- Add a callable and register it in a package; its number. -/
def addIn (reg : Registry) (c : Callable) (key : String) : Registry × Nat :=
  let (reg, f) := reg.add c
  ((reg.register f key).1, f)

/-- The text before and after the first colon, if there is one. -/
def splitAtColon (s : String) : Option (String × String) :=
  let cs := s.toList
  if cs.contains ':' then
    some (String.ofList (cs.takeWhile (· != ':')), String.ofList ((cs.dropWhile (· != ':')).drop 1))
  else none

/-- The function bound to `NAME` in the default package, or to `PACKAGE:NAME`. -/
def findFunction (reg : Registry) (name : String) : Option Nat :=
  let upper := Text.upper name
  match splitAtColon upper with
  | some (pkg, sym) => (reg.package? pkg).bind fun p => (p.find? sym).bind (·.function)
  | none => (reg.package? reg.defaultPackage).bind fun p => (p.find? upper).bind (·.function)

/-- The qualified name and count of every callable bound to a symbol, sorted by name, then
count. -/
def callCounts (reg : Registry) : List (String × Nat) :=
  let entries := reg.packages.flatMap fun p =>
    p.symbols.filterMap fun s =>
      s.function.bind fun f => (reg.callable? f).map fun c => ((p.qualify s.name).qualified, c.count)
  entries.mergeSort fun a b => decide (a.1 < b.1) || (a.1 == b.1 && decide (a.2 ≤ b.2))

/-- Set the count of every callable bound to a symbol to zero. -/
def clearCounts (reg : Registry) : Registry :=
  let bound := reg.packages.flatMap fun p => p.symbols.filterMap (·.function)
  bound.foldl (fun r f => r.updateCallable f fun c => { c with count := 0 }) reg

end Registry

end HostInterop.Registry

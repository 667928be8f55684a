import HostInterop.Registry.Callable

/-!
# Packages and symbols

A package has an upper-cased name, symbols by name and a set of exported names. A symbol is a
name with a function cell: the number of the callable bound to it, if any. Symbol names are kept
as given, so they are case-sensitive. Interning a name gives the package's symbol of that name,
made empty on first use; finding a symbol never makes one. Only an interned name can be
exported. Symbols are listed sorted by name.
-/

namespace HostInterop.Registry

/-- A symbol of a package: its name and its function cell. -/
structure Symbol where
  /-- The name, as interned. -/
  name : String
  /-- The number of the callable bound to the symbol. -/
  function : Option Nat := none

/-- A named collection of symbols. -/
structure Package where
  /-- The upper-cased name. -/
  name : String
  /-- The symbols, in the order they were first interned, one per name. -/
  symbols : List Symbol
  /-- The exported names. -/
  exports : List String

namespace Package

/-- An empty package; its name is upper-cased. -/
def new (name : String) : Package := ⟨Text.upper name, [], []⟩

/-- The symbol of a name, without interning it. -/
def find? (p : Package) (name : String) : Option Symbol := p.symbols.find? (·.name == name)

/-- The package with a symbol of this name, made empty if it was not there. -/
def intern (p : Package) (name : String) : Package :=
  if p.symbols.any (·.name == name) then p else { p with symbols := p.symbols ++ [{ name }] }

/-- The package with the function cell of symbol `name` set to `f`. -/
def setCell (p : Package) (name : String) (f : Option Nat) : Package :=
  { p with symbols := p.symbols.map fun s => if s.name == name then { s with function := f } else s }

/-- Export an interned name; false, and no change, when the name is not interned. -/
def exportName (p : Package) (name : String) : Package × Bool :=
  if p.symbols.any (·.name == name) then
    ({ p with exports := if p.exports.contains name then p.exports else p.exports ++ [name] }, true)
  else (p, false)

/-- Whether a name is exported. -/
def isExported (p : Package) (name : String) : Bool := p.exports.contains name

/-- The symbols, sorted by name. -/
def sortedSymbols (p : Package) : List Symbol :=
  p.symbols.mergeSort fun a b => decide (a.name ≤ b.name)

/-- The qualified name of one of the package's symbols. -/
def qualify (p : Package) (name : String) : SymbolRef := ⟨p.name, name⟩

end Package

end HostInterop.Registry

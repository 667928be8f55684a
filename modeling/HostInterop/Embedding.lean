import HostInterop.Session

/-!
# Embedding a session

What a program that embeds the interpreter does with a session besides calling: define
callables, register them in packages, install dispatch tables, bind callables to table slots,
intern and export symbols, and read or reset call counts.

A named or declared callable is registered in its package (the default package when none is
named) as soon as it is made; an anonymous one is never registered. Registering follows
`Registry.register`: the last registration of a name wins, and a callable leaves the symbol it
was registered under before.
-/

namespace HostInterop

open Registry

namespace Session

/-- Change the registry. -/
def withRegistry (s : Session) (f : Registry.Registry → Registry.Registry) : Session :=
  { s with registry := f s.registry }

/-- The upper-cased name of a package, made if missing; the default package when none is named. -/
def packageKey (s : Session) (package : Option String) : String × Session :=
  let (reg, key) := s.registry.ensurePackage (package.getD s.registry.defaultPackage)
  (key, { s with registry := reg })

/-- Add a callable and, when it has a name, register it in a package; its number. -/
def define (s : Session) (c : Callable) (package : Option String) : Session × Nat :=
  match c.name with
  | none =>
    let (reg, f) := s.registry.add c
    ({ s with registry := reg }, f)
  | some _ =>
    let (key, s) := s.packageKey package
    let (reg, f) := s.registry.addIn c key
    ({ s with registry := reg }, f)

/-- A named callable with a body, registered in a package. -/
def defineNamed (s : Session) (name : String) (arity : Arity)
    (body : List Value → Except RuntimeError Value) (package : Option String) : Session × Nat :=
  s.define (.make (some name) arity (.native body)) package

/-- An anonymous callable with a body, never registered. -/
def defineAnonymous (s : Session) (arity : Arity) (body : List Value → Except RuntimeError Value) :
    Session × Nat :=
  s.define (.make none arity (.native body)) none

/-- A named callable without a body, registered in a package; calling it is an undefined
function. -/
def declare (s : Session) (name : String) (arity : Arity) (package : Option String) : Session × Nat :=
  s.define (.make (some name) arity .unbound) package

/-- A named callable forwarding to slot `index` of a table, registered in a package. -/
def bindSlot (s : Session) (t : Table) (name : String) (index : Nat) (arity : Arity)
    (package : Option String) : Session × Nat :=
  s.define (.make (some name) arity (.table t index)) package

/-- Register callable `f` in the package of a name, made if missing; the symbol, or none for an
anonymous callable. -/
def registerIn (s : Session) (f : Nat) (package : String) : Session × Option SymbolRef :=
  let (key, s) := s.packageKey (some package)
  let (reg, sym) := s.registry.register f key
  ({ s with registry := reg }, sym)

/-- Install one callable per slot of a table in the package of a name, made if missing; the
callables' numbers. -/
def installTable (s : Session) (t : Table) (package : String) : Session × List Nat :=
  let (key, s) := s.packageKey (some package)
  let (reg, fs) := s.registry.installTable t key
  ({ s with registry := reg }, fs)

/-- The foreign operations over a fresh host on the standard classes, as a table of their own. -/
def foreignTable (s : Session) : Table × Session :=
  let (host, s) := s.freshHost Host.ClassPath.standard
  (.foreign host, s)

/-- Intern a name, case kept, in the package of a name, made if missing. -/
def intern (s : Session) (package name : String) : Session × SymbolRef :=
  let (key, s) := s.packageKey (some package)
  (s.withRegistry (·.intern key name), ⟨key, name⟩)

/-- A name's symbol as a value: interned, case kept, in the default package. -/
def symbolValue (s : Session) (name : String) : Session × Value :=
  let (s, sym) := s.intern s.registry.defaultPackage name
  (s, .symbol sym)

/-- The symbol of a name in an existing package, without interning it. -/
def findSymbol? (s : Session) (package name : String) : Option SymbolRef :=
  (s.registry.package? package).bind fun p => (p.find? name).map fun _ => p.qualify name

/-- Export a name of an existing package: whether it is interned there; none without the
package. -/
def exportSymbol (s : Session) (package name : String) : Session × Option Bool :=
  match s.registry.package? package with
  | none => (s, none)
  | some p =>
    let (p', ok) := p.exportName name
    (s.withRegistry (·.updatePackage p.name fun _ => p'), some ok)

/-- The callable bound to a symbol. -/
def symbolFunction? (s : Session) (sym : SymbolRef) : Option Nat := s.registry.cell sym

/-- The call count of callable `f`. -/
def countOf (s : Session) (f : Nat) : Nat := ((s.registry.callable? f).map (·.count)).getD 0

/-- Set the call count of callable `f` to zero. -/
def clearCount (s : Session) (f : Nat) : Session :=
  s.withRegistry (·.updateCallable f fun c => { c with count := 0 })

/-- Count one more call of callable `f`, without calling it. -/
def incrementCount (s : Session) (f : Nat) : Session :=
  s.withRegistry (·.updateCallable f fun c => { c with count := c.count + 1 })

/-- Set the call count of every registered callable to zero. -/
def clearCounts (s : Session) : Session := s.withRegistry (·.clearCounts)

end Session

end HostInterop

import HostInterop.Registry.Basic
import HostInterop.Host.Standard
import HostInterop.Config

/-!
# Sessions

A session is a registry with the foreign operations installed over one host, under a
configuration. It also holds the counter that new objects and new hosts draw their identities
from.

Looking a function up by a name without a colon searches the configured foreign package first
and the default package after it; a name with a colon is looked up as `PACKAGE:NAME`. A call
looks the function up, passes its gate (which counts it), and runs its target.
-/

namespace HostInterop

open Host Registry

namespace Registry.Registry

/-- Install callables for the six foreign operations over `host` in the package of a name, each
exported right after it is made when `exportNames` holds; the callables' numbers. -/
def installForeign (reg : Registry) (host : Host) (package : String) (exportNames : Bool) :
    Registry × List Nat :=
  let (reg, key) := reg.ensurePackage package
  let step := fun (acc : Registry × List Nat) (entry : Foreign.Operation × Nat) =>
    let (op, i) := entry
    let (r, f) := acc.1.addIn (.make (some op.name) op.arity (.table (.foreign host) i)) key
    let r := if exportNames then r.updatePackage key (fun p => (p.exportName op.name).1) else r
    (r, acc.2 ++ [f])
  (Foreign.Operation.all.zip (List.range 6)).foldl step (reg, [])

/-- Install one callable per slot of a table in the package of upper-cased name `key`, each
forwarding to its slot with the slot's name and arity; the callables' numbers. -/
def installTable (reg : Registry) (t : Table) (key : String) : Registry × List Nat :=
  let step := fun (acc : Registry × List Nat) (entry : Slot × Nat) =>
    let (r, f) := acc.1.addIn (.make (some entry.1.name) entry.1.arity (.table t entry.2)) key
    (r, acc.2 ++ [f])
  (t.entries.zip (List.range t.entries.length)).foldl step (reg, [])

end Registry.Registry

/-- A registry with the foreign operations installed, over one host. -/
structure Session where
  /-- The configuration the session was made with. -/
  config : Config
  /-- The packages and callables. -/
  registry : Registry.Registry
  /-- The host the foreign operations run on. -/
  host : Host
  /-- The next identity for a new object or host. -/
  supply : Nat

namespace Session

/-- A session over a class path: the registry with its default package, and the foreign
operations installed in the configured package. -/
def new (classes : ClassPath) (config : Config) : Session :=
  let host : Host := ⟨0, classes⟩
  let reg := Registry.Registry.new config.defaultPackage
  let (reg, _) := reg.installForeign host config.foreignPackage config.exportForeign
  ⟨config, reg, host, 1⟩

/-- A session over the standard classes. -/
def standard (config : Config) : Session := new ClassPath.standard config

/-- A host over a class path with an identity of its own. -/
def freshHost (s : Session) (classes : ClassPath) : Host × Session :=
  (⟨s.supply, classes⟩, { s with supply := s.supply + 1 })

/-- The function of a name: `PACKAGE:NAME` as given, otherwise the foreign package first, then
the default package. -/
def function? (s : Session) (name : String) : Except RuntimeError Nat :=
  let found :=
    if name.toList.contains ':' then s.registry.findFunction name
    else
      match (s.registry.package? s.config.foreignPackage).bind
          (fun p => (p.find? (Text.upper name)).bind (·.function)) with
      | some f => some f
      | none => s.registry.findFunction name
  match found with
  | some f => .ok f
  | none => .error (.undefinedFunction (Text.upper name))

/-- The callable of a number as a value. -/
def functionRef (s : Session) (f : Nat) : FunctionRef :=
  ⟨f, (s.registry.callable? f).bind (·.name)⟩

/-- Call callable `f` through an entry point: the gate, then the target. -/
def enter (s : Session) (f : Nat) (entry : Entry) (args : List Value) :
    Except RuntimeError Value × Session :=
  match s.registry.callable? f with
  | none => (.error (.undefinedFunction "(unknown)"), s)
  | some c =>
    match c.gate args.length with
    | .error e => (.error e, s)
    | .ok c' =>
      let s := { s with registry := s.registry.updateCallable f fun _ => c' }
      let (out, supply) := (c.runTarget entry args).run s.supply
      (out, { s with supply := supply })

/-- Call with the arguments routed by count to the entry points. -/
def apply (s : Session) (f : Nat) (args : List Value) : Except RuntimeError Value × Session :=
  s.enter f (Entry.route args) args

/-- Look a function up by name and apply it. -/
def call (s : Session) (name : String) (args : List Value) : Except RuntimeError Value × Session :=
  match s.function? name with
  | .error e => (.error e, s)
  | .ok f => s.apply f args

end Session

end HostInterop

import HostInterop.Host.ClassPath
import HostInterop.Error

/-!
# Resolution

Finding classes, constructors and methods by name on a host.

Names arrive as interpreter values and must be texts. A parameter type name is a primitive name
or the name of a class of the host. A constructor is the first, in declaration order, whose
parameter types are exactly those asked for. A method asked for without parameter types is the
first public method of that name; with types, the first public method of that name and exactly
those types. A method for a static call is the first public static method of that name, unless
a method reference is given, which is used as it is.
-/

namespace HostInterop.Foreign

open Host

/-- The first element satisfying `p`, with its place in the list. -/
def findIndexed {α : Type} (p : α → Bool) : List α → Option (Nat × α)
  | [] => none
  | a :: as => if p a then some (0, a) else (findIndexed p as).map fun r => (r.1 + 1, r.2)

/-- A name operand: a text, or the wrong kind of operand. -/
def nameOperand (v : Value) : Except RuntimeError String :=
  match v with
  | .str s => .ok s
  | v => .error (.wrongReferenceKind "string" v.describe)

/-- The class of a name. -/
def resolveClass (host : Host) (name : String) : Except RuntimeError ClassDef :=
  match host.classes.find? name with
  | some c => .ok c
  | none => .error (.classNotFound name)

/-- The parameter type of a name: a primitive type, or a class that must exist. -/
def typeForName (host : Host) (name : String) : Except RuntimeError TypeToken :=
  match Primitive.ofName? name with
  | some p => .ok (.primitive p)
  | none => (fun c => TypeToken.cls c.name) <$> resolveClass host name

/-- The constructor of a class with exactly these parameter types. -/
def resolveConstructor (host : Host) (className : String) (typeNames : List String) :
    Except RuntimeError HostRef := do
  let c ← resolveClass host className
  let params ← typeNames.mapM (typeForName host)
  match findIndexed (fun k => k.params == params) c.constructors with
  | some (i, k) => pure (.ctor host.id i k)
  | none => throw (.noSuchConstructor className)

/-- A public method of a class by name, and by exact parameter types when some are given. -/
def resolveMethod (host : Host) (className methodName : String) (typeNames : List String) :
    Except RuntimeError HostRef := do
  let c ← resolveClass host className
  let found ← if typeNames.isEmpty then
      pure (findIndexed (fun m => m.isPublic && m.name == methodName) c.methods)
    else do
      let params ← typeNames.mapM (typeForName host)
      pure (findIndexed (fun m => m.isPublic && m.name == methodName && m.params == params) c.methods)
  match found with
  | some (i, m) => pure (.method host.id i m)
  | none => throw (.noSuchMethod className methodName)

/-- A class operand: a class reference, or a class name resolved now. -/
def classOperand (host : Host) (v : Value) : Except RuntimeError ClassDef :=
  match v with
  | .native (.ref (.cls _ c)) => .ok c
  | .str name => resolveClass host name
  | v => .error (.wrongReferenceKind "class reference" v.describe)

/-- The method of a static call: a method reference as given, or the first public static method
of that name in the class operand. -/
def resolveStatic (host : Host) (method cls : Value) : Except RuntimeError MethodDef :=
  match method with
  | .native (.ref (.method _ _ m)) => .ok m
  | .native (.ref r) => .error (.wrongReferenceKind "method reference" r.kindName)
  | _ => do
    let name ← nameOperand method
    let c ← classOperand host cls
    match c.publicMethods.find? (fun m => m.isStatic && m.name == name) with
    | some m => pure m
    | none => throw (.noSuchMethod c.name name)

end HostInterop.Foreign

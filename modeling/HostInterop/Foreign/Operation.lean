import HostInterop.Foreign.Resolve
import HostInterop.Arity

/-!
# The foreign operations

Six operations reach the host from the interpreter, each at a fixed slot of one dispatch table
named `FOREIGN`: resolve a class, a constructor or a method by name, invoke a static method,
construct an instance, and invoke an instance method. Each has an arity, checked by the table
before the operation runs; a slot past the sixth is an undefined function `FOREIGN[i]`.

Arguments cross to the host as `Value.toHost` says and results come back as `HostValue.toValue`
says, except that a constructed instance always comes back wrapped. A host exception becomes an
invocation failure carrying its interpreted message.
-/

namespace HostInterop.Foreign

open Host

/-- The six foreign operations, in slot order. -/
inductive Operation where
  | resolveClass
  | resolveConstructor
  | resolveMethod
  | invokeStatic
  | construct
  | invokeInstance
  deriving DecidableEq

namespace Operation

/-- The operations in slot order. -/
def all : List Operation :=
  [resolveClass, resolveConstructor, resolveMethod, invokeStatic, construct, invokeInstance]

/-- The operation at a slot. -/
def atSlot? (index : Nat) : Option Operation := all[index]?

/-- The symbol name of the operation. -/
def name : Operation → String
  | resolveClass => "RESOLVE-CLASS"
  | resolveConstructor => "RESOLVE-CONSTRUCTOR"
  | resolveMethod => "RESOLVE-METHOD"
  | invokeStatic => "INVOKE-STATIC"
  | construct => "CONSTRUCT"
  | invokeInstance => "INVOKE-INSTANCE"

/-- The arity of the operation. -/
def arity : Operation → Arity
  | resolveClass => .exact 1
  | resolveConstructor => .atLeast 1
  | resolveMethod => .atLeast 2
  | invokeStatic => .atLeast 2
  | construct => .atLeast 1
  | invokeInstance => .atLeast 2

end Operation

/-- A host outcome as an interpreter outcome: exceptions become invocation failures. -/
def fromHost (out : Except HostException HostValue) (wrap : Bool) : Except RuntimeError Value :=
  match out with
  | .ok h => .ok (if wrap then .native h else h.toValue)
  | .error e => .error e.toRuntimeError

/-- A wrapped class reference for a class name. -/
def classValue (host : Host) (name : Value) : Except RuntimeError Value := do
  let n ← nameOperand name
  let c ← resolveClass host n
  pure (.native (.ref (.cls host.id c)))

/-- A new instance through a constructor reference; the instance always comes back wrapped. -/
def construct (ctor : Value) (args : List Value) : HostM (Except RuntimeError Value) :=
  match ctor with
  | .native (.ref (.ctor _ _ k)) => do
    let out ← newInstance k (args.map Value.toHost)
    pure (fromHost out true)
  | v => pure (.error (.wrongReferenceKind "constructor reference" v.describe))

/-- An instance method through a method reference, on a receiver. -/
def invokeInstance (method receiver : Value) (args : List Value) : HostM (Except RuntimeError Value) :=
  match method with
  | .native (.ref (.method _ _ m)) => do
    let out ← invoke m (some receiver.toHost) (args.map Value.toHost)
    pure (fromHost out false)
  | v => pure (.error (.wrongReferenceKind "method reference" v.describe))

/-- A static method, by reference or by name and class. -/
def invokeStatic (host : Host) (method cls : Value) (args : List Value) :
    HostM (Except RuntimeError Value) :=
  match resolveStatic host method cls with
  | .error e => pure (.error e)
  | .ok m => do
    let out ← invoke m none (args.map Value.toHost)
    pure (fromHost out false)

/-- Run an operation on arguments its arity admits. -/
def Operation.run (op : Operation) (host : Host) (args : List Value) : HostM (Except RuntimeError Value) :=
  match op, args with
  | .resolveClass, [a] => pure (classValue host a)
  | .resolveConstructor, a :: rest => pure do
    let cn ← nameOperand a
    let types ← rest.mapM nameOperand
    let r ← Foreign.resolveConstructor host cn types
    pure (.native (.ref r))
  | .resolveMethod, a :: b :: rest => pure do
    let cn ← nameOperand a
    let mn ← nameOperand b
    let types ← rest.mapM nameOperand
    let r ← Foreign.resolveMethod host cn mn types
    pure (.native (.ref r))
  | .invokeStatic, a :: b :: rest => Foreign.invokeStatic host a b rest
  | .construct, a :: rest => Foreign.construct a rest
  | .invokeInstance, a :: b :: rest => Foreign.invokeInstance a b rest
  | op, args => pure (.error (.wrongNumberOfArguments op.name args.length))

/-- The foreign table's dispatch: the operation at `index`, after its arity check. -/
def dispatch (host : Host) (args : List Value) (index : Nat) : HostM (Except RuntimeError Value) :=
  match Operation.atSlot? index with
  | none => pure (.error (.undefinedFunction ("FOREIGN[" ++ Nat.repr index ++ "]")))
  | some op =>
    if op.arity.accepts args.length then op.run host args
    else pure (.error (.wrongNumberOfArguments op.name args.length))

/-- The one-argument entry of the foreign table: resolving a class goes straight to the
resolution, every other slot through `dispatch`. -/
def dispatchOne (host : Host) (arg : Value) (index : Nat) : HostM (Except RuntimeError Value) :=
  if index == 0 then pure (classValue host arg) else dispatch host [arg] index

end HostInterop.Foreign

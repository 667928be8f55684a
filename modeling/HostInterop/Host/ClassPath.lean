import HostInterop.Host.Invocation

/-!
# Class paths

A class path holds host classes by name, at most one per name; defining a class of a name
already present replaces it. A `Host` is a class path with an identity of its own, so that two
class paths built alike still give references that differ.

Invoking a member checks before its body runs. An instance method needs a receiver that is not
null (else a null-pointer exception) and is an instance of the declaring class (else an argument
failure); then the arguments must match the parameters in number and each be accepted by its
parameter type. A body that raises has its exception wrapped in an invocation-target exception;
the checks' own exceptions are not wrapped.
-/

namespace HostInterop.Host

/-- Host classes by name, at most one per name. -/
structure ClassPath where
  /-- The classes, in the order they were first defined. -/
  classes : List ClassDef

namespace ClassPath

/-- The class path without classes. -/
def empty : ClassPath := ⟨[]⟩

/-- Add a class, replacing the class of the same name if there is one; the flag tells whether
one was replaced. -/
def define (cp : ClassPath) (c : ClassDef) : ClassPath × Bool :=
  if cp.classes.any (·.name == c.name) then
    (⟨cp.classes.map fun d => if d.name == c.name then c else d⟩, true)
  else (⟨cp.classes ++ [c]⟩, false)

/-- Add classes one after another. -/
def defineAll (cp : ClassPath) (cs : List ClassDef) : ClassPath :=
  cs.foldl (fun acc c => (acc.define c).1) cp

/-- The class of a name. -/
def find? (cp : ClassPath) (name : String) : Option ClassDef :=
  cp.classes.find? (·.name == name)

/-- The class names, sorted. -/
def names (cp : ClassPath) : List String :=
  (cp.classes.map (·.name)).mergeSort fun a b => decide (a ≤ b)

/-- How many classes the class path holds. -/
def size (cp : ClassPath) : Nat := cp.classes.length

end ClassPath

/-- A class path with an identity: references resolved on it carry the identity. -/
structure Host where
  /-- The identity. -/
  id : Nat
  /-- The classes. -/
  classes : ClassPath

/-- Whether an argument may be passed for a parameter of type `p`. A boolean takes a host
boolean, `T` or `NIL`; a char only a host character; an integer type any integer of any width
or an interpreter integer, unchecked for range; a float type also any float. A class takes null,
`NIL`, or a value of exactly that class; `lang.Object` takes anything. -/
def accepts (p : TypeToken) (v : HostValue) : Bool :=
  match p with
  | .primitive .boolean => v.asBool?.isSome
  | .primitive .char => match v with
    | .char _ => true
    | _ => false
  | .primitive q => if q.isIntegral then v.asInt?.isSome else v.asFloat?.isSome
  | .cls name => name == objectClass || v.isNull || v.className? == some name

/-- The argument check: as many arguments as parameters, each accepted. -/
def checkArguments (params : List TypeToken) (args : List HostValue) : Except HostException Unit :=
  if params.length != args.length then .error (.illegalArgument "wrong number of arguments")
  else if (params.zip args).all (fun pa => accepts pa.1 pa.2) then .ok ()
  else .error mismatch

/-- The receiver check of an instance method: not null, and an instance of the declaring class. -/
def checkReceiver (m : MethodDef) (receiver : Option HostValue) :
    Except HostException (Option HostValue) :=
  if m.isStatic then .ok none
  else
    match receiver with
    | none => .error .nullPointer
    | some r =>
      if r.isNull then .error .nullPointer
      else if m.owner == objectClass || r.className? == some m.owner ||
          (m.owner == stringClass && r.asStr?.isSome) then .ok (some r)
      else .error notAnInstance

/-- A new instance through a constructor. -/
def newInstance (k : ConstructorDef) (args : List HostValue) : HostM Outcome :=
  match checkArguments k.params args with
  | .error e => pure (.error e)
  | .ok () => do
    let out ← k.run args
    pure (out.mapError .invocationTarget)

/-- Invoke a method; the receiver is ignored for a static method. -/
def invoke (m : MethodDef) (receiver : Option HostValue) (args : List HostValue) : HostM Outcome :=
  match checkReceiver m receiver with
  | .error e => pure (.error e)
  | .ok r =>
    match checkArguments m.params args with
    | .error e => pure (.error e)
    | .ok () => do
      let out ← m.run r args
      pure (out.mapError .invocationTarget)

end HostInterop.Host

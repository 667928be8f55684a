import HostInterop.Host.Class

/-!
# Values

The values that cross between the interpreter and the host.

An interpreter `Value` is `T`, `NIL`, a 64-bit integer, a character, a text, a wrapped host
value, a callable, a symbol, or a 64-bit float. A `HostValue` is a host primitive (boolean, the
four integer widths, the two float widths, character), a host string, a reference to a resolved
class, constructor or method, an object, or an interpreter value handed over unchanged.

Identity is explicit. A callable is known by its number in the registry that made it, a symbol
by its package and name (interning gives one symbol per pair), an object by the number it was
given when it was made, and a resolved reference by the class path it came from (`host`), its
class and the member's place in it.
-/

namespace HostInterop

open Host

/-- A callable as a value: its number in the registry, and its upper-cased name if it has one. -/
structure FunctionRef where
  /-- The callable's number in its registry. -/
  id : Nat
  /-- The callable's name, for showing it. -/
  name : Option String
  deriving DecidableEq

/-- A symbol as a value: the package it is interned in, and its name. -/
structure SymbolRef where
  /-- The name of the package. -/
  package : String
  /-- The symbol's name. -/
  name : String
  deriving DecidableEq

/-- The qualified name `PACKAGE:NAME`. -/
def SymbolRef.qualified (s : SymbolRef) : String := s.package ++ ":" ++ s.name

/-- A resolved class, constructor or method, with the class path it was resolved on. -/
inductive HostRef where
  /-- A class. -/
  | cls (host : Nat) (c : ClassDef)
  /-- The constructor at place `slot` of its class. -/
  | ctor (host : Nat) (slot : Nat) (k : ConstructorDef)
  /-- The method at place `slot` of its class's declared methods. -/
  | method (host : Nat) (slot : Nat) (m : MethodDef)

/-- What the reference is a reference to, as error messages name it. -/
def HostRef.kindName : HostRef → String
  | .cls .. => "class reference"
  | .ctor .. => "constructor reference"
  | .method .. => "method reference"

/-- Two references are the same when they come from the same class path and name the same
member of the same class. -/
def HostRef.same : HostRef → HostRef → Bool
  | .cls h c, .cls h' c' => h == h' && c.name == c'.name
  | .ctor h i k, .ctor h' i' k' => h == h' && i == i' && k.owner == k'.owner
  | .method h i m, .method h' i' m' => h == h' && i == i' && m.owner == m'.owner
  | _, _ => false

/-- The state an object carries. -/
inductive ObjectState where
  /-- No state. -/
  | plain
  /-- A point with two coordinates. -/
  | point (x y : Int32)
  deriving DecidableEq

/-- Where an object's identity comes from. An object made while a body runs takes the next
number of the session's counter; an object constant written into a body is one object, known by
the mark it was given when the body was written, and every run of the body returns it. -/
inductive ObjectId where
  /-- Made at run time, with this number of the counter. -/
  | made (n : Nat)
  /-- Written into a body, with this mark. -/
  | written (mark : Nat)
  deriving DecidableEq

/-- An instance of a host class: its class name, its identity and its state. -/
structure HostObject where
  /-- The class name. -/
  cls : String
  /-- The identity the object was made with. -/
  id : ObjectId
  /-- The state. -/
  state : ObjectState

mutual

/-- An interpreter value. -/
inductive Value where
  /-- True. -/
  | t
  /-- Nil: false, empty, and the null result. -/
  | nil
  /-- A 64-bit integer. -/
  | int (n : Int64)
  /-- A character. -/
  | char (c : Char)
  /-- A text. -/
  | str (s : String)
  /-- A wrapped host value. -/
  | native (h : HostValue)
  /-- A callable. -/
  | function (f : FunctionRef)
  /-- A symbol. -/
  | symbol (s : SymbolRef)
  /-- A 64-bit float. -/
  | float (x : Float)

/-- A value on the host side. -/
inductive HostValue where
  /-- The null reference, also the result of a void call. -/
  | null
  /-- A boolean. -/
  | boolean (b : Bool)
  /-- An 8-bit integer. -/
  | byte (n : Int8)
  /-- A 16-bit integer. -/
  | short (n : Int16)
  /-- A 32-bit integer. -/
  | int (n : Int32)
  /-- A 64-bit integer. -/
  | long (n : Int64)
  /-- A 32-bit float. -/
  | float (x : Float32)
  /-- A 64-bit float. -/
  | double (x : Float)
  /-- A character. -/
  | char (c : Char)
  /-- A host string, of class `lang.String`. -/
  | str (s : String)
  /-- A resolved reference. -/
  | ref (r : HostRef)
  /-- An object. -/
  | object (o : HostObject)
  /-- An interpreter value handed over without coercion. -/
  | interp (v : Value)

end

namespace Value

/-- `T` for true, `NIL` for false. -/
def ofBool (b : Bool) : Value := if b then t else nil

/-- The name of the value's tag, as error messages and descriptions use it. -/
def typeName : Value → String
  | t => "boolean"
  | nil => "null"
  | int _ => "integer"
  | char _ => "character"
  | str _ => "string"
  | native _ => "native object"
  | function _ => "function"
  | symbol _ => "symbol"
  | float _ => "float"

/-- Whether the value is `NIL`. -/
def isNil : Value → Bool
  | nil => true
  | _ => false

/-- The integer, for an integer. -/
def asInt? : Value → Option Int64
  | int n => some n
  | _ => none

/-- The text, for a text. -/
def asStr? : Value → Option String
  | str s => some s
  | _ => none

/-- The wrapped host value, for a wrapper. -/
def asHost? : Value → Option HostValue
  | native h => some h
  | _ => none

end Value

namespace HostValue

/-- The variant's name. -/
def kind : HostValue → String
  | null => "null"
  | boolean _ => "boolean"
  | byte _ => "byte"
  | short _ => "short"
  | int _ => "int"
  | long _ => "long"
  | float _ => "float"
  | double _ => "double"
  | char _ => "char"
  | str _ => "string"
  | ref (.cls ..) => "class"
  | ref (.ctor ..) => "constructor"
  | ref (.method ..) => "method"
  | object _ => "object"
  | interp _ => "interp"

/-- The integer, for the four integer widths and an interpreter integer. -/
def asInt? : HostValue → Option Int64
  | byte n => some n.toInt64
  | short n => some n.toInt64
  | int n => some n.toInt64
  | long n => some n
  | interp (.int n) => some n
  | _ => none

/-- The 64-bit float, for both float widths and an interpreter float; an integer converts to
the nearest float. -/
def asFloat? : HostValue → Option Float
  | float x => some x.toFloat
  | double x => some x
  | interp (.float x) => some x
  | h => h.asInt?.map Int64.toFloat

/-- The text, for a host string. -/
def asStr? : HostValue → Option String
  | str s => some s
  | _ => none

/-- The boolean, for a host boolean, `T` and `NIL`. -/
def asBool? : HostValue → Option Bool
  | boolean b => some b
  | interp .t => some true
  | interp .nil => some false
  | _ => none

/-- The object, for an object. -/
def asObject? : HostValue → Option HostObject
  | object o => some o
  | _ => none

/-- The coordinates, for an object with point state. -/
def point? : HostValue → Option (Int32 × Int32)
  | object ⟨_, _, .point x y⟩ => some (x, y)
  | _ => none

/-- Whether the value is host null or `NIL`. -/
def isNull : HostValue → Bool
  | null => true
  | interp .nil => true
  | _ => false

/-- The host class of a reference value that has one: `lang.String` for a string, the object's
class for an object. -/
def className? : HostValue → Option String
  | str _ => some stringClass
  | object o => some o.cls
  | _ => none

/-- The reference, for a reference. -/
def asRef? : HostValue → Option HostRef
  | ref r => some r
  | _ => none

end HostValue

end HostInterop

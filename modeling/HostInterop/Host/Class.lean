import HostInterop.Host.Type
import HostInterop.Host.Exception

/-!
# Host classes

A host class is data: a name, constructors and methods in declaration order. Each member has
parameter types and a body. A body is one of the built-in operations of the standard classes
(`Builtin`, given meaning in `HostInterop.Host.Demo`), or a scripted one: give back the first
argument, give back the receiver, return a constant, or raise an exception.

Members are written as a reader sees them: a constructor as `CLASS(p1,p2)`, a method as
`[static ]CLASS.NAME(p1,p2)`, a class as `class NAME`.
-/

namespace HostInterop.Host

/-- The operations behind the members of the standard classes. -/
inductive Builtin where
  /-- A new plain `lang.Object`. -/
  | objectNew
  /-- A copy of the string argument. -/
  | stringNew
  /-- The receiver's length in characters. -/
  | stringLength
  /-- Whether the receiver is empty. -/
  | stringIsEmpty
  /-- The receiver upper-cased. -/
  | stringToUpperCase
  /-- The receiver followed by the argument. -/
  | stringConcat
  /-- The receiver's character at an index. -/
  | stringCharAt
  /-- The decimal text of a long. -/
  | stringValueOf
  /-- An int read from a trimmed text. -/
  | parseNumber
  /-- An int read from a trimmed text in a radix. -/
  | parseNumberRadix
  /-- The larger of two longs. -/
  | max
  /-- Whether a long is positive. -/
  | isPositive
  /-- The text `hello`. -/
  | greeting
  /-- Null. -/
  | nothing
  /-- The square of a double. -/
  | square
  /-- The first character of a text. -/
  | initial
  /-- A description of any value. -/
  | describe
  /-- Raise a general failure with the given message. -/
  | fail
  /-- Raise a general failure without a message. -/
  | silent
  /-- The text `hidden`. -/
  | secret
  /-- A point from two ints. -/
  | pointNew
  /-- The point at the origin. -/
  | pointOrigin
  /-- The receiver's first coordinate. -/
  | pointGetX
  /-- The receiver's second coordinate. -/
  | pointGetY
  /-- The receiver moved by two ints. -/
  | pointTranslate
  /-- The squared distance from the receiver to another point. -/
  | pointDistanceSquared
  /-- Whether the argument is a point at the receiver's place. -/
  | pointEquals
  /-- The receiver as `Point(x, y)`. -/
  | pointToString
  deriving DecidableEq

/-- A constant host value that a scripted body returns. An object constant is one instance of the
named class, with no state, known by its mark: every return of it gives the same object. -/
inductive HostConstant where
  | null
  | boolean (b : Bool)
  | byte (n : Int8)
  | short (n : Int16)
  | int (n : Int32)
  | long (n : Int64)
  | float (x : Float32)
  | double (x : Float)
  | char (c : Char)
  | str (s : String)
  | object (cls : String) (mark : Nat)

/-- What a member does when it runs. -/
inductive Body where
  /-- A built-in operation. -/
  | builtin (op : Builtin)
  /-- Give back the first argument as received, or null when there is none. -/
  | echo
  /-- Give back the receiver, or null when the member has none. -/
  | receiver
  /-- Return a constant. -/
  | returns (v : HostConstant)
  /-- Raise an exception. -/
  | raises (e : HostException)

/-- A constructor: its class, parameter types and body. -/
structure ConstructorDef where
  /-- The declaring class. -/
  owner : String
  /-- The parameter types. -/
  params : List TypeToken
  /-- What the constructor does. -/
  body : Body

/-- A method: its class, name, parameter types, modifiers and body. -/
structure MethodDef where
  /-- The declaring class. -/
  owner : String
  /-- The method's name. -/
  name : String
  /-- The parameter types. -/
  params : List TypeToken
  /-- Whether resolution may find the method. -/
  isPublic : Bool
  /-- Whether the method takes no receiver. -/
  isStatic : Bool
  /-- What the method does. -/
  body : Body

/-- A host class with its members in declaration order. -/
structure ClassDef where
  /-- The full class name. -/
  name : String
  /-- The constructors, in declaration order. -/
  constructors : List ConstructorDef
  /-- Every declared method, public or not, in declaration order. -/
  methods : List MethodDef

/-- The constructor as written: `CLASS(p1,p2)`. -/
def ConstructorDef.text (k : ConstructorDef) : String :=
  k.owner ++ "(" ++ paramsText k.params ++ ")"

/-- The method as written: `[static ]CLASS.NAME(p1,p2)`. -/
def MethodDef.text (m : MethodDef) : String :=
  (if m.isStatic then "static " else "") ++ m.owner ++ "." ++ m.name ++ "(" ++ paramsText m.params ++ ")"

/-- The class as written: `class NAME`. -/
def ClassDef.text (c : ClassDef) : String := "class " ++ c.name

/-- The public methods, in declaration order. -/
def ClassDef.publicMethods (c : ClassDef) : List MethodDef := c.methods.filter (·.isPublic)

/-- A class under construction: members are added in order, as the builder functions below
say, and keep that order. -/
def ClassDef.empty (name : String) : ClassDef := ⟨name, [], []⟩

/-- Add a constructor with these parameter names. -/
def ClassDef.withConstructor (c : ClassDef) (params : List String) (body : Body) : ClassDef :=
  { c with constructors := c.constructors ++ [⟨c.name, params.map TypeToken.ofName, body⟩] }

/-- Add a method with these parameter names and modifiers. -/
def ClassDef.withMethod (c : ClassDef) (name : String) (params : List String) (isPublic isStatic : Bool)
    (body : Body) : ClassDef :=
  { c with methods := c.methods ++ [⟨c.name, name, params.map TypeToken.ofName, isPublic, isStatic, body⟩] }

/-- Add a public static method. -/
def ClassDef.withStatic (c : ClassDef) (name : String) (params : List String) (body : Body) : ClassDef :=
  c.withMethod name params true true body

/-- Add a public instance method. -/
def ClassDef.withInstance (c : ClassDef) (name : String) (params : List String) (body : Body) : ClassDef :=
  c.withMethod name params true false body

/-- Add an instance method that resolution never finds. -/
def ClassDef.withPrivate (c : ClassDef) (name : String) (params : List String) (body : Body) : ClassDef :=
  c.withMethod name params false false body

end HostInterop.Host

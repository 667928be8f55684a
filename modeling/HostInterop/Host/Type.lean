/-!
# Host types

A parameter of a host constructor or method has a type: one of eight primitive types, or a class
named by its full name. Class names are not looked up when a class is defined; a primitive name
always means the primitive type.
-/

namespace HostInterop.Host

/-- The root class: every reference value is an instance of it. -/
def objectClass : String := "lang.Object"

/-- The class of host strings. -/
def stringClass : String := "lang.String"

/-- The primitive parameter types. -/
inductive Primitive where
  | boolean | byte | char | short | int | long | float | double
  deriving DecidableEq

namespace Primitive

/-- The primitive type of a name, if the name is one. -/
def ofName? : String → Option Primitive
  | "boolean" => some boolean
  | "byte" => some byte
  | "char" => some char
  | "short" => some short
  | "int" => some int
  | "long" => some long
  | "float" => some float
  | "double" => some double
  | _ => none

/-- The name of the primitive type. -/
def name : Primitive → String
  | boolean => "boolean"
  | byte => "byte"
  | char => "char"
  | short => "short"
  | int => "int"
  | long => "long"
  | float => "float"
  | double => "double"

/-- Whether the type holds integers. -/
def isIntegral : Primitive → Bool
  | byte | short | int | long => true
  | _ => false

theorem ofName_name (p : Primitive) : ofName? p.name = some p := by
  cases p <;> rfl

/-- A name read as a primitive type is that type's name. -/
theorem name_of_ofName {s : String} {p : Primitive} (h : ofName? s = some p) : p.name = s := by
  unfold ofName? at h
  split at h <;> (try cases h) <;> rfl

end Primitive

/-- The type of a parameter: a primitive type or a class by name. -/
inductive TypeToken where
  | primitive (p : Primitive)
  | cls (name : String)
  deriving DecidableEq

namespace TypeToken

/-- The type a name stands for, without looking the class up. -/
def ofName (name : String) : TypeToken :=
  match Primitive.ofName? name with
  | some p => primitive p
  | none => cls name

/-- The name of the type. -/
def name : TypeToken → String
  | primitive p => p.name
  | cls n => n

/-- Reading a name as a type and writing the type gives the name back. -/
theorem name_ofName (s : String) : (ofName s).name = s := by
  unfold ofName
  split
  · next p h => exact Primitive.name_of_ofName h
  · rfl

end TypeToken

/-- Parameter types as written in a member's text: names joined by commas, no spaces. -/
def paramsText (params : List TypeToken) : String :=
  ",".intercalate (params.map TypeToken.name)

end HostInterop.Host

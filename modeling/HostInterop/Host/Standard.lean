import HostInterop.Host.ClassPath

/-!
# The standard classes

The class path every session starts from: `lang.Object` and `lang.String`, which stand for the
host's core library, and two example classes, `example.Util` with static helpers and overloads,
and `example.Point` with constructors, state, instance methods and exceptions. Members are
listed in declaration order; `example.Util.secret` is the one member that is not public.
-/

namespace HostInterop.Host

/-- `lang.Object`: one constructor without parameters. -/
def objectClassDef : ClassDef :=
  (ClassDef.empty objectClass).withConstructor [] (.builtin .objectNew)

/-- `lang.String`: a copying constructor and the text operations. -/
def stringClassDef : ClassDef :=
  (ClassDef.empty stringClass)
    |>.withConstructor [stringClass] (.builtin .stringNew)
    |>.withInstance "length" [] (.builtin .stringLength)
    |>.withInstance "isEmpty" [] (.builtin .stringIsEmpty)
    |>.withInstance "toUpperCase" [] (.builtin .stringToUpperCase)
    |>.withInstance "concat" [stringClass] (.builtin .stringConcat)
    |>.withInstance "charAt" ["int"] (.builtin .stringCharAt)
    |>.withStatic "valueOf" ["long"] (.builtin .stringValueOf)

/-- `example.Util`: static helpers, two overloads of `parseNumber`, and a private member. -/
def utilClassDef : ClassDef :=
  (ClassDef.empty utilClass)
    |>.withStatic "parseNumber" [stringClass] (.builtin .parseNumber)
    |>.withStatic "parseNumber" [stringClass, "int"] (.builtin .parseNumberRadix)
    |>.withStatic "max" ["long", "long"] (.builtin .max)
    |>.withStatic "isPositive" ["long"] (.builtin .isPositive)
    |>.withStatic "greeting" [] (.builtin .greeting)
    |>.withStatic "nothing" [] (.builtin .nothing)
    |>.withStatic "square" ["double"] (.builtin .square)
    |>.withStatic "initial" [stringClass] (.builtin .initial)
    |>.withStatic "describe" [objectClass] (.builtin .describe)
    |>.withStatic "fail" [stringClass] (.builtin .fail)
    |>.withStatic "silent" [] (.builtin .silent)
    |>.withPrivate "secret" [] (.builtin .secret)

/-- `example.Point`: two constructors, accessors, arithmetic and a static origin. -/
def pointClassDef : ClassDef :=
  (ClassDef.empty pointClass)
    |>.withConstructor ["int", "int"] (.builtin .pointNew)
    |>.withConstructor [] (.builtin .pointOrigin)
    |>.withInstance "getX" [] (.builtin .pointGetX)
    |>.withInstance "getY" [] (.builtin .pointGetY)
    |>.withInstance "translate" ["int", "int"] (.builtin .pointTranslate)
    |>.withInstance "distanceSquared" [pointClass] (.builtin .pointDistanceSquared)
    |>.withInstance "equals" [objectClass] (.builtin .pointEquals)
    |>.withInstance "toString" [] (.builtin .pointToString)
    |>.withStatic "origin" [] (.builtin .pointOrigin)

/-- The class path with the core and example classes. -/
def ClassPath.standard : ClassPath :=
  ClassPath.empty.defineAll [objectClassDef, stringClassDef, utilClassDef, pointClassDef]

end HostInterop.Host

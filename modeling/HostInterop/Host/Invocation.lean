import HostInterop.Value.Text
import HostInterop.Value.Coerce
import HostInterop.Text.Upper
import HostInterop.Text.Blank

/-!
# Running member bodies

What a constructor or method does once its arguments have been checked. Bodies may make new
objects, and each new object needs an identity of its own: `HostM` is a computation that draws
identities from a counter.

The built-in operations read their arguments with the helpers below. An int parameter takes an
integer in the 32-bit range; a long any 64-bit integer; a string parameter a host string, with
null raising a null-pointer exception; anything else is an argument type mismatch. A method run
on a receiver of the wrong shape reports that the object is not an instance of the declaring
class.
-/

namespace HostInterop.Host

/-- A host computation: it draws fresh object identities from a counter. -/
abbrev HostM := StateM Nat

/-- A new object of class `cls` with state `state`, with an identity not used before. -/
def newObject (cls : String) (state : ObjectState) : HostM HostValue :=
  fun next => (.object ⟨cls, .made next, state⟩, next + 1)

/-- The class of points. -/
def pointClass : String := "example.Point"

/-- The class of utility functions. -/
def utilClass : String := "example.Util"

/-- The outcome of a body: a host value or a host exception. -/
abbrev Outcome := Except HostException HostValue

/-- An argument type mismatch. -/
def mismatch : HostException := .illegalArgument "argument type mismatch"

/-- A receiver of the wrong shape. -/
def notAnInstance : HostException := .illegalArgument "object is not an instance of declaring class"

/-- An unreadable number, quoting the text as it was given. -/
def numberFormat (input : String) : HostException :=
  .new numberFormatType ("For input string: \"" ++ input ++ "\"")

/-- The argument at `i` as an int: an integer in the 32-bit range. -/
def intArg (args : List HostValue) (i : Nat) : Except HostException Int32 :=
  match (args[i]?).bind HostValue.asInt? with
  | some n => if -2147483648 ≤ n.toInt ∧ n.toInt ≤ 2147483647 then .ok (Int32.ofInt n.toInt) else .error mismatch
  | none => .error mismatch

/-- The argument at `i` as a long. -/
def longArg (args : List HostValue) (i : Nat) : Except HostException Int64 :=
  match (args[i]?).bind HostValue.asInt? with
  | some n => .ok n
  | none => .error mismatch

/-- The argument at `i` as a string; null raises a null-pointer exception. -/
def strArg (args : List HostValue) (i : Nat) : Except HostException String :=
  match args[i]? with
  | some (.str s) => .ok s
  | some h => if h.isNull then .error .nullPointer else .error mismatch
  | none => .error mismatch

/-- The receiver as a string. -/
def thisStr (this : HostValue) : Except HostException String :=
  match this.asStr? with
  | some s => .ok s
  | none => .error notAnInstance

/-- The receiver as a point. -/
def thisPoint (this : HostValue) : Except HostException (Int32 × Int32) :=
  match this.point? with
  | some p => .ok p
  | none => .error notAnInstance

/-- The value of a digit in a radix of up to 36: `0`–`9`, then letters of either case. -/
def digitValue (c : Char) : Option Nat :=
  if '0' ≤ c ∧ c ≤ '9' then some (c.toNat - '0'.toNat)
  else if 'a' ≤ c ∧ c ≤ 'z' then some (c.toNat - 'a'.toNat + 10)
  else if 'A' ≤ c ∧ c ≤ 'Z' then some (c.toNat - 'A'.toNat + 10)
  else none

/-- The natural number written by digits of a radix, if every character is such a digit. -/
def digitsValue (radix : Nat) : List Char → Nat → Option Nat
  | [], acc => some acc
  | c :: cs, acc =>
    match digitValue c with
    | some d => if d < radix then digitsValue radix cs (acc * radix + d) else none
    | none => none

/-- A 32-bit integer written in `radix`: an optional sign, then at least one digit. -/
def readInt32? (radix : Nat) (s : String) : Option Int32 :=
  let (negative, digits) := match s.toList with
    | '+' :: r => (false, r)
    | '-' :: r => (true, r)
    | r => (false, r)
  if digits.isEmpty then none
  else
    match digitsValue radix digits 0 with
    | some n =>
      let v : Int := if negative then -(n : Int) else n
      if -2147483648 ≤ v ∧ v ≤ 2147483647 then some (Int32.ofInt v) else none
    | none => none

/-- The description `describe` gives of a value. -/
def describeHost : Option HostValue → String
  | some (.str s) => "string " ++ s
  | some (.char c) => "char " ++ String.singleton c
  | some (.object o) => "object " ++ o.cls
  | some (.ref r) => "reference " ++ r.kindName
  | some (.interp .nil) => "null"
  | some .null => "null"
  | none => "null"
  | some (.interp v) => "interpreter " ++ v.typeName
  | some h => "value " ++ h.text

/-- An index outside a text. -/
def indexOutOfBounds (index : Int) (length : Nat) : HostException :=
  .new indexOutOfBoundsType ("index " ++ Decimal.intText index ++ " out of bounds for length " ++ Decimal.natText length)

/-- A new point object. -/
def newPoint (x y : Int32) : HostM HostValue := newObject pointClass (.point x y)

/-- Run a computation that cannot fail to make objects, and lift its outcome. -/
def finish (r : Except HostException HostValue) : HostM Outcome := pure r

/-- What a built-in operation does, given the receiver (for instance members) and the
arguments. -/
def Builtin.run (op : Builtin) (receiver : Option HostValue) (args : List HostValue) :
    HostM Outcome :=
  let this := receiver.getD .null
  match op with
  | .objectNew => .ok <$> newObject objectClass .plain
  | .stringNew => finish (.str <$> strArg args 0)
  | .stringLength => finish do
      let s ← thisStr this
      pure (.int (Int32.ofInt s.length))
  | .stringIsEmpty => finish do
      let s ← thisStr this
      pure (.boolean s.isEmpty)
  | .stringToUpperCase => finish do
      let s ← thisStr this
      pure (.str (Text.upper s))
  | .stringConcat => finish do
      let s ← thisStr this
      let a ← strArg args 0
      pure (.str (s ++ a))
  | .stringCharAt => finish do
      let s ← thisStr this
      let i ← intArg args 0
      match s.toList[i.toInt.toNat]? with
      | some c => if 0 ≤ i.toInt then pure (.char c) else throw (indexOutOfBounds i.toInt s.length)
      | none => throw (indexOutOfBounds i.toInt s.length)
  | .stringValueOf => finish do
      let n ← longArg args 0
      pure (.str (Decimal.intText n.toInt))
  | .parseNumber => finish do
      let input ← strArg args 0
      match readInt32? 10 (Text.trimBlank input) with
      | some n => pure (.int n)
      | none => throw (numberFormat input)
  | .parseNumberRadix => finish do
      let input ← strArg args 0
      let radix ← intArg args 1
      if 2 ≤ radix.toInt ∧ radix.toInt ≤ 36 then
        match readInt32? radix.toInt.toNat (Text.trimBlank input) with
        | some n => pure (.int n)
        | none => throw (numberFormat input)
      else throw (numberFormat input)
  | .max => finish do
      let a ← longArg args 0
      let b ← longArg args 1
      pure (.long (if a.toInt ≤ b.toInt then b else a))
  | .isPositive => finish do
      let a ← longArg args 0
      pure (.boolean (0 < a.toInt))
  | .greeting => finish (.ok (.str "hello"))
  | .nothing => finish (.ok .null)
  | .square =>
      let x := (args.head?.bind HostValue.asFloat?).getD 0.0
      finish (.ok (.double (x * x)))
  | .initial => finish do
      let s ← strArg args 0
      match s.toList with
      | c :: _ => pure (.char c)
      | [] => throw (indexOutOfBounds 0 0)
  | .describe => finish (.ok (.str (describeHost args.head?)))
  | .fail => finish do
      let m ← strArg args 0
      throw (.new runtimeType m)
  | .silent => finish (.error (.withoutMessage runtimeType))
  | .secret => finish (.ok (.str "hidden"))
  | .pointNew =>
      match intArg args 0, intArg args 1 with
      | .ok x, .ok y => .ok <$> newPoint x y
      | .error e, _ => finish (.error e)
      | .ok _, .error e => finish (.error e)
  | .pointOrigin => .ok <$> newPoint 0 0
  | .pointGetX => finish do
      let (x, _) ← thisPoint this
      pure (.int x)
  | .pointGetY => finish do
      let (_, y) ← thisPoint this
      pure (.int y)
  | .pointTranslate =>
      match thisPoint this with
      | .error e => finish (.error e)
      | .ok (x, y) =>
        match intArg args 0, intArg args 1 with
        | .error e, _ => finish (.error e)
        | .ok _, .error e => finish (.error e)
        | .ok dx, .ok dy =>
          let nx := x.toInt + dx.toInt
          let ny := y.toInt + dy.toInt
          if -2147483648 ≤ nx ∧ nx ≤ 2147483647 ∧ -2147483648 ≤ ny ∧ ny ≤ 2147483647 then
            .ok <$> newPoint (Int32.ofInt nx) (Int32.ofInt ny)
          else finish (.error (.new arithmeticType "integer overflow"))
  | .pointDistanceSquared => finish do
      let (ax, ay) ← thisPoint this
      let (bx, by_) ← match args.head? with
        | some n => if n.isNull then throw .nullPointer else thisPoint n
        | none => throw (.illegalArgument "wrong number of arguments")
      let dx := ax.toInt64 - bx.toInt64
      let dy := ay.toInt64 - by_.toInt64
      pure (.long (dx * dx + dy * dy))
  | .pointEquals => finish do
      let (ax, ay) ← thisPoint this
      let same := match args.head?.bind HostValue.point? with
        | some (bx, by_) => ax == bx && ay == by_
        | none => false
      pure (.boolean same)
  | .pointToString => finish do
      let (x, y) ← thisPoint this
      pure (.str ("Point(" ++ Decimal.intText x.toInt ++ ", " ++ Decimal.intText y.toInt ++ ")"))

/-- The host value a constant stands for; an object constant is the one object of its mark. -/
def HostConstant.make : HostConstant → HostM HostValue
  | .null => pure .null
  | .boolean b => pure (.boolean b)
  | .byte n => pure (.byte n)
  | .short n => pure (.short n)
  | .int n => pure (.int n)
  | .long n => pure (.long n)
  | .float x => pure (.float x)
  | .double x => pure (.double x)
  | .char c => pure (.char c)
  | .str s => pure (.str s)
  | .object cls mark => pure (.object ⟨cls, .written mark, .plain⟩)

/-- What a body does, given the receiver it was run with and the arguments. -/
def Body.run (body : Body) (receiver : Option HostValue) (args : List HostValue) : HostM Outcome :=
  match body with
  | .builtin op => op.run receiver args
  | .echo => pure (.ok (args.head?.getD .null))
  | .receiver => pure (.ok (receiver.getD .null))
  | .returns c => .ok <$> c.make
  | .raises e => pure (.error e)

/-- Run a constructor's body on checked arguments. -/
def ConstructorDef.run (k : ConstructorDef) (args : List HostValue) : HostM Outcome :=
  k.body.run none args

/-- Run a method's body on checked arguments: a static method ignores the receiver, an instance
method without one raises a null-pointer exception. -/
def MethodDef.run (m : MethodDef) (receiver : Option HostValue) (args : List HostValue) :
    HostM Outcome :=
  if m.isStatic then m.body.run none args
  else
    match receiver with
    | some r => m.body.run (some r) args
    | none => pure (.error .nullPointer)

end HostInterop.Host

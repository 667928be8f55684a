import HostInterop.Value.Basic

/-!
# Crossing the boundary

Arguments cross to the host by `Value.toHost`: a text becomes a host string, a character a host
character, a wrapper gives up the host value inside it, and every other value crosses
unchanged as an interpreter value. Results come back by `HostValue.toValue`: null becomes
`NIL`, a boolean `T` or `NIL`, an int or long an integer, a host string a text, a handed-over
interpreter value itself; every other host value comes back wrapped.
-/

namespace HostInterop

/-- The host value an argument crosses as. -/
def Value.toHost : Value → HostValue
  | .str s => .str s
  | .char c => .char c
  | .native h => h
  | v => .interp v

/-- The interpreter value a result comes back as. -/
def HostValue.toValue : HostValue → Value
  | .null => .nil
  | .boolean b => Value.ofBool b
  | .int n => .int n.toInt64
  | .long n => .int n
  | .str s => .str s
  | .interp v => v
  | h => .native h

/-- What an operand is, as an error message names it: the kind of reference for a wrapped
reference, otherwise the value's tag. -/
def Value.describe : Value → String
  | .native (.ref r) => r.kindName
  | v => v.typeName

end HostInterop

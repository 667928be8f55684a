import HostInterop.Value.Basic

/-!
# Equality of values

When two values are equal. Integers, characters, texts and floats compare by value, floats as
IEEE numbers (NaN differs from itself, `0.0` equals `-0.0`). Callables and symbols compare by
identity. Host values compare variant by variant: scalars by value, references and objects by
identity, handed-over interpreter values as interpreter values. Values of different tags are
never equal.
-/

namespace HostInterop

mutual

/-- Whether two interpreter values are equal. -/
def Value.same : Value → Value → Bool
  | .t, .t => true
  | .nil, .nil => true
  | .int a, .int b => a == b
  | .char a, .char b => a == b
  | .str a, .str b => a == b
  | .native a, .native b => HostValue.same a b
  | .function f, .function g => f.id == g.id
  | .symbol a, .symbol b => a == b
  | .float x, .float y => x == y
  | _, _ => false

/-- Whether two host values are equal. -/
def HostValue.same : HostValue → HostValue → Bool
  | .null, .null => true
  | .boolean a, .boolean b => a == b
  | .byte a, .byte b => a == b
  | .short a, .short b => a == b
  | .int a, .int b => a == b
  | .long a, .long b => a == b
  | .float x, .float y => x == y
  | .double x, .double y => x == y
  | .char a, .char b => a == b
  | .str a, .str b => a == b
  | .ref a, .ref b => a.same b
  | .object a, .object b => a.id == b.id
  | .interp a, .interp b => Value.same a b
  | _, _ => false

end

end HostInterop

/-!
# Shortest decimals of binary floating-point numbers

A finite nonzero number of a binary format is `m · 2^e`. The reals that round to it form an
interval around it, reaching half a unit in the last place to either side (a quarter unit on
the lower side at the bottom of a binade); its ends belong to it when `m` is even, since ties
round to even.

`shortest` finds the decimal with the fewest significant digits inside that interval: for
`n = 1, 2, …` digits it looks at the two neighbours of the number on the grid of `n`-digit
decimals, and the first grid with a neighbour inside wins; of two neighbours inside, the nearer
one, and the upper one when both are equally near. All comparisons are exact, in `Nat`.
-/

namespace HostInterop.Decimal

/-- The decimal text of a natural number. -/
def natText (n : Nat) : String := String.ofList (Nat.toDigits 10 n)

/-- The decimal text of an integer, with a minus sign when negative. -/
def intText (i : Int) : String :=
  if i < 0 then "-" ++ natText i.natAbs else natText i.natAbs

/-- A binary interchange format, by the widths of its stored fraction and of its exponent. -/
structure BinaryFormat where
  /-- Bits of the fraction field. -/
  fractionBits : Nat
  /-- Bits of the exponent field. -/
  exponentBits : Nat

/-- The 64-bit format: 52 fraction bits, 11 exponent bits. -/
def BinaryFormat.binary64 : BinaryFormat := ⟨52, 11⟩

/-- The 32-bit format: 23 fraction bits, 8 exponent bits. -/
def BinaryFormat.binary32 : BinaryFormat := ⟨23, 8⟩

/-- The exponent bias of the format. -/
def BinaryFormat.bias (f : BinaryFormat) : Nat := Nat.pow 2 (f.exponentBits - 1) - 1

/-- What a bit pattern of a binary format stands for. -/
inductive Binary where
  /-- Not a number. -/
  | nan
  /-- An infinity, with its sign. -/
  | infinity (negative : Bool)
  /-- A zero, with its sign. -/
  | zero (negative : Bool)
  /-- The number `±significand · 2^exponent`, with `significand > 0`; `narrowBelow` when the
  gap to the next smaller number is half the gap to the next larger one. -/
  | finite (negative : Bool) (significand : Nat) (exponent : Int) (narrowBelow : Bool)

/-- Read a bit pattern of the format. -/
def BinaryFormat.decode (f : BinaryFormat) (bits : Nat) : Binary :=
  let fraction := bits % Nat.pow 2 f.fractionBits
  let biased := bits / Nat.pow 2 f.fractionBits % Nat.pow 2 f.exponentBits
  let negative := bits / Nat.pow 2 (f.fractionBits + f.exponentBits) % 2 == 1
  if biased == Nat.pow 2 f.exponentBits - 1 then
    if fraction == 0 then .infinity negative else .nan
  else if biased == 0 then
    if fraction == 0 then .zero negative
    else .finite negative fraction (1 - (f.bias : Int) - f.fractionBits) false
  else
    .finite negative (fraction + Nat.pow 2 f.fractionBits)
      ((biased : Int) - f.bias - f.fractionBits) (fraction == 0 && biased > 1)

/-- A decimal `digits · 10^exponent`. -/
structure Decimal where
  /-- The significand. -/
  digits : Nat
  /-- The power of ten it is scaled by. -/
  exponent : Int

/-- The number of decimal digits of `n` (one for zero). -/
def digitCount (n : Nat) : Nat := (Nat.toDigits 10 n).length

/-- Remove the trailing zeros of the significand, raising the exponent to match. -/
def Decimal.trim (d : Decimal) : Decimal :=
  if h : d.digits ≠ 0 ∧ d.digits % 10 = 0 then
    Decimal.trim ⟨d.digits / 10, d.exponent + 1⟩
  else d
termination_by d.digits
decreasing_by exact Nat.div_lt_self (Nat.pos_of_ne_zero h.1) (by decide)

/-- The place of the leading digit of `m · 2^a` (for `m > 0`): the `p` with
`10^p ≤ m · 2^a < 10^(p+1)`. -/
def leadingPlace (m : Nat) (a : Int) : Int :=
  if 0 ≤ a then (digitCount (m * Nat.pow 2 a.toNat) : Int) - 1
  else (digitCount (m * Nat.pow 5 (-a).toNat) : Int) - 1 + a

/-- The decimal of `n` significant digits nearest to `m · 2^e` inside its rounding interval, if
one of the two neighbours on that grid lies inside. -/
def candidate (m : Nat) (e : Int) (narrowBelow : Bool) (n : Nat) : Option Decimal :=
  let a := e - 2
  -- the number, and the ends of its interval, in units of 2^a
  let v := 4 * m
  let lower := if narrowBelow then 4 * m - 1 else 4 * m - 2
  let upper := 4 * m + 2
  let inclusive := m % 2 == 0
  let t := leadingPlace v a + 1 - n
  -- k · 10^t compares with x · 2^a as k · p compares with x · q
  let p := Nat.pow 10 t.toNat * Nat.pow 2 (-a).toNat
  let q := Nat.pow 2 a.toNat * Nat.pow 10 (-t).toNat
  let lo := v * q / p
  let hi := lo + 1
  let loIn := lo * p == v * q || lower * q < lo * p || (inclusive && lower * q == lo * p)
  let hiIn := lo * p != v * q && (hi * p < upper * q || (inclusive && hi * p == upper * q))
  if loIn && hiIn then
    if v * q - lo * p < hi * p - v * q then some ⟨lo, t⟩ else some ⟨hi, t⟩
  else if loIn then some ⟨lo, t⟩
  else if hiIn then some ⟨hi, t⟩
  else none

/-- The shortest decimal that rounds to `m · 2^e` (for `m > 0`), trailing zeros removed. Seven
hundred and seventy digits always suffice, since the number itself has no more. -/
def shortest (m : Nat) (e : Int) (narrowBelow : Bool) : Decimal :=
  match (List.range' 1 770).findSome? (candidate m e narrowBelow) with
  | some d => d.trim
  | none => (Decimal.trim ⟨m, 0⟩)

end HostInterop.Decimal

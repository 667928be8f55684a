import HostInterop.Decimal.Shortest

/-!
# Writing a binary floating-point number

How a number of a binary format is written, once its shortest decimal is known (`shortest`).
The decisions of the written form are the fields of `FloatLayout`: when the scientific form is
used, how many fractional digits the positional form keeps at least, and the texts of the
values that are not numbers. `FloatLayout.standard` is the form every value of this library is
shown in.
-/

namespace HostInterop.Decimal

/-- The decisions of a written form of binary floating-point numbers. -/
structure FloatLayout where
  /-- The positional form is used when the leading digit's place is at least this… -/
  positionalFrom : Int
  /-- …and below this; otherwise the scientific form. -/
  positionalBelow : Int
  /-- The text of a value that is not a number. -/
  nan : String
  /-- The text of positive infinity; negative infinity adds a minus sign. -/
  infinity : String

/-- The form values are shown in: positional for leading places from `-4` to `15` with at least
one fractional digit (`0.0001`, `9.0`, `100000000000000.0`), scientific otherwise with a bare
exponent (`1e16`, `1e-7`, `8.507059173023462e37`), and `NaN`, `inf`, `-inf`. -/
def FloatLayout.standard : FloatLayout := ⟨-4, 16, "NaN", "inf"⟩

/-- `n` zeros. -/
def zeros (n : Nat) : List Char := List.replicate n '0'

/-- The decimal `0.d₁d₂… · 10^point`, where `ds` are the digits, in positional form with at least
one fractional digit. -/
def positional (ds : List Char) (point : Int) : List Char :=
  if point ≤ 0 then '0' :: '.' :: zeros (-point).toNat ++ ds
  else if point.toNat < ds.length then ds.take point.toNat ++ '.' :: ds.drop point.toNat
  else ds ++ zeros (point.toNat - ds.length) ++ ['.', '0']

/-- The decimal `d₁.d₂… · 10^place` in scientific form, with a bare exponent. -/
def scientific (ds : List Char) (place : Int) : List Char :=
  let mantissa := match ds with
    | [] => ['0']
    | [d] => [d]
    | d :: rest => d :: '.' :: rest
  mantissa ++ 'e' :: (intText place).toList

/-- The text of a decoded number in the layout. -/
def FloatLayout.write (layout : FloatLayout) : Binary → String
  | .nan => layout.nan
  | .infinity negative => (if negative then "-" else "") ++ layout.infinity
  | .zero negative => if negative then "-0.0" else "0.0"
  | .finite negative m e narrow =>
    let d := shortest m e narrow
    let ds := Nat.toDigits 10 d.digits
    let place := d.exponent + ds.length - 1
    let body :=
      if layout.positionalFrom ≤ place && place < layout.positionalBelow then
        positional ds (place + 1)
      else scientific ds place
    String.ofList ((if negative then ['-'] else []) ++ body)

/-- The text of a 64-bit float. -/
def float64Text (x : Float) : String :=
  FloatLayout.standard.write (BinaryFormat.binary64.decode x.toBits.toNat)

/-- The text of a 32-bit float. -/
def float32Text (x : Float32) : String :=
  FloatLayout.standard.write (BinaryFormat.binary32.decode x.toBits.toNat)

end HostInterop.Decimal

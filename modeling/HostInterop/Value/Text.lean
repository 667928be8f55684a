import HostInterop.Value.Basic
import HostInterop.Text.Quoted
import HostInterop.Decimal.Layout

/-!
# Showing values

The text of a value as a reader sees it (`Value.text`, `HostValue.text`), and the tagged form
of a host value that names its variant (`HostValue.tagged`).

An interpreter value shows as `T`, `NIL`, a decimal integer, `#\` and the character itself,
the quoted text, `#<NATIVE …>` around a wrapped host value, `#<FUNCTION NAME>` (or
`#<FUNCTION (anonymous)>`), the symbol's bare name, or the float in the standard layout. A host
value shows as `null`, `true`/`false`, a decimal integer, a float in the standard layout of its
width, the character itself, the quoted string, the text of a reference, or `CLASS instance`.
-/

namespace HostInterop

open Host Decimal

/-- The callable's name, or `(anonymous)`. -/
def FunctionRef.displayName (f : FunctionRef) : String := f.name.getD "(anonymous)"

/-- The callable as shown: `#<FUNCTION NAME>`. -/
def FunctionRef.text (f : FunctionRef) : String := "#<FUNCTION " ++ f.displayName ++ ">"

/-- The text of a reference: `class NAME`, the constructor or the method as written. -/
def HostRef.text : HostRef → String
  | .cls _ c => c.text
  | .ctor _ _ k => k.text
  | .method _ _ m => m.text

/-- The tagged form of a reference: `Class(…)`, `Constructor(…)`, `Method(…)`. -/
def HostRef.tagged : HostRef → String
  | .cls _ c => "Class(" ++ c.text ++ ")"
  | .ctor _ _ k => "Constructor(" ++ k.text ++ ")"
  | .method _ _ m => "Method(" ++ m.text ++ ")"

mutual

/-- The text of an interpreter value. -/
def Value.text : Value → String
  | .t => "T"
  | .nil => "NIL"
  | .int n => intText n.toInt
  | .char c => String.ofList ['#', '\\', c]
  | .str s => Text.quote s
  | .native h => "#<NATIVE " ++ HostValue.text h ++ ">"
  | .function f => f.text
  | .symbol s => s.name
  | .float x => float64Text x

/-- The text of a host value. -/
def HostValue.text : HostValue → String
  | .null => "null"
  | .boolean b => if b then "true" else "false"
  | .byte n => intText n.toInt
  | .short n => intText n.toInt
  | .int n => intText n.toInt
  | .long n => intText n.toInt
  | .float x => float32Text x
  | .double x => float64Text x
  | .char c => String.singleton c
  | .str s => Text.quote s
  | .ref r => r.text
  | .object o => o.cls ++ " instance"
  | .interp v => Value.text v

end

/-- The tagged form of a host value, naming its variant: `Str("abc")`, `Double(9.0)`,
`Ref(Class(class example.Point))`, `Object(example.Point instance)`, `Interp(T)`. -/
def HostValue.tagged : HostValue → String
  | .null => "Null"
  | .boolean b => "Boolean(" ++ (if b then "true" else "false") ++ ")"
  | .byte n => "Byte(" ++ intText n.toInt ++ ")"
  | .short n => "Short(" ++ intText n.toInt ++ ")"
  | .int n => "Int(" ++ intText n.toInt ++ ")"
  | .long n => "Long(" ++ intText n.toInt ++ ")"
  | .float x => "Float(" ++ float32Text x ++ ")"
  | .double x => "Double(" ++ float64Text x ++ ")"
  | .char c => "Char(" ++ Text.quoteChar c ++ ")"
  | .str s => "Str(" ++ Text.quote s ++ ")"
  | .ref r => "Ref(" ++ r.tagged ++ ")"
  | .object o => "Object(" ++ o.cls ++ " instance)"
  | .interp v => "Interp(" ++ v.text ++ ")"

/-- The symbol's tagged form: `Symbol(PACKAGE:NAME)`. -/
def SymbolRef.tagged (s : SymbolRef) : String := "Symbol(" ++ s.qualified ++ ")"

end HostInterop

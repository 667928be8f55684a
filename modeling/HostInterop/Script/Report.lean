import HostInterop.Script.Error
import HostInterop.Decimal.Shortest
import HostInterop.Text.Lines

/-!
# Reports of failed scripts

A failed script is reported against its source: a heading that names the kind of failure, the
place where the failure starts, written `FILE:LINE:COL`, and a label that says what is wrong
there.

Places are counted in characters, while a failure's span is in bytes. The report takes the
span's numbers as character positions, so on non-ASCII text the place lies further on than the
failure. The source is shown only when the span starts within the text and its last position is
at most the end of the text; the label is drawn only when the whole span lies within the text.
So a span that ends one past the text has a place but no label, and a span further out has
neither. A line ends at a line feed, carriage return, vertical tab, form feed, next line, line
separator or paragraph separator; a carriage return followed by a line feed ends a single line.
-/

namespace HostInterop.Script

open HostInterop.Decimal

/-- A report of a failed script. -/
structure Report where
  /-- The kind of failure: `Lexer error`, `Parse error`, `Binding error` or `Runtime error`. -/
  header : String
  /-- Where the failure starts: `FILE:LINE:COL`, counted from 1, when the source is shown. -/
  location : Option String
  /-- What is wrong there, unless the span runs past the text: the first line of the message,
  as the frame shows it; later lines of the message fall inside the frame. -/
  label : Option String
  deriving DecidableEq

/-- Whether a character ends a line of a report. -/
def isLineEnd (c : Char) : Bool :=
  c == '\n' || c == '\r' || c == '\x0b' || c == '\x0c' || c.toNat == 0x85 ||
    c.toNat == 0x2028 || c.toNat == 0x2029

/-- The positions at which a line starts after a line end, for a text that starts at `pos`. -/
def lineBreaks : List Char → Nat → List Nat
  | [], _ => []
  | '\r' :: '\n' :: r, pos => (pos + 2) :: lineBreaks r (pos + 2)
  | c :: r, pos => if isLineEnd c then (pos + 1) :: lineBreaks r (pos + 1) else lineBreaks r (pos + 1)

/-- The positions at which the lines of a text start: a text holds no empty last line. -/
def lineStarts (cs : List Char) : List Nat :=
  if cs.isEmpty then [] else 0 :: (lineBreaks cs 0).filter (· < cs.length)

/-- The line and column, both from 0, of a character position: the last line that starts at or
before it. None past the end of the text, and in an empty text. -/
def place (cs : List Char) (pos : Nat) : Option (Nat × Nat) :=
  if cs.length < pos then none
  else
    match (lineStarts cs).filter (· ≤ pos) with
    | [] => none
    | s :: rest => some (rest.length, pos - (rest.getLast?.getD s))

/-- The place of a character position as a report writes it. -/
def placeText (cs : List Char) (pos : Nat) : String :=
  match place cs pos with
  | some (line, col) => natText (line + 1) ++ ":" ++ natText (col + 1)
  | none => "?:?"

/-- Whether a report shows the source at a span: the span starts within the text, and its last
position is at most the end of the text. -/
def showsSource (cs : List Char) (span : Span) : Bool :=
  !cs.isEmpty && span.start ≤ cs.length && span.stop ≤ cs.length + 1

/-- The report of a failure of the script `source`, read from `file`. -/
def ScriptError.report (file source : String) (e : ScriptError) : Report :=
  let cs := source.toList
  let shown := showsSource cs e.span
  { header := e.kindName ++ " error"
    location := if shown then some (file ++ ":" ++ placeText cs e.span.start) else none
    label := if shown && e.span.stop ≤ cs.length then some (Text.firstLine e.label) else none }

end HostInterop.Script

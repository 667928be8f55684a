import HostInterop.Error

/-!
# Script spans and errors

A span is a range of UTF-8 byte offsets into a script. A script fails in one of four ways: its
lexer meets a character that begins no token, its parser meets a line of the wrong shape, a call
names an unbound variable, or a call fails at run time. Each failure carries the span it is
about.
-/

namespace HostInterop.Script

/-- A range of byte offsets into a script, `start` included, `stop` excluded. -/
structure Span where
  /-- The first byte. -/
  start : Nat
  /-- The byte after the last. -/
  stop : Nat
  deriving DecidableEq

/-- The smallest span covering both. -/
def Span.merge (a b : Span) : Span := ⟨Nat.min a.start b.start, Nat.max a.stop b.stop⟩

/-- The span as written: `S..E`. -/
def Span.text (s : Span) : String := Nat.repr s.start ++ ".." ++ Nat.repr s.stop

/-- How a script fails. -/
inductive ScriptError where
  /-- The lexer met something that begins no token. -/
  | lexer (message : String) (span : Span)
  /-- A line does not have the shape of a call. -/
  | parse (message : String) (span : Span)
  /-- A call reads a variable that no earlier line bound. -/
  | unbound (name : String) (span : Span)
  /-- A call failed. -/
  | runtime (error : RuntimeError) (span : Span)

namespace ScriptError

/-- The span the failure is about. -/
def span : ScriptError → Span
  | lexer _ s => s
  | parse _ s => s
  | unbound _ s => s
  | runtime _ s => s

/-- The failure as shown to a reader. -/
def display : ScriptError → String
  | lexer m s => "Lexer error at " ++ s.text ++ ": " ++ m
  | parse m s => "Parse error at " ++ s.text ++ ": " ++ m
  | unbound n _ => "Unbound variable $" ++ n
  | runtime e _ => e.display

/-- The kind of failure, as a report heads it. -/
def kindName : ScriptError → String
  | lexer .. => "Lexer"
  | parse .. => "Parse"
  | unbound .. => "Binding"
  | runtime .. => "Runtime"

/-- What a report says at the span. -/
def label : ScriptError → String
  | lexer m _ => m
  | parse m _ => m
  | unbound n _ => "`$" ++ n ++ "` is not bound"
  | runtime e _ => e.message

end ScriptError

end HostInterop.Script

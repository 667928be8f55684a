import HostInterop.Script.Token

/-!
# Script calls

Each non-empty line of a script is one call: `[let NAME =] OPERATION ARG*`, where the name and
the operation are words and each argument is an integer, a character, a text, a word (taken as a
text), `t`, `nil` or a variable. A call's span runs from its first token to its last.

The whole script is read before anything runs. The first line of the wrong shape fails with the
token where it went wrong, quoted as it stands in the source, or with the span read so far when
the line ends too early.
-/

namespace HostInterop.Script

/-- An argument of a call as written. -/
inductive Arg where
  | int (n : Int64)
  | char (c : Char)
  | str (s : String)
  | t
  | nil
  | var (name : String)
  deriving DecidableEq

/-- One line of a script. -/
structure Call where
  /-- The variable a `let` binds, if any. -/
  binding : Option String
  /-- The operation's name. -/
  operation : String
  /-- The arguments with their spans. -/
  args : List (Arg × Span)
  /-- From the first token to the last. -/
  span : Span

/-- The characters of a text between two byte offsets. -/
def byteSlice (source : String) (span : Span) : String :=
  let rec go : List Char → Nat → List Char
    | [], _ => []
    | c :: cs, pos =>
      if pos ≥ span.stop then []
      else if pos ≥ span.start then c :: go cs (pos + c.utf8Size)
      else go cs (pos + c.utf8Size)
  String.ofList (go source.toList 0)

/-- A parse failure at a token, quoting the token as it stands in the source. -/
def unexpected (source : String) (what : String) (span : Span) : ScriptError :=
  .parse (what ++ ", found " ++ Text.quote (byteSlice source span)) span

/-- The argument a token stands for, if it stands for one. -/
def Token.arg? : Token → Option Arg
  | .int n => some (.int n)
  | .char c => some (.char c)
  | .str s => some (.str s)
  | .word w => some (.str w)
  | .trueKw => some .t
  | .nilKw => some .nil
  | .var name => some (.var name)
  | _ => none

/-- The arguments of a call, extending its span over each. -/
def parseArgs (source : String) : List (Token × Span) → Span → Except ScriptError (List (Arg × Span) × Span)
  | [], span => .ok ([], span)
  | (tok, s) :: rest, span =>
    match tok.arg? with
    | some a => do
      let (args, span) ← parseArgs source rest (span.merge s)
      pure ((a, s) :: args, span)
    | none => .error (unexpected source "expected an argument" s)

/-- The operation and arguments of a call after its binding. -/
def parseOperation (source : String) (binding : Option String) (first : Span) :
    List (Token × Span) → Except ScriptError Call
  | (.word name, s) :: rest => do
    let (args, span) ← parseArgs source rest (first.merge s)
    pure ⟨binding, name, args, span⟩
  | (_, s) :: _ => .error (unexpected source "expected an operation name" s)
  | [] => .error (.parse "expected an operation name" first)

/-- One line of tokens as a call. -/
def parseLine (source : String) : List (Token × Span) → Except ScriptError Call
  | [] => .error (.parse "expected an operation name" ⟨0, 0⟩)
  | (.letKw, letSpan) :: rest =>
    match rest with
    | (.word name, _) :: (.eq, _) :: more => parseOperation source (some name) letSpan more
    | (.word _, _) :: (_, s) :: _ => .error (unexpected source "expected `=`" s)
    | [(.word _, _)] => .error (.parse "expected `=`" letSpan)
    | (_, s) :: _ => .error (unexpected source "expected a variable name" s)
    | [] => .error (.parse "expected a variable name after `let`" letSpan)
  | line@((_, first) :: _) => parseOperation source none first line

/-- The lines of a token list: the runs between line ends, empty runs dropped. -/
def lines (tokens : List (Token × Span)) : List (List (Token × Span)) :=
  (tokens.splitOnP (·.1 == .newline)).filter (!·.isEmpty)

/-- The calls of a script, or the first lexer or parse failure. -/
def parse (source : String) : Except ScriptError (List Call) := do
  let tokens ← tokenize source
  (lines tokens).mapM (parseLine source)

end HostInterop.Script

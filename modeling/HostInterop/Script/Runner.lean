import HostInterop.Script.Call
import HostInterop.Session

/-!
# Running scripts

A runner keeps the variables that `let` lines bind and runs the calls of a script in order
against a session, handing each result on. The script is read whole first, so a lexer or parse
failure anywhere runs nothing. Running stops at the first failing call: an argument naming an
unbound variable (reported at that argument, before anything is called), or a call that fails
(reported over the call's span). Bindings made before the failure stay.
-/

namespace HostInterop.Script

/-- The variables bound so far; a later binding of a name replaces the earlier one. -/
structure Bindings where
  /-- Each bound name with its value, one entry per name. -/
  entries : List (String × Value)

namespace Bindings

/-- No variables. -/
def empty : Bindings := ⟨[]⟩

/-- The value of a variable. -/
def get? (b : Bindings) (name : String) : Option Value := (b.entries.find? (·.1 == name)).map (·.2)

/-- Bind a variable, replacing an earlier binding of the name. -/
def insert (b : Bindings) (name : String) (v : Value) : Bindings :=
  ⟨(name, v) :: b.entries.filter (·.1 != name)⟩

end Bindings

/-- The value an argument stands for. -/
def argValue (b : Bindings) : Arg × Span → Except ScriptError Value
  | (.int n, _) => .ok (.int n)
  | (.char c, _) => .ok (.char c)
  | (.str s, _) => .ok (.str s)
  | (.t, _) => .ok .t
  | (.nil, _) => .ok .nil
  | (.var name, span) =>
    match b.get? name with
    | some v => .ok v
    | none => .error (.unbound name span)

/-- Run one call: evaluate its arguments, call its operation, bind its result. -/
def runCall (s : Session) (b : Bindings) (c : Call) : Except ScriptError Value × Session × Bindings :=
  match c.args.mapM (argValue b) with
  | .error e => (.error e, s, b)
  | .ok args =>
    match s.call c.operation args with
    | (.error e, s) => (.error (.runtime e c.span), s, b)
    | (.ok v, s) => (.ok v, s, match c.binding with
      | some name => b.insert name v
      | none => b)

/-- What running a script gives: the results of the calls that succeeded, in order, the failure
that stopped it, and the session and bindings after it. -/
structure Run where
  /-- Each successful call's binding and value. -/
  results : List (Option String × Value)
  /-- The failure, if the script stopped at one. -/
  error : Option ScriptError
  /-- The session afterwards. -/
  session : Session
  /-- The bindings afterwards. -/
  bindings : Bindings

/-- Run calls in order until one fails. -/
def runCalls (s : Session) (b : Bindings) : List Call → Run
  | [] => ⟨[], none, s, b⟩
  | c :: cs =>
    match runCall s b c with
    | (.error e, s, b) => ⟨[], some e, s, b⟩
    | (.ok v, s, b) =>
      let r := runCalls s b cs
      { r with results := (c.binding, v) :: r.results }

/-- Read a script whole, then run its calls. -/
def runScript (s : Session) (b : Bindings) (source : String) : Run :=
  match parse source with
  | .error e => ⟨[], some e, s, b⟩
  | .ok calls => runCalls s b calls

end HostInterop.Script

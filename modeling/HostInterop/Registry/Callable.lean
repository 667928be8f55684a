import HostInterop.Registry.Table

/-!
# Callables

A callable has an upper-cased name (or none), an arity, and a target: nothing yet (declared
only), a slot of a dispatch table, or a body of its own. It also remembers the symbol it is
currently registered under, and counts its calls.

Every entry point passes the same gate first (`Callable.gate`): a callable without a target
fails as an undefined function, a count of arguments outside the arity fails as a wrong number
of arguments, and only then is the call counted. The count stays when the target then fails.
-/

namespace HostInterop.Registry

open Host

/-- What a callable runs. -/
inductive Target where
  /-- Declared, never given a body. -/
  | unbound
  /-- Slot `index` of a dispatch table. -/
  | table (t : Table) (index : Nat)
  /-- A body of its own. -/
  | native (body : List Value → Except RuntimeError Value)

/-- Which entry point a call came through; the one-argument entry uses a table's one-argument
dispatcher. -/
inductive Entry where
  | none
  | one
  | two
  | many
  deriving DecidableEq

/-- The entry point that a list of arguments is routed to: none, one and two arguments to
their own entries, more to the general one. -/
def Entry.route : List Value → Entry
  | [] => .none
  | [_] => .one
  | [_, _] => .two
  | _ => .many

/-- An interpreter callable. -/
structure Callable where
  /-- The upper-cased name, or none for an anonymous callable. -/
  name : Option String
  /-- The accepted argument counts. -/
  arity : Arity
  /-- What the callable runs. -/
  target : Target
  /-- The symbol the callable is registered under. -/
  home : Option SymbolRef := none
  /-- The calls admitted since creation or the last clear. -/
  count : Nat := 0

namespace Callable

/-- A new callable, its name upper-cased, unregistered and uncounted. -/
def make (name : Option String) (arity : Arity) (target : Target) : Callable :=
  ⟨name.map Text.upper, arity, target, none, 0⟩

/-- The name, or `(anonymous)`. -/
def displayName (c : Callable) : String := c.name.getD "(anonymous)"

/-- The callable as shown: `#<FUNCTION NAME>`. -/
def text (c : Callable) : String := "#<FUNCTION " ++ c.displayName ++ ">"

/-- Whether the callable forwards to a dispatch table. -/
def isTableBound (c : Callable) : Bool :=
  match c.target with
  | .table .. => true
  | _ => false

/-- The target as a description shows it: `native`, `unbound` or `TABLE[i]`. -/
def targetText (c : Callable) : String :=
  match c.target with
  | .unbound => "unbound"
  | .table t i => t.slotName i
  | .native _ => "native"

/-- The full description:
`Function { name: Some("X"), arity: Exact(1), target: "FOREIGN[0]", call_count: 0 }`. -/
def description (c : Callable) : String :=
  let name := match c.name with
    | some n => "Some(" ++ Text.quote n ++ ")"
    | none => "None"
  "Function \x7b name: " ++ name ++ ", arity: " ++ c.arity.text ++ ", target: " ++
    Text.quote c.targetText ++ ", call_count: " ++ Nat.repr c.count ++ " \x7d"

/-- The type every callable has. -/
def typeOf (_ : Callable) : String := "FUNCTION"

/-- Whether a type specifier names the callable's type: `FUNCTION`, `COMPILED-FUNCTION` or `T`,
in any letter case. -/
def typep (_ : Callable) (spec : String) : Bool :=
  let s := Text.upper spec
  s == "FUNCTION" || s == "COMPILED-FUNCTION" || s == "T"

/-- The gate every call passes: the callable counted once more, or why the call is refused. -/
def gate (c : Callable) (argc : Nat) : Except RuntimeError Callable :=
  match c.target with
  | .unbound => .error (.undefinedFunction c.displayName)
  | _ =>
    if c.arity.accepts argc then .ok { c with count := c.count + 1 }
    else .error (.wrongNumberOfArguments c.displayName argc)

/-- Run the target of an admitted call through an entry point. -/
def runTarget (c : Callable) (entry : Entry) (args : List Value) : HostM (Except RuntimeError Value) :=
  match c.target with
  | .unbound => pure (.error (.undefinedFunction c.displayName))
  | .native body => pure (body args)
  | .table t i =>
    match entry, args with
    | .one, [a] => t.dispatchOne a i
    | _, _ => t.dispatch args i

end Callable

end HostInterop.Registry

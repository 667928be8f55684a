/-!
# Runtime errors

The failures a call can end in, one constructor per cause, with the fields the cause names. The
wording of each is in one place, `RuntimeError.message`; a failure is shown as
`Runtime error: ` followed by its message.
-/

namespace HostInterop

/-- A failure signalled back to the interpreter by a call. -/
inductive RuntimeError where
  /-- No host class of this name. -/
  | classNotFound (name : String)
  /-- The class has no constructor with the parameter types asked for. -/
  | noSuchConstructor (cls : String)
  /-- The class has no suitable method of this name. -/
  | noSuchMethod (cls name : String)
  /-- An operand is not the kind of reference the operation needs. -/
  | wrongReferenceKind (expected got : String)
  /-- A callable was called with a count of arguments outside its arity. -/
  | wrongNumberOfArguments (callable : String) (got : Nat)
  /-- The host raised an exception; its message is kept as it came. -/
  | invocationFailure (message : String)
  /-- The callable has neither a table slot nor a body. -/
  | undefinedFunction (name : String)
  deriving DecidableEq

namespace RuntimeError

/-- The message of the failure. -/
def message : RuntimeError → String
  | classNotFound name => "class not found: " ++ name
  | noSuchConstructor cls => "no such constructor for class " ++ cls
  | noSuchMethod cls name => "no such method: " ++ cls ++ "." ++ name
  | wrongReferenceKind expected got => "wrong reference kind: expected " ++ expected ++ ", got " ++ got
  | wrongNumberOfArguments callable got => "wrong number of arguments for " ++ callable ++ ": " ++ Nat.repr got
  | invocationFailure message => message
  | undefinedFunction name => "undefined function: " ++ name

/-- The failure as shown to a reader. -/
def display (e : RuntimeError) : String := "Runtime error: " ++ e.message

end RuntimeError

end HostInterop

import HostInterop.Error

/-!
# Host exceptions

An exception raised on the host side has a type name, perhaps a message, and perhaps a cause.
A cause is either available, or unretrievable: asking for it raised another exception instead.

Reflective invocation wraps whatever a member body raises in an
`lang.reflect.InvocationTargetException` whose cause is the exception raised. When an exception
reaches the interpreter, its message is taken one level deep: the cause of an invocation-target
exception stands for it when the cause is available, and an empty or missing message gives way
to the type name (`HostException.interpretedMessage`).
-/

namespace HostInterop.Host

mutual

/-- An exception raised on the host side. -/
inductive HostException where
  | mk (typeName : String) (message : Option String) (cause : Cause)

/-- Where a wrapping exception keeps its cause. -/
inductive Cause where
  /-- No cause. -/
  | none
  /-- A cause that can be read. -/
  | available (cause : HostException)
  /-- Reading the cause raises `failure` instead. -/
  | unretrievable (failure : HostException)

end

/-- The type name of reflective invocation's wrapper. -/
def invocationTargetType : String := "lang.reflect.InvocationTargetException"

/-- The type name of argument failures. -/
def illegalArgumentType : String := "lang.IllegalArgumentException"

/-- The type name of a missing receiver or argument. -/
def nullPointerType : String := "lang.NullPointerException"

/-- The type name of unreadable numbers. -/
def numberFormatType : String := "lang.NumberFormatException"

/-- The type name of failed arithmetic. -/
def arithmeticType : String := "lang.ArithmeticException"

/-- The type name of general failures. -/
def runtimeType : String := "lang.RuntimeException"

/-- The type name of an index outside a text. -/
def indexOutOfBoundsType : String := "lang.StringIndexOutOfBoundsException"

namespace HostException

/-- An exception with a message and no cause. -/
def new (typeName message : String) : HostException := mk typeName (some message) .none

/-- An exception with neither message nor cause. -/
def withoutMessage (typeName : String) : HostException := mk typeName .none .none

/-- What reflective invocation raises when the invoked body raises `cause`. -/
def invocationTarget (cause : HostException) : HostException :=
  mk invocationTargetType .none (.available cause)

/-- An argument failure with its message. -/
def illegalArgument (message : String) : HostException := new illegalArgumentType message

/-- A missing receiver or argument. -/
def nullPointer : HostException := withoutMessage nullPointerType

/-- The type name. -/
def typeName : HostException → String
  | mk t _ _ => t

/-- The message, if there is one. -/
def message? : HostException → Option String
  | mk _ m _ => m

/-- The cause slot. -/
def cause : HostException → Cause
  | mk _ _ c => c

/-- The same exception with an available cause. -/
def withCause (e cause : HostException) : HostException := mk e.typeName e.message? (.available cause)

/-- The same exception with a cause that cannot be read. -/
def withUnretrievableCause (e failure : HostException) : HostException :=
  mk e.typeName e.message? (.unretrievable failure)

/-- Whether this is reflective invocation's wrapper, by exact type name. -/
def isInvocationTarget (e : HostException) : Bool := e.typeName == invocationTargetType

/-- The exception shown to a reader: `type: message`, or the type alone. -/
def text (e : HostException) : String :=
  match e.message? with
  | some m => e.typeName ++ ": " ++ m
  | .none => e.typeName

/-- The exception whose message reaches the interpreter: the available cause of an
invocation-target exception, otherwise the exception itself. -/
def effective (e : HostException) : HostException :=
  if e.isInvocationTarget then
    match e.cause with
    | .available c => c
    | _ => e
  else e

/-- The message that reaches the interpreter: the effective exception's message, or its type
name when the message is missing or empty. -/
def interpretedMessage (e : HostException) : String :=
  match e.effective.message? with
  | some m => if m.isEmpty then e.effective.typeName else m
  | .none => e.effective.typeName

/-- The failure an exception becomes in the interpreter. -/
def toRuntimeError (e : HostException) : RuntimeError := .invocationFailure e.interpretedMessage

end HostException

end HostInterop.Host

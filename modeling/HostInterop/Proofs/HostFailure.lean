import HostInterop.Foreign.Operation
import Mathlib

/-!
# Host failures as the interpreter sees them

Constructing an instance and invoking a method, instance or static, run the host's checks and
then the member's body. Two parts decide what the interpreter sees when that fails: the host
wraps whatever a body raises in one invocation-target exception and leaves the checks' own
exceptions unwrapped (`newInstance`, `invoke`), and the interpreter takes exactly one wrapper off
an exception's message (`HostException.interpretedMessage`).

This module states the outcome of the three operations in terms of the checks alone
(`memberOutcome`). A call the receiver check or the argument check refuses fails before the body
runs, with the check's message (`receiverRefusal`, `argumentRefusal`); otherwise the body runs,
and whatever exception it raises reaches the interpreter with that exception's own message, or its
type name when the message is missing or empty (`HostException.ownMessage`), even when it is
itself a wrapper (`interpretedMessage_invocationTarget`). Through the slots of the foreign
operations, a call both checks admit is its body's outcome (`dispatch_construct_of_admitted`,
`dispatch_invokeInstance_of_admitted`, `dispatch_invokeStatic_of_admitted`).
-/

namespace HostInterop

namespace Host

namespace HostException

/-- The message an exception carries on its own: its message, or its type name when the message
is missing or empty. -/
def ownMessage (x : HostException) : String :=
  match x.message? with
  | some m => if m.isEmpty then x.typeName else m
  | none => x.typeName

/-- Exactly one wrapper is taken off: what a body raised reaches the interpreter with its own
message, also when it is a wrapper itself, one with an unretrievable cause, or one with an empty
message. -/
theorem interpretedMessage_invocationTarget (x : HostException) :
    (invocationTarget x).interpretedMessage = x.ownMessage :=
  rfl

/-! The checks' own exceptions are no wrappers, and reach the interpreter with their messages. -/

theorem interpretedMessage_wrongCount :
    (illegalArgument "wrong number of arguments").interpretedMessage = "wrong number of arguments" := by
  decide

theorem interpretedMessage_mismatch : mismatch.interpretedMessage = "argument type mismatch" := by
  decide

theorem interpretedMessage_notAnInstance :
    notAnInstance.interpretedMessage = "object is not an instance of declaring class" := by
  decide

theorem interpretedMessage_nullPointer : nullPointer.interpretedMessage = "lang.NullPointerException" := by
  decide

end HostException

/-! ## The checks, as the interpreter reports them -/

/-- Why the argument check refuses arguments for parameters: a different count, or an argument
its parameter type does not accept. -/
def argumentRefusal (params : List TypeToken) (args : List HostValue) : Option String :=
  if params.length ≠ args.length then some "wrong number of arguments"
  else if (params.zip args).all (fun pa => accepts pa.1 pa.2) then none
  else some "argument type mismatch"

/-- Why the receiver check refuses a receiver for a method: an instance method needs a receiver
that is there, not null, and an instance of the declaring class; every receiver is an instance
of `lang.Object`. A static method takes none. -/
def receiverRefusal (m : MethodDef) (receiver : Option HostValue) : Option String :=
  if m.isStatic then none
  else
    match receiver with
    | none => some "lang.NullPointerException"
    | some r =>
      if r.isNull then some "lang.NullPointerException"
      else if m.owner == objectClass || r.className? == some m.owner ||
          (m.owner == stringClass && r.asStr?.isSome) then none
      else some "object is not an instance of declaring class"

/-- The argument check fails exactly when it refuses, with the refusal's message. -/
theorem checkArguments_refusal (params : List TypeToken) (args : List HostValue) :
    (match checkArguments params args with
      | .ok () => none
      | .error e => some e.interpretedMessage) = argumentRefusal params args := by
  unfold checkArguments argumentRefusal
  by_cases hlen : params.length = args.length
  · cases hall : (params.zip args).all (fun pa => accepts pa.1 pa.2)
    · simp [hlen, HostException.interpretedMessage_mismatch]
    · simp [hlen]
  · simp [hlen, HostException.interpretedMessage_wrongCount]

/-- The receiver check fails exactly when it refuses, with the refusal's message. -/
theorem checkReceiver_refusal (m : MethodDef) (receiver : Option HostValue) :
    (match checkReceiver m receiver with
      | .ok _ => none
      | .error e => some e.interpretedMessage) = receiverRefusal m receiver := by
  unfold checkReceiver receiverRefusal
  cases hs : m.isStatic
  · cases receiver with
    | none => simp [HostException.interpretedMessage_nullPointer]
    | some r =>
      by_cases hn : r.isNull = true
      · simp [hn, HostException.interpretedMessage_nullPointer]
      · by_cases hi : (m.owner == objectClass || r.className? == some m.owner ||
            (m.owner == stringClass && r.asStr?.isSome)) = true
        · simp only [hn, hi, Bool.false_eq_true, if_false, if_true]
        · simp only [hn, hi, Bool.false_eq_true, if_false,
            HostException.interpretedMessage_notAnInstance]
  · simp

/-- The receiver a method runs with after the check is the one it was given, as far as its body
can tell: a static method's body ignores it. -/
theorem run_of_checkReceiver {m : MethodDef} {receiver r : Option HostValue}
    (h : checkReceiver m receiver = .ok r) (args : List HostValue) :
    m.run r args = m.run receiver args := by
  unfold checkReceiver at h
  unfold MethodDef.run
  split at h
  · rename_i hs; simp [hs]
  · rename_i hs
    simp only [hs, Bool.false_eq_true, if_false]
    split at h
    · cases h
    · split at h
      · cases h
      · split at h
        · cases h; rfl
        · cases h

/-! ## What the operations end in -/

/-- What a body's outcome becomes in the interpreter: its value, wrapped for a new instance, or
its exception's own message. -/
def bodyOutcome (out : Outcome) (wrap : Bool) : Except RuntimeError Value :=
  match out with
  | .ok v => .ok (if wrap then .native v else v.toValue)
  | .error x => .error (.invocationFailure x.ownMessage)

/-- A member call as the interpreter sees it: the refusal's message when a check refuses, with
nothing run; otherwise the body's outcome. -/
def memberOutcome (refusal : Option String) (body : HostM Outcome) (wrap : Bool) (n : Nat) :
    Except RuntimeError Value × Nat :=
  match refusal with
  | some msg => (.error (.invocationFailure msg), n)
  | none => (bodyOutcome (body.run n).1 wrap, (body.run n).2)

/-- A body's outcome, wrapped by the host and translated by the interpreter. -/
theorem fromHost_mapError (out : Outcome) (wrap : Bool) :
    Foreign.fromHost (out.mapError HostException.invocationTarget) wrap = bodyOutcome out wrap := by
  cases out with
  | ok v => rfl
  | error x =>
    simp only [Except.mapError, Foreign.fromHost, HostException.toRuntimeError,
      HostException.interpretedMessage_invocationTarget, bodyOutcome]

/-- A new instance, as the interpreter sees it. -/
theorem newInstance_translated (k : ConstructorDef) (args : List HostValue) (wrap : Bool) (n : Nat) :
    (Foreign.fromHost ((newInstance k args).run n).1 wrap, ((newInstance k args).run n).2) =
      memberOutcome (argumentRefusal k.params args) (k.run args) wrap n := by
  rw [← checkArguments_refusal]
  unfold newInstance
  cases checkArguments k.params args with
  | error e => rfl
  | ok u =>
    simp only [memberOutcome]
    exact congrArg (·, _) (fromHost_mapError _ wrap)

/-- A method call, as the interpreter sees it: the receiver check first, then the argument check,
then the body. -/
theorem invoke_translated (m : MethodDef) (receiver : Option HostValue) (args : List HostValue)
    (wrap : Bool) (n : Nat) :
    (Foreign.fromHost ((invoke m receiver args).run n).1 wrap, ((invoke m receiver args).run n).2) =
      memberOutcome ((receiverRefusal m receiver).or (argumentRefusal m.params args))
        (m.run receiver args) wrap n := by
  rw [← checkReceiver_refusal, ← checkArguments_refusal]
  unfold invoke
  cases hr : checkReceiver m receiver with
  | error e => rfl
  | ok r =>
    simp only [Option.none_or]
    cases checkArguments m.params args with
    | error e => rfl
    | ok u =>
      simp only [memberOutcome, run_of_checkReceiver hr]
      exact congrArg (·, _) (fromHost_mapError _ wrap)

/-! ## A member picked out by a test -/

/-- The one element of a list that passes a test no other element passes. -/
theorem eq_of_filter_eq_singleton {α : Type} {l : List α} {p : α → Bool} {a b : α}
    (h : l.filter p = [b]) (ha : a ∈ l) (hp : p a = true) : a = b := by
  have hmem : a ∈ l.filter p := List.mem_filter.mpr ⟨ha, hp⟩
  rwa [h, List.mem_singleton] at hmem

end Host

namespace Foreign

open Host

/-! ## Through the foreign operations -/

/-- Constructing through a constructor reference is a new instance, wrapped. -/
theorem construct_run (hostId i : Nat) (k : ConstructorDef) (args : List Value) (n : Nat) :
    (construct (.native (.ref (.ctor hostId i k))) args).run n =
      memberOutcome (argumentRefusal k.params (args.map Value.toHost))
        (k.run (args.map Value.toHost)) true n := by
  rw [← newInstance_translated]
  rfl

/-- Invoking through a method reference on a receiver. -/
theorem invokeInstance_run (hostId i : Nat) (m : MethodDef) (receiver : Value) (args : List Value)
    (n : Nat) :
    (invokeInstance (.native (.ref (.method hostId i m))) receiver args).run n =
      memberOutcome
        ((receiverRefusal m (some receiver.toHost)).or (argumentRefusal m.params (args.map Value.toHost)))
        (m.run (some receiver.toHost) (args.map Value.toHost)) false n := by
  rw [← invoke_translated]
  rfl

/-- Invoking a resolved static method, with no receiver. -/
theorem invokeStatic_run (host : Host) (method cls : Value) (args : List Value) {m : MethodDef}
    (h : resolveStatic host method cls = .ok m) (n : Nat) :
    (invokeStatic host method cls args).run n =
      memberOutcome ((receiverRefusal m none).or (argumentRefusal m.params (args.map Value.toHost)))
        (m.run none (args.map Value.toHost)) false n := by
  rw [← invoke_translated]
  unfold invokeStatic
  rw [h]
  rfl

/-! ## Calls the checks admit -/

section Admitted

variable (host : Host) (hid slot n : Nat)

/-- CONSTRUCT through a constructor reference, on arguments the check admits: the body runs, and
the instance it makes comes back wrapped. -/
theorem dispatch_construct_of_admitted (k : ConstructorDef) (args : List Value)
    (hargs : argumentRefusal k.params (args.map Value.toHost) = none) :
    (dispatch host (.native (.ref (.ctor hid slot k)) :: args) 4).run n =
      (bodyOutcome ((k.run (args.map Value.toHost)).run n).1 true,
        ((k.run (args.map Value.toHost)).run n).2) := by
  have hslot : dispatch host (.native (.ref (.ctor hid slot k)) :: args) 4 =
      construct (.native (.ref (.ctor hid slot k))) args := by
    simp [dispatch, Operation.atSlot?, Operation.all, Operation.arity, Operation.run]
  rw [hslot, construct_run, hargs]
  rfl

/-- INVOKE-INSTANCE through a method reference, on a receiver and arguments the checks admit:
the body runs on them. -/
theorem dispatch_invokeInstance_of_admitted (m : MethodDef) (r : Value) (args : List Value)
    (hr : receiverRefusal m (some r.toHost) = none)
    (hargs : argumentRefusal m.params (args.map Value.toHost) = none) :
    (dispatch host (.native (.ref (.method hid slot m)) :: r :: args) 5).run n =
      (bodyOutcome ((m.run (some r.toHost) (args.map Value.toHost)).run n).1 false,
        ((m.run (some r.toHost) (args.map Value.toHost)).run n).2) := by
  have hslot : dispatch host (.native (.ref (.method hid slot m)) :: r :: args) 5 =
      invokeInstance (.native (.ref (.method hid slot m))) r args := by
    simp [dispatch, Operation.atSlot?, Operation.all, Operation.arity, Operation.run]
  rw [hslot, invokeInstance_run, hr, hargs]
  rfl

/-- INVOKE-STATIC through a reference to a static method, on arguments the check admits: the
body runs on them without a receiver, whatever the class operand. -/
theorem dispatch_invokeStatic_of_admitted (m : MethodDef) (cls : Value) (args : List Value)
    (hstatic : m.isStatic = true) (hargs : argumentRefusal m.params (args.map Value.toHost) = none) :
    (dispatch host (.native (.ref (.method hid slot m)) :: cls :: args) 3).run n =
      (bodyOutcome ((m.run none (args.map Value.toHost)).run n).1 false,
        ((m.run none (args.map Value.toHost)).run n).2) := by
  have hslot : dispatch host (.native (.ref (.method hid slot m)) :: cls :: args) 3 =
      invokeStatic host (.native (.ref (.method hid slot m))) cls args := by
    simp [dispatch, Operation.atSlot?, Operation.all, Operation.arity, Operation.run]
  have hreceiver : receiverRefusal m none = none := by simp [receiverRefusal, hstatic]
  rw [hslot, invokeStatic_run host _ cls args rfl, hreceiver, hargs]
  rfl

end Admitted

/-- Host failures translate uniformly. Through constructing, invoking an instance method and
invoking a static method, on any host, any member and any values: a call that the receiver check
or the argument check refuses fails with the check's message before the body runs, and changes
nothing; a call both checks admit runs the body, whose value comes back, or whose exception comes
back with its own message, or its type name when the message is missing or empty. -/
theorem host_failures_translate :
    (∀ (host : Host) (hostId i : Nat) (k : ConstructorDef) (args : List Value) (n : Nat),
      (Operation.construct.run host (.native (.ref (.ctor hostId i k)) :: args)).run n =
        memberOutcome (argumentRefusal k.params (args.map Value.toHost))
          (k.run (args.map Value.toHost)) true n) ∧
    (∀ (host : Host) (hostId i : Nat) (m : MethodDef) (receiver : Value) (args : List Value)
      (n : Nat),
      (Operation.invokeInstance.run host (.native (.ref (.method hostId i m)) :: receiver :: args)).run n =
        memberOutcome
          ((receiverRefusal m (some receiver.toHost)).or (argumentRefusal m.params (args.map Value.toHost)))
          (m.run (some receiver.toHost) (args.map Value.toHost)) false n) ∧
    (∀ (host : Host) (method cls : Value) (args : List Value) (m : MethodDef) (n : Nat),
      resolveStatic host method cls = .ok m →
      (Operation.invokeStatic.run host (method :: cls :: args)).run n =
        memberOutcome ((receiverRefusal m none).or (argumentRefusal m.params (args.map Value.toHost)))
          (m.run none (args.map Value.toHost)) false n) :=
  ⟨fun _ hostId i k args n => construct_run hostId i k args n,
    fun _ hostId i m receiver args n => invokeInstance_run hostId i m receiver args n,
    fun host method cls args _ n h => invokeStatic_run host method cls args h n⟩

/-- A static method whose body raises a wrapper without a message and with a cause that cannot be
read: the host's own wrapper is the only one taken off, so the failure names the body's wrapper
by its type. -/
theorem unretrievable_cause_names_wrapper :
    let body : HostException :=
      (HostException.withoutMessage invocationTargetType).withUnretrievableCause
        (.new runtimeType "cause unavailable")
    let m : MethodDef :=
      { owner := "test.Broken", name := "run", params := [], isPublic := true, isStatic := true,
        body := .raises body }
    let host : Host := ⟨0, .empty⟩
    resolveStatic host (.native (.ref (.method 0 0 m))) (.str "test.Broken") = .ok m ∧
      (Operation.invokeStatic.run host [.native (.ref (.method 0 0 m)), .str "test.Broken"]).run 0 =
        (.error (.invocationFailure "lang.reflect.InvocationTargetException"), 0) := by
  intro body m host
  have hres : resolveStatic host (.native (.ref (.method 0 0 m))) (.str "test.Broken") = .ok m := rfl
  refine ⟨hres, ?_⟩
  rw [host_failures_translate.2.2 host _ _ [] m 0 hres]
  rfl

end Foreign

end HostInterop

import HostInterop.Session
import HostInterop.Proofs.Cells

/-!
# The gate of a call

Every entry point of a callable passes one gate before anything runs (`Callable.gate`). This
module names what the gate decides (`Callable.admits`: a target is there, and the arity accepts
the count) and says what a call does in each case, once for all entry points:

* a refused call fails with an undefined function or a wrong number of arguments, naming the
  callable, and leaves the whole session as it was (`enter_of_refused`);
* an admitted call counts the callable once more and runs its target, and changes nothing else
  of the registry (`enter_of_admits`, `enter_registry`).
-/

set_option linter.dupNamespace false

namespace HostInterop

open Registry

namespace Registry.Callable

/-- Whether the gate admits a call with `argc` arguments: the callable has a target, and its
arity accepts the count. -/
def admits (c : Callable) (argc : Nat) : Bool :=
  match c.target with
  | .unbound => false
  | _ => c.arity.accepts argc

/-- An admitted call counts the callable once more. -/
theorem gate_of_admits {c : Callable} {argc : Nat} (h : c.admits argc = true) :
    c.gate argc = .ok { c with count := c.count + 1 } := by
  unfold admits at h
  unfold gate
  cases ht : c.target <;> simp only [ht] at h ⊢ <;> simp_all

/-- A refused call fails as an undefined function when there is no target, and as a wrong
number of arguments, naming the callable, otherwise. -/
theorem gate_of_refused {c : Callable} {argc : Nat} (h : c.admits argc = false) :
    c.gate argc = .error (match c.target with
      | .unbound => .undefinedFunction c.displayName
      | _ => .wrongNumberOfArguments c.displayName argc) := by
  unfold admits at h
  unfold gate
  cases ht : c.target <;> simp only [ht] at h ⊢ <;> simp [h]

/-- The gate changes nothing but the count. -/
theorem gate_eq_ok {c c' : Callable} {argc : Nat} (h : c.gate argc = .ok c') :
    c.admits argc = true ∧ c' = { c with count := c.count + 1 } := by
  cases hadm : c.admits argc
  · rw [gate_of_refused hadm] at h; cases h
  · rw [gate_of_admits hadm] at h; cases h; exact ⟨rfl, rfl⟩

end Registry.Callable

namespace Session

/-- A call of a number with no callable fails and changes nothing. -/
theorem enter_of_none {s : Session} {f : Nat} (h : s.registry.callable? f = none) (entry : Entry)
    (args : List Value) : s.enter f entry args = (.error (.undefinedFunction "(unknown)"), s) := by
  simp [enter, h]

/-- A call the gate refuses fails as an undefined function or a wrong number of arguments,
naming the callable, and changes nothing. -/
theorem enter_of_refused {s : Session} {f : Nat} {c : Callable} (hc : s.registry.callable? f = some c)
    {entry : Entry} {args : List Value} (h : c.admits args.length = false) :
    s.enter f entry args = (.error (match c.target with
      | .unbound => .undefinedFunction c.displayName
      | _ => .wrongNumberOfArguments c.displayName args.length), s) := by
  simp only [enter, hc, Callable.gate_of_refused h]

/-- A call the gate admits counts the callable once more and runs its target. -/
theorem enter_of_admits {s : Session} {f : Nat} {c : Callable} (hc : s.registry.callable? f = some c)
    {entry : Entry} {args : List Value} (h : c.admits args.length = true) :
    s.enter f entry args =
      (((c.runTarget entry args).run s.supply).1, { s with
        registry := s.registry.updateCallable f fun _ => { c with count := c.count + 1 },
        supply := ((c.runTarget entry args).run s.supply).2 }) := by
  simp only [enter, hc, Callable.gate_of_admits h]
  rfl

/-- A call leaves the registry as it was, or counts one existing callable once more. -/
theorem enter_registry (s : Session) (f : Nat) (entry : Entry) (args : List Value) :
    (s.enter f entry args).2.registry = s.registry ∨
      ∃ c, s.registry.callable? f = some c ∧ c.admits args.length = true ∧
        (s.enter f entry args).2.registry =
          s.registry.updateCallable f fun _ => { c with count := c.count + 1 } := by
  cases hc : s.registry.callable? f with
  | none => exact .inl (by rw [enter_of_none hc])
  | some c =>
    cases hadm : c.admits args.length
    · exact .inl (by rw [enter_of_refused hc hadm])
    · exact .inr ⟨c, rfl, hadm, by rw [enter_of_admits hc hadm]⟩

/-- Looking a function up and applying it is a call of the function found, or a failed lookup
that changes nothing. -/
theorem call_eq (s : Session) (name : String) (args : List Value) :
    s.call name args = match s.function? name with
      | .error e => (.error e, s)
      | .ok f => s.enter f (Entry.route args) args := rfl

end Session

end HostInterop

import HostInterop.Proofs.Gate

/-!
# The fixed-arity entry points agree with the general one

A callable has an entry point for none, one and two arguments and a general one, and
`Session.apply` routes a list of arguments to them by its length. Only one entry differs in what
it runs: the one-argument entry of the foreign table answers a class resolution at once, without
the table's own arity check. Every other entry of every table runs the general one. This module
shows that routing by count changes nothing.

* `Foreign.dispatch_resolveClass`: on one argument the general entry of the foreign table admits
  class resolution, and resolves.
* `Foreign.dispatchOne_eq_dispatch`, `Table.dispatchOne_eq_dispatch`: the one-argument entry of
  every table, at every slot, is the general entry on that one argument.
* `Callable.runTarget_entry`: a callable's target runs alike through every entry.
* `Session.enter_entry`: a call through any entry is the call through the general entry, with the
  same outcome and the same session, so with the same counts.
* `Session.apply_agrees_with_call`: routing by count is calling the general entry.
-/

namespace HostInterop

open Host Registry

namespace Foreign

/-- The general entry of the foreign table, at the slot of class resolution and on one argument,
resolves the class: the arity of the slot admits exactly one argument. -/
theorem dispatch_resolveClass (host : Host) (arg : Value) :
    dispatch host [arg] 0 = pure (classValue host arg) := by
  have hslot : Operation.atSlot? 0 = some .resolveClass := rfl
  have haccepts : Operation.resolveClass.arity.accepts [arg].length = true := rfl
  rw [dispatch, hslot]
  simp only [haccepts, if_true]
  rfl

/-- The one-argument entry of the foreign table is its general entry on that argument, at every
slot. -/
theorem dispatchOne_eq_dispatch (host : Host) (arg : Value) (index : Nat) :
    dispatchOne host arg index = dispatch host [arg] index := by
  unfold dispatchOne
  by_cases h : index = 0
  · -- the fast path of class resolution skips the arity check, which would admit the call
    subst h
    rw [if_pos (beq_self_eq_true 0), dispatch_resolveClass]
  · rw [if_neg (by simpa using h)]

end Foreign

/-- The one-argument entry of every table is its general entry on that argument. -/
theorem Registry.Table.dispatchOne_eq_dispatch (t : Table) (arg : Value) (index : Nat) :
    t.dispatchOne arg index = t.dispatch [arg] index := by
  cases t with
  | slots name entries => rfl
  | foreign host => exact Foreign.dispatchOne_eq_dispatch host arg index

/-- A callable's target runs alike through every entry point: the general entry is what each of
them runs. -/
theorem Registry.Callable.runTarget_entry (c : Callable) (entry : Entry) (args : List Value) :
    c.runTarget entry args = c.runTarget .many args := by
  unfold Callable.runTarget
  cases c.target with
  | unbound => rfl
  | native body => rfl
  | table t i =>
    -- only the one-argument entry on one argument takes another path
    dsimp only
    split
    · rename_i a
      exact Table.dispatchOne_eq_dispatch t a i
    · rfl

namespace Session

/-- A call through any entry point is the call through the general entry: the same outcome and
the same session after it. -/
theorem enter_entry (s : Session) (f : Nat) (entry : Entry) (args : List Value) :
    s.enter f entry args = s.enter f .many args := by
  simp only [enter, Callable.runTarget_entry]

/-- The fixed-arity fast paths agree with the general path. Every table's one-argument entry is
its general entry on that argument, at every slot (the foreign table's fast path for class
resolution included); and applying any callable to any arguments, which routes none, one and two
arguments to their own entries, has the outcome and leaves the session, with every call count,
exactly as calling its general entry does. -/
theorem apply_agrees_with_call :
    (∀ (t : Table) (arg : Value) (index : Nat), t.dispatchOne arg index = t.dispatch [arg] index) ∧
    ∀ (s : Session) (f : Nat) (args : List Value), s.apply f args = s.enter f .many args :=
  ⟨Table.dispatchOne_eq_dispatch, fun s f args => enter_entry s f (Entry.route args) args⟩

end Session

end HostInterop

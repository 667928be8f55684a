import HostInterop.Proofs.ForeignArity
import HostInterop.Proofs.EntryPoints

/-!
# The foreign table answers every call

The foreign table is reached with a slot number and a list of arguments, through its general entry
or through its one-argument entry. Every such call gets one of three answers, fixed by the slot
and the count of arguments (`dispatch_answers_every_slot`):

* a slot from the seventh on is an undefined function named `FOREIGN[i]`;
* a count the slot's arity refuses is a wrong number of arguments for the slot's operation;
* otherwise the operation's own code runs, and it never fails for want of arguments.

The last point is the table's bounds safety. Each operation reads its leading arguments by
position (the class name, then a method name or member reference, then a receiver or class), and
its code has a separate answer for a list too short for those reads. The arity of every slot
admits only lists long enough (`arityFree_run`), so that answer is never given. The one-argument
entry resolves a class at once without the arity check, which on one argument would pass; it
answers as the general entry does at every slot (`dispatchOne_eq_dispatch`).
-/

namespace HostInterop.Foreign

open Host

/-- The table has exactly six slots. -/
theorem Operation.atSlot?_eq_none_iff (index : Nat) : Operation.atSlot? index = none ↔ 6 ≤ index := by
  rw [Operation.atSlot?, List.getElem?_eq_none_iff]
  rfl

/-! ## The three answers of the general entry -/

section Dispatch

variable (host : Host) {args : List Value} {index : Nat}

theorem dispatch_of_atSlot?_none (hop : Operation.atSlot? index = none) (args : List Value) :
    dispatch host args index =
      pure (.error (.undefinedFunction ("FOREIGN[" ++ Nat.repr index ++ "]"))) := by
  rw [dispatch, hop]

theorem dispatch_of_refused {op : Operation} (hop : Operation.atSlot? index = some op)
    (h : op.arity.accepts args.length = false) :
    dispatch host args index = pure (.error (.wrongNumberOfArguments op.name args.length)) := by
  simp only [dispatch, hop, h, Bool.false_eq_true, if_false]

theorem dispatch_of_accepted {op : Operation} (hop : Operation.atSlot? index = some op)
    (h : op.arity.accepts args.length = true) : dispatch host args index = op.run host args := by
  simp only [dispatch, hop, h, if_true]

end Dispatch

/-- The foreign table answers every call, through either entry, and the answer is fixed by the
slot and the count of arguments. The one-argument entry answers as the general entry on that
argument. The general entry answers a slot from the seventh on with an undefined function
`FOREIGN[i]`, and a count the slot's arity refuses with a wrong number of arguments naming the
operation, both without drawing an object. On every other call it runs the slot's operation,
which then fails, if it fails, in some other way than by a count of arguments: its reads of
leading arguments are all within the list. -/
theorem dispatch_answers_every_slot (host : Host) (args : List Value) (index : Nat) :
    (∀ arg, dispatchOne host arg index = dispatch host [arg] index) ∧
    ((6 ≤ index ∧ dispatch host args index =
        pure (.error (.undefinedFunction ("FOREIGN[" ++ Nat.repr index ++ "]")))) ∨
      (∃ op, index < 6 ∧ Operation.atSlot? index = some op ∧ op.arity.accepts args.length = false ∧
        dispatch host args index = pure (.error (.wrongNumberOfArguments op.name args.length))) ∨
      (∃ op, index < 6 ∧ Operation.atSlot? index = some op ∧ op.arity.accepts args.length = true ∧
        dispatch host args index = op.run host args ∧
        ∀ n, arityFree (((op.run host args).run n).1) = true)) := by
  refine ⟨fun arg => dispatchOne_eq_dispatch host arg index, ?_⟩
  cases hop : Operation.atSlot? index with
  | none =>
    exact .inl ⟨(Operation.atSlot?_eq_none_iff index).mp hop, dispatch_of_atSlot?_none host hop args⟩
  | some op =>
    have hlt : index < 6 := by
      have hsome : ¬ 6 ≤ index := mt (Operation.atSlot?_eq_none_iff index).mpr (by simp [hop])
      omega
    -- the table's own check decides between refusing and running the operation
    cases hacc : op.arity.accepts args.length with
    | false => exact .inr (.inl ⟨op, hlt, rfl, hacc, dispatch_of_refused host hop hacc⟩)
    | true =>
      exact .inr (.inr ⟨op, hlt, rfl, hacc, dispatch_of_accepted host hop hacc,
        fun n => arityFree_run hacc host n⟩)

end HostInterop.Foreign

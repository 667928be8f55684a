import HostInterop.Proofs.Registration
import Mathlib

/-!
# The foreign table agrees with the gate

A callable installed for a foreign operation passes two arity checks: its own gate, and the
foreign table's check before the operation runs. Both read the operation's arity, so a call the
gate admits is admitted again by the table, and nothing the operation does afterwards fails with
a wrong number of arguments: resolving names, invoking members and translating host exceptions
fail in other ways (`arityFree`). So every wrong number of arguments such a callable reports
comes from its gate: the call was not counted, the session is unchanged, and the error names the
operation (`Session.enter_foreign_wrongNumber`).
-/

set_option linter.dupNamespace false

namespace HostInterop

open Host Registry

/-- Whether a failure is a wrong number of arguments. -/
def RuntimeError.isWrongNumber : RuntimeError → Bool
  | .wrongNumberOfArguments _ _ => true
  | _ => false

/-- Whether an outcome is anything but a wrong number of arguments. -/
def arityFree {α : Type} : Except RuntimeError α → Bool
  | .error e => !e.isWrongNumber
  | .ok _ => true

section ArityFree

variable {α β : Type}

theorem arityFree_bind {x : Except RuntimeError α} {f : α → Except RuntimeError β}
    (hx : arityFree x = true) (hf : ∀ a, arityFree (f a) = true) : arityFree (x >>= f) = true := by
  cases x with
  | error e => exact hx
  | ok a => exact hf a

theorem arityFree_map {x : Except RuntimeError α} (f : α → β) (hx : arityFree x = true) :
    arityFree (f <$> x) = true := by
  cases x with
  | error e => exact hx
  | ok a => rfl

theorem arityFree_mapM {f : α → Except RuntimeError β} (hf : ∀ a, arityFree (f a) = true) :
    ∀ l : List α, arityFree (l.mapM f) = true
  | [] => rfl
  | a :: l => by
    rw [List.mapM_cons]
    exact arityFree_bind (hf a) fun _ => arityFree_bind (arityFree_mapM hf l) fun _ => rfl

end ArityFree

namespace Foreign

/-! ## Resolving and invoking never count arguments -/

theorem arityFree_nameOperand (v : Value) : arityFree (nameOperand v) = true := by
  unfold nameOperand; split <;> rfl

theorem arityFree_resolveClass (host : Host) (name : String) :
    arityFree (resolveClass host name) = true := by
  unfold resolveClass; split <;> rfl

theorem arityFree_typeForName (host : Host) (name : String) :
    arityFree (typeForName host name) = true := by
  unfold typeForName
  split
  · rfl
  · exact arityFree_map _ (arityFree_resolveClass host name)

theorem arityFree_resolveConstructor (host : Host) (className : String) (typeNames : List String) :
    arityFree (resolveConstructor host className typeNames) = true := by
  unfold resolveConstructor
  refine arityFree_bind (arityFree_resolveClass host className) fun c => ?_
  refine arityFree_bind (arityFree_mapM (arityFree_typeForName host) typeNames) fun params => ?_
  split <;> rfl

theorem arityFree_resolveMethod (host : Host) (className methodName : String)
    (typeNames : List String) : arityFree (resolveMethod host className methodName typeNames) = true := by
  unfold resolveMethod
  refine arityFree_bind (arityFree_resolveClass host className) fun c => ?_
  dsimp only
  -- the lookup, with or without parameter types, then the same ending on what it found
  split
  · exact arityFree_bind rfl fun found => by split <;> rfl
  · exact arityFree_bind (arityFree_mapM (arityFree_typeForName host) typeNames) fun _ =>
      arityFree_bind rfl fun found => by split <;> rfl

theorem arityFree_classOperand (host : Host) (v : Value) : arityFree (classOperand host v) = true := by
  unfold classOperand
  split
  · rfl
  · exact arityFree_resolveClass host _
  · rfl

theorem arityFree_resolveStatic (host : Host) (method cls : Value) :
    arityFree (resolveStatic host method cls) = true := by
  unfold resolveStatic
  split
  · rfl
  · rfl
  · refine arityFree_bind (arityFree_nameOperand method) fun name => ?_
    refine arityFree_bind (arityFree_classOperand host cls) fun c => ?_
    split <;> rfl

/-- A host outcome never becomes a wrong number of arguments: exceptions become invocation
failures. -/
theorem arityFree_fromHost (out : Except HostException HostValue) (wrap : Bool) :
    arityFree (fromHost out wrap) = true := by
  unfold fromHost; split <;> rfl

theorem arityFree_classValue (host : Host) (name : Value) : arityFree (classValue host name) = true := by
  unfold classValue
  exact arityFree_bind (arityFree_nameOperand name) fun n =>
    arityFree_bind (arityFree_resolveClass host n) fun _ => rfl

theorem arityFree_construct (ctor : Value) (args : List Value) (n : Nat) :
    arityFree (((construct ctor args).run n).1) = true := by
  unfold construct
  split
  · exact arityFree_fromHost _ true
  · rfl

theorem arityFree_invokeInstance (method receiver : Value) (args : List Value) (n : Nat) :
    arityFree (((invokeInstance method receiver args).run n).1) = true := by
  unfold invokeInstance
  split
  · exact arityFree_fromHost _ false
  · rfl

theorem arityFree_invokeStatic (host : Host) (method cls : Value) (args : List Value) (n : Nat) :
    arityFree (((invokeStatic host method cls args).run n).1) = true := by
  unfold invokeStatic
  split
  · rename_i e he
    have := arityFree_resolveStatic host method cls
    rw [he] at this
    exact this
  · exact arityFree_fromHost _ false

/-! ## The table's own check -/

/-- An operation run on a count of arguments its arity admits never fails with a wrong number of
arguments: the arity fixes the shape of the argument list, and each shape reaches the
operation's own code. -/
theorem arityFree_run {op : Operation} {args : List Value} (h : op.arity.accepts args.length = true)
    (host : Host) (n : Nat) : arityFree (((op.run host args).run n).1) = true := by
  -- split the arguments as deep as the longest fixed prefix, two; the arity rules out the rest
  rcases args with _ | ⟨a, _ | ⟨b, rest⟩⟩ <;> cases op <;>
    simp only [Operation.arity, Arity.accepts_exact, Arity.accepts_atLeast, List.length_cons,
      List.length_nil, beq_iff_eq, decide_eq_true_eq] at h <;>
    simp only [Operation.run]
  all_goals first
    | omega
    | exact arityFree_classValue host a
    | exact arityFree_construct a _ n
    | exact arityFree_invokeStatic host a b rest n
    | exact arityFree_invokeInstance a b rest n
    | exact arityFree_bind (arityFree_nameOperand a) fun _ =>
        arityFree_bind (arityFree_mapM (arityFree_nameOperand) _) fun _ =>
          arityFree_bind (arityFree_resolveConstructor host _ _) fun _ => rfl
    | exact arityFree_bind (arityFree_nameOperand a) fun _ =>
        arityFree_bind (arityFree_nameOperand b) fun _ =>
          arityFree_bind (arityFree_mapM (arityFree_nameOperand) _) fun _ =>
            arityFree_bind (arityFree_resolveMethod host _ _ _) fun _ => rfl

/-- The table admits again what the gate admitted: the operation at the slot runs, and does not
fail with a wrong number of arguments. -/
theorem arityFree_dispatch {host : Host} {args : List Value} {index : Nat} {op : Operation}
    (hop : Operation.atSlot? index = some op) (h : op.arity.accepts args.length = true) (n : Nat) :
    arityFree (((dispatch host args index).run n).1) = true := by
  unfold dispatch
  rw [hop]
  simp only [h, if_true]
  exact arityFree_run h host n

theorem arityFree_dispatchOne {host : Host} {arg : Value} {index : Nat} {op : Operation}
    (hop : Operation.atSlot? index = some op) (h : op.arity.accepts 1 = true) (n : Nat) :
    arityFree (((dispatchOne host arg index).run n).1) = true := by
  unfold dispatchOne
  split
  · exact arityFree_classValue host arg
  · exact @arityFree_dispatch host [arg] index op hop h n

end Foreign

namespace Registry.Callable

/-- A callable for a foreign operation: named for the operation at its slot of a foreign table,
with the operation's arity. The foreign operations are installed as such callables. -/
structure ForeignOp (c : Callable) (op : Foreign.Operation) : Prop where
  host : ∃ host i, c.target = .table (.foreign host) i ∧ Foreign.Operation.atSlot? i = some op
  arity : c.arity = op.arity
  name : c.name = some op.name

/-- A callable equal to a foreign-operation callable up to its home is one too. -/
theorem ForeignOp.of_unhome {c c' : Callable} {op : Foreign.Operation} (hc : c.ForeignOp op)
    (h : { c' with home := none } = { c with home := none }) : c'.ForeignOp op := by
  have hn := congrArg Callable.name h
  have ha := congrArg Callable.arity h
  have ht := congrArg Callable.target h
  obtain ⟨host, i, hti, hop⟩ := hc.host
  exact ⟨⟨host, i, ht.trans hti, hop⟩, ha.trans hc.arity, hn.trans hc.name⟩

/-- The target of a foreign-operation callable, run on arguments its arity admits, never fails
with a wrong number of arguments. -/
theorem ForeignOp.arityFree_runTarget {c : Callable} {op : Foreign.Operation} (hc : c.ForeignOp op)
    (entry : Entry) {args : List Value} (h : c.arity.accepts args.length = true) (n : Nat) :
    arityFree (((c.runTarget entry args).run n).1) = true := by
  obtain ⟨host, i, ht, hop⟩ := hc.host
  rw [hc.arity] at h
  unfold runTarget
  rw [ht]
  dsimp only
  split
  · exact Foreign.arityFree_dispatchOne hop h n
  · exact Foreign.arityFree_dispatch hop h n

end Registry.Callable

set_option maxRecDepth 100000 in
/-- The operations' names are upper-cased already, so a callable made for an operation carries
the operation's name as it is. -/
theorem Foreign.Operation.upper_name (op : Foreign.Operation) : Text.upper op.name = op.name := by
  cases op <;> decide +kernel

namespace Registry.Registry

/-- The foreign operations are installed at their own slots. -/
theorem atSlot?_of_mem_slots :
    ∀ p ∈ Foreign.Operation.all.zip (List.range 6), Foreign.Operation.atSlot? p.2 = some p.1 := by
  decide

/-- Every callable numbered from `n` on is a foreign-operation callable. -/
def ForeignFrom (reg : Registry) (n : Nat) : Prop :=
  ∀ g c, n ≤ g → reg.callable? g = some c → ∃ op, Callable.ForeignOp c op

/-- Adding a foreign-operation callable keeps every callable from `n` on one. -/
theorem ForeignFrom.addIn {reg : Registry} {n : Nat} (h : reg.ForeignFrom n) {c : Callable}
    {op : Foreign.Operation} (hc : c.ForeignOp op) (key : String) : (reg.addIn c key).1.ForeignFrom n := by
  intro g c' hg hc'
  have hz := callable?_addIn reg c key g
  rw [hc'] at hz
  split_ifs at hz with hlt heq
  · -- an old callable, the same up to its home
    cases hd : reg.callable? g with
    | none => rw [hd] at hz; cases hz
    | some d =>
      rw [hd] at hz
      obtain ⟨op', hop'⟩ := h g d hg hd
      exact ⟨op', hop'.of_unhome (Option.some.inj hz)⟩
  · exact ⟨op, hc.of_unhome (Option.some.inj hz)⟩
  · cases hz

/-- The callable made for the operation at a slot of a foreign table is a foreign-operation
callable. -/
theorem foreignOp_make {op : Foreign.Operation} {i : Nat} (hop : Foreign.Operation.atSlot? i = some op)
    (host : Host) : (Callable.make (some op.name) op.arity (.table (.foreign host) i)).ForeignOp op :=
  ⟨⟨host, i, rfl, hop⟩, rfl, congrArg some (Foreign.Operation.upper_name op)⟩

/-- Every callable that installing the foreign operations adds is a foreign-operation callable. -/
theorem installForeign_foreignOp (reg : Registry) (host : Host) (package : String)
    (exportNames : Bool) {g : Nat} {c : Callable} (hg : reg.callables.length ≤ g)
    (hc : (reg.installForeign host package exportNames).1.callable? g = some c) :
    ∃ op, c.ForeignOp op := by
  -- no callable is numbered from the first new one on before the installation
  have hstart : (reg.ensurePackage package).1.ForeignFrom reg.callables.length := by
    intro g c hg hc
    rw [callable?_ensurePackage, callable?, List.getElem?_eq_none hg] at hc
    cases hc
  unfold Registry.installForeign at hc
  generalize reg.ensurePackage package = e at hstart hc
  obtain ⟨r₀, key⟩ := e
  refine foldl_invariant (fun acc : Registry × List Nat => acc.1.ForeignFrom reg.callables.length)
    _ _ (r₀, []) (fun acc entry hentry hacc => ?_) hstart g c hg hc
  obtain ⟨op, i⟩ := entry
  -- exporting a name keeps the callables
  have hexp : ∀ r : Registry,
      (if exportNames then r.updatePackage key (fun p => (p.exportName op.name).1) else r).ForeignFrom
        reg.callables.length ↔ r.ForeignFrom reg.callables.length := fun r => by split <;> rfl
  exact (hexp _).mpr (hacc.addIn (foreignOp_make (atSlot?_of_mem_slots _ hentry) host) key)

end Registry.Registry

namespace Session

/-- A wrong number of arguments from a foreign-operation callable comes from its gate: the call
was not counted, the session is unchanged, and the error names the operation. -/
theorem enter_foreign_wrongNumber {s : Session} {f : Nat} {c : Callable} {op : Foreign.Operation}
    (hc : s.registry.callable? f = some c) (hop : c.ForeignOp op) {entry : Entry}
    {args : List Value} {name : String} {argc : Nat}
    (h : (s.enter f entry args).1 = .error (.wrongNumberOfArguments name argc)) :
    (s.enter f entry args).2 = s ∧ name = op.name ∧ argc = args.length := by
  cases hadm : c.admits args.length
  · obtain ⟨host, i, ht, -⟩ := hop.host
    rw [enter_of_refused hc hadm] at h ⊢
    simp only [ht, Except.error.injEq, RuntimeError.wrongNumberOfArguments.injEq] at h
    refine ⟨rfl, ?_, h.2.symm⟩
    rw [← h.1, Callable.displayName, hop.name]
    rfl
  · have hacc : c.arity.accepts args.length = true := by
      unfold Callable.admits at hadm
      split at hadm
      · cases hadm
      · exact hadm
    have hfree := hop.arityFree_runTarget entry hacc s.supply
    rw [enter_of_admits hc hadm] at h
    rw [h] at hfree
    cases hfree

end Session

end HostInterop

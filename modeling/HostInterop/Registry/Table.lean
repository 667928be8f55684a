import HostInterop.Foreign.Operation

/-!
# Dispatch tables

A dispatch table is one dispatcher behind many callables, each addressed by a slot number. A
table of slots holds a body per slot, under an upper-cased name and with an arity; it runs the
slot's body and leaves the arity to the callable that forwards to it. The foreign table runs
the six foreign operations over a host and checks each operation's own arity. A slot that is
not there is the undefined function `TABLE[i]`.

Every table has a general entry, `dispatch`, and a one-argument entry, `dispatchOne`, which for
the foreign table goes straight to class resolution.
-/

namespace HostInterop.Registry

open Host

/-- A slot of a table: its upper-cased name, its arity and its body. -/
structure Slot where
  /-- The slot's name, upper-cased. -/
  name : String
  /-- The arity a callable bound to the slot gets. -/
  arity : Arity
  /-- What the slot does with its arguments. -/
  run : List Value → Except RuntimeError Value

/-- A group of call targets addressed by slot number. -/
inductive Table where
  /-- A table of slots, with the name it was given. -/
  | slots (name : String) (entries : List Slot)
  /-- The foreign operations over a host. -/
  | foreign (host : Host)

namespace Table

/-- A table of slots; slot names are upper-cased. -/
def ofSlots (name : String) (entries : List (String × Arity × (List Value → Except RuntimeError Value))) :
    Table :=
  .slots name (entries.map fun e => ⟨Text.upper e.1, e.2.1, e.2.2⟩)

/-- The table's name, as undefined slots and callable descriptions show it. -/
def name : Table → String
  | .slots n _ => n
  | .foreign _ => "FOREIGN"

/-- The slots of a table of slots; the foreign table lists none. -/
def entries : Table → List Slot
  | .slots _ es => es
  | .foreign _ => []

/-- The slot of a table of slots at `index`, as `NAME[index]` when it is missing. -/
def slotName (t : Table) (index : Nat) : String := t.name ++ "[" ++ Nat.repr index ++ "]"

/-- The general entry: run slot `index` on the arguments. -/
def dispatch (t : Table) (args : List Value) (index : Nat) : HostM (Except RuntimeError Value) :=
  match t with
  | .slots _ es =>
    match es[index]? with
    | some s => pure (s.run args)
    | none => pure (.error (.undefinedFunction (t.slotName index)))
  | .foreign host => Foreign.dispatch host args index

/-- The one-argument entry. -/
def dispatchOne (t : Table) (arg : Value) (index : Nat) : HostM (Except RuntimeError Value) :=
  match t with
  | .slots .. => t.dispatch [arg] index
  | .foreign host => Foreign.dispatchOne host arg index

end Table

/-- A slot as written in a table's description: `Slot { name: "NEG", arity: Exact(1) }`. -/
def Slot.text (s : Slot) : String :=
  "Slot \x7b name: " ++ Text.quote s.name ++ ", arity: " ++ s.arity.text ++ " \x7d"

end HostInterop.Registry

/-!
# Arities

How many arguments a callable accepts: exactly `n`, at least `n`, or any count in an inclusive
range. A range whose bounds are the wrong way round accepts nothing. The smallest accepted count
is the first bound in every case.
-/

namespace HostInterop

/-- The argument counts a callable accepts. -/
inductive Arity where
  /-- Exactly `n` arguments. -/
  | exact (n : Nat)
  /-- `n` arguments or more. -/
  | atLeast (n : Nat)
  /-- From `lo` to `hi` arguments, both included. -/
  | range (lo hi : Nat)
  deriving DecidableEq

namespace Arity

/-- Whether a call with `argc` arguments is admitted. -/
def accepts : Arity → Nat → Bool
  | exact n, argc => argc == n
  | atLeast n, argc => n ≤ argc
  | range lo hi, argc => lo ≤ argc && argc ≤ hi

/-- The first bound of the arity. -/
def min : Arity → Nat
  | exact n => n
  | atLeast n => n
  | range lo _ => lo

/-- The arity as written in a callable's description: `Exact(1)`, `AtLeast(0)`, `Range(1, 3)`. -/
def text : Arity → String
  | exact n => "Exact(" ++ Nat.repr n ++ ")"
  | atLeast n => "AtLeast(" ++ Nat.repr n ++ ")"
  | range lo hi => "Range(" ++ Nat.repr lo ++ ", " ++ Nat.repr hi ++ ")"

@[simp] theorem accepts_exact (n argc : Nat) : (exact n).accepts argc = (argc == n) := rfl

@[simp] theorem accepts_atLeast (n argc : Nat) : (atLeast n).accepts argc = decide (n ≤ argc) :=
  rfl

@[simp] theorem accepts_range (lo hi argc : Nat) :
    (range lo hi).accepts argc = (decide (lo ≤ argc) && decide (argc ≤ hi)) := rfl

/-- A range with its bounds the wrong way round accepts no count. -/
theorem accepts_range_of_lt {lo hi : Nat} (h : hi < lo) (argc : Nat) :
    (range lo hi).accepts argc = false := by
  simp only [accepts_range, Bool.and_eq_false_iff, decide_eq_false_iff_not, Nat.not_le]
  omega

/-- Every admitted count is at least the first bound. -/
theorem min_le_of_accepts {a : Arity} {argc : Nat} (h : a.accepts argc = true) : a.min ≤ argc := by
  cases a <;> simp_all [accepts, min]

end Arity

end HostInterop

import HostInterop.Host.ClassPath
import Mathlib

/-!
# Crossing to the host and back

Arguments cross to the host by `Value.toHost` and results come back by `HostValue.toValue`. The two
are not inverse: a character crosses as a host character, which has no interpreter counterpart and
comes back wrapped, and a wrapper crosses as the host value inside it, which comes back as its
interpreter counterpart when it has one (`HostValue.unwrapsOnReturn`). Every other value crosses as
itself and comes back unchanged, structurally: a NaN float, a callable and a symbol included
(`Value.toValue_toHost_except_seams`).

A result fed back in as an argument is accepted wherever the host value it came from was
(`Host.accepts_toHost_toValue`). Acceptance reads an argument in five ways (as a boolean, an
integer, a float, a null, or an instance of a class), and each reading survives the round trip
(`asBool?_toHost_toValue`, `asInt?_toHost_toValue`, `asFloat?_toHost_toValue`,
`isNull_toHost_toValue`, `className?_toHost_toValue`); a host character, the one argument a char
parameter takes, comes back wrapped and crosses again as itself.
-/

namespace HostInterop

namespace HostValue

/-- Whether a host value comes back as an interpreter value of its own rather than wrapped: null,
a boolean, an int or a long, a host string, or a handed-over interpreter value. -/
def unwrapsOnReturn : HostValue → Bool
  | .null | .boolean _ | .int _ | .long _ | .str _ | .interp _ => true
  | _ => false

/-- A host value without an interpreter counterpart comes back wrapped. -/
theorem toValue_of_unwrapsOnReturn_false {h : HostValue} (hw : h.unwrapsOnReturn = false) :
    h.toValue = .native h := by
  cases h <;> first | rfl | cases hw

/-- A host value that comes back wrapped crosses again as itself. -/
theorem toHost_toValue_of_unwrapsOnReturn_false {h : HostValue} (hw : h.unwrapsOnReturn = false) :
    h.toValue.toHost = h := by
  rw [toValue_of_unwrapsOnReturn_false hw]
  rfl

/-! ## The readings of acceptance survive the round trip -/

/-- A boolean a host value holds, as a host boolean, `T` or `NIL`, is held by what it comes back
as. -/
theorem asBool?_toHost_toValue {h : HostValue} {b : Bool} (hb : h.asBool? = some b) :
    h.toValue.toHost.asBool? = some b := by
  cases h with
  | boolean b' => cases b' <;> exact hb
  | interp v => cases v <;> simp_all [asBool?, toValue, Value.toHost]
  | _ => cases hb

/-- An integer a host value holds, at any width, is held by what it comes back as. -/
theorem asInt?_toHost_toValue {h : HostValue} {n : Int64} (hn : h.asInt? = some n) :
    h.toValue.toHost.asInt? = some n := by
  cases h with
  | interp v =>
    -- only an interpreter integer is read as an integer, and it crosses again unchanged
    cases v <;> simp_all [asInt?, toValue, Value.toHost]
  | byte _ | short _ => exact hn
  | int m => simpa [asInt?, toValue, Value.toHost] using hn
  | long m => simpa [asInt?, toValue, Value.toHost] using hn
  | _ => cases hn

/-- A float a host value holds, or the float an integer converts to, is held by what it comes
back as. -/
theorem asFloat?_toHost_toValue {h : HostValue} {x : Float} (hx : h.asFloat? = some x) :
    h.toValue.toHost.asFloat? = some x := by
  cases h with
  | float _ | double _ | byte _ | short _ => exact hx
  | int m => simpa [asFloat?, asInt?, toValue, Value.toHost] using hx
  | long m => simpa [asFloat?, asInt?, toValue, Value.toHost] using hx
  | interp v => cases v <;> simp_all [asFloat?, asInt?, toValue, Value.toHost]
  | _ => cases hx

/-- Null comes back as `NIL`, which crosses again as a null. -/
theorem isNull_toHost_toValue {h : HostValue} (hn : h.isNull = true) :
    h.toValue.toHost.isNull = true := by
  cases h with
  | null => rfl
  | interp v => cases v <;> simp_all [isNull, toValue, Value.toHost]
  | _ => cases hn

/-- A host string comes back as a text and an object comes back wrapped; both cross again as
themselves, of the same class. -/
theorem className?_toHost_toValue {h : HostValue} {c : String} (hc : h.className? = some c) :
    h.toValue.toHost.className? = some c := by
  cases h with
  | str s => exact hc
  | object o => exact hc
  | _ => cases hc

end HostValue

namespace Host

/-- A host result passed back as an argument is accepted wherever the host value was: for every
host value and every parameter type, primitive, `lang.Object` or any class name. -/
theorem accepts_toHost_toValue (p : TypeToken) (h : HostValue) (hp : accepts p h = true) :
    accepts p h.toValue.toHost = true := by
  match p with
  | .primitive .boolean =>
    obtain ⟨b, hb⟩ := Option.isSome_iff_exists.mp hp
    simp [accepts, HostValue.asBool?_toHost_toValue hb]
  | .primitive .char =>
    -- only a host character is accepted, and it comes back wrapped
    cases h with
    | char c => rwa [HostValue.toHost_toValue_of_unwrapsOnReturn_false rfl]
    | _ => cases hp
  | .primitive .byte | .primitive .short | .primitive .int | .primitive .long =>
    obtain ⟨n, hn⟩ := Option.isSome_iff_exists.mp hp
    simp [accepts, Primitive.isIntegral, HostValue.asInt?_toHost_toValue hn]
  | .primitive .float | .primitive .double =>
    obtain ⟨x, hx⟩ := Option.isSome_iff_exists.mp hp
    simp [accepts, Primitive.isIntegral, HostValue.asFloat?_toHost_toValue hx]
  | .cls name =>
    simp only [accepts, Bool.or_eq_true, beq_iff_eq] at hp ⊢
    rcases hp with (hobj | hnull) | hcls
    · exact .inl (.inl hobj)
    · exact .inl (.inr (HostValue.isNull_toHost_toValue hnull))
    · exact .inr (HostValue.className?_toHost_toValue hcls)

/-- Null, accepted for a class parameter, comes back as `NIL` and is accepted there again. -/
theorem accepts_null_point_again :
    accepts (.cls pointClass) .null = true ∧
      accepts (.cls pointClass) HostValue.null.toValue.toHost = true :=
  ⟨rfl, accepts_toHost_toValue _ _ rfl⟩

end Host

namespace Value

/-- Crossing to the host and back is the identity except at the seams. A value that is neither a
character nor a wrapper comes back as itself, structurally; a character comes back as a wrapped
host character; a wrapper comes back as the interpreter counterpart of the host value inside it
when that has one (`NIL` for null, `T` or `NIL` for a boolean, the same integer for an int or a
long, the text for a host string, the handed-over value itself), and as an equal wrapper
otherwise. -/
theorem toValue_toHost_except_seams :
    (∀ v : Value, (∀ c, v ≠ .char c) → (∀ h, v ≠ .native h) → v.toHost.toValue = v) ∧
    (∀ c : Char, (char c).toHost.toValue = .native (.char c)) ∧
    (native .null).toHost.toValue = nil ∧
    (∀ b : Bool, (native (.boolean b)).toHost.toValue = if b then t else nil) ∧
    (∀ n : Int32, ∃ m : Int64, (native (.int n)).toHost.toValue = int m ∧ m.toInt = n.toInt) ∧
    (∀ n : Int64, (native (.long n)).toHost.toValue = int n) ∧
    (∀ s : String, (native (.str s)).toHost.toValue = str s) ∧
    (∀ w : Value, (native (.interp w)).toHost.toValue = w) ∧
    (∀ h : HostValue, h.unwrapsOnReturn = false → (native h).toHost.toValue = native h) := by
  refine ⟨fun v hc hn => ?_, fun _ => rfl, rfl, fun _ => rfl,
    fun n => ⟨n.toInt64, rfl, Int32.toInt_toInt64 n⟩, fun _ => rfl, fun _ => rfl, fun _ => rfl,
    fun _ hw => HostValue.toValue_of_unwrapsOnReturn_false hw⟩
  -- every other tag crosses as a handed-over value, which comes back as itself
  cases v with
  | char c => exact absurd rfl (hc c)
  | native h => exact absurd rfl (hn h)
  | str s => rfl
  | _ => rfl

end Value

end HostInterop

import HostInterop.Proofs.HostFailure
import HostInterop.Host.Standard
import Mathlib

/-!
# Int parameters of the standard classes

The host's argument check accepts an integer of any width for an int parameter
(`Host.accepts`), so the 32-bit range of an int is enforced by the bodies alone, each time they
read an int argument (`Host.intArg`). Nothing is ever cut to 32 bits: an integer outside the
range is refused as an argument type mismatch, and an integer inside it is received exactly
(`intArg_of_integerArgument`, `toInt_ofInt_of_fitsInt32`).

The int parameters of the standard classes are those of `example.Point(int,int)`,
`example.Point.translate(int,int)`, `lang.String.charAt(int)` and
`example.Util.parseNumber(lang.String,int)`. Through the foreign operations, with integer
arguments of any kind (`IntegerArgument`):

* a point is made at exactly the coordinates passed;
* a translation adds exactly, and fails with an overflow when a coordinate leaves the range,
  never wrapping;
* a character is read at exactly the index passed, and an index outside the text fails with a
  string-index exception, negative indices included;
* a number is read in exactly the radix passed, and a radix outside `2..36` fails with a
  number-format exception.

`Foreign.int_parameters_exact` gathers the four.
-/

namespace HostInterop

/-! ## Integer arguments -/

/-- An integer passed as an argument, with its value: an interpreter integer, or a wrapped host
integer of any of the four widths. -/
inductive IntegerArgument : Value → Int → Prop where
  | interp (n : Int64) : IntegerArgument (.int n) n.toInt
  | byte (n : Int8) : IntegerArgument (.native (.byte n)) n.toInt
  | short (n : Int16) : IntegerArgument (.native (.short n)) n.toInt
  | int (n : Int32) : IntegerArgument (.native (.int n)) n.toInt
  | long (n : Int64) : IntegerArgument (.native (.long n)) n.toInt

/-- Whether an integer lies in the 32-bit range of an int. -/
def FitsInt32 (n : Int) : Prop := -2147483648 ≤ n ∧ n ≤ 2147483647

instance (n : Int) : Decidable (FitsInt32 n) := inferInstanceAs (Decidable (_ ∧ _))

/-- An int made from an integer in its range is that integer. -/
theorem toInt_ofInt_of_fitsInt32 {n : Int} (h : FitsInt32 n) : (Int32.ofInt n).toInt = n := by
  obtain ⟨hlo, hhi⟩ := h
  rw [Int32.toInt_ofInt]
  exact Int.bmod_eq_of_le (by norm_num [Int32.size]; omega) (by norm_num [Int32.size]; omega)

/-- Two integers both fit an int exactly when the four bounds hold, as a body tests them. -/
theorem fitsInt32_and_iff {a b : Int} :
    FitsInt32 a ∧ FitsInt32 b ↔
      -2147483648 ≤ a ∧ a ≤ 2147483647 ∧ -2147483648 ≤ b ∧ b ≤ 2147483647 :=
  and_assoc

/-- An integer argument reaches the host as a value read as the same integer, at 64 bits. -/
theorem IntegerArgument.asInt?_toHost {v : Value} {n : Int} (hv : IntegerArgument v n) :
    ∃ m : Int64, v.toHost.asInt? = some m ∧ m.toInt = n := by
  cases hv with
  | interp m => exact ⟨m, rfl, rfl⟩
  | byte b => exact ⟨b.toInt64, rfl, Int8.toInt_toInt64 b⟩
  | short s => exact ⟨s.toInt64, rfl, Int16.toInt_toInt64 s⟩
  | int i => exact ⟨i.toInt64, rfl, Int32.toInt_toInt64 i⟩
  | long l => exact ⟨l, rfl, rfl⟩

namespace Host

/-- The argument check takes every integer argument for an int parameter, whatever its value. -/
theorem accepts_int_of_integerArgument {v : Value} {n : Int} (hv : IntegerArgument v n) :
    accepts (.primitive .int) v.toHost = true := by
  obtain ⟨m, hm, -⟩ := hv.asInt?_toHost
  simp [accepts, Primitive.isIntegral, hm]

/-- A body reads an integer argument as an int exactly when it is in range, and as that very
integer; out of range it is an argument type mismatch. -/
theorem intArg_of_integerArgument {args : List HostValue} {i : Nat} {v : Value} {n : Int}
    (hi : args[i]? = some v.toHost) (hv : IntegerArgument v n) :
    intArg args i = if FitsInt32 n then .ok (Int32.ofInt n) else .error mismatch := by
  obtain ⟨m, hm, rfl⟩ := hv.asInt?_toHost
  simp only [intArg, hi, Option.bind_some, hm]
  rfl

/-! ## The members with int parameters -/

/-- The constructor of the point class with two int parameters. -/
theorem pointNew_constructor {k : ConstructorDef} (hk : k ∈ pointClassDef.constructors)
    (hparams : k.params = [.primitive .int, .primitive .int]) :
    k = ⟨pointClass, [.primitive .int, .primitive .int], .builtin .pointNew⟩ :=
  eq_of_filter_eq_singleton (p := fun k => k.params == [.primitive .int, .primitive .int]) rfl hk
    (by simp [hparams])

/-- The method of the point class named translate. -/
theorem translate_method {m : MethodDef} (hm : m ∈ pointClassDef.methods)
    (hname : m.name = "translate") :
    m = ⟨pointClass, "translate", [.primitive .int, .primitive .int], true, false,
      .builtin .pointTranslate⟩ :=
  eq_of_filter_eq_singleton (p := fun m => m.name == "translate") rfl hm (by simp [hname])

/-- The method of the string class named charAt. -/
theorem charAt_method {m : MethodDef} (hm : m ∈ stringClassDef.methods)
    (hname : m.name = "charAt") :
    m = ⟨stringClass, "charAt", [.primitive .int], true, false, .builtin .stringCharAt⟩ :=
  eq_of_filter_eq_singleton (p := fun m => m.name == "charAt") rfl hm (by simp [hname])

/-- The method of the utility class named parseNumber that takes a string and an int. -/
theorem parseNumberRadix_method {m : MethodDef} (hm : m ∈ utilClassDef.methods)
    (hname : m.name = "parseNumber") (hparams : m.params = [.cls stringClass, .primitive .int]) :
    m = ⟨utilClass, "parseNumber", [.cls stringClass, .primitive .int], true, true,
      .builtin .parseNumberRadix⟩ :=
  eq_of_filter_eq_singleton
    (p := fun m => m.name == "parseNumber" && m.params == [.cls stringClass, .primitive .int]) rfl
    hm (by simp [hname, hparams])

/-! ## What the bodies do with integer arguments -/

section Bodies

variable {a b : Value} {x y : Int} (n : Nat)

/-- A point is made from two integer arguments when both are in range, at exactly those
coordinates. -/
theorem run_pointNew (ha : IntegerArgument a x) (hb : IntegerArgument b y) :
    (Builtin.run .pointNew none [a.toHost, b.toHost]).run n =
      if FitsInt32 x ∧ FitsInt32 y then
        (.ok (.object ⟨pointClass, .made n, .point (Int32.ofInt x) (Int32.ofInt y)⟩), n + 1)
      else (.error mismatch, n) := by
  have hx := intArg_of_integerArgument (show [a.toHost, b.toHost][0]? = some a.toHost from rfl) ha
  have hy := intArg_of_integerArgument (show [a.toHost, b.toHost][1]? = some b.toHost from rfl) hb
  simp only [Builtin.run, hx, hy]
  by_cases fx : FitsInt32 x <;> by_cases fy : FitsInt32 y <;> simp [fx, fy] <;> rfl

/-- A point is moved by two integer arguments in range exactly when both sums stay in range;
otherwise the move fails with an overflow, and it never wraps. -/
theorem run_pointTranslate (oid : ObjectId) (px py : Int32) (ha : IntegerArgument a x)
    (hb : IntegerArgument b y) :
    (Builtin.run .pointTranslate (some (.object ⟨pointClass, oid, .point px py⟩))
        [a.toHost, b.toHost]).run n =
      if FitsInt32 x ∧ FitsInt32 y then
        if FitsInt32 (px.toInt + x) ∧ FitsInt32 (py.toInt + y) then
          (.ok (.object ⟨pointClass, .made n,
            .point (Int32.ofInt (px.toInt + x)) (Int32.ofInt (py.toInt + y))⟩), n + 1)
        else (.error (.new arithmeticType "integer overflow"), n)
      else (.error mismatch, n) := by
  have hx := intArg_of_integerArgument (show [a.toHost, b.toHost][0]? = some a.toHost from rfl) ha
  have hy := intArg_of_integerArgument (show [a.toHost, b.toHost][1]? = some b.toHost from rfl) hb
  simp only [Builtin.run, Option.getD_some, thisPoint, HostValue.point?, hx, hy]
  by_cases fx : FitsInt32 x
  · by_cases fy : FitsInt32 y
    · -- both offsets are received exactly, so the sums are the exact sums
      simp only [fx, fy, and_self, if_true, toInt_ofInt_of_fitsInt32 fx, toInt_ofInt_of_fitsInt32 fy]
      by_cases fs : FitsInt32 (px.toInt + x) ∧ FitsInt32 (py.toInt + y)
      · rw [if_pos (fitsInt32_and_iff.mp fs), if_pos fs]
        rfl
      · rw [if_neg (mt fitsInt32_and_iff.mpr fs), if_neg fs]
        rfl
    · simp [fx, fy]; rfl
  · simp [fx]; rfl

/-- A character is read at an integer argument in range, exactly at that index when it lies
inside the text, and an index outside it, negative or past the end, is a string-index
exception. -/
theorem run_stringCharAt (s : String) (ha : IntegerArgument a x) :
    (¬FitsInt32 x → (Builtin.run .stringCharAt (some (.str s)) [a.toHost]).run n = (.error mismatch, n)) ∧
    (FitsInt32 x → 0 ≤ x ∧ x < s.length →
      ∃ c, s.toList[x.toNat]? = some c ∧
        (Builtin.run .stringCharAt (some (.str s)) [a.toHost]).run n = (.ok (.char c), n)) ∧
    (FitsInt32 x → ¬(0 ≤ x ∧ x < s.length) →
      (Builtin.run .stringCharAt (some (.str s)) [a.toHost]).run n =
        (.error (indexOutOfBounds x s.length), n)) := by
  have hx := intArg_of_integerArgument (show [a.toHost][0]? = some a.toHost from rfl) ha
  refine ⟨fun fx => ?_, fun fx hin => ?_, fun fx hout => ?_⟩
  · simp only [Builtin.run, hx, if_neg fx]
    rfl
  · have hlt : x.toNat < s.toList.length := by rw [String.length_toList]; omega
    have hc := List.getElem?_eq_getElem hlt
    refine ⟨_, hc, ?_⟩
    simp only [Builtin.run, Option.getD_some, thisStr, HostValue.asStr?, hx, if_pos fx, bind,
      Except.bind, toInt_ofInt_of_fitsInt32 fx, hc, if_pos hin.1]
    rfl
  · simp only [Builtin.run, Option.getD_some, thisStr, HostValue.asStr?, hx, if_pos fx, bind,
      Except.bind, toInt_ofInt_of_fitsInt32 fx]
    -- past the end nothing is found; a negative index finds the first character but is refused
    cases hc : s.toList[x.toNat]? with
    | none => rfl
    | some c =>
      have hneg : ¬0 ≤ x := by
        intro hnn
        have hlt := (List.getElem?_eq_some_iff.mp hc).1
        rw [String.length_toList] at hlt
        omega
      simp only [if_neg hneg]
      rfl

/-- A text is read in the radix of an integer argument in range, exactly that radix when it lies
in `2..36`; any other radix is a number-format exception, and out of range it is an argument type
mismatch. -/
theorem run_parseNumberRadix {sv : Value} {s : String} (hs : sv.toHost = .str s)
    (ha : IntegerArgument a x) :
    (¬FitsInt32 x → (Builtin.run .parseNumberRadix none [sv.toHost, a.toHost]).run n =
      (.error mismatch, n)) ∧
    (FitsInt32 x → 2 ≤ x ∧ x ≤ 36 →
      (Builtin.run .parseNumberRadix none [sv.toHost, a.toHost]).run n =
        ((readInt32? x.toNat (Text.trimBlank s)).elim (.error (numberFormat s)) (fun v => .ok (.int v)),
          n)) ∧
    (FitsInt32 x → ¬(2 ≤ x ∧ x ≤ 36) →
      (Builtin.run .parseNumberRadix none [sv.toHost, a.toHost]).run n = (.error (numberFormat s), n)) := by
  have hx := intArg_of_integerArgument (show [sv.toHost, a.toHost][1]? = some a.toHost from rfl) ha
  have hstr : strArg [sv.toHost, a.toHost] 0 = .ok s := by simp [strArg, hs]
  refine ⟨fun fx => ?_, fun fx hr => ?_, fun fx hr => ?_⟩
  · simp only [Builtin.run, hstr, hx, if_neg fx]
    rfl
  · simp only [Builtin.run, hstr, hx, if_pos fx, bind, Except.bind, toInt_ofInt_of_fitsInt32 fx,
      if_pos hr]
    cases readInt32? x.toNat (Text.trimBlank s) <;> rfl
  · simp only [Builtin.run, hstr, hx, if_pos fx, bind, Except.bind, toInt_ofInt_of_fitsInt32 fx,
      if_neg hr]
    rfl

end Bodies

end Host

namespace Foreign

open Host

/-! ## The members through the foreign operations -/

section Members

variable (host : Host) (hid slot n : Nat)

/-- `example.Point(int,int)`: a point is made at exactly the two integers passed when both are in
range, and the call fails with an argument type mismatch otherwise. -/
theorem construct_point_exact {k : ConstructorDef} (hk : k ∈ pointClassDef.constructors)
    (hparams : k.params = [.primitive .int, .primitive .int]) {a b : Value} {x y : Int}
    (ha : IntegerArgument a x) (hb : IntegerArgument b y) :
    (FitsInt32 x ∧ FitsInt32 y → ∃ px py : Int32, px.toInt = x ∧ py.toInt = y ∧
      (dispatch host [.native (.ref (.ctor hid slot k)), a, b] 4).run n =
        (.ok (.native (.object ⟨pointClass, .made n, .point px py⟩)), n + 1)) ∧
    (¬(FitsInt32 x ∧ FitsInt32 y) →
      (dispatch host [.native (.ref (.ctor hid slot k)), a, b] 4).run n =
        (.error (.invocationFailure "argument type mismatch"), n)) := by
  have hargs : argumentRefusal k.params ([a, b].map Value.toHost) = none := by
    simp [hparams, argumentRefusal, accepts_int_of_integerArgument ha,
      accepts_int_of_integerArgument hb]
  have hcall := dispatch_construct_of_admitted host hid slot n k [a, b] hargs
  obtain rfl := pointNew_constructor hk hparams
  simp only [List.map_cons, List.map_nil, ConstructorDef.run, Body.run, run_pointNew n ha hb] at hcall
  refine ⟨fun hfit => ⟨_, _, toInt_ofInt_of_fitsInt32 hfit.1, toInt_ofInt_of_fitsInt32 hfit.2, ?_⟩,
    fun hfit => ?_⟩
  · rw [hcall, if_pos hfit]
    rfl
  · rw [hcall, if_neg hfit]
    rfl

/-- `example.Point.translate(int,int)` on a point: with offsets in range, the point moves by
exactly those offsets when both coordinates stay in range and the call fails with an overflow
otherwise; an offset out of range is an argument type mismatch. -/
theorem invokeInstance_translate_exact {m : MethodDef} (hm : m ∈ pointClassDef.methods)
    (hname : m.name = "translate") {r : Value} {oid : ObjectId} {px py : Int32}
    (hr : r.toHost = .object ⟨pointClass, oid, .point px py⟩) {a b : Value} {dx dy : Int}
    (ha : IntegerArgument a dx) (hb : IntegerArgument b dy) :
    (¬(FitsInt32 dx ∧ FitsInt32 dy) →
      (dispatch host [.native (.ref (.method hid slot m)), r, a, b] 5).run n =
        (.error (.invocationFailure "argument type mismatch"), n)) ∧
    (FitsInt32 dx ∧ FitsInt32 dy → FitsInt32 (px.toInt + dx) ∧ FitsInt32 (py.toInt + dy) →
      ∃ qx qy : Int32, qx.toInt = px.toInt + dx ∧ qy.toInt = py.toInt + dy ∧
        (dispatch host [.native (.ref (.method hid slot m)), r, a, b] 5).run n =
          (.ok (.native (.object ⟨pointClass, .made n, .point qx qy⟩)), n + 1)) ∧
    (FitsInt32 dx ∧ FitsInt32 dy → ¬(FitsInt32 (px.toInt + dx) ∧ FitsInt32 (py.toInt + dy)) →
      (dispatch host [.native (.ref (.method hid slot m)), r, a, b] 5).run n =
        (.error (.invocationFailure "integer overflow"), n)) := by
  have hm' := translate_method hm hname
  have hreceiver : receiverRefusal m (some r.toHost) = none := by
    simp [hm', receiverRefusal, hr, HostValue.isNull, HostValue.className?]
  have hargs : argumentRefusal m.params ([a, b].map Value.toHost) = none := by
    simp [hm', argumentRefusal, accepts_int_of_integerArgument ha,
      accepts_int_of_integerArgument hb]
  have hcall := dispatch_invokeInstance_of_admitted host hid slot n m r [a, b] hreceiver hargs
  subst hm'
  simp only [List.map_cons, List.map_nil, MethodDef.run, Bool.false_eq_true, if_false, Body.run,
    hr, run_pointTranslate n oid px py ha hb] at hcall
  refine ⟨fun hfit => ?_, fun hfit hsum => ⟨_, _, toInt_ofInt_of_fitsInt32 hsum.1,
    toInt_ofInt_of_fitsInt32 hsum.2, ?_⟩, fun hfit hsum => ?_⟩
  · rw [hcall, if_neg hfit]
    rfl
  · rw [hcall, if_pos hfit, if_pos hsum]
    rfl
  · rw [hcall, if_pos hfit, if_neg hsum]
    rfl

/-- `lang.String.charAt(int)` on a text: with an index in range, the character at exactly that
index when it lies inside the text, and a string-index exception otherwise; an index out of
range is an argument type mismatch. -/
theorem invokeInstance_charAt_exact {m : MethodDef} (hm : m ∈ stringClassDef.methods)
    (hname : m.name = "charAt") {r : Value} {s : String} (hr : r.toHost = .str s) {a : Value}
    {i : Int} (ha : IntegerArgument a i) :
    (¬FitsInt32 i →
      (dispatch host [.native (.ref (.method hid slot m)), r, a] 5).run n =
        (.error (.invocationFailure "argument type mismatch"), n)) ∧
    (FitsInt32 i → 0 ≤ i ∧ i < s.length → ∃ c, s.toList[i.toNat]? = some c ∧
      (dispatch host [.native (.ref (.method hid slot m)), r, a] 5).run n =
        (.ok (.native (.char c)), n)) ∧
    (FitsInt32 i → ¬(0 ≤ i ∧ i < s.length) →
      (dispatch host [.native (.ref (.method hid slot m)), r, a] 5).run n =
        (.error (.invocationFailure (indexOutOfBounds i s.length).ownMessage), n)) := by
  have hm' := charAt_method hm hname
  have hreceiver : receiverRefusal m (some r.toHost) = none := by
    simp [hm', receiverRefusal, hr, HostValue.isNull, HostValue.className?]
  have hargs : argumentRefusal m.params ([a].map Value.toHost) = none := by
    simp [hm', argumentRefusal, accepts_int_of_integerArgument ha]
  have hcall := dispatch_invokeInstance_of_admitted host hid slot n m r [a] hreceiver hargs
  subst hm'
  simp only [List.map_cons, List.map_nil, MethodDef.run, Bool.false_eq_true, if_false, Body.run,
    hr] at hcall
  obtain ⟨hmismatch, hinside, houtside⟩ := run_stringCharAt n s ha
  refine ⟨fun hfit => ?_, fun hfit hin => ?_, fun hfit hout => ?_⟩
  · rw [hcall, hmismatch hfit]
    rfl
  · obtain ⟨c, hc, hrun⟩ := hinside hfit hin
    refine ⟨c, hc, ?_⟩
    rw [hcall, hrun]
    rfl
  · rw [hcall, houtside hfit hout]
    rfl

/-- `example.Util.parseNumber(lang.String,int)` on a text: with a radix in range, the text is read
in exactly that radix when it lies in `2..36`, and any other radix fails with a number-format
exception; a radix out of range is an argument type mismatch. -/
theorem invokeStatic_parseNumber_radix_exact {m : MethodDef} (hm : m ∈ utilClassDef.methods)
    (hname : m.name = "parseNumber") (hparams : m.params = [.cls stringClass, .primitive .int])
    (cls : Value) {sv : Value} {s : String} (hs : sv.toHost = .str s) {a : Value} {r : Int}
    (ha : IntegerArgument a r) :
    (¬FitsInt32 r →
      (dispatch host [.native (.ref (.method hid slot m)), cls, sv, a] 3).run n =
        (.error (.invocationFailure "argument type mismatch"), n)) ∧
    (FitsInt32 r → 2 ≤ r ∧ r ≤ 36 →
      (dispatch host [.native (.ref (.method hid slot m)), cls, sv, a] 3).run n =
        ((readInt32? r.toNat (Text.trimBlank s)).elim
          (.error (.invocationFailure (numberFormat s).ownMessage)) (fun v => .ok (.int v.toInt64)),
          n)) ∧
    (FitsInt32 r → ¬(2 ≤ r ∧ r ≤ 36) →
      (dispatch host [.native (.ref (.method hid slot m)), cls, sv, a] 3).run n =
        (.error (.invocationFailure (numberFormat s).ownMessage), n)) := by
  have hm' := parseNumberRadix_method hm hname hparams
  have htext : accepts (.cls stringClass) sv.toHost = true := by
    simp [accepts, hs, HostValue.className?]
  have hargs : argumentRefusal m.params ([sv, a].map Value.toHost) = none := by
    simp [hparams, argumentRefusal, htext, accepts_int_of_integerArgument ha]
  have hcall := dispatch_invokeStatic_of_admitted host hid slot n m cls [sv, a] (by rw [hm']) hargs
  subst hm'
  simp only [List.map_cons, List.map_nil, MethodDef.run, if_true, Body.run] at hcall
  obtain ⟨hmismatch, hradix, hother⟩ := run_parseNumberRadix n hs ha
  refine ⟨fun hfit => ?_, fun hfit hr => ?_, fun hfit hr => ?_⟩
  · rw [hcall, hmismatch hfit]
    rfl
  · rw [hcall, hradix hfit hr]
    cases readInt32? r.toNat (Text.trimBlank s) <;> rfl
  · rw [hcall, hother hfit hr]
    rfl

end Members

/-- Int parameters of the standard classes are never cut to 32 bits, and point arithmetic never
wraps. For every host, every reference to the member, and integer arguments of any kind and any
value, each received exactly when in range and refused as an argument type mismatch otherwise,
after the receiver or text argument before it has been accepted:

* `example.Point(int,int)` makes the point at exactly the two integers;
* `example.Point.translate(int,int)` moves a point by exactly the offsets when both coordinates
  stay in range, and fails with an overflow otherwise;
* `lang.String.charAt(int)` returns the character at exactly the index when it lies inside the
  text, and fails with a string-index exception otherwise;
* `example.Util.parseNumber(lang.String,int)` reads the text in exactly the radix when it lies in
  `2..36`, and fails with a number-format exception for any other radix. -/
theorem int_parameters_exact :
    (∀ (host : Host) (hid slot n : Nat) (k : ConstructorDef) (a b : Value) (x y : Int),
      k ∈ pointClassDef.constructors → k.params = [.primitive .int, .primitive .int] →
      IntegerArgument a x → IntegerArgument b y →
      (FitsInt32 x ∧ FitsInt32 y → ∃ px py : Int32, px.toInt = x ∧ py.toInt = y ∧
        (dispatch host [.native (.ref (.ctor hid slot k)), a, b] 4).run n =
          (.ok (.native (.object ⟨pointClass, .made n, .point px py⟩)), n + 1)) ∧
      (¬(FitsInt32 x ∧ FitsInt32 y) →
        (dispatch host [.native (.ref (.ctor hid slot k)), a, b] 4).run n =
          (.error (.invocationFailure "argument type mismatch"), n))) ∧
    (∀ (host : Host) (hid slot n : Nat) (m : MethodDef) (r : Value) (oid : ObjectId)
      (px py : Int32) (a b : Value) (dx dy : Int),
      m ∈ pointClassDef.methods → m.name = "translate" →
      r.toHost = .object ⟨pointClass, oid, .point px py⟩ →
      IntegerArgument a dx → IntegerArgument b dy →
      (¬(FitsInt32 dx ∧ FitsInt32 dy) →
        (dispatch host [.native (.ref (.method hid slot m)), r, a, b] 5).run n =
          (.error (.invocationFailure "argument type mismatch"), n)) ∧
      (FitsInt32 dx ∧ FitsInt32 dy → FitsInt32 (px.toInt + dx) ∧ FitsInt32 (py.toInt + dy) →
        ∃ qx qy : Int32, qx.toInt = px.toInt + dx ∧ qy.toInt = py.toInt + dy ∧
          (dispatch host [.native (.ref (.method hid slot m)), r, a, b] 5).run n =
            (.ok (.native (.object ⟨pointClass, .made n, .point qx qy⟩)), n + 1)) ∧
      (FitsInt32 dx ∧ FitsInt32 dy → ¬(FitsInt32 (px.toInt + dx) ∧ FitsInt32 (py.toInt + dy)) →
        (dispatch host [.native (.ref (.method hid slot m)), r, a, b] 5).run n =
          (.error (.invocationFailure "integer overflow"), n))) ∧
    (∀ (host : Host) (hid slot n : Nat) (m : MethodDef) (r : Value) (s : String) (a : Value)
      (i : Int),
      m ∈ stringClassDef.methods → m.name = "charAt" → r.toHost = .str s → IntegerArgument a i →
      (¬FitsInt32 i →
        (dispatch host [.native (.ref (.method hid slot m)), r, a] 5).run n =
          (.error (.invocationFailure "argument type mismatch"), n)) ∧
      (FitsInt32 i → 0 ≤ i ∧ i < s.length → ∃ c, s.toList[i.toNat]? = some c ∧
        (dispatch host [.native (.ref (.method hid slot m)), r, a] 5).run n =
          (.ok (.native (.char c)), n)) ∧
      (FitsInt32 i → ¬(0 ≤ i ∧ i < s.length) →
        (dispatch host [.native (.ref (.method hid slot m)), r, a] 5).run n =
          (.error (.invocationFailure (indexOutOfBounds i s.length).ownMessage), n))) ∧
    (∀ (host : Host) (hid slot n : Nat) (m : MethodDef) (cls sv : Value) (s : String) (a : Value)
      (r : Int),
      m ∈ utilClassDef.methods → m.name = "parseNumber" →
      m.params = [.cls stringClass, .primitive .int] → sv.toHost = .str s → IntegerArgument a r →
      (¬FitsInt32 r →
        (dispatch host [.native (.ref (.method hid slot m)), cls, sv, a] 3).run n =
          (.error (.invocationFailure "argument type mismatch"), n)) ∧
      (FitsInt32 r → 2 ≤ r ∧ r ≤ 36 →
        (dispatch host [.native (.ref (.method hid slot m)), cls, sv, a] 3).run n =
          ((readInt32? r.toNat (Text.trimBlank s)).elim
            (.error (.invocationFailure (numberFormat s).ownMessage)) (fun v => .ok (.int v.toInt64)),
            n)) ∧
      (FitsInt32 r → ¬(2 ≤ r ∧ r ≤ 36) →
        (dispatch host [.native (.ref (.method hid slot m)), cls, sv, a] 3).run n =
          (.error (.invocationFailure (numberFormat s).ownMessage), n))) :=
  ⟨fun host hid slot n _ _ _ _ _ hk hparams ha hb =>
      construct_point_exact host hid slot n hk hparams ha hb,
    fun host hid slot n _ _ _ _ _ _ _ _ _ hm hname hr ha hb =>
      invokeInstance_translate_exact host hid slot n hm hname hr ha hb,
    fun host hid slot n _ _ _ _ _ hm hname hr ha =>
      invokeInstance_charAt_exact host hid slot n hm hname hr ha,
    fun host hid slot n _ cls _ _ _ _ hm hname hparams hs ha =>
      invokeStatic_parseNumber_radix_exact host hid slot n hm hname hparams cls hs ha⟩

/-- The method at place 2 of the point class is translate. -/
theorem pointClassDef_method_two :
    pointClassDef.methods[2]? = some ⟨pointClass, "translate", [.primitive .int, .primitive .int],
      true, false, .builtin .pointTranslate⟩ :=
  rfl

/-- Moving the point at the top of the int range one step further fails with an overflow: the
coordinate does not wrap to the bottom of the range. -/
theorem translate_past_int_max_overflows :
    ∃ m ∈ pointClassDef.methods, m.name = "translate" ∧
      (dispatch ⟨0, .standard⟩ [.native (.ref (.method 0 2 m)),
          .native (.object ⟨pointClass, .made 0, .point 2147483647 0⟩), .int 1, .int 0] 5).run 1 =
        (.error (.invocationFailure "integer overflow"), 1) := by
  have hm := List.mem_of_getElem? pointClassDef_method_two
  refine ⟨_, hm, rfl, ?_⟩
  exact (int_parameters_exact.2.1 ⟨0, .standard⟩ 0 2 1 _ _ (.made 0) 2147483647 0 _ _ _ _ hm rfl rfl
    (.interp 1) (.interp 0)).2.2 (by decide) (by decide)

end Foreign

end HostInterop

import HostInterop.Proofs.HostFailure
import HostInterop.Host.Standard

/-!
# The squared distance of two points

`example.Point.distanceSquared` widens the coordinates of both points to 64 bits, subtracts, and
adds the two squares in 64-bit arithmetic. The differences are exact, since two 32-bit
coordinates differ by less than `2^32`. The squares and their sum are not: the sum can be as large
as `2 * (2^32 - 1)^2`, which needs 65 bits, and 64-bit arithmetic wraps.

* `toInt_sub_toInt64`: widening makes the difference of two coordinates exact.
* `toInt_distanceSquared64`: the 64-bit result, read as a signed integer, is the exact squared
  distance reduced to the signed 64-bit range.
* `bmod_eq_self_iff_lt`: a natural number is its own reduction exactly when it is below `2^63`.
* `distanceSquared_method`: the method of that name in the point class is an instance method of
  the class that takes one point and runs the built-in body.
* `invokeInstance_distanceSquared_exact_iff`: invoking the method on two points returns the
  wrapped value, which is the exact squared distance exactly when that is below `2^63`.
-/

namespace HostInterop

namespace Host

/-- The squared distance of two points, as an integer. -/
def exactDistanceSquared (a b : Int32 × Int32) : Int :=
  (a.1.toInt - b.1.toInt) ^ 2 + (a.2.toInt - b.2.toInt) ^ 2

/-- The squared distance of two points as the built-in body computes it, in 64-bit arithmetic. -/
def distanceSquared64 (a b : Int32 × Int32) : Int64 :=
  let dx := a.1.toInt64 - b.1.toInt64
  let dy := a.2.toInt64 - b.2.toInt64
  dx * dx + dy * dy

theorem exactDistanceSquared_nonneg (a b : Int32 × Int32) : 0 ≤ exactDistanceSquared a b := by
  unfold exactDistanceSquared
  positivity

/-- Two coordinates widened to 64 bits differ exactly. -/
theorem toInt_sub_toInt64 (x y : Int32) : (x.toInt64 - y.toInt64).toInt = x.toInt - y.toInt := by
  have hx := Int32.le_toInt x
  have hx' := Int32.toInt_lt x
  have hy := Int32.le_toInt y
  have hy' := Int32.toInt_lt y
  rw [Int64.toInt_sub, Int32.toInt_toInt64, Int32.toInt_toInt64]
  exact Int.bmod_eq_of_le (by norm_num; omega) (by norm_num; omega)

/-- Read as a signed integer, the body's result is the exact squared distance reduced to the
signed 64-bit range. -/
theorem toInt_distanceSquared64 (a b : Int32 × Int32) :
    (distanceSquared64 a b).toInt = (exactDistanceSquared a b).bmod (2 ^ 64) := by
  simp only [distanceSquared64, exactDistanceSquared, Int64.toInt_add, Int64.toInt_mul,
    toInt_sub_toInt64]
  rw [Int.bmod_add_bmod, Int.add_bmod_bmod, sq, sq]

/-- A natural number is its own reduction to the signed 64-bit range exactly when it is below
`2^63`. -/
theorem bmod_eq_self_iff_lt {e : Int} (he : 0 ≤ e) : e.bmod (2 ^ 64) = e ↔ e < 2 ^ 63 := by
  constructor
  · intro h
    have hlt := Int.bmod_lt (x := e) (m := 2 ^ 64) (by positivity)
    rw [h] at hlt
    norm_num at hlt ⊢
    omega
  · intro h
    exact Int.bmod_eq_of_le (by norm_num; omega) (by norm_num; omega)

/-- The method of the point class named distanceSquared is an instance method of the class that
takes one point and runs the built-in body. -/
theorem distanceSquared_method {m : MethodDef} (hm : m ∈ pointClassDef.methods)
    (hname : m.name = "distanceSquared") :
    m.owner = pointClass ∧ m.params = [.cls pointClass] ∧ m.isStatic = false ∧
      m.body = .builtin .pointDistanceSquared := by
  -- the class declares exactly one method of that name
  obtain rfl := eq_of_filter_eq_singleton (p := fun m => m.name == "distanceSquared") rfl hm
    (by simp [hname])
  exact ⟨rfl, rfl, rfl, rfl⟩

/-- Run on two points, the built-in body returns their squared distance in 64-bit arithmetic. -/
theorem run_pointDistanceSquared (ca cb : String) (ia ib : ObjectId) (a b : Int32 × Int32)
    (n : Nat) :
    (Builtin.run .pointDistanceSquared (some (.object ⟨ca, ia, .point a.1 a.2⟩))
      [.object ⟨cb, ib, .point b.1 b.2⟩]).run n = (.ok (.long (distanceSquared64 a b)), n) :=
  rfl

end Host

namespace Foreign

open Host

variable (host : Host) (hid slot : Nat) {m : MethodDef}

/-- Invoking the distanceSquared method of the point class on two points, through any reference
to it, returns their squared distance in 64-bit arithmetic and makes no object. -/
theorem dispatch_distanceSquared (hm : m ∈ pointClassDef.methods)
    (hname : m.name = "distanceSquared") (ia ib : ObjectId) (a b : Int32 × Int32) (n : Nat) :
    (dispatch host [.native (.ref (.method hid slot m)),
        .native (.object ⟨pointClass, ia, .point a.1 a.2⟩),
        .native (.object ⟨pointClass, ib, .point b.1 b.2⟩)] 5).run n =
      (.ok (.int (distanceSquared64 a b)), n) := by
  obtain ⟨howner, hparams, hstatic, hbody⟩ := distanceSquared_method hm hname
  -- the receiver is an instance of the declaring class, and the argument a point
  have hreceiver : receiverRefusal m (some (.object ⟨pointClass, ia, .point a.1 a.2⟩)) = none := by
    simp [receiverRefusal, hstatic, howner, HostValue.isNull, HostValue.className?]
  have hargument : argumentRefusal m.params [.object ⟨pointClass, ib, .point b.1 b.2⟩] = none := by
    rw [hparams]
    rfl
  have hrun : m.run (some (.object ⟨pointClass, ia, .point a.1 a.2⟩))
      [.object ⟨pointClass, ib, .point b.1 b.2⟩] =
      Builtin.run .pointDistanceSquared (some (.object ⟨pointClass, ia, .point a.1 a.2⟩))
        [.object ⟨pointClass, ib, .point b.1 b.2⟩] := by
    simp only [MethodDef.run, hstatic, hbody, Body.run, Bool.false_eq_true, if_false]
  rw [dispatch_invokeInstance_of_admitted host hid slot n m
    (.native (.object ⟨pointClass, ia, .point a.1 a.2⟩))
    [.native (.object ⟨pointClass, ib, .point b.1 b.2⟩)] hreceiver hargument]
  simp only [Value.toHost, List.map_cons, List.map_nil, hrun, run_pointDistanceSquared]
  rfl

/-- Invoking the distanceSquared method of the point class on two points, through any reference
to it, always succeeds and returns the exact squared distance reduced to the signed 64-bit range,
which is the exact value exactly when that is below `2^63`. -/
theorem invokeInstance_distanceSquared_exact_iff (hm : m ∈ pointClassDef.methods)
    (hname : m.name = "distanceSquared") (ia ib : ObjectId) (a b : Int32 × Int32) (n : Nat) :
    ∃ d : Int64,
      (dispatch host [.native (.ref (.method hid slot m)),
          .native (.object ⟨pointClass, ia, .point a.1 a.2⟩),
          .native (.object ⟨pointClass, ib, .point b.1 b.2⟩)] 5).run n = (.ok (.int d), n) ∧
      d.toInt = (exactDistanceSquared a b).bmod (2 ^ 64) ∧
      (d.toInt = exactDistanceSquared a b ↔ exactDistanceSquared a b < 2 ^ 63) := by
  refine ⟨distanceSquared64 a b, dispatch_distanceSquared host hid slot hm hname ia ib a b n,
    toInt_distanceSquared64 a b, ?_⟩
  rw [toInt_distanceSquared64]
  exact bmod_eq_self_iff_lt (exactDistanceSquared_nonneg a b)

/-- The method at place 3 of the point class is distanceSquared. -/
theorem pointClassDef_method_three :
    pointClassDef.methods[3]? = some ⟨pointClass, "distanceSquared", [.cls pointClass], true,
      false, .builtin .pointDistanceSquared⟩ :=
  rfl

/-- The points (3, 4) and (0, 0) are at squared distance 25, which the call returns exactly. -/
theorem distanceSquared_three_four_exact :
    ∃ m ∈ pointClassDef.methods, m.name = "distanceSquared" ∧
      ∃ d : Int64,
        (dispatch ⟨0, .standard⟩ [.native (.ref (.method 0 3 m)),
            .native (.object ⟨pointClass, .made 0, .point 3 4⟩),
            .native (.object ⟨pointClass, .made 1, .point 0 0⟩)] 5).run 2 = (.ok (.int d), 2) ∧
        d.toInt = 25 := by
  have hm := List.mem_of_getElem? pointClassDef_method_three
  obtain ⟨d, hrun, -, hexact⟩ := invokeInstance_distanceSquared_exact_iff ⟨0, .standard⟩ 0 3 hm rfl
    (.made 0) (.made 1) (3, 4) (0, 0) 2
  have h25 : exactDistanceSquared (3, 4) (0, 0) = 25 := by decide
  refine ⟨_, hm, rfl, d, hrun, ?_⟩
  rw [hexact.mpr (by rw [h25]; norm_num), h25]

/-- Two points at the ends of the 32-bit range on one axis are at squared distance
18446744065119617025, past the signed 64-bit range: the call returns it wrapped, as
-8589934591. -/
theorem distanceSquared_extreme_points_wrap :
    ∃ m ∈ pointClassDef.methods, m.name = "distanceSquared" ∧
      exactDistanceSquared (2147483647, 0) (-2147483648, 0) = 18446744065119617025 ∧
      (dispatch ⟨0, .standard⟩ [.native (.ref (.method 0 3 m)),
          .native (.object ⟨pointClass, .made 0, .point 2147483647 0⟩),
          .native (.object ⟨pointClass, .made 1, .point (-2147483648) 0⟩)] 5).run 2 =
        (.ok (.int (-8589934591)), 2) := by
  have hm := List.mem_of_getElem? pointClassDef_method_three
  have hwrap : distanceSquared64 (2147483647, 0) (-2147483648, 0) = -8589934591 := by decide
  refine ⟨_, hm, rfl, by decide, ?_⟩
  rw [← hwrap]
  exact dispatch_distanceSquared ⟨0, .standard⟩ 0 3 hm rfl (.made 0) (.made 1) (2147483647, 0)
    (-2147483648, 0) 2

end Foreign

end HostInterop

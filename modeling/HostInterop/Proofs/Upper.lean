import HostInterop.Text.Upper
import Mathlib

/-!
# Upper-casing twice is upper-casing once

No character that the upper-case mapping produces has an upper case of its own
(`upperChars_fixed`), so `upper (upper s) = upper s` (`upper_upper`). Package keys rest on it:
a package made under the upper-cased form of a name has that form as its own name, and is found
again under it.

The mapping is given by two finite tables, but the statement is over every character, so the
proof is split by where a character's upper case comes from.

* A character with an expansion goes to the expansion's code points. There are a few hundred;
  each is checked to be a character that no table entry mentions (`expansions_fixed`).
* A character in a shift run goes to the run's image, an arithmetic progression
  (`ShiftRun.image`). An image is checked against each run at once when their ranges lie apart,
  and point by point only where they overlap (`ShiftRun.missesRun`); likewise against each
  expansion (`ShiftRun.missesCode`) and against the surrogate gap (`ShiftRun.imagesValid`).
* A character with neither is its own upper case.
-/

namespace HostInterop.Text

/-! ## Characters that upper-case to themselves -/

/-- Whether code point `n` is a character that neither table mentions, so that it upper-cases
to itself. -/
def fixedCode (n : Nat) : Bool :=
  decide n.isValidChar && upperExpansions.all (·.1 != n) && upperShiftRuns.all (!·.holds n)

/-- A valid code point names the character of that code point. -/
theorem toNat_ofNat_of_valid {n : Nat} (h : n.isValidChar) : (Char.ofNat n).toNat = n := by
  simp [Char.ofNat, h, Char.ofNatAux, Char.toNat]

/-- A character that neither table mentions is its own upper case. -/
theorem upperChars_eq_self {c : Char} (he : ∀ e ∈ upperExpansions, e.1 ≠ c.toNat)
    (hr : ∀ r ∈ upperShiftRuns, r.holds c.toNat = false) : upperChars c = [c] := by
  have hfe : upperExpansions.find? (fun e => e.1 == c.toNat) = none :=
    List.find?_eq_none.mpr fun e me => by simpa using he e me
  have hfr : upperShiftRuns.find? (fun r => r.holds c.toNat) = none :=
    List.find?_eq_none.mpr fun r mr => by simp [hr r mr]
  simp only [upperChars, hfe, hfr]

/-- The character of a fixed code point is its own upper case. -/
theorem upperChars_ofNat_of_fixedCode {n : Nat} (h : fixedCode n = true) :
    upperChars (Char.ofNat n) = [Char.ofNat n] := by
  simp only [fixedCode, Bool.and_eq_true, decide_eq_true_eq, List.all_eq_true, bne_iff_ne,
    ne_eq, Bool.not_eq_eq_eq_not, Bool.not_true] at h
  obtain ⟨⟨hvalid, he⟩, hr⟩ := h
  have hn : (Char.ofNat n).toNat = n := toNat_ofNat_of_valid hvalid
  exact upperChars_eq_self (fun e me => by rw [hn]; exact he e me)
    (fun r mr => by rw [hn]; exact hr r mr)

/-! ## The images of a shift run -/

namespace ShiftRun

/-- The code point that the `k`-th member of the run upper-cases to. -/
def image (r : ShiftRun) (k : Nat) : Nat := Int.toNat ((r.start + k * r.step : Nat) + r.shift)

/-- The end of the run's range: every member is below it. -/
def stop (r : ShiftRun) : Nat := r.start + r.count * r.step

/-- Whether no image of run `r` is a member of run `q`: the ranges lie apart, or else no image
lands on a member. -/
def missesRun (r q : ShiftRun) : Bool :=
  r.image (r.count - 1) < q.start || q.stop ≤ r.image 0 ||
    (List.range r.count).all fun k => !q.holds (r.image k)

/-- Whether no image of the run is code point `n`. -/
def missesCode (r : ShiftRun) (n : Nat) : Bool :=
  n < r.image 0 || r.image (r.count - 1) < n || (List.range r.count).all fun k => r.image k != n

/-- Whether every image of the run is a character: the images lie below the surrogate gap, or
above it and below the end of the code space. -/
def imagesValid (r : ShiftRun) : Bool :=
  r.image (r.count - 1) < 0xD800 || (0xDFFF < r.image 0 && r.image (r.count - 1) < 0x110000)

/-- Images grow with the member's place in the run. -/
theorem image_mono (r : ShiftRun) {k j : Nat} (h : k ≤ j) : r.image k ≤ r.image j := by
  unfold image
  apply Int.toNat_le_toNat
  have : r.start + k * r.step ≤ r.start + j * r.step :=
    Nat.add_le_add_left (Nat.mul_le_mul_right _ h) _
  omega

/-- A member's image lies between the run's first and last images. -/
theorem image_bounds (r : ShiftRun) {k : Nat} (hk : k < r.count) :
    r.image 0 ≤ r.image k ∧ r.image k ≤ r.image (r.count - 1) :=
  ⟨r.image_mono (Nat.zero_le k), r.image_mono (by omega)⟩

/-- A member of a run is the start moved by a whole number of steps, fewer than the count. -/
theorem exists_of_holds {r : ShiftRun} {n : Nat} (h : r.holds n = true) :
    ∃ k < r.count, n = r.start + k * r.step := by
  simp only [holds, Bool.and_eq_true, decide_eq_true_eq, beq_iff_eq] at h
  obtain ⟨⟨hlo, hhi⟩, hmod⟩ := h
  have hk : (n - r.start) / r.step * r.step = n - r.start :=
    Nat.div_mul_cancel (Nat.dvd_of_mod_eq_zero hmod)
  refine ⟨(n - r.start) / r.step, Nat.lt_of_mul_lt_mul_right (a := r.step) ?_, by omega⟩
  omega

/-- A member of a run lies in the run's range. -/
theorem lt_stop_of_holds {r : ShiftRun} {n : Nat} (h : r.holds n = true) :
    r.start ≤ n ∧ n < r.stop := by
  simp only [holds, Bool.and_eq_true, decide_eq_true_eq] at h
  exact h.1

/-- An image that the check against run `q` passes is no member of `q`. -/
theorem holds_image_of_missesRun {r q : ShiftRun} (h : r.missesRun q = true) {k : Nat}
    (hk : k < r.count) : q.holds (r.image k) = false := by
  have hb := r.image_bounds hk
  simp only [missesRun, Bool.or_eq_true, decide_eq_true_eq, List.all_eq_true, List.mem_range,
    Bool.not_eq_eq_eq_not, Bool.not_true] at h
  rcases h with (hlo | hhi) | hall
  · cases hq : q.holds (r.image k)
    · rfl
    · have := lt_stop_of_holds hq; omega
  · cases hq : q.holds (r.image k)
    · rfl
    · have := lt_stop_of_holds hq; omega
  · exact hall k hk

/-- An image that the check against code point `n` passes is not `n`. -/
theorem image_ne_of_missesCode {r : ShiftRun} {n : Nat} (h : r.missesCode n = true) {k : Nat}
    (hk : k < r.count) : r.image k ≠ n := by
  have hb := r.image_bounds hk
  simp only [missesCode, Bool.or_eq_true, decide_eq_true_eq, List.all_eq_true, List.mem_range,
    bne_iff_ne, ne_eq] at h
  rcases h with (hlo | hhi) | hall
  · omega
  · omega
  · exact hall k hk

/-- The images of a run that passes the range check are characters. -/
theorem image_valid_of_imagesValid {r : ShiftRun} (h : r.imagesValid = true) {k : Nat}
    (hk : k < r.count) : (r.image k).isValidChar := by
  have hb := r.image_bounds hk
  simp only [imagesValid, Bool.or_eq_true, Bool.and_eq_true, decide_eq_true_eq] at h
  unfold Nat.isValidChar
  omega

end ShiftRun

/-! ## The finite checks -/

set_option maxRecDepth 100000 in
/-- No image of a shift run is a member of a shift run. -/
theorem runImages_missRuns : upperShiftRuns.all (fun r => upperShiftRuns.all r.missesRun) = true := by
  decide +kernel

set_option maxRecDepth 100000 in
/-- No image of a shift run has an expansion. -/
theorem runImages_missExpansions :
    upperShiftRuns.all (fun r => upperExpansions.all (fun e => r.missesCode e.1)) = true := by
  decide +kernel

set_option maxRecDepth 100000 in
/-- Every image of a shift run is a character. -/
theorem runImages_valid : upperShiftRuns.all ShiftRun.imagesValid = true := by
  decide +kernel

set_option maxRecDepth 100000 in
/-- Every code point of an expansion is a character that upper-cases to itself. -/
theorem expansions_fixed : upperExpansions.all (fun e => e.2.all fixedCode) = true := by
  decide +kernel

/-- Every image of a shift run is a character that upper-cases to itself. -/
theorem fixedCode_image {r : ShiftRun} (hr : r ∈ upperShiftRuns) {k : Nat} (hk : k < r.count) :
    fixedCode (r.image k) = true := by
  have hruns := List.all_eq_true.mp runImages_missRuns r hr
  have hexps := List.all_eq_true.mp runImages_missExpansions r hr
  simp only [fixedCode, Bool.and_eq_true, decide_eq_true_eq, List.all_eq_true, bne_iff_ne,
    ne_eq, Bool.not_eq_eq_eq_not, Bool.not_true]
  refine ⟨⟨ShiftRun.image_valid_of_imagesValid (List.all_eq_true.mp runImages_valid r hr) hk,
    fun e me => ?_⟩,
    fun q mq => ShiftRun.holds_image_of_missesRun (List.all_eq_true.mp hruns q mq) hk⟩
  exact Ne.symm (ShiftRun.image_ne_of_missesCode (List.all_eq_true.mp hexps e me) hk)

/-! ## Idempotence -/

/-- Every character of an upper case is its own upper case. -/
theorem upperChars_fixed (c : Char) {d : Char} (hd : d ∈ upperChars c) : upperChars d = [d] := by
  unfold upperChars at hd
  split at hd
  · -- an expansion: each of its code points was checked
    rename_i e he
    obtain ⟨n, hn, rfl⟩ := List.mem_map.mp hd
    have hall := List.all_eq_true.mp expansions_fixed e (List.mem_of_find?_eq_some he)
    exact upperChars_ofNat_of_fixedCode (List.all_eq_true.mp hall n hn)
  · rename_i hnone
    split at hd
    · -- a shift run: the character is a member, so its upper case is one of the run's images
      rename_i r hr
      obtain ⟨k, hk, hc⟩ :=
        ShiftRun.exists_of_holds (List.find?_some (p := fun r : ShiftRun => r.holds c.toNat) hr)
      have himage : Int.toNat (c.toNat + r.shift) = r.image k := by
        rw [hc]; rfl
      rw [List.mem_singleton.mp hd, himage]
      exact upperChars_ofNat_of_fixedCode (fixedCode_image (List.mem_of_find?_eq_some hr) hk)
    · -- neither table mentions the character
      rename_i hrun
      rw [List.mem_singleton.mp hd]
      simp only [List.find?_eq_none, beq_iff_eq] at hnone hrun
      exact upperChars_eq_self hnone fun r mr => by simpa using hrun r mr

/-- Upper-casing characters whose upper cases are themselves changes nothing. -/
theorem flatMap_upperChars_of_fixed :
    ∀ {l : List Char}, (∀ d ∈ l, upperChars d = [d]) → l.flatMap upperChars = l
  | [], _ => rfl
  | d :: l, h => by
    rw [List.flatMap_cons, h d List.mem_cons_self,
      flatMap_upperChars_of_fixed fun d' hd' => h d' (List.mem_cons_of_mem d hd')]
    rfl

/-- Upper-casing twice is upper-casing once. -/
theorem upper_upper (s : String) : upper (upper s) = upper s := by
  unfold upper
  rw [String.toList_ofList, flatMap_upperChars_of_fixed]
  intro d hd
  obtain ⟨c, -, hc⟩ := List.mem_flatMap.mp hd
  exact upperChars_fixed c hc

end HostInterop.Text

import Mathlib.Algebra.Order.Field.Power
import Mathlib.Data.Rat.Floor
import Mathlib.Tactic.NormNum
import TaskConsole.Json.Field

/-! # The values of numbers — what is read of a number depends on its value alone

    A number of a document has an exact value, a rational number (`Json.Number.value`), and
    its integer part is that value cut toward zero (`Json.Number.truncate_eq`).  A reader that
    takes an integer as it is, or else the nearest binary number, rounds on the way.  That can
    do no harm: rounding moves no integer below a power of two that it has reached
    (`Binary64.exists_nearest`), so what is out of range stays out of range, and what is read
    is the integer part, cut to the range (`Json.Number.int64?_eq`) or none out of it
    (`Json.Number.getD_port?`). -/

namespace TaskConsole

/-! ## Cutting toward zero -/

/-- A number without its fraction. -/
def wholePart (q : ℚ) : ℤ := if 0 ≤ q then ⌊q⌋ else ⌈q⌉

theorem wholePart_of_nonneg {q : ℚ} (h : 0 ≤ q) : wholePart q = ⌊q⌋ := if_pos h

theorem wholePart_intCast (n : ℤ) : wholePart n = n := by
  rw [wholePart, Int.floor_intCast, Int.ceil_intCast, ite_self]

theorem wholePart_neg (q : ℚ) : wholePart (-q) = -wholePart q := by
  rcases lt_trichotomy q 0 with hq | rfl | hq
  · rw [wholePart, wholePart, if_pos (neg_nonneg.mpr hq.le), if_neg hq.not_ge, Int.floor_neg]
  · rfl
  · rw [wholePart, wholePart, if_neg (neg_neg_iff_pos.mpr hq).not_ge, if_pos hq.le, Int.ceil_neg]

/-- Of two numbers, the greater one has no smaller part. -/
theorem wholePart_mono {q r : ℚ} (h : q ≤ r) : wholePart q ≤ wholePart r := by
  rw [wholePart, wholePart]
  split
  · next hq => rw [if_pos (hq.trans h)]; exact Int.floor_mono h
  · next hq =>
      split
      · next hr =>
          have hceil : ⌈q⌉ ≤ 0 := Int.ceil_le.mpr (by push_cast; exact (not_le.mp hq).le)
          exact hceil.trans (Int.floor_nonneg.mpr hr)
      · exact Int.ceil_mono h

/-! ## Values -/

namespace Binary64

/-- The value of a number without its sign. -/
def magnitude (x : Binary64) : ℚ := x.significand * 2 ^ x.exponent

/-- The value of a number. -/
def value (x : Binary64) : ℚ := if x.negative then -x.magnitude else x.magnitude

theorem magnitude_nonneg (x : Binary64) : 0 ≤ x.magnitude :=
  mul_nonneg (Nat.cast_nonneg _) (zpow_nonneg (by norm_num) _)

/-- The magnitude is that quotient of natural numbers. -/
theorem magnitude_eq_div (x : Binary64) : x.magnitude = x.ratio.1 / x.ratio.2 := by
  show _ = ((x.significand <<< x.exponent.toNat : Nat) : ℚ)
    / ((1 <<< (-x.exponent).toNat : Nat) : ℚ)
  rw [Nat.shiftLeft_eq, Nat.shiftLeft_eq, magnitude]
  push_cast
  rcases le_total 0 x.exponent with he | he
  · obtain ⟨k, hk⟩ := Int.eq_ofNat_of_zero_le he
    rw [hk, Int.toNat_natCast, Int.toNat_neg_natCast, zpow_natCast, pow_zero, one_mul, div_one]
  · obtain ⟨k, hk⟩ := Int.exists_eq_neg_ofNat he
    rw [hk, neg_neg, Int.toNat_natCast, Int.toNat_neg_natCast, zpow_neg, zpow_natCast, pow_zero,
      mul_one, one_mul, div_eq_mul_inv]

theorem floorMagnitude_eq (x : Binary64) : (x.floorMagnitude : ℤ) = ⌊x.magnitude⌋ := by
  rw [magnitude_eq_div, Rat.floor_natCast_div_natCast]
  rfl

/-- **A BINARY NUMBER** is cut toward zero. -/
theorem truncate_eq (x : Binary64) : x.truncate = wholePart x.value := by
  rw [truncate, value, floorMagnitude_eq]
  split
  · rw [wholePart_neg, wholePart_of_nonneg x.magnitude_nonneg]
  · rw [wholePart_of_nonneg x.magnitude_nonneg]

end Binary64

namespace Json.Number

/-- The value of a number. -/
def value : Number → ℚ
  | integer n _ => n
  | binary x => x.value

/-- **A NUMBER** is cut toward zero, of whatever kind it is. -/
theorem truncate_eq (n : Number) : n.truncate = wholePart n.value := by
  cases n with
  | integer v fits => exact (wholePart_intCast v).symm
  | binary x => exact x.truncate_eq

end Json.Number

/-! ## Integers rounded to binary numbers -/

namespace Binary64

theorem div_le_roundDiv (num den : Nat) : num / den ≤ roundDiv num den := by
  simp only [roundDiv]
  split
  · exact le_rfl
  · split
    · exact Nat.le_succ _
    · split
      · exact le_rfl
      · exact Nat.le_succ _

/-- Scaled so that its leading bit is the one of `2 ^ bits`, a number is no less than that. -/
theorem two_pow_le_scaled {m : Nat} (hm : m ≠ 0) (bits : Nat) :
    2 ^ bits ≤ (m <<< (bits - m.log2)) / (1 <<< (m.log2 - bits)) := by
  have hlog := Nat.log2_self_le hm
  rw [Nat.shiftLeft_eq, Nat.one_shiftLeft, Nat.le_div_iff_mul_le (Nat.two_pow_pos _), ← Nat.pow_add]
  calc 2 ^ (bits + (m.log2 - bits)) = 2 ^ m.log2 * 2 ^ (bits - m.log2) := by
        rw [← Nat.pow_add]
        congr 1
        omega
    _ ≤ m * 2 ^ (bits - m.log2) := Nat.mul_le_mul_right _ hlog

theorem scaleRatio_log2 (m bits : Nat) : scaleRatio m 1 ((m.log2 : Int) - bits)
    = (m <<< (bits - m.log2), 1 <<< (m.log2 - bits)) := by
  rw [scaleRatio, show (-((m.log2 : Int) - bits)).toNat = bits - m.log2 by omega,
    show ((m.log2 : Int) - bits).toNat = m.log2 - bits by omega]

/-- The exponent at which an integer has 53 bits. -/
theorem exponentFor_one {m : Nat} (hm : m ≠ 0) : exponentFor m 1 = (m.log2 : Int) - 52 := by
  have hguess : max (-1074) ((m.log2 : Int) - (1 : Nat).log2 - 53) = (m.log2 : Int) - (53 : Nat) := by
    have hone : (1 : Nat).log2 = 0 := by decide
    rw [hone]
    omega
  have hbits := two_pow_le_scaled hm 53
  rw [exponentFor, hguess, scaleRatio_log2]
  dsimp only
  rw [if_pos (le_trans (by norm_num) hbits)]
  push_cast
  ring

/-- **ROUNDING AN INTEGER** gives a number of the same sign that is no less than any power of
    two which the integer has reached. -/
theorem exists_nearest (negative : Bool) {m : Nat} (hm : m ≠ 0) (hlog : m.log2 ≤ 1000) :
    ∃ x, ofRatio? negative m 1 = some x ∧ x.negative = negative
      ∧ (2 : ℚ) ^ m.log2 ≤ x.magnitude := by
  have hbits := (two_pow_le_scaled hm 52).trans (div_le_roundDiv _ _)
  rw [ofRatio?, exponentFor_one hm]
  dsimp only
  rw [show (52 : Int) = ((52 : Nat) : Int) from rfl, scaleRatio_log2]
  dsimp only
  generalize roundDiv (m <<< (52 - m.log2)) (1 <<< (m.log2 - 52)) = significand at hbits ⊢
  have hvalue (exponent : Int) (h : m.log2 - 52 ≤ exponent) {n : Nat} (hn : 2 ^ 52 ≤ n) :
      (2 : ℚ) ^ m.log2 ≤ (n : ℚ) * 2 ^ exponent := by
    calc (2 : ℚ) ^ m.log2 = 2 ^ (52 : Nat) * 2 ^ ((m.log2 : Int) - 52) := by
          rw [← zpow_natCast, ← zpow_natCast, ← zpow_add₀ (by norm_num)]
          congr 1
          push_cast
          ring
      _ ≤ (n : ℚ) * 2 ^ exponent := by
          apply mul_le_mul
          · exact_mod_cast hn
          · exact zpow_le_zpow_right₀ (by norm_num) h
          · exact zpow_nonneg (by norm_num) _
          · exact Nat.cast_nonneg _
  rw [pack?]
  split
  · rw [dif_pos (by omega)]
    exact ⟨_, rfl, rfl, hvalue _ le_rfl hbits⟩
  · rw [dif_pos (by omega)]
    exact ⟨_, rfl, rfl, hvalue ((m.log2 : Int) - 52 + 1) (by omega) (by norm_num)⟩

theorem truncate_of_isNonnegative {x : Binary64} (h : x.isNonnegative = true) :
    x.truncate = x.floorMagnitude := by
  rw [isNonnegative, Bool.or_eq_true, Bool.not_eq_true', beq_iff_eq] at h
  rw [truncate]
  split
  · next hnegative =>
      have hzero : x.floorMagnitude = 0 := by
        rw [floorMagnitude, ratio, h.resolve_left (by rw [hnegative]; exact Bool.noConfusion),
          Nat.zero_shiftLeft, Nat.zero_div]
      rw [hzero]
      rfl
  · rfl

theorem truncate_nonpos {x : Binary64} (h : x.isNonnegative = false) : x.truncate ≤ 0 := by
  rw [isNonnegative, Bool.or_eq_false_iff, Bool.not_eq_false'] at h
  rw [truncate, if_pos h.1]
  omega

end Binary64

/-! ## Reading in steps -/

/-- An integer in the range of 64 bits is not cut. -/
theorem clampInt64_of_mem {n : Int} (hlow : leastInt64 ≤ n) (hhigh : n ≤ greatestInt64) :
    clampInt64 n = Int64.ofInt n := by
  rw [clampInt64, min_eq_left hhigh, max_eq_right hlow]

/-- And one above it is cut to its end. -/
theorem clampInt64_of_ge {n : Int} (h : greatestInt64 ≤ n) :
    clampInt64 n = Int64.ofInt greatestInt64 := by
  rw [clampInt64, min_eq_right h]
  rfl

namespace Json

namespace Number

/-- An integer of 64 bits has a nearest binary number, with its sign and beyond the powers of
    two that it has reached. -/
theorem exists_nearest? {n : Int} (hn : n ≠ 0)
    (hfits : -9223372036854775808 ≤ n ∧ n ≤ 18446744073709551615) :
    ∃ x, (integer n hfits).nearest? = some x ∧ x.negative = decide (n < 0)
      ∧ (2 : ℚ) ^ n.natAbs.log2 ≤ x.magnitude := by
  have hlt : n.natAbs < 2 ^ 64 := by omega
  have hlog := (Nat.log2_lt (Int.natAbs_ne_zero.mpr hn)).mpr hlt
  exact Binary64.exists_nearest _ (Int.natAbs_ne_zero.mpr hn) (by omega)

/-- What is beyond the greatest integer of 64 bits stays so when it is rounded. -/
theorem nearest?_of_beyond {n : Int} (hbeyond : 2 ^ 63 ≤ n)
    (hfits : -9223372036854775808 ≤ n ∧ n ≤ 18446744073709551615) :
    ∃ x, (integer n hfits).nearest? = some x ∧ greatestInt64 ≤ x.truncate := by
  have hne : n ≠ 0 := by omega
  obtain ⟨x, hx, hsign, hmagnitude⟩ := exists_nearest? hne hfits
  have hlog : 63 ≤ n.natAbs.log2 := (Nat.le_log2 (Int.natAbs_ne_zero.mpr hne)).mpr (by omega)
  have hvalue : ((2 ^ 63 : ℤ) : ℚ) ≤ x.value := by
    rw [Binary64.value, hsign, decide_eq_false (by omega), if_neg Bool.false_ne_true]
    push_cast
    exact (pow_le_pow_right₀ (by norm_num) hlog).trans hmagnitude
  have hle := wholePart_mono hvalue
  rw [wholePart_intCast, ← x.truncate_eq] at hle
  refine ⟨x, hx, ?_⟩
  simp only [greatestInt64]
  omega

/-- And what is below zero stays so. -/
theorem nearest?_of_neg {n : Int} (hneg : n < 0)
    (hfits : -9223372036854775808 ≤ n ∧ n ≤ 18446744073709551615) :
    ∃ x, (integer n hfits).nearest? = some x ∧ x.isNonnegative = false := by
  obtain ⟨x, hx, hsign, hmagnitude⟩ := exists_nearest? hneg.ne hfits
  have hzero : (x.significand == 0) = false := by
    rw [beq_eq_false_iff_ne]
    intro hzero
    rw [Binary64.magnitude, hzero, Nat.cast_zero, zero_mul] at hmagnitude
    exact absurd hmagnitude (pow_pos (by norm_num) _).not_ge
  refine ⟨x, hx, ?_⟩
  rw [Binary64.isNonnegative, hsign, hzero, decide_eq_true hneg]
  rfl

/-- **AN INTEGER OF 64 BITS** is read as the integer part, cut to the range. -/
theorem int64?_eq (n : Number) : n.int64? = some (clampInt64 n.truncate) := by
  rw [int64?]
  cases n with
  | binary x => rfl
  | integer v fits =>
      rw [signed?, truncate]
      split_ifs with hmem
      · rw [clampInt64_of_mem hmem.1 hmem.2]
      · have hbeyond : 2 ^ 63 ≤ v := by
          simp only [leastInt64, greatestInt64] at hmem
          omega
        obtain ⟨x, hx, htruncate⟩ := nearest?_of_beyond hbeyond fits
        rw [hx]
        dsimp only [Option.map_some]
        rw [clampInt64_of_ge htruncate, clampInt64_of_ge (by simp only [greatestInt64]; omega)]

/-- A natural number as a port, or zero if it is none. -/
theorem getD_map_filter (m : Nat) :
    (((some m).filter (· < 65536)).map UInt16.ofNat).getD 0
      = if m < 65536 then UInt16.ofNat m else 0 := by
  rw [Option.filter_some]
  split
  · next h => rw [if_pos (of_decide_eq_true h)]; rfl
  · next h => rw [if_neg fun hlt => h (decide_eq_true hlt)]; rfl

/-- **A PORT** is read as the integer part, or as zero if this is out of the range. -/
theorem getD_port? (n : Number) : n.port?.getD 0
    = if 0 ≤ n.truncate ∧ n.truncate < 65536 then UInt16.ofNat n.truncate.toNat else 0 := by
  rw [port?, natural?]
  cases n with
  | integer v fits =>
      rw [unsigned?, truncate]
      by_cases hv : 0 ≤ v
      · rw [if_pos hv]
        dsimp only
        rw [getD_map_filter]
        congr 1
        rw [eq_iff_iff]
        omega
      · obtain ⟨x, hx, hnot⟩ := nearest?_of_neg (not_le.mp hv) fits
        rw [if_neg hv, if_neg (by omega), hx]
        dsimp only
        rw [Option.filter_some, hnot]
        rfl
  | binary x =>
      rw [unsigned?, nearest?, truncate]
      dsimp only
      rw [Option.filter_some]
      cases hx : x.isNonnegative with
      | true =>
          have htruncate := Binary64.truncate_of_isNonnegative hx
          rw [if_pos rfl, Option.map_some, getD_map_filter, htruncate]
          -- what is cut to 64 bits is no port before and after
          have hcut : min 18446744073709551615 x.floorMagnitude < 65536
              ↔ (0 : Int) ≤ x.floorMagnitude ∧ (x.floorMagnitude : Int) < 65536 := by
            omega
          by_cases hport : (0 : Int) ≤ x.floorMagnitude ∧ (x.floorMagnitude : Int) < 65536
          · rw [if_pos (hcut.mpr hport), if_pos hport, Int.toNat_natCast, min_eq_right]
            omega
          · rw [if_neg (hport ∘ hcut.mp), if_neg hport]
      | false =>
          have htruncate := Binary64.truncate_nonpos hx
          rw [if_neg Bool.false_ne_true, Int.toNat_of_nonpos htruncate]
          split <;> rfl

end Number

end Json

end TaskConsole

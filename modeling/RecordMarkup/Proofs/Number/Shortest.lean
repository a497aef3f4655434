import Mathlib.Data.Nat.Cast.Order.Ring
import RecordMarkup.Proofs.Number.Nearest

namespace RecordMarkup.Number

section Power

variable {b : ℕ} (hb : b ≠ 0)

include hb

theorem power_pos (e : ℤ) : 0 < power b e := Nat.pow_pos (Nat.pos_of_ne_zero hb)

theorem power_eq (e : ℤ) : (power b e : ℚ) = b ^ e * power b (-e) := by
  have hb' : (b : ℚ) ≠ 0 := Nat.cast_ne_zero.2 hb
  obtain ⟨n, rfl | rfl⟩ := Int.eq_nat_or_neg e
  · simp [power]
  · simp [power, hb']

end Power

section Scaled

variable (a d : ℕ) (q g : ℤ)

/-- What both sides of a comparison are multiplied with. -/
def scale (q g : ℤ) : ℕ := power 2 (2 - q) * power 10 (-g)

theorem scaled_binary :
    ((a * power 2 (q - 2) * power 10 (-g) : ℕ) : ℚ) = a * 2 ^ (q - 2) * scale q g := by
  have h := power_eq two_ne_zero (q - 2)
  rw [neg_sub, Nat.cast_ofNat] at h
  rw [scale]
  push_cast
  rw [h]
  ring

theorem scaled_decimal :
    ((d * power 2 (2 - q) * power 10 g : ℕ) : ℚ) = d * 10 ^ g * scale q g := by
  have h := power_eq (b := 10) (by decide) g
  rw [Nat.cast_ofNat] at h
  rw [scale]
  push_cast
  rw [h]
  ring

theorem scale_pos : (0 : ℚ) < scale q g :=
  Nat.cast_pos.2 (Nat.mul_pos (power_pos two_ne_zero _) (power_pos (by decide) _))

theorem binary_le_decimal_iff :
    a * power 2 (q - 2) * power 10 (-g) ≤ d * power 2 (2 - q) * power 10 g ↔
      (a : ℚ) * 2 ^ (q - 2) ≤ d * 10 ^ g := by
  rw [← Nat.cast_le (α := ℚ), scaled_binary, scaled_decimal, mul_le_mul_iff_left₀ (scale_pos q g)]

theorem decimal_le_binary_iff :
    d * power 2 (2 - q) * power 10 g ≤ a * power 2 (q - 2) * power 10 (-g) ↔
      (d : ℚ) * 10 ^ g ≤ a * 2 ^ (q - 2) := by
  rw [← Nat.cast_le (α := ℚ), scaled_binary, scaled_decimal, mul_le_mul_iff_left₀ (scale_pos q g)]

end Scaled

def decimal (d : ℕ × ℤ) : ℚ := d.1 * 10 ^ d.2

section Search

variable {m : ℕ} (hm : m ≠ 0) (q : ℤ)

include hm

theorem cast_low : ((4 * m - quartersBelow m q : ℕ) : ℚ) * 2 ^ (q - 2) = low m q := by
  have := quartersBelow_le m q
  rw [Nat.cast_sub (by omega), low]
  push_cast
  rfl

theorem low_pos : 0 < low m q := by
  have := quartersBelow_le m q
  rw [← cast_low hm]
  exact mul_pos (Nat.cast_pos.2 (by omega)) (by positivity)

theorem readsBack_iff (d : ℕ) (g : ℤ) :
    readsBack m q d g ↔
      if m % 2 = 0 then low m q ≤ decimal (d, g) ∧ decimal (d, g) ≤ high m q
      else low m q < decimal (d, g) ∧ decimal (d, g) < high m q := by
  have hhigh : ((4 * m + 2 : ℕ) : ℚ) * 2 ^ (q - 2) = high m q := by
    push_cast
    rfl
  have below := binary_le_decimal_iff (4 * m - quartersBelow m q) d q g
  have above := decimal_le_binary_iff (4 * m + 2) d q g
  have below' := lt_iff_lt_of_le_iff_le (decimal_le_binary_iff (4 * m - quartersBelow m q) d q g)
  have above' := lt_iff_lt_of_le_iff_le (binary_le_decimal_iff (4 * m + 2) d q g)
  rw [cast_low hm] at below below'
  rw [hhigh] at above above'
  unfold readsBack decimal
  split <;> simp only [Bool.and_eq_true, decide_eq_true_eq, below, above, below', above']

theorem roundsTo_of_readsBack (h : IsDouble m q) {d : ℕ} {g : ℤ} (hr : readsBack m q d g) :
    RoundsTo (decimal (d, g)) m q := by
  rw [readsBack_iff hm] at hr
  split at hr
  case isTrue even => exact ⟨h, hr.1, hr.2, fun _ => even⟩
  case isFalse odd =>
    exact ⟨h, hr.1.le, hr.2.le, fun h => h.elim (absurd · hr.1.ne) (absurd · hr.2.ne)⟩

end Search

theorem readsBack_of_onGrid? {m d : ℕ} {q g : ℤ} (h : onGrid? m q g = some d) :
    readsBack m q d g := by
  unfold onGrid? at h
  dsimp only at h
  split at h
  case h_1 hbelow _ => cases h; exact hbelow
  case h_2 _ habove => cases h; exact habove
  case h_3 => cases h
  case h_4 hbelow habove =>
    split at h
    · cases h; exact hbelow
    · cases h; exact habove

theorem decimal_exactDecimal (m : ℕ) (q : ℤ) : decimal (exactDecimal m q) = magnitude m q := by
  unfold exactDecimal
  split
  case isTrue hq =>
    obtain ⟨n, rfl⟩ := Int.eq_ofNat_of_zero_le hq
    simp [decimal, magnitude, power]
  case isFalse hq =>
    obtain ⟨n, rfl⟩ := Int.exists_eq_neg_ofNat (not_le.1 hq).le
    have h10 : (5 : ℚ) ^ (n : ℤ) * 10 ^ (-n : ℤ) = 2 ^ (-n : ℤ) := by
      rw [show (10 : ℚ) = 5 * 2 by norm_num, mul_zpow, ← mul_assoc,
        ← zpow_add₀ (by decide), add_neg_cancel, zpow_zero, one_mul]
    rw [decimal, magnitude, ← h10]
    simp [power, mul_assoc]

theorem roundsTo_searchGrids {m : ℕ} {q : ℤ} (hm : m ≠ 0) (h : IsDouble m q) (tries : ℕ) (g : ℤ) :
    RoundsTo (decimal (searchGrids m q tries g)) m q := by
  induction tries generalizing g with
  | zero =>
    rw [searchGrids, decimal_exactDecimal]
    exact .self h
  | succ tries ih =>
    unfold searchGrids
    split
    case h_1 d hd => exact roundsTo_of_readsBack hm q h (readsBack_of_onGrid? hd)
    case h_2 => exact ih (g - 1)

theorem roundsTo_shortest {m : ℕ} {q : ℤ} (hm : m ≠ 0) (h : IsDouble m q) :
    RoundsTo (decimal (shortest m q)) m q :=
  roundsTo_searchGrids hm h 24 (coarsestGrid m q)

theorem shortest_ne_zero {m : ℕ} {q : ℤ} (hm : m ≠ 0) (h : IsDouble m q) : (shortest m q).1 ≠ 0 := by
  intro h0
  have := (low_pos hm q).trans_le (roundsTo_shortest hm h).low_le
  simp [decimal, h0] at this

end RecordMarkup.Number

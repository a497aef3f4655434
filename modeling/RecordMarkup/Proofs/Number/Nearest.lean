import Mathlib.Algebra.Order.Field.Power
import Mathlib.Tactic.Linarith
import Mathlib.Tactic.Positivity
import Mathlib.Tactic.Ring
import RecordMarkup.Number.Float

/-!
The double nearest to a number. What is nearest to a double lies between the halfway points to its
neighbours, which belong to a double of even significand; so no number is nearest to two doubles.
-/

namespace RecordMarkup.Number

/-- The significand of a double is as long as there is room for, or its exponent the least. -/
structure IsDouble (significand : ℕ) (exponent : ℤ) : Prop where
  lt : significand < 2 * hiddenBit
  le : -1074 ≤ exponent
  full : exponent = -1074 ∨ hiddenBit ≤ significand

def magnitude (significand : ℕ) (exponent : ℤ) : ℚ := significand * 2 ^ exponent

/-- No double is nearer to the number, and another one is as near only if this one is even. There is
no largest double here: a number nearest to one that has no bits is infinite as a double. -/
structure IsNearest (r : ℚ) (m : ℕ) (q : ℤ) : Prop where
  isDouble : IsDouble m q
  le : ∀ {m' q'}, IsDouble m' q' → |magnitude m q - r| ≤ |magnitude m' q' - r|
  even : ∀ {m' q'}, IsDouble m' q' → |magnitude m q - r| = |magnitude m' q' - r| →
    (m' = m ∧ q' = q) ∨ m % 2 = 0

section Neighbours

variable {m n : ℕ} {p q : ℤ}

theorem magnitude_add (m : ℕ) (q : ℤ) (k : ℕ) : magnitude m (q + k) = magnitude (m * 2 ^ k) q := by
  rw [magnitude, magnitude, zpow_add₀ (by decide), zpow_natCast]
  push_cast
  ring

theorem magnitude_lt_iff : magnitude m q < magnitude n q ↔ m < n := by
  rw [magnitude, magnitude, mul_lt_mul_iff_left₀ (by positivity), Nat.cast_lt]

theorem IsDouble.magnitude_lt (hm : IsDouble m q) (hn : IsDouble n p) (h : q < p) :
    magnitude m q < magnitude n p := by
  obtain ⟨k, rfl⟩ := Int.le.dest (Int.add_one_le_of_lt h)
  have hfull : hiddenBit ≤ n := hn.full.resolve_left (by have := hm.le; omega)
  rw [add_assoc, ← Nat.cast_one, ← Nat.cast_add, magnitude_add, magnitude_lt_iff]
  calc
    m < 2 * hiddenBit := hm.lt
    _ ≤ 2 * n := Nat.mul_le_mul_left 2 hfull
    _ ≤ n * 2 ^ (1 + k) := by
      rw [pow_add, pow_one, ← mul_assoc, mul_comm n]
      exact Nat.le_mul_of_pos_right _ (by positivity)

theorem IsDouble.unique (hm : IsDouble m q) (hn : IsDouble n p) (h : magnitude m q = magnitude n p) :
    n = m ∧ p = q := by
  obtain hlt | rfl | hlt := lt_trichotomy q p
  · exact absurd h (hm.magnitude_lt hn hlt).ne
  · refine ⟨?_, rfl⟩
    have hm' := magnitude_lt_iff (m := m) (n := n) (q := q)
    have hn' := magnitude_lt_iff (m := n) (n := m) (q := q)
    simp only [h, lt_irrefl, false_iff, not_lt] at hm' hn'
    exact le_antisymm hm' hn'
  · exact absurd h (hn.magnitude_lt hm hlt).ne'

theorem IsDouble.exists_steps (hm : IsDouble m q) (hn : IsDouble n p)
    (h : magnitude m q < magnitude n p) : ∃ k : ℕ, p = q + k ∧ m + 1 ≤ n * 2 ^ k := by
  have hle : q ≤ p := not_lt.1 fun hlt => absurd h (hn.magnitude_lt hm hlt).not_gt
  obtain ⟨k, rfl⟩ := Int.le.dest hle
  rw [magnitude_add, magnitude_lt_iff] at h
  exact ⟨k, rfl, h⟩

def low (significand : ℕ) (exponent : ℤ) : ℚ :=
  (4 * significand - quartersBelow significand exponent) * 2 ^ (exponent - 2)

def high (significand : ℕ) (exponent : ℤ) : ℚ := (4 * significand + 2) * 2 ^ (exponent - 2)

theorem four_quarters (q : ℤ) : (4 : ℚ) * 2 ^ (q - 2) = 2 ^ q := by
  rw [zpow_sub₀ two_ne_zero]
  ring

theorem quartersBelow_pos (m : ℕ) (q : ℤ) : 0 < quartersBelow m q := by
  unfold quartersBelow
  split <;> decide

theorem quartersBelow_le (m : ℕ) (q : ℤ) : quartersBelow m q ≤ 2 := by
  unfold quartersBelow
  split <;> decide

theorem low_lt (m : ℕ) (q : ℤ) : low m q < magnitude m q := by
  rw [low, magnitude, ← four_quarters q, ← mul_assoc, mul_comm (m : ℚ)]
  refine mul_lt_mul_of_pos_right (sub_lt_self _ ?_) (by positivity)
  exact_mod_cast quartersBelow_pos m q

theorem lt_high (m : ℕ) (q : ℤ) : magnitude m q < high m q := by
  rw [high, magnitude, ← four_quarters q, ← mul_assoc, mul_comm (m : ℚ)]
  exact mul_lt_mul_of_pos_right (by linarith) (by positivity)

theorem two_high (m : ℕ) (q : ℤ) : 2 * high m q = magnitude m q + magnitude (m + 1) q := by
  rw [high, magnitude, magnitude, ← four_quarters q]
  push_cast
  ring

theorem high_le (hm : IsDouble m q) (hn : IsDouble n p) (h : magnitude m q < magnitude n p) :
    2 * high m q ≤ magnitude m q + magnitude n p := by
  obtain ⟨k, rfl, hstep⟩ := hm.exists_steps hn h
  rw [two_high, magnitude_add]
  exact add_le_add_right (not_lt.1 fun hlt => absurd (magnitude_lt_iff.1 hlt) hstep.not_gt) _

/-- A smaller double is at least twice as far away as the halfway point, also where the steps below
are the shorter ones. -/
theorem IsDouble.steps_below {k : ℕ} (hm : IsDouble m q) (hn : IsDouble n (q + k))
    (h : m + 1 ≤ n * 2 ^ k) :
    2 * m + quartersBelow n (q + k) * 2 ^ k ≤ 2 * (n * 2 ^ k) := by
  cases k with
  | zero =>
    have := quartersBelow_le n (q + (0 : ℕ))
    omega
  | succ k =>
    have hfull : hiddenBit ≤ n := hn.full.resolve_left (by have := hm.le; omega)
    have hlt := hm.lt
    unfold quartersBelow
    split
    case isTrue least =>
      rw [least.1, pow_succ]
      nlinarith [Nat.one_le_two_pow (n := k)]
    case isFalse other =>
      have : hiddenBit + 1 ≤ n := by have := hm.le; omega
      rw [pow_succ]
      nlinarith [Nat.one_le_two_pow (n := k)]

theorem le_low (hm : IsDouble m q) (hn : IsDouble n p) (h : magnitude m q < magnitude n p) :
    magnitude m q + magnitude n p ≤ 2 * low n p := by
  obtain ⟨k, rfl, hstep⟩ := hm.exists_steps hn h
  have hbelow : (2 * m + quartersBelow n (q + k) * 2 ^ k : ℚ) ≤ 2 * (n * 2 ^ k) := by
    exact_mod_cast hm.steps_below hn hstep
  have hscaled := mul_le_mul_of_nonneg_right hbelow (zpow_nonneg zero_le_two (q - 2) : (0 : ℚ) ≤ _)
  rw [low, magnitude, magnitude, zpow_add₀ two_ne_zero, show q + k - 2 = q - 2 + k by ring,
    zpow_add₀ two_ne_zero, zpow_natCast, ← four_quarters q]
  linarith

end Neighbours

section Distance

variable {a b r : ℚ}

theorem abs_sub_le_iff_le_midpoint (h : a < b) : |a - r| ≤ |b - r| ↔ 2 * r ≤ a + b := by
  rw [← sq_le_sq]
  constructor <;> intro hle <;> nlinarith

theorem abs_sub_le_iff_midpoint_le (h : a < b) : |b - r| ≤ |a - r| ↔ a + b ≤ 2 * r := by
  rw [← sq_le_sq]
  constructor <;> intro hle <;> nlinarith

end Distance

/-- The number lies between the halfway points, which are in if the significand is even. -/
structure RoundsTo (r : ℚ) (m : ℕ) (q : ℤ) : Prop where
  isDouble : IsDouble m q
  low_le : low m q ≤ r
  le_high : r ≤ high m q
  even : low m q = r ∨ r = high m q → m % 2 = 0

namespace RoundsTo

variable {r : ℚ} {m n : ℕ} {p q : ℤ}

theorem self (h : IsDouble m q) : RoundsTo (magnitude m q) m q where
  isDouble := h
  low_le := (low_lt m q).le
  le_high := (lt_high m q).le
  even h := h.elim (fun h => absurd h (low_lt m q).ne) fun h => absurd h (lt_high m q).ne

theorem isNearest (h : RoundsTo r m q) : IsNearest r m q where
  isDouble := h.isDouble
  le := by
    intro n p hn
    obtain hlt | heq | hlt := lt_trichotomy (magnitude m q) (magnitude n p)
    · rw [abs_sub_le_iff_le_midpoint hlt]
      linarith [high_le h.isDouble hn hlt, h.le_high]
    · rw [heq]
    · rw [abs_sub_le_iff_midpoint_le hlt]
      linarith [le_low hn h.isDouble hlt, h.low_le]
  even := by
    intro n p hn hd
    obtain hlt | heq | hlt := lt_trichotomy (magnitude m q) (magnitude n p)
    · have hmid := (abs_sub_le_iff_midpoint_le hlt).1 hd.ge
      have hhigh : high m q ≤ r := by linarith [high_le h.isDouble hn hlt]
      exact .inr (h.even (.inr (le_antisymm h.le_high hhigh)))
    · exact .inl (h.isDouble.unique hn heq)
    · have hmid := (abs_sub_le_iff_le_midpoint hlt).1 hd.ge
      have hlow : r ≤ low m q := by linarith [le_low hn h.isDouble hlt]
      exact .inr (h.even (.inl (le_antisymm h.low_le hlow)))

theorem magnitude_le (h : RoundsTo r m q) (k : RoundsTo r n p) : magnitude n p ≤ magnitude m q := by
  by_contra! hlt
  have hhigh := high_le h.isDouble k.isDouble hlt
  have hlow := le_low h.isDouble k.isDouble hlt
  have hm : m % 2 = 0 := h.even (.inr (by linarith [h.le_high, k.low_le]))
  have hn : n % 2 = 0 := k.even (.inl (by linarith [h.le_high, k.low_le]))
  obtain ⟨j, rfl, hsteps⟩ := h.isDouble.exists_steps k.isDouble hlt
  have hnext : ¬magnitude (m + 1) q < magnitude (n * 2 ^ j) q := by
    rw [not_lt, ← magnitude_add]
    linarith [two_high m q, h.le_high, k.low_le]
  rw [magnitude_lt_iff, not_lt] at hnext
  have hodd : (m + 1) % 2 = 0 := by
    rw [le_antisymm hsteps hnext, Nat.mul_mod, hn, Nat.zero_mul]
  omega

theorem unique (h : RoundsTo r m q) (k : RoundsTo r n p) : n = m ∧ p = q :=
  h.isDouble.unique k.isDouble (le_antisymm (k.magnitude_le h) (h.magnitude_le k))

end RoundsTo

end RecordMarkup.Number

import Mathlib.Algebra.Order.Field.Power
import Mathlib.Data.List.Basic
import Mathlib.Tactic.Ring
import RecordMarkup.Number.Float
import RecordMarkup.Proofs.Markup

namespace RecordMarkup.Number

def number (digits : List Char) : ℕ := Nat.ofDigitChars 10 digits 0

structure IsDigits (cs : List Char) : Prop where
  ne_nil : cs ≠ []
  isDigit : ∀ c ∈ cs, c.isDigit

structure IsWhole (cs : List Char) : Prop extends IsDigits cs where
  leading : cs.head? = some '0' → cs = ['0']

/-- The text is a numeral without exponent, and stands for the number. -/
inductive Plain : List Char → ℚ → Prop
  | whole {digits : List Char} (h : IsWhole digits) : Plain digits (number digits)
  | point {digits fraction : List Char} (h : IsWhole digits) (hf : IsDigits fraction) :
    Plain (digits ++ '.' :: fraction) (number (digits ++ fraction) * 10 ^ (-(fraction.length : ℤ)))

/-- The text is a numeral that may have an exponent, and stands for the number. -/
inductive Literal : List Char → ℚ → Prop
  | plain {cs : List Char} {r : ℚ} (h : Plain cs r) : Literal cs r
  | power {cs digits : List Char} {r : ℚ} (h : Plain cs r) (negative : Bool) (hd : IsDigits digits) :
    Literal (cs ++ 'e' :: (if negative then '-' else '+') :: digits)
      (r * 10 ^ (if negative then -(number digits : ℤ) else number digits))

section Digits

variable {cs ds : List Char}

theorem IsDigits.of_sublist (h : IsDigits ds) (hs : cs.Sublist ds) (hne : cs ≠ []) :
    IsDigits cs :=
  ⟨hne, fun c hc => h.isDigit c (hs.subset hc)⟩

theorem IsDigits.append_zeros (h : IsDigits ds) (n : ℕ) : IsDigits (ds ++ zeros n) :=
  ⟨List.append_ne_nil_of_left_ne_nil h.ne_nil _,
    List.forall_mem_append.2 ⟨h.isDigit, fun c hc => by rw [List.eq_of_mem_replicate hc]; rfl⟩⟩

theorem IsDigits.zeros_append (h : IsDigits ds) (n : ℕ) : IsDigits (zeros n ++ ds) :=
  ⟨List.append_ne_nil_of_right_ne_nil _ h.ne_nil,
    List.forall_mem_append.2 ⟨fun c hc => by rw [List.eq_of_mem_replicate hc]; rfl, h.isDigit⟩⟩

theorem IsDigits.isWhole (h : IsDigits ds) (h0 : ds.head? ≠ some '0') : IsWhole ds :=
  ⟨h, fun h' => absurd h' h0⟩

theorem isWhole_zero : IsWhole ['0'] := ⟨⟨by simp, by simp⟩, fun _ => rfl⟩

@[simp] theorem length_zeros (n : ℕ) : (zeros n).length = n := List.length_replicate

theorem number_zeros_append (n : ℕ) (ds : List Char) : number (zeros n ++ ds) = number ds := by
  simp [number, zeros, Nat.ofDigitChars_append]

theorem number_append_zeros (ds : List Char) (n : ℕ) :
    (number (ds ++ zeros n) : ℚ) = number ds * 10 ^ (n : ℤ) := by
  simp [number, zeros, Nat.ofDigitChars_append, mul_comm]

theorem decimalDigits_isDigits (n : ℕ) : IsDigits (decimalDigits n) :=
  ⟨Nat.toDigits_ne_nil, fun _ => Nat.isDigit_of_mem_toDigits (by decide) (by decide)⟩

theorem head_decimalDigits {n : ℕ} (h : n ≠ 0) : (decimalDigits n).head? ≠ some '0' := by
  induction n using Nat.strongRecOn with
  | ind n ih =>
    obtain small | large := Nat.lt_or_ge n 10
    · simpa [decimalDigits, Nat.toDigits_of_lt_base small] using h
    · rw [decimalDigits, Nat.toDigits_of_base_le (by decide) large,
        List.head?_append_of_ne_nil _ Nat.toDigits_ne_nil]
      exact ih (n / 10) (by omega) (by omega)

theorem decimalDigits_isWhole (n : ℕ) : IsWhole (decimalDigits n) := by
  obtain rfl | h := Decidable.eq_or_ne n 0
  · exact isWhole_zero
  · exact (decimalDigits_isDigits n).isWhole (head_decimalDigits h)

@[simp] theorem number_decimalDigits (n : ℕ) : number (decimalDigits n) = n :=
  Nat.ofDigitChars_ten_toDigits

end Digits

section Unique

variable {cs ds : List Char} {r s : ℚ}

theorem Plain.mem {c : Char} (h : Plain cs r) (hc : c ∈ cs) : c.isDigit ∨ c = '.' := by
  cases h with
  | whole hw => exact .inl (hw.isDigit c hc)
  | point hw hf =>
    obtain hc | hc := List.mem_append.1 hc
    · exact .inl (hw.isDigit c hc)
    · obtain rfl | hc := List.mem_cons.1 hc
      · exact .inr rfl
      · exact .inl (hf.isDigit c hc)

theorem IsDigits.point_not_mem (h : IsDigits ds) : '.' ∉ ds :=
  fun hc => absurd (h.isDigit '.' hc) (by decide)

theorem Plain.unique (h : Plain cs r) (k : Plain cs s) : r = s := by
  cases h with
  | whole hw =>
    generalize hcs : cs = ds at k
    cases k with
    | whole => subst hcs; rfl
    | point => exact absurd (by simp [hcs]) hw.point_not_mem
  | @point digits fraction hw hf =>
    generalize hcs : digits ++ '.' :: fraction = ds at k
    cases k with
    | whole kw => exact absurd (by simp [← hcs]) kw.point_not_mem
    | point kw kf =>
      obtain ⟨rfl, hfs⟩ := Markup.append_inj_of_head hw.isDigit kw.isDigit (by simp) (by simp) hcs
      rw [(List.cons.inj hfs).2]

theorem Plain.ne_mark (h : Plain cs r) : ∀ c ∈ cs, c != 'e' := by
  intro c hc
  obtain hd | rfl := h.mem hc
  · exact bne_iff_ne.2 fun he => absurd (he ▸ hd) (by decide)
  · rfl

theorem Literal.unique (h : Literal cs r) (k : Literal cs s) : r = s := by
  cases h with
  | plain hp =>
    generalize hcs : cs = ds at k
    cases k with
    | plain kp => exact hp.unique (hcs ▸ kp)
    | power => exact absurd (hp.ne_mark 'e' (by simp [hcs])) (by decide)
  | @power text digits _ hp negative hd =>
    generalize hcs : text ++ 'e' :: (if negative then '-' else '+') :: digits = ds at k
    cases k with
    | plain kp => exact absurd (kp.ne_mark 'e' (by simp [← hcs])) (by decide)
    | power kp negative' kd =>
      obtain ⟨rfl, hrest⟩ := Markup.append_inj_of_head hp.ne_mark kp.ne_mark (by simp) (by simp) hcs
      obtain ⟨hsign, rfl⟩ := List.cons.inj (List.cons.inj hrest).2
      obtain rfl : negative = negative' := by
        cases negative <;> cases negative' <;> first | rfl | exact absurd hsign (by decide)
      rw [hp.unique kp]

end Unique

theorem Plain.whole_zero {ds : List Char} (h : IsWhole ds) :
    Plain (ds ++ ['.', '0']) (number ds) := by
  have hp := Plain.point h isWhole_zero.toIsDigits
  rwa [show ['0'] = zeros 1 from rfl, number_append_zeros, length_zeros, mul_assoc,
    ← zpow_add₀ (by decide), add_neg_cancel, zpow_zero, mul_one] at hp

section Point

variable {ds : List Char} (hd : IsDigits ds) (h0 : ds.head? ≠ some '0')

include hd h0

theorem isWhole_append_zeros (n : ℕ) : IsWhole (ds ++ zeros n) :=
  (hd.append_zeros n).isWhole ((List.head?_append_of_ne_nil _ hd.ne_nil).trans_ne h0)

theorem isWhole_take {n : ℕ} (hn : n ≠ 0) : IsWhole (ds.take n) := by
  refine (hd.of_sublist (List.take_sublist n ds) ?_).isWhole ?_
  · simp [hd.ne_nil, hn]
  · rwa [List.head?_take, if_neg hn]

omit h0 in
theorem positional_of_nonneg {grid : ℤ} (hg : 0 ≤ grid) :
    positional ds (ds.length + grid) = ds ++ zeros grid.toNat := by
  have hlength : 0 < ds.length := List.length_pos_iff.2 hd.ne_nil
  rw [positional, if_neg (by omega), if_pos (by omega), add_sub_cancel_left]

theorem plain_positional (grid : ℤ) :
    Plain (positional ds (ds.length + grid)) (number ds * 10 ^ grid) := by
  obtain hg | hg := le_or_gt 0 grid
  · have h := Plain.whole (isWhole_append_zeros hd h0 grid.toNat)
    rw [number_append_zeros, Int.toNat_of_nonneg hg] at h
    rwa [positional_of_nonneg hd hg]
  unfold positional
  split
  case isTrue before =>
    have h := Plain.point isWhole_zero (hd.zeros_append (-(ds.length + grid)).toNat)
    have hgrid : -((zeros (-(ds.length + grid)).toNat ++ ds).length : ℤ) = grid := by
      simp only [List.length_append, length_zeros]
      omega
    rwa [hgrid, show ['0'] = zeros 1 from rfl, number_zeros_append, number_zeros_append] at h
  case isFalse among =>
    have h := Plain.point (isWhole_take hd h0 (n := (ds.length + grid).toNat) (by omega))
      (hd.of_sublist (List.drop_sublist (ds.length + grid).toNat ds) (by simp; omega))
    have hgrid : -((ds.drop (ds.length + grid).toNat).length : ℤ) = grid := by
      rw [List.length_drop]
      omega
    rw [hgrid, List.take_append_drop] at h
    rwa [if_neg (by omega)]

theorem plain_positional_zero {grid : ℤ} (hg : 0 ≤ grid) :
    Plain (positional ds (ds.length + grid) ++ ['.', '0']) (number ds * 10 ^ grid) := by
  have h := Plain.whole_zero (isWhole_append_zeros hd h0 grid.toNat)
  rw [number_append_zeros, Int.toNat_of_nonneg hg] at h
  rwa [positional_of_nonneg hd hg]

theorem literal_scientific {style : ExponentStyle} (hs : style.mark = 'e') (exponent : ℤ) :
    Literal (scientific style ds exponent) (number ds * 10 ^ (exponent + 1 - ds.length)) := by
  have h := plain_positional hd h0 (1 - ds.length)
  rw [add_sub_cancel] at h
  have hp := Literal.power h (exponent < 0) ((decimalDigits_isDigits exponent.natAbs).zeros_append
    (style.minDigits - (decimalDigits exponent.natAbs).length))
  have hexponent :
      (if exponent < 0 then -(exponent.natAbs : ℤ) else exponent.natAbs) = exponent := by
    split <;> omega
  simp only [number_zeros_append, number_decimalDigits, decide_eq_true_eq, hexponent] at hp
  rw [mul_assoc, ← zpow_add₀ (by decide), add_comm, ← add_sub_assoc] at hp
  rwa [scientific, ExponentStyle.write, hs]

end Point

end RecordMarkup.Number

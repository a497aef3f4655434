import RecordMarkup.Proofs.Number.Numeral
import RecordMarkup.Proofs.Number.Shortest
import RecordMarkup.Value.Written

namespace RecordMarkup.Number

section Parts

variable {a b : UInt64} {negative : Bool} {m : ℕ} {q : ℤ}

def bits (negative : Bool) (significand : ℕ) (exponent : ℤ) : ℕ :=
  (if negative then 2 ^ 63 else 0) +
    (if significand < hiddenBit then 0 else (exponent + 1075).toNat * hiddenBit) +
    significand % hiddenBit

theorem split_bits {n : ℕ} (h : n < 2 ^ 64) :
    n = (if decide (Nat.pow 2 63 ≤ n) then 2 ^ 63 else 0) +
      n / hiddenBit % Nat.pow 2 11 * hiddenBit + n % hiddenBit := by
  rw [show hiddenBit = 2 ^ 52 from rfl, show Nat.pow 2 11 = 2 ^ 11 from rfl,
    show Nat.pow 2 63 = 2 ^ 63 from rfl]
  split
  case isTrue hn => rw [decide_eq_true_eq] at hn; omega
  case isFalse hn => rw [decide_eq_true_eq] at hn; omega

namespace FloatParts

theorem toNat_of_ofBits (h : ofBits a = .finite negative m q) : a.toNat = bits negative m q := by
  have hfraction : a.toNat % hiddenBit < hiddenBit := Nat.mod_lt _ (by decide)
  rw [split_bits a.toNat_lt, bits]
  unfold ofBits at h
  dsimp only at h
  split at h
  · split at h <;> cases h
  split at h
  case isTrue hbiased =>
    cases h
    rw [hbiased, Nat.zero_mul, if_pos hfraction, Nat.mod_mod]
  case isFalse hbiased =>
    cases h
    rw [if_neg (Nat.not_lt.2 (Nat.le_add_right ..)), Nat.add_mod_left, Nat.mod_mod, sub_add_cancel,
      Int.toNat_natCast]

theorem ofBits_inj (ha : ofBits a = .finite negative m q) (hb : ofBits b = .finite negative m q) :
    a = b :=
  UInt64.toNat_inj.1 ((toNat_of_ofBits ha).trans (toNat_of_ofBits hb).symm)

theorem isDouble_of_ofBits (h : ofBits a = .finite negative m q) : IsDouble m q := by
  have hfraction : a.toNat % hiddenBit < hiddenBit := Nat.mod_lt _ (by decide)
  unfold ofBits at h
  dsimp only at h
  split at h
  · split at h <;> cases h
  split at h
  · cases h
    exact ⟨by omega, le_refl _, .inl rfl⟩
  · cases h
    exact ⟨by omega, by omega, .inr (Nat.le_add_right _ _)⟩

end FloatParts

theorem integral?_eq_some_iff {n : ℕ} : integral? m q = some n ↔ magnitude m q = n := by
  unfold integral?
  split
  case isTrue hq =>
    obtain ⟨k, rfl⟩ := Int.eq_ofNat_of_zero_le hq
    rw [Option.some_inj, ← Nat.cast_inj (R := ℚ)]
    simp [magnitude, power]
  case isFalse hq =>
    obtain ⟨k, rfl⟩ := Int.exists_eq_neg_ofNat (not_le.1 hq).le
    have hpow : power 2 (- -(k : ℤ)) = 2 ^ k := by simp [power]
    have hmag : magnitude m (-k) = n ↔ m = n * 2 ^ k := by
      rw [magnitude, zpow_neg, zpow_natCast, mul_inv_eq_iff_eq_mul₀ (by positivity)]
      exact_mod_cast Iff.rfl
    rw [hpow, hmag]
    constructor
    · intro h
      split at h
      case isTrue hmod =>
        rw [← Option.some_inj.1 h, Nat.div_mul_cancel (Nat.dvd_of_mod_eq_zero hmod)]
      case isFalse => cases h
    · rintro rfl
      rw [if_pos (Nat.mul_mod_left ..), Nat.mul_div_cancel _ (by positivity)]

end Parts

section Texts

variable {m d : ℕ} {q : ℤ}

theorem plain_decimalDigits (n : ℕ) : Plain (decimalDigits n) n := by
  have h := Plain.whole (decimalDigits_isWhole n)
  rwa [number_decimalDigits] at h

theorem plain_decimal (hd : d ≠ 0) (g : ℤ) :
    Plain (positional (decimalDigits d) ((decimalDigits d).length + g)) (decimal (d, g)) := by
  have h := plain_positional (decimalDigits_isDigits d) (head_decimalDigits hd) g
  rwa [number_decimalDigits] at h

theorem significand_ne_zero (hn : ∀ n : ℕ, magnitude m q ≠ n) : m ≠ 0 :=
  fun h0 => hn 0 (by simp [magnitude, h0])

theorem plainFinite_whole (negative : Bool) {n : ℕ} (hn : magnitude m q = n) :
    plainFinite negative m q = signed negative (decimalDigits n) := by
  rw [plainFinite, integral?_eq_some_iff.2 hn]

theorem plainFinite_fraction (negative : Bool) (h : IsDouble m q)
    (hn : ∀ n : ℕ, magnitude m q ≠ n) :
    ∃ cs, plainFinite negative m q = signed negative cs ∧ Plain cs (decimal (shortest m q)) := by
  have hnone : integral? m q = none :=
    Option.eq_none_iff_forall_ne_some.2 fun n h => hn n (integral?_eq_some_iff.1 h)
  rw [plainFinite, hnone]
  exact ⟨_, rfl, plain_decimal (shortest_ne_zero (significand_ne_zero hn) h) _⟩

theorem plainFinite_rounds (negative : Bool) (h : IsDouble m q) :
    ∃ cs r, plainFinite negative m q = signed negative cs ∧ Plain cs r ∧ RoundsTo r m q := by
  by_cases hn : ∃ n : ℕ, magnitude m q = n
  · obtain ⟨n, hn⟩ := hn
    exact ⟨_, _, plainFinite_whole negative hn, plain_decimalDigits n, hn ▸ .self h⟩
  · push Not at hn
    obtain ⟨cs, hcs, hp⟩ := plainFinite_fraction negative h hn
    exact ⟨cs, _, hcs, hp, roundsTo_shortest (significand_ne_zero hn) h⟩

theorem literalFinite_shortest (negative : Bool) (hm : m ≠ 0) (h : IsDouble m q) :
    ∃ cs, literalFinite negative m q = signed negative cs ∧ Literal cs (decimal (shortest m q)) := by
  have hne := shortest_ne_zero hm h
  rw [literalFinite, if_neg hm]
  generalize shortest m q = s at hne
  obtain ⟨d, g⟩ := s
  have hd := decimalDigits_isDigits d
  have h0 := head_decimalDigits hne
  have hnumber := number_decimalDigits d
  refine ⟨_, rfl, ?_⟩
  dsimp only
  generalize decimalDigits d = ds at *
  subst hnumber
  split
  · split
    case isTrue hpoint => exact .plain (plain_positional_zero hd h0 (by omega))
    case isFalse =>
      rw [List.append_nil]
      exact .plain (plain_positional hd h0 g)
  · have hs := literal_scientific hd h0 (rfl : literalExponent.mark = 'e') (ds.length + g - 1)
    rwa [sub_add_cancel, add_sub_cancel_left] at hs

theorem literalFinite_rounds (negative : Bool) (h : IsDouble m q) :
    ∃ cs r, literalFinite negative m q = signed negative cs ∧ Literal cs r ∧ RoundsTo r m q := by
  obtain rfl | hm := Decidable.eq_or_ne m 0
  · have hz : magnitude 0 q = (number ['0'] : ℚ) := by simp [magnitude]; rfl
    exact ⟨_, _, rfl, .plain (Plain.whole_zero isWhole_zero), hz ▸ .self h⟩
  · obtain ⟨cs, hcs, hp⟩ := literalFinite_shortest negative hm h
    exact ⟨cs, _, hcs, hp, roundsTo_shortest hm h⟩

end Texts

/-- The text is a numeral of the kind behind its sign, and can be read as no other number. -/
def Denotes (kind : List Char → ℚ → Prop) (negative : Bool) (text : String) (r : ℚ) : Prop :=
  ∃ cs, text.toList = signed negative cs ∧ ∀ s, kind cs s ↔ s = r

section Denotes

variable {cs ds : List Char} {negative negative' : Bool} {text : String} {r s : ℚ}

theorem Plain.denotes (h : Plain cs r) (ht : text.toList = signed negative cs) :
    Denotes Plain negative text r :=
  ⟨cs, ht, fun _ => ⟨fun k => k.unique h, fun he => he ▸ h⟩⟩

theorem Literal.denotes (h : Literal cs r) (ht : text.toList = signed negative cs) :
    Denotes Literal negative text r :=
  ⟨cs, ht, fun _ => ⟨fun k => k.unique h, fun he => he ▸ h⟩⟩

theorem Plain.signed_inj (h : Plain cs r) (k : Plain ds s)
    (hs : signed negative cs = signed negative' ds) : negative = negative' ∧ cs = ds := by
  have sign {es : List Char} {t : ℚ} (he : Plain es t) : '-' ∉ es := fun hc =>
    absurd (he.mem hc) (by decide)
  cases negative <;> cases negative'
  · exact ⟨rfl, hs⟩
  · obtain rfl : cs = '-' :: ds := hs
    exact absurd List.mem_cons_self (sign h)
  · obtain rfl : '-' :: cs = ds := hs
    exact absurd List.mem_cons_self (sign k)
  · exact ⟨rfl, (List.cons.inj hs).2⟩

end Denotes

section Float

variable {x y : Float} {negative negative' : Bool} {m n : ℕ} {p q : ℤ}

theorem toList_canonical (h : FloatParts.of x = .finite negative m q) :
    (Value.float x).canonical.toList = plainFinite negative m q := by
  rw [Value.canonical, plainFloat, h, String.toList_ofList]

theorem toList_literal (h : FloatParts.of x = .finite negative m q) :
    (Value.float x).literal.toList = literalFinite negative m q := by
  rw [show (Value.float x).literal = literalFloat x from rfl, literalFloat, h,
    String.toList_ofList]

theorem canonical_whole (h : FloatParts.of x = .finite negative m q) (hn : magnitude m q = n) :
    (Value.float x).canonical = (if negative then "-" else "") ++ toString n := by
  rw [← String.toList_inj, toList_canonical h, plainFinite_whole negative hn,
    Nat.toString_eq_ofList_toDigits]
  cases negative <;> simp [signed, decimalDigits]

theorem toBits_eq_of_canonical (hx : FloatParts.of x = .finite negative m q)
    (hy : FloatParts.of y = .finite negative' n p)
    (h : (Value.float x).canonical = (Value.float y).canonical) : x.toBits = y.toBits := by
  obtain ⟨cs, r, hcs, hr, hxr⟩ := plainFinite_rounds negative (FloatParts.isDouble_of_ofBits hx)
  obtain ⟨ds, s, hds, hs, hys⟩ := plainFinite_rounds negative' (FloatParts.isDouble_of_ofBits hy)
  rw [← String.toList_inj, toList_canonical hx, toList_canonical hy, hcs, hds] at h
  obtain ⟨rfl, rfl⟩ := hr.signed_inj hs h
  obtain rfl := hr.unique hs
  obtain ⟨rfl, rfl⟩ := hxr.unique hys
  exact FloatParts.ofBits_inj hx hy

/-- The literal text of a finite double reads back as it. Its canonical text has no exponent, is the
whole number if the double is one and the number of the literal if not, and belongs to no other
double. -/
theorem canonical_float_exact (h : FloatParts.of x = .finite negative m q) :
    (∃ r s, Denotes Plain negative (Value.float x).canonical r ∧
      Denotes Literal negative (Value.float x).literal s ∧ IsNearest s m q ∧
      (∀ n : ℕ, magnitude m q = n → r = n ∧
        (Value.float x).canonical = (if negative then "-" else "") ++ toString n) ∧
      ((∀ n : ℕ, magnitude m q ≠ n) → r = s)) ∧
    ∀ {y negative' n p}, FloatParts.of y = .finite negative' n p → y.toBits ≠ x.toBits →
      (Value.float y).canonical ≠ (Value.float x).canonical := by
  have hd := FloatParts.isDouble_of_ofBits h
  refine ⟨?_, fun hy hne heq => hne (toBits_eq_of_canonical hy h heq)⟩
  by_cases hn : ∃ n : ℕ, magnitude m q = n
  · obtain ⟨n, hn⟩ := hn
    obtain ⟨cs, s, hcs, hs, hr⟩ := literalFinite_rounds negative hd
    refine ⟨n, s, (plain_decimalDigits n).denotes ?_, hs.denotes ((toList_literal h).trans hcs),
      hr.isNearest, fun k hk => ⟨hn.symm.trans hk, canonical_whole h hk⟩,
      fun hno => absurd hn (hno n)⟩
    rw [toList_canonical h, plainFinite_whole negative hn]
  · push Not at hn
    have hm := significand_ne_zero hn
    obtain ⟨cs, hcs, hp⟩ := plainFinite_fraction negative hd hn
    obtain ⟨ds, hds, hl⟩ := literalFinite_shortest negative hm hd
    exact ⟨_, _, hp.denotes ((toList_canonical h).trans hcs),
      hl.denotes ((toList_literal h).trans hds), (roundsTo_shortest hm hd).isNearest,
      fun n hn' => absurd hn' (hn n), fun _ => rfl⟩

theorem canonical_float_exact_tenMillionth :
    FloatParts.of 1e-7 = .finite false 0x1AD7F29ABCAF48 (-76) ∧
    (∀ n : ℕ, magnitude 0x1AD7F29ABCAF48 (-76) ≠ n) ∧
    (∃ r, Denotes Plain false "0.0000001" r ∧ Denotes Literal false "1e-07" r ∧
      IsNearest r 0x1AD7F29ABCAF48 (-76)) ∧
    FloatParts.of 1e-6 = .finite false 0x10C6F7A0B5ED8D (-72) ∧
    (Value.float 1e-6).canonical ≠ "0.0000001" := by
  have hparts : FloatParts.of 1e-7 = .finite false 0x1AD7F29ABCAF48 (-76) := by decide
  have hparts' : FloatParts.of 1e-6 = .finite false 0x10C6F7A0B5ED8D (-72) := by decide
  have hfraction : ∀ n : ℕ, magnitude 0x1AD7F29ABCAF48 (-76) ≠ n := by
    intro n hn
    have hnone : integral? 0x1AD7F29ABCAF48 (-76) = none := by decide
    rw [integral?_eq_some_iff.2 hn] at hnone
    cases hnone
  have hplain : (Value.float 1e-7).canonical = "0.0000001" := by decide +kernel
  have hliteral : (Value.float 1e-7).literal = "1e-07" := by decide +kernel
  obtain ⟨⟨r, s, hp, hl, hs, -, hrs⟩, hne⟩ := canonical_float_exact hparts
  rw [hplain] at hp hne
  rw [hliteral] at hl
  obtain rfl := hrs hfraction
  exact ⟨hparts, hfraction, ⟨r, hp, hl, hs⟩, hparts', hne hparts' (by decide)⟩

example : (Value.float (-0.0)).canonical = "-0" := by decide +kernel

end Float

end RecordMarkup.Number

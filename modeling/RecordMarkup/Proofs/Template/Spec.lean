import Mathlib.Data.List.TakeWhile
import RecordMarkup.Template.Spec

namespace RecordMarkup.Template

def isDigit (c : Char) : Bool := (Text.digitValue? c).isSome

def decimal (digits : List Char) : Nat :=
  digits.foldl (fun n c => 10 * n + (Text.digitValue? c).getD 0) 0

def IsNumber (digits : List Char) : Prop :=
  (∀ c ∈ digits, isDigit c = true) ∧ decimal digits ≤ Spec.numberLimit

inductive IsAlignment : List Char → Prop
  | absent : IsAlignment []
  | plain {a : Char} : a ∈ ['<', '>', '^'] → IsAlignment [a]
  | filled {a : Char} (fill : Char) : a ∈ ['<', '>', '^'] → IsAlignment [fill, a]

inductive IsPrecision : List Char → Prop
  | absent : IsPrecision []
  | point {digits : List Char} : digits ≠ [] → IsNumber digits → IsPrecision ('.' :: digits)

inductive IsTextCode : List Char → Prop
  | absent : IsTextCode []
  | text : IsTextCode ['s']

/-- What may follow the alignment: width, precision and code. A zero before the width is one of its
digits. -/
def IsMeasure (cs : List Char) : Prop :=
  ∃ width precision code, IsNumber width ∧ IsPrecision precision ∧ IsTextCode code ∧
    cs = width ++ (precision ++ code)

/-- `[[fill]align][width][.precision][s]` -/
def AppliesToText (spec : List Char) : Prop :=
  ∃ alignment measure, IsAlignment alignment ∧ IsMeasure measure ∧ spec = alignment ++ measure

theorem decimal_zero_cons (digits : List Char) : decimal ('0' :: digits) = decimal digits := rfl

namespace Spec

variable {cs rest digits : List Char}

/-! Digits -/

theorem takeNumber_append (value : Option Nat) (hd : ∀ c ∈ digits, isDigit c = true)
    (hr : ∀ c ∈ rest.head?, isDigit c = false) :
    takeNumber value (digits ++ rest) =
      (if digits = [] then value
        else some (digits.foldl (fun n c => 10 * n + (Text.digitValue? c).getD 0) (value.getD 0)),
        rest) := by
  induction digits generalizing value with
  | nil =>
    cases rest with
    | nil => rfl
    | cons c rest =>
      have hc : Text.digitValue? c = none := by simpa [isDigit] using hr c rfl
      simp [takeNumber, hc]
  | cons c digits ih =>
    obtain ⟨d, hc⟩ := Option.isSome_iff_exists.1 (hd c (.head _))
    rw [List.cons_append, takeNumber, hc]
    simp only
    rw [ih _ fun x hx => hd x (.tail _ hx)]
    simp only [reduceCtorEq, if_false, List.foldl_cons, hc, Option.getD_some]
    split
    next h => simp [h]
    next => rfl

theorem exists_digits (cs : List Char) : ∃ digits rest, cs = digits ++ rest ∧
    (∀ c ∈ digits, isDigit c = true) ∧ ∀ c ∈ rest.head?, isDigit c = false := by
  refine ⟨cs.takeWhile isDigit, cs.dropWhile isDigit, List.takeWhile_append_dropWhile.symm,
    fun c hc => List.mem_takeWhile_imp hc, fun c hc => ?_⟩
  have first := List.head?_dropWhile_not isDigit cs
  rw [Option.mem_def.1 hc] at first
  exact first

theorem takeLimited_append (hd : ∀ c ∈ digits, isDigit c = true)
    (hr : ∀ c ∈ rest.head?, isDigit c = false) :
    takeLimited (digits ++ rest) =
      if numberLimit < decimal digits then .error .tooManyDigits
      else .ok (if digits = [] then none else some (decimal digits), rest) := by
  rw [takeLimited, takeNumber_append none hd hr]
  by_cases h : digits = []
  · subst h
    simp [decimal, numberLimit]
  · simp [h, decimal]

theorem takeLimited_complete (h : IsNumber digits) (hr : ∀ c ∈ rest.head?, isDigit c = false) :
    takeLimited (digits ++ rest) =
      .ok (if digits = [] then none else some (decimal digits), rest) := by
  rw [takeLimited_append h.1 hr, if_neg (Nat.not_lt.2 h.2)]

theorem takeLimited_sound {number : Option Nat} (h : takeLimited cs = .ok (number, rest)) :
    ∃ digits, IsNumber digits ∧ (number = none ↔ digits = []) ∧ cs = digits ++ rest := by
  obtain ⟨digits, after, rfl, hd, hr⟩ := exists_digits cs
  rw [takeLimited_append hd hr] at h
  split at h
  next => cases h
  next hl =>
    obtain ⟨rfl, rfl⟩ := Prod.mk.inj (Except.ok.inj h)
    exact ⟨digits, ⟨hd, Nat.not_lt.1 hl⟩, by simp, rfl⟩

/-! Marks -/

theorem takeOneOf_complete {marks : List Char} (h : ∀ c ∈ cs.head?, c ∉ marks) :
    takeOneOf marks cs = (none, cs) := by
  cases cs with
  | nil => rfl
  | cons c cs => simp [takeOneOf, h c rfl]

theorem takeOneOf_sound {marks : List Char} (h : (takeOneOf marks cs).1 = none) :
    (takeOneOf marks cs).2 = cs := by
  cases cs with
  | nil => rfl
  | cons c cs =>
    rw [takeOneOf] at h ⊢
    split at h
    next => cases h
    next hc => rw [if_neg hc]

theorem width_of_padded (fill : Option Char) {width : List Char} (hn : IsNumber width)
    (h : (if fill.isNone then takeOneOf ['0'] cs else (none, cs)).2 = width ++ rest) :
    ∃ digits, IsNumber digits ∧ cs = digits ++ rest := by
  split at h
  next =>
    cases cs with
    | nil => exact ⟨width, hn, h⟩
    | cons c cs =>
      rw [takeOneOf] at h
      split at h
      next hc =>
        obtain rfl : c = '0' := by simpa using hc
        refine ⟨'0' :: width, ⟨List.forall_mem_cons.2 ⟨by decide, hn.1⟩, ?_⟩, congrArg _ h⟩
        rw [decimal_zero_cons]
        exact hn.2
      next => exact ⟨width, hn, h⟩
  next => exact ⟨width, hn, h⟩

theorem takePrecision_complete {precision : List Char} (h : IsPrecision precision)
    (hr : ∀ c ∈ rest.head?, isDigit c = false ∧ c ≠ '.') :
    ∃ number, takePrecision (precision ++ rest) = .ok (number, rest) := by
  cases h with
  | absent =>
    refine ⟨none, ?_⟩
    cases rest with
    | nil => rfl
    | cons c rest =>
      have hc := (hr c rfl).2
      simp only [List.nil_append]
      unfold takePrecision
      split
      next he => exact absurd (List.cons.inj he).1 hc
      next => rfl
  | @point digits hne hn =>
    refine ⟨some (decimal digits), ?_⟩
    rw [List.cons_append, takePrecision, takeLimited_complete hn fun c hc => (hr c hc).1]
    simp [bind, Except.bind, hne]

theorem takePrecision_sound {number : Option Nat} (h : takePrecision cs = .ok (number, rest)) :
    ∃ precision, IsPrecision precision ∧ cs = precision ++ rest := by
  unfold takePrecision at h
  split at h
  next cs =>
    match hl : takeLimited cs with
    | .error e => simp [hl, bind, Except.bind] at h
    | .ok (none, after) => simp [hl, bind, Except.bind] at h
    | .ok (some n, after) =>
      simp only [hl, bind, Except.bind, Except.ok.injEq, Prod.mk.injEq] at h
      obtain ⟨-, rfl⟩ := h
      obtain ⟨digits, hn, hd, rfl⟩ := takeLimited_sound hl
      exact ⟨'.' :: digits, .point (by simpa using hd) hn, rfl⟩
  next => exact ⟨[], .absent, (Prod.mk.inj (Except.ok.inj h)).2⟩

theorem takeCode_sound {spec : List Char} (h : takeCode spec cs = .ok 's') : IsTextCode cs := by
  unfold takeCode at h
  split at h
  next => exact .absent
  next =>
    obtain rfl := Except.ok.inj h
    exact .text
  next => cases h

theorem takeCode_complete {code : List Char} (spec : List Char) (h : IsTextCode code) :
    takeCode spec code = .ok 's' := by
  cases h <;> rfl

theorem takeSeparator_sound (h : takeSeparator cs = .ok (none, rest)) : cs = rest := by
  simp only [takeSeparator] at h
  split at h
  next => cases h
  next => cases h
  next =>
    obtain ⟨hn, rfl⟩ := Prod.mk.inj (Except.ok.inj h)
    obtain ⟨hc, hu⟩ := Option.or_eq_none_iff.1 hn
    rw [takeOneOf_sound hu, takeOneOf_sound hc]

theorem takeSeparator_complete (h : ∀ c ∈ cs.head?, c ≠ ',' ∧ c ≠ '_') :
    takeSeparator cs = .ok (none, cs) := by
  have comma : takeOneOf [','] cs = (none, cs) :=
    takeOneOf_complete fun c hc => by simpa using (h c hc).1
  have underscore : takeOneOf ['_'] cs = (none, cs) :=
    takeOneOf_complete fun c hc => by simpa using (h c hc).2
  rw [takeSeparator, comma]
  simp only [underscore, Option.or_none]

/-! Alignment -/

theorem ofChar?_eq_none {c : Char} : Align.ofChar? c = none ↔ c ∉ ['<', '>', '^', '='] := by
  unfold Align.ofChar?
  split <;> simp_all

theorem isAlignment_of_ofChar? {a : Char} {align : Align} (h : Align.ofChar? a = some align)
    (hn : align ≠ .afterSign) : a ∈ ['<', '>', '^'] := by
  unfold Align.ofChar? at h
  split at h <;> simp_all

theorem takeAlign_sound {spec : List Char} (ha : (takeAlign spec).2.1 ≠ some .afterSign) :
    ∃ alignment, IsAlignment alignment ∧ spec = alignment ++ (takeAlign spec).2.2 := by
  unfold takeAlign at ha ⊢
  split
  next => exact ⟨[], .absent, rfl⟩
  next a =>
    split
    next align h =>
      simp only [h] at ha
      exact ⟨[a], .plain (isAlignment_of_ofChar? h (by simpa using ha)), rfl⟩
    next => exact ⟨[], .absent, rfl⟩
  next fill a rest =>
    split
    next align h =>
      simp only [h] at ha
      exact ⟨[fill, a], .filled fill (isAlignment_of_ofChar? h (by simpa using ha)), rfl⟩
    next align hn h =>
      simp only [hn, h] at ha
      exact ⟨[fill], .plain (isAlignment_of_ofChar? h (by simpa using ha)), rfl⟩
    next => exact ⟨[], .absent, rfl⟩

theorem of_parse_ok {spec : List Char} {s : Spec} (h : parse spec = .ok s) :
    (takeAlign spec).2.1 ≠ some .afterSign ∧ ∃ width afterWidth afterMark precision code,
      takeLimited (if (takeAlign spec).1.isNone then takeOneOf ['0'] (takeAlign spec).2.2
        else (none, (takeAlign spec).2.2)).2 = .ok (width, afterWidth) ∧
      takeSeparator afterWidth = .ok (none, afterMark) ∧
      takePrecision afterMark = .ok (precision, code) ∧ takeCode spec code = .ok 's' ∧
      s.fill = ((takeAlign spec).1.or (if (takeAlign spec).1.isNone then
        takeOneOf ['0'] (takeAlign spec).2.2 else (none, (takeAlign spec).2.2)).1).getD ' ' := by
  rw [parse] at h
  simp only [bind, Except.bind, throw, throwThe, MonadExceptOf.throw, pure, Except.pure] at h
  split at h
  next => cases h
  next width hw =>
  split at h
  next => cases h
  next separator hs =>
  split at h
  next => cases h
  next precision hp =>
  split at h
  next => cases h
  next code hc =>
  split at h
  next mark hm =>
    -- no mark stands between the digits of what is shown as text
    have refused : allowsSeparator mark 's' = false := by simp [allowsSeparator]
    split at h
    next => cases h
    next ha =>
      split at h
      next => cases h
      next ht =>
        rw [not_not.1 ht, refused] at ha
        simp at ha
  next hm =>
  split at h
  next => cases h
  next ht =>
  split at h
  next => cases h
  next => cases h
  next hsign =>
  split at h
  next => cases h
  next hz =>
  split at h
  next => cases h
  next halt =>
  split at h
  next => cases h
  next ha =>
  obtain rfl := not_not.1 ht
  have hfill := congrArg Spec.fill (Except.ok.inj h)
  rw [takeOneOf_sound hsign] at hz
  have hz := Option.not_isSome_iff_eq_none.1 hz
  rw [takeOneOf_sound hsign, takeOneOf_sound hz] at halt
  have halt := Option.not_isSome_iff_eq_none.1 halt
  rw [takeOneOf_sound hsign, takeOneOf_sound hz, takeOneOf_sound halt] at hw hfill
  obtain ⟨mark, afterMark⟩ := separator
  obtain rfl : mark = none := Option.eq_none_iff_forall_ne_some.2 hm
  exact ⟨fun he => ha (by rw [he]; rfl), _, _, _, _, _, hw, hs, hp, hc, hfill.symm⟩

theorem takeOneOf_mem {marks : List Char} {c : Char} (h : (takeOneOf marks cs).1 = some c) :
    c ∈ cs := by
  cases cs with
  | nil => cases h
  | cons d cs =>
    rw [takeOneOf] at h
    split at h
    next =>
      cases h
      exact .head _
    next => cases h

theorem takeAlign_mem (spec : List Char) :
    (∀ c, (takeAlign spec).1 = some c → c ∈ spec) ∧ (takeAlign spec).2.2 ⊆ spec := by
  unfold takeAlign
  split
  next => simp
  next => split <;> simp
  next => split <;> simp

theorem fill_of_parse {spec : List Char} {s : Spec} (h : parse spec = .ok s) :
    s.fill ∈ ' ' :: spec := by
  obtain ⟨-, _, _, _, _, _, -, -, -, -, hf⟩ := of_parse_ok h
  obtain ⟨own, rest⟩ := takeAlign_mem spec
  rw [hf]
  cases ha : (takeAlign spec).1 with
  | some c => exact .tail _ (own c ha)
  | none =>
    simp only [Option.isNone_none, if_true, Option.none_or]
    cases hz : (takeOneOf ['0'] (takeAlign spec).2.2).1 with
    | some c => exact .tail _ (rest (takeOneOf_mem hz))
    | none => exact .head _

theorem parse_sound {spec : List Char} {s : Spec} (h : parse spec = .ok s) : AppliesToText spec := by
  obtain ⟨ha, _, _, _, _, code, hw, hs, hp, hc, -⟩ := of_parse_ok h
  obtain ⟨alignment, hal, hspec⟩ := takeAlign_sound ha
  obtain ⟨digits, hn, -, hd⟩ := takeLimited_sound hw
  obtain ⟨width, hn, hd⟩ := width_of_padded _ hn hd
  obtain ⟨precision, hpn, hpd⟩ := takePrecision_sound hp
  refine ⟨alignment, _, hal, ⟨width, precision, code, hn, hpn, takeCode_sound hc, rfl⟩, ?_⟩
  rw [← hpd, ← takeSeparator_sound hs, ← hd]
  exact hspec

/-! Acceptance -/

theorem mem_of_isPrecision {precision : List Char} (h : IsPrecision precision) :
    ∀ c ∈ precision, isDigit c = true ∨ c = '.' := by
  cases h with
  | absent => simp
  | point _ hn => exact List.forall_mem_cons.2 ⟨.inr rfl, fun c hc => .inl (hn.1 c hc)⟩

theorem mem_of_isMeasure (h : IsMeasure cs) :
    ∀ c ∈ cs, isDigit c = true ∨ c = '.' ∨ c = 's' := by
  obtain ⟨width, precision, code, hn, hp, hc, rfl⟩ := h
  intro c hm
  obtain hm | hm | hm : c ∈ width ∨ c ∈ precision ∨ c ∈ code := by simpa using hm
  · exact .inl (hn.1 c hm)
  · exact (mem_of_isPrecision hp c hm).imp_right .inl
  · cases hc with
    | absent => cases hm
    | text => exact .inr (.inr (List.mem_singleton.1 hm))

theorem plain_of_isMeasure (h : IsMeasure cs) :
    ∀ c ∈ cs, c ∉ ['<', '>', '^', '=', '+', '-', ' ', 'z', '#'] := by
  intro c hc hm
  obtain hd | rfl | rfl := mem_of_isMeasure h c hc
  · have marks : ['<', '>', '^', '=', '+', '-', ' ', 'z', '#'].all (!isDigit ·) = true := by decide
    simpa [hd] using List.all_eq_true.1 marks c hm
  · exact absurd hm (by decide)
  · exact absurd hm (by decide)

theorem head_of_tail {precision code : List Char} (hp : IsPrecision precision)
    (hc : IsTextCode code) : ∀ c ∈ (precision ++ code).head?, c = '.' ∨ c = 's' := by
  cases hp <;> cases hc <;> simp

theorem isMeasure_of_zero_cons (h : IsMeasure ('0' :: cs)) : IsMeasure cs := by
  obtain ⟨width, precision, code, hn, hp, hc, he⟩ := h
  cases width with
  | nil =>
    rw [List.nil_append] at he
    exact absurd (head_of_tail hp hc '0' (by rw [← he]; rfl)) (by decide)
  | cons c width =>
    obtain ⟨rfl, rfl⟩ := List.cons.inj he
    refine ⟨width, precision, code, ⟨(List.forall_mem_cons.1 hn.1).2, ?_⟩, hp, hc, rfl⟩
    rw [← decimal_zero_cons]
    exact hn.2

theorem ofChar?_of_isMeasure (h : IsMeasure cs) : ∀ c ∈ cs, Align.ofChar? c = none := by
  have within : ['<', '>', '^', '='] ⊆ ['<', '>', '^', '=', '+', '-', ' ', 'z', '#'] := by decide
  exact fun c hc => ofChar?_eq_none.2 fun hm => plain_of_isMeasure h c hc (within hm)

theorem takeAlign_complete {alignment : List Char} (ha : IsAlignment alignment) (h : IsMeasure cs) :
    ∃ fill align, takeAlign (alignment ++ cs) = (fill, align, cs) ∧ align ≠ some .afterSign := by
  have plain := ofChar?_of_isMeasure h
  have known : ∀ a ∈ ['<', '>', '^'], ∃ align, Align.ofChar? a = some align ∧ align ≠ .afterSign := by
    simp [Align.ofChar?]
  cases ha with
  | absent =>
    refine ⟨none, none, ?_, by simp⟩
    match cs with
    | [] => rfl
    | [a] => simp [takeAlign, plain a (.head _)]
    | a :: b :: cs => simp [takeAlign, plain a (.head _), plain b (.tail _ (.head _))]
  | @plain a hm =>
    obtain ⟨align, ha, hne⟩ := known a hm
    refine ⟨none, some align, ?_, by simpa using hne⟩
    match cs with
    | [] => simp [takeAlign, ha]
    | b :: cs => simp [takeAlign, ha, plain b (.head _)]
  | @filled a fill hm =>
    obtain ⟨align, ha, hne⟩ := known a hm
    exact ⟨some fill, some align, by simp [takeAlign, ha], by simpa using hne⟩

theorem exists_padded (fill : Option Char) (h : IsMeasure cs) :
    ∃ padding measure, (if fill.isNone then takeOneOf ['0'] cs else (none, cs)) = (padding, measure) ∧
      IsMeasure measure := by
  split
  next =>
    by_cases hz : ∃ rest, cs = '0' :: rest
    · obtain ⟨rest, rfl⟩ := hz
      exact ⟨some '0', rest, by simp [takeOneOf], isMeasure_of_zero_cons h⟩
    · refine ⟨none, cs, takeOneOf_complete fun c hc hm => hz ?_, h⟩
      rw [List.mem_singleton.1 hm] at hc
      exact List.head?_eq_some_iff.1 hc
  next => exact ⟨none, cs, rfl, h⟩

theorem parse_complete {spec : List Char} (h : AppliesToText spec) : ∃ s, parse spec = .ok s := by
  obtain ⟨alignment, measure, ha, hm, rfl⟩ := h
  obtain ⟨fill, align, htake, hne⟩ := takeAlign_complete ha hm
  have skips : ∀ marks ⊆ ['<', '>', '^', '=', '+', '-', ' ', 'z', '#'],
      takeOneOf marks measure = (none, measure) := fun marks hsub =>
    takeOneOf_complete fun c hc hin => plain_of_isMeasure hm c (List.mem_of_mem_head? hc) (hsub hin)
  obtain ⟨padding, padded, hpad, width, precision, code, hn, hp, hc, rfl⟩ := exists_padded fill hm
  have tail : ∀ c ∈ (precision ++ code).head?, c = '.' ∨ c = 's' := head_of_tail hp hc
  have hwidth := takeLimited_complete hn fun c hc => show isDigit c = false by
    obtain rfl | rfl := tail c hc <;> decide
  have hsep : takeSeparator (precision ++ code) = .ok (none, precision ++ code) :=
    takeSeparator_complete fun c hc => by obtain rfl | rfl := tail c hc <;> decide
  have last : ∀ c ∈ code.head?, isDigit c = false ∧ c ≠ '.' := by
    cases hc with
    | absent => simp
    | text => simpa using by decide
  obtain ⟨number, hprec⟩ := takePrecision_complete hp last
  have halign : align.getD .left ≠ .afterSign := by
    cases align with
    | none => decide
    | some => simpa using hne
  rw [parse]
  simp only [htake, skips ['+', '-', ' '] (by decide), skips ['z'] (by decide),
    skips ['#'] (by decide), hpad, hwidth, hsep, hprec, takeCode_complete _ hc, bind, Except.bind]
  simp [halign, pure, Except.pure]

theorem parse_ok_iff {spec : List Char} : (∃ s, parse spec = .ok s) ↔ AppliesToText spec :=
  ⟨fun ⟨_, h⟩ => parse_sound h, parse_complete⟩

end Spec

end RecordMarkup.Template

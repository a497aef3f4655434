import RecordMarkup.Format
import RecordMarkup.Proofs.Text.Name

namespace RecordMarkup

namespace Text.Percent

def upperDigits : List Char := "0123456789ABCDEF".toList

inductive Escaped (plain : Char → Prop) : List Char → Prop
  | nil : Escaped plain []
  | char {c : Char} {cs : List Char} : plain c → Escaped plain cs → Escaped plain (c :: cs)
  | escape {h l : Char} {cs : List Char} : h ∈ upperDigits → l ∈ upperDigits → Escaped plain cs →
      Escaped plain ('%' :: h :: l :: cs)

def IsPlain (safe : String) (c : Char) : Prop :=
  ('A' ≤ c ∧ c ≤ 'Z') ∨ ('a' ≤ c ∧ c ≤ 'z') ∨ ('0' ≤ c ∧ c ≤ '9') ∨ c ∈ ['-', '.', '_', '~'] ∨
    c.toNat < 0x80 ∧ c ∈ safe.toList

def hexValue? (c : Char) : Option Nat :=
  if '0' ≤ c ∧ c ≤ '9' then some (c.toNat - '0'.toNat)
  else if 'A' ≤ c ∧ c ≤ 'F' then some (c.toNat - 'A'.toNat + 10)
  else if 'a' ≤ c ∧ c ≤ 'f' then some (c.toNat - 'a'.toNat + 10)
  else none

/-- An escape is the byte that it names, any other character its own bytes. A percent sign that begins
no escape is refused. -/
def bytes? : List Char → Option (List UInt8)
  | [] => some []
  | '%' :: h :: l :: cs =>
    match hexValue? h, hexValue? l with
    | some a, some b => (bytes? cs).map (UInt8.ofNat (16 * a + b) :: ·)
    | _, _ => none
  | '%' :: _ => none
  | c :: cs => (bytes? cs).map (String.utf8EncodeChar c ++ ·)

def decode (s : String) : Option String :=
  (bytes? s.toList).bind fun bytes => String.fromUTF8? bytes.toByteArray

section Escaped

variable {plain other : Char → Prop} {cs ds : List Char}

theorem Escaped.append (h : Escaped plain cs) (k : Escaped plain ds) : Escaped plain (cs ++ ds) := by
  induction h with
  | nil => exact k
  | char hc _ ih => exact .char hc ih
  | escape hh hl _ ih => exact .escape hh hl ih

theorem Escaped.mono (hp : ∀ c, plain c → other c) (h : Escaped plain cs) : Escaped other cs := by
  induction h with
  | nil => exact .nil
  | char hc _ ih => exact .char (hp _ hc) ih
  | escape hh hl _ ih => exact .escape hh hl ih

theorem escaped_of_forall (h : ∀ c ∈ cs, plain c) : Escaped plain cs := by
  induction cs with
  | nil => exact .nil
  | cons c cs ih =>
    obtain ⟨hc, h⟩ := List.forall_mem_cons.1 h
    exact .char hc (ih h)

theorem percent_not_mem_upperDigits : '%' ∉ upperDigits := by decide

theorem Escaped.whole (hp : ¬plain '%') (h : Escaped plain cs) {before after : List Char}
    (he : cs = before ++ '%' :: after) :
    ∃ h l rest, after = h :: l :: rest ∧ h ∈ upperDigits ∧ l ∈ upperDigits := by
  induction h generalizing before with
  | nil => simp at he
  | char hc _ ih =>
    cases before with
    | nil =>
      obtain ⟨rfl, -⟩ := List.cons.inj he
      exact absurd hc hp
    | cons b before => exact ih (List.cons.inj he).2
  | @escape h l rest hh hl _ ih =>
    -- The sign begins this escape or stands behind it; the two digits are no signs.
    match before, he with
    | [], he => exact ⟨h, l, rest, (List.cons.inj he).2.symm, hh, hl⟩
    | [_], he =>
      simp only [List.cons_append, List.nil_append, List.cons.injEq] at he
      exact absurd (he.2.1 ▸ hh) percent_not_mem_upperDigits
    | [_, _], he =>
      simp only [List.cons_append, List.nil_append, List.cons.injEq] at he
      exact absurd (he.2.2.1 ▸ hl) percent_not_mem_upperDigits
    | _ :: _ :: _ :: before, he =>
      simp only [List.cons_append, List.cons.injEq] at he
      exact ih he.2.2.2

def Splits (n : Nat) (cs : List Char) : Prop :=
  ∃ before after, cs = before ++ '%' :: after ∧ before.length < n ∧ n < before.length + 3

theorem Escaped.take (h : Escaped plain cs) {n : Nat} (hn : ¬Splits n cs) :
    Escaped plain (cs.take n) := by
  induction h generalizing n with
  | nil =>
    rw [List.take_nil]
    exact .nil
  | @char c cs hc _ ih =>
    cases n with
    | zero => exact .nil
    | succ n =>
      refine .char hc (ih fun ⟨before, after, he, hl, hu⟩ => hn ⟨c :: before, after, ?_⟩)
      simp [he, hl]
      omega
  | @escape h l cs hh hl _ ih =>
    match n with
    | 0 => exact .nil
    | 1 => exact absurd ⟨[], _, rfl, by simp⟩ hn
    | 2 => exact absurd ⟨[], _, rfl, by simp⟩ hn
    | n + 3 =>
      refine .escape hh hl (ih fun ⟨before, after, he, hb, hu⟩ =>
        hn ⟨'%' :: h :: l :: before, after, ?_⟩)
      simp [he, hb]
      omega

theorem Escaped.take_iff (hp : ¬plain '%') (h : Escaped plain cs) (n : Nat) :
    Escaped plain (cs.take n) ↔ ¬Splits n cs := by
  constructor
  · rintro k ⟨before, after, rfl, hb, hu⟩
    obtain ⟨d, rfl⟩ := Nat.exists_eq_add_of_lt hb
    have cut : (before ++ '%' :: after).take (before.length + d + 1) = before ++ '%' :: after.take d := by
      rw [Nat.add_assoc, List.take_length_add_append, List.take_succ_cons]
    obtain ⟨h, l, rest, hr, -⟩ := k.whole hp cut
    have long := congrArg List.length hr
    simp only [List.length_take, List.length_cons] at long
    omega
  · exact h.take

end Escaped

section Encode

variable {safe : String}

theorem hexDigit_mem {n : Nat} (h : n < 16) : hexDigit n ∈ upperDigits := by
  revert n
  decide

theorem hexValue?_hexDigit {n : Nat} (h : n < 16) : hexValue? (hexDigit n) = some n := by
  revert n
  decide

theorem escaped_escapeByte {plain : Char → Prop} (b : UInt8) : Escaped plain (escapeByte b) := by
  have hb := b.toNat_lt
  exact .escape (hexDigit_mem (by omega)) (hexDigit_mem (by omega)) .nil

theorem escaped_escapes {plain : Char → Prop} (bs : List UInt8) :
    Escaped plain (bs.flatMap escapeByte) := by
  induction bs with
  | nil => exact .nil
  | cons b bs ih => exact (escaped_escapeByte b).append ih

theorem isPlain_of_isKept {c : Char} (h : isKept safe c) : IsPlain safe c := by
  simp only [isKept, isUnreserved, Char.isAlphanum, Bool.or_eq_true, Bool.and_eq_true, isAlpha_iff,
    isDigit_iff, IsLetter, IsDigit, decide_eq_true_eq, beq_iff_eq, List.contains_iff_mem] at h
  simp only [IsPlain, List.mem_cons, List.not_mem_nil, or_false]
  grind

theorem escaped_encode (safe s : String) : Escaped (IsPlain safe) (encode safe s).toList := by
  rw [encode, String.toList_ofList]
  induction s.toList with
  | nil => exact .nil
  | cons c cs ih =>
    rw [List.flatMap_cons]
    apply Escaped.append _ ih
    unfold encodeChar
    split
    next hc => exact .char (isPlain_of_isKept hc) .nil
    next => exact escaped_escapes _

theorem not_isPlain_percent (hs : '%' ∉ safe.toList) : ¬IsPlain safe '%' := by
  have reserved : ¬('A' ≤ '%' ∧ '%' ≤ 'Z') ∧ ¬('a' ≤ '%' ∧ '%' ≤ 'z') ∧ ¬('0' ≤ '%' ∧ '%' ≤ '9') ∧
      '%' ∉ ['-', '.', '_', '~'] := by decide
  simp [IsPlain, reserved, hs]

end Encode

section Decode

variable {safe : String} {cs : List Char}

theorem bytes?_cons {c : Char} (hc : c ≠ '%') (cs : List Char) :
    bytes? (c :: cs) = (bytes? cs).map (String.utf8EncodeChar c ++ ·) := by
  rw [bytes?.eq_def]
  split <;> simp_all

theorem bytes?_escapeByte (b : UInt8) (cs : List Char) :
    bytes? (escapeByte b ++ cs) = (bytes? cs).map (b :: ·) := by
  have hb := b.toNat_lt
  have high : hexValue? (hexDigit (b.toNat / 16)) = some (b.toNat / 16) :=
    hexValue?_hexDigit (by omega)
  have low : hexValue? (hexDigit (b.toNat % 16)) = some (b.toNat % 16) :=
    hexValue?_hexDigit (by omega)
  have whole : UInt8.ofNat (16 * (b.toNat / 16) + b.toNat % 16) = b := by
    rw [Nat.div_add_mod, UInt8.ofNat_toNat]
  simp only [escapeByte, List.cons_append, List.nil_append, bytes?, high, low, whole]

theorem bytes?_escapes (bs : List UInt8) (cs : List Char) :
    bytes? (bs.flatMap escapeByte ++ cs) = (bytes? cs).map (bs ++ ·) := by
  induction bs with
  | nil => simp
  | cons b bs ih =>
    rw [List.flatMap_cons, List.append_assoc, bytes?_escapeByte, ih, Option.map_map]
    rfl

theorem bytes?_encodeChar (hs : '%' ∉ safe.toList) (c : Char) (cs : List Char) :
    bytes? (encodeChar safe c ++ cs) = (bytes? cs).map (String.utf8EncodeChar c ++ ·) := by
  unfold encodeChar
  split
  next hc =>
    apply bytes?_cons
    rintro rfl
    exact not_isPlain_percent hs (isPlain_of_isKept hc)
  next => exact bytes?_escapes _ cs

theorem bytes?_encode (hs : '%' ∉ safe.toList) (s : String) :
    bytes? (encode safe s).toList = some (s.toList.flatMap String.utf8EncodeChar) := by
  rw [encode, String.toList_ofList]
  induction s.toList with
  | nil => rfl
  | cons c cs ih => rw [List.flatMap_cons, bytes?_encodeChar hs, ih, List.flatMap_cons, Option.map_some]

theorem fromUTF8?_iff {bs : List UInt8} {s : String} :
    String.fromUTF8? bs.toByteArray = some s ↔ bs = s.toList.flatMap String.utf8EncodeChar := by
  have given : (s.toList.flatMap String.utf8EncodeChar).toByteArray = s.toByteArray :=
    String.utf8Encode_toList
  constructor
  · intro h
    unfold String.fromUTF8? at h
    split at h
    next hv =>
      have same : bs.toByteArray = s.toByteArray :=
        congrArg String.toByteArray (Option.some.inj h)
      rw [← given] at same
      simpa using same
    next => cases h
  · rintro rfl
    rw [given]
    simp [String.fromUTF8?, String.fromUTF8, s.isValidUTF8]

theorem decode_iff {cs : List Char} {s : String} :
    decode (String.ofList cs) = some s ↔ bytes? cs = some (s.toList.flatMap String.utf8EncodeChar) := by
  simp only [decode, String.toList_ofList, Option.bind_eq_some_iff, fromUTF8?_iff]
  constructor
  · rintro ⟨bs, hb, rfl⟩
    exact hb
  · intro h
    exact ⟨_, h, rfl⟩

theorem decode_encode (hs : '%' ∉ safe.toList) (s : String) : decode (encode safe s) = some s := by
  rw [← String.ofList_toList (s := encode safe s), decode_iff]
  exact bytes?_encode hs s

theorem bytes?_append {bs : List UInt8} (h : bytes? cs = some bs) (ds : List Char) :
    bytes? (cs ++ ds) = (bytes? ds).map (bs ++ ·) := by
  fun_induction bytes? cs generalizing bs with
  | case1 =>
    cases h
    simp
  | case2 high low cs a b hb ha ih =>
    obtain ⟨rest, hr, rfl⟩ := Option.map_eq_some_iff.1 h
    simp only [List.cons_append, bytes?, ha, hb, ih hr, Option.map_map]
    rfl
  | case3 => cases h
  | case4 => cases h
  | case5 c cs hescape hlone ih =>
    obtain ⟨rest, hr, rfl⟩ := Option.map_eq_some_iff.1 h
    rw [List.cons_append, bytes?_cons hlone, ih hr, Option.map_map]
    simp [Function.comp_def]

theorem bytes?_ne_nil (hc : cs ≠ []) : bytes? cs ≠ some [] := by
  fun_cases bytes? cs with
  | case1 => exact absurd rfl hc
  | case2 => simp
  | case3 => simp
  | case4 => simp
  | case5 c cs =>
    have nonempty : String.utf8EncodeChar c ≠ [] := by
      intro h
      have positive := c.utf8Size_pos
      rw [← String.length_utf8EncodeChar, h] at positive
      cases positive
    simp [nonempty]

theorem decode_take_iff (hs : '%' ∉ safe.toList) (s : String) (n : Nat) :
    decode (String.ofList ((encode safe s).toList.take n)) = some s ↔ (encode safe s).length ≤ n := by
  rw [decode_iff, ← String.length_toList, ← List.drop_eq_nil_iff]
  have whole := bytes?_encode hs s
  constructor
  · intro h
    -- The first part gives all bytes of the text already, and the rest is not without bytes.
    apply Classical.byContradiction
    intro hd
    rw [← List.take_append_drop n (encode safe s).toList, bytes?_append h] at whole
    obtain ⟨bs, hb, he⟩ := Option.map_eq_some_iff.1 whole
    rw [List.append_right_eq_self.1 he] at hb
    exact bytes?_ne_nil hd hb
  · intro h
    rw [List.take_of_length_le (List.drop_eq_nil_iff.1 h)]
    exact whole

end Decode

end Text.Percent

def Context.IsPaired (context : Context) (s : String) : Prop :=
  ∀ c ∈ s.toList, context.surrogate? c = none

namespace Value

open Text.Percent

variable {v : Value} {context : Context}

theorem percentEncode_outcome (v : Value) (context : Context) (state : State) :
    v.percentEncode.outcome context state =
      (match v.unwritable?, unencodable? context.surrogate? 0 v.canonical.toList with
        | some cause, _ => .error (.unwritable cause)
        | none, some row => .error (.unencodable row)
        | none, none => .ok (encode context.settings.safe v.canonical), state) := by
  cases hw : v.unwritable? with
  | some cause => rw [percentEncode, toText_eq_throw hw, Eval.outcome_bind_error (Eval.outcome_throw ..)]
  | none =>
    have given : (read : Eval Context).outcome context state = (.ok context, state) := rfl
    rw [percentEncode, toText_eq hw, pure_bind, Eval.outcome_bind_ok given]
    cases unencodable? context.surrogate? 0 v.canonical.toList <;> rfl

theorem percentEncode_ok_iff {s : String} {state after : State} :
    v.percentEncode.outcome context state = (.ok s, after) ↔
      (v.unwritable? = none ∧ context.IsPaired v.canonical) ∧
        s = encode context.settings.safe v.canonical ∧ after = state := by
  have paired : context.IsPaired v.canonical ↔
      unencodable? context.surrogate? 0 v.canonical.toList = none := unencodable?_eq_none.symm
  rw [percentEncode_outcome, paired]
  cases v.unwritable? with
  | some cause => simp
  | none =>
    cases unencodable? context.surrogate? 0 v.canonical.toList with
    | some row => simp
    | none => simp [eq_comm]

/-- A value that can be written, and whose text has a UTF-8 form, is encoded. The encoded text has nothing
but plain characters and escapes in it, and is read back as the text of the value. Texts are encoded
character by character. -/
theorem percentEncode_reversible (v : Value) (context : Context) (state : State)
    (hs : '%' ∉ context.settings.safe.toList) :
    ((∃ s after, v.percentEncode.outcome context state = (.ok s, after)) ↔
      v.unwritable? = none ∧ context.IsPaired v.canonical) ∧
    (∀ s after, v.percentEncode.outcome context state = (.ok s, after) →
      after = state ∧ Escaped (IsPlain context.settings.safe) s.toList ∧
        decode s = some v.canonical) ∧
    ∀ a b r : String, (text (a ++ b)).percentEncode.outcome context state = (.ok r, state) ↔
      ∃ s t, (text a).percentEncode.outcome context state = (.ok s, state) ∧
        (text b).percentEncode.outcome context state = (.ok t, state) ∧ r = s ++ t := by
  refine ⟨?_, fun s after h => ?_, fun a b r => ?_⟩
  · simp [percentEncode_ok_iff]
  · obtain ⟨-, rfl, rfl⟩ := percentEncode_ok_iff.1 h
    exact ⟨rfl, escaped_encode _ _, decode_encode hs _⟩
  · have plain (s : String) : (text s).unwritable? = none ∧ (text s).canonical = s := ⟨rfl, rfl⟩
    simp only [percentEncode_ok_iff, plain, true_and, and_true, encode_append]
    constructor
    · rintro ⟨paired, rfl⟩
      simp only [Context.IsPaired, String.toList_append, List.forall_mem_append] at paired
      exact ⟨_, _, ⟨paired.1, rfl⟩, ⟨paired.2, rfl⟩, rfl⟩
    · rintro ⟨_, _, ⟨first, rfl⟩, ⟨second, rfl⟩, rfl⟩
      refine ⟨?_, rfl⟩
      rw [Context.IsPaired, String.toList_append]
      exact List.forall_mem_append.2 ⟨first, second⟩

theorem percentEncode_reversible_path :
    let context : Context := { settings := { safe := "/é" }, mappings := fun _ v => .ok v }
    '%' ∉ context.settings.safe.toList ∧
      (text "5 %/é").percentEncode.outcome context {} = (.ok "5%20%25/%C3%A9", {}) ∧
        Escaped (IsPlain "/é") "5%20%25/%C3%A9".toList ∧ decode "5%20%25/%C3%A9" = some "5 %/é" := by
  intro context
  have whole : '%' ∉ context.settings.safe.toList := by decide
  obtain ⟨-, reads, -⟩ := percentEncode_reversible (text "5 %/é") context {} whole
  have shown : (text "5 %/é").percentEncode.outcome context {} = (.ok "5%20%25/%C3%A9", {}) := by
    have encoded : "5%20%25/%C3%A9" = encode "/é" "5 %/é" := by decide
    exact percentEncode_ok_iff.2 ⟨⟨rfl, fun _ _ => rfl⟩, encoded, rfl⟩
  obtain ⟨-, escaped, decoded⟩ := reads _ _ shown
  exact ⟨whole, shown, escaped, decoded⟩

end Value

end RecordMarkup

import RecordMarkup.Text.Chars

namespace RecordMarkup.Text

def IsLetter (c : Char) : Prop := 'a' ≤ c ∧ c ≤ 'z' ∨ 'A' ≤ c ∧ c ≤ 'Z'

def IsDigit (c : Char) : Prop := '0' ≤ c ∧ c ≤ '9'

instance : DecidablePred IsLetter := fun _ => inferInstanceAs (Decidable (_ ∨ _))

instance : DecidablePred IsDigit := fun _ => inferInstanceAs (Decidable (_ ∧ _))

inductive IsWord (first other : Char → Prop) : List Char → Prop
  | mk {c : Char} {cs : List Char} (hc : first c) (hcs : ∀ d ∈ cs, other d) :
      IsWord first other (c :: cs)

def IsField : List Char → Prop :=
  IsWord (fun c => IsLetter c ∨ c = '_') fun c => IsLetter c ∨ IsDigit c ∨ c = '_'

def IsTag : List Char → Prop :=
  IsWord IsLetter fun c => IsLetter c ∨ IsDigit c ∨ c = ':' ∨ c = '-'

def IsKey (cs : List Char) : Prop :=
  cs ≠ [] ∧ ∀ c ∈ cs, isBlank c = false ∧ c ∉ ['"', '\'', '<', '>', '/', '=']

def UpToLineFeed (word : List Char → Prop) (s : String) : Prop :=
  ∃ cs, word cs ∧ (s.toList = cs ∨ s.toList = cs ++ ['\n'])

theorem UpToLineFeed.forall_mem {word : List Char → Prop} {p : Char → Prop} {s : String}
    (h : UpToLineFeed word s) (hw : ∀ cs, word cs → ∀ c ∈ cs, p c) (hn : p '\n') :
    ∀ c ∈ s.toList, p c := by
  obtain ⟨cs, hcs, h | h⟩ := h
  · rw [h]
    exact hw cs hcs
  · rw [h]
    exact List.forall_mem_append.2 ⟨hw cs hcs, List.forall_mem_singleton.2 hn⟩

theorem UpToLineFeed.iff_word {word : List Char → Prop} {s : String}
    (h : s.toList.getLast? ≠ some '\n') : UpToLineFeed word s ↔ word s.toList := by
  constructor
  · rintro ⟨cs, hcs, rfl | hs⟩
    · exact hcs
    · exact absurd (by simp [hs]) h
  · exact fun hw => ⟨_, hw, .inl rfl⟩

theorem IsTag.allowed {cs : List Char} (h : IsTag cs) :
    ∀ c ∈ cs, IsLetter c ∨ IsDigit c ∨ c = ':' ∨ c = '-' := by
  obtain ⟨hc, hcs⟩ := h
  exact List.forall_mem_cons.2 ⟨.inl hc, hcs⟩

section Word

variable {first other : Char → Bool} {cs ds : List Char} {s : String}

theorem dropLineBreak_eq_iff :
    dropLineBreak cs = ds ↔ cs = ds ++ ['\n'] ∨ cs = ds ∧ cs.getLast? ≠ some '\n' := by
  unfold dropLineBreak
  split
  next h =>
    obtain ⟨es, rfl⟩ := List.getLast?_eq_some_iff.1 h
    simp
  next h =>
    refine ⟨fun he => .inr ⟨he, h⟩, ?_⟩
    rintro (rfl | ⟨he, -⟩)
    · simp at h
    · exact he

theorem isNameOf_iff (hf : first '\n' = false) (ho : other '\n' = false) :
    isNameOf first other s ↔ UpToLineFeed (IsWord (first ·) (other ·)) s := by
  have test : isNameOf first other s ↔ IsWord (first ·) (other ·) (dropLineBreak s.toList) := by
    unfold isNameOf
    split
    next h =>
      rw [h]
      exact ⟨nofun, nofun⟩
    next c cs h =>
      rw [h, Bool.and_eq_true, List.all_eq_true]
      exact ⟨fun h => ⟨h.1, h.2⟩, fun ⟨hc, hcs⟩ => ⟨hc, hcs⟩⟩
  rw [test]
  constructor
  · intro word
    refine ⟨_, word, ?_⟩
    obtain h | ⟨h, -⟩ := dropLineBreak_eq_iff.1 (rfl : dropLineBreak s.toList = _)
    · exact .inr h
    · exact .inl h
  · rintro ⟨cs, word, h | h⟩
    · have last : s.toList.getLast? ≠ some '\n' := by
        intro hl
        have mem : '\n' ∈ cs := h ▸ List.mem_of_getLast? hl
        obtain ⟨hc, hcs⟩ := word
        obtain rfl | mem := List.mem_cons.1 mem
        · rw [hf] at hc
          cases hc
        · have hd := hcs _ mem
          rw [ho] at hd
          cases hd
      rwa [dropLineBreak_eq_iff.2 (.inr ⟨h, last⟩)]
    · rwa [dropLineBreak_eq_iff.2 (.inl h)]

theorem IsWord.congr {p q p' q' : Char → Prop} (hp : ∀ c, p c ↔ p' c) (hq : ∀ c, q c ↔ q' c) :
    IsWord p q = IsWord p' q' := by
  rw [funext fun c => propext (hp c), funext fun c => propext (hq c)]

theorem isAlpha_iff (c : Char) : c.isAlpha ↔ IsLetter c := by
  have upper : c.isUpper ↔ 'A' ≤ c ∧ c ≤ 'Z' := decide_eq_true_iff
  have lower : c.isLower ↔ 'a' ≤ c ∧ c ≤ 'z' :=
    Bool.and_eq_true_iff.trans (and_congr decide_eq_true_iff decide_eq_true_iff)
  have alpha : c.isAlpha = (c.isUpper || c.isLower) := rfl
  rw [IsLetter, alpha, Bool.or_eq_true, upper, lower, or_comm]

theorem isDigit_iff (c : Char) : c.isDigit ↔ IsDigit c :=
  Bool.and_eq_true_iff.trans (and_congr decide_eq_true_iff decide_eq_true_iff)

theorem isFieldName_iff : isFieldName s ↔ UpToLineFeed IsField s := by
  have word : IsWord (fun c => c.isAlpha || c == '_') (fun c => c.isAlphanum || c == '_') = IsField :=
    IsWord.congr (fun c => by simp [← isAlpha_iff])
      fun c => by simp [Char.isAlphanum, ← isAlpha_iff, ← isDigit_iff, or_assoc]
  rw [isFieldName, isNameOf_iff rfl rfl, word]

theorem isTagName_iff : isTagName s ↔ UpToLineFeed IsTag s := by
  have word : IsWord (fun c => Char.isAlpha c = true)
      (fun c => c.isAlphanum || c == ':' || c == '-') = IsTag :=
    IsWord.congr isAlpha_iff
      fun c => by simp [Char.isAlphanum, ← isAlpha_iff, ← isDigit_iff, or_assoc]
  rw [isTagName, isNameOf_iff rfl rfl, word]

theorem isAttributeKey_iff : isAttributeKey s ↔ UpToLineFeed IsKey s := by
  have allowed (c : Char) : isKeyChar c ↔
      isBlank c = false ∧ c ∉ ['"', '\'', '<', '>', '/', '='] := by
    simp [isKeyChar]
  have word : IsWord (fun c => isKeyChar c = true) (fun c => isKeyChar c) = IsKey := by
    funext cs
    refine propext ⟨?_, ?_⟩
    · rintro ⟨hc, hcs⟩
      refine ⟨List.cons_ne_nil _ _, fun d hd => (allowed d).1 ?_⟩
      obtain rfl | hd := List.mem_cons.1 hd
      · exact hc
      · exact hcs d hd
    · rintro ⟨hn, h⟩
      cases cs with
      | nil => exact absurd rfl hn
      | cons c cs =>
        exact ⟨(allowed c).2 (h c (.head _)), fun d hd => (allowed d).2 (h d (.tail _ hd))⟩
  rw [isAttributeKey, isNameOf_iff rfl rfl, word]

end Word

section Blank

variable {cs : List Char}

theorem isBlank_of_graphic {c : Char} (h : 0x20 < c.toNat ∧ c.toNat < 0x85) : isBlank c = false := by
  rw [Bool.eq_false_iff, Ne, isBlank, CharRanges.contains_iff]
  simp [blankRanges]
  omega

theorem IsLetter.not_blank {c : Char} (h : IsLetter c) : isBlank c = false := by
  simp only [IsLetter, Char.le_def, UInt32.le_iff_toNat_le] at h
  change 97 ≤ c.toNat ∧ c.toNat ≤ 122 ∨ 65 ≤ c.toNat ∧ c.toNat ≤ 90 at h
  exact isBlank_of_graphic (by omega)

theorem IsDigit.not_blank {c : Char} (h : IsDigit c) : isBlank c = false := by
  simp only [IsDigit, Char.le_def, UInt32.le_iff_toNat_le] at h
  change 48 ≤ c.toNat ∧ c.toNat ≤ 57 at h
  exact isBlank_of_graphic (by omega)

theorem IsTag.not_blank (h : IsTag cs) : ∀ c ∈ cs, isBlank c = false := by
  intro c hc
  obtain hl | hd | rfl | rfl := h.allowed c hc
  · exact hl.not_blank
  · exact hd.not_blank
  · rfl
  · rfl

end Blank

end RecordMarkup.Text

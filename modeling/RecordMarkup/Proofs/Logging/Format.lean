import Mathlib.Data.List.TakeWhile
import RecordMarkup.Configuration

namespace RecordMarkup.Logging

inductive IsCount : List Char → Prop
  | star : IsCount ['*']
  | digits {cs : List Char} (hne : cs ≠ []) (hd : ∀ c ∈ cs, isDigit c) : IsCount cs

inductive IsWidth : List Char → Prop
  | absent : IsWidth []
  | count {cs : List Char} (h : IsCount cs) : IsWidth cs

inductive IsPrecision : List Char → Prop
  | absent : IsPrecision []
  | point {cs : List Char} (h : IsCount cs) : IsPrecision ('.' :: cs)

/-- `%(name)[flags][width][.precision]conversion` -/
inductive IsField : List Char → Prop
  | mk {name flags width precision : List Char} {conversion : Char} (hne : name ≠ [])
      (hn : ∀ c ∈ name, Text.isWordChar c) (hf : ∀ c ∈ flags, c ∈ "#0+ -".toList)
      (hw : IsWidth width) (hp : IsPrecision precision) (hc : isConversion conversion) :
      IsField ('%' :: '(' :: (name ++ ')' :: (flags ++ (width ++ (precision ++ [conversion])))))

def IsFormat (format : String) : Prop :=
  format = "" ∨ ∃ before field after, format.toList = before ++ (field ++ after) ∧ IsField field

variable {cs count rest : List Char}

theorem dropWhile_of_head {p : Char → Bool} (h : ∀ c ∈ rest.head?, p c = false) :
    rest.dropWhile p = rest := by
  cases rest with
  | nil => rfl
  | cons c rest => exact List.dropWhile_cons_of_neg (by simp [h c rfl])

theorem skipCount_sound (cs : List Char) : ∃ count, IsWidth count ∧ cs = count ++ skipCount cs := by
  unfold skipCount
  split
  next cs => exact ⟨['*'], .count .star, rfl⟩
  next =>
    refine ⟨cs.takeWhile isDigit, ?_, List.takeWhile_append_dropWhile.symm⟩
    by_cases hne : cs.takeWhile isDigit = []
    · rw [hne]
      exact .absent
    · exact .count (.digits hne fun c hc => List.mem_takeWhile_imp hc)

theorem skipCount_complete (h : IsWidth count)
    (hr : ∀ c ∈ rest.head?, c ≠ '*' ∧ isDigit c = false) : skipCount (count ++ rest) = rest := by
  have stops : rest.dropWhile isDigit = rest := dropWhile_of_head fun c hc => (hr c hc).2
  cases h with
  | absent =>
    rw [List.nil_append]
    unfold skipCount
    split
    next => exact absurd rfl (hr '*' rfl).1
    next => exact stops
  | count h =>
    cases h with
    | star => rfl
    | digits hne hd =>
      unfold skipCount
      split
      next he =>
        obtain ⟨d, ds, rfl⟩ := List.exists_cons_of_ne_nil hne
        obtain rfl := (List.cons.inj he).1
        exact absurd (hd '*' (.head _)) (by decide)
      next => rw [List.dropWhile_append_of_pos hd, stops]

theorem skipPrecision_sound (cs : List Char) :
    ∃ precision, IsPrecision precision ∧ cs = precision ++ skipPrecision cs := by
  unfold skipPrecision
  split
  next cs =>
    obtain ⟨count, hc, he⟩ := skipCount_sound cs
    split
    next => exact ⟨[], .absent, rfl⟩
    next hs =>
      cases hc with
      | absent => exact absurd he.symm hs
      | count hc => exact ⟨'.' :: count, .point hc, congrArg _ he⟩
  next => exact ⟨[], .absent, rfl⟩

theorem skipPrecision_complete {precision : List Char} (h : IsPrecision precision)
    (hr : ∀ c ∈ rest.head?, c ≠ '.' ∧ c ≠ '*' ∧ isDigit c = false) :
    skipPrecision (precision ++ rest) = rest := by
  cases h with
  | absent =>
    rw [List.nil_append]
    unfold skipPrecision
    split
    next => exact absurd rfl (hr '.' rfl).1
    next => rfl
  | @point count h =>
    have skipped : skipCount (count ++ rest) = rest :=
      skipCount_complete (.count h) fun c hc => (hr c hc).2
    have moved : rest ≠ count ++ rest := by
      intro he
      have := List.append_left_eq_self.1 he.symm
      cases h <;> contradiction
    rw [List.cons_append, skipPrecision, skipped, if_neg moved]

theorem conversion_apart {c : Char} (h : isConversion c) :
    c ≠ '.' ∧ c ≠ '*' ∧ isDigit c = false ∧ "#0+ -".toList.contains c = false := by
  have apart : ("diouxefgcrsa%DIOUXEFGCRSA".toList ++ [0x130, 0x131, 0x17F].map Char.ofNat).all
      fun d => decide (d ≠ '.' ∧ d ≠ '*' ∧ isDigit d = false ∧ "#0+ -".toList.contains d = false) := by
    decide +kernel
  refine of_decide_eq_true (List.all_eq_true.1 apart c (List.mem_append.2 ?_))
  obtain h | h := Bool.or_eq_true_iff.1 h
  · exact .inl (List.contains_iff_mem.1 h)
  · refine .inr (List.mem_map.2 ⟨c.toNat, List.contains_iff_mem.1 h, Char.ofNat_toNat c⟩)

theorem IsWidth.dropFlags {width : List Char} (h : IsWidth width) :
    IsWidth (width.dropWhile "#0+ -".toList.contains) := by
  cases h with
  | absent => exact .absent
  | count h =>
    cases h with
    | star => exact .count .star
    | digits hne hd =>
      by_cases hn : width.dropWhile "#0+ -".toList.contains = []
      · rw [hn]
        exact .absent
      · exact .count (.digits hn fun c hc => hd c ((List.dropWhile_sublist _).subset hc))

theorem IsPrecision.head {precision : List Char} {p : Char → Prop} (h : IsPrecision precision)
    (hp : p '.') (hr : ∀ c ∈ rest.head?, p c) : ∀ c ∈ (precision ++ rest).head?, p c := by
  cases h with
  | absent => exact hr
  | point => exact fun c hc => Option.some.inj hc ▸ hp

theorem isWordChar_close : Text.isWordChar ')' = false := by decide +kernel

theorem beginsWithField_complete {field : List Char} (h : IsField field) (after : List Char) :
    beginsWithField (field ++ after) := by
  obtain @⟨name, flags, width, precision, conversion, hne, hn, hf, hw, hp, hc⟩ := h
  obtain ⟨point, star, digit, flag⟩ := conversion_apart hc
  have first : ∃ c cs, name = c :: cs := List.exists_cons_of_ne_nil hne
  have measure : ∀ c ∈ (precision ++ conversion :: after).head?,
      c ≠ '*' ∧ isDigit c = false ∧ "#0+ -".toList.contains c = false :=
    hp.head (by decide) fun c hc => Option.some.inj hc ▸ ⟨star, digit, flag⟩
  have named (rest : List Char) :
      (name ++ ')' :: rest).dropWhile Text.isWordChar = ')' :: rest := by
    rw [List.dropWhile_append_of_pos hn]
    exact dropWhile_of_head fun c hc => Option.some.inj hc ▸ isWordChar_close
  have flagged : (flags ++ (width ++ (precision ++ conversion :: after))).dropWhile
      "#0+ -".toList.contains =
        width.dropWhile "#0+ -".toList.contains ++ (precision ++ conversion :: after) := by
    rw [List.dropWhile_append_of_pos fun c hc => List.contains_iff_mem.2 (hf c hc),
      List.dropWhile_append, dropWhile_of_head fun c hc => (measure c hc).2.2]
    split
    next hn => rw [List.isEmpty_iff.1 hn, List.nil_append]
    next => rfl
  have measured : skipPrecision (skipCount (width.dropWhile "#0+ -".toList.contains ++
      (precision ++ conversion :: after))) = conversion :: after := by
    rw [skipCount_complete hw.dropFlags fun c hc => ⟨(measure c hc).1, (measure c hc).2.1⟩]
    exact skipPrecision_complete hp fun c hc => Option.some.inj hc ▸ ⟨point, star, digit⟩
  simp only [List.cons_append, List.append_assoc, List.nil_append]
  rw [beginsWithField, named]
  simp only [flagged, measured]
  obtain ⟨c, cs, rfl⟩ := first
  simpa using ⟨hn c (.head _), hc⟩

theorem beginsWithField_sound (h : beginsWithField cs) :
    ∃ field after, cs = field ++ after ∧ IsField field := by
  unfold beginsWithField at h
  split at h
  next cs =>
    split at h
    next rest hd =>
      obtain ⟨hfirst, h⟩ := Bool.and_eq_true_iff.1 h
      split at h
      next c after hs =>
        have named : cs = cs.takeWhile Text.isWordChar ++ ')' :: rest := by
          rw [← hd, List.takeWhile_append_dropWhile]
        have flagged : rest = rest.takeWhile "#0+ -".toList.contains ++
            rest.dropWhile "#0+ -".toList.contains := List.takeWhile_append_dropWhile.symm
        obtain ⟨width, hw, counted⟩ := skipCount_sound (rest.dropWhile "#0+ -".toList.contains)
        obtain ⟨precision, hp, pointed⟩ :=
          skipPrecision_sound (skipCount (rest.dropWhile "#0+ -".toList.contains))
        rw [hs] at pointed
        refine ⟨_, after, ?_, @IsField.mk (cs.takeWhile Text.isWordChar)
          (rest.takeWhile "#0+ -".toList.contains) width precision c ?_ ?_ ?_ hw hp h⟩
        · have whole : cs = cs.takeWhile Text.isWordChar ++ ')' ::
              (rest.takeWhile "#0+ -".toList.contains ++ (width ++ (precision ++ c :: after))) := by
            rw [← pointed, ← counted, ← flagged, ← named]
          simpa using whole
        · intro hn
          rw [hn, List.nil_append] at named
          rw [named] at hfirst
          simp [isWordChar_close] at hfirst
        · exact fun c hc => List.mem_takeWhile_imp hc
        · exact fun c hc => List.contains_iff_mem.1 (List.mem_takeWhile_imp hc)
      next => cases h
    next => cases h
  next => cases h

theorem hasField_iff :
    hasField cs ↔ ∃ before field after, cs = before ++ (field ++ after) ∧ IsField field := by
  induction cs with
  | nil =>
    refine ⟨nofun, ?_⟩
    rintro ⟨before, _, after, he, ⟨_⟩⟩
    simp at he
  | cons c cs ih =>
    rw [hasField, Bool.or_eq_true, ih]
    constructor
    · rintro (h | ⟨before, field, after, rfl, hf⟩)
      · obtain ⟨field, after, he, hf⟩ := beginsWithField_sound h
        exact ⟨[], field, after, he, hf⟩
      · exact ⟨c :: before, field, after, rfl, hf⟩
    · rintro ⟨before, field, after, he, hf⟩
      cases before with
      | nil =>
        rw [he]
        exact .inl (beginsWithField_complete hf after)
      | cons b before => exact .inr ⟨before, field, after, (List.cons.inj he).2, hf⟩

theorem handlerFormat_iff {defaults : Defaults} {format : String} :
    handlerFormat defaults = .ok format ↔ IsFormat defaults.format ∧
      format = if defaults.format = "" then "%(message)s" else defaults.format := by
  have message : hasField "%(message)s".toList := by decide +kernel
  rw [handlerFormat, IsFormat, ← hasField_iff]
  by_cases he : defaults.format = ""
  · rw [if_pos he, if_pos message]
    exact ⟨fun h => ⟨.inl he, (Except.ok.inj h).symm⟩, fun h => congrArg _ h.2.symm⟩
  · rw [if_neg he]
    split
    next hf => exact ⟨fun h => ⟨.inr hf, (Except.ok.inj h).symm⟩, fun h => congrArg _ h.2.symm⟩
    next hf => exact ⟨nofun, fun h => absurd (h.1.resolve_left he) hf⟩

end RecordMarkup.Logging

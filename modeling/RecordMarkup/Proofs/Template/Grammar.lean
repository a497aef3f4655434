import RecordMarkup.Proofs.Component.Valid
import RecordMarkup.Proofs.Template.Spec

namespace RecordMarkup

namespace Template

inductive IsMark : List Char → Prop
  | absent : IsMark []
  | null : IsMark ['!', '\x00']

inductive IsSlot : List Char → Prop
  | bare {mark : List Char} : IsMark mark → IsSlot ('{' :: (mark ++ ['}']))
  | withSpec {mark spec : List Char} : IsMark mark → '{' ∉ spec → '}' ∉ spec → AppliesToText spec →
      IsSlot ('{' :: (mark ++ ':' :: (spec ++ ['}'])))

/-- A row of characters, doubled braces and slots, by the number of the slots. -/
inductive Written : List Char → Nat → Prop
  | nil : Written [] 0
  | char {c : Char} {cs : List Char} {n : Nat} :
      c ≠ '{' → c ≠ '}' → Written cs n → Written (c :: cs) n
  | opening {cs : List Char} {n : Nat} : Written cs n → Written ('{' :: '{' :: cs) n
  | closing {cs : List Char} {n : Nat} : Written cs n → Written ('}' :: '}' :: cs) n
  | slot {slot cs : List Char} {n : Nat} : IsSlot slot → Written cs n → Written (slot ++ cs) (n + 1)

/-! Slots -/

theorem splitName_sound {cs rest : List Char} {mark : Char}
    (h : splitName false cs = .ok ([], mark, rest)) :
    cs = mark :: rest ∧ (mark = '}' ∨ mark = ':' ∨ mark = '!') := by
  cases cs with
  | nil => cases h
  | cons c cs =>
    simp only [splitName, Bool.false_eq_true, if_false] at h
    split at h
    next => cases h
    next =>
      split at h
      next hc =>
        cases h
        exact ⟨rfl, hc⟩
      next =>
        obtain ⟨q, -, h⟩ := exists_of_map_eq_ok h
        simp at h

theorem splitSpec_complete {spec rest : List Char} (ho : '{' ∉ spec) (hc : '}' ∉ spec) :
    splitSpec 0 (spec ++ '}' :: rest) = .ok (spec, rest) := by
  induction spec with
  | nil => rfl
  | cons c spec ih =>
    simp only [List.mem_cons, not_or] at ho hc
    simp only [List.cons_append, splitSpec, if_neg (Ne.symm hc.1), if_neg (Ne.symm ho.1),
      ih ho.2 hc.2]
    rfl

theorem splitSpec_sound {cs spec rest : List Char} (h : splitSpec 0 cs = .ok (spec, rest))
    (ho : '{' ∉ spec) : '}' ∉ spec ∧ cs = spec ++ '}' :: rest := by
  induction cs generalizing spec with
  | nil => cases h
  | cons c cs ih =>
    rw [splitSpec] at h
    split at h
    next hc =>
      cases h
      exact ⟨by simp, by rw [hc]; rfl⟩
    next hc =>
      obtain ⟨⟨spec, rest⟩, h, he⟩ := exists_of_map_eq_ok h
      cases he
      simp only [List.mem_cons, not_or] at ho
      rw [if_neg (Ne.symm ho.1)] at h
      obtain ⟨hm, rfl⟩ := ih h ho.2
      exact ⟨by simp [hm, Ne.symm hc], rfl⟩

theorem appliesToText_nil : AppliesToText [] :=
  ⟨[], [], .absent, ⟨[], [], [], ⟨by simp, Nat.zero_le _⟩, .absent, .absent, rfl⟩, rfl⟩

theorem RawSlot.parse_complete {spec : List Char} (ho : '{' ∉ spec) (h : AppliesToText spec) :
    ∃ s, (RawSlot.mk [] none spec).parse = .ok s := by
  obtain ⟨s, hs⟩ := Spec.parse_complete h
  exact ⟨s, by simp [RawSlot.parse, ho, hs]⟩

theorem readSlot_complete {slot : List Char} (h : IsSlot slot) :
    ∃ written raw spec, slot = '{' :: written ∧ raw.parse = .ok spec ∧ raw.spec ⊆ slot ∧
      ∀ rest, (written ++ rest).head? ≠ some '{' ∧ readSlot (written ++ rest) = .ok (raw, rest) := by
  cases h with
  | bare hm =>
    obtain ⟨s, hs⟩ := RawSlot.parse_complete (by simp) appliesToText_nil
    cases hm with
    | absent => exact ⟨['}'], _, s, rfl, hs, by simp, fun rest => ⟨by simp, rfl⟩⟩
    | null => exact ⟨['!', '\x00', '}'], _, s, rfl, hs, by simp, fun rest => ⟨by simp, rfl⟩⟩
  | @withSpec _ spec hm ho hc ha =>
    obtain ⟨s, hs⟩ := RawSlot.parse_complete ho ha
    have split (rest : List Char) : splitSpec 0 (spec ++ '}' :: rest) = .ok (spec, rest) :=
      splitSpec_complete ho hc
    cases hm with
    | absent =>
      refine ⟨':' :: (spec ++ ['}']), _, s, rfl, hs, fun c hm => by simp [hm], fun rest => ?_⟩
      simp [readSlot, splitName, split, Except.map]
    | null =>
      refine ⟨'!' :: '\x00' :: ':' :: (spec ++ ['}']), _, s, rfl, hs, fun c hm => by simp [hm],
        fun rest => ?_⟩
      simp [readSlot, splitName, split, Except.map, conversionOf]

theorem conversionOf_eq_none {c : Char} (h : conversionOf c = none) : c = '\x00' := by
  unfold conversionOf at h
  split at h
  next hc => exact hc
  next => cases h

theorem readSlot_sound {cs rest : List Char} {raw : RawSlot} {spec : Spec}
    (h : readSlot cs = .ok (raw, rest)) (hp : raw.parse = .ok spec) :
    ∃ slot, IsSlot slot ∧ '{' :: cs = slot ++ rest := by
  obtain ⟨hname, hconv, ho, read⟩ := RawSlot.of_parse_ok hp
  have ha := Spec.parse_sound read
  unfold readSlot at h
  split at h
  next => cases h
  next name mark after hn =>
  simp only at h
  split at h
  next hmark =>
    cases h
    obtain rfl := hname
    obtain ⟨rfl, -⟩ := splitName_sound hn
    subst hmark
    exact ⟨['{', '}'], .bare .absent, rfl⟩
  next hclose =>
  split at h
  next hmark =>
    obtain ⟨⟨spec, after⟩, hs, he⟩ := exists_of_map_eq_ok h
    cases he
    obtain rfl := hname
    obtain ⟨rfl, -⟩ := splitName_sound hn
    obtain ⟨hc, rfl⟩ := splitSpec_sound hs ho
    subst hmark
    exact ⟨_, .withSpec .absent ho hc ha, by simp⟩
  next hcolon =>
  split at h
  next => cases h
  next => cases h
  next c closing after =>
  split at h
  next hclosing =>
    cases h
    obtain rfl := hname
    obtain ⟨rfl, hmark⟩ := splitName_sound hn
    obtain rfl := hmark.resolve_left hclose |>.resolve_left hcolon
    rw [conversionOf_eq_none hconv, hclosing]
    exact ⟨_, .bare .null, by simp⟩
  next =>
  split at h
  next hclosing =>
    obtain ⟨⟨spec, after⟩, hs, he⟩ := exists_of_map_eq_ok h
    cases he
    obtain rfl := hname
    obtain ⟨rfl, hmark⟩ := splitName_sound hn
    obtain rfl := hmark.resolve_left hclose |>.resolve_left hcolon
    obtain ⟨hc, rfl⟩ := splitSpec_sound hs ho
    rw [conversionOf_eq_none hconv, hclosing]
    exact ⟨_, .withSpec .null ho hc ha, by simp⟩
  next => cases h

/-! Texts -/

def Scan.read (s : Scan) : Except Fault (List Piece) := do
  let pieces ← s.pieces.mapM RawPiece.parse
  match s.fault with
  | some m => .error (.malformed m)
  | none => .ok pieces

theorem parse_eq (template : String) : parse template = (scan template.toList).read := rfl

theorem Scan.read_push (piece : RawPiece) (s : Scan) :
    (s.push piece).read = piece.parse >>= fun p => s.read.map (p :: ·) := by
  simp only [read, push, List.mapM_cons]
  cases piece.parse with
  | error e => rfl
  | ok p =>
    cases s.pieces.mapM RawPiece.parse with
    | error e => rfl
    | ok ps => cases s.fault <;> rfl

theorem Scan.of_read_push {piece : RawPiece} {s : Scan} {pieces : List Piece}
    (h : (s.push piece).read = .ok pieces) :
    ∃ p ps, piece.parse = .ok p ∧ s.read = .ok ps ∧ pieces = p :: ps := by
  rw [read_push] at h
  cases hp : piece.parse with
  | error e =>
    rw [hp] at h
    cases h
  | ok p =>
    rw [hp] at h
    obtain ⟨ps, hps, rfl⟩ := exists_of_map_eq_ok h
    exact ⟨p, ps, rfl, hps, rfl⟩

theorem scan_sound {cs : List Char} {pieces : List Piece} (h : (scan cs).read = .ok pieces) :
    Written cs (slotCount pieces) := by
  fun_induction scan cs generalizing pieces with
  | case1 =>
    cases h
    exact .nil
  | case2 => cases h
  | case3 rest ih =>
    obtain ⟨p, ps, hp, hps, rfl⟩ := Scan.of_read_push h
    cases hp
    have after := ih hps
    exact .opening after
  | case4 rest hne hopen fault hr =>
    cases h
  | case5 rest hne hopen slot rest' hr hlt ih =>
    obtain ⟨p, ps, hp, hps, rfl⟩ := Scan.of_read_push h
    obtain ⟨spec, hs, rfl⟩ := exists_of_map_eq_ok hp
    obtain ⟨written, hw, he⟩ := readSlot_sound hr hs
    rw [he]
    exact .slot hw (ih hps)
  | case6 rest ih =>
    obtain ⟨p, ps, hp, hps, rfl⟩ := Scan.of_read_push h
    cases hp
    have after := ih hps
    exact .closing after
  | case7 => cases h
  | case8 c rest hlone hescaped hopen hclosing hclose ih =>
    obtain ⟨p, ps, hp, hps, rfl⟩ := Scan.of_read_push h
    cases hp
    have after := ih hps
    exact .char hopen hclose after

theorem scan_char {c : Char} (cs : List Char) (ho : c ≠ '{') (hc : c ≠ '}') :
    scan (c :: cs) = (scan cs).push (.char c) := by
  rw [scan.eq_def]
  simp [ho, hc]

theorem scan_slot {cs rest : List Char} {raw : RawSlot} (hne : cs.head? ≠ some '{')
    (h : readSlot cs = .ok (raw, rest)) : scan ('{' :: cs) = (scan rest).push (.slot raw) := by
  have nonempty : cs ≠ [] := by
    rintro rfl
    cases h
  rw [scan.eq_4 cs nonempty fun _ he => hne (by rw [he]; rfl)]
  split
  next he => rw [h] at he; cases he
  next he => rw [h] at he; cases he; rfl

def Piece.TakenFrom (cs : List Char) : Piece → Prop
  | char c => c ∈ cs
  | slot spec => spec.fill ∈ ' ' :: cs

theorem Piece.TakenFrom.mono {cs ds : List Char} (hs : cs ⊆ ds) {p : Piece} (h : p.TakenFrom cs) :
    p.TakenFrom ds := by
  cases p with
  | char c => exact hs h
  | slot spec => exact List.cons_subset_cons ' ' hs h

/-- A part of a text is read as the pieces, whatever follows it. -/
structure ReadAs (cs : List Char) (pieces : List Piece) : Prop where
  before : ∀ rest, (scan (cs ++ rest)).read = (scan rest).read.map (pieces ++ ·)
  taken : ∀ p ∈ pieces, p.TakenFrom cs

theorem ReadAs.nil : ReadAs [] [] where
  before rest := by
    cases h : (scan rest).read <;> simp [h, Except.map]
  taken := by simp

theorem ReadAs.cons {cs : List Char} {pieces : List Piece} {p : Piece} (written : List Char)
    (raw : RawPiece) (hp : raw.parse = .ok p) (ht : p.TakenFrom written)
    (hs : ∀ rest, scan (written ++ rest) = (scan rest).push raw) (h : ReadAs cs pieces) :
    ReadAs (written ++ cs) (p :: pieces) where
  before rest := by
    rw [List.append_assoc, hs, Scan.read_push, hp, h.before]
    cases (scan rest).read <;> rfl
  taken :=
    List.forall_mem_cons.2 ⟨ht.mono (List.subset_append_left _ _),
      fun q hq => (h.taken q hq).mono (List.subset_append_right _ _)⟩

theorem ReadAs.read {cs : List Char} {pieces : List Piece} (h : ReadAs cs pieces) :
    (scan cs).read = .ok pieces := by
  have whole := h.before []
  rw [List.append_nil, scan] at whole
  rw [whole]
  exact congrArg Except.ok (List.append_nil pieces)

theorem scan_complete {cs : List Char} {n : Nat} (h : Written cs n) :
    ∃ pieces, ReadAs cs pieces ∧ slotCount pieces = n := by
  induction h with
  | nil => exact ⟨[], .nil, rfl⟩
  | @char c cs n ho hc _ ih =>
    obtain ⟨pieces, hp, rfl⟩ := ih
    exact ⟨_, hp.cons [c] (.char c) rfl (List.mem_singleton.2 rfl) fun rest => scan_char rest ho hc, rfl⟩
  | @opening cs n _ ih =>
    obtain ⟨pieces, hp, rfl⟩ := ih
    exact ⟨_, hp.cons ['{', '{'] (.char '{') rfl List.mem_cons_self scan.eq_3, rfl⟩
  | @closing cs n _ ih =>
    obtain ⟨pieces, hp, rfl⟩ := ih
    exact ⟨_, hp.cons ['}', '}'] (.char '}') rfl List.mem_cons_self scan.eq_5, rfl⟩
  | @slot slot cs n hslot _ ih =>
    obtain ⟨pieces, hp, rfl⟩ := ih
    obtain ⟨written, raw, spec, rfl, hs, within, hr⟩ := readSlot_complete hslot
    have parsed : (RawPiece.slot raw).parse = .ok (.slot spec) := by
      rw [RawPiece.parse, hs]
      rfl
    have fill : spec.fill ∈ ' ' :: '{' :: written :=
      List.cons_subset_cons ' ' within (Spec.fill_of_parse (RawSlot.of_parse_ok hs).2.2.2)
    exact ⟨_, hp.cons ('{' :: written) (.slot raw) parsed fill fun rest =>
      scan_slot (hr rest).1 (hr rest).2, rfl⟩

theorem parse_ok_iff {template : String} {n : Nat} :
    (∃ pieces, parse template = .ok pieces ∧ slotCount pieces = n) ↔ Written template.toList n := by
  rw [parse_eq]
  constructor
  · rintro ⟨pieces, hp, rfl⟩
    exact scan_sound hp
  · intro h
    obtain ⟨pieces, hp, hc⟩ := scan_complete h
    exact ⟨pieces, hp.read, hc⟩

end Template

namespace Value

/-- The slots of a text are counted exactly if it belongs to the grammar, and any other text is
refused for what is wrong with it as a template. -/
theorem placeholderCount_grammar (t : String) (context : Context) (state : State) :
    (∀ n, ((text t).placeholderCount.outcome context state).1 = .ok n ↔
        Template.Written t.toList n) ∧
      ((∃ n, Template.Written t.toList n) ∨
        ∃ fault, ((text t).placeholderCount.outcome context state).1 = .error (.template fault)) := by
  simp only [← Template.parse_ok_iff]
  cases hp : Template.parse t with
  | ok pieces =>
    rw [placeholderCount_of_ok rfl hp]
    exact ⟨fun n => by simp, .inl ⟨_, pieces, rfl, rfl⟩⟩
  | error fault =>
    rw [placeholderCount_of_fault rfl hp]
    exact ⟨fun n => by simp, .inr ⟨fault, rfl⟩⟩

end Value

end RecordMarkup

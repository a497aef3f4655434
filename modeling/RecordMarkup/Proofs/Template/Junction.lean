import RecordMarkup.Proofs.Template.Check
import RecordMarkup.Proofs.Template.Fill

namespace RecordMarkup

namespace Template

variable {cs ds : List Char} {ps qs : List Piece} {m n : Nat}

theorem Written.append (h : Written cs m) (k : Written ds n) : Written (cs ++ ds) (m + n) := by
  induction h with
  | nil => simpa using k
  | char ho hc _ ih => exact .char ho hc ih
  | opening _ ih => exact .opening ih
  | closing _ ih => exact .closing ih
  | slot hs _ ih =>
    rw [List.append_assoc, Nat.add_right_comm]
    exact .slot hs ih

theorem ReadAs.append (h : ReadAs cs ps) (k : ReadAs ds qs) : ReadAs (cs ++ ds) (ps ++ qs) where
  before rest := by
    rw [List.append_assoc, h.before, k.before]
    cases (scan rest).read <;> simp [Except.map]
  taken := by
    intro p hp
    obtain hp | hp := List.mem_append.1 hp
    · exact (h.taken p hp).mono (List.subset_append_left _ _)
    · exact (k.taken p hp).mono (List.subset_append_right _ _)

theorem ReadAs.written (h : ReadAs cs ps) : Written cs (slotCount ps) := scan_sound h.read

theorem readAs_bare : ReadAs ['{', '}'] [.slot bare] :=
  ReadAs.nil.cons ['{', '}'] (.slot ⟨[], none, []⟩) rfl (.head _) fun _ => scan_slot (by simp) rfl

/-! Texts without slots -/

def escapeChar (c : Char) : List Char := if c = '{' ∨ c = '}' then [c, c] else [c]

def escape (s : String) : String := .ofList (s.toList.flatMap escapeChar)

theorem readAs_escapeChar (c : Char) : ReadAs (escapeChar c) [.char c] := by
  have alone (written : List Char) (hm : c ∈ written)
      (hs : ∀ rest, scan (written ++ rest) = (scan rest).push (.char c)) :
      ReadAs (written ++ []) [.char c] := ReadAs.nil.cons written (.char c) rfl hm hs
  unfold escapeChar
  split
  next hc =>
    obtain rfl | rfl := hc
    · exact alone ['{', '{'] (.head _) scan.eq_3
    · exact alone ['}', '}'] (.head _) scan.eq_5
  next hc =>
    obtain ⟨ho, hc⟩ := not_or.1 hc
    exact alone [c] (.head _) fun rest => scan_char rest ho hc

theorem readAs_escape (s : String) : ReadAs (escape s).toList (s.toList.map .char) := by
  rw [escape, String.toList_ofList]
  induction s.toList with
  | nil => exact .nil
  | cons c cs ih => exact (readAs_escapeChar c).append ih

theorem slotCount_chars (cs : List Char) : slotCount (cs.map .char) = 0 := by
  induction cs with
  | nil => rfl
  | cons c cs ih => exact ih

theorem fill_chars (cs : List Char) : fill (cs.map .char) [] = cs := by
  induction cs with
  | nil => rfl
  | cons c cs ih => exact congrArg (c :: ·) ih

def slotted (first : String) : List String → String
  | [] => escape first
  | next :: rest => escape first ++ "{}" ++ slotted next rest

theorem written_escape (s : String) : Written (escape s).toList 0 := by
  rw [← slotCount_chars s.toList]
  exact (readAs_escape s).written

theorem written_slotted (first : String) (rest : List String) :
    Written (slotted first rest).toList rest.length := by
  induction rest generalizing first with
  | nil => exact written_escape first
  | cons next rest ih =>
    rw [slotted, String.toList_append, String.toList_append]
    have before := (written_escape first).append readAs_bare.written
    have whole := before.append (ih next)
    rwa [Nat.add_comm] at whole

end Template

namespace Value

open Template (Written ReadAs escape slotted)

variable {template : Value} {t : String} {pieces : List Template.Piece} {values : List Value}

theorem placeholderCount_eq {n : Nat} (ht : template.text? = some t) (h : Written t.toList n) :
    template.placeholderCount = pure n := by
  obtain ⟨pieces, read, rfl⟩ := Template.scan_complete h
  exact placeholderCount_of_ok ht read.read

theorem substitute_eq (ht : template.text? = some t) (hp : Template.parse t = .ok pieces)
    (hc : Template.slotCount pieces = values.length) (hw : values.findSome? unwritable? = none) :
    template.substitute values =
      pure (.ofList (Template.fill pieces (values.map fun v => v.slotText.toList))) := by
  rw [substitute_of_ok ht hp, if_pos hc, hw]

theorem substitute_around {a b : String} {us ws : List Value}
    (ht : template.text? = some (a ++ "{}" ++ b)) (ha : Written a.toList us.length)
    (hb : Written b.toList ws.length) (v : Value) :
    template.substitute (us ++ v :: ws) = do
      let x ← (text a).substitute us
      let _ ← v.toText
      let y ← (text b).substitute ws
      return x ++ v.slotText ++ y := by
  obtain ⟨ps, readA, hps⟩ := Template.scan_complete ha
  obtain ⟨qs, readB, hqs⟩ := Template.scan_complete hb
  have read : ReadAs (a ++ "{}" ++ b).toList (ps ++ ([.slot Template.bare] ++ qs)) := by
    rw [String.toList_append, String.toList_append, List.append_assoc]
    exact readA.append (Template.readAs_bare.append readB)
  have count : Template.slotCount (ps ++ ([.slot Template.bare] ++ qs)) =
      (us ++ v :: ws).length := by
    simp [Template.slotCount_append, Template.slotCount, hps, hqs]
  rw [substitute_of_ok ht read.read, substitute_of_ok rfl readA.read,
    substitute_of_ok rfl readB.read, if_pos count, if_pos hps, if_pos hqs, List.findSome?_append,
    List.findSome?_cons, List.map_append, Template.fill_append (by simp [hps]), toText]
  -- the first of the values that cannot be written decides, on both sides
  cases us.findSome? unwritable? with
  | some cause => rfl
  | none =>
    cases v.unwritable? with
    | some cause => rfl
    | none =>
      cases ws.findSome? unwritable? with
      | some cause => rfl
      | none => simp [Template.fill, String.ofList_append, String.append_assoc]

theorem substitute_escape (s : String) : (text (escape s)).substitute [] = pure s := by
  have none : Template.slotCount (s.toList.map .char) = ([] : List Value).length :=
    Template.slotCount_chars s.toList
  rw [substitute_eq rfl (Template.readAs_escape s).read none rfl, List.map_nil, Template.fill_chars,
    String.ofList_toList]

/-- A template of texts with bare slots between them has as many slots, and filling these puts the
values between the texts, whatever braces there are in the texts or in the values. -/
theorem substitute_slotted (first : String) (parts : List (String × String)) :
    (text (slotted first (parts.map Prod.snd))).placeholderCount = pure parts.length ∧
      (text (slotted first (parts.map Prod.snd))).substitute (parts.map fun part => text part.1) =
        pure (first ++ String.join (parts.map fun (value, next) => value ++ next)) := by
  constructor
  · have written := Template.written_slotted first (parts.map Prod.snd)
    rw [List.length_map] at written
    exact placeholderCount_eq rfl written
  · induction parts generalizing first with
    | nil => simpa [slotted] using substitute_escape first
    | cons part parts ih =>
      obtain ⟨value, next⟩ := part
      let values := parts.map fun part => text part.1
      have rest : Written (slotted next (parts.map Prod.snd)).toList values.length := by
        simpa [values] using Template.written_slotted next (parts.map Prod.snd)
      have filled : (text (slotted first (next :: parts.map Prod.snd))).substitute
          ([] ++ text value :: values) = _ :=
        substitute_around rfl (Template.written_escape first) rest (text value)
      rw [substitute_escape, pure_bind, toText_eq rfl, pure_bind, ih, pure_bind] at filled
      let joined := String.join (parts.map fun (value, next) => value ++ next)
      calc
        (text (slotted first (next :: parts.map Prod.snd))).substitute (text value :: values)
        _ = pure (first ++ value ++ (next ++ joined)) := filled
        _ = pure (first ++ ((value ++ next) ++ joined)) := by
          simp only [String.append_assoc]
        _ = pure (first ++ String.join ((value ++ next) :: parts.map fun (value, next) =>
            value ++ next)) := by
          rw [String.join_cons]

/-- An escaped brace beside a slot on either side. -/
example : slotted (.ofList ['a', '{']) [.ofList ['}', 'b']] = "a{{{}}}b" := by decide

end Value

end RecordMarkup

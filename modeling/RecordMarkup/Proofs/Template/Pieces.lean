import RecordMarkup.Template.Basic

/-!
A template without fault comes to a list of pieces, each format spec read once. Counting its slots and
filling them, which go over the text each on their own, say the same of it as the pieces do.
-/

namespace RecordMarkup.Template

inductive Piece
  | char (c : Char)
  | slot (spec : Spec)
  deriving DecidableEq, Repr

def RawSlot.parse (slot : RawSlot) : Except Fault Spec :=
  if slot.name ≠ [] then .error (.named slot.name)
  else
    match slot.conversion with
    | some c => .error (.converted c)
    | none =>
      if slot.spec.contains '{' then .error .nested
      else
        match Spec.parse slot.spec with
        | .error fault => .error (.spec slot.spec fault)
        | .ok spec => .ok spec

def RawPiece.parse : RawPiece → Except Fault Piece
  | .char c => .ok (.char c)
  | .slot s => s.parse.map .slot

def parse (template : String) : Except Fault (List Piece) := do
  let s := scan template.toList
  let pieces ← s.pieces.mapM RawPiece.parse
  match s.fault with
  | some m => .error (.malformed m)
  | none => .ok pieces

def slotCount : List Piece → Nat
  | [] => 0
  | .char _ :: pieces => slotCount pieces
  | .slot _ :: pieces => slotCount pieces + 1

def fill : List Piece → List (List Char) → List Char
  | [], _ => []
  | .char c :: pieces, texts => c :: fill pieces texts
  | .slot spec :: pieces, text :: texts => spec.apply text ++ fill pieces texts
  | .slot _ :: pieces, [] => fill pieces []

def bare : Spec := ⟨' ', .left, 0, none⟩

@[simp] theorem bare_apply (text : List Char) : bare.apply text = text := by
  simp [Spec.apply, bare]

theorem Spec.parse_nil : Spec.parse [] = .ok bare := by
  with_unfolding_all rfl

theorem Spec.format_eq (spec text : List Char) :
    Spec.format spec text = (Spec.parse spec).map (·.apply text) := by
  unfold Spec.format
  split
  next h =>
    obtain rfl := List.isEmpty_iff.1 h
    rw [parse_nil]
    exact congrArg Except.ok (bare_apply text).symm
  next => rfl

namespace RawSlot

variable {slot : RawSlot} {spec : Spec}

theorem of_parse_ok (h : slot.parse = .ok spec) :
    slot.name = [] ∧ slot.conversion = none ∧ '{' ∉ slot.spec ∧ Spec.parse slot.spec = .ok spec := by
  unfold parse at h
  split at h
  next => cases h
  next hn =>
  split at h
  next => cases h
  next hc =>
  split at h
  next => cases h
  next ho =>
  split at h
  next => cases h
  next hs =>
    cases h
    exact ⟨Decidable.not_not.1 hn, hc, by simpa using ho, hs⟩

theorem check_eq (slot : RawSlot) : slot.check = slot.parse.map fun _ => () := by
  obtain ⟨name, conversion, spec⟩ := slot
  simp only [check, parse, Spec.format_eq]
  split
  next => rfl
  next =>
  cases conversion with
  | some c => rfl
  | none =>
    simp only
    split
    next => rfl
    next => cases Spec.parse spec <;> rfl

theorem format_of_parse (h : slot.parse = .ok spec) (text : List Char) :
    slot.format text = .ok (spec.apply text) := by
  obtain ⟨name, conversion, plain, read⟩ := of_parse_ok h
  rw [format, Spec.format_eq, read]
  simp [name, conversion, plain, Except.map]

end RawSlot

theorem checkPieces_eq (pieces : List RawPiece) :
    checkPieces pieces = (pieces.mapM RawPiece.parse).map slotCount := by
  induction pieces with
  | nil => rfl
  | cons piece pieces ih =>
    rw [List.mapM_cons]
    cases piece with
    | char c =>
      rw [checkPieces, ih]
      cases pieces.mapM RawPiece.parse <;> rfl
    | slot slot =>
      rw [checkPieces, slot.check_eq, ih, RawPiece.parse]
      cases slot.parse <;> cases pieces.mapM RawPiece.parse <;> rfl

theorem placeholderCount_eq_map (template : String) :
    placeholderCount template = (parse template).map slotCount := by
  rw [placeholderCount, parse, checkPieces_eq]
  cases (scan template.toList).pieces.mapM RawPiece.parse <;>
    cases (scan template.toList).fault <;> rfl

theorem of_parse_cons {piece : RawPiece} {raw : List RawPiece} {pieces : List Piece}
    (h : (piece :: raw).mapM RawPiece.parse = .ok pieces) :
    ∃ p ps, piece.parse = .ok p ∧ raw.mapM RawPiece.parse = .ok ps ∧ pieces = p :: ps := by
  rw [List.mapM_cons] at h
  cases hp : piece.parse with
  | error fault =>
    rw [hp] at h
    cases h
  | ok p =>
    rw [hp] at h
    cases hr : raw.mapM RawPiece.parse with
    | error fault =>
      rw [hr] at h
      cases h
    | ok ps =>
      rw [hr] at h
      exact ⟨p, ps, rfl, rfl, (Except.ok.inj h).symm⟩

theorem formatPieces_of_parse {raw : List RawPiece} {pieces : List Piece}
    (h : raw.mapM RawPiece.parse = .ok pieces) (position : Nat) {texts : List (List Char)}
    (count : slotCount pieces = texts.length) :
    formatPieces position raw texts = .ok (fill pieces texts) := by
  induction raw generalizing pieces position texts with
  | nil =>
    obtain rfl : [] = pieces := Except.ok.inj h
    rfl
  | cons piece raw ih =>
    obtain ⟨p, ps, hp, hr, rfl⟩ := of_parse_cons h
    cases piece with
    | char c =>
      obtain rfl := Except.ok.inj hp
      rw [formatPieces, ih hr position count]
      rfl
    | slot slot =>
      obtain ⟨spec, hs, rfl⟩ := exists_of_map_eq_ok hp
      cases texts with
      | nil => cases count
      | cons text texts =>
        rw [formatPieces, slot.format_of_parse hs, ih hr _ (Nat.succ.inj count)]
        rfl

theorem format_of_parse {template : String} {pieces : List Piece} (h : parse template = .ok pieces)
    {texts : List (List Char)} (count : slotCount pieces = texts.length) :
    format template texts = .ok (fill pieces texts) := by
  rw [parse] at h
  rw [format]
  cases hr : (scan template.toList).pieces.mapM RawPiece.parse with
  | error fault =>
    rw [hr] at h
    cases h
  | ok ps =>
    cases hf : (scan template.toList).fault with
    | some m =>
      simp [hr, hf, bind, Except.bind] at h
    | none =>
      obtain rfl : ps = pieces := by simpa [hr, hf, bind, Except.bind] using h
      simp [formatPieces_of_parse hr 0 count, bind, Except.bind]

end RecordMarkup.Template

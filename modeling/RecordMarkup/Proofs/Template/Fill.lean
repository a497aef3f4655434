import RecordMarkup.Proofs.Template.Pieces

namespace RecordMarkup.Template

namespace Spec

variable (spec : Spec) (cs : List Char)

/-- What a slot shows of a text, the padding left out. -/
def body : List Char :=
  match spec.precision with
  | some n => cs.take n
  | none => cs

def Cuts : Prop := ∃ n, spec.precision = some n ∧ n < cs.length

theorem apply_padded : ∃ left right, left + right = spec.width - (spec.body cs).length ∧
    spec.apply cs =
      List.replicate left spec.fill ++ spec.body cs ++ List.replicate right spec.fill := by
  unfold apply
  extract_lets body gap
  split
  · exact ⟨gap, 0, rfl, (List.append_nil _).symm⟩
  · exact ⟨gap / 2, gap - gap / 2, Nat.add_sub_of_le (Nat.div_le_self gap 2), rfl⟩
  · exact ⟨0, gap, Nat.zero_add gap, rfl⟩

end Spec

def slots : List Piece → List Spec
  | [] => []
  | .char _ :: pieces => slots pieces
  | .slot spec :: pieces => spec :: slots pieces

variable {ps qs : List Piece}

theorem length_slots (pieces : List Piece) : (slots pieces).length = slotCount pieces := by
  induction pieces with
  | nil => rfl
  | cons p pieces ih =>
    cases p with
    | char c => exact ih
    | slot spec => exact congrArg (· + 1) ih

theorem slot_mem_of_mem_slots {spec : Spec} (h : spec ∈ slots ps) : .slot spec ∈ ps := by
  induction ps with
  | nil => cases h
  | cons p ps ih =>
    cases p with
    | char c => exact .tail _ (ih h)
    | slot other =>
      obtain rfl | h := List.mem_cons.1 h
      · exact .head _
      · exact .tail _ (ih h)

theorem slotCount_append (ps qs : List Piece) :
    slotCount (ps ++ qs) = slotCount ps + slotCount qs := by
  induction ps with
  | nil => simp [slotCount]
  | cons p ps ih =>
    cases p with
    | char c => exact ih
    | slot spec => rw [List.cons_append, slotCount, ih, slotCount, Nat.add_right_comm]

theorem fill_append {us ws : List (List Char)} (h : us.length = slotCount ps) :
    fill (ps ++ qs) (us ++ ws) = fill ps us ++ fill qs ws := by
  induction ps generalizing us with
  | nil =>
    obtain rfl := List.length_eq_zero_iff.1 h
    rfl
  | cons p ps ih =>
    cases p with
    | char c => simp [fill, ih h]
    | slot spec =>
      cases us with
      | nil => cases h
      | cons u us => simp [fill, ih (Nat.succ.inj h)]

theorem fill_of_parts {good : List Char → Prop} {texts : List (List Char)} (empty : good [])
    (append : ∀ cs ds, good cs → good ds → good (cs ++ ds)) (chars : ∀ c, .char c ∈ ps → good [c])
    (parts : ∀ spec text, (spec, text) ∈ (slots ps).zip texts → good (spec.apply text)) :
    good (fill ps texts) := by
  induction ps generalizing texts with
  | nil => exact empty
  | cons p ps ih =>
    have rest {others : List (List Char)}
        (h : ∀ spec text, (spec, text) ∈ (slots ps).zip others → good (spec.apply text)) :
        good (fill ps others) := ih (fun c hc => chars c (.tail _ hc)) h
    cases p with
    | char c => exact append [c] _ (chars c (.head _)) (rest parts)
    | slot spec =>
      cases texts with
      | nil => exact rest (by simp)
      | cons text texts =>
        exact append _ _ (parts spec text (.head _)) (rest fun s t h => parts s t (.tail _ h))

end RecordMarkup.Template

import RecordMarkup.Proofs.Component.Valid
import RecordMarkup.Proofs.Component.Within
import RecordMarkup.Proofs.Markup
import RecordMarkup.Proofs.Template.Fill
import RecordMarkup.Proofs.Text.Name
import RecordMarkup.Render.Element

namespace RecordMarkup

open Markup (Inert IsName IsTail isNameChar)

namespace Value

/-- The value is inert as the content of an element and in a slot of a template. The two differ for
members that are words. -/
def IsInert (v : Value) : Prop := Inert v.canonical.toList ∧ Inert v.slotText.toList

end Value

def Template.Piece.Inert : Template.Piece → Prop
  | char c => c ≠ '<' ∧ c ≠ '>'
  | slot spec => spec.fill ≠ '<' ∧ spec.fill ≠ '>'

/-- The texts that a component writes by itself are inert. Of a tag and of the keys this is asked only
if they are members; the name of a tag has to stay one. -/
def Component.Inert : Component Value → Prop
  | format template _ =>
    ∀ s pieces, template.text? = some s → Template.parse s = .ok pieces → ∀ p ∈ pieces, p.Inert
  | static key value | requestAttr key value =>
    (∀ m, key = .member m → Markup.Inert m.display.toList) ∧ Markup.Inert value.display.toList
  | dynamic key _ => ∀ m, key = .member m → Markup.Inert m.display.toList
  | element tag _ _ before after =>
    (∀ m, tag = .member m → Markup.IsName m.display.toList) ∧
      (∀ s, before.text? = some s → Markup.Inert s.toList) ∧
        ∀ s, after.text? = some s → Markup.Inert s.toList
  | optional default _ => default.IsInert
  | _ => True

namespace Value

def AllInert (v : Value) : Prop := ∀ c, component c ∈ v.within → c.Inert

theorem AllInert.self {c : Component Value} (h : (component c).AllInert) : c.Inert :=
  h c (mem_within_self c)

theorem AllInert.part {c : Component Value} (h : (component c).AllInert) :
    ∀ part ∈ c.parts, part.AllInert :=
  fun part hp d hd => h d (mem_within_component.2 (.inr ⟨part, hp, hd⟩))

theorem isInert_text {s : String} (h : Inert s.toList) : (text s).IsInert := ⟨h, h⟩

end Value

section Name

theorem Text.inert_of_isAttributeKey {s : String} (h : Text.isAttributeKey s) : Inert s.toList := by
  refine (Text.isAttributeKey_iff.1 h).forall_mem (fun cs key c hc => ?_) (by decide)
  have allowed := (key.2 c hc).2
  simp only [List.mem_cons, not_or] at allowed
  exact ⟨allowed.2.2.1, allowed.2.2.2.1⟩

theorem Text.isName_of_isTagName {s : String} (h : Text.isTagName s) : IsName s.toList := by
  have word := Text.isTagName_iff.1 h
  refine ⟨?_, word.forall_mem (fun cs tag c hc => ?_) rfl⟩
  · obtain ⟨cs, ⟨-, -⟩, hs | hs⟩ := word
    all_goals simp [hs]
  · have allowed := tag.allowed c hc
    rw [isNameChar, Bool.not_eq_true', List.contains_eq_mem, decide_eq_false_iff_not]
    intro mark
    simp only [List.mem_cons, List.not_mem_nil, or_false] at mark
    obtain rfl | rfl | rfl | rfl := mark
    all_goals
      revert allowed
      decide

end Name

section Shown

open Value

theorem Value.display_of_text {v : Value} {s : String} (h : v.text? = some s) :
    v.display = s ∨ ∃ m, v = member m := by
  cases v with
  | text t => exact .inl (Option.some.inj h)
  | member m => exact .inr ⟨m, rfl⟩
  | _ => cases h

theorem Value.inert_of_key {key : Value} (h : key.isTextWhere Text.isAttributeKey)
    (hm : ∀ m, key = member m → Inert m.display.toList) : Inert key.display.toList := by
  obtain ⟨s, hs⟩ := Option.isSome_iff_exists.1 (isText_of_isTextWhere h)
  obtain he | ⟨m, rfl⟩ := display_of_text hs
  · rw [isTextWhere, hs] at h
    rw [he]
    exact Text.inert_of_isAttributeKey h
  · exact hm m rfl

theorem Value.isName_of_tag {tag : Value} (h : tag.isTextWhere Text.isTagName)
    (hm : ∀ m, tag = member m → IsName m.display.toList) : IsName tag.display.toList := by
  obtain ⟨s, hs⟩ := Option.isSome_iff_exists.1 (isText_of_isTextWhere h)
  obtain he | ⟨m, rfl⟩ := display_of_text hs
  · rw [isTextWhere, hs] at h
    rw [he]
    exact Text.isName_of_isTagName h
  · exact hm m rfl

end Shown

section Fill

theorem Template.Spec.body_subset (spec : Template.Spec) (cs : List Char) : spec.body cs ⊆ cs := by
  unfold Template.Spec.body
  split
  · exact List.take_subset _ cs
  · exact List.Subset.refl cs

theorem Template.Spec.inert_apply {spec : Template.Spec} {cs : List Char}
    (hf : spec.fill ≠ '<' ∧ spec.fill ≠ '>') (h : Inert cs) : Inert (spec.apply cs) := by
  have padding (n : Nat) : Inert (List.replicate n spec.fill) := fun c hc =>
    (List.eq_of_mem_replicate hc) ▸ hf
  have body : Inert (spec.body cs) := fun c hc => h c (spec.body_subset cs hc)
  obtain ⟨left, right, -, shown⟩ := spec.apply_padded cs
  rw [shown]
  exact ((padding left).append body).append (padding right)

theorem Template.inert_fill {pieces : List Template.Piece} {texts : List (List Char)}
    (hp : ∀ p ∈ pieces, p.Inert) (ht : ∀ t ∈ texts, Inert t) :
    Inert (Template.fill pieces texts) := by
  refine fill_of_parts (List.forall_mem_nil _) (fun _ _ => Inert.append) (fun c hc => ?_) ?_
  · exact List.forall_mem_singleton.2 (hp _ hc)
  · intro spec text hm
    obtain ⟨hs, hm⟩ := List.of_mem_zip hm
    exact Template.Spec.inert_apply (hp _ (slot_mem_of_mem_slots hs)) (ht _ hm)

theorem Text.Percent.inert_escapeByte (b : UInt8) : Inert (Text.Percent.escapeByte b) := by
  have digits : Inert ('0' :: "0123456789ABCDEF".toList) := by decide
  have digit (n : Nat) : Text.Percent.hexDigit n ≠ '<' ∧ Text.Percent.hexDigit n ≠ '>' := by
    refine digits _ ?_
    rw [Text.Percent.hexDigit, List.getD_eq_getElem?_getD]
    cases hd : "0123456789ABCDEF".toList[n]? with
    | none => exact .head _
    | some d => exact .tail _ (List.mem_of_getElem? hd)
  exact List.forall_mem_cons.2 ⟨by decide, List.forall_mem_cons.2 ⟨digit _,
    List.forall_mem_cons.2 ⟨digit _, List.forall_mem_nil _⟩⟩⟩

theorem Text.Percent.inert_encode {safe s : String} (h : Inert s.toList) :
    Inert (Text.Percent.encode safe s).toList := by
  intro c hc
  rw [Text.Percent.encode, String.toList_ofList, List.mem_flatMap] at hc
  obtain ⟨d, hd, hc⟩ := hc
  unfold Text.Percent.encodeChar at hc
  split at hc
  · obtain rfl := List.mem_singleton.1 hc
    exact h c hd
  · obtain ⟨b, -, hc⟩ := List.mem_flatMap.1 hc
    exact Text.Percent.inert_escapeByte b c hc

end Fill

section Tail

open Value

theorem isTail_nil : IsTail [] := ⟨List.forall_mem_nil _, .inl rfl⟩

theorem Markup.IsTail.append {cs ds : List Char} (h : IsTail cs) (k : IsTail ds) :
    IsTail (cs ++ ds) := by
  refine ⟨h.1.append k.1, ?_⟩
  obtain ⟨-, rfl | ⟨es, rfl⟩⟩ := h
  · exact k.2
  · exact .inr ⟨_, rfl⟩

theorem isTail_join {texts : List String} (h : ∀ s ∈ texts, IsTail s.toList) :
    IsTail (String.join texts).toList := by
  induction texts with
  | nil => exact isTail_nil
  | cons s texts ih =>
    obtain ⟨hs, h⟩ := List.forall_mem_cons.1 h
    rw [String.join_cons, String.toList_append]
    exact hs.append (ih h)

theorem isTail_attributeText {name value : String} (hn : Inert name.toList)
    (hv : Inert value.toList) : IsTail (attributeText name value).toList := by
  have marks : Inert " ".toList ∧ Inert "=\"".toList ∧ Inert "\"".toList := by decide
  obtain ⟨space, equals, quote⟩ := marks
  simp only [attributeText, String.toList_append]
  exact ⟨(((space.append hn).append equals).append hv).append quote, .inr ⟨_, rfl⟩⟩

end Tail

end RecordMarkup

import RecordMarkup.Proofs.Render.References
import RecordMarkup.Proofs.Text.Percent

namespace RecordMarkup

namespace Eval

variable {α β : Type}

theorem Stateless.mapM {f : α → Eval β} {xs : List α} (h : ∀ x ∈ xs, (f x).Stateless) :
    (xs.mapM f).Stateless := by
  induction xs with
  | nil => exact .pure _
  | cons x xs ih =>
    rw [List.mapM_cons]
    refine (h x (.head _)).bind fun _ => ?_
    exact (ih fun y hy => h y (.tail _ hy)).bind fun _ => .pure _

end Eval

namespace Value

open Eval (Stateless)

theorem callSlot_stateless (v : Value) (name : String) (args : List Value) :
    (v.callSlot name args).Stateless :=
  (slot_stateless v name).bind fun _ => call_stateless _ _

theorem requireHashable_stateless (v : Value) : v.requireHashable.Stateless := by
  unfold requireHashable
  split
  · exact .throw _
  · exact .pure _

theorem placeholderCount_stateless (template : Value) : template.placeholderCount.Stateless := by
  refine .bind ((requireHashable_stateless template).bind fun _ => ?_) fun count => ?_
  · split
    · exact .pure _
    · exact .throw _
  · split
    · exact .pure _
    · exact .throw _

theorem toText_stateless (v : Value) : v.toText.Stateless := by
  unfold toText
  split
  · exact .throw _
  · exact .pure _

theorem formatTexts_stateless (template : Value) (texts : List (List Char)) :
    (template.formatTexts texts).Stateless := by
  unfold formatTexts
  split
  · exact .pure _
  · exact .throw _

theorem substitute_stateless (template : Value) (values : List Value) :
    (template.substitute values).Stateless := by
  refine (placeholderCount_stateless template).bind fun count => ?_
  split
  · refine .bind (.mapM fun v _ => ?_) fun _ => formatTexts_stateless _ _
    exact (toText_stateless v).bind fun _ => .pure _
  · exact .throw _

theorem percentEncode_stateless (v : Value) : v.percentEncode.Stateless := by
  refine (toText_stateless v).bind fun s => Stateless.read.bind fun context => ?_
  split
  · exact .throw _
  · exact .pure _

theorem toText_mayFail {v : Value} {context : Context} {f : Failure} (h : v.toText.MayFail context f) :
    ∃ cause, f = .unwritable cause := by
  obtain ⟨before, after, hf⟩ := h
  unfold toText at hf
  split at hf
  next => exact ⟨_, (Except.error.inj (Prod.mk.inj hf).1).symm⟩
  next => cases hf

theorem percentEncode_mayFail {v : Value} {context : Context} {f : Failure}
    (h : v.percentEncode.MayFail context f) :
    (∃ cause, f = .unwritable cause) ∨ ∃ row, f = .unencodable row := by
  obtain ⟨before, after, hf⟩ := h
  rw [percentEncode_outcome] at hf
  have failed := (Prod.mk.inj hf).1
  split at failed
  next => exact .inl ⟨_, (Except.error.inj failed).symm⟩
  next => exact .inr ⟨_, (Except.error.inj failed).symm⟩
  next => cases failed

theorem evaluate_stateless (format record : Value) (leading : List Value) :
    (format.evaluate record leading).Stateless := by
  unfold evaluate
  split
  · refine .bind (.mapM fun _ _ => field_stateless _ _) fun _ => ?_
    exact (substitute_stateless _ _).bind fun _ => .pure _
  · exact callSlot_stateless _ _ _

theorem join_stateless (separator : String) (parts : List Value) :
    (join separator parts).Stateless := by
  refine .bind (.mapM fun part _ => ?_) fun _ => .pure _
  simp only
  split
  · exact .pure _
  · exact .throw _

section Attribute

variable {record : Value}

theorem renderStatic_stateless (source : Value) : source.renderStatic.Stateless :=
  (slot_stateless _ _).bind fun _ => (slot_stateless _ _).bind fun _ => .pure _

theorem renderDynamic_stateless (source : Value) : (source.renderDynamic record).Stateless :=
  (slot_stateless _ _).bind fun _ => (slot_stateless _ _).bind fun _ =>
    (evaluate_stateless _ _ _).bind fun _ => .pure _

theorem liesIn_stateless (space : String) (key : Value) : (key.liesIn space).Stateless := by
  unfold liesIn
  split
  · exact .throw _
  · split
    · exact .pure _
    · exact (callSlot_stateless _ _ _).bind fun _ => .pure _

theorem renderRequestAttr_stateless (source : Value) : source.renderRequestAttr.Stateless := by
  refine (slot_stateless _ _).bind fun key => .bind ?_ fun _ =>
    (slot_stateless _ _).bind fun _ => .pure _
  exact Stateless.settings.bind fun _ => (liesIn_stateless _ _).bind fun _ => .pure _

theorem pathValues_stateless (encode : Value) (values : List Value) :
    (pathValues encode values).Stateless := by
  unfold pathValues
  split
  · exact .mapM fun v _ => (percentEncode_stateless v).bind fun _ => .pure _
  · exact .pure _

theorem renderRequest_stateless {m : Method} {path encode : Value}
    (hv : Component.Valid (.request m path encode)) :
    ((component (.request m path encode)).renderRequest record).Stateless := by
  simp only [renderRequest, slot_request_path, pure_bind, args_slot hv.1, forEach_tuple]
  refine .bind (.mapM fun _ _ => field_stateless _ _) fun _ => (slot_stateless _ _).bind fun _ => ?_
  refine (pathValues_stateless _ _).bind fun _ => (slot_stateless _ _).bind fun _ => ?_
  exact (slot_stateless _ _).bind fun _ => (slot_stateless _ _).bind fun _ =>
    (substitute_stateless _ _).bind fun _ => .pure _

theorem renderAttribute_stateless {c : Component Value} (hk : c.kind.isAttribute) (hv : c.Valid) :
    ((component c).renderAttribute c.kind record).Stateless := by
  cases c with
  | static key value => exact renderStatic_stateless _
  | dynamic key expr => exact renderDynamic_stateless _
  | requestAttr key value => exact renderRequestAttr_stateless _
  | request m path encode => exact renderRequest_stateless hv
  | _ => simp [Component.kind, Kind.isAttribute] at hk

theorem renderKind_stateless {sources : List Value} (hs : ∀ source ∈ sources, source.IsSource)
    (kind : Kind) : (renderKind sources record kind).Stateless := by
  refine .bind (.mapM fun source hm => ?_) fun _ => .pure _
  obtain ⟨c, rfl, hk, hv⟩ := hs source hm
  rw [slot_kind, pure_bind, isKind_tag]
  split
  next same =>
    obtain rfl := of_decide_eq_true same
    exact renderAttribute_stateless hk hv
  next => exact .pure _

theorem renderAttributes_stateless {sources : List Value}
    (hs : ∀ source ∈ sources, source.IsSource) :
    ((tuple sources).renderAttributes record).Stateless := by
  rw [renderAttributes, elements_tuple, pure_bind]
  exact .bind (.mapM fun kind _ => renderKind_stateless hs kind) fun _ => .pure _

end Attribute

section Element

variable {element record : Value}

theorem openTag_stateless (he : element.IsElement) : (element.openTag record).Stateless := by
  obtain ⟨sources, -, -⟩ := he
  simp only [openTag]
  split
  next => exact .pure _
  next => exact (renderAttributes_stateless sources).bind fun _ => .pure _

theorem closeTag_stateless (element : Value) : element.closeTag.Stateless := by
  unfold closeTag
  split
  · exact .pure _
  · exact callSlot_stateless _ _ _

theorem wrap_stateless (he : element.IsElement) (inner : Value) :
    (element.wrap record inner).Stateless :=
  (openTag_stateless he).bind fun _ => (slot_stateless _ _).bind fun _ =>
    (slot_stateless _ _).bind fun _ => (closeTag_stateless _).bind fun _ => join_stateless _ _

theorem renderContent_stateless (he : element.IsElement) (v : Value) :
    (element.renderContent record v).Stateless := by
  obtain ⟨sources, -, -⟩ := he
  simp only [renderContent]
  split
  next => exact (toText_stateless v).bind fun _ => .pure _
  next => exact evaluate_stateless _ _ _

theorem renderElement_stateless {name policy wrapper : Value} (hw : OrNull IsElement wrapper)
    (v : Value) : ((component (.field name policy wrapper)).renderElement record v).Stateless := by
  obtain ⟨e, he, element, -, -⟩ := fieldElement_eq name policy hw
  rw [renderElement, he, pure_bind]
  exact (renderContent_stateless element v).bind fun _ => wrap_stateless element _

end Element

end Value

end RecordMarkup

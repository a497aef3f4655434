import Mathlib.Data.List.Forall2
import RecordMarkup.Proofs.Render.AttributeOrder
import RecordMarkup.Render.Nesting

namespace RecordMarkup.Value

variable {record : Value}

/-- Elements that differ only in how attributes of different kinds are mixed. -/
inductive Regrouped : Value → Value → Prop
  | null : Regrouped null null
  | element {tag content before after : Value} {sources others : List Value}
      (hs : ∀ s ∈ sources, ∃ c, s = component c) (ho : ∀ s ∈ others, ∃ c, s = component c)
      (h : ∀ k ∈ attributeOrder, sources.filter (hasKind k) = others.filter (hasKind k)) :
      Regrouped (component (.element tag sources content before after))
        (component (.element tag others content before after))

namespace Regrouped

variable {wrapper other : Value}

theorem openTag (h : Regrouped wrapper other) : wrapper.openTag record = other.openTag record := by
  cases h with
  | null => rfl
  | element hs ho h =>
    have sources := fun s hm => tagged_of_component (hs s hm)
    have others := fun s hm => tagged_of_component (ho s hm)
    simp only [Value.openTag, renderAttributes_congr sources others h]

theorem closeTag (h : Regrouped wrapper other) : wrapper.closeTag = other.closeTag := by
  cases h with
  | null => rfl
  | element => rfl

theorem slot (h : Regrouped wrapper other) {name : String} (hn : name ∈ ["before", "after"]) :
    wrapper.slot name = other.slot name := by
  cases h with
  | null => rfl
  | element =>
    simp only [List.mem_cons, List.not_mem_nil, or_false] at hn
    obtain rfl | rfl := hn
    · rw [slot_component _ _ rfl, slot_component _ _ rfl]
      rfl
    · rw [slot_component _ _ rfl, slot_component _ _ rfl]
      rfl

theorem wrap (h : Regrouped wrapper other) (inner : Value) :
    wrapper.wrap record inner = other.wrap record inner := by
  rw [Value.wrap, Value.wrap, h.openTag, h.closeTag, h.slot (.head _), h.slot (.tail _ (.head _))]

theorem renderContent (h : Regrouped wrapper other) (v : Value) :
    wrapper.renderContent record v = other.renderContent record v := by
  cases h with
  | null => rfl
  | element => rfl

theorem recordStart (h : Regrouped wrapper other) :
    wrapper.recordStart record = other.recordStart record := by
  have null : wrapper.isNull = other.isNull := by cases h <;> rfl
  rw [Value.recordStart, Value.recordStart, null, h.openTag, h.slot (.head _)]

theorem recordEnd (h : Regrouped wrapper other) : wrapper.recordEnd = other.recordEnd := by
  have null : wrapper.isNull = other.isNull := by cases h <;> rfl
  rw [Value.recordEnd, Value.recordEnd, null, h.closeTag, h.slot (.tail _ (.head _))]

theorem content (h : Regrouped wrapper other) : wrapper.content = other.content := by
  cases h with
  | null => rfl
  | element => rfl

theorem isTagged (h : Regrouped wrapper other) : wrapper.IsTagged ↔ other.IsTagged := by
  cases h with
  | null => rfl
  | element => rfl

theorem fieldElement (h : Regrouped wrapper other) (name policy policy' : Value) :
    ∃ e e' : Value, (component (.field name policy wrapper)).fieldElement = pure e ∧
      (component (.field name policy' other)).fieldElement = pure e' ∧ Regrouped e e' := by
  cases h with
  | null =>
    exact ⟨_, _, fieldElement_null name policy, fieldElement_null name policy',
      .element (by simp) (by simp) fun _ _ => rfl⟩
  | element hs ho h =>
    exact ⟨_, _, fieldElement_component name policy _, fieldElement_component name policy' _,
      .element hs ho h⟩

end Regrouped

/-- The schemas have the same name and render every record to the same end. -/
structure Alike (s t : Value) : Prop where
  left : IsA .schema s
  right : IsA .schema t
  name : s.displayName = t.displayName
  render : ∀ record, render s record = render t record

inductive AlikePolicy : Component Value → Component Value → Prop
  | same {c : Component Value} (h : c.kind.isPolicy) : AlikePolicy c c
  | list {item item' : Value} (h : Alike item item') : AlikePolicy (.list item) (.list item')
  | nest {inner inner' : Value} (h : Alike inner inner') (isOptional : Value) :
      AlikePolicy (.nest inner isOptional) (.nest inner' isOptional)

inductive AlikeField : Value → Value → Prop
  | intro {c d : Component Value} {wrapper other : Value} (name : Value) (policy : AlikePolicy c d)
      (regrouped : Regrouped wrapper other) :
      AlikeField (component (.field name (component c) wrapper))
        (component (.field name (component d) other))

section Field

variable {name wrapper other : Value} (h : Regrouped wrapper other)
include h

theorem renderElement_alike (policy policy' v : Value) :
    (component (.field name policy wrapper)).renderElement record v =
      (component (.field name policy' other)).renderElement record v := by
  obtain ⟨e, e', he, he', hr⟩ := h.fieldElement name policy policy'
  simp only [renderElement, he, he', pure_bind, hr.renderContent, hr.wrap]

theorem renderByKind_same {c : Component Value} (hk : c.kind.isPolicy) (policy policy' v : Value) :
    renderByKind render (component (.field name policy wrapper)) (component c) record v c.kind =
      renderByKind render (component (.field name policy' other)) (component c) record v c.kind := by
  have element : ∀ v, (component (.field name policy wrapper)).renderElement record v =
      (component (.field name policy' other)).renderElement record v :=
    renderElement_alike h policy policy'
  obtain ⟨e, e', he, he', hr⟩ := h.fieldElement name policy policy'
  cases c with
  | plain => exact element v
  | optional => simp only [Component.kind, renderByKind, renderOptional, element]
  | map => simp only [Component.kind, renderByKind, element]
  | list =>
    have items : (component (.field name policy wrapper)).renderElement record =
        (component (.field name policy' other)).renderElement record := funext element
    simp only [Component.kind, renderByKind, renderList, items, slot_field_name, he, he',
      pure_bind, hr.wrap]
  | nest => simp only [Component.kind, renderByKind, renderNest, slot_field_name, he, he',
      pure_bind, hr.wrap]
  | _ => simp [Component.kind, Kind.isPolicy] at hk

theorem renderNested_alike {item item' : Value} (hi : Alike item item') (policy policy' v : Value) :
    renderList render (component (.field name policy wrapper)) (component (.list item)) record v =
      renderList render (component (.field name policy' other)) (component (.list item')) record v := by
  obtain ⟨e, e', he, he', hr⟩ := h.fieldElement name policy policy'
  have nested : render item = render item' := funext hi.render
  obtain ⟨c, hc, -⟩ := hi.left
  obtain ⟨d, hd, -⟩ := hi.right
  have present : item.isNull = item'.isNull := by
    rw [hc, hd]
    rfl
  have items : (component (.field name policy wrapper)).renderElement record =
      (component (.field name policy' other)).renderElement record :=
    funext (renderElement_alike h policy policy')
  simp only [renderList, nested_slot, present, slot_field_name, slot_list_item, he, he', pure_bind,
    nested, items, hi.name, hr.wrap]

theorem renderNest_alike {inner inner' : Value} (hi : Alike inner inner')
    (isOptional policy policy' v : Value) :
    renderNest render (component (.field name policy wrapper)) (component (.nest inner isOptional))
        record v =
      renderNest render (component (.field name policy' other)) (component (.nest inner' isOptional))
        record v := by
  obtain ⟨e, e', he, he', hr⟩ := h.fieldElement name policy policy'
  simp only [renderNest, skipsNest, slot_nest_optional, slot_field_name, slot_nest_schema, he, he',
    pure_bind, hi.render, hi.name, hr.wrap]

end Field

theorem renderFieldWith_alike {field other : Value} (h : AlikeField field other) :
    renderFieldWith render field record = renderFieldWith render other record := by
  obtain ⟨name, policy, regrouped⟩ := h
  cases policy with
  | same hk =>
    rw [renderFieldWith_eq hk, renderFieldWith_eq hk]
    refine Eval.bind_congr fun _ _ v _ _ => ?_
    rw [renderByKind_same regrouped hk]
  | list hi =>
    rw [renderFieldWith_eq rfl, renderFieldWith_eq rfl]
    exact Eval.bind_congr fun _ _ v _ _ => by
      rw [Component.kind, Component.kind, renderByKind, renderByKind,
        renderNested_alike regrouped hi]
  | nest hi isOptional =>
    rw [renderFieldWith_eq rfl, renderFieldWith_eq rfl]
    exact Eval.bind_congr fun _ _ v _ _ => renderNest_alike regrouped hi isOptional _ _ v

theorem render_alike {fields others : List Value} {wrapper other name name' type type' : Value}
    (h : Regrouped wrapper other) (hf : List.Forall₂ AlikeField fields others) (record : Value) :
    render (component (.schema fields wrapper name type)) record =
      render (component (.schema others other name' type')) record := by
  have each : fields.mapM (fun f => renderFieldWith render f record) =
      others.mapM fun f => renderFieldWith render f record := by
    induction hf with
    | nil => rfl
    | cons hf _ ih => rw [List.mapM_cons, List.mapM_cons, renderFieldWith_alike hf, ih]
  rw [render_eq, render_eq]
  simp only [renderWith, slot_schema_element, slot_schema_fields, pure_bind, forEach_tuple, each,
    h.recordStart, h.recordEnd]

end RecordMarkup.Value

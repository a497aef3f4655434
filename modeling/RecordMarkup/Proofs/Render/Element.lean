import RecordMarkup.Proofs.Component.Checks
import RecordMarkup.Proofs.Render.Conforms

namespace RecordMarkup.Value

theorem slot_kind (c : Component Value) : (component c).slot "kind" = pure (text c.kind.tag) := by
  refine slot_eq_pure (by decide) fun space => ?_
  have own : c.slots.lookup "kind" = none := by cases c <;> rfl
  simp [slot?, own, derivedSlot?]

theorem slot_method_attribute (m : Method) (context : Context) (state : State) :
    ((method m).slot "attribute").outcome context state =
      (.ok (text (context.settings.requestNamespace ++ m.word)), state) := rfl

theorem isKind_tag (k l : Kind) : isKind k (text l.tag) = decide (l = k) := by
  by_cases h : l = k
  · simp [isKind, text?, h]
  · have ht : l.tag ≠ k.tag := fun ht => h (tag_injective ht)
    simp [isKind, text?, h, ht]

theorem liesIn_eq {key : Value} {s : String} (hs : key.text? = some s) (space : String) :
    key.liesIn space = pure (space.toList.isPrefixOf s.toList) := by
  unfold liesIn
  split
  next => simp [text?] at hs
  next => rw [hs]

def IsSource (source : Value) : Prop :=
  ∃ c, source = component c ∧ c.kind.isAttribute ∧ c.Valid

inductive IsElement : Value → Prop
  | intro {tag content before after : Value} {attributes : List Value}
      (sources : ∀ source ∈ attributes, IsSource source) (hb : before.isText) (ha : after.isText) :
      IsElement (component (.element tag attributes content before after))

theorem fieldElement_null (name policy : Value) :
    (component (.field name policy null)).fieldElement = pure bareElement := by
  simp [fieldElement, slot_field_element, truthy]

theorem fieldElement_component (name policy : Value) (c : Component Value) :
    (component (.field name policy (component c))).fieldElement = pure (component c) := by
  simp [fieldElement, slot_field_element, truthy]

theorem fieldElement_eq (name policy : Value) {wrapper : Value} (hw : OrNull IsElement wrapper) :
    ∃ e : Value, (component (.field name policy wrapper)).fieldElement = pure e ∧ e.IsElement ∧
      e.elementArgs = wrapper.elementArgs ∧ e.content = wrapper.content := by
  obtain rfl | hw := hw
  · exact ⟨bareElement, fieldElement_null name policy, .intro (by simp) rfl rfl, rfl, rfl⟩
  · refine ⟨wrapper, ?_, hw, rfl, rfl⟩
    obtain ⟨sources, before, after⟩ := hw
    exact fieldElement_component name policy _

theorem nested_slot (item : Value) :
    (component (.list item)).slot "nested" = pure (bool !item.isNull) :=
  slot_eq_pure (by decide) fun _ => rfl

theorem skipsNest_eq (inner isOptional v : Value) :
    skipsNest (component (.nest inner isOptional)) v = pure (v.isNull && isOptional.truthy) := by
  rw [skipsNest, slot_nest_optional]
  cases v.isNull <;> rfl

section Field

variable {record name wrapper : Value} {c : Component Value} {render : Value → Value → Eval String}

def renderByKind (render : Value → Value → Eval String) (field policy record v : Value) :
    Kind → Eval String
  | .optional => field.renderOptional policy record v
  | .map => do field.renderElement record (← (← policy.slot "map").applyMapping v)
  | .list => renderList render field policy record v
  | .nest => renderNest render field policy record v
  | _ => field.renderElement record v

theorem renderFieldWith_eq (hk : c.kind.isPolicy) :
    renderFieldWith render (component (.field name (component c) wrapper)) record =
      record.field name >>= fun v => renderByKind render
        (component (.field name (component c) wrapper)) (component c) record v c.kind := by
  have known : (text c.kind.tag).kind? = some c.kind := by
    simp [kind?, text?, Kind.ofTag?_tag]
  have hashable : (text c.kind.tag).requireHashable = pure () := by
    simp [requireHashable, unhashable?]
  simp only [renderFieldWith, slot_field_policy, slot_field_name, slot_kind, hashable, known,
    pure_bind, Option.filter_some, hk, if_true]
  rfl

end Field

end RecordMarkup.Value

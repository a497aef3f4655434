import RecordMarkup.Proofs.Component.Built
import RecordMarkup.Proofs.Template.Pieces

namespace RecordMarkup

namespace Value

def IsTemplate (template : Value) : Prop :=
  ∃ s pieces, template.text? = some s ∧ Template.parse s = .ok pieces

/-- A format whose template has a slot for each argument and for `extra` values before them. -/
def HasSlots (extra : Nat) : Value → Prop
  | component (.format template args) =>
    ∃ s pieces, template.text? = some s ∧ Template.parse s = .ok pieces ∧
      Template.slotCount pieces = extra + args.length
  | _ => False

def args : Value → List Value
  | component (.format _ args) => args
  | _ => []

def content : Value → Value
  | component (.element _ _ content _ _) => content
  | _ => null

def nameText? : Value → Option String
  | component (.field name ..) => name.text?
  | _ => none

def IsFlat (policy : Value) : Prop := policy = component (.list null)

def inner? : Value → Option Value
  | component (.list item) => if item.isNull then none else some item
  | component (.nest inner _) => some inner
  | _ => none

def IsTagged : Value → Prop
  | component (.element tag ..) => tag ≠ null
  | _ => False

end Value

namespace Component

def Valid : Component Value → Prop
  | format template args =>
    template.IsTemplate ∧ ∀ arg ∈ args, arg.isTextWhere Text.isFieldName
  | mapping name function => name.isTextWhere Text.isFieldName ∧ function.isCallable
  | static key value | requestAttr key value =>
    key.isTextWhere Text.isAttributeKey ∧ value.isText
  | dynamic key expr => key.isTextWhere Text.isAttributeKey ∧ expr.HasSlots 0
  | request _ path encode =>
    path.HasSlots 0 ∧ (encode.truthy → path.args ≠ [])
  | element tag attributes _ before after =>
    (tag = .null ∨ tag.isTextWhere Text.isTagName) ∧
      (attributes.filter (Value.hasKind .request)).length ≤ 1 ∧
      (tag = .null → attributes = []) ∧ before.isText ∧ after.isText
  | plain => True
  | optional default function => default = .null ∨ function = .null
  | map _ | list _ | nest .. => True
  | field name policy wrapper =>
    name.isTextWhere Text.isFieldName ∧ (policy.IsFlat → wrapper.IsTagged) ∧
      (wrapper.content ≠ .null → policy.inner? = none ∧ wrapper.content.HasSlots 1)
  | schema fields wrapper _ _ => wrapper.content = .null ∧ (fields.map Value.nameText?).Nodup

end Component

/-- The check gives defects without further ado, and none exactly if the condition holds. -/
def Decides (check : Eval (List Defect)) (condition : Prop) : Prop :=
  ∃ defects, check = pure defects ∧ (defects = [] ↔ condition)

namespace Decides

theorem pure {defects : List Defect} {p : Prop} (h : defects = [] ↔ p) :
    Decides (Pure.pure defects) p := ⟨defects, rfl, h⟩

theorem iff {check : Eval (List Defect)} {p q : Prop} (h : Decides check p) (hpq : p ↔ q) :
    Decides check q := by
  rwa [← propext hpq]

theorem holds {check : Eval (List Defect)} {p : Prop} {context : Context} {state after : State}
    (h : Decides check p) (ho : check.outcome context state = (.ok [], after)) : p := by
  obtain ⟨ds, rfl, hiff⟩ := h
  exact hiff.1 (Except.ok.inj (Prod.mk.inj ho).1)

theorem append {ds : List Defect} {check : Eval (List Defect)} {p q : Prop} (h : ds = [] ↔ p)
    (hc : Decides check q) : Decides (do return ds ++ (← check)) (p ∧ q) := by
  obtain ⟨es, rfl, he⟩ := hc
  exact ⟨ds ++ es, by simp, by simp [h, he]⟩

end Decides

namespace Value

variable {str : Value → Prop}

theorem isText_of_isTextWhere {test : String → Bool} {v : Value} (h : v.isTextWhere test) :
    v.isText := by
  unfold isTextWhere at h
  split at h
  next s hs => simp [isText, hs]
  next => simp at h

theorem unhashable?_of_text {v : Value} {s : String} (h : v.text? = some s) :
    v.unhashable? = none := by
  cases v <;> simp_all [text?, unhashable?]

theorem countSlots_eq {v : Value} {s : String} (h : v.text? = some s) :
    v.countSlots = pure ((Template.parse s).map Template.slotCount) := by
  simp [countSlots, requireHashable, unhashable?_of_text h, h, Template.placeholderCount_eq_map]

theorem placeholderCount_of_ok {template : Value} {t : String} {pieces : List Template.Piece}
    (ht : template.text? = some t) (hp : Template.parse t = .ok pieces) :
    template.placeholderCount = pure (Template.slotCount pieces) := by
  rw [placeholderCount, countSlots_eq ht, hp]
  rfl

theorem placeholderCount_of_fault {template : Value} {t : String} {fault : Template.Fault}
    (ht : template.text? = some t) (hp : Template.parse t = .error fault) :
    template.placeholderCount = throw (.template fault) := by
  rw [placeholderCount, countSlots_eq ht, hp]
  rfl

theorem HasSlots.format {format : Value} {extra : Nat} (h : format.HasSlots extra) :
    ∃ template args, format = component (.format template args) := by
  unfold HasSlots at h
  split at h
  · exact ⟨_, _, rfl⟩
  · exact h.elim

theorem isCount_int (m : Int) (n : Nat) : (int m).isCount n = pure (decide (m = n)) := rfl

theorem templateDefects_decides {template : Value} {s : String} (hs : template.text? = some s)
    (args : List Value) (extra : Nat) {expected : Int}
    (he : expected = (extra + args.length : Nat)) (place : Place) :
    Decides ((component (.format template args)).templateDefects (int expected) place)
      (HasSlots extra (component (.format template args))) := by
  have slot : (component (.format template args)).slot "template" = pure template :=
    slot_component _ _ rfl
  simp only [templateDefects, slot, pure_bind, countSlots_eq hs]
  cases hp : Template.parse s with
  | error fault =>
    refine .pure ?_
    simp [HasSlots, hs, hp]
  | ok pieces =>
    simp only [isCount_int, pure_bind]
    refine .pure ?_
    by_cases hc : Template.slotCount pieces = extra + args.length
    · simp [HasSlots, hs, hp, hc, he]
    · have hi : expected ≠ Template.slotCount pieces := by omega
      simp [HasSlots, hs, hp, hc, hi]

theorem formatDefects_decides {template : Value} {args : List Value} {s : String}
    (hs : template.text? = some s) :
    Decides (component (.format template args)).formatDefects
      (Component.Valid (.format template args)) := by
  have slot : (component (.format template args)).slot "template" = pure template :=
    slot_component _ _ rfl
  have text : template.isText = true := by simp [isText, hs]
  simp only [formatDefects, slot, slot_format_args, pure_bind, text, countSlots_eq hs,
    forEach_tuple, List.mapM_pure]
  refine .pure ?_
  cases hp : Template.parse s with
  | error fault => simp [Component.Valid, IsTemplate, hs, hp, Except.map]
  | ok pieces => simp [Component.Valid, IsTemplate, hs, hp, Except.map]

theorem mappingDefects_decides (name function : Value) :
    Decides (component (.mapping name function)).mappingDefects
      (Component.Valid (.mapping name function)) := by
  simp only [mappingDefects, slot_mapping_variable, slot_mapping_expression, pure_bind]
  exact .pure (by simp [Component.Valid])

theorem literalDefects_decides {c : Component Value} {key value : Value}
    (hk : c.slots.lookup "key" = some key) (hv : c.slots.lookup "value" = some value) :
    Decides (component c).literalDefects
      (key.isTextWhere Text.isAttributeKey ∧ value.isText) := by
  have keySlot : (component c).slot "key" = pure key := by
    simp [slot_component, hk]
  have valueSlot : (component c).slot "value" = pure value := by
    simp [slot_component, hv]
  simp only [literalDefects, keySlot, valueSlot, pure_bind]
  exact .pure (by simp [keyDefects])

theorem dynamicDefects_decides {key template : Value} {args : List Value} {s : String}
    (hs : template.text? = some s) :
    Decides (component (.dynamic key (component (.format template args)))).dynamicDefects
      (Component.Valid (.dynamic key (component (.format template args)))) := by
  have length : (tuple args).requireLength = pure args.length := rfl
  simp only [dynamicDefects, slot_dynamic_key, slot_dynamic_expr, slot_format_args, length,
    pure_bind]
  refine .append (by simp [keyDefects]) ?_
  exact templateDefects_decides hs args 0 (by simp) (.attributeKey key)

theorem requestDefects_decides {m : Method} {template encode : Value} {args : List Value}
    {s : String} (hs : template.text? = some s) :
    Decides (component (.request m (component (.format template args)) encode)).requestDefects
      (Component.Valid (.request m (component (.format template args)) encode)) := by
  have nameSlot : (method m).slot "name" = pure (text m.name) :=
    slot_eq_pure (by decide) fun _ => rfl
  have length : (tuple args).requireLength = pure args.length := rfl
  have count : (args.length : Int) = (0 + args.length : Nat) := by simp
  obtain ⟨ds, hd, hiff⟩ := templateDefects_decides hs args 0 count (.request (text m.name))
  simp only [requestDefects, slot_request_method, slot_request_path, slot_request_encode, nameSlot,
    slot_format_args, slot_format_template, length, pure_bind, hd]
  cases he : encode.truthy
  · exact .pure (by simp [hiff, Component.Valid, he])
  · cases args with
    | nil => exact .pure (by simp [Component.Valid, he, Value.args])
    | cons arg args => exact .pure (by simp [hiff, Component.Valid, Value.args])

end Value

end RecordMarkup

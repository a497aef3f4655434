import RecordMarkup.Construct
import RecordMarkup.Proofs.Eval

namespace RecordMarkup

namespace Value

def IsA (kind : Kind) (v : Value) : Prop := ∃ c, v = component c ∧ c.kind = kind

def OrNull (property : Value → Prop) (v : Value) : Prop := v = null ∨ property v

def present (v : Value) : List Value := if v.isNull then [] else [v]

theorem isNull_iff {v : Value} : v.isNull = true ↔ v = null := by
  cases v <;> simp [isNull]

theorem component_ne_null (c : Component Value) : component c ≠ null := by
  intro h
  cases h

@[simp] theorem present_null : null.present = [] := rfl

@[simp] theorem present_component (c : Component Value) :
    (component c).present = [component c] := rfl

@[simp] theorem isA_component {k : Kind} {c : Component Value} :
    IsA k (component c) ↔ c.kind = k := by
  simp [IsA]

theorem mem_present {v w : Value} : w ∈ v.present ↔ v ≠ null ∧ w = v := by
  unfold present
  split
  next h => simp [isNull_iff.1 h]
  next h =>
    have hv : v ≠ null := fun hn => h (isNull_iff.2 hn)
    simp [hv]

end Value

namespace Component

open Value (IsA OrNull)

/-- The arguments are of the types that the constructor is declared with, where `str` tells which
values are texts. -/
def Typed (str : Value → Prop) : Component Value → Prop
  | format template args => str template ∧ ∀ arg ∈ args, str arg
  | mapping name function => str name ∧ function.isCallable
  | static key value => str key ∧ str value
  | dynamic key expr => str key ∧ IsA .format expr
  | requestAttr key value => str key ∧ str value
  | request _ path encode => IsA .format path ∧ ∃ b, encode = .bool b
  | element tag attributes content before after =>
    OrNull str tag ∧ (∀ source ∈ attributes, ∃ k, k.isAttribute ∧ IsA k source) ∧
      OrNull (IsA .format) content ∧ str before ∧ str after
  | plain => True
  | optional default function => OrNull str default ∧ OrNull (IsA .mapping) function
  | map function => IsA .mapping function
  | list item => OrNull (IsA .schema) item
  | nest inner isOptional => IsA .schema inner ∧ ∃ b, isOptional = .bool b
  | field name policy wrapper =>
    str name ∧ (∃ k, k.isPolicy ∧ IsA k policy) ∧ OrNull (IsA .element) wrapper
  | schema fields wrapper name type =>
    (∀ f ∈ fields, IsA .field f) ∧ OrNull (IsA .element) wrapper ∧ OrNull str name ∧
      OrNull (fun t => ∃ identity r, t = .recordType identity r) type

def parts : Component Value → List Value
  | dynamic _ expr => [expr]
  | request _ path _ => [path]
  | element _ attributes content _ _ => attributes ++ content.present
  | optional _ function => function.present
  | map function => [function]
  | list item => item.present
  | nest inner _ => [inner]
  | field _ policy wrapper => policy :: wrapper.present
  | schema fields wrapper _ _ => fields ++ wrapper.present
  | _ => []

def construct : Component Value → Eval Value
  | format template args => Build.format template (.tuple args)
  | mapping name function => Build.mapping name function
  | static key value => Build.static key value
  | dynamic key expr => Build.dynamic key expr
  | requestAttr key value => Build.requestAttr key value
  | request m path encode => Build.request (.method m) path encode
  | element tag attributes content before after =>
    Build.element tag (.tuple attributes) content before after
  | plain => Build.plain
  | optional default function => Build.optional default function
  | map function => Build.map function
  | list item => Build.list item
  | nest inner isOptional => Build.nest inner isOptional
  | field name policy wrapper => Build.field name policy wrapper
  | schema fields wrapper name type => Build.schema (.tuple fields) wrapper name type

def announce : Component Value → Eval Unit
  | schema fields wrapper name type => do
    Eval.log (.built (← (Value.component (.schema fields wrapper name type)).displayName)
      fields.length)
  | _ => return ()

end Component

/-- The constructors give the value for arguments of their declared types, and each part of it too. -/
inductive Built (str : Value → Prop) : Value → Prop
  | mk {c : Component Value} {v : Value} {context : Context} {state after : State}
      (typed : c.Typed str) (parts : ∀ part ∈ c.parts, Built str part)
      (made : c.construct.outcome context state = (.ok v, after)) : Built str v

theorem Built.of_construct {str : Value → Prop} {c : Component Value} (context : Context)
    (state : State) (typed : c.Typed str) (parts : ∀ part ∈ c.parts, Built str part)
    (made : (c.construct.outcome context state).1 = .ok (.component c)) :
    Built str (.component c) :=
  .mk typed parts (Prod.ext made rfl)

namespace Value

theorem slotAt_eq_pure {v w : Value} {name : String} (h : ∀ space, v.slot? space name = some w) :
    v.slotAt name = pure w := by
  refine Eval.ext fun context state => ?_
  rw [slotAt, Eval.outcome_bind_ok (Eval.outcome_settings ..), h]

theorem slot_eq_pure {v w : Value} {name : String} (hn : name ≠ "display_name")
    (h : ∀ space, v.slot? space name = some w) : v.slot name = pure w := by
  rw [slot, if_neg hn, slotAt_eq_pure h]

theorem lookup_display_name (c : Component Value) : c.slots.lookup "display_name" = none := by
  cases c <;> rfl

theorem slot_component (c : Component Value) (name : String)
    (h : (c.slots.lookup name).isSome) :
    (component c).slot name = pure ((c.slots.lookup name).getD null) := by
  have hn : name ≠ "display_name" := by
    rintro rfl
    simp [lookup_display_name] at h
  obtain ⟨w, hw⟩ := Option.isSome_iff_exists.1 h
  refine slot_eq_pure hn fun space => ?_
  simp [slot?, hw]

/-! What a component was made of is in its slots. -/

section Slots

variable {template function key value expr path encode tag content before after default item inner
  isOptional name policy wrapper type : Value} {args attributes fields : List Value} {m : Method}

@[simp] theorem slot_format_template :
    (component (.format template args)).slot "template" = pure template :=
  slot_component _ _ rfl

@[simp] theorem slot_format_args :
    (component (.format template args)).slot "args" = pure (tuple args) :=
  slot_component _ _ rfl

@[simp] theorem slot_mapping_variable :
    (component (.mapping name function)).slot "variable" = pure name :=
  slot_component _ _ rfl

@[simp] theorem slot_mapping_expression :
    (component (.mapping name function)).slot "expression" = pure function :=
  slot_component _ _ rfl

@[simp] theorem slot_static_key : (component (.static key value)).slot "key" = pure key :=
  slot_component _ _ rfl

@[simp] theorem slot_static_value : (component (.static key value)).slot "value" = pure value :=
  slot_component _ _ rfl

@[simp] theorem slot_dynamic_key : (component (.dynamic key expr)).slot "key" = pure key :=
  slot_component _ _ rfl

@[simp] theorem slot_dynamic_expr : (component (.dynamic key expr)).slot "expr" = pure expr :=
  slot_component _ _ rfl

@[simp] theorem slot_requestAttr_key : (component (.requestAttr key value)).slot "key" = pure key :=
  slot_component _ _ rfl

@[simp] theorem slot_requestAttr_value :
    (component (.requestAttr key value)).slot "value" = pure value :=
  slot_component _ _ rfl

@[simp] theorem slot_request_method :
    (component (.request m path encode)).slot "method" = pure (method m) :=
  slot_component _ _ rfl

@[simp] theorem slot_request_path : (component (.request m path encode)).slot "path" = pure path :=
  slot_component _ _ rfl

@[simp] theorem slot_request_encode :
    (component (.request m path encode)).slot "encode" = pure encode :=
  slot_component _ _ rfl

@[simp] theorem slot_element_tag :
    (component (.element tag attributes content before after)).slot "tag" = pure tag :=
  slot_component _ _ rfl

@[simp] theorem slot_element_attributes :
    (component (.element tag attributes content before after)).slot "attributes" =
      pure (tuple attributes) :=
  slot_component _ _ rfl

@[simp] theorem slot_element_content :
    (component (.element tag attributes content before after)).slot "content" = pure content :=
  slot_component _ _ rfl

@[simp] theorem slot_element_before :
    (component (.element tag attributes content before after)).slot "before" = pure before :=
  slot_component _ _ rfl

@[simp] theorem slot_element_after :
    (component (.element tag attributes content before after)).slot "after" = pure after :=
  slot_component _ _ rfl

@[simp] theorem slot_optional_default :
    (component (.optional default function)).slot "default" = pure default :=
  slot_component _ _ rfl

@[simp] theorem slot_optional_map :
    (component (.optional default function)).slot "map" = pure function :=
  slot_component _ _ rfl

@[simp] theorem slot_map_map : (component (.map function)).slot "map" = pure function :=
  slot_component _ _ rfl

@[simp] theorem slot_list_item : (component (.list item)).slot "item_schema" = pure item :=
  slot_component _ _ rfl

@[simp] theorem slot_nest_schema :
    (component (.nest inner isOptional)).slot "schema" = pure inner :=
  slot_component _ _ rfl

@[simp] theorem slot_nest_optional :
    (component (.nest inner isOptional)).slot "optional" = pure isOptional :=
  slot_component _ _ rfl

@[simp] theorem slot_field_name :
    (component (.field name policy wrapper)).slot "name" = pure name :=
  slot_component _ _ rfl

@[simp] theorem slot_field_policy :
    (component (.field name policy wrapper)).slot "policy" = pure policy :=
  slot_component _ _ rfl

@[simp] theorem slot_field_element :
    (component (.field name policy wrapper)).slot "element" = pure wrapper :=
  slot_component _ _ rfl

@[simp] theorem slot_schema_fields :
    (component (.schema fields wrapper name type)).slot "fields" = pure (tuple fields) :=
  slot_component _ _ rfl

@[simp] theorem slot_schema_element :
    (component (.schema fields wrapper name type)).slot "element" = pure wrapper :=
  slot_component _ _ rfl

@[simp] theorem slot_schema_type :
    (component (.schema fields wrapper name type)).slot "record_type" = pure type :=
  slot_component _ _ rfl

end Slots

theorem tag_kind_component (c : Component Value) : (component c).tag.kind? = some c.kind := by
  simp only [tag, tag?, Option.getD_some, kind?, text?, Option.bind_some, Kind.ofTag?_tag]

theorem kind_component (c : Component Value) : (component c).kind = pure (some c.kind) := by
  have hashable : (component c).tag.requireHashable = pure () := by
    simp [tag, tag?, requireHashable, unhashable?]
  rw [kind, hashable, pure_bind, tag_kind_component]

theorem defects_component (c : Component Value) : (component c).defects =
    match c with
    | .format .. => (component c).formatDefects
    | .mapping .. => (component c).mappingDefects
    | .static .. | .requestAttr .. => (component c).literalDefects
    | .dynamic .. => (component c).dynamicDefects
    | .request .. => (component c).requestDefects
    | .element .. => (component c).elementDefects
    | .plain => pure []
    | .optional .. => (component c).optionalDefects
    | .map .. => (component c).mapDefects
    | .list .. => (component c).listDefects
    | .nest .. => (component c).nestDefects
    | .field .. => (component c).fieldDefects
    | .schema .. => (component c).schemaDefects := by
  cases c <;> simp only [defects, kind_component, pure_bind, Component.kind]

theorem tag_injective {k l : Kind} (h : k.tag = l.tag) : k = l := by
  simpa [Kind.ofTag?_tag] using congrArg Kind.ofTag? h

theorem hasKind_iff {k : Kind} {v : Value} : v.hasKind k ↔ v.tag.text? = some k.tag := by
  rw [hasKind, isKind, beq_iff_eq]

theorem hasKind_unique {k l : Kind} {v : Value} (h : v.hasKind k) (h' : v.hasKind l) : k = l := by
  rw [hasKind_iff] at h h'
  exact tag_injective (Option.some.inj (h.symm.trans h'))

theorem kind?_of_hasKind {k : Kind} {v : Value} (h : v.hasKind k) : v.tag.kind? = some k := by
  rw [kind?, hasKind_iff.1 h, Option.bind_some, Kind.ofTag?_tag]

theorem hasKind_of_kind? {k : Kind} {v : Value} (h : v.tag.kind? = some k) : v.hasKind k := by
  obtain ⟨t, ht, hk⟩ := Option.bind_eq_some_iff.1 h
  rw [Kind.ofTag?] at hk
  have named := List.find?_some hk
  rw [hasKind_iff, ht, beq_iff_eq.1 named]

theorem tagged_of_hasKind {k : Kind} {v : Value} (h : v.hasKind k) : v.tag?.isSome := by
  rw [hasKind_iff, tag] at h
  cases ht : v.tag? with
  | none => simp [ht, text?] at h
  | some t => rfl

theorem hasKind_component (c : Component Value) (k : Kind) :
    (component c).hasKind k = decide (c.kind = k) := by
  by_cases h : c.kind = k
  · simp [hasKind, tag, tag?, isKind, text?, h]
  · have ht : c.kind.tag ≠ k.tag := fun ht => h (tag_injective ht)
    simp [hasKind, tag, tag?, isKind, text?, h, ht]

theorem IsA.hasKind {k : Kind} {v : Value} (h : IsA k v) : v.hasKind k = true := by
  obtain ⟨c, rfl, hc⟩ := h
  simp [hasKind_component, hc]

theorem IsA.ne_null {k : Kind} {v : Value} (h : IsA k v) : v ≠ null := by
  obtain ⟨c, rfl, -⟩ := h
  exact component_ne_null c

theorem forEach_tuple {α : Type} (items : List Value) (action : Value → Eval α) :
    (tuple items).forEach action = items.mapM action := rfl

theorem elements_tuple (items : List Value) : (tuple items).elements = pure items := by
  simp [elements, forEach_tuple, Eval.mapM_eq_pure fun _ _ => rfl]

theorem component_of_present {v : Value} (h : ∀ part ∈ v.present, ∃ c, part = component c) :
    v = null ∨ ∃ c, v = component c := by
  by_cases hn : v = null
  · exact .inl hn
  · exact .inr (h v (mem_present.2 ⟨hn, rfl⟩))

theorem asFormat_of_present {v : Value} (h : ∀ part ∈ v.present, ∃ c, part = component c) :
    Build.asFormat v = pure v := by
  obtain rfl | ⟨c, rfl⟩ := component_of_present h
  · rfl
  · rfl

end Value

namespace Component

variable {str : Value → Prop} {c : Component Value} {v : Value}

theorem accept_ok {context : Context} {state after : State}
    (h : c.accept.outcome context state = (.ok v, after)) :
    v = .component c ∧
      ∃ mid, (Value.component c).defects.outcome context state = (.ok [], mid) := by
  obtain ⟨defects, mid, hd, h⟩ := Eval.of_bind_ok h
  by_cases he : defects.isEmpty
  · obtain rfl := List.isEmpty_iff.1 he
    simp only [List.isEmpty_nil, if_true, Eval.outcome_pure, Prod.mk.injEq, Except.ok.injEq] at h
    exact ⟨h.1.symm, mid, hd⟩
  · simp only [he] at h
    rw [if_neg (by simp), Eval.outcome_bind_ok (Eval.outcome_log ..)] at h
    simp at h

theorem Typed.parts_component (h : c.Typed str) : ∀ part ∈ c.parts, ∃ d, part = .component d := by
  have held {k : Kind} {v : Value} (h : Value.IsA k v) : ∃ d, v = .component d := h.imp fun _ => And.left
  have absent {k : Kind} {v : Value} (h : Value.OrNull (Value.IsA k) v) :
      ∀ part ∈ v.present, ∃ d, part = .component d := by
    intro part hp
    obtain ⟨hn, rfl⟩ := Value.mem_present.1 hp
    exact held (h.resolve_left hn)
  cases c with
  | dynamic key expr => exact List.forall_mem_singleton.2 (held h.2)
  | request m path encode => exact List.forall_mem_singleton.2 (held h.1)
  | element tag attributes content before after =>
    refine List.forall_mem_append.2 ⟨fun source hs => ?_, absent h.2.2.1⟩
    obtain ⟨k, -, hk⟩ := h.2.1 source hs
    exact held hk
  | optional default function => exact absent h.2
  | map function => exact List.forall_mem_singleton.2 (held h)
  | list item => exact absent h
  | nest inner isOptional => exact List.forall_mem_singleton.2 (held h.1)
  | field name policy wrapper =>
    obtain ⟨k, -, hk⟩ := h.2.1
    exact List.forall_mem_cons.2 ⟨held hk, absent h.2.2⟩
  | schema fields wrapper name type =>
    exact List.forall_mem_append.2 ⟨fun f hf => held (h.1 f hf), absent h.2.1⟩
  | format | mapping | static | requestAttr | plain => simp [parts]

theorem construct_eq (h : ∀ part ∈ c.parts, ∃ d, part = .component d) :
    c.construct = do
      let v ← c.accept
      c.announce
      return v := by
  cases c with
  | format template args =>
    have arguments : Build.arguments (.tuple args) = pure args := Value.elements_tuple args
    simp [construct, Build.format, announce, arguments]
  | dynamic key expr =>
    obtain ⟨d, rfl⟩ := h expr (.head _)
    have format : Build.asFormat (.component d) = pure (.component d) := rfl
    simp [construct, Build.dynamic, announce, format]
  | request m path encode =>
    obtain ⟨d, rfl⟩ := h path (.head _)
    have format : Build.asFormat (.component d) = pure (.component d) := rfl
    simp [construct, Build.request, Build.method, announce, format]
  | element tag attributes content before after =>
    have format := Value.asFormat_of_present fun part hp => h part (List.mem_append_right _ hp)
    simp [construct, Build.element, announce, Value.elements_tuple, format]
  | schema fields wrapper name type =>
    simp only [construct, Build.schema, Value.elements_tuple, pure_bind, announce, bind_assoc]
    refine Eval.bind_congr fun _ _ v _ hv => ?_
    rw [(accept_ok hv).1]
  | mapping | static | requestAttr | plain | optional | map | list | nest | field =>
    simp [construct, announce, Build.mapping, Build.static, Build.requestAttr, Build.plain,
      Build.optional, Build.map, Build.list, Build.nest, Build.field]

theorem construct_ok {context : Context} {state after : State}
    (h : ∀ part ∈ c.parts, ∃ d, part = .component d)
    (ho : c.construct.outcome context state = (.ok v, after)) :
    v = .component c ∧ (∃ mid, (Value.component c).defects.outcome context state = (.ok [], mid)) ∧
      c.announce.MayGive context () := by
  rw [construct_eq h] at ho
  obtain ⟨w, mid, hw, ho⟩ := Eval.of_bind_ok ho
  obtain ⟨rfl, hd⟩ := accept_ok hw
  obtain ⟨⟨⟩, last, ha, ho⟩ := Eval.of_bind_ok ho
  obtain ⟨ho, -⟩ := Prod.mk.inj ho
  exact ⟨(Except.ok.inj ho).symm, hd, mid, last, ha⟩

theorem displayName_eq {fields : List Value} {wrapper name type : Value}
    (h : (schema fields wrapper name type).Typed str) :
    ∃ w, (Value.component (.schema fields wrapper name type)).displayName = pure w := by
  obtain ⟨-, -, -, ht⟩ := h
  by_cases hn : name.truthy
  · exact ⟨name, by rw [Value.displayName, if_pos hn]⟩
  · obtain rfl | ⟨identity, r, rfl⟩ := ht
    · exact ⟨.text "<anonymous>", by rw [Value.displayName, if_neg hn]; rfl⟩
    · have hs : (Value.recordType identity r).slotAt "__name__" = pure (.text r.name) :=
        Value.slotAt_eq_pure fun _ => rfl
      exact ⟨.text r.name, by rw [Value.displayName, if_neg hn, ← hs]; rfl⟩

theorem announce_gives (h : c.Typed str) : c.announce.Gives () := by
  cases c with
  | schema fields wrapper name type =>
    obtain ⟨w, hw⟩ := displayName_eq h
    rw [announce, hw, pure_bind]
    exact ⟨[.built w fields.length], by simp [Logging.Event.origin], fun _ _ => rfl⟩
  | _ => exact .pure ()

end Component

theorem Built.shape {str : Value → Prop} {v : Value} (h : Built str v) :
    ∃ c, v = .component c ∧ c.Typed str ∧ (∀ part ∈ c.parts, Built str part) ∧
      ∃ context state mid, (Value.component c).defects.outcome context state = (.ok [], mid) := by
  obtain ⟨typed, parts, made⟩ := h
  obtain ⟨rfl, ⟨mid, hd⟩, -⟩ := Component.construct_ok typed.parts_component made
  exact ⟨_, rfl, typed, parts, _, _, mid, hd⟩

theorem Built.typed {str : Value → Prop} {c : Component Value} (h : Built str (.component c)) :
    c.Typed str := by
  obtain ⟨_, he, typed, -⟩ := h.shape
  exact Value.component.inj he ▸ typed

theorem Built.parts {str : Value → Prop} {c : Component Value} (h : Built str (.component c)) :
    ∀ part ∈ c.parts, Built str part := by
  obtain ⟨_, he, -, parts, -⟩ := h.shape
  exact Value.component.inj he ▸ parts

end RecordMarkup

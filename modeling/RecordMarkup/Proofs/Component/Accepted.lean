import RecordMarkup.Proofs.Component.Checks

namespace RecordMarkup

open Value (IsA OrNull component)

/-- A constructor gives the value for some arguments, and the components in these are accepted too. -/
inductive Accepted : Value → Prop
  | mk {c : Component Value} {v : Value} {context : Context} {state after : State}
      (parts : ∀ part ∈ c.parts, Accepted part)
      (made : c.construct.outcome context state = (.ok v, after)) : Accepted v

theorem Built.accepted {str : Value → Prop} {v : Value} (h : Built str v) : Accepted v := by
  induction h with
  | mk typed parts made ih => exact .mk ih made

theorem Accepted.shape {v : Value} (h : Accepted v) :
    ∃ c, v = .component c ∧ (∀ part ∈ c.parts, Accepted part) ∧
      ∃ context, (∃ state mid, (Value.component c).defects.outcome context state = (.ok [], mid)) ∧
        c.announce.MayGive context () := by
  induction h with
  | @mk c v context state after parts made ih =>
    have components : ∀ part ∈ c.parts, ∃ d, part = .component d := fun part hp =>
      (ih part hp).imp fun _ => And.left
    obtain ⟨rfl, ⟨mid, hd⟩, announced⟩ := Component.construct_ok components made
    exact ⟨c, rfl, parts, context, ⟨state, mid, hd⟩, announced⟩

theorem Accepted.parts {c : Component Value} (h : Accepted (.component c)) :
    ∀ part ∈ c.parts, Accepted part := by
  obtain ⟨_, he, parts, -⟩ := h.shape
  exact Value.component.inj he ▸ parts

theorem Accepted.checked {c : Component Value} (h : Accepted (.component c)) :
    ∃ context state mid, (Value.component c).defects.outcome context state = (.ok [], mid) := by
  obtain ⟨_, he, -, context, ⟨state, mid, hd⟩, -⟩ := h.shape
  obtain rfl := Value.component.inj he
  exact ⟨context, state, mid, hd⟩

theorem Accepted.component_of_present {v : Value} (h : ∀ part ∈ v.present, Accepted part) :
    v = .null ∨ ∃ c, v = component c ∧ Accepted (component c) := by
  obtain rfl | ⟨c, rfl⟩ := Value.component_of_present fun part hp =>
    (h part hp).shape.imp fun _ => And.left
  · exact .inl rfl
  · exact .inr ⟨c, rfl, h _ (by simp)⟩

namespace Component

/-- The kinds of the components that a component holds. A mapping that may be absent is not checked,
and the content of an element not before the element is put into a field. -/
def Holds : Component Value → Prop
  | element _ attributes _ _ _ => ∀ source ∈ attributes, ∃ k : Kind, k.isAttribute ∧ IsA k source
  | map function => IsA .mapping function
  | list item => OrNull (IsA .schema) item
  | nest inner _ => IsA .schema inner
  | field _ policy wrapper =>
    (∃ k : Kind, k.isPolicy ∧ IsA k policy) ∧ OrNull (IsA .element) wrapper
  | schema fields wrapper _ _ => (∀ f ∈ fields, IsA .field f) ∧ OrNull (IsA .element) wrapper
  | _ => True

end Component

namespace Value

variable {context : Context} {state after : State}

theorem kind_of_args {c : Component Value} {w : Value}
    (h : ((component c).slot "args").outcome context state = (.ok w, after)) : c.kind = .format := by
  rw [slot, if_neg (by decide), slotAt, Eval.outcome_bind_ok (Eval.outcome_settings ..)] at h
  cases c <;> first | rfl | simp [slot?, Component.slots, derivedSlot?, List.lookup_cons] at h

theorem isA_of_hasKind {c : Component Value} {k : Kind} (h : (component c).hasKind k) :
    IsA k (component c) := by
  simpa [hasKind_component] using h

theorem format_holds {template : Value} {args : List Value}
    (h : (component (.format template args)).formatDefects.outcome context state =
      (.ok [], after)) : template.isText := by
  have slot : (component (.format template args)).slot "template" = pure template :=
    slot_component _ _ rfl
  refine Classical.byContradiction fun ht => ?_
  rw [formatDefects, slot, pure_bind, if_pos (by simpa using ht)] at h
  cases h

theorem dynamic_holds {key : Value} {c : Component Value}
    (h : (component (.dynamic key (component c))).dynamicDefects.outcome context state =
      (.ok [], after)) : c.kind = .format := by
  simp only [dynamicDefects, slot_dynamic_key, slot_dynamic_expr, pure_bind] at h
  obtain ⟨_, _, hargs, -⟩ := Eval.of_bind_ok h
  exact kind_of_args hargs

theorem dynamic_key {key expr : Value}
    (h : (component (.dynamic key expr)).dynamicDefects.outcome context state = (.ok [], after)) :
    key.isTextWhere Text.isAttributeKey := by
  simp only [dynamicDefects, slot_dynamic_key, slot_dynamic_expr, pure_bind] at h
  obtain ⟨args, mid, -, h⟩ := Eval.of_bind_ok h
  obtain ⟨count, mid, -, h⟩ := Eval.of_bind_ok h
  obtain ⟨defects, mid, -, h⟩ := Eval.of_bind_ok h
  have none := (List.append_eq_nil_iff.1 (Except.ok.inj (Prod.mk.inj h).1)).1
  simpa [keyDefects] using none

theorem request_holds {m : Method} {c : Component Value} {encode : Value}
    (h : (component (.request m (component c) encode)).requestDefects.outcome context state =
      (.ok [], after)) : c.kind = .format := by
  simp only [requestDefects, slot_request_path, pure_bind] at h
  obtain ⟨_, _, hargs, -⟩ := Eval.of_bind_ok h
  exact kind_of_args hargs

def IsAttribute (v : Value) : Prop := ∃ k : Kind, k.isAttribute ∧ v.hasKind k

theorem isAttribute_of_known {sources : List Value} {reports : List (List Defect)}
    (h : (sources.mapM fun source => do
      return if ((← source.kind).map Kind.isAttribute).getD false then []
        else [Defect.unknownAttribute source] : Eval (List (List Defect))).outcome context state =
      (.ok reports, after)) (hr : reports.flatten = []) : ∀ s ∈ sources, s.IsAttribute := by
  induction sources generalizing reports state after with
  | nil => simp
  | cons source sources ih =>
    rw [List.mapM_cons] at h
    obtain ⟨first, mid, hfirst, h⟩ := Eval.of_bind_ok h
    obtain ⟨rest, last, hrest, h⟩ := Eval.of_bind_ok h
    obtain rfl : first :: rest = reports := Except.ok.inj (Prod.mk.inj h).1
    obtain ⟨hf, hr⟩ := List.append_eq_nil_iff.1 hr
    refine List.forall_mem_cons.2 ⟨?_, ih hrest hr⟩
    obtain ⟨kind?, mid, hk, hfirst⟩ := Eval.of_bind_ok hfirst
    obtain ⟨_, _, -, hk⟩ := Eval.of_bind_ok hk
    obtain rfl : source.tag.kind? = kind? := Except.ok.inj (Prod.mk.inj hk).1
    obtain rfl : _ = first := Except.ok.inj (Prod.mk.inj hfirst).1
    cases he : source.tag.kind? with
    | none => simp [he] at hf
    | some k => exact ⟨k, by simpa [he] using hf, hasKind_of_kind? he⟩

theorem element_sources {tag content before last : Value} {sources : List Value}
    (h : (component (.element tag sources content before last)).elementDefects.outcome context state =
      (.ok [], after)) :
    (∀ s ∈ sources, s.IsAttribute) ∧ (sources.filter (hasKind .request)).length ≤ 1 ∧
      (tag = null → sources = []) := by
  simp only [elementDefects, slot_element_tag, slot_element_attributes, pure_bind, forEach_tuple,
    elements_tuple] at h
  obtain ⟨reports, mid, hr, h⟩ := Eval.of_bind_ok h
  obtain ⟨several, mid, hs, h⟩ := Eval.of_bind_ok h
  obtain ⟨surround, mid, -, h⟩ := Eval.of_bind_ok h
  simp only [Eval.outcome_pure, Prod.mk.injEq, Except.ok.injEq, List.append_eq_nil_iff] at h
  obtain ⟨⟨⟨⟨⟨-, known⟩, one⟩, bare⟩, -⟩, -⟩ := h
  refine ⟨isAttribute_of_known hr known, Classical.byContradiction fun hn => ?_, fun ht => ?_⟩
  · rw [severalRequestsDefects, if_neg hn] at hs
    obtain ⟨names, mid, -, hs⟩ := Eval.of_bind_ok hs
    obtain ⟨joined, mid, -, hs⟩ := Eval.of_bind_ok hs
    exact List.cons_ne_nil _ _ ((Except.ok.inj (Prod.mk.inj hs).1).trans one)
  · subst ht
    cases sources with
    | nil => rfl
    | cons s sources => simp [isNull, truthy] at bare

theorem element_holds {tag content before last : Value} {attributes : List Value}
    (hc : ∀ source ∈ attributes, ∃ c, source = component c)
    (h : (component (.element tag attributes content before last)).elementDefects.outcome context
      state = (.ok [], after)) :
    ∀ source ∈ attributes, ∃ k : Kind, k.isAttribute ∧ IsA k source := by
  intro source hs
  obtain ⟨c, rfl⟩ := hc source hs
  obtain ⟨k, hk, hkind⟩ := (element_sources h).1 _ hs
  exact ⟨k, hk, isA_of_hasKind hkind⟩

theorem optional_holds {default function : Value}
    (h : (component (.optional default function)).optionalDefects.outcome context state =
      (.ok [], after)) : OrNull (·.isText) default := by
  by_cases hn : default = null
  · exact .inl hn
  · rw [← isNull_iff] at hn
    simp only [optionalDefects, slot_optional_default, slot_optional_map, pure_bind, if_neg hn,
      Eval.outcome_pure, Prod.mk.injEq, Except.ok.injEq, List.append_eq_nil_iff] at h
    exact .inr (by simpa using h.1.2)

theorem map_holds {c : Component Value}
    (h : (component (.map (component c))).mapDefects.outcome context state = (.ok [], after)) :
    IsA .mapping (component c) := by
  simp only [mapDefects, slot_map_map, pure_bind, Eval.outcome_pure, Prod.mk.injEq,
    Except.ok.injEq] at h
  exact isA_of_hasKind (by simpa using h.1)

theorem list_holds {item : Value} (hc : item = null ∨ ∃ c, item = component c)
    (h : (component (.list item)).listDefects.outcome context state = (.ok [], after)) :
    OrNull (IsA .schema) item := by
  obtain rfl | ⟨c, rfl⟩ := hc
  · exact .inl rfl
  · simp only [listDefects, slot_list_item, pure_bind, Eval.outcome_pure, Prod.mk.injEq,
      Except.ok.injEq] at h
    exact .inr (isA_of_hasKind (by simpa [isNull] using h.1))

theorem nest_holds {c : Component Value} {isOptional : Value}
    (h : (component (.nest (component c) isOptional)).nestDefects.outcome context state =
      (.ok [], after)) : IsA .schema (component c) := by
  simp only [nestDefects, slot_nest_schema, pure_bind, Eval.outcome_pure, Prod.mk.injEq,
    Except.ok.injEq] at h
  exact isA_of_hasKind (by simpa using h.1)

theorem field_holds {name wrapper : Value} {c : Component Value}
    (hw : wrapper = null ∨ ∃ c, wrapper = component c)
    (h : (component (.field name (component c) wrapper)).fieldDefects.outcome context state =
      (.ok [], after)) :
    c.kind.isPolicy ∧ OrNull (IsA .element) wrapper ∧ ∃ errors,
      (fieldElementDefects name (component c) wrapper c.kind errors).outcome context state =
        (.ok [], after) := by
  simp only [fieldDefects, slot_field_name, slot_field_policy, slot_field_element, kind_component,
    pure_bind] at h
  by_cases hk : c.kind.isPolicy
  · simp only [Option.filter_some, hk, if_true] at h
    by_cases hn : !wrapper.isNull && !wrapper.hasKind .element
    · simp [hn] at h
    · rw [if_neg hn] at h
      refine ⟨hk, ?_, _, h⟩
      obtain rfl | ⟨e, rfl⟩ := hw
      · exact .inl rfl
      · exact .inr (isA_of_hasKind (by simpa [isNull] using hn))
  · simp [Option.filter_some, hk] at h

theorem fieldElement_holds {name wrapper : Value} {c d : Component Value} {errors : List Defect}
    (hk : c.kind.isPolicy) (hw : OrNull (IsA .element) wrapper) (hd : wrapper.content = component d)
    (h : (fieldElementDefects name (component c) wrapper c.kind errors).outcome context state =
      (.ok [], after)) : d.kind = .format := by
  obtain ⟨es, he, -⟩ := itemTagDefects_decides name c hw
  obtain rfl | hw := hw
  · exact absurd hd.symm (component_ne_null d)
  · have hn : wrapper.isNull = false := by
      obtain ⟨e, rfl, -⟩ := hw
      rfl
    simp only [fieldElementDefects, goesThroughSchema_eq hk, pure_bind, he, hn, content_slot hw,
      hd] at h
    have present : (component d).isNull = false := rfl
    rw [if_neg (by simp), present, if_neg (by simp)] at h
    by_cases hne : (if (component c).inner?.isSome then errors ++ es ++ [.nestedContent name]
        else errors ++ es) = []
    · rw [hne, if_neg (by simp)] at h
      obtain ⟨_, _, hargs, -⟩ := Eval.of_bind_ok h
      exact kind_of_args hargs
    · rw [if_pos (by simpa using hne)] at h
      exact absurd (Except.ok.inj (Prod.mk.inj h).1) hne

theorem isA_of_nameDefects {fields : List Value} {names : List (Defect ⊕ Value)}
    {seen : List Value} (hc : ∀ f ∈ fields, ∃ c, f = component c)
    (h : (fields.mapM fieldName).outcome context state = (.ok names, after))
    (hn : nameDefects seen names = []) : ∀ f ∈ fields, IsA .field f := by
  induction fields generalizing names seen state after with
  | nil => simp
  | cons f fields ih =>
    obtain ⟨⟨c, rfl⟩, hcs⟩ := List.forall_mem_cons.1 hc
    rw [List.mapM_cons] at h
    obtain ⟨first, mid, hfirst, h⟩ := Eval.of_bind_ok h
    obtain ⟨rest, last, hrest, h⟩ := Eval.of_bind_ok h
    obtain rfl : first :: rest = names := Except.ok.inj (Prod.mk.inj h).1
    cases first with
    | inl d => simp [nameDefects] at hn
    | inr name =>
      have hk : (component c).hasKind .field := by
        refine Classical.byContradiction fun hk => ?_
        rw [fieldName, if_pos (by simpa using hk)] at hfirst
        cases hfirst
      rw [nameDefects] at hn
      split at hn
      next => simp at hn
      next => exact List.forall_mem_cons.2 ⟨isA_of_hasKind hk, ih hcs hrest hn⟩

theorem schema_holds {fields : List Value} {wrapper name type : Value}
    (hf : ∀ f ∈ fields, ∃ c, f = component c) (hw : wrapper = null ∨ ∃ c, wrapper = component c)
    (h : (component (.schema fields wrapper name type)).schemaDefects.outcome context state =
      (.ok [], after)) :
    (∀ f ∈ fields, IsA .field f) ∧ OrNull (IsA .element) wrapper := by
  simp only [schemaDefects, slot_schema_element, slot_schema_fields, slot_schema_type, pure_bind,
    forEach_tuple] at h
  obtain ⟨ds, _, hds, h⟩ := Eval.of_bind_ok h
  obtain ⟨names, _, hnames, h⟩ := Eval.of_bind_ok h
  have clear : ds ++ nameDefects [] names = [] := by
    refine Classical.byContradiction fun hne => ?_
    rw [if_pos (by simp [hne])] at h
    exact hne (Except.ok.inj (Prod.mk.inj h).1)
  obtain ⟨rfl, unnamed⟩ := List.append_eq_nil_iff.1 clear
  refine ⟨isA_of_nameDefects hf hnames unnamed, ?_⟩
  obtain rfl | ⟨c, rfl⟩ := hw
  · exact .inl rfl
  · refine .inr (isA_of_hasKind (Classical.byContradiction fun hk => ?_))
    simp [recordElementDefects, isNull, hk] at hds

end Value

open Value

theorem Accepted.isFormat {c : Component Value} (h : Accepted (component c))
    (hk : c.kind = .format) : (component c).IsFormat := by
  obtain ⟨_, _, _, hd⟩ := h.checked
  cases c <;> cases hk
  next template args =>
    simp only [defects_component] at hd
    obtain ⟨s, hs⟩ := Option.isSome_iff_exists.1 (format_holds hd)
    exact ⟨template, args, s, rfl, hs⟩

theorem Accepted.content_isFormat {wrapper name : Value} {c : Component Value}
    {errors : List Defect} {context : Context} {state after : State}
    (h : ∀ part ∈ wrapper.present, Accepted part) (hk : c.kind.isPolicy)
    (hw : OrNull (IsA .element) wrapper)
    (hd : (fieldElementDefects name (component c) wrapper c.kind errors).outcome context state =
      (.ok [], after)) : OrNull IsFormat wrapper.content := by
  obtain rfl | ⟨e, rfl, he⟩ := id hw
  · exact .inl rfl
  · have parts := (h (component e) (by simp)).parts
    cases e <;> cases he
    next tag attributes content before last =>
      obtain rfl | ⟨d, rfl, accepted⟩ := component_of_present fun part hp =>
        parts part (List.mem_append_right _ hp)
      · exact .inl rfl
      · exact .inr (accepted.isFormat (fieldElement_holds hk hw rfl hd))

theorem Accepted.field_inv {name policy wrapper : Value}
    (h : Accepted (component (.field name policy wrapper))) :
    (Component.field name policy wrapper).Holds ∧ (Component.field name policy wrapper).Valid := by
  obtain ⟨context, state, mid, hd⟩ := h.checked
  simp only [defects_component] at hd
  obtain ⟨hp, hparts⟩ := List.forall_mem_cons.1 h.parts
  obtain ⟨c, rfl, -⟩ := hp.shape
  have hw : wrapper = null ∨ ∃ e, wrapper = component e :=
    (component_of_present hparts).imp id fun he => he.imp fun _ => And.left
  obtain ⟨hk, hw, errors, he⟩ := field_holds hw hd
  have held : (Component.field name (component c) wrapper).Holds := ⟨⟨_, hk, _, rfl, rfl⟩, hw⟩
  exact ⟨held, (fieldDefects_decides held.1 hw (content_isFormat hparts hk hw he)).holds hd⟩

theorem Accepted.field_of_isA {f : Value} (h : Accepted f) (hk : IsA .field f) :
    IsA .field f ∧ f.nameText?.isSome := by
  obtain ⟨c, rfl, hc⟩ := hk
  cases c <;> cases hc
  next name policy wrapper => exact ⟨⟨_, rfl, rfl⟩, isText_of_isTextWhere h.field_inv.2.1⟩

theorem Accepted.inv {v : Value} (h : Accepted v) :
    ∃ c, v = component c ∧ c.Holds ∧ c.Valid ∧ ∀ part ∈ c.parts, Accepted part := by
  obtain ⟨c, rfl, parts, -⟩ := h.shape
  suffices hc : c.Holds ∧ c.Valid from ⟨c, rfl, hc.1, hc.2, parts⟩
  obtain ⟨context, state, mid, hd⟩ := h.checked
  simp only [defects_component] at hd
  cases c with
  | format template args =>
    obtain ⟨_, _, s, he, hs⟩ := h.isFormat rfl
    obtain ⟨rfl, rfl⟩ : template = _ ∧ args = _ := by simpa using he
    exact ⟨trivial, (formatDefects_decides hs).holds hd⟩
  | mapping name function => exact ⟨trivial, (mappingDefects_decides name function).holds hd⟩
  | static key value | requestAttr key value =>
    exact ⟨trivial, (literalDefects_decides rfl rfl).holds hd⟩
  | dynamic key expr =>
    have accepted := parts expr (.head _)
    obtain ⟨d, rfl, -⟩ := accepted.shape
    obtain ⟨t, as, s, he, hs⟩ := accepted.isFormat (dynamic_holds hd)
    obtain rfl := component.inj he
    exact ⟨trivial, (dynamicDefects_decides hs).holds hd⟩
  | request m path encode =>
    have accepted := parts path (.head _)
    obtain ⟨d, rfl, -⟩ := accepted.shape
    obtain ⟨t, as, s, he, hs⟩ := accepted.isFormat (request_holds hd)
    obtain rfl := component.inj he
    exact ⟨trivial, (requestDefects_decides hs).holds hd⟩
  | element tag attributes content before last =>
    have held := element_holds (fun source hs =>
      (parts source (List.mem_append_left _ hs)).shape.imp fun _ => And.left) hd
    exact ⟨held, (elementDefects_decides held).holds hd⟩
  | plain => exact ⟨trivial, trivial⟩
  | optional default function =>
    exact ⟨trivial, (optionalDefects_decides (optional_holds hd)).holds hd⟩
  | map function =>
    obtain ⟨d, rfl, -⟩ := (parts function (.head _)).shape
    exact ⟨map_holds hd, trivial⟩
  | list item =>
    have held := list_holds ((component_of_present parts).imp id fun he =>
      he.imp fun _ => And.left) hd
    exact ⟨held, trivial⟩
  | nest inner isOptional =>
    obtain ⟨d, rfl, -⟩ := (parts inner (.head _)).shape
    exact ⟨nest_holds hd, trivial⟩
  | field name policy wrapper => exact h.field_inv
  | schema fields wrapper name type =>
    have hf : ∀ f ∈ fields, Accepted f := fun f hm => parts f (List.mem_append_left _ hm)
    have hw := component_of_present fun part hp => parts part (List.mem_append_right _ hp)
    have held := schema_holds (fun f hm => (hf f hm).shape.imp fun _ => And.left)
      (hw.imp id fun he => he.imp fun _ => And.left) hd
    obtain ⟨errors, hiff, he⟩ := schemaDefects_eq name type
      (fun f hm => (hf f hm).field_of_isA (held.1 f hm)) held.2
    rw [he] at hd
    refine ⟨held, hiff.1 (Classical.byContradiction fun hne => ?_)⟩
    rw [if_pos (by simp [hne])] at hd
    exact hne (Except.ok.inj (Prod.mk.inj hd).1)

theorem Value.slotAt_name {v w : Value} {context : Context}
    (h : (v.slotAt "__name__").MayGive context w) : v.slotAt "__name__" = pure w := by
  have settled (space other : String) : v.slot? space "__name__" = v.slot? other "__name__" := by
    cases v with
    | method m => rfl
    | _ => rfl
  obtain ⟨before, after, h⟩ := h
  rw [slotAt, Eval.outcome_bind_ok (Eval.outcome_settings ..)] at h
  split at h
  next u hu =>
    obtain rfl := Except.ok.inj (Prod.mk.inj h).1
    exact slotAt_eq_pure fun space => (settled _ _).trans hu
  next => cases h

theorem Accepted.displayName_eq {schema : Value} (h : Accepted schema) (hk : IsA .schema schema) :
    ∃ name, schema.displayName = pure name := by
  obtain ⟨c, rfl, hk⟩ := hk
  obtain ⟨_, he, -, context, -, announced⟩ := h.shape
  obtain rfl := component.inj he
  cases c <;> cases hk
  next fields wrapper name type =>
    obtain ⟨before, after, ha⟩ := announced
    obtain ⟨shown, mid, hd, -⟩ := Eval.of_bind_ok ha
    rw [displayName] at hd ⊢
    split at hd
    next hn => exact ⟨name, if_pos hn⟩
    next hn =>
      split at hd
      next ht => exact ⟨.text "<anonymous>", by rw [if_neg hn, if_pos ht]⟩
      next ht => exact ⟨shown, by rw [if_neg hn, if_neg ht, slotAt_name ⟨_, _, hd⟩]⟩

end RecordMarkup

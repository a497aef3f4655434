import RecordMarkup.Proofs.Component.Valid

namespace RecordMarkup

namespace Value

theorem join_texts {separator : String} {parts : List Value} (h : ∀ part ∈ parts, part.isText) :
    join separator parts = pure (separator.intercalate (parts.map fun v => v.text?.getD "")) := by
  have texts : (parts.zipIdx.map fun part => part.1.text?.getD "") =
      parts.map fun v => v.text?.getD "" := by
    rw [← Function.comp_def (fun v : Value => v.text?.getD "") Prod.fst, ← List.map_map,
      List.zipIdx_map_fst]
  rw [← texts, join, Eval.mapM_eq_pure (g := fun part => part.1.text?.getD ""), pure_bind]
  intro part hm
  obtain ⟨s, hs⟩ := Option.isSome_iff_exists.1 (h part.1 (List.fst_mem_of_mem_zipIdx hm))
  simp [hs]

theorem severalRequestsDefects_decides {requests : List Value}
    (h : ∀ r ∈ requests, IsA .request r) :
    Decides (severalRequestsDefects requests) (requests.length ≤ 1) := by
  unfold severalRequestsDefects
  split
  next hl => exact .pure (by simp [hl])
  next hl =>
    have name : ∀ r ∈ requests, ∃ v : Value,
        (do (← r.slot "method").slot "name" : Eval Value) = pure v ∧ v.isText := by
      intro r hr
      obtain ⟨c, rfl, hc⟩ := h r hr
      cases c <;> cases hc
      next m p e =>
        have nameSlot : (method m).slot "name" = pure (text m.name) :=
          slot_eq_pure (by decide) fun _ => rfl
        exact ⟨text m.name, by rw [slot_request_method, pure_bind, nameSlot], rfl⟩
    obtain ⟨names, hn, ht⟩ := Eval.mapM_pure_of_forall name
    rw [hn, pure_bind, join_texts ht, pure_bind]
    exact .pure (by simp [hl])

theorem surroundDefects_decides {tag content before after : Value} {attributes : List Value} :
    Decides (component (.element tag attributes content before after)).surroundDefects
      (before.isText ∧ after.isText) := by
  simp only [surroundDefects, slot_element_before, slot_element_after, pure_bind]
  cases hb : before.isText
  · exact .pure (by simp)
  · exact .pure (by simp)

theorem elementDefects_decides {tag content before after : Value} {attributes : List Value}
    (h : ∀ source ∈ attributes, ∃ k : Kind, k.isAttribute ∧ IsA k source) :
    Decides (component (.element tag attributes content before after)).elementDefects
      (Component.Valid (.element tag attributes content before after)) := by
  have known : ∀ source ∈ attributes, (do
      return if ((← source.kind).map Kind.isAttribute).getD false then []
        else [Defect.unknownAttribute source] : Eval (List Defect)) = pure [] := by
    intro source hs
    obtain ⟨k, hk, c, rfl, hc⟩ := h source hs
    simp [kind_component, hc, hk]
  have requests : ∀ r ∈ attributes.filter (hasKind .request), IsA .request r := by
    intro r hr
    obtain ⟨hm, hk⟩ := List.mem_filter.1 hr
    obtain ⟨k, -, c, rfl, -⟩ := h r hm
    exact ⟨c, rfl, by simpa [hasKind_component] using hk⟩
  obtain ⟨ds, hd, hiff⟩ := severalRequestsDefects_decides requests
  simp only [elementDefects, slot_element_tag, slot_element_attributes, pure_bind, forEach_tuple,
    Eval.mapM_eq_pure known, elements_tuple, hd]
  have named : (if tag.isNull || tag.isTextWhere Text.isTagName then []
      else [Defect.badTag tag]) = [] ↔ tag = null ∨ tag.isTextWhere Text.isTagName := by
    rw [← isNull_iff]
    cases tag.isNull <;> simp
  have bare : (if tag.isNull && (tuple attributes).truthy then [Defect.attributesWithoutTag]
      else []) = [] ↔ (tag = null → attributes = []) := by
    rw [← isNull_iff]
    cases tag.isNull <;> cases attributes <;> simp [truthy]
  have inner_nil : (((if tag.isNull || tag.isTextWhere Text.isTagName then []
      else [Defect.badTag tag]) ++ (attributes.map fun _ => []).flatten ++ ds ++
      if tag.isNull && (tuple attributes).truthy then [.attributesWithoutTag] else [])) = [] ↔
      (tag = null ∨ tag.isTextWhere Text.isTagName) ∧
        (attributes.filter (hasKind .request)).length ≤ 1 ∧ (tag = null → attributes = []) := by
    rw [List.append_eq_nil_iff, bare, List.append_eq_nil_iff, hiff, List.append_eq_nil_iff, named]
    simp [and_assoc]
  refine Decides.iff (.append inner_nil surroundDefects_decides) ?_
  simp only [Component.Valid, and_assoc]

theorem optionalDefects_decides {default function : Value} (h : OrNull (·.isText) default) :
    Decides (component (.optional default function)).optionalDefects
      (Component.Valid (.optional default function)) := by
  simp only [optionalDefects, slot_optional_default, slot_optional_map, pure_bind]
  obtain rfl | ht := h
  · exact .pure (by simp [Component.Valid])
  · have hn : default.isNull = false := by
      cases default <;> simp_all [isText, text?, isNull]
    rw [hn, if_neg (by simp)]
    refine .pure ?_
    have hd : default ≠ null := fun h => by simp [isNull_iff.2 h] at hn
    simp [Component.Valid, ht, hd, isNull_iff]

theorem mapDefects_decides {function : Value} (h : IsA .mapping function) :
    Decides (component (.map function)).mapDefects (Component.Valid (.map function)) := by
  simp only [mapDefects, slot_map_map, pure_bind]
  exact .pure (by simp [Component.Valid, h.hasKind])

theorem listDefects_decides {item : Value} (h : OrNull (IsA .schema) item) :
    Decides (component (.list item)).listDefects (Component.Valid (.list item)) := by
  simp only [listDefects, slot_list_item, pure_bind]
  obtain rfl | h := h
  · exact .pure (by simp [Component.Valid, isNull])
  · exact .pure (by simp [Component.Valid, h.hasKind])

theorem nestDefects_decides {inner isOptional : Value} (h : IsA .schema inner) :
    Decides (component (.nest inner isOptional)).nestDefects
      (Component.Valid (.nest inner isOptional)) := by
  simp only [nestDefects, slot_nest_schema, pure_bind]
  exact .pure (by simp [Component.Valid, h.hasKind])

theorem goesThroughSchema_eq {c : Component Value} (h : c.kind.isPolicy) :
    (component c).goesThroughSchema c.kind = pure (component c).inner?.isSome := by
  cases c with
  | list item =>
    simp only [goesThroughSchema, Component.kind, slot_list_item, pure_bind, inner?]
    cases item.isNull <;> rfl
  | plain | optional | map | nest => rfl
  | _ => simp [Component.kind, Kind.isPolicy] at h

theorem isTagless_eq {wrapper : Value} (h : OrNull (IsA .element) wrapper) :
    ∃ b, wrapper.isTagless = pure b ∧ (b = false ↔ wrapper.IsTagged) := by
  obtain rfl | ⟨c, rfl, hc⟩ := h
  · exact ⟨true, rfl, by simp [IsTagged]⟩
  · cases c <;> cases hc
    next tag attributes content before after =>
      refine ⟨tag.isNull, ?_, ?_⟩
      · simp [isTagless, slot_element_tag, isNull]
      · simp [IsTagged, ← isNull_iff]

theorem content_slot {wrapper : Value} (h : IsA .element wrapper) :
    wrapper.slot "content" = pure wrapper.content := by
  obtain ⟨c, rfl, hc⟩ := h
  cases c <;> cases hc
  exact slot_component _ _ rfl

def IsFormat (v : Value) : Prop :=
  ∃ template args s, v = component (.format template args) ∧ template.text? = some s

theorem isFlat_iff {c : Component Value} :
    (component c).IsFlat ↔ c.kind = .list ∧ (component c).inner?.isSome = false := by
  cases c <;> simp [IsFlat, Component.kind, inner?, ← isNull_iff]

theorem itemTagDefects_decides (name : Value) {wrapper : Value} (c : Component Value)
    (h : OrNull (IsA .element) wrapper) :
    Decides (itemTagDefects name wrapper c.kind (component c).inner?.isSome)
      ((component c).IsFlat → wrapper.IsTagged) := by
  obtain ⟨b, hb, hiff⟩ := isTagless_eq h
  by_cases hf : (component c).IsFlat
  · obtain ⟨hk, hn⟩ := isFlat_iff.1 hf
    simp only [itemTagDefects, hk, hn, hb]
    refine .pure ?_
    rw [← hiff]
    cases b <;> simp [hf]
  · have hn : c.kind ≠ .list ∨ (component c).inner?.isSome = true := by
      rw [isFlat_iff, Classical.not_and_iff_not_or_not] at hf
      simpa [Option.isSome_iff_ne_none] using hf
    simp only [itemTagDefects]
    rw [if_pos (by simpa using hn)]
    exact .pure (by simp [hf])

theorem fieldElementDefects_decides {name wrapper : Value} {c : Component Value}
    {errors : List Defect} (hc : c.kind.isPolicy) (hw : OrNull (IsA .element) wrapper)
    (hf : OrNull IsFormat wrapper.content) :
    Decides (fieldElementDefects name (component c) wrapper c.kind errors)
      (errors = [] ∧ ((component c).IsFlat → wrapper.IsTagged) ∧
        (wrapper.content ≠ null → (component c).inner? = none ∧ wrapper.content.HasSlots 1)) := by
  obtain ⟨ds, hd, hiff⟩ := itemTagDefects_decides name c hw
  simp only [fieldElementDefects, goesThroughSchema_eq hc, pure_bind, hd]
  obtain rfl | hw := hw
  · exact .pure (by simp [hiff, content])
  · have hn : wrapper.isNull = false := by
      obtain ⟨e, rfl, -⟩ := hw
      rfl
    simp only [hn, content_slot hw, pure_bind]
    obtain hf | ⟨template, args, s, hf, hs⟩ := hf
    · rw [hf]
      exact .pure (by simp [hiff])
    · have argSlot : (component (.format template args)).slot "args" = pure (tuple args) :=
        slot_component _ _ rfl
      have length : (tuple args).requireLength = pure args.length := rfl
      have he : (1 + args.length : Int) = (1 + args.length : Nat) := by simp
      have slots := templateDefects_decides hs args 1 he (.content name)
      have hcn : (component (.format template args)).isNull = false := rfl
      rw [hf, hcn, if_neg (by simp), if_neg (by simp)]
      simp only [argSlot, length, pure_bind]
      cases hi : (component c).inner? with
      | some inner =>
        rw [if_pos (by simp)]
        exact .pure (by simp)
      | none =>
        by_cases he : errors ++ ds = []
        · obtain ⟨rfl, hds⟩ := List.append_eq_nil_iff.1 he
          rw [if_neg (by simp [he])]
          have tagged := hiff.1 hds
          exact slots.iff ⟨fun h => ⟨rfl, tagged, fun _ => ⟨rfl, h⟩⟩, fun h => (h.2.2 (component_ne_null _)).2⟩
        · rw [if_pos (by simp [he])]
          refine .pure ⟨fun h => absurd h he, fun h => ?_⟩
          exact absurd (List.append_eq_nil_iff.2 ⟨h.1, hiff.2 h.2.1⟩) he

theorem fieldDefects_decides {name policy wrapper : Value}
    (hp : ∃ k : Kind, k.isPolicy ∧ IsA k policy) (hw : OrNull (IsA .element) wrapper)
    (hf : OrNull IsFormat wrapper.content) :
    Decides (component (.field name policy wrapper)).fieldDefects
      (Component.Valid (.field name policy wrapper)) := by
  obtain ⟨k, hk, c, rfl, rfl⟩ := hp
  have known : (!wrapper.isNull && !wrapper.hasKind .element) = false := by
    obtain rfl | h := hw
    · rfl
    · simp [h.hasKind]
  simp only [fieldDefects, slot_field_name, slot_field_policy, slot_field_element, kind_component,
    pure_bind, Option.filter_some, hk, known]
  refine (fieldElementDefects_decides hk hw hf).iff ?_
  simp [Component.Valid]

theorem same_of_text {a b : Value} {s t : String} (ha : a.text? = some s) (hb : b.text? = some t) :
    same a b = (s == t) := by
  have number {v : Value} {r : String} (h : v.text? = some r) : v.comparand? = none := by
    cases v <;> simp_all [text?, comparand?]
    split at h <;> simp_all
  have leaf : leafEqual? a b = some (s == t) := by
    simp [leafEqual?, number ha, number hb, leafEqual, ha, hb]
  have parts : equal? true a b = leafEqual? a b := by
    cases a <;> simp [text?] at ha <;> cases b <;> simp [text?] at hb <;> simp [equal?]
  simp [same, parts, leaf]

theorem any_same_iff {name : Value} {seen : List Value} (hn : name.isText)
    (hs : ∀ other ∈ seen, other.isText) :
    seen.any (same name) = true ↔ name.text? ∈ seen.map text? := by
  obtain ⟨s, hn⟩ := Option.isSome_iff_exists.1 hn
  rw [List.any_eq_true, List.mem_map]
  refine exists_congr fun other => and_congr_right fun ho => ?_
  obtain ⟨t, ht⟩ := Option.isSome_iff_exists.1 (hs other ho)
  rw [same_of_text hn ht, hn, ht, beq_iff_eq, Option.some_inj, eq_comm]

theorem nameDefects_nil_iff {names : List Value} (h : ∀ name ∈ names, name.isText)
    {seen : List Value} (hs : ∀ name ∈ seen, name.isText) :
    nameDefects seen (names.map .inr) = [] ↔
      (names.map text?).Nodup ∧ ∀ name ∈ names, name.text? ∉ seen.map text? := by
  induction names generalizing seen with
  | nil => simp [nameDefects]
  | cons name names ih =>
    obtain ⟨hn, h⟩ := List.forall_mem_cons.1 h
    rw [List.map_cons, nameDefects, List.map_cons, List.nodup_cons, List.forall_mem_cons,
      ← any_same_iff hn hs]
    split
    next hf => simp [hf]
    next hf =>
      have rest := ih h (List.forall_mem_cons.2 ⟨hn, hs⟩)
      rw [rest, List.map_cons]
      simp only [List.mem_cons, not_or, List.mem_map]
      grind

theorem recordElementDefects_decides {wrapper : Value} (h : OrNull (IsA .element) wrapper) :
    Decides (recordElementDefects wrapper) (wrapper.content = null) := by
  obtain rfl | h := h
  · exact .pure (by simp [content])
  · have hn : wrapper.isNull = false := by
      obtain ⟨c, rfl, -⟩ := h
      rfl
    simp only [recordElementDefects, hn, h.hasKind, content_slot h, pure_bind]
    exact .pure (by simp [isNull_iff])

theorem fieldName_eq {v : Value} (h : IsA .field v) (ht : v.nameText?.isSome) :
    ∃ name, v.fieldName = pure (.inr name) ∧ name.isText ∧ name.text? = v.nameText? := by
  obtain ⟨c, rfl, hc⟩ := h
  cases c <;> cases hc
  next name policy wrapper =>
    obtain ⟨s, hs⟩ := Option.isSome_iff_exists.1 ht
    refine ⟨name, ?_, ht, rfl⟩
    simp [fieldName, hasKind_component, Component.kind, slot_field_name, requireHashable,
      unhashable?_of_text hs]

theorem mapM_fieldName {fields : List Value}
    (h : ∀ f ∈ fields, IsA .field f ∧ f.nameText?.isSome) :
    ∃ names : List Value, fields.mapM fieldName = pure (names.map .inr) ∧
      (∀ name ∈ names, name.isText) ∧ names.map text? = fields.map nameText? := by
  induction fields with
  | nil => exact ⟨[], rfl, by simp, rfl⟩
  | cons f fields ih =>
    obtain ⟨hf, hfs⟩ := List.forall_mem_cons.1 h
    obtain ⟨n, hn, ht, he⟩ := fieldName_eq hf.1 hf.2
    obtain ⟨ns, hns, hts, hes⟩ := ih hfs
    exact ⟨n :: ns, by simp [List.mapM_cons, hn, hns], List.forall_mem_cons.2 ⟨ht, hts⟩,
      by simp [he, hes]⟩

theorem schemaDefects_eq {fields : List Value} {wrapper : Value} (name type : Value)
    (hf : ∀ f ∈ fields, IsA .field f ∧ f.nameText?.isSome) (hw : OrNull (IsA .element) wrapper) :
    ∃ errors, (errors = [] ↔ Component.Valid (.schema fields wrapper name type)) ∧
      (component (.schema fields wrapper name type)).schemaDefects =
        if type.isNull || !errors.isEmpty then pure errors
        else (component (.schema fields wrapper name type)).recordTypeDefects := by
  obtain ⟨ds, hd, hiff⟩ := recordElementDefects_decides hw
  obtain ⟨names, hn, ht, he⟩ := mapM_fieldName hf
  refine ⟨ds ++ nameDefects [] (names.map .inr), ?_, ?_⟩
  · rw [List.append_eq_nil_iff, hiff, nameDefects_nil_iff ht (by simp), he]
    simp [Component.Valid]
  · simp only [schemaDefects, slot_schema_element, slot_schema_fields, slot_schema_type, pure_bind,
      hd, forEach_tuple, hn]

end Value

namespace Component

variable {str : Value → Prop} {c : Component Value}

def recordType : Component Value → Value
  | schema _ _ _ type => type
  | _ => .null

theorem isFormat_of_built {v : Value} (hstr : ∀ v, str v → v.isText) (h : Built str v)
    (hk : Value.IsA .format v) : v.IsFormat := by
  obtain ⟨c, rfl, hc⟩ := hk
  cases c <;> cases hc
  next template args =>
    obtain ⟨s, hs⟩ := Option.isSome_iff_exists.1 (hstr _ h.typed.1)
    exact ⟨template, args, s, rfl, hs⟩

theorem isFormat_content {wrapper : Value} (hstr : ∀ v, str v → v.isText)
    (hk : Value.OrNull (Value.IsA .element) wrapper)
    (h : ∀ part ∈ wrapper.present, Built str part) :
    Value.OrNull Value.IsFormat wrapper.content := by
  obtain rfl | ⟨e, rfl, he⟩ := hk
  · exact .inl rfl
  · have built : Built str (.component e) := h _ (by simp)
    cases e <;> cases he
    next tag attributes content before after =>
      refine built.typed.2.2.1.imp id fun hf => isFormat_of_built hstr (built.parts _ ?_) hf
      obtain ⟨c, rfl, -⟩ := hf
      exact List.mem_append_right _ (Value.mem_present.2 ⟨Value.component_ne_null c, rfl⟩)

theorem isField_of_built {fields rest : List Value} (hstr : ∀ v, str v → v.isText)
    (hk : ∀ f ∈ fields, Value.IsA .field f) (h : ∀ part ∈ fields ++ rest, Built str part) :
    ∀ f ∈ fields, Value.IsA .field f ∧ f.nameText?.isSome := by
  intro f hf
  refine ⟨hk f hf, ?_⟩
  obtain ⟨c, rfl, hc⟩ := hk f hf
  have built : Built str (.component c) := h _ (List.mem_append_left _ hf)
  cases c <;> cases hc
  exact hstr _ built.typed.1

/-- The checks find a defect exactly where a component of the declared types is not valid. -/
theorem defects_decide (hstr : ∀ v, str v → v.isText) (typed : c.Typed str)
    (parts : ∀ part ∈ c.parts, Built str part) (untyped : c.recordType = .null) :
    Decides (Value.component c).defects c.Valid := by
  simp only [Value.defects_component]
  cases c with
  | format template args =>
    obtain ⟨s, hs⟩ := Option.isSome_iff_exists.1 (hstr _ typed.1)
    exact Value.formatDefects_decides hs
  | mapping name function => exact Value.mappingDefects_decides name function
  | static key value => exact Value.literalDefects_decides rfl rfl
  | requestAttr key value => exact Value.literalDefects_decides rfl rfl
  | dynamic key expr =>
    obtain ⟨t, as, s, rfl, hs⟩ := isFormat_of_built hstr (parts _ (.head _)) typed.2
    exact Value.dynamicDefects_decides hs
  | request m path encode =>
    obtain ⟨t, as, s, rfl, hs⟩ := isFormat_of_built hstr (parts _ (.head _)) typed.1
    exact Value.requestDefects_decides hs
  | element tag attributes content before after => exact Value.elementDefects_decides typed.2.1
  | plain => exact .pure (by simp [Valid])
  | optional default function =>
    exact Value.optionalDefects_decides (typed.1.imp id (hstr default))
  | map function => exact Value.mapDefects_decides typed
  | list item => exact Value.listDefects_decides typed
  | nest inner isOptional => exact Value.nestDefects_decides typed.1
  | field name policy wrapper =>
    refine Value.fieldDefects_decides typed.2.1 typed.2.2 ?_
    exact isFormat_content hstr typed.2.2 fun part hp => parts part (.tail _ hp)
  | schema fields wrapper name type =>
    obtain rfl : type = .null := untyped
    obtain ⟨errors, hiff, he⟩ := Value.schemaDefects_eq name .null
      (isField_of_built hstr typed.1 parts) typed.2.1
    exact ⟨errors, by simp [he, Value.isNull], hiff⟩

theorem valid_of_no_defects (hstr : ∀ v, str v → v.isText) (typed : c.Typed str)
    (parts : ∀ part ∈ c.parts, Built str part) {context : Context} {state after : State}
    (h : (Value.component c).defects.outcome context state = (.ok [], after)) : c.Valid := by
  by_cases untyped : c.recordType = .null
  · exact (defects_decide hstr typed parts untyped).holds h
  · cases c with
    | schema fields wrapper name type =>
      obtain ⟨errors, hiff, he⟩ := Value.schemaDefects_eq name type
        (isField_of_built hstr typed.1 parts) typed.2.1
      by_cases hn : errors = []
      · exact hiff.1 hn
      · rw [if_pos (by simp [hn])] at he
        simp only [Value.defects_component] at h
        rw [he, Eval.outcome_pure, Prod.mk.injEq, Except.ok.injEq] at h
        exact absurd h.1 hn
    | _ => exact absurd rfl untyped

end Component

theorem Built.inv {str : Value → Prop} {v : Value} (hstr : ∀ v, str v → v.isText)
    (h : Built str v) :
    ∃ c, v = .component c ∧ c.Typed str ∧ c.Valid ∧ ∀ part ∈ c.parts, Built str part := by
  obtain ⟨c, rfl, typed, parts, context, state, after, hd⟩ := h.shape
  exact ⟨c, rfl, typed, Component.valid_of_no_defects hstr typed parts hd, parts⟩

theorem Built.valid {str : Value → Prop} {c : Component Value} (hstr : ∀ v, str v → v.isText)
    (h : Built str (.component c)) : c.Valid := by
  obtain ⟨_, he, -, valid, -⟩ := h.inv hstr
  exact Value.component.inj he ▸ valid

namespace Component

variable {str : Value → Prop} {c : Component Value}

theorem accept_settles {p : Prop} (h : Decides (Value.component c).defects p) :
    c.accept.Settles (.component c) p := by
  obtain ⟨ds, hd, hiff⟩ := h
  simp only [accept, hd, pure_bind]
  by_cases hv : p
  · rw [hiff.2 hv]
    exact .inl ⟨hv, .pure _⟩
  · have hn : ds ≠ [] := fun h => hv (hiff.1 h)
    rw [if_neg (by simpa using hn)]
    refine .inr ⟨hv, ds, [.rejected c.kind ds], hn, by simp [Logging.Event.origin], ?_⟩
    exact fun _ _ => rfl

theorem construct_settles (hstr : ∀ v, str v → v.isText) (typed : c.Typed str)
    (parts : ∀ part ∈ c.parts, Built str part) (untyped : c.recordType = .null) :
    c.construct.Settles (.component c) c.Valid := by
  rw [construct_eq typed.parts_component]
  have accepted := accept_settles (defects_decide hstr typed parts untyped)
  have announced : c.announce.Settles () True := .inl ⟨trivial, announce_gives typed⟩
  refine Eval.Settles.iff (accepted.bind fun _ => announced.bind fun _ => .pure _) ?_
  simp

theorem built_of_valid (hstr : ∀ v, str v → v.isText) (typed : c.Typed str)
    (parts : ∀ part ∈ c.parts, Built str part) (untyped : c.recordType = .null) (h : c.Valid) :
    Built str (.component c) := by
  obtain ⟨-, events, -, hg⟩ | ⟨hn, -⟩ := construct_settles hstr typed parts untyped
  · exact .mk typed parts (hg { mappings := fun _ v => .ok v } {})
  · exact absurd h hn

theorem built_format {template : Value} {args : List Value} {t : String}
    {pieces : List Template.Piece} (ht : template.text? = some t)
    (hp : Template.parse t = .ok pieces) (names : ∀ arg ∈ args, arg.isTextWhere Text.isFieldName) :
    Built (·.isText) (.component (.format template args)) := by
  have texts : ∀ arg ∈ args, arg.isText := fun arg hm => Value.isText_of_isTextWhere (names arg hm)
  have typed : (format template args).Typed (·.isText) := ⟨by simp [Value.isText, ht], texts⟩
  exact built_of_valid (fun _ h => h) typed (by simp [parts]) rfl ⟨⟨t, pieces, ht, hp⟩, names⟩

theorem built_request (m : Method) {path : Value} (encode : Bool) (hb : Built (·.isText) path)
    (hs : path.HasSlots 0) (named : path.args ≠ []) :
    Built (·.isText) (.component (.request m path (.bool encode))) := by
  obtain ⟨template, args, rfl⟩ := hs.format
  exact built_of_valid (fun _ h => h) ⟨⟨_, rfl, rfl⟩, encode, rfl⟩ (by simpa [parts] using hb) rfl
    ⟨hs, fun _ => named⟩

end Component

end RecordMarkup

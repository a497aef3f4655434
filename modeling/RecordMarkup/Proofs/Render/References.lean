import RecordMarkup.Proofs.Component.Accepted
import RecordMarkup.Proofs.Render.Element

namespace RecordMarkup

open Value (component IsA OrNull IsElement IsSource)

namespace Accepted

theorem valid {c : Component Value} (h : Accepted (component c)) : c.Valid := by
  obtain ⟨_, he, -, valid, -⟩ := h.inv
  exact Value.component.inj he ▸ valid

theorem holds {c : Component Value} (h : Accepted (component c)) : c.Holds := by
  obtain ⟨_, he, held, -⟩ := h.inv
  exact Value.component.inj he ▸ held

theorem isElement {wrapper : Value} (h : ∀ part ∈ wrapper.present, Accepted part)
    (hw : OrNull (IsA .element) wrapper) : OrNull IsElement wrapper := by
  obtain rfl | ⟨c, rfl, hk⟩ := hw
  · exact .inl rfl
  · have accepted : Accepted (component c) := h _ (by simp)
    cases c <;> cases hk
    next tag attributes content before after =>
      obtain ⟨-, -, -, hb, ha⟩ := accepted.valid
      refine .inr (.intro (fun source hs => ?_) hb ha)
      obtain ⟨k, hk, c, rfl, rfl⟩ := accepted.holds source hs
      exact ⟨c, rfl, hk, (accepted.parts _ (List.mem_append_left _ hs)).valid⟩

end Accepted

namespace Value

theorem args_slot {format : Value} {extra : Nat} (h : format.HasSlots extra) :
    format.slot "args" = pure (tuple format.args) := by
  obtain ⟨template, args, rfl⟩ := h.format
  exact slot_component _ _ rfl

theorem contentReferences_eq {content : Value}
    (h : content ≠ null → ∃ extra, content.HasSlots extra) :
    contentReferences content = pure content.args := by
  by_cases hn : content = null
  · subst hn
    rfl
  · obtain ⟨extra, slots⟩ := h hn
    rw [contentReferences, if_neg (by rwa [isNull_iff]), args_slot slots, pure_bind, elements_tuple]

theorem attributeReferences_eq {source : Value} (h : source.IsSource) :
    (do
      let tag ← source.slot "kind"
      if tag.isKind .dynamic then (← (← source.slot "expr").slot "args").elements
      else if tag.isKind .request then (← (← source.slot "path").slot "args").elements
      else return [] : Eval (List Value)) = pure source.attributeArgs := by
  obtain ⟨c, rfl, hk, hv⟩ := h
  rw [slot_kind, pure_bind, isKind_tag, isKind_tag]
  cases c with
  | dynamic key expr =>
    simp [Component.kind, slot_dynamic_expr, args_slot hv.2, elements_tuple, attributeArgs]
  | request m path encode =>
    simp [Component.kind, slot_request_path, args_slot hv.1, elements_tuple, attributeArgs]
  | static => rfl
  | requestAttr => rfl
  | _ => simp [Component.kind, Kind.isAttribute] at hk

theorem elementReferences_eq {wrapper : Value} (hw : OrNull IsElement wrapper)
    (hc : wrapper.content ≠ null → ∃ extra, wrapper.content.HasSlots extra) :
    elementReferences wrapper = pure wrapper.elementArgs := by
  obtain rfl | hw := hw
  · rfl
  · obtain @⟨tag, content, before, after, attributes, sources, -, -⟩ := hw
    have present : (component (.element tag attributes content before after)).isNull = false := rfl
    have fromAttributes := Eval.mapM_eq_pure fun source hs => attributeReferences_eq (sources source hs)
    have fromContent : contentReferences content = pure content.args := contentReferences_eq hc
    rw [elementReferences, present, if_neg (by simp), slot_element_attributes, pure_bind,
      forEach_tuple, fromAttributes, pure_bind, slot_element_content, pure_bind, fromContent,
      pure_bind]
    rfl

def references : Value → List Value
  | component (.schema fields wrapper _ _) => wrapper.elementArgs ++ fields.flatMap fieldArgs
  | _ => []

theorem fieldReferences_eq {field : Value} (h : Accepted field) (hk : IsA .field field) :
    (do
      let name ← field.slot "name"
      return name :: (← elementReferences (← field.slot "element")) : Eval (List Value)) =
        pure field.fieldArgs := by
  obtain ⟨c, rfl, hk⟩ := hk
  cases c <;> cases hk
  next name policy wrapper =>
    have element := Accepted.isElement (fun part hp => h.parts part (.tail _ hp)) h.holds.2
    rw [slot_field_name, pure_bind, slot_field_element, pure_bind,
      elementReferences_eq element fun hc => ⟨1, (h.valid.2.2 hc).2⟩]
    rfl

end Value

open Value

section Text

theorem Accepted.args_text {format : Value} (h : Accepted format) : ∀ n ∈ format.args, n.isText := by
  obtain ⟨c, rfl, -, valid, -⟩ := h.inv
  cases c with
  | format template args => exact fun n hn => isText_of_isTextWhere (valid.2 n hn)
  | _ => simp [args]

theorem Accepted.attributeArgs_text {source : Value} (h : Accepted source) :
    ∀ n ∈ source.attributeArgs, n.isText := by
  obtain ⟨c, rfl, -⟩ := h.shape
  cases c with
  | dynamic key expr => exact (h.parts expr (.head _)).args_text
  | request m path encode => exact (h.parts path (.head _)).args_text
  | _ => simp [attributeArgs]

theorem Accepted.elementArgs_text {wrapper : Value} (h : ∀ part ∈ wrapper.present, Accepted part) :
    ∀ n ∈ wrapper.elementArgs, n.isText := by
  obtain rfl | ⟨c, rfl, accepted⟩ := Accepted.component_of_present h
  · simp [elementArgs]
  · cases c with
    | element tag attributes content before after =>
      refine List.forall_mem_append.2 ⟨fun n hn => ?_, ?_⟩
      · obtain ⟨source, hs, hn⟩ := List.mem_flatMap.1 hn
        exact (accepted.parts source (List.mem_append_left _ hs)).attributeArgs_text n hn
      · obtain rfl | ⟨d, rfl, format⟩ := Accepted.component_of_present fun part hp =>
          accepted.parts part (List.mem_append_right _ hp)
        · simp [args]
        · exact format.args_text
    | _ => simp [elementArgs]

theorem Accepted.fieldArgs_text {field : Value} (h : Accepted field) :
    ∀ n ∈ field.fieldArgs, n.isText := by
  obtain ⟨c, rfl, -⟩ := h.shape
  cases c with
  | field name policy wrapper =>
    refine List.forall_mem_cons.2 ⟨isText_of_isTextWhere h.valid.1, ?_⟩
    exact Accepted.elementArgs_text fun part hp => h.parts part (.tail _ hp)
  | _ => simp [fieldArgs]

theorem Accepted.references_text {schema : Value} (h : Accepted schema) :
    ∀ n ∈ schema.references, n.isText := by
  obtain ⟨c, rfl, -⟩ := h.shape
  cases c with
  | schema fields wrapper name type =>
    refine List.forall_mem_append.2 ⟨?_, fun n hn => ?_⟩
    · exact Accepted.elementArgs_text fun part hp => h.parts part (List.mem_append_right _ hp)
    · obtain ⟨field, hf, hn⟩ := List.mem_flatMap.1 hn
      exact (h.parts field (List.mem_append_left _ hf)).fieldArgs_text n hn
  | _ => simp [references]

end Text

namespace Value

theorem field_congr {record a b : Value} {s : String} (ha : a.text? = some s) (hb : b.text? = some s) :
    record.field a = record.field b := by
  unfold field
  split
  next entries =>
    simp only [requireHashable, unhashable?_of_text ha, unhashable?_of_text hb, ha, hb]
  next => simp only [ha, hb]

theorem distinct_subset {seen vs : List Value} : ∀ v ∈ distinct seen vs, v ∈ vs := by
  induction vs generalizing seen with
  | nil => simp [distinct]
  | cons w vs ih =>
    rw [distinct]
    split
    next => exact fun v hv => .tail _ (ih v hv)
    next => exact List.forall_mem_cons.2 ⟨.head _, fun v hv => .tail _ (ih v hv)⟩

theorem mem_distinct_or {seen vs : List Value} (hs : ∀ v ∈ seen, v.isText)
    (hv : ∀ v ∈ vs, v.isText) :
    ∀ v ∈ vs, v.text? ∈ seen.map text? ∨ ∃ w ∈ distinct seen vs, w.text? = v.text? := by
  induction vs generalizing seen with
  | nil => simp
  | cons w vs ih =>
    obtain ⟨hw, hv⟩ := List.forall_mem_cons.1 hv
    rw [distinct]
    split
    next known =>
      exact List.forall_mem_cons.2 ⟨.inl ((any_same_iff hw hs).1 known), ih hs hv⟩
    next =>
      refine List.forall_mem_cons.2 ⟨.inr ⟨w, .head _, rfl⟩, fun v hm => ?_⟩
      obtain h | ⟨u, hu, he⟩ := ih (List.forall_mem_cons.2 ⟨hw, hs⟩) hv v hm
      · obtain he | h := List.mem_cons.1 h
        · exact .inr ⟨w, .head _, he.symm⟩
        · exact .inl h
      · exact .inr ⟨u, .tail _ hu, he⟩

theorem exists_mem_distinct {vs : List Value} (hv : ∀ v ∈ vs, v.isText) :
    ∀ v ∈ vs, ∃ w ∈ distinct [] vs, w.text? = v.text? := by
  intro v hm
  obtain h | kept := mem_distinct_or (List.forall_mem_nil _) hv v hm
  · cases h
  · exact kept

theorem forM_requireHashable {names : List Value} (h : ∀ n ∈ names, n.isText) :
    names.forM requireHashable = (pure () : Eval PUnit) := by
  induction names with
  | nil => rfl
  | cons n names ih =>
    obtain ⟨hn, h⟩ := List.forall_mem_cons.1 h
    obtain ⟨s, hs⟩ := Option.isSome_iff_exists.1 hn
    have first : n.requireHashable = pure () := by
      simp [requireHashable, unhashable?_of_text hs]
    rw [List.forM_eq_forM, List.forM_cons, first, pure_bind]
    exact ih h

theorem referencedNames_eq {schema : Value} (h : Accepted schema) (hk : IsA .schema schema) :
    schema.referencedNames = pure (distinct [] schema.references) := by
  have texts := h.references_text
  obtain ⟨c, rfl, hk⟩ := hk
  cases c <;> cases hk
  next fields wrapper name type =>
    have element := Accepted.isElement (fun part hp => h.parts part (List.mem_append_right _ hp))
      h.holds.2
    have own := elementReferences_eq element fun hc => absurd h.valid.1 hc
    have inFields := Eval.mapM_eq_pure fun field hf =>
      fieldReferences_eq (h.parts field (List.mem_append_left _ hf)) (h.holds.1 field hf)
    simp only [referencedNames, slot_schema_element, slot_schema_fields, own, forEach_tuple,
      inFields, pure_bind]
    rw [show (wrapper.elementArgs ++ (fields.map fieldArgs).flatten) =
      (component (.schema fields wrapper name type)).references from rfl,
      forM_requireHashable texts, pure_bind]

def Declares (schema : Value) (names : List String) : Prop :=
  ∃ fields wrapper name identity t,
    schema = component (.schema fields wrapper name (recordType identity t)) ∧
      t.fields? = some names

/-- Every record field that an accepted schema names is one that its record type declares, if that
declares any. -/
theorem mem_of_declares {schema : Value} {names : List String} (h : Accepted schema)
    (hd : schema.Declares names) : ∀ n ∈ schema.references, ∃ s ∈ names, n.text? = some s := by
  obtain ⟨fields, wrapper, name, identity, t, rfl, ht⟩ := hd
  obtain ⟨context, state, after, checked⟩ := h.checked
  have hf (f : Value) (hm : f ∈ fields) : IsA .field f ∧ f.nameText?.isSome :=
    (h.parts f (List.mem_append_left _ hm)).field_of_isA (h.holds.1 f hm)
  obtain ⟨errors, hiff, he⟩ := schemaDefects_eq name (recordType identity t) hf h.holds.2
  obtain rfl := hiff.2 h.valid
  have declared : (recordType identity t).declaredFields = pure (some (names.map text)) := by
    simp [declaredFields, ht]
  simp only [defects_component, he] at checked
  rw [if_neg (by simp [isNull]), recordTypeDefects, slot_schema_type, pure_bind, declared,
    pure_bind, Eval.outcome_bind_ok (Eval.outcome_settings ..), referencedNames_eq h ⟨_, rfl, rfl⟩,
    pure_bind] at checked
  have none := List.map_eq_nil_iff.1 (Except.ok.inj (Prod.mk.inj checked).1)
  intro n hn
  have texts := h.references_text
  obtain ⟨m, hm, he⟩ := exists_mem_distinct texts n hn
  have known : (names.map text).any (same m) := by
    simpa using List.filter_eq_nil_iff.1 none m hm
  have isText : ∀ v ∈ names.map text, v.isText := by simp [isText, text?]
  have found := (any_same_iff (texts m (distinct_subset m hm)) isText).1 known
  rw [he, List.map_map] at found
  obtain ⟨s, hs, hn⟩ := List.mem_map.1 found
  exact ⟨s, hs, hn.symm⟩

end Value

end RecordMarkup

import RecordMarkup.Proofs.Outline.Schemas

namespace RecordMarkup

open Value (IsA OrNull IsPlain)

namespace Value

variable {v w : Value}

theorem both?_eq_true {a b : Option Bool} : both? a b = some true ↔ a = some true ∧ b = some true := by
  obtain _ | _ | _ := a <;> simp [both?]

theorem same_component {c d : Component Value} :
    (component c).same (component d) ↔ equalComponents? c d = some true := by
  rw [same, equal?, beq_iff_eq]

theorem equal?_iff_same : equal? true v w = some true ↔ v.same w := by
  rw [same, beq_iff_eq]

theorem equalItems?_iff {vs ws : List Value} :
    equalItems? vs ws = some true ↔ List.Forall₂ (fun v w => v.same w) vs ws := by
  induction vs generalizing ws with
  | nil => cases ws <;> simp [equalItems?]
  | cons v vs ih =>
    cases ws with
    | nil => simp [equalItems?]
    | cons w ws => simp [equalItems?, both?_eq_true, equal?_iff_same, ih]

theorem eq_of_same_plain (hv : v.IsPlain) (hw : w.IsPlain) (h : v.same w) : v = w := by
  obtain ⟨s, rfl⟩ := hv
  obtain ⟨t, rfl⟩ := hw
  rw [same_of_text rfl rfl, beq_iff_eq] at h
  rw [h]

theorem eq_null_of_same (h : null.same v ∨ v.same null) : v = null := by
  cases v with
  | member m => cases m <;> simp [same, equal?, leafEqual?, comparand?, leafEqual, text?] at h
  | _ => simp_all [same, equal?, leafEqual?, comparand?, leafEqual, text?]

theorem eq_of_same_orNull (hv : OrNull IsPlain v) (hw : OrNull IsPlain w) (h : v.same w) : v = w := by
  obtain rfl | hv := hv
  · exact (eq_null_of_same (.inl h)).symm
  · obtain rfl | hw := hw
    · exact eq_null_of_same (.inr h)
    · exact eq_of_same_plain hv hw h

theorem eq_of_same_bool {a b : Bool} (h : (bool a).same (bool b)) : a = b := by
  have zero : (Number.Exact.ofInt 1 == .ofInt 0) = false ∧ (Number.Exact.ofInt 0 == .ofInt 1) = false := by
    decide
  cases a <;> cases b <;>
    simp [same, equal?, leafEqual?, comparand?, Comparand.equal?, zero] at h ⊢

theorem map_eq_of_same {β : Type} {f : Value → β} {vs ws : List Value} {p q : Value → Prop}
    (hv : ∀ v ∈ vs, p v) (hw : ∀ w ∈ ws, q w) (he : ∀ v w, p v → q w → v.same w → f v = f w)
    (h : List.Forall₂ (fun v w => v.same w) vs ws) : vs.map f = ws.map f := by
  induction h with
  | nil => rfl
  | @cons v w vs ws first _ ih =>
    obtain ⟨pv, hv⟩ := List.forall_mem_cons.1 hv
    obtain ⟨pw, hw⟩ := List.forall_mem_cons.1 hw
    rw [List.map_cons, List.map_cons, he v w pv pw first, ih hv hw]

theorem eq_of_same_all {vs ws : List Value} {p : Value → Prop} (hv : ∀ v ∈ vs, p v)
    (hw : ∀ w ∈ ws, p w) (he : ∀ v w, p v → p w → v.same w → v = w)
    (h : List.Forall₂ (fun v w => v.same w) vs ws) : vs = ws := by
  have same := map_eq_of_same (f := id) hv hw he h
  rwa [List.map_id, List.map_id] at same

def BuiltOr (kind : Kind) (v : Value) : Prop :=
  OrNull (IsA kind) v ∧ ∀ part ∈ v.present, Built IsPlain part

theorem eq_of_same_builtOr {kind : Kind}
    (he : ∀ v w, Built IsPlain v → Built IsPlain w → IsA kind v → IsA kind w → v.same w → v = w)
    (hv : v.BuiltOr kind) (hw : w.BuiltOr kind) (h : v.same w) : v = w := by
  obtain ⟨rfl | ⟨c, rfl, hc⟩, bv⟩ := hv
  · rw [eq_null_of_same (.inl h)]
  · obtain ⟨rfl | ⟨d, rfl, hd⟩, bw⟩ := hw
    · rw [eq_null_of_same (.inr h)]
    · exact he _ _ (bv _ (.head _)) (bw _ (.head _)) ⟨c, rfl, hc⟩ ⟨d, rfl, hd⟩ h

theorem eq_of_same_format (hv : Built IsPlain v) (hw : Built IsPlain w) (kv : IsA .format v)
    (kw : IsA .format w) (h : v.same w) : v = w := by
  obtain ⟨c, rfl, hc⟩ := kv
  obtain ⟨d, rfl, hd⟩ := kw
  cases c <;> cases hc
  cases d <;> cases hd
  next template args other others =>
    obtain ⟨ht, ha⟩ := hv.typed
    obtain ⟨hu, hb⟩ := hw.typed
    rw [same_component, equalComponents?, both?_eq_true, equal?_iff_same, equalItems?_iff] at h
    rw [eq_of_same_plain ht hu h.1, eq_of_same_all ha hb (fun _ _ => eq_of_same_plain) h.2]

theorem eq_of_same_source (hv : Built IsPlain v) (hw : Built IsPlain w)
    (kv : ∃ k, k.isAttribute ∧ IsA k v) (h : v.same w) : v = w := by
  obtain ⟨k, hk, c, rfl, rfl⟩ := kv
  obtain ⟨d, rfl, typed', parts', -⟩ := hw.shape
  have typed := hv.typed
  have parts := hv.parts
  rw [same_component] at h
  cases c with
  | static key value =>
    cases d with
    | static =>
      simp only [equalComponents?, both?_eq_true, equal?_iff_same] at h
      rw [eq_of_same_plain typed.1 typed'.1 h.1, eq_of_same_plain typed.2 typed'.2 h.2]
    | _ => simp [equalComponents?] at h
  | requestAttr key value =>
    cases d with
    | requestAttr =>
      simp only [equalComponents?, both?_eq_true, equal?_iff_same] at h
      rw [eq_of_same_plain typed.1 typed'.1 h.1, eq_of_same_plain typed.2 typed'.2 h.2]
    | _ => simp [equalComponents?] at h
  | dynamic key expr =>
    cases d with
    | dynamic =>
      simp only [equalComponents?, both?_eq_true, equal?_iff_same] at h
      rw [eq_of_same_plain typed.1 typed'.1 h.1, eq_of_same_format (parts _ (.head _))
        (parts' _ (.head _)) typed.2 typed'.2 h.2]
    | _ => simp [equalComponents?] at h
  | request m path encode =>
    cases d with
    | request n =>
      obtain ⟨kp, b, rfl⟩ := typed
      obtain ⟨kq, e, rfl⟩ := typed'
      rw [equalComponents?] at h
      split at h
      next methods =>
        rw [both?_eq_true, equal?_iff_same, equal?_iff_same] at h
        rw [methods, eq_of_same_format (parts _ (.head _)) (parts' _ (.head _)) kp kq h.1,
          eq_of_same_bool h.2]
      next => cases h
    | _ => simp [equalComponents?] at h
  | _ => cases hk

theorem eq_of_same_element (hv : Built IsPlain v) (hw : Built IsPlain w) (kv : IsA .element v)
    (kw : IsA .element w) (h : v.same w) : v = w := by
  obtain ⟨c, rfl, hc⟩ := kv
  obtain ⟨d, rfl, hd⟩ := kw
  have parts := hv.parts
  have parts' := hw.parts
  have typed := hv.typed
  have typed' := hw.typed
  cases c <;> cases hc
  cases d <;> cases hd
  next tag sources content before after tag' sources' content' before' after' =>
    obtain ⟨ht, hs, hf, hb, ha⟩ := typed
    obtain ⟨ht', hs', hf', hb', ha'⟩ := typed'
    simp only [same_component, equalComponents?, both?_eq_true, equal?_iff_same, equalItems?_iff] at h
    obtain ⟨tags, attributes, contents, befores, afters⟩ := h
    have sourceBuilt : ∀ source ∈ sources, Built IsPlain source ∧ ∃ k, k.isAttribute ∧ IsA k source :=
      fun source hm => ⟨parts source (List.mem_append_left _ hm), hs source hm⟩
    have sourceBuilt' : ∀ source ∈ sources', Built IsPlain source ∧
        ∃ k, k.isAttribute ∧ IsA k source :=
      fun source hm => ⟨parts' source (List.mem_append_left _ hm), hs' source hm⟩
    rw [eq_of_same_orNull ht ht' tags, eq_of_same_plain hb hb' befores, eq_of_same_plain ha ha' afters,
      eq_of_same_all sourceBuilt sourceBuilt' (fun _ _ hv hw => eq_of_same_source hv.1 hw.1 hv.2)
        attributes,
      eq_of_same_builtOr (fun _ _ => eq_of_same_format)
        ⟨hf, fun part hp => parts part (List.mem_append_right _ hp)⟩
        ⟨hf', fun part hp => parts' part (List.mem_append_right _ hp)⟩ contents]

end Value

namespace Document

open Value (same_component equalItems?_iff equal?_iff_same both?_eq_true)

variable {v w : Value}

theorem mappingName?_of_same (hv : v.BuiltOr .mapping) (hw : w.BuiltOr .mapping) (h : v.same w) :
    mappingName? v = mappingName? w := by
  obtain ⟨rfl | ⟨c, rfl, hc⟩, bv⟩ := hv
  · rw [Value.eq_null_of_same (.inl h)]
  · obtain ⟨rfl | ⟨d, rfl, hd⟩, bw⟩ := hw
    · rw [Value.eq_null_of_same (.inr h)]
    · cases c <;> cases hc
      cases d <;> cases hd
      rw [same_component, Value.equalComponents?, both?_eq_true, equal?_iff_same] at h
      have named := Value.eq_of_same_plain (bv _ (.head _)).typed.1 (bw _ (.head _)).typed.1 h.1
      rw [mappingName?, mappingName?, named]

theorem schemaName_of_same (hv : Built IsPlain v) (hw : Built IsPlain w) (kv : IsA .schema v)
    (kw : IsA .schema w) (h : v.same w) : schemaName v = schemaName w := by
  obtain ⟨c, rfl, hc⟩ := kv
  obtain ⟨d, rfl, hd⟩ := kw
  cases c <;> cases hc
  cases d <;> cases hd
  simp only [same_component, Value.equalComponents?, both?_eq_true, equal?_iff_same] at h
  rw [schemaName, schemaName, Value.eq_of_same_orNull hv.typed.2.2.1 hw.typed.2.2.1 h.2.2]

theorem schemaName?_of_same (hv : v.BuiltOr .schema) (hw : w.BuiltOr .schema) (h : v.same w) :
    schemaName? v = schemaName? w := by
  obtain ⟨rfl | ⟨c, rfl, hc⟩, bv⟩ := hv
  · rw [Value.eq_null_of_same (.inl h)]
  · obtain ⟨rfl | ⟨d, rfl, hd⟩, bw⟩ := hw
    · rw [Value.eq_null_of_same (.inr h)]
    · exact congrArg some (schemaName_of_same (bv _ (.head _)) (bw _ (.head _)) ⟨c, rfl, hc⟩
        ⟨d, rfl, hd⟩ h)

theorem withPolicy_of_same (f : Field) (hv : Built IsPlain v) (hw : Built IsPlain w)
    (kv : ∃ k, k.isPolicy ∧ IsA k v) (h : v.same w) : f.withPolicy v = f.withPolicy w := by
  obtain ⟨k, hk, c, rfl, rfl⟩ := kv
  obtain ⟨d, rfl, typed', parts', -⟩ := hw.shape
  have typed := hv.typed
  have parts := hv.parts
  rw [same_component] at h
  cases c with
  | plain => cases d <;> simp [Value.equalComponents?] at h ⊢
  | optional default function =>
    cases d with
    | optional =>
      simp only [Value.equalComponents?, both?_eq_true, equal?_iff_same] at h
      rw [Field.withPolicy, Field.withPolicy, Value.eq_of_same_orNull typed.1 typed'.1 h.1,
        mappingName?_of_same ⟨typed.2, parts⟩ ⟨typed'.2, parts'⟩ h.2]
    | _ => simp [Value.equalComponents?] at h
  | map function =>
    cases d with
    | map =>
      have present {m : Value} (built : Built IsPlain m) : ∀ part ∈ m.present, Built IsPlain part :=
        fun part hp => (Value.mem_present.1 hp).2 ▸ built
      simp only [Value.equalComponents?, equal?_iff_same] at h
      rw [Field.withPolicy, Field.withPolicy, mappingName?_of_same
        ⟨.inr typed, present (parts _ (.head _))⟩ ⟨.inr typed', present (parts' _ (.head _))⟩ h]
    | _ => simp [Value.equalComponents?] at h
  | list item =>
    cases d with
    | list =>
      simp only [Value.equalComponents?, equal?_iff_same] at h
      rw [Field.withPolicy, Field.withPolicy, schemaName?_of_same ⟨typed, parts⟩ ⟨typed', parts'⟩ h]
    | _ => simp [Value.equalComponents?] at h
  | nest inner isOptional =>
    cases d with
    | nest =>
      obtain ⟨ks, b, rfl⟩ := typed
      obtain ⟨kt, e, rfl⟩ := typed'
      simp only [Value.equalComponents?, both?_eq_true, equal?_iff_same] at h
      rw [Field.withPolicy, Field.withPolicy, Value.eq_of_same_bool h.2,
        schemaName_of_same (parts _ (.head _)) (parts' _ (.head _)) ks kt h.1]
    | _ => simp [Value.equalComponents?] at h
  | _ => cases hk

theorem element_of_same (hv : v.BuiltOr .element) (hw : w.BuiltOr .element) (h : v.same w) :
    Element.of? v = Element.of? w := by
  rw [Value.eq_of_same_builtOr (fun _ _ => Value.eq_of_same_element) hv hw h]

theorem field_of_same (hv : Built IsPlain v) (hw : Built IsPlain w) (kv : IsA .field v)
    (kw : IsA .field w) (h : v.same w) : Field.of v = Field.of w := by
  obtain ⟨c, rfl, hc⟩ := kv
  obtain ⟨d, rfl, hd⟩ := kw
  have parts := hv.parts
  have parts' := hw.parts
  have typed := hv.typed
  have typed' := hw.typed
  cases c <;> cases hc
  cases d <;> cases hd
  simp only [same_component, Value.equalComponents?, both?_eq_true, equal?_iff_same] at h
  obtain ⟨names, policies, elements⟩ := h
  rw [Field.of, Field.of, Value.eq_of_same_plain typed.1 typed'.1 names,
    element_of_same ⟨typed.2.2, fun part hp => parts part (.tail _ hp)⟩
      ⟨typed'.2.2, fun part hp => parts' part (.tail _ hp)⟩ elements]
  exact withPolicy_of_same _ (parts _ (.head _)) (parts' _ (.head _)) typed.2.1 policies

theorem schema_of_same (hv : Built IsPlain v) (hw : Built IsPlain w) (kv : IsA .schema v)
    (kw : IsA .schema w) (h : v.same w) : Schema.of v = Schema.of w := by
  obtain ⟨c, rfl, hc⟩ := kv
  obtain ⟨d, rfl, hd⟩ := kw
  have parts := hv.parts
  have parts' := hw.parts
  have typed := hv.typed
  have typed' := hw.typed
  cases c <;> cases hc
  cases d <;> cases hd
  next fields wrapper name type fields' wrapper' name' type' =>
    simp only [same_component, Value.equalComponents?, both?_eq_true, equal?_iff_same,
      equalItems?_iff] at h
    obtain ⟨each, elements, -⟩ := h
    have built : ∀ f ∈ fields, Built IsPlain f ∧ IsA .field f := fun f hm =>
      ⟨parts f (List.mem_append_left _ hm), typed.1 f hm⟩
    have built' : ∀ f ∈ fields', Built IsPlain f ∧ IsA .field f := fun f hm =>
      ⟨parts' f (List.mem_append_left _ hm), typed'.1 f hm⟩
    have outlines : fields.map Field.of = fields'.map Field.of :=
      Value.map_eq_of_same built built' (fun _ _ hv hw => field_of_same hv.1 hw.1 hv.2 hw.2) each
    rw [Schema.of, Schema.of, outlines, element_of_same
      ⟨typed.2.1, fun part hp => parts part (List.mem_append_right _ hp)⟩
      ⟨typed'.2.1, fun part hp => parts' part (List.mem_append_right _ hp)⟩ elements]

end Document

end RecordMarkup

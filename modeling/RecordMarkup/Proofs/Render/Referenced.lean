import RecordMarkup.Proofs.Render.References

namespace RecordMarkup

/-- Failures that read the same. A lack of a slot may be that of different values, as long as the
message is the same. -/
inductive Failure.Alike : Failure → Failure → Prop
  | refl (f : Failure) : Alike f f
  | noAttribute {v w : Value} {name other : String}
      (h : (noAttribute v name).message = (noAttribute w other).message) :
      Alike (noAttribute v name) (noAttribute w other)

inductive Failure.AlikeResult : Except Failure α → Except Failure α → Prop
  | ok (a : α) : AlikeResult (.ok a) (.ok a)
  | error {f g : Failure} (h : Alike f g) : AlikeResult (.error f) (.error g)

namespace Eval

variable {α β : Type} {context : Context}

def Matches (a b : Eval α) (context : Context) : Prop :=
  ∀ state, Failure.AlikeResult (a.outcome context state).1 (b.outcome context state).1 ∧
    (a.outcome context state).2 = (b.outcome context state).2

theorem Matches.refl (a : Eval α) : a.Matches a context := by
  intro state
  refine ⟨?_, rfl⟩
  cases (a.outcome context state).1 with
  | ok r => exact .ok r
  | error f => exact .error (.refl f)

theorem Matches.bind {a b : Eval α} {f g : α → Eval β} (h : a.Matches b context)
    (hf : ∀ r, (f r).Matches (g r) context) : (a >>= f).Matches (b >>= g) context := by
  intro state
  obtain ⟨result, same⟩ := h state
  rw [outcome_bind, outcome_bind]
  generalize a.outcome context state = left at result same ⊢
  generalize b.outcome context state = right at result same ⊢
  obtain ⟨l, s⟩ := left
  obtain ⟨r, t⟩ := right
  obtain rfl : s = t := same
  cases result with
  | ok r => exact hf r s
  | error h => exact ⟨.error h, rfl⟩

theorem Matches.bind_right {a : Eval α} {f g : α → Eval β}
    (hf : ∀ r, (f r).Matches (g r) context) : (a >>= f).Matches (a >>= g) context :=
  .bind (.refl a) hf

theorem Matches.mapM {f g : α → Eval β} {xs : List α}
    (h : ∀ x ∈ xs, (f x).Matches (g x) context) : (xs.mapM f).Matches (xs.mapM g) context := by
  induction xs with
  | nil => exact .refl _
  | cons x xs ih =>
    rw [List.mapM_cons, List.mapM_cons]
    refine .bind (h x (.head _)) fun r => ?_
    exact .bind (ih fun y hy => h y (.tail _ hy)) fun _ => .refl _

end Eval

namespace Value

variable {α : Type} {context : Context} {f g : Value → Eval α}

theorem drain_matches (h : ∀ item, (f item).Matches (g item) context) (identity : Nat)
    (items : List Value) (bound : Nat) :
    (drain identity items f bound).Matches (drain identity items g bound) context := by
  induction bound with
  | zero => exact .refl _
  | succ bound ih =>
    refine .bind_right fun state => ?_
    split
    · exact .refl _
    · refine .bind_right fun _ => .bind (h _) fun _ => ?_
      exact .bind ih fun _ => .refl _

theorem forEach_matches (h : ∀ item, (f item).Matches (g item) context) (v : Value) :
    (v.forEach f).Matches (v.forEach g) context := by
  unfold forEach
  split
  · exact drain_matches h _ _ _
  · split
    · exact .mapM fun item _ => h item
    · exact .refl _

end Value

end RecordMarkup

namespace RecordMarkup.Value

variable {context : Context} {record other : Value}

/-- The records cannot be told apart under the names. -/
def AgreeOn (record other : Value) (context : Context) (names : List Value) : Prop :=
  ∀ name ∈ names, (record.field name).Matches (other.field name) context

theorem AgreeOn.subset {names others : List Value} (h : record.AgreeOn other context names)
    (hs : ∀ n ∈ others, n ∈ names) : record.AgreeOn other context others :=
  fun n hn => h n (hs n hn)

theorem evaluate_matches {format : Value} {extra : Nat} (hs : format.HasSlots extra)
    (h : record.AgreeOn other context format.args) (leading : List Value) :
    (format.evaluate record leading).Matches (format.evaluate other leading) context := by
  obtain ⟨template, args, rfl⟩ := hs.format
  exact .bind (.mapM h) fun _ => .refl _

theorem renderDynamic_matches {key expr : Value} (hv : Component.Valid (.dynamic key expr))
    (h : record.AgreeOn other context expr.args) :
    ((component (.dynamic key expr)).renderDynamic record).Matches
      ((component (.dynamic key expr)).renderDynamic other) context := by
  refine .bind_right fun _ => ?_
  rw [slot_dynamic_expr, pure_bind, pure_bind]
  exact .bind (evaluate_matches hv.2 h []) fun _ => .refl _

theorem renderRequest_matches {m : Method} {path encode : Value}
    (hv : Component.Valid (.request m path encode)) (h : record.AgreeOn other context path.args) :
    ((component (.request m path encode)).renderRequest record).Matches
      ((component (.request m path encode)).renderRequest other) context := by
  simp only [renderRequest, slot_request_path, pure_bind, args_slot hv.1, forEach_tuple]
  exact .bind (.mapM h) fun _ => .refl _

theorem renderAttribute_matches {c : Component Value} (hk : c.kind.isAttribute) (hv : c.Valid)
    (h : record.AgreeOn other context (component c).attributeArgs) :
    ((component c).renderAttribute c.kind record).Matches
      ((component c).renderAttribute c.kind other) context := by
  cases c with
  | static key value => exact .refl _
  | dynamic key expr => exact renderDynamic_matches hv h
  | requestAttr key value => exact .refl _
  | request m path encode => exact renderRequest_matches hv h
  | _ => simp [Component.kind, Kind.isAttribute] at hk

theorem renderKind_matches {sources : List Value} (hs : ∀ source ∈ sources, source.IsSource)
    (h : record.AgreeOn other context (sources.flatMap attributeArgs)) (kind : Kind) :
    (renderKind sources record kind).Matches (renderKind sources other kind) context := by
  refine .bind (.mapM fun source hm => ?_) fun _ => .refl _
  obtain ⟨c, rfl, hk, hv⟩ := hs source hm
  rw [slot_kind, pure_bind, pure_bind, isKind_tag]
  split
  next same =>
    obtain rfl := of_decide_eq_true same
    exact renderAttribute_matches hk hv (h.subset fun n hn => List.mem_flatMap.2 ⟨_, hm, hn⟩)
  next => exact .refl _

theorem renderAttributes_matches {sources : List Value} (hs : ∀ source ∈ sources, source.IsSource)
    (h : record.AgreeOn other context (sources.flatMap attributeArgs)) :
    ((tuple sources).renderAttributes record).Matches ((tuple sources).renderAttributes other)
      context := by
  rw [renderAttributes, renderAttributes, elements_tuple, pure_bind, pure_bind]
  exact .bind (.mapM fun kind _ => renderKind_matches hs h kind) fun _ => .refl _

section Element

variable {element : Value}

theorem openTag_matches (he : element.IsElement)
    (h : record.AgreeOn other context element.elementArgs) :
    (element.openTag record).Matches (element.openTag other) context := by
  obtain ⟨sources, -, -⟩ := he
  simp only [openTag]
  split
  next => exact .refl _
  next =>
    have attributes := renderAttributes_matches sources
      (h.subset fun n hn => List.mem_append_left _ hn)
    exact attributes.bind fun _ => .refl _

theorem wrap_matches (he : element.IsElement)
    (h : record.AgreeOn other context element.elementArgs) (inner : Value) :
    (element.wrap record inner).Matches (element.wrap other inner) context :=
  (openTag_matches he h).bind fun _ => .refl _

theorem renderContent_matches (he : element.IsElement)
    (hc : element.content ≠ null → element.content.HasSlots 1)
    (h : record.AgreeOn other context element.elementArgs) (v : Value) :
    (element.renderContent record v).Matches (element.renderContent other v) context := by
  obtain ⟨sources, -, -⟩ := he
  simp only [renderContent]
  split
  next => exact .refl _
  next hn =>
    have slots := hc fun h => hn (isNull_iff.2 h)
    exact evaluate_matches slots (h.subset fun n hm => List.mem_append_right _ hm) [v]

theorem recordStart_matches (he : OrNull IsElement element)
    (h : record.AgreeOn other context element.elementArgs) :
    (element.recordStart record).Matches (element.recordStart other) context := by
  unfold recordStart
  obtain rfl | he := he
  · exact .refl _
  · split
    next => exact .refl _
    next => exact (openTag_matches he h).bind fun _ => .refl _

end Element

section Field

variable {name policy wrapper : Value} {c : Component Value} {render : Value → Value → Eval String}

theorem renderElement_matches (hw : OrNull IsElement wrapper)
    (hc : wrapper.content ≠ null → wrapper.content.HasSlots 1)
    (h : record.AgreeOn other context wrapper.elementArgs) (v : Value) :
    ((component (.field name policy wrapper)).renderElement record v).Matches
      ((component (.field name policy wrapper)).renderElement other v) context := by
  obtain ⟨e, he, element, hargs, hcontent⟩ := fieldElement_eq name policy hw
  rw [← hargs] at h
  rw [← hcontent] at hc
  rw [renderElement, renderElement, he, pure_bind, pure_bind]
  exact (renderContent_matches element hc h v).bind fun _ => wrap_matches element h _

theorem renderByKind_matches (hk : c.kind.isPolicy) (hw : OrNull IsElement wrapper)
    (hc : wrapper.content ≠ null → wrapper.content.HasSlots 1)
    (h : record.AgreeOn other context wrapper.elementArgs) (v : Value) :
    (renderByKind render (component (.field name policy wrapper)) (component c) record v
      c.kind).Matches
        (renderByKind render (component (.field name policy wrapper)) (component c) other v c.kind)
        context := by
  have shown (w : Value) : ((component (.field name policy wrapper)).renderElement record w).Matches
      ((component (.field name policy wrapper)).renderElement other w) context :=
    renderElement_matches hw hc h w
  obtain ⟨e, he, element, hargs, -⟩ := fieldElement_eq name policy hw
  have wrapped := wrap_matches element (hargs ▸ h)
  cases c with
  | plain => exact shown v
  | optional default function =>
    simp only [Component.kind, renderByKind, renderOptional]
    split
    next =>
      refine .bind_right fun w => ?_
      split
      next => exact .refl _
      next => exact shown w
    next =>
      refine .bind_right fun function => ?_
      split
      next => exact shown v
      next => exact .bind_right fun w => shown w
  | map function => exact .bind_right fun _ => .bind_right fun w => shown w
  | list item =>
    simp only [Component.kind, renderByKind, renderList, he, pure_bind]
    refine .bind_right fun nested => ?_
    split
    next => exact (forEach_matches shown _).bind fun _ => .refl _
    next =>
      refine .bind_right fun _ => .bind_right fun _ => .bind_right fun _ => .bind_right fun _ => ?_
      exact .bind_right fun texts => wrapped _
  | nest inner isOptional =>
    simp only [Component.kind, renderByKind, renderNest, he, pure_bind]
    refine .bind_right fun skipped => ?_
    split
    next => exact .refl _
    next =>
      refine .bind_right fun _ => .bind_right fun _ => .bind_right fun _ => .bind_right fun _ => ?_
      exact .bind_right fun texts => wrapped _
  | _ => simp [Component.kind, Kind.isPolicy] at hk

theorem renderFieldWith_matches {field : Value} (ha : Accepted field) (hk : IsA .field field)
    (h : record.AgreeOn other context field.fieldArgs) :
    (renderFieldWith render field record).Matches (renderFieldWith render field other) context := by
  obtain ⟨c, rfl, hk⟩ := hk
  cases c <;> cases hk
  next name policy wrapper =>
    obtain ⟨⟨k, hk, c, rfl, rfl⟩, hw⟩ := ha.holds
    have element := Accepted.isElement (fun part hp => ha.parts part (.tail _ hp)) hw
    rw [renderFieldWith_eq hk, renderFieldWith_eq hk]
    refine .bind (h name (.head _)) fun v => ?_
    exact renderByKind_matches hk element (fun hc => (ha.valid.2.2 hc).2)
      (h.subset fun n hn => .tail _ hn) v

end Field

theorem renderWith_matches {schema : Value} {render : Value → Value → Eval String}
    (ha : Accepted schema) (hk : IsA .schema schema)
    (h : record.AgreeOn other context schema.references) :
    (renderWith render schema record).Matches (renderWith render schema other) context := by
  obtain ⟨c, rfl, hk⟩ := hk
  cases c <;> cases hk
  next fields wrapper name type =>
    have element := Accepted.isElement (fun part hp => ha.parts part (List.mem_append_right _ hp))
      ha.holds.2
    simp only [renderWith, slot_schema_fields, slot_schema_element, forEach_tuple, pure_bind]
    refine .bind (recordStart_matches element (h.subset fun n hn => List.mem_append_left _ hn))
      fun _ => .bind (.mapM fun f hf => ?_) fun _ => .refl _
    exact renderFieldWith_matches (ha.parts f (List.mem_append_left _ hf)) (ha.holds.1 f hf)
      (h.subset fun n hn => List.mem_append_right _ (List.mem_flatMap.2 ⟨f, hf, hn⟩))

theorem AgreeOn.references {schema : Value} (ha : Accepted schema)
    (h : record.AgreeOn other context (distinct [] schema.references)) :
    record.AgreeOn other context schema.references := by
  intro n hn
  obtain ⟨kept, hm, same⟩ := exists_mem_distinct ha.references_text n hn
  obtain ⟨s, hs⟩ := Option.isSome_iff_exists.1 (ha.references_text n hn)
  have alike (r : Value) : r.field n = r.field kept := field_congr hs (same.trans hs)
  rw [alike record, alike other]
  exact h kept hm

/-- Rendering looks at nothing of a record but the fields under the names that validation collects. -/
theorem render_referenced {schema : Value} (ha : Accepted schema) (hk : IsA .schema schema) :
    ∃ names, schema.referencedNames = pure names ∧ ∀ context record other,
      (∀ name ∈ names, (record.field name).Matches (other.field name) context) →
        (render schema record).Matches (render schema other) context := by
  refine ⟨_, referencedNames_eq ha hk, fun context record other h => ?_⟩
  rw [render_eq, render_eq]
  exact renderWith_matches ha hk (.references ha h)

theorem render_referenced_roles :
    let expr := component (.format (text "{}") [text "role"])
    let wrapper := component (.element (text "li") [component (.dynamic (text "title") expr)] null
      (text "") (text ""))
    let field := component (.field (text "name") (component .plain) wrapper)
    (render (component (.schema [field] null null null))
      (dict [("age", int 36), ("role", text "admin"), ("name", text "Ada")])).Matches
        (render (component (.schema [field] null null null))
          (Value.record 1 [("name", text "Ada"), ("role", text "admin")])) { mappings := fun _ v => .ok v } := by
  intro expr wrapper field
  let context : Context := { mappings := fun _ v => .ok v }
  have parsed : Template.parse "{}" = .ok [.slot ⟨' ', .left, 0, none⟩] := by
    with_unfolding_all rfl
  have format : Built (·.isText) expr :=
    Component.built_of_valid (fun _ h => h) ⟨rfl, by simp [isText, text?]⟩
      (by simp [Component.parts]) rfl ⟨⟨_, _, rfl, parsed⟩, List.forall_mem_singleton.2 rfl⟩
  have dynamic : Built (·.isText) (component (.dynamic (text "title") expr)) :=
    Component.built_of_valid (fun _ h => h) ⟨rfl, ⟨_, rfl, rfl⟩⟩ (by simpa [Component.parts]) rfl
      ⟨rfl, ⟨_, _, rfl, parsed, rfl⟩⟩
  have element : Built (·.isText) wrapper :=
    Component.built_of_valid (fun _ h => h)
      ⟨.inr rfl, by simp [Component.kind, Kind.isAttribute], .inl rfl, rfl, rfl⟩
      (by simpa [Component.parts]) rfl
      ⟨.inr rfl, by simp [hasKind_component, Component.kind], by simp, rfl, rfl⟩
  have plain : Built (·.isText) (component .plain) :=
    .of_construct context {} trivial (by simp [Component.parts]) rfl
  have named : Built (·.isText) field :=
    .of_construct context {} ⟨rfl, ⟨.plain, rfl, _, rfl, rfl⟩, .inr ⟨_, rfl, rfl⟩⟩
      (by simpa [Component.parts, wrapper] using ⟨plain, element⟩) rfl
  have built : Built (·.isText) (component (.schema [field] null null null)) :=
    .of_construct context {} ⟨by simp [field, Component.kind], .inl rfl, .inl rfl, .inl rfl⟩
      (by simpa [Component.parts]) rfl
  obtain ⟨names, collected, alike⟩ := render_referenced built.accepted ⟨_, rfl, rfl⟩
  refine alike context _ _ fun name hn => ?_
  have known : names = distinct [] (component (.schema [field] null null null)).references :=
    Eval.pure_inj (collected.symm.trans (referencedNames_eq built.accepted ⟨_, rfl, rfl⟩))
  have read : name ∈ [text "name", text "role"] := distinct_subset name (known ▸ hn)
  simp only [List.mem_cons, List.not_mem_nil, or_false] at read
  obtain rfl | rfl := read <;> exact .refl _

end RecordMarkup.Value

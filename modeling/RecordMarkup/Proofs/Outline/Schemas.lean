import RecordMarkup.Proofs.Document.Schemas
import RecordMarkup.Proofs.Outline.Elements

namespace RecordMarkup

def Component.around (inner : Value) : Component Value → Component Value
  | list item => list (if item.isNull then .null else inner)
  | nest _ isOptional => nest inner isOptional
  | c => c

namespace Document

open Value (IsA OrNull IsPlain)

def mappingName? : Value → Option String
  | .component (.mapping name _) => some name.string
  | _ => none

def schemaName : Value → String
  | .component (.schema _ _ name _) => name.string
  | _ => ""

def schemaName? (v : Value) : Option String := if v.isNull then none else some (schemaName v)

def Field.withPolicy (f : Field) : Value → Field
  | .component (.optional default function) =>
    { f with optional := true, default := default.text?, map := mappingName? function }
  | .component (.map function) => { f with map := mappingName? function }
  | .component (.list item) => { f with list := true, nest := schemaName? item }
  | .component (.nest inner isOptional) =>
    { f with optional := isOptional.truthy, nest := some (schemaName inner) }
  | _ => f

def Field.of : Value → Field
  | .component (.field name policy wrapper) =>
    Field.withPolicy { name := name.string, element := Element.of? wrapper } policy
  | _ => { name := "" }

def Schema.of : Value → Schema
  | .component (.schema fields wrapper _ _) =>
    { element := Element.of? wrapper, fields := fields.map Field.of }
  | _ => {}

def Mapped (mappers : List (String × Value)) (v : Value) : Prop :=
  ∀ name function, .component (.mapping (.text name) function) ∈ v.within →
    mappers.lookup name = some function

/-- Every schema has a name that is not empty. -/
def Named (v : Value) : Prop := ∀ s ∈ v.within, IsA .schema s → schemaName s ≠ ""

/-- In no element do two attributes of a kind share a key. -/
def Keyed (v : Value) : Prop :=
  ∀ tag attributes content before after,
    .component (.element tag attributes content before after) ∈ v.within →
      Value.DistinctKeys attributes

variable {mappers : List (String × Value)}

theorem Mapped.mono {v w : Value} (h : Mapped mappers v) (hw : ∀ u ∈ w.within, u ∈ v.within) :
    Mapped mappers w := fun name function hu => h name function (hw _ hu)

theorem Named.mono {v w : Value} (h : Named v) (hw : ∀ u ∈ w.within, u ∈ v.within) : Named w :=
  fun s hs => h s (hw s hs)

theorem Keyed.mono {v w : Value} (h : Keyed v) (hw : ∀ u ∈ w.within, u ∈ v.within) : Keyed w :=
  fun tag attributes content before after hu => h tag attributes content before after (hw _ hu)

theorem elementValue_of {wrapper : Value} (hb : ∀ part ∈ wrapper.present, Built IsPlain part)
    (hw : OrNull (IsA .element) wrapper) : ElementSound (Element.of? wrapper) ∧
      wrapper.Regrouped (elementValue (Element.of? wrapper)) := by
  obtain rfl | hk := hw
  · exact ⟨by simp [ElementSound, Element.of?], .null⟩
  · obtain ⟨c, rfl, hc⟩ := hk
    obtain ⟨e, he, sound, regrouped⟩ := Element.of?_spec (hb _ (by simp)) ⟨c, rfl, hc⟩
    rw [he]
    exact ⟨fun spec hs => Option.some.inj hs ▸ sound, regrouped⟩

theorem element_writable {wrapper : Value} (hb : ∀ part ∈ wrapper.present, Built IsPlain part)
    (hk : Keyed wrapper) : ∀ e, Element.of? wrapper = some e → e.Writable := by
  intro e he
  unfold Element.of? at he
  split at he
  next tag attributes content before after =>
    obtain rfl := Option.some.inj he
    exact Element.of_writable (hb _ (by simp))
      (hk tag attributes content before after (Value.mem_within_self _))
  next => simp at he

namespace Field

theorem mapping_of {f : Field} {function : Value} (hf : f.map = mappingName? function)
    (hb : ∀ part ∈ function.present, Built IsPlain part) (hk : OrNull (IsA .mapping) function)
    (hm : Mapped mappers function) : f.mapping mappers = function ∧ f.Known mappers ∧
      ((given? f.map).isSome ↔ function ≠ .null) := by
  obtain rfl | ⟨c, rfl, hc⟩ := hk
  · have none : given? f.map = none := by rw [hf]; rfl
    exact ⟨by rw [mapping, none], by simp [Known, none], by simp [none]⟩
  · have built : Built IsPlain (.component c) := hb _ (by simp)
    have valid : c.Valid := built.valid fun _ => IsPlain.isText
    cases c with
    | mapping name function =>
      obtain ⟨⟨s, rfl⟩, -⟩ := built.typed
      have found : mappers.lookup s = some function := hm s function (Value.mem_within_self _)
      have named : s ≠ "" := by
        rintro rfl
        exact absurd valid.1 (by decide)
      have given : given? f.map = some s := by
        rw [hf]
        exact given?_of_ne named
      have same : mappingComponent mappers s = .mapping (.text s) function := by
        rw [mappingComponent, found]
        rfl
      refine ⟨by rw [mapping, given, ← same], fun name h => ?_, by simp [given, Value.component_ne_null]⟩
      obtain rfl := Option.some.inj (given.symm.trans h)
      exact ⟨by simp [found], same ▸ valid⟩
    | _ => simp [Component.kind] at hc

section Policy

variable {f : Field} {c : Component Value}

def IsBare (f : Field) : Prop :=
  f.optional = false ∧ f.default = none ∧ f.map = none ∧ f.list = false ∧ f.nest = none

theorem withPolicy_name (f : Field) (policy : Value) : (f.withPolicy policy).name = f.name := by
  unfold withPolicy
  split <;> rfl

theorem withPolicy_element (f : Field) (policy : Value) :
    (f.withPolicy policy).element = f.element := by
  unfold withPolicy
  split <;> rfl

theorem inner?_mem {str : Value → Prop} {t : Value} (hb : Built str (.component c))
    (ht : (Value.component c).inner? = some t) : t ∈ c.parts ∧ IsA .schema t := by
  have typed := hb.typed
  cases c with
  | list item =>
    obtain rfl | ⟨d, rfl, hs⟩ := typed
    · simp [Value.inner?, Value.isNull] at ht
    · obtain rfl : Value.component d = t := by simpa [Value.inner?, Value.isNull] using ht
      exact ⟨by simp [Component.parts], d, rfl, hs⟩
  | nest inner isOptional =>
    obtain rfl := Option.some.inj ht
    exact ⟨.head _, typed.1⟩
  | _ => simp [Value.inner?] at ht

theorem schemaName_ne {str : Value → Prop} {t : Value} (hb : Built str (.component c))
    (hn : Named (.component c)) (ht : (Value.component c).inner? = some t) : schemaName t ≠ "" := by
  obtain ⟨hp, hs⟩ := inner?_mem hb ht
  exact hn t (hb.part_mem (Value.mem_within_self c) hp) hs

theorem withPolicy_nest (hf : f.IsBare) (hb : Built IsPlain (.component c))
    (hn : Named (.component c)) :
    given? (f.withPolicy (.component c)).nest = (Value.component c).inner?.map schemaName := by
  obtain ⟨-, -, -, -, bare⟩ := hf
  have named : ∀ t, (Value.component c).inner? = some t → schemaName t ≠ "" := fun _ =>
    schemaName_ne hb hn
  cases c with
  | list item =>
    cases hi : item.isNull with
    | true => simp [withPolicy, schemaName?, Value.inner?, hi, given?]
    | false =>
      have given := given?_of_ne (named item (by simp [Value.inner?, hi]))
      simp [withPolicy, schemaName?, Value.inner?, hi, given]
  | nest inner isOptional => exact given?_of_ne (named inner rfl)
  | _ => simp [withPolicy, bare, given?, Value.inner?]

theorem policy_withPolicy (hf : f.IsBare) (hb : Built IsPlain (.component c)) (hc : c.kind.isPolicy)
    (hm : Mapped mappers (.component c)) (hn : Named (.component c)) (inner : Value) :
    (f.withPolicy (.component c)).policy mappers inner = c.around inner := by
  have nest := withPolicy_nest hf hb hn
  have typed := hb.typed
  have parts := hb.parts
  obtain ⟨ho, hd, hmap, hl, bare⟩ := hf
  cases c with
  | optional default function =>
    have same := (mapping_of (f := f.withPolicy (.component (.optional default function))) rfl parts
      typed.2 (hm.mono fun _ => .tail _)).1
    rw [policy, same, nest]
    simp [withPolicy, hl, Value.inner?, Component.around, Value.textOrNull_text? typed.1]
  | map function =>
    obtain ⟨d, rfl, -⟩ := id typed
    obtain ⟨same, -, given⟩ := mapping_of (f := f.withPolicy (.component (.map (.component d)))) rfl
      parts (.inr typed) (hm.mono fun _ => .tail _)
    rw [policy, same, nest, if_pos (given.2 (Value.component_ne_null d))]
    simp [withPolicy, hl, ho, Value.inner?, Component.around]
  | list item =>
    rw [policy, nest]
    cases hi : item.isNull <;> simp [withPolicy, Value.inner?, Component.around, hi]
  | nest held isOptional =>
    obtain ⟨-, b, rfl⟩ := typed
    rw [policy, nest]
    simp [withPolicy, hl, Value.inner?, Component.around, Value.truthy]
  | plain =>
    rw [policy, nest]
    simp [withPolicy, hl, ho, hmap, given?, Value.inner?, Component.around]
  | _ => simp [Component.kind, Kind.isPolicy] at hc

theorem withPolicy_sound (hf : f.IsBare) (hb : Built IsPlain (.component c)) (hc : c.kind.isPolicy)
    (hm : Mapped mappers (.component c)) (hn : Named (.component c)) :
    (f.withPolicy (.component c)).PolicySound mappers := by
  have nest := withPolicy_nest hf hb hn
  have same := policy_withPolicy hf hb hc hm hn .null
  have typed := hb.typed
  have parts := hb.parts
  have valid : c.Valid := hb.valid fun _ => IsPlain.isText
  obtain ⟨ho, hd, hmap, hl, bare⟩ := hf
  cases c with
  | optional default function =>
    have known := (mapping_of (f := f.withPolicy (.component (.optional default function))) rfl parts
      typed.2 (hm.mono fun _ => .tail _)).2.1
    refine ⟨?_, known, same ▸ valid⟩
    rw [Coherent, nest]
    simp [withPolicy, hl, Value.inner?]
  | map function =>
    obtain ⟨e, rfl, -⟩ := id typed
    have known := (mapping_of (f := f.withPolicy (.component (.map (.component e)))) rfl parts
      (.inr typed) (hm.mono fun _ => .tail _)).2.1
    refine ⟨?_, known, same ▸ valid⟩
    rw [Coherent, nest]
    simp [withPolicy, hd, hl, Value.inner?]
  | list item =>
    refine ⟨?_, known_of_map hmap, same ▸ valid⟩
    simp [Coherent, withPolicy, ho, hd, hmap]
  | nest inner isOptional =>
    refine ⟨?_, known_of_map hmap, same ▸ valid⟩
    rw [Coherent, nest]
    simp [withPolicy, hd, hl, hmap, Value.inner?]
  | plain =>
    refine ⟨?_, known_of_map hmap, same ▸ valid⟩
    rw [Coherent, nest]
    simp [withPolicy, hd, hl, Value.inner?]
  | _ => simp [Component.kind, Kind.isPolicy] at hc

theorem alike_around {inner : Value} (hc : c.kind.isPolicy)
    (hi : ∀ t, (Value.component c).inner? = some t → t.Alike inner) :
    Value.AlikePolicy c (c.around inner) := by
  cases c with
  | list item =>
    cases hn : item.isNull with
    | true =>
      obtain rfl := Value.isNull_iff.1 hn
      exact .same hc
    | false =>
      rw [Component.around, if_neg (by simp [hn])]
      exact .list (hi item (by simp [Value.inner?, hn]))
  | nest held isOptional => exact .nest (hi held rfl) isOptional
  | _ => exact .same hc

theorem flat_of_withPolicy (hf : f.IsBare) (hb : Built IsPlain (.component c))
    (hn : Named (.component c)) (hl : (f.withPolicy (.component c)).list)
    (hg : given? (f.withPolicy (.component c)).nest = none) : (Value.component c).IsFlat := by
  rw [withPolicy_nest hf hb hn, Option.map_eq_none_iff] at hg
  obtain ⟨-, -, -, bare, -⟩ := hf
  cases c with
  | list item =>
    have hi : item.isNull := by simpa [Value.inner?] using hg
    rw [Value.isNull_iff.1 hi]
    rfl
  | _ => simp [withPolicy, bare] at hl

end Policy

theorem inv_of_built {field : Value} (hb : Built IsPlain field) (hk : IsA .field field) :
    ∃ name c wrapper, field = .component (.field (.text name) (.component c) wrapper) ∧
      c.kind.isPolicy ∧ Built IsPlain (.component c) ∧ OrNull (IsA .element) wrapper ∧
        (∀ part ∈ wrapper.present, Built IsPlain part) ∧
          Component.Valid (.field (.text name) (.component c) wrapper) := by
  obtain ⟨c, rfl, typed, valid, parts⟩ := hb.inv fun _ => IsPlain.isText
  cases c with
  | field name policy wrapper =>
    obtain ⟨⟨s, rfl⟩, ⟨k, hk, c, rfl, rfl⟩, hw⟩ := typed
    exact ⟨s, c, wrapper, rfl, hk, parts _ (.head _), hw, fun part hp => parts part (.tail _ hp),
      valid⟩
  | _ => simp [Component.kind] at hk

theorem of_field (name : String) (policy wrapper : Value) :
    of (.component (.field (.text name) policy wrapper)) =
      withPolicy { name, element := Element.of? wrapper } policy := rfl

theorem policy_within {c : Component Value} {name wrapper u : Value}
    (hu : u ∈ (Value.component c).within) :
    u ∈ (Value.component (.field name (.component c) wrapper)).within :=
  Value.mem_within_component.2 (.inr ⟨_, .head _, hu⟩)

theorem of_sound {field : Value} (hb : Built IsPlain field) (hk : IsA .field field)
    (hm : Mapped mappers field) (hn : Named field) : (of field).Sound mappers := by
  obtain ⟨name, c, wrapper, rfl, hc, built, hw, parts, named, tagged, content⟩ := inv_of_built hb hk
  have hm := hm.mono fun _ => policy_within
  have hn := hn.mono fun _ => policy_within
  obtain ⟨element, regrouped⟩ := elementValue_of parts hw
  have bare : IsBare { name, element := Element.of? wrapper } := ⟨rfl, rfl, rfl, rfl, rfl⟩
  refine ⟨withPolicy_sound bare built hc hm hn, ?_, fun inner hi => ⟨?_, fun flat => ?_, fun h => ?_⟩⟩
  · rw [of_field, withPolicy_element]
    exact element
  · rw [of_field, withPolicy_name]
    exact named
  · obtain ⟨hl, hg⟩ := (policy_isFlat hi).1 flat
    rw [of_field, withPolicy_element]
    exact regrouped.isTagged.1 (tagged (flat_of_withPolicy bare built hn hl hg))
  · rw [of_field, withPolicy_element, ← regrouped.content] at h ⊢
    obtain ⟨unnested, slots⟩ := content h
    have nest := withPolicy_nest bare built hn
    rw [unnested] at nest
    exact ⟨(policy_inner hi).trans (Option.map_eq_none_iff.2 nest), slots⟩

theorem nameText?_of {field : Value} (hb : Built IsPlain field) (hk : IsA .field field) :
    field.nameText? = some (of field).name := by
  obtain ⟨name, c, wrapper, rfl, -⟩ := inv_of_built hb hk
  rw [of_field, withPolicy_name]
  rfl

theorem mem_nest_of {field : Value} {n : String} (hb : Built IsPlain field) (hk : IsA .field field)
    (hn : Named field) (h : given? (of field).nest = some n) :
    ∃ t ∈ field.within, IsA .schema t ∧ schemaName t = n := by
  obtain ⟨name, c, wrapper, rfl, hc, built, -⟩ := inv_of_built hb hk
  rw [of_field, withPolicy_nest ⟨rfl, rfl, rfl, rfl, rfl⟩ built (hn.mono fun _ => policy_within)] at h
  obtain ⟨t, ht, rfl⟩ := Option.map_eq_some_iff.1 h
  obtain ⟨hp, hs⟩ := inner?_mem built ht
  exact ⟨t, policy_within (built.part_mem (Value.mem_within_self c) hp), hs, rfl⟩

theorem alike_of {field : Value} {inner : String → Value} (hb : Built IsPlain field)
    (hk : IsA .field field) (hm : Mapped mappers field) (hn : Named field)
    (hi : ∀ t ∈ field.within, IsA .schema t → t.Alike (inner (schemaName t))) :
    Value.AlikeField field ((of field).value mappers ((of field).named inner)) := by
  obtain ⟨name, c, wrapper, rfl, hc, built, hw, parts, -⟩ := inv_of_built hb hk
  have hm := hm.mono fun _ => policy_within
  have hn := hn.mono fun _ => policy_within
  have bare : IsBare { name, element := Element.of? wrapper } := ⟨rfl, rfl, rfl, rfl, rfl⟩
  have nest := withPolicy_nest bare built hn
  rw [value, component, of_field, withPolicy_element, withPolicy_name,
    policy_withPolicy bare built hc hm hn]
  refine .intro _ (alike_around hc fun t ht => ?_) (elementValue_of parts hw).2
  obtain ⟨hp, hs⟩ := inner?_mem built ht
  have alike := hi t (policy_within (built.part_mem (Value.mem_within_self c) hp)) hs
  rw [Field.named, nest, ht]
  exact alike

end Field

namespace Schema

variable {schema : Value}

theorem inv_of_built (hb : Built IsPlain schema) (hk : IsA .schema schema) :
    ∃ fields wrapper name type, schema = .component (.schema fields wrapper name type) ∧
      (∀ f ∈ fields, Built IsPlain f ∧ IsA .field f) ∧ OrNull (IsA .element) wrapper ∧
        (∀ part ∈ wrapper.present, Built IsPlain part) ∧ OrNull IsPlain name ∧
          Component.Valid (.schema fields wrapper name type) := by
  obtain ⟨c, rfl, typed, valid, parts⟩ := hb.inv fun _ => IsPlain.isText
  cases c with
  | schema fields wrapper name type =>
    obtain ⟨hf, hw, hname, -⟩ := typed
    exact ⟨fields, wrapper, name, type, rfl,
      fun f hm => ⟨parts f (List.mem_append_left _ hm), hf f hm⟩, hw,
      fun part hp => parts part (List.mem_append_right _ hp), hname, valid⟩
  | _ => simp [Component.kind] at hk

theorem fields_within {fields : List Value} {f wrapper name type u : Value} (hf : f ∈ fields)
    (hu : u ∈ f.within) : u ∈ (Value.component (.schema fields wrapper name type)).within :=
  Value.mem_within_component.2 (.inr ⟨f, List.mem_append_left _ hf, hu⟩)

theorem of_sound (hb : Built IsPlain schema) (hk : IsA .schema schema) (hm : Mapped mappers schema)
    (hn : Named schema) : (of schema).Sound mappers := by
  obtain ⟨fields, wrapper, name, type, rfl, hf, hw, parts, -, content, names⟩ := inv_of_built hb hk
  obtain ⟨element, regrouped⟩ := elementValue_of parts hw
  refine ⟨fun f hm' => ?_, element, regrouped.content.symm.trans content, ?_⟩
  · obtain ⟨field, hmem, rfl⟩ := List.mem_map.1 hm'
    obtain ⟨built, kind⟩ := hf field hmem
    exact Field.of_sound built kind (hm.mono fun _ => fields_within hmem)
      (hn.mono fun _ => fields_within hmem)
  · have same : fields.map Value.nameText? = ((fields.map Field.of).map Field.name).map some := by
      rw [List.map_map, List.map_map]
      exact List.map_congr_left fun f hm => Field.nameText?_of (hf f hm).1 (hf f hm).2
    rw [same] at names
    exact List.Pairwise.of_map some (fun _ _ h he => h (congrArg some he)) names

section

variable {fields : List Value} {wrapper name type : Value}
  (hb : Built IsPlain (.component (.schema fields wrapper name type)))
include hb

theorem of_writable (hk : Keyed (.component (.schema fields wrapper name type))) :
    (of (.component (.schema fields wrapper name type))).Writable := by
  obtain ⟨_, _, _, _, he, hf, -, parts, -⟩ := inv_of_built hb ⟨_, rfl, rfl⟩
  cases he
  refine ⟨element_writable parts (hk.mono fun u hu => .tail _ (List.mem_append_right _ hu)),
    fun f hm => ?_⟩
  obtain ⟨field, hmem, rfl⟩ := List.mem_map.1 hm
  obtain ⟨built, kind⟩ := hf field hmem
  obtain ⟨fieldName, c, other, rfl, -, -, -, parts, -⟩ := Field.inv_of_built built kind
  rw [Field.of_field, Field.withPolicy_element]
  exact element_writable parts (hk.mono fun u hu =>
    fields_within hmem (.tail _ (List.mem_append_right _ hu)))

theorem mem_references_of {n : String} (hn : Named (.component (.schema fields wrapper name type)))
    (h : n ∈ (of (.component (.schema fields wrapper name type))).references) :
    ∃ f ∈ fields, ∃ t ∈ f.within, IsA .schema t ∧ schemaName t = n := by
  obtain ⟨_, _, _, _, he, hf, -⟩ := inv_of_built hb ⟨_, rfl, rfl⟩
  cases he
  obtain ⟨f, hm, hg⟩ := mem_references.1 h
  obtain ⟨field, hmem, rfl⟩ := List.mem_map.1 hm
  obtain ⟨built, kind⟩ := hf field hmem
  exact ⟨field, hmem, Field.mem_nest_of built kind (hn.mono fun _ => fields_within hmem) hg⟩

/-- What the document stands for renders like the schema, if what it names renders like the schemas
that its fields go through. -/
theorem alike_of {inner : String → Value}
    (hm : Mapped mappers (.component (.schema fields wrapper name type)))
    (hn : Named (.component (.schema fields wrapper name type)))
    (hi : ∀ f ∈ fields, ∀ t ∈ f.within, IsA .schema t → t.Alike (inner (schemaName t))) :
    (Value.component (.schema fields wrapper name type)).Alike
      ((of (.component (.schema fields wrapper name type))).value mappers inner name.string) := by
  obtain ⟨_, _, _, _, he, hf, hw, parts, hname, -⟩ := inv_of_built hb ⟨_, rfl, rfl⟩
  cases he
  have named : name.string ≠ "" := hn _ (Value.mem_within_self _) ⟨_, rfl, rfl⟩
  have each : List.Forall₂ Value.AlikeField fields
      ((fields.map Field.of).map fun f => f.value mappers (f.named inner)) := by
    rw [List.map_map]
    refine List.forall₂_map_right_iff.2 (List.forall₂_same.2 fun f hmem => ?_)
    obtain ⟨built, kind⟩ := hf f hmem
    exact Field.alike_of built kind (hm.mono fun _ => fields_within hmem)
      (hn.mono fun _ => fields_within hmem) (hi f hmem)
  refine ⟨⟨_, rfl, rfl⟩, ⟨_, rfl, rfl⟩, ?_, Value.render_alike (elementValue_of parts hw).2 each⟩
  obtain rfl | ⟨s, rfl⟩ := hname
  · exact absurd rfl named
  · have called : s ≠ "" := named
    simp [Value.displayName, value, component, Value.string, Value.text?, Value.truthy, called]

end

end Schema

end Document

end RecordMarkup

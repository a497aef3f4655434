import RecordMarkup.Proofs.Document.Compiled
import RecordMarkup.Proofs.Outline.Equal

namespace RecordMarkup.Document

open Value (IsA IsPlain)

variable {root : Value} {mappers documents : List (String × Value)}

def documentsOf (root : Value) : List (String × Value) :=
  tableOf ((root.within.filter (Value.hasKind .schema)).map fun s =>
    (schemaName s, (Schema.of s).write))

/-- What can be said by names can be said by these: schemas, functions and attributes are told apart by
their names and keys. The record types of schemas do not count. -/
structure Portable (mappers : List (String × Value)) (root : Value) : Prop where
  named : Named root
  unique : ∀ s ∈ root.within, ∀ t ∈ root.within, IsA .schema s → IsA .schema t →
    schemaName s = schemaName t → s.same t
  mapped : Mapped mappers root
  keyed : Keyed root

theorem Portable.document {s t : Value} (hb : Built IsPlain root) (hp : Portable mappers root)
    (hs : s ∈ root.within) (ht : t ∈ root.within) (hk : IsA .schema s) (hk' : IsA .schema t)
    (he : schemaName s = schemaName t) : Schema.of s = Schema.of t :=
  schema_of_same (hb.within hs) (hb.within ht) hk hk' (hp.unique s hs t ht hk hk' he)

theorem mem_documentsOf (hb : Built IsPlain root) (hp : Portable mappers root) {name : String}
    {v : Value} : (name, v) ∈ documentsOf root ↔
      ∃ s ∈ root.within, IsA .schema s ∧ schemaName s = name ∧ (Schema.of s).write = v := by
  have kind : ∀ s ∈ root.within, (Value.hasKind .schema s ↔ IsA .schema s) := by
    intro s hs
    obtain ⟨c, rfl, -⟩ := (hb.within hs).shape
    simp [Value.hasKind_component]
  rw [documentsOf, mem_tableOf]
  · simp only [List.mem_map, List.mem_filter, Prod.mk.injEq]
    grind
  · intro a ha b hb' he
    obtain ⟨s, hs, rfl⟩ := List.mem_map.1 ha
    obtain ⟨t, ht, rfl⟩ := List.mem_map.1 hb'
    obtain ⟨hs, hk⟩ := List.mem_filter.1 hs
    obtain ⟨ht, hk'⟩ := List.mem_filter.1 ht
    exact Prod.ext he (congrArg Schema.write
      (hp.document hb hs ht ((kind s hs).1 hk) ((kind t ht).1 hk') he))

def Outlined (root : Value) (name : String) (d : Schema) : Prop :=
  ∃ s ∈ root.within, IsA .schema s ∧ schemaName s = name ∧ d = Schema.of s

theorem read_of_mem (hb : Built IsPlain root) (hp : Portable mappers root) {d : String × Value}
    (hd : d ∈ documentsOf root) : ∃ s, Schema.read d.2 = pure s ∧ Outlined root d.1 s := by
  obtain ⟨s, hs, hk, hname, hv⟩ := (mem_documentsOf hb hp).1 hd
  have built : Built IsPlain s := hb.within hs
  have keyed : Keyed s := hp.keyed.mono (hb.within_subset hs)
  refine ⟨Schema.of s, ?_, s, hs, hk, hname, rfl⟩
  obtain ⟨fields, wrapper, name, type, rfl, -⟩ := Schema.inv_of_built built hk
  rw [← hv, Schema.read_write (Schema.of_writable built keyed)]

theorem readsTo_of_forall {property : String → Schema → Prop} (state : State)
    (h : ∀ d ∈ documents, ∃ s, Schema.read d.2 = pure s ∧ property d.1 s) :
    ∃ parsed, ReadsTo documents state parsed state ∧ ∀ p ∈ parsed, property p.1 p.2 := by
  induction documents with
  | nil => exact ⟨[], .nil, by simp⟩
  | cons d documents ih =>
    obtain ⟨s, hs, hp⟩ := h d (.head _)
    obtain ⟨parsed, rest, hall⟩ := ih fun e he => h e (.tail _ he)
    exact ⟨(d.1, s) :: parsed, .cons (congrFun hs state) rest, List.forall_mem_cons.2 ⟨hp, hall⟩⟩

section Defined

variable {library : Library} (hp : Portable library.mappers root)
  (found : ∀ s ∈ root.within, IsA .schema s →
    library.documents.lookup (schemaName s) = some (Schema.of s))
include hp found

theorem defines_schema {fields : List Value} {wrapper name type : Value}
    (hb : Built IsPlain (.component (.schema fields wrapper name type)))
    (hv : ∀ u ∈ (Value.component (.schema fields wrapper name type)).within, u ∈ root.within)
    (hi : ∀ f ∈ fields, ∀ t ∈ f.within, IsA .schema t →
      ∃ w, Defines library (schemaName t) w ∧ t.Alike w) :
    ∃ w, Defines library name.string w ∧
      (Value.component (.schema fields wrapper name type)).Alike w := by
  have hm := hp.mapped.mono hv
  have hn := hp.named.mono hv
  -- a name has one schema, whichever field it is met in
  have inside : ∀ n, ∃ w, ∀ f ∈ fields, ∀ t ∈ f.within, IsA .schema t → schemaName t = n →
      Defines library n w ∧ t.Alike w := by
    intro n
    by_cases h : ∃ f ∈ fields, ∃ t ∈ f.within, IsA .schema t ∧ schemaName t = n
    · obtain ⟨f, hf, t, ht, hk, rfl⟩ := h
      obtain ⟨w, hw, alike⟩ := hi f hf t ht hk
      refine ⟨w, fun f' hf' t' ht' hk' he => ?_⟩
      obtain ⟨w', hw', alike'⟩ := hi f' hf' t' ht' hk'
      obtain rfl := hw.unique (he ▸ hw')
      exact ⟨hw, alike'⟩
    · exact ⟨.null, fun f hf t ht hk he => absurd ⟨f, hf, t, ht, hk, he⟩ h⟩
  obtain ⟨inner, hinner⟩ := Classical.skolem.1 inside
  refine ⟨_, .mk (found _ (hv _ (Value.mem_within_self _)) ⟨_, rfl, rfl⟩)
    (Schema.of_sound hb ⟨_, rfl, rfl⟩ hm hn) fun n hr => ?_,
    Schema.alike_of hb hm hn fun f hf t ht hk => (hinner _ f hf t ht hk rfl).2⟩
  obtain ⟨f, hf, t, ht, hk, he⟩ := Schema.mem_references_of hb hn hr
  exact (hinner n f hf t ht hk he).1

theorem defines_within {v : Value} (hb : Built IsPlain v) (hv : ∀ u ∈ v.within, u ∈ root.within) :
    ∀ s ∈ v.within, IsA .schema s → ∃ w, Defines library (schemaName s) w ∧ s.Alike w := by
  induction hb with
  | @mk c v context state after typed parts made ih =>
    obtain ⟨rfl, -⟩ := Component.construct_ok typed.parts_component made
    have built : Built IsPlain (.component c) := .mk typed parts made
    have inside : ∀ part ∈ c.parts, ∀ s ∈ part.within, IsA .schema s →
        ∃ w, Defines library (schemaName s) w ∧ s.Alike w := fun part hpart => ih part hpart
      fun u hu => hv u (Value.mem_within_component.2 (.inr ⟨part, hpart, hu⟩))
    intro s hs hk
    obtain rfl | ⟨part, hpart, hs⟩ := Value.mem_within_component.1 hs
    · obtain ⟨fields, wrapper, name, type, he, -⟩ := Schema.inv_of_built built hk
      obtain rfl := Value.component.inj he
      exact defines_schema hp found built hv fun f hf => inside f (List.mem_append_left _ hf)
    · exact inside part hpart s hs hk

end Defined

/-- Documents that schemas were written out as compile, and what is compiled under the name of a schema
renders every record to the same end as the schema. -/
theorem compile_documentsOf (context : Context) (state : State) (hb : Built IsPlain root)
    (hp : Portable mappers root) (hd : documents.Perm (documentsOf root)) :
    ∃ schemas after, (compile documents mappers).outcome context state = (.ok schemas, after) ∧
      ∀ s ∈ root.within, IsA .schema s → ∃ compiled,
        schemas.lookup (schemaName s) = some compiled ∧
          ∀ record, compiled.render record = s.render record := by
  have hn : (documents.map Prod.fst).Nodup := (hd.map _).nodup_iff.2 (nodup_tableOf _)
  obtain ⟨parsed, reads, outlined⟩ := readsTo_of_forall state fun d hm =>
    read_of_mem hb hp (hd.mem_iff.1 hm)
  have hkeys : (parsed.map Prod.fst).Nodup := reads.keys ▸ hn
  have found : ∀ s ∈ root.within, IsA .schema s →
      parsed.lookup (schemaName s) = some (Schema.of s) := by
    intro s hs hk
    have hm : (schemaName s, (Schema.of s).write) ∈ documents :=
      hd.mem_iff.2 ((mem_documentsOf hb hp).2 ⟨s, hs, hk, rfl, rfl⟩)
    have key : schemaName s ∈ parsed.map Prod.fst := reads.keys ▸ List.mem_map_of_mem hm
    obtain ⟨⟨name, d⟩, hmem, hname⟩ := List.mem_map.1 key
    obtain ⟨t, ht, hkt, he, rfl⟩ := outlined _ hmem
    rw [hp.document hb ht hs hkt hk (he.trans hname)] at hmem
    exact hname ▸ lookup_of_mem hkeys hmem
  have defined : ∀ s ∈ root.within, IsA .schema s →
      ∃ w, Defines ⟨parsed, mappers⟩ (schemaName s) w ∧ s.Alike w :=
    defines_within hp found hb fun _ hu => hu
  obtain ⟨schemas, after, parsed', mid, hc, reads', finished⟩ | ⟨defects, after, hc, undefined⟩ :=
    compile_ends documents mappers context state
  · obtain ⟨rfl, rfl⟩ := reads.unique reads'
    refine ⟨schemas, after, hc, fun s hs hk => ?_⟩
    obtain ⟨w, hw, alike⟩ := defined s hs hk
    exact ⟨w, finished.lookup hkeys hw, fun record => (alike.render record).symm⟩
  · refine absurd ⟨parsed, state, reads, fun p hm => ?_⟩ undefined
    obtain ⟨s, hs, hk, hname, -⟩ := outlined p hm
    obtain ⟨w, hw, -⟩ := defined s hs hk
    exact ⟨w, hname ▸ hw⟩

theorem compile_documentsOf_page :
    let link := Value.component (.element (.text "a") [.component (.requestAttr (.text "target")
      (.text "#main")), .component (.static (.text "class") (.text "link"))] .null (.text "")
      (.text ""))
    let upper := Value.component (.mapping (.text "upper") (.mapper 0 "upper"))
    let title := Value.component (.field (.text "title") (.component (.map upper)) link)
    let item := Value.component (.schema [] .null (.text "item") .null)
    let items := Value.component (.field (.text "items") (.component (.list item)) .null)
    let page := Value.component (.schema [title, items] .null (.text "page") .null)
    ∃ schemas after, (compile (documentsOf page) [("upper", .mapper 0 "upper")]).outcome
      { mappings := fun _ v => .ok v } {} = (.ok schemas, after) ∧
        ∀ s ∈ page.within, IsA .schema s → ∃ compiled,
          schemas.lookup (schemaName s) = some compiled ∧
            ∀ record, compiled.render record = s.render record := by
  intro link upper title item items page
  let context : Context := { mappings := fun _ v => .ok v }
  have targetBuilt : Built IsPlain (.component (.requestAttr (.text "target") (.text "#main"))) :=
    .of_construct context {} ⟨⟨_, rfl⟩, _, rfl⟩ (by simp [Component.parts]) rfl
  have classBuilt : Built IsPlain (.component (.static (.text "class") (.text "link"))) :=
    .of_construct context {} ⟨⟨_, rfl⟩, _, rfl⟩ (by simp [Component.parts]) rfl
  have linkBuilt : Built IsPlain link := by
    refine .of_construct context {} ⟨.inr ⟨_, rfl⟩, ?_, .inl rfl, ⟨_, rfl⟩, _, rfl⟩ ?_ rfl
    · simp [Component.kind, Kind.isAttribute]
    · simpa [Component.parts] using ⟨targetBuilt, classBuilt⟩
  have upperBuilt : Built IsPlain upper :=
    .of_construct context {} ⟨⟨_, rfl⟩, rfl⟩ (by simp [Component.parts]) rfl
  have mapBuilt : Built IsPlain (.component (.map upper)) :=
    .of_construct context {} ⟨_, rfl, rfl⟩ (by simpa [Component.parts]) rfl
  have titleBuilt : Built IsPlain title :=
    .of_construct context {} ⟨⟨_, rfl⟩, ⟨.map, rfl, _, rfl, rfl⟩, .inr ⟨_, rfl, rfl⟩⟩
      (by simpa [Component.parts, link] using ⟨mapBuilt, linkBuilt⟩) rfl
  have itemBuilt : Built IsPlain item :=
    .of_construct context {} ⟨by simp, .inl rfl, .inr ⟨_, rfl⟩, .inl rfl⟩
      (by simp [Component.parts]) rfl
  have listBuilt : Built IsPlain (.component (.list item)) :=
    .of_construct context {} (.inr ⟨_, rfl, rfl⟩) (by simpa [Component.parts, item]) rfl
  have itemsBuilt : Built IsPlain items :=
    .of_construct context {} ⟨⟨_, rfl⟩, ⟨.list, rfl, _, rfl, rfl⟩, .inl rfl⟩
      (by simpa [Component.parts]) rfl
  have built : Built IsPlain page := by
    refine Component.built_of_valid (fun _ => IsPlain.isText) ⟨?_, .inl rfl, .inr ⟨_, rfl⟩, .inl rfl⟩
      ?_ rfl ⟨rfl, by decide⟩
    · simp [title, items, Component.kind]
    · simpa [Component.parts] using ⟨titleBuilt, itemsBuilt⟩
  have within : page.within = [page, title, .component (.map upper), upper, link,
    .component (.requestAttr (.text "target") (.text "#main")),
    .component (.static (.text "class") (.text "link")), items, .component (.list item), item] := rfl
  refine compile_documentsOf context {} built ⟨?_, ?_, ?_, ?_⟩ (.refl _)
  · simp [Named, within, page, title, items, item, link, upper, Component.kind, schemaName,
      Value.string, Value.text?]
  · have own : page.same page ∧ item.same item := by
      simp [page, title, items, item, link, upper, Value.same_component, Value.equalComponents?,
        Value.equal?, Value.equalItems?, Value.both?, Value.leafEqual?, Value.comparand?,
        Value.leafEqual, Value.text?]
    simpa [within, page, title, items, item, link, upper, Component.kind, schemaName, Value.string,
      Value.text?] using own
  · simp [Mapped, within, page, title, items, item, link, upper]
  · intro tag attributes content before after h
    obtain rfl : attributes = [.component (.requestAttr (.text "target") (.text "#main")),
        .component (.static (.text "class") (.text "link"))] := by
      simp [within, page, title, items, item, link, upper] at h
      exact h.2.1
    simp [Value.DistinctKeys, Value.hasKind_component, Component.kind, Value.key?]

end RecordMarkup.Document

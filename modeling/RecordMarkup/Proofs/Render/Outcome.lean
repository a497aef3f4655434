import RecordMarkup.Proofs.Render.Ends

namespace RecordMarkup.Value

open Markup (Inert Splits Balanced)

variable {schema record : Value} {context : Context} {state after : State}

theorem reaches_accounts {p : Prop} {bad : Failure → Prop}
    (hf : ∀ {mid s r f}, Reaches context state schema record mid s r → Stops context mid s r f → bad f)
    (hs : ∀ {mid s r v}, p → Reaches context state schema record mid s r →
      Substitutes context mid s r v → v.IsInert) :
    Accounts context p bad (Reaches context state schema record) where
  misses hr hm := hf hr (.unread hm)
  halts hr visits _ hh := hf hr (.halted visits hh)
  spoils hr hs := hf hr (.spoiled hs)
  substitutes := hs
  enters hr visits _ he _ := .inner hr visits he

theorem eq_of_reaches {mid : State} {s r : Value}
    (hn : ∀ {start now later policy wrapper v inner q},
      Visits context start schema record policy wrapper v now →
        ¬Enters context now policy v inner q later)
    (h : Reaches context state schema record mid s r) : s = schema ∧ r = record := by
  induction h with
  | here => exact ⟨rfl, rfl⟩
  | inner _ visits he ih =>
    obtain ⟨rfl, rfl⟩ := ih
    exact absurd he (hn visits)

section Nested

/-- As long as no text with an angle bracket is put into it, the markup falls into texts and tags in one
way, and the tags are properly nested. -/
theorem render_balanced {markup : String} (ha : Accepted schema) (hk : IsA .schema schema)
    (hi : schema.AllInert) (hp : Inert context.settings.requestNamespace.toList)
    (hs : ∀ mid s r v, Reaches context state schema record mid s r → Substitutes context mid s r v →
      v.IsInert)
    (hr : (render schema record).outcome context state = (.ok markup, after)) :
    (∃! parts, Splits markup.toList parts) ∧
      ∀ parts, Splits markup.toList parts → Balanced parts := by
  have accounts : Accounts context True (fun _ => True) (Reaches context state schema record) :=
    reaches_accounts (fun _ _ => trivial) fun _ => hs _ _ _ _
  have ends := render_ends accounts ha hk (fun _ => hi) (fun _ => hp) .here
  rw [Eval.Ends, hr] at ends
  exact (ends.2 trivial).splits

theorem render_balanced_names :
    let item := component (.element (text "li") [] null (text "") (text ""))
    let around := component (.element (text "ul") [] null (text "") (text ""))
    let names := component (.field (text "names") (component (.list null)) item)
    let schema := component (.schema [names] around null null)
    let record := dict [("names", list [text "Ada", text "Eve"])]
    let markup := "<ul><li>Ada</li><li>Eve</li></ul>"
    (render schema record).outcome { mappings := fun _ v => .ok v } {} = (.ok markup, {}) ∧
      (∃! parts, Splits markup.toList parts) ∧
        ∀ parts, Splits markup.toList parts → Balanced parts := by
  intro item around names schema record markup
  let context : Context := { mappings := fun _ v => .ok v }
  have element (tag : String) (h : Text.isTagName tag) :
      Built (·.isText) (component (.element (text tag) [] null (text "") (text ""))) :=
    Component.built_of_valid (fun _ h => h) ⟨.inr rfl, by simp, .inl rfl, rfl, rfl⟩
      (by simp [Component.parts]) rfl ⟨.inr h, by simp, by simp, rfl, rfl⟩
  have flat : Built (·.isText) (component (.list null)) :=
    .of_construct context {} (.inl rfl) (by simp [Component.parts]) rfl
  have named : Built (·.isText) names :=
    .of_construct context {} ⟨rfl, ⟨.list, rfl, _, rfl, rfl⟩, .inr ⟨_, rfl, rfl⟩⟩
      (by simpa [Component.parts, item] using ⟨flat, element "li" rfl⟩) rfl
  have built : Built (·.isText) schema :=
    .of_construct context {}
      ⟨by simp [names, Component.kind], .inr ⟨_, rfl, rfl⟩, .inl rfl, .inl rfl⟩
      (by simpa [Component.parts, around] using ⟨named, element "ul" rfl⟩) rfl
  have space : Inert context.settings.requestNamespace.toList := by decide
  have rendered : (render schema record).outcome context {} = (.ok markup, {}) := rfl
  refine ⟨rendered, render_balanced built.accepted ⟨_, rfl, rfl⟩ (fun c hc => ?_) space ?_ rendered⟩
  · simp only [schema, names, item, around, within, withinItems, withinParts, List.append_nil,
      List.nil_append, List.cons_append, List.mem_cons, List.not_mem_nil, or_false,
      component.injEq] at hc
    obtain rfl | rfl | rfl | rfl | rfl := hc <;> simp [Component.Inert, text?, Markup.Inert]
  · -- The only field holds a flat list, so rendering does not go on to another schema.
    have only {policy : Component Value} {wrapper v : Value} {start mid : State}
        (h : Visits context start schema record policy wrapper v mid) :
        policy = .list null ∧ wrapper = item ∧ v = list [text "Ada", text "Eve"] := by
      obtain ⟨name, hm, before, mid, hv⟩ := visits_schema h
      obtain ⟨rfl, rfl, rfl⟩ : name = text "names" ∧ policy = .list null ∧ wrapper = item := by
        simpa [names] using hm
      exact ⟨rfl, rfl, (Except.ok.inj (congrArg Prod.fst hv)).symm⟩
    intro mid s r v hr hv
    have flat {start now later : State} {policy : Component Value} {wrapper v inner q : Value}
        (h : Visits context start schema record policy wrapper v now) :
        ¬Enters context now policy v inner q later := by
      obtain ⟨rfl, -, -⟩ := only h
      intro he
      cases he with
      | item hn => exact hn rfl
    obtain ⟨rfl, rfl⟩ := eq_of_reaches flat hr
    cases hv with
    | own h =>
      obtain ⟨n, hn, -⟩ := h
      cases hn
    | element visits _ hw =>
      obtain ⟨-, rfl, -⟩ := only visits
      obtain ⟨n, hn, -⟩ := hw
      cases hn
    | content visits hs =>
      obtain ⟨rfl, -, rfl⟩ := only visits
      cases hs with
      | item _ hi hw =>
        obtain rfl := Option.some.inj hi
        simp only [List.mem_cons, List.not_mem_nil, or_false] at hw
        obtain rfl | rfl := hw <;> exact isInert_text (by decide)

end Nested

section Declared

/-- The record has all fields that the record type of the schema declares. -/
def Suits (record : Value) (context : Context) (schema : Value) : Prop :=
  ∃ names, schema.Declares names ∧ record.Offers context (names.map text)

theorem accepted_of_reaches {s r : Value} {mid : State} (ha : Accepted schema)
    (h : Reaches context state schema record mid s r) : Accepted s := by
  induction h with
  | here => exact ha
  | inner _ visits he ih =>
    cases visits with
    | intro _ comes _ =>
      have policy := (ih.parts _ (List.mem_append_left _ comes.mem)).parts _ (.head _)
      exact policy.parts _ (enters_part he policy).1

theorem offers_of_suits (ha : Accepted schema) (h : record.Suits context schema) :
    record.Offers context schema.references := by
  obtain ⟨names, declared, offers⟩ := h
  intro n hn
  obtain ⟨s, hs, he⟩ := mem_of_declares ha declared n hn
  have same : record.field n = record.field (text s) := field_congr he rfl
  rw [same]
  exact offers (text s) (List.mem_map_of_mem hs)

/-- What a schema reads of a record, its record type declares, if that declares any fields; so of a
record with these fields nothing is missing. Rendering fails for another reason: a policy cannot go on
with a value, a value cannot be written or encoded, or a record without such a type lacks a field. -/
theorem render_declared (ha : Accepted schema) (hk : IsA .schema schema) :
    (∀ mid s r, Reaches context state schema record mid s r →
      (∀ names, s.Declares names → ∀ n ∈ s.references, ∃ m ∈ names, n.text? = some m) ∧
        (r.Suits context s → r.Offers context s.references)) ∧
    ∀ f after, (render schema record).outcome context state = (.error f, after) →
      ∃ mid s r, Reaches context state schema record mid s r ∧
        ((∃ policy wrapper v now, Visits context mid s r policy wrapper v now ∧
            Halts context now policy v f) ∨
          Spoils context mid s r f ∨
          (r.Misses context s.references f ∧ ¬r.Suits context s)) := by
  refine ⟨fun mid s r hr => ?_, fun f after hf => ?_⟩
  · have accepted := accepted_of_reaches ha hr
    exact ⟨fun names => mem_of_declares accepted, offers_of_suits accepted⟩
  · have accounts : Accounts context False (fun f => ∃ mid s r,
        Reaches context state schema record mid s r ∧ Stops context mid s r f)
        (Reaches context state schema record) :=
      reaches_accounts (fun hr hs => ⟨_, _, _, hr, hs⟩) False.elim
    have ends := render_ends accounts ha hk False.elim False.elim .here
    rw [Eval.Ends, hf] at ends
    obtain ⟨mid, s, r, hr, hs⟩ := ends
    refine ⟨mid, s, r, hr, ?_⟩
    cases hs with
    | unread hm =>
      have accepted := accepted_of_reaches ha hr
      exact .inr (.inr ⟨hm, fun suits => not_misses_of_offers (offers_of_suits accepted suits) hm⟩)
    | halted visits hh => exact .inl ⟨_, _, _, _, visits, hh⟩
    | spoiled hs => exact .inr (.inl hs)

theorem render_declared_person :
    let person : RecordType := ⟨.plain, "people", "Person", ["name", "age"]⟩
    let field := component (.field (text "name") (component .plain) null)
    let schema := component (.schema [field] null null (recordType 1 person))
    let ada := Value.record 1 [("name", text "Ada"), ("age", int 36)]
    ada.Offers { mappings := fun _ v => .ok v } schema.references ∧ ∀ f after,
      (render schema ada).outcome { mappings := fun _ v => .ok v } {} ≠ (.error f, after) := by
  intro person field schema ada
  let context : Context := { mappings := fun _ v => .ok v }
  have plain : Built (·.isText) (component .plain) :=
    .of_construct context {} trivial (by simp [Component.parts]) rfl
  have named : Built (·.isText) field :=
    .of_construct context {} ⟨rfl, ⟨.plain, rfl, _, rfl, rfl⟩, .inl rfl⟩
      (by simpa [Component.parts]) rfl
  have built : Built (·.isText) schema :=
    .of_construct context {}
      ⟨by simp [field, Component.kind], .inl rfl, .inl rfl, .inr ⟨1, person, rfl⟩⟩
      (by simpa [Component.parts]) (by with_unfolding_all rfl)
  obtain ⟨reads, fails⟩ := @render_declared schema ada context {} built.accepted ⟨_, rfl, rfl⟩
  have suits : ada.Suits context schema := by
    refine ⟨_, ⟨_, _, _, _, _, rfl, rfl⟩, fun n hn => ?_⟩
    simp only [person, List.map_cons, List.map_nil, List.mem_cons, List.not_mem_nil, or_false] at hn
    obtain rfl | rfl := hn <;> exact ⟨_, {}, {}, rfl⟩
  have only {start now : State} {policy : Component Value} {wrapper v : Value}
      (h : Visits context start schema ada policy wrapper v now) :
      policy = .plain ∧ wrapper = null ∧ v = text "Ada" := by
    obtain ⟨name, hm, before, mid, hv⟩ := visits_schema h
    simp only [field, List.mem_singleton, component.injEq, Component.field.injEq] at hm
    obtain ⟨rfl, rfl, rfl⟩ := hm
    exact ⟨rfl, rfl, (Except.ok.inj (congrArg Prod.fst hv)).symm⟩
  refine ⟨(reads _ schema ada .here).2 suits, fun f after hf => ?_⟩
  obtain ⟨mid, s, r, hr, h⟩ := fails f after hf
  obtain ⟨rfl, rfl⟩ := eq_of_reaches (fun visits he => by
    obtain ⟨rfl, -, -⟩ := only visits
    cases he) hr
  obtain ⟨policy, wrapper, v, now, visits, hh⟩ | spoiled | ⟨-, unsuited⟩ := h
  · obtain ⟨rfl, -, -⟩ := only visits
    cases hh
  · -- The one value that is inserted is a text, and nothing is encoded.
    cases spoiled with
    | unwritten inserts cannot =>
      cases inserts with
      | own hv => exact (List.not_mem_nil hv.choose_spec.1).elim
      | element visits _ hw =>
        obtain ⟨-, rfl, -⟩ := only visits
        exact (List.not_mem_nil hw.choose_spec.1).elim
      | content visits shows =>
        obtain ⟨rfl, -, rfl⟩ := only visits
        cases shows
        exact (writable_of_text? rfl : (text "Ada").Writable context fun _ => False) f cannot
    | unencoded encodes =>
      cases encodes with
      | own hv => exact List.not_mem_nil hv.choose_spec.1
      | element visits _ hw =>
        obtain ⟨-, rfl, -⟩ := only visits
        exact List.not_mem_nil hw.choose_spec.1
  · exact unsuited suits

end Declared

end RecordMarkup.Value

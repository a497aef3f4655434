import RecordMarkup.Proofs.Render.ElementEnds

/-!
How rendering ends for fields and schemas: with nested markup, or for a reason that is accounted for.
What is known of the positions that rendering comes to is an invariant of going on from one to the next
(`Accounts`), so that each use can bring its own.
-/

namespace RecordMarkup.Value

open Markup (Inert Nested)

variable {context : Context} {state : State} {record : Value} {p : Prop} {bad : Failure → Prop}

section Field

variable {name wrapper : Value} {c : Component Value}

theorem fits_of_accepted (ha : Accepted wrapper) (hk : IsA .element wrapper)
    (hc : wrapper.content ≠ null → wrapper.content.HasSlots 1)
    (fills : record.Fills context p bad wrapper.elementArgs wrapper.elementEncodedArgs) (inert : p → wrapper.AllInert)
    (space : p → Inert context.settings.requestNamespace.toList) :
    wrapper.Fits record context p bad := by
  obtain ⟨e, rfl, hk⟩ := hk
  have parts : ∀ part ∈ (component e).present, Accepted part := by simpa using ha
  have checked := (Accepted.isElement parts (.inr ⟨e, rfl, hk⟩)).resolve_left (component_ne_null e)
  refine ⟨checked, ?_, hc, fills, inert, space⟩
  cases e <;> cases hk
  exact ha.valid.1

theorem fieldElement_fits (policy : Value) (parts : ∀ part ∈ wrapper.present, Accepted part)
    (hw : OrNull (IsA .element) wrapper)
    (hc : wrapper.content ≠ null → wrapper.content.HasSlots 1)
    (fills : record.Fills context p bad wrapper.elementArgs wrapper.elementEncodedArgs)
    (inert : p → ∀ part ∈ wrapper.present, part.AllInert)
    (space : p → Inert context.settings.requestNamespace.toList) :
    ∃ e : Value, (component (.field name policy wrapper)).fieldElement = pure e ∧
      e.Fits record context p bad := by
  obtain rfl | hk := hw
  · refine ⟨bareElement, fieldElement_null name policy, .intro (by simp) rfl rfl, .inl rfl, hc, fills,
      fun _ d hd => ?_, space⟩
    obtain hd | ⟨part, hp, -⟩ := mem_within_component.1 hd
    · obtain rfl := component.inj hd
      exact ⟨by simp, by simp [Inert], by simp [Inert]⟩
    · cases hp
  · have present : wrapper ∈ wrapper.present := mem_present.2 ⟨hk.ne_null, rfl⟩
    have fits := fits_of_accepted (parts wrapper present) hk hc fills (fun hp => inert hp _ present)
      space
    obtain ⟨e, rfl, -⟩ := hk
    exact ⟨component e, fieldElement_component name policy e, fits⟩

theorem renderElement_ends {policy v : Value}
    (hw : ∃ e : Value, (component (.field name policy wrapper)).fieldElement = pure e ∧
      e.Fits record context p bad) (hs : v.Writable context bad) (hv : p → v.IsInert) :
    ((component (.field name policy wrapper)).renderElement record v).Ends context state
      (fun s => p → Nested s.toList) bad := by
  obtain ⟨e, he, fits⟩ := hw
  rw [renderElement, he, pure_bind]
  refine (renderContent_ends fits hs hv).bind ?_
  rintro _ _ _ ⟨s, rfl, hs⟩
  exact wrap_ends fits fun hp => .text (hs hp)

structure Covered (field record : Value) (context : Context) (state : State) (p : Prop)
    (bad : Failure → Prop) (c : Component Value) (v : Value) : Prop where
  element : Opens context state c v →
    ∃ e : Value, field.fieldElement = pure e ∧ e.Fits record context p bad
  written : ∀ w, Shows context state c v w → w.Writable context bad
  shown : p → ∀ w, Shows context state c v w → w.IsInert
  halted : ∀ f, Halts context state c v f → bad f
  entered : ∀ inner r later, Enters context state c v inner r later → state.Before later →
    (render inner r).Ends context later (fun s => p → Nested s.toList) bad

variable {policy v : Value}

theorem Covered.renderElement {w : Value} {mid : State}
    (h : Covered (component (.field name policy wrapper)) record context state p bad c v)
    (hs : Shows context state c v w) :
    ((component (.field name policy wrapper)).renderElement record w).Ends context mid
      (fun s => p → Nested s.toList) bad :=
  renderElement_ends (h.element (.shown hs)) (h.written w hs) fun hp => h.shown hp w hs

theorem nested_empty : Nested "".toList := .text (List.forall_mem_nil _)

theorem ne_null_of_isNull {w : Value} (h : ¬w.isNull) : w ≠ null := fun hn => h (isNull_iff.2 hn)

theorem renderOptional_ends {default function : Value}
    (h : Covered (component (.field name policy wrapper)) record context state p bad
      (.optional default function) v) :
    ((component (.field name policy wrapper)).renderOptional
      (component (.optional default function)) record v).Ends context state
        (fun s => p → Nested s.toList) bad := by
  simp only [renderOptional, slot_optional_default, slot_optional_map, pure_bind]
  split
  next hv =>
    obtain rfl := isNull_iff.1 hv
    split
    next => exact .pure fun _ => nested_empty
    next hd => exact h.renderElement (.default (ne_null_of_isNull hd))
  next hv =>
    split
    next hf =>
      obtain rfl := isNull_iff.1 hf
      exact h.renderElement (.present (ne_null_of_isNull hv))
    next hf =>
      have applied : (function.applyMapping v).Ends context state _ _ :=
        (applyMapping_stateless function v).ends
      refine (applied.mono (fun _ hw => hw) fun f hm => h.halted f ?_).bind fun w _ _ hw => ?_
      · exact .optional (ne_null_of_isNull hv) (ne_null_of_isNull hf) hm
      · exact h.renderElement (.optional (ne_null_of_isNull hv) (ne_null_of_isNull hf) hw)

theorem renderMap_ends {function : Value}
    (h : Covered (component (.field name policy wrapper)) record context state p bad
      (.map function) v) :
    (renderByKind render (component (.field name policy wrapper)) (component (.map function)) record
      v .map).Ends context state (fun s => p → Nested s.toList) bad := by
  rw [renderByKind, slot_map_map, pure_bind]
  have applied : (function.applyMapping v).Ends context state _ _ :=
    (applyMapping_stateless function v).ends
  refine (applied.mono (fun _ hw => hw) fun f hm => h.halted f (.map hm)).bind fun w _ _ hw => ?_
  exact h.renderElement (.map hw)

theorem forEach_items_ends {action : Value → Eval String}
    (h : v.truthy → ∀ items, v.remaining state = some items → ∀ item ∈ items, ∀ mid,
      v.Comes action context state item mid → state.Before mid →
        (action item).Ends context mid (fun s => p → Nested s.toList) bad)
    (hn : v.truthy → v.remaining state = none → bad (.notIterable v.typeName)) :
    ((if v.truthy then v else tuple []).forEach action).Ends context state
      (fun texts => p → Nested (String.join texts).toList) bad := by
  have items : ((if v.truthy then v else tuple []).forEach action).Ends context state
      (fun texts => ∀ s ∈ texts, p → Nested s.toList) bad := by
    split
    next ht => exact forEach_ends (h ht) (hn ht)
    next => exact .pure (by simp)
  exact items.mono (fun texts hs hp => nested_join fun s hm => hs s hm hp) fun _ hf => hf

theorem renderFlat_ends
    (h : Covered (component (.field name policy wrapper)) record context state p bad
      (.list null) v) :
    (renderList render (component (.field name policy wrapper)) (component (.list null)) record
      v).Ends context state (fun s => p → Nested s.toList) bad := by
  simp only [renderList, nested_slot, pure_bind]
  have items := forEach_items_ends
    (fun ht items hi item hm _ _ _ => h.renderElement (.item ht hi hm))
    fun ht hn => h.halted _ (.items ht hn)
  exact items.bind fun texts _ _ hs => .pure hs

@[simp] theorem remaining_logged (v : Value) (events : List Logging.Event) :
    v.remaining (state.logged events) = v.remaining state := by
  cases v <;> rfl

theorem renderNested_ends {item : Value} (ha : Accepted item) (hk : IsA .schema item)
    (h : Covered (component (.field name policy wrapper)) record context state p bad
      (.list item) v) :
    (renderList render (component (.field name policy wrapper)) (component (.list item)) record
      v).Ends context state (fun s => p → Nested s.toList) bad := by
  obtain ⟨shown, hshown⟩ := ha.displayName_eq hk
  have present : item ≠ null := hk.ne_null
  have notNull : item.isNull = false := by
    rw [← Bool.not_eq_true, isNull_iff]
    exact present
  obtain ⟨e, he, fits⟩ := h.element (.list present)
  simp only [renderList, nested_slot, notNull, slot_field_name, slot_list_item, hshown, he,
    pure_bind]
  refine .log_bind ?_
  have items : ((if v.truthy then v else tuple []).forEach (render item)).Ends context
      (state.logged [.renderedList name shown])
        (fun texts => p → Nested (String.join texts).toList) bad := by
    refine forEach_items_ends (fun ht items hi r hm later hc hl => ?_) fun ht hn => ?_
    · rw [remaining_logged] at hi
      exact h.entered item r later (.item present ht hi hm hc) ((state.before_logged _).trans hl)
    · rw [remaining_logged] at hn
      exact h.halted _ (.items ht hn)
  exact items.bind fun texts _ _ hs => wrap_ends fits hs

theorem renderNest_ends {inner isOptional : Value} (ha : Accepted inner) (hk : IsA .schema inner)
    (h : Covered (component (.field name policy wrapper)) record context state p bad
      (.nest inner isOptional) v) :
    (renderNest render (component (.field name policy wrapper)) (component (.nest inner isOptional))
      record v).Ends context state (fun s => p → Nested s.toList) bad := by
  obtain ⟨shown, hshown⟩ := ha.displayName_eq hk
  rw [renderNest, skipsNest_eq, pure_bind]
  split
  next => exact .pure fun _ => nested_empty
  next hn =>
    have goesOn : ¬(v = null ∧ isOptional.truthy) := by
      simpa [isNull_iff] using hn
    obtain ⟨e, he, fits⟩ := h.element (.nest goesOn)
    simp only [slot_nest_schema, slot_field_name, hshown, he, pure_bind]
    refine .log_bind ?_
    have nested := h.entered inner v _ (.nest goesOn) (state.before_logged [.renderedNest name shown])
    exact nested.bind fun s _ _ hs => wrap_ends fits hs

theorem renderByKind_ends (ha : Accepted (component c)) (hk : c.kind.isPolicy)
    (h : Covered (component (.field name policy wrapper)) record context state p bad c v) :
    (renderByKind render (component (.field name policy wrapper)) (component c) record v
      c.kind).Ends context state (fun s => p → Nested s.toList) bad := by
  have held := ha.holds
  cases c with
  | plain => exact h.renderElement .plain
  | optional default function => exact renderOptional_ends h
  | map function => exact renderMap_ends h
  | list item =>
    obtain rfl | hi := held
    · exact renderFlat_ends h
    · exact renderNested_ends (ha.parts item (mem_present.2 ⟨hi.ne_null, rfl⟩)) hi h
  | nest inner isOptional => exact renderNest_ends (ha.parts inner (.head _)) held h
  | _ => simp [Component.kind, Kind.isPolicy] at hk

theorem renderFieldWith_ends (ha : Accepted (component (.field name (component c) wrapper)))
    (hn : ∀ f, (record.field name).MayFail context f → bad f)
    (h : ∀ v, (record.field name).MayGive context v →
      Covered (component (.field name (component c) wrapper)) record context state p bad c v) :
    (renderFieldWith render (component (.field name (component c) wrapper)) record).Ends context state
      (fun s => p → Nested s.toList) bad := by
  obtain ⟨⟨k, hk, e, he, rfl⟩, -⟩ := ha.holds
  obtain rfl := component.inj he
  rw [renderFieldWith_eq hk]
  have stateless := field_stateless record name
  refine (stateless.ends.mono (fun _ hv => hv) hn).bind_run fun v after ho _ hv => ?_
  obtain rfl : state = after := (Prod.mk.inj ((stateless.outcome hv state).symm.trans ho)).2
  exact renderByKind_ends (ha.parts _ (.head _)) hk (h v hv)

end Field

section Schema

variable {schema : Value} {visit : State → Value → Value → Prop}

/-- What is known of the positions that rendering comes to accounts for all that may happen there, and
goes on to hold. -/
structure Accounts (context : Context) (p : Prop) (bad : Failure → Prop)
    (visit : State → Value → Value → Prop) : Prop where
  misses {state : State} {s r : Value} {f : Failure} : visit state s r →
    r.Misses context s.references f → bad f
  halts {state mid : State} {s r wrapper v : Value} {policy : Component Value} {f : Failure} :
    visit state s r → Visits context state s r policy wrapper v mid → state.Before mid →
      Halts context mid policy v f → bad f
  spoils {state : State} {s r : Value} {f : Failure} : visit state s r →
    Spoils context state s r f → bad f
  substitutes {state : State} {s r v : Value} : p → visit state s r →
    Substitutes context state s r v → v.IsInert
  enters {state mid later : State} {s r wrapper v inner q : Value} {policy : Component Value} :
    visit state s r → Visits context state s r policy wrapper v mid → state.Before mid →
      Enters context mid policy v inner q later → mid.Before later → visit later inner q

variable {fields : List Value} {element label type name wrapper v : Value} {c : Component Value}
  {mid : State}

theorem enters_part {inner r : Value} {later : State} (h : Enters context state c v inner r later)
    (ha : Accepted (component c)) :
    inner ∈ c.parts ∧ IsA .schema inner ∧ inner.depth < (component c).depth := by
  have held := ha.holds
  cases h with
  | item hn =>
    exact ⟨mem_present.2 ⟨hn, rfl⟩, Or.resolve_left held hn, depth_item_lt inner⟩
  | nest => exact ⟨.head _, held, depth_inner_lt inner _⟩

theorem Accounts.covered (h : Accounts context p bad visit)
    (ha : Accepted (component (.schema fields element label type)))
    (hi : p → (component (.schema fields element label type)).AllInert)
    (hp : p → Inert context.settings.requestNamespace.toList)
    (hv : visit state (component (.schema fields element label type)) record)
    (hm : component (.field name (component c) wrapper) ∈ fields)
    (visits : Visits context state (component (.schema fields element label type)) record c wrapper
      v mid)
    (hb : state.Before mid)
    (hr : ∀ inner r later, Accepted inner → IsA .schema inner →
      inner.depth < (component (.schema fields element label type)).depth → (p → inner.AllInert) →
        visit later inner r →
          (render inner r).Ends context later (fun s => p → Nested s.toList) bad) :
    Covered (component (.field name (component c) wrapper)) record context mid p bad c v := by
  have accepted := ha.parts _ (List.mem_append_left _ hm)
  have within (hp : p) : (component (.field name (component c) wrapper)).AllInert :=
    (hi hp).part _ (List.mem_append_left _ hm)
  have policy := accepted.parts _ (.head _)
  refine ⟨fun ho => ?_, fun w hs f hf => ?_, fun hp w hs => ?_, fun f hh => ?_,
    fun inner r later he hl => ?_⟩
  · have fills : record.Fills context p bad wrapper.elementArgs wrapper.elementEncodedArgs := {
      misses := fun f ⟨n, hn, hf⟩ => h.misses hv ⟨n, List.mem_append_right _
        (List.mem_flatMap.2 ⟨_, hm, .tail _ hn⟩), hf⟩
      written := fun w hw f hf => h.spoils hv (.unwritten (.element visits ho hw) hf)
      encoded := fun w hw f hf => h.spoils hv (.unencoded (.element visits ho hw) hf)
      inert := fun hp w hw => h.substitutes hp hv (.element visits ho hw) }
    exact fieldElement_fits _ (fun part hp => accepted.parts part (.tail _ hp)) accepted.holds.2
      (fun hc => (accepted.valid.2.2 hc).2) fills
      (fun hp part hpart => (within hp).part part (.tail _ hpart)) hp
  · exact h.spoils hv (.unwritten (.content visits hs) hf)
  · exact h.substitutes hp hv (.content visits hs)
  · exact h.halts hv visits hb hh
  · obtain ⟨part, isSchema, depth⟩ := enters_part he policy
    exact hr inner r later (policy.parts inner part) isSchema
      (Nat.lt_trans depth (depth_policy_lt hm _ _ _))
      (fun hp => ((within hp).part _ (.head _)).part inner part) (h.enters hv visits hb he hl)

/-- Rendering through an accepted schema ends in nested markup or for a reason that is accounted
for. -/
theorem render_ends (h : Accounts context p bad visit) (ha : Accepted schema) (hk : IsA .schema schema)
    (hi : p → schema.AllInert) (hp : p → Inert context.settings.requestNamespace.toList)
    (hv : visit state schema record) :
    (render schema record).Ends context state (fun s => p → Nested s.toList) bad := by
  -- On the depth of the schema, for all positions: `visit` goes along from one to the next.
  generalize hd : schema.depth = d
  induction d using Nat.strongRecOn generalizing schema record state with
  | ind d ih =>
    obtain ⟨c, rfl, hk⟩ := hk
    cases c <;> cases hk
    next fields wrapper name type =>
      rw [render_eq]
      simp only [renderWith, slot_schema_fields, slot_schema_element, forEach_tuple, pure_bind]
      refine around_ends ?_ fun start before started hb => .mapM fun f mid hc hm => ?_
      · refine ha.holds.2.imp id fun hw => ?_
        have part : wrapper ∈ (Component.schema fields wrapper name type).parts :=
          List.mem_append_right _ (mem_present.2 ⟨hw.ne_null, rfl⟩)
        have own : record.Fills context p bad wrapper.elementArgs wrapper.elementEncodedArgs := {
          misses := fun f ⟨n, hn, hf⟩ => h.misses hv ⟨n, List.mem_append_left _ hn, hf⟩
          written := fun v hread f hf => h.spoils hv (.unwritten (.own hread) hf)
          encoded := fun v hread f hf => h.spoils hv (.unencoded (.own hread) hf)
          inert := fun hp v hread => h.substitutes hp hv (.own hread) }
        exact fits_of_accepted (ha.parts _ part) hw (fun hc => absurd ha.valid.1 hc) own
          (fun hp => (hi hp).part _ part) hp
      · have hf := hc.mem
        have accepted := ha.parts f (List.mem_append_left _ hf)
        obtain ⟨c, rfl, hk⟩ := ha.holds.1 f hf
        cases c <;> cases hk
        next n policy w =>
          obtain ⟨⟨-, -, c, rfl, -⟩, -⟩ := accepted.holds
          refine renderFieldWith_ends accepted (fun f hn => ?_) fun v hgive => ?_
          · have named : n ∈ (component (.schema fields wrapper name type)).references :=
              List.mem_append_right _ (List.mem_flatMap.2 ⟨_, hf, .head _⟩)
            exact h.misses hv ⟨n, named, hn⟩
          · refine h.covered ha hi hp hv hf (.intro started hc hgive) (hb.trans hm) ?_
            intro inner r later hia hik hlt hii hir
            exact ih inner.depth (hd ▸ hlt) hia hik hii hir rfl

end Schema

end RecordMarkup.Value

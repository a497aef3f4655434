import RecordMarkup.Proofs.Render.Inert
import RecordMarkup.Proofs.Render.Positions
import RecordMarkup.Proofs.Render.Stateless
import RecordMarkup.Proofs.Template.Check

/-!
How rendering ends for formats, attributes and elements: with texts that are fit to stand where they go,
as long as what is inserted is inert, or with a failure of which the cause is known. The condition `p`
stands for "what is inserted is inert", and `bad` for the failures that have a cause.
-/

namespace RecordMarkup.Value

open Markup (Inert IsName IsTail Nested)

variable {context : Context} {state : State} {record : Value} {p : Prop} {bad : Failure → Prop}

def Writable (context : Context) (bad : Failure → Prop) (v : Value) : Prop :=
  ∀ f, v.toText.MayFail context f → bad f

/-- Of the record fields under the names, those that cannot be read or written are a cause, and the rest
are inert; under some of the names also those are a cause that cannot be percent-encoded. -/
structure Fills (record : Value) (context : Context) (p : Prop) (bad : Failure → Prop)
    (names encoded : List Value) : Prop where
  misses : ∀ f, record.Misses context names f → bad f
  written : ∀ v, record.Reads context names v → v.Writable context bad
  encoded : ∀ v, record.Reads context encoded v → ∀ f, v.percentEncode.MayFail context f → bad f
  inert : p → ∀ v, record.Reads context names v → v.IsInert

theorem Fills.subset {names others encoded more : List Value}
    (h : record.Fills context p bad names encoded) (hs : ∀ n ∈ others, n ∈ names)
    (he : ∀ n ∈ more, n ∈ encoded) : record.Fills context p bad others more where
  misses := fun f ⟨n, hn, hf⟩ => h.misses f ⟨n, hs n hn, hf⟩
  written := fun v ⟨n, hn, hv⟩ => h.written v ⟨n, hs n hn, hv⟩
  encoded := fun v ⟨n, hn, hv⟩ => h.encoded v ⟨n, he n hn, hv⟩
  inert := fun hp v ⟨n, hn, hv⟩ => h.inert hp v ⟨n, hs n hn, hv⟩

theorem mapM_field_ends {names : List Value} (h : ∀ f, record.Misses context names f → bad f) :
    (names.mapM record.field).Ends context state
      (fun values => values.length = names.length ∧ ∀ v ∈ values, record.Reads context names v)
      bad := by
  have rows : (names.mapM record.field).Ends context state
      (List.Forall₂ (fun n v => (record.field n).MayGive context v) names) bad :=
    .mapM_rows fun n _ hc _ => (field_stateless record n).ends.mono (fun _ hv => hv)
      fun f hf => h f ⟨n, hc.mem, hf⟩
  exact rows.mono (fun _ hs => ⟨hs.length_eq.symm, fun _ => exists_of_mem_right hs⟩) fun _ hf => hf

theorem substitute_ends {template : Value} {args values : List Value} {extra : Nat}
    (h : HasSlots extra (component (.format template args)))
    (hl : values.length = extra + args.length)
    (ht : p → (Component.format template args).Inert)
    (hw : ∀ v ∈ values, v.Writable context bad) (hv : p → ∀ v ∈ values, v.IsInert) :
    (template.substitute values).Ends context state (fun s => p → Inert s.toList) bad := by
  obtain ⟨s, pieces, hs, hp, hc⟩ := h
  have count : Template.slotCount pieces = values.length := hc.trans hl.symm
  rw [substitute_of_ok hs hp, if_pos count]
  cases found : values.findSome? unwritable? with
  | some cause =>
    obtain ⟨v, hm, he⟩ := List.exists_of_findSome?_eq_some found
    have fails : v.toText.MayFail context (.unwritable cause) := by
      rw [toText_eq_throw he]
      exact ⟨{}, {}, rfl⟩
    exact .throw (hw v hm _ fails)
  | none =>
    refine .pure fun holds => ?_
    rw [String.toList_ofList]
    refine Template.inert_fill (ht holds s pieces hs hp) fun t hm => ?_
    obtain ⟨v, hmem, rfl⟩ := List.mem_map.1 hm
    exact (hv holds v hmem).2

theorem evaluate_ends {template : Value} {args leading : List Value}
    (h : HasSlots leading.length (component (.format template args)))
    (hr : record.Fills context p bad args []) (ht : p → (Component.format template args).Inert)
    (hw : ∀ v ∈ leading, v.Writable context bad) (hl : p → ∀ v ∈ leading, v.IsInert) :
    ((component (.format template args)).evaluate record leading).Ends context state
      (fun w => ∃ s, w = text s ∧ (p → Inert s.toList)) bad := by
  refine (mapM_field_ends hr.misses).bind fun values after _ ⟨hn, hv⟩ => ?_
  have filled : (template.substitute (leading ++ values)).Ends context after
      (fun s => p → Inert s.toList) bad :=
    substitute_ends h (by simp [hn]) ht
      (List.forall_mem_append.2 ⟨hw, fun v hm => hr.written v (hv v hm)⟩)
      fun hp => List.forall_mem_append.2 ⟨hl hp, fun v hm => hr.inert hp v (hv v hm)⟩
  exact filled.bind fun s _ _ hs => .pure ⟨s, rfl, hs⟩

section Attribute

theorem renderStatic_ends {key value : Value} (h : Component.Valid (.static key value))
    (hi : p → (component (.static key value)).AllInert) :
    (component (.static key value)).renderStatic.Ends context state (fun s => p → IsTail s.toList)
      bad := by
  rw [renderStatic, slot_static_key, pure_bind, slot_static_value, pure_bind]
  refine .pure fun hp => ?_
  obtain ⟨hk, hv⟩ := (hi hp).self
  exact isTail_attributeText (inert_of_key h.1 hk) hv

theorem renderDynamic_ends {key expr : Value} (h : Component.Valid (.dynamic key expr))
    (hr : record.Fills context p bad expr.args [])
    (hi : p → (component (.dynamic key expr)).AllInert) :
    ((component (.dynamic key expr)).renderDynamic record).Ends context state
      (fun s => p → IsTail s.toList) bad := by
  obtain ⟨template, args, rfl⟩ := h.2.format
  rw [renderDynamic, slot_dynamic_key, pure_bind, slot_dynamic_expr, pure_bind]
  have slots : HasSlots ([] : List Value).length (component (.format template args)) := h.2
  have format (hp : p) : (Component.format template args).Inert :=
    ((hi hp).part _ (.head _)).self
  have none (q : Value → Prop) : ∀ v ∈ ([] : List Value), q v := List.forall_mem_nil q
  refine (evaluate_ends slots hr format (none _) fun _ => none _).bind ?_
  rintro _ _ _ ⟨s, rfl, hs⟩
  exact .pure fun hp => isTail_attributeText (inert_of_key h.1 (hi hp).self) (hs hp)

theorem requestAttrName_ends {key : Value} (h : key.isTextWhere Text.isAttributeKey)
    (hi : p → ∀ m, key = member m → Inert m.display.toList)
    (hn : p → Inert context.settings.requestNamespace.toList) :
    (requestAttrName key).Ends context state (fun v => p → Inert v.display.toList) bad := by
  have settings : Eval.settings.Ends context state (fun s => s = context.settings) bad :=
    ⟨.refl _, rfl⟩
  obtain ⟨s, hs⟩ := Option.isSome_iff_exists.1 (isText_of_isTextWhere h)
  refine settings.bind fun settings _ _ he => ?_
  subst he
  simp only [liesIn_eq hs, pure_bind]
  refine .pure fun hp => ?_
  have plain := inert_of_key h (hi hp)
  split
  · exact plain
  · simp only [display, String.toList_append]
    exact (hn hp).append plain

theorem renderRequestAttr_ends {key value : Value} (h : Component.Valid (.requestAttr key value))
    (hi : p → (component (.requestAttr key value)).AllInert)
    (hn : p → Inert context.settings.requestNamespace.toList) :
    (component (.requestAttr key value)).renderRequestAttr.Ends context state
      (fun s => p → IsTail s.toList) bad := by
  simp only [renderRequestAttr, slot_requestAttr_key, slot_requestAttr_value, pure_bind]
  refine (requestAttrName_ends h.1 (fun hp => (hi hp).self.1) hn).bind fun name _ _ hname => ?_
  exact .pure fun hp => isTail_attributeText (hname hp) (hi hp).self.2

theorem writable_of_text? {v : Value} {s : String} (h : v.text? = some s) : v.Writable context bad := by
  have plain : v.toText = pure v.canonical := toText_eq (unwritable?_of_text? h)
  rintro f ⟨_, _, hf⟩
  rw [plain] at hf
  cases hf

theorem encoded_ends {v : Value} (he : ∀ f, v.percentEncode.MayFail context f → bad f)
    (hv : p → v.IsInert) :
    v.encoded.Ends context state (fun w => w.Writable context bad ∧ (p → w.IsInert)) bad := by
  have first : v.percentEncode.Ends context state _ _ := (percentEncode_stateless v).ends
  refine (first.mono (fun _ h => h) he).bind fun s _ _ ⟨_, _, hs⟩ => .pure ?_
  obtain ⟨-, rfl, -⟩ := percentEncode_ok_iff.1 hs
  split
  next empty => exact ⟨writable_of_text? empty, hv⟩
  next => exact ⟨writable_of_text? rfl, fun hp => isInert_text (Text.Percent.inert_encode (hv hp).1)⟩

theorem mapM_encoded_ends {values : List Value}
    (he : ∀ v ∈ values, ∀ f, v.percentEncode.MayFail context f → bad f)
    (hv : p → ∀ v ∈ values, v.IsInert) :
    (values.mapM encoded).Ends context state (fun vs => vs.length = values.length ∧
      (∀ v ∈ vs, v.Writable context bad) ∧ (p → ∀ v ∈ vs, v.IsInert)) bad := by
  have rows : (values.mapM encoded).Ends context state
      (List.Forall₂ (fun _ w => w.Writable context bad ∧ (p → w.IsInert)) values) bad :=
    .mapM_rows fun v _ hc _ => encoded_ends (he v hc.mem) fun hp => hv hp v hc.mem
  refine rows.mono (fun ws hws => ?_) fun _ hf => hf
  have each (w : Value) (hm : w ∈ ws) : w.Writable context bad ∧ (p → w.IsInert) := by
    obtain ⟨-, -, given⟩ := exists_of_mem_right hws hm
    exact given
  exact ⟨hws.length_eq.symm, fun w hm => (each w hm).1, fun hp w hm => (each w hm).2 hp⟩

theorem pathValues_ends {encode : Value} {values : List Value}
    (hw : ∀ v ∈ values, v.Writable context bad)
    (he : encode.truthy → ∀ v ∈ values, ∀ f, v.percentEncode.MayFail context f → bad f)
    (hv : p → ∀ v ∈ values, v.IsInert) :
    (pathValues encode values).Ends context state (fun vs => vs.length = values.length ∧
      (∀ v ∈ vs, v.Writable context bad) ∧ (p → ∀ v ∈ vs, v.IsInert)) bad := by
  unfold pathValues
  split
  next h => exact mapM_encoded_ends (he h) hv
  next => exact .pure ⟨rfl, hw, hv⟩

theorem method_attribute_ends (m : Method)
    (hn : p → Inert context.settings.requestNamespace.toList) :
    ((method m).slot "attribute").Ends context state (fun v => p → Inert v.display.toList) bad := by
  have word : Inert m.word.toList := by
    cases m <;> decide
  have given : ((method m).slot "attribute").outcome context state =
      (.ok (text (context.settings.requestNamespace ++ m.word)), state) := rfl
  rw [Eval.Ends, given]
  refine ⟨.refl _, fun hp => ?_⟩
  simp only [display, String.toList_append]
  exact (hn hp).append word

theorem renderRequest_ends {m : Method} {path encode : Value}
    (h : Component.Valid (.request m path encode))
    (hr : record.Fills context p bad path.args (component (.request m path encode)).encodedArgs)
    (hi : p → (component (.request m path encode)).AllInert)
    (hn : p → Inert context.settings.requestNamespace.toList) :
    ((component (.request m path encode)).renderRequest record).Ends context state
      (fun s => p → IsTail s.toList) bad := by
  obtain ⟨template, args, rfl⟩ := h.1.format
  have format (hp : p) : (Component.format template args).Inert :=
    ((hi hp).part _ (.head _)).self
  simp only [renderRequest, slot_request_path, slot_request_encode, slot_request_method,
    args_slot h.1, slot_format_template, pure_bind, forEach_tuple]
  refine (mapM_field_ends hr.misses).bind fun values _ _ read => ?_
  obtain ⟨hl, hv⟩ := read
  have coded (he : encode.truthy) : ∀ v ∈ values, ∀ f, v.percentEncode.MayFail context f → bad f := by
    rw [encodedArgs, if_pos he] at hr
    exact fun v hm => hr.encoded v (hv v hm)
  refine (pathValues_ends (fun v hm => hr.written v (hv v hm)) coded
    fun hp v hm => hr.inert hp v (hv v hm)).bind fun texts _ _ coded => ?_
  obtain ⟨ht, hw, hx⟩ := coded
  refine (method_attribute_ends m hn).bind fun name after _ hname => ?_
  have filled : (template.substitute texts).Ends context after (fun s => p → Inert s.toList) bad :=
    substitute_ends h.1 (by rw [ht, hl, Value.args, Nat.zero_add]) format hw hx
  exact filled.bind fun s _ _ hs => .pure fun hp => isTail_attributeText (hname hp) (hs hp)

theorem renderAttribute_ends {c : Component Value} (hk : c.kind.isAttribute) (h : c.Valid)
    (hr : record.Fills context p bad (component c).attributeArgs (component c).encodedArgs)
    (hi : p → (component c).AllInert)
    (hn : p → Inert context.settings.requestNamespace.toList) :
    ((component c).renderAttribute c.kind record).Ends context state (fun s => p → IsTail s.toList)
      bad := by
  cases c with
  | static key value => exact renderStatic_ends h hi
  | dynamic key expr => exact renderDynamic_ends h hr hi
  | requestAttr key value => exact renderRequestAttr_ends h hi hn
  | request m path encode => exact renderRequest_ends h hr hi hn
  | _ => simp [Component.kind, Kind.isAttribute] at hk

theorem joined_ends {α : Type} {f : α → Eval String} {xs : List α} {post : String → Prop}
    (hj : ∀ texts : List String, (∀ s ∈ texts, post s) → post (String.join texts))
    (h : ∀ x ∈ xs, ∀ after, (f x).Ends context after (fun s => p → post s) bad) :
    (do return String.join (← xs.mapM f) : Eval String).Ends context state (fun s => p → post s)
      bad := by
  have each : (xs.mapM f).Ends context state (fun ys => ∀ y ∈ ys, p → post y) bad :=
    .mapM fun x mid hc _ => h x hc.mem mid
  exact each.bind fun texts _ _ ht => .pure fun hp => hj texts fun s hs => ht s hs hp

theorem renderKind_ends {sources : List Value} (hs : ∀ source ∈ sources, source.IsSource)
    (hr : record.Fills context p bad (sources.flatMap attributeArgs) (sources.flatMap encodedArgs))
    (hi : p → ∀ source ∈ sources, source.AllInert)
    (hn : p → Inert context.settings.requestNamespace.toList) (kind : Kind) :
    (renderKind sources record kind).Ends context state (fun s => p → IsTail s.toList) bad := by
  refine joined_ends (fun _ => isTail_join) fun source hm after => ?_
  obtain ⟨c, rfl, hk, hv⟩ := hs source hm
  rw [slot_kind, pure_bind, isKind_tag]
  split
  next h =>
    obtain rfl := of_decide_eq_true h
    have own {f : Value → List Value} : ∀ n ∈ f (component c), n ∈ sources.flatMap f :=
      fun n hn => List.mem_flatMap.2 ⟨_, hm, hn⟩
    exact renderAttribute_ends hk hv (hr.subset own own) (fun hp => hi hp _ hm) hn
  next => exact .pure fun _ => isTail_nil

theorem renderAttributes_ends (state : State) {sources : List Value}
    (hs : ∀ source ∈ sources, source.IsSource)
    (hr : record.Fills context p bad (sources.flatMap attributeArgs) (sources.flatMap encodedArgs))
    (hi : p → ∀ source ∈ sources, source.AllInert)
    (hn : p → Inert context.settings.requestNamespace.toList) :
    ((tuple sources).renderAttributes record).Ends context state (fun s => p → IsTail s.toList)
      bad := by
  rw [renderAttributes, elements_tuple, pure_bind]
  exact joined_ends (fun _ => isTail_join) fun kind _ _ => renderKind_ends hs hr hi hn kind

end Attribute

section Element

def IsNamed : Value → Prop
  | component (.element tag ..) => tag = null ∨ tag.isTextWhere Text.isTagName
  | _ => False

structure Fits (element record : Value) (context : Context) (p : Prop) (bad : Failure → Prop) :
    Prop where
  checked : element.IsElement
  named : element.IsNamed
  slots : element.content ≠ null → element.content.HasSlots 1
  fills : record.Fills context p bad element.elementArgs element.elementEncodedArgs
  inert : p → element.AllInert
  space : p → Inert context.settings.requestNamespace.toList

variable {element : Value}

@[simp] theorem text?_text (s : String) : (text s).text? = some s := rfl

theorem toList_intercalate_empty (texts : List String) :
    ("".intercalate texts).toList = texts.flatMap String.toList := by
  rw [String.toList_intercalate]
  induction texts with
  | nil => rfl
  | cons s texts ih =>
    cases texts with
    | nil => simp [List.intercalate]
    | cons t texts =>
      rw [List.map_cons, List.map_cons, List.intercalate_cons_cons, ← List.map_cons, ih]
      simp

theorem join_surround {before after : Value} {b a : String} (hb : before.text? = some b)
    (ha : after.text? = some a) (opening s closing : String) :
    join "" [text opening, before, text s, after, text closing] =
      pure (opening ++ b ++ s ++ (a ++ closing)) := by
  rw [join_texts (by simp [isText, hb, ha])]
  refine congrArg Pure.pure (String.toList_injective ?_)
  rw [toList_intercalate_empty]
  simp [hb, ha]

theorem nested_join {texts : List String} (h : ∀ s ∈ texts, Nested s.toList) :
    Nested (String.join texts).toList := by
  induction texts with
  | nil => exact .text (List.forall_mem_nil _)
  | cons s texts ih =>
    obtain ⟨hs, h⟩ := List.forall_mem_cons.1 h
    rw [String.join_cons, String.toList_append]
    exact hs.append (ih h)

def Encloses (opening closing : String) : Prop :=
  ∀ cs, Nested cs → Nested (opening.toList ++ (cs ++ closing.toList))

theorem openTag_ends (state : State) (h : element.Fits record context p bad) :
    ∃ closing, element.closeTag = pure (text closing) ∧
      (element.openTag record).Ends context state
        (fun w => ∃ s, w = text s ∧ (p → Encloses s closing)) bad := by
  obtain ⟨checked, named, -, fills, inert, space⟩ := h
  obtain @⟨tag, content, before, after, attributes, sources, hb, ha⟩ := checked
  refine ⟨_, rfl, ?_⟩
  simp only [openTag]
  obtain rfl | hn := named
  · exact .pure ⟨"", rfl, fun _ cs hc => by simpa [isNull] using hc⟩
  · have present : tag.isNull = false := by
      cases tag <;> first | rfl | cases hn
    rw [present, if_neg (by simp), if_neg (by simp)]
    have tails := renderAttributes_ends state sources
      (fills.subset (fun n hm => List.mem_append_left _ hm) fun n hm => hm)
      (fun hp source hs => (inert hp).part source (List.mem_append_left _ hs)) space
    refine tails.bind fun tail _ _ ht => .pure ⟨_, rfl, fun hp cs hc => ?_⟩
    have name := isName_of_tag hn (inert hp).self.1
    have wrapped := Nested.element name (ht hp) hc
    simpa [Markup.Part.chars] using wrapped

theorem surround_eq (h : element.Fits record context p bad) :
    ∃ before after b a, element.slot "before" = pure before ∧ element.slot "after" = pure after ∧
      before.text? = some b ∧ after.text? = some a ∧ (p → Inert b.toList ∧ Inert a.toList) := by
  obtain ⟨checked, -, -, -, inert, -⟩ := h
  obtain @⟨tag, content, before, after, attributes, sources, hb, ha⟩ := checked
  obtain ⟨b, hb⟩ := Option.isSome_iff_exists.1 hb
  obtain ⟨a, ha⟩ := Option.isSome_iff_exists.1 ha
  refine ⟨before, after, b, a, slot_component _ _ rfl, slot_component _ _ rfl, hb, ha, fun hp => ?_⟩
  exact ⟨(inert hp).self.2.1 b hb, (inert hp).self.2.2 a ha⟩

theorem wrap_ends {inner : String} (h : element.Fits record context p bad)
    (hi : p → Nested inner.toList) :
    (element.wrap record (text inner)).Ends context state (fun s => p → Nested s.toList) bad := by
  obtain ⟨closing, hclose, hopen⟩ := openTag_ends state h
  obtain ⟨before, after, b, a, hbefore, hafter, hb, ha, inert⟩ := surround_eq h
  refine hopen.bind ?_
  rintro _ _ _ ⟨opening, rfl, encloses⟩
  rw [hbefore, pure_bind, hafter, pure_bind, hclose, pure_bind, join_surround hb ha]
  refine .pure fun hp => ?_
  have body := ((Nested.text (inert hp).1).append (hi hp)).append (.text (inert hp).2)
  have wrapped := encloses hp _ body
  simpa using wrapped

theorem renderContent_ends {v : Value} (h : element.Fits record context p bad)
    (hw : v.Writable context bad) (hv : p → v.IsInert) :
    (element.renderContent record v).Ends context state
      (fun w => ∃ s, w = text s ∧ (p → Inert s.toList)) bad := by
  obtain ⟨checked, -, slots, fills, inert, -⟩ := h
  obtain @⟨tag, content, before, after, attributes, sources, hb, ha⟩ := checked
  simp only [renderContent]
  split
  next =>
    have shown : v.toText.Ends context state _ _ := (toText_stateless v).ends
    refine (shown.mono (fun _ h => h) hw).bind fun s _ _ given => .pure ⟨s, rfl, fun hp => ?_⟩
    obtain ⟨_, _, hs⟩ := given
    rw [(toText_ok_iff.1 hs).2.1]
    exact (hv hp).1
  next hn =>
    have format := slots fun h => hn (isNull_iff.2 h)
    obtain ⟨template, args, he⟩ := format.format
    simp only [Value.content] at he format
    subst he
    have one : HasSlots [v].length (component (.format template args)) := format
    have fill := fills.subset (fun n hm => List.mem_append_right _ hm) (List.forall_mem_nil _)
    refine evaluate_ends one fill (fun hp => ?_) (List.forall_mem_singleton.2 hw)
      fun hp => List.forall_mem_singleton.2 (hv hp)
    exact ((inert hp).part _ (List.mem_append_right _ (by simp))).self

end Element

section Around

variable {element : Value}

def Surrounds (start finish : List Value) : Prop :=
  ∀ cs, Nested cs → Nested (start.flatMap (fun v => (v.text?.getD "").toList) ++
    (cs ++ finish.flatMap fun v => (v.text?.getD "").toList))

theorem recordStart_ends (state : State) (h : element = null ∨ element.Fits record context p bad) :
    ∃ finish, element.recordEnd = pure finish ∧ (∀ part ∈ finish, part.isText) ∧
      (element.recordStart record).Ends context state
        (fun start => (∀ part ∈ start, part.isText) ∧ (p → Surrounds start finish)) bad := by
  obtain rfl | fits := h
  · exact ⟨[], rfl, List.forall_mem_nil _, .pure ⟨List.forall_mem_nil _, fun _ cs hc => by simpa⟩⟩
  · obtain ⟨closing, hclose, hopen⟩ := openTag_ends state fits
    obtain ⟨before, after, b, a, hbefore, hafter, hb, ha, inert⟩ := surround_eq fits
    have present : element.isNull = false := by
      obtain ⟨-, -, -⟩ := fits.checked
      rfl
    refine ⟨[after, text closing], ?_, by simp [isText, ha], ?_⟩
    · rw [recordEnd, present, if_neg (by simp), hafter, pure_bind, hclose, pure_bind]
    · rw [recordStart, present, if_neg (by simp), hbefore]
      refine hopen.bind ?_
      rintro _ _ _ ⟨opening, rfl, encloses⟩
      refine .pure ⟨by simp [isText, hb], fun hp cs hc => ?_⟩
      have inner := ((Nested.text (inert hp).1).append hc).append (.text (inert hp).2)
      simpa [hb, ha] using encloses hp _ inner

theorem around_ends {fragments : Eval (List String)}
    (h : element = null ∨ element.Fits record context p bad)
    (hf : ∀ start after, (element.recordStart record).outcome context state = (.ok start, after) →
      state.Before after →
        fragments.Ends context after (fun texts => ∀ s ∈ texts, p → Nested s.toList) bad) :
    (do
      let start ← element.recordStart record
      let texts ← fragments
      let finish ← element.recordEnd
      join "" (start ++ texts.map text ++ finish) : Eval String).Ends context state
        (fun s => p → Nested s.toList) bad := by
  obtain ⟨finish, hfinish, finishTexts, started⟩ := recordStart_ends state h
  refine started.bind_run fun start after ho hb ⟨startTexts, surrounds⟩ => ?_
  refine (hf start after ho hb).bind fun texts _ _ ht => ?_
  have parts : ∀ part ∈ start ++ texts.map text ++ finish, part.isText := by
    simp only [List.mem_append, List.mem_map]
    rintro part ((hm | ⟨t, -, rfl⟩) | hm)
    · exact startTexts part hm
    · rfl
    · exact finishTexts part hm
  rw [hfinish, pure_bind, join_texts parts]
  refine .pure fun hp => ?_
  have body : Nested (texts.flatMap String.toList) := by
    rw [← String.toList_join]
    exact nested_join fun s hs => ht s hs hp
  rw [toList_intercalate_empty]
  simpa [Function.comp_def, List.flatMap_map] using surrounds hp _ body

end Around

end RecordMarkup.Value

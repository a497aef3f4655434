import RecordMarkup.Proofs.Render.Canonical
import RecordMarkup.Proofs.Render.References

namespace RecordMarkup

open Template (slots fill)
open Text.Percent (Escaped Splits decode upperDigits)

namespace Template

variable {cs : List Char} {pieces : List Piece} {texts : List (List Char)}

def Spec.Splits (spec : Spec) (cs : List Char) : Prop :=
  ∃ n, spec.precision = some n ∧ Text.Percent.Splits n cs

theorem Spec.escaped_body {plain : Char → Prop} (hp : ¬plain '%') (spec : Spec) (h : Escaped plain cs) :
    Escaped plain (spec.body cs) ↔ ¬spec.Splits cs := by
  unfold body Splits
  split
  next n hn => simp [hn, h.take_iff hp]
  next hn => simp [hn, h]

theorem escaped_fill (taken : ∀ p ∈ pieces, p.TakenFrom cs) (hc : '%' ∉ cs)
    (parts : ∀ spec text, (spec, text) ∈ (slots pieces).zip texts →
      Escaped (· ≠ '%') (spec.body text)) :
    Escaped (· ≠ '%') (fill pieces texts) := by
  refine fill_of_parts .nil (fun _ _ => Escaped.append) (fun c h => ?_) fun spec text h => ?_
  · have from_template : c ∈ cs := taken _ h
    exact .char (fun he => hc (he ▸ from_template)) .nil
  · have fill : spec.fill ∈ ' ' :: cs := taken _ (slot_mem_of_mem_slots (List.of_mem_zip h).1)
    have percent : '%' ∉ ' ' :: cs := by simpa using hc
    have padding (n : Nat) : Escaped (· ≠ '%') (List.replicate n spec.fill) :=
      Text.Percent.escaped_of_forall fun c hm he =>
        percent (he ▸ List.eq_of_mem_replicate hm ▸ fill)
    obtain ⟨left, right, -, shown⟩ := spec.apply_padded text
    rw [shown]
    exact ((padding left).append (parts spec text h)).append (padding right)

end Template

namespace Value

def templateText? : Value → Option String
  | component (.format template _) => template.text?
  | _ => none

def encodedAs (safe : String) (v : Value) : Value :=
  if v.text? = some "" then v else text (Text.Percent.encode safe v.canonical)

def code (safe : String) (v : Value) : List Char := (v.encodedAs safe).slotText.toList

/-- A path that is filled with encoded texts. `parts` is about each slot with its value: what is left
when the padding is removed, whether its escapes are whole, and whether it can be read back. -/
structure EncodedPath (safe : String) (pieces : List Template.Piece) (values : List Value)
    (path : String) : Prop where
  filled : path.toList = fill pieces (values.map (code safe))
  count : (slots pieces).length = values.length
  parts (spec : Template.Spec) (v : Value) : (spec, v) ∈ (slots pieces).zip values →
    let body := spec.body (code safe v)
    (∃ left right, left + right = spec.width - body.length ∧
      spec.apply (code safe v) =
        List.replicate left spec.fill ++ body ++ List.replicate right spec.fill) ∧
      (¬v.IsEmptyWord → (Escaped (· ≠ '%') body ↔ ¬spec.Splits (code safe v)) ∧
        (decode (.ofList body) = some v.canonical ↔ ¬spec.Cuts (code safe v))) ∧
      (v.IsEmptyWord → code safe v = v.display.toList ∧
        (decode (.ofList body) = some v.canonical ↔ spec.precision = some 0))
  whole : (∀ spec v, (spec, v) ∈ (slots pieces).zip values → ¬v.IsEmptyWord →
      ¬spec.Splits (code safe v)) →
    (∀ v ∈ values, v.IsEmptyWord → '%' ∉ v.display.toList) →
    ∀ before after, path.toList = before ++ '%' :: after →
      ∃ h l rest, after = h :: l :: rest ∧ h ∈ upperDigits ∧ l ∈ upperDigits

variable {safe : String}

theorem code_eq {v : Value} (hv : ¬v.IsEmptyWord) :
    v.code safe = (Text.Percent.encode safe v.canonical).toList := by
  unfold code encodedAs
  split
  next empty =>
    obtain rfl := eq_text_empty hv empty
    rfl
  next => rfl

theorem code_emptyWord {v : Value} (hv : v.IsEmptyWord) : v.code safe = v.display.toList := by
  obtain ⟨e, n, rfl⟩ := hv
  rfl

theorem escaped_code (hs : '%' ∉ safe.toList) {v : Value} (hv : ¬v.IsEmptyWord) :
    Escaped (· ≠ '%') (v.code safe) := by
  rw [code_eq hv]
  apply (Text.Percent.escaped_encode safe v.canonical).mono
  rintro c hc rfl
  exact Text.Percent.not_isPlain_percent hs hc

theorem decode_body (hs : '%' ∉ safe.toList) (spec : Template.Spec) {v : Value}
    (hv : ¬v.IsEmptyWord) :
    decode (.ofList (spec.body (v.code safe))) = some v.canonical ↔ ¬spec.Cuts (v.code safe) := by
  rw [code_eq hv]
  unfold Template.Spec.body Template.Spec.Cuts
  split
  next n hn => simp [hn, Text.Percent.decode_take_iff hs, String.length_toList]
  next hn => simp [hn, Text.Percent.decode_encode hs]

theorem decode_body_emptyWord (spec : Template.Spec) {v : Value} (hv : v.IsEmptyWord) :
    decode (.ofList (spec.body (v.code safe))) = some v.canonical ↔ spec.precision = some 0 := by
  obtain ⟨e, n, rfl⟩ := hv
  have named : (member (.word e n "")).code safe = (e.name ++ "." ++ n).toList := rfl
  have reads : decode (.ofList (spec.body ((member (.word e n "")).code safe))) = some "" ↔
      spec.body ((member (.word e n "")).code safe) = [] := by
    rw [Text.Percent.decode_iff]
    constructor
    · exact fun h => Classical.byContradiction fun hn => Text.Percent.bytes?_ne_nil hn h
    · intro h
      rw [h]
      rfl
  refine reads.trans ?_
  rw [named, Template.Spec.body]
  split
  next k hk => simp [hk]
  next hk => simp [hk]

theorem encodedPath {t : String} {pieces : List Template.Piece} {values : List Value}
    (read : Template.ReadAs t.toList pieces) (ht : '%' ∉ t.toList) (hs : '%' ∉ safe.toList)
    (count : Template.slotCount pieces = values.length) :
    EncodedPath safe pieces values (.ofList (fill pieces (values.map (code safe)))) where
  filled := String.toList_ofList
  count := (Template.length_slots pieces).trans count
  parts := by
    intro spec v _ body
    exact ⟨spec.apply_padded (v.code safe),
      fun hv => ⟨spec.escaped_body (by simp) (escaped_code hs hv), decode_body hs spec hv⟩,
      fun hv => ⟨code_emptyWord hv, decode_body_emptyWord spec hv⟩⟩
  whole := by
    intro unsplit named
    have escaped : Escaped (· ≠ '%') (fill pieces (values.map (code safe))) := by
      apply Template.escaped_fill read.taken ht
      intro spec text hm
      rw [List.zip_map_right] at hm
      obtain ⟨⟨other, v⟩, hz, rfl, rfl⟩ := List.mem_map.1 hm
      by_cases hv : v.IsEmptyWord
      · -- Of a name without percent signs nothing is taken for an escape.
        have unmarked := named v (List.of_mem_zip hz).2 hv
        rw [← code_emptyWord hv] at unmarked
        exact Text.Percent.escaped_of_forall fun c hc he =>
          unmarked (he ▸ other.body_subset _ hc)
      · exact (other.escaped_body (by simp) (escaped_code hs hv)).2 (unsplit other v hz hv)
    rw [String.toList_ofList]
    exact fun before after => escaped.whole (by simp)

section Request

variable {context : Context} {state after : State} {s : String}

theorem of_substitute_ok {template : Value} {t : String} {pieces : List Template.Piece}
    {values : List Value} (ht : template.text? = some t) (hp : Template.parse t = .ok pieces)
    (h : (template.substitute values).outcome context state = (.ok s, after)) :
    Template.slotCount pieces = values.length ∧
      s = .ofList (fill pieces (values.map fun v => v.slotText.toList)) := by
  rw [substitute_of_ok ht hp] at h
  split at h
  next hc =>
    refine ⟨hc, ?_⟩
    split at h
    · cases h
    · exact (Except.ok.inj (Prod.mk.inj h).1).symm
  next => cases h

theorem encoded_ok_iff {v w : Value} :
    v.encoded.outcome context state = (.ok w, after) ↔
      (v.unwritable? = none ∧ context.IsPaired v.canonical) ∧
        w = v.encodedAs context.settings.safe ∧ after = state := by
  unfold encoded
  constructor
  · intro h
    obtain ⟨coded, mid, hc, given⟩ := Eval.of_bind_ok h
    obtain ⟨writable, rfl, rfl⟩ := percentEncode_ok_iff.1 hc
    obtain ⟨hw, rfl⟩ := Prod.mk.inj given
    exact ⟨writable, (Except.ok.inj hw).symm, rfl⟩
  · rintro ⟨writable, rfl, rfl⟩
    exact Eval.outcome_bind_ok (percentEncode_ok_iff.2 ⟨writable, rfl, rfl⟩)

theorem of_mapM_encoded_ok {values ws : List Value}
    (h : (values.mapM encoded).outcome context state = (.ok ws, after)) :
    ws = values.map (encodedAs context.settings.safe) := by
  have rows : List.Forall₂ (fun v w => w = encodedAs context.settings.safe v) values ws :=
    (Eval.rows_of_mapM_ok h).imp fun _ _ ⟨_, _, given⟩ => (encoded_ok_iff.1 given).2.1
  have same : List.Forall₂ (· = ·) ws (values.map (encodedAs context.settings.safe)) :=
    List.forall₂_map_right_iff.2 rows.flip
  rwa [List.forall₂_eq_eq_eq] at same

theorem of_renderRequest_ok {m : Method} {template encode record : Value} {args : List Value}
    (encodes : encode.truthy)
    (h : ((component (.request m (component (.format template args)) encode)).renderRequest
      record).outcome context state = (.ok s, after)) :
    ∃ values path mid last, (args.mapM record.field).MayGive context values ∧
      (template.substitute (values.map (encodedAs context.settings.safe))).outcome context mid =
        (.ok path, last) ∧
      s = attributeText (context.settings.requestNamespace ++ m.word) path := by
  rw [renderRequest_eq] at h
  obtain ⟨values, mid, reads, h⟩ := Eval.of_bind_ok h
  rw [pathValues, if_pos encodes] at h
  obtain ⟨ws, last, coded, h⟩ := Eval.of_bind_ok h
  obtain rfl := of_mapM_encoded_ok coded
  rw [Eval.outcome_bind_ok (slot_method_attribute m context last)] at h
  obtain ⟨path, final, filled, h⟩ := Eval.of_bind_ok h
  exact ⟨values, path, last, final, ⟨state, mid, reads⟩, filled,
    (Except.ok.inj (Prod.mk.inj h).1).symm⟩

theorem renderRequest_texts {m : Method} {template encode record : Value} {args : List Value}
    {path : String} (texts : List String) (encodes : encode.truthy)
    (reads : (args.mapM record.field).MayGive context (texts.map text))
    (paired : ∀ s ∈ texts, context.IsPaired s)
    (filled : template.substitute ((texts.map text).map (encodedAs context.settings.safe)) =
      pure path) :
    ((component (.request m (component (.format template args)) encode)).renderRequest record).outcome
      context state =
        (.ok (attributeText (context.settings.requestNamespace ++ m.word) path), state) := by
  have each : ∀ v ∈ texts.map text, ∀ state, v.encoded.outcome context state =
      (.ok (v.encodedAs context.settings.safe), state) := by
    rintro v hv state
    obtain ⟨s, hs, rfl⟩ := List.mem_map.1 hv
    exact encoded_ok_iff.2 ⟨⟨rfl, paired s hs⟩, rfl, rfl⟩
  rw [renderRequest_outcome reads, pathValues, if_pos encodes,
    Eval.outcome_bind_ok (Eval.mapM_outcome each state), filled]
  rfl

/-- A path without a percent sign of its own that is filled with encoded texts. The escapes are whole,
and the slots can be read back, where no precision is in the way. -/
theorem renderRequest_escapes {m : Method} {path encode record : Value}
    (accepted : Accepted (component (.request m path encode))) (encodes : encode.truthy)
    (plain : ∀ t, path.templateText? = some t → '%' ∉ t.toList)
    (safe : '%' ∉ context.settings.safe.toList)
    (rendered : ((component (.request m path encode)).renderRequest record).outcome context state =
      (.ok s, after)) :
    ∃ t pieces values value, path.templateText? = some t ∧ Template.parse t = .ok pieces ∧
      (path.args.mapM record.field).MayGive context values ∧
      s = attributeText (context.settings.requestNamespace ++ m.word) value ∧
      EncodedPath context.settings.safe pieces values value := by
  have slots : path.HasSlots 0 := accepted.valid.1
  obtain ⟨template, args, rfl⟩ := slots.format
  obtain ⟨t, pieces, ht, parsed, -⟩ := slots
  obtain ⟨values, value, mid, last, reads, filled, rfl⟩ := of_renderRequest_ok encodes rendered
  obtain ⟨count, rfl⟩ := of_substitute_ok ht parsed filled
  rw [List.length_map] at count
  rw [List.map_map]
  -- The pieces are read from the path, so no fill is a percent sign either.
  obtain ⟨others, read, -⟩ := Template.scan_complete (Template.scan_sound parsed)
  obtain rfl := Except.ok.inj (parsed.symm.trans read.read)
  exact ⟨t, pieces, values, _, ht, parsed, reads, rfl, encodedPath read (plain t ht) safe count⟩

theorem renderRequest_escapes_page :
    let path := component (.format (text "/{:>8}/{}") [text "section", text "title"])
    let request := component (.request .get path (bool true))
    let record := dict [("section", text "é"), ("title", text "5 %")]
    let context : Context := { mappings := fun _ v => .ok v }
    Accepted request ∧ (∀ t, path.templateText? = some t → '%' ∉ t.toList) ∧
      (request.renderRequest record).outcome context {} =
        (.ok (attributeText "hx-get" "/  %C3%A9/5%20%25"), {}) ∧
      ∃ pieces values value, attributeText "hx-get" "/  %C3%A9/5%20%25" = attributeText "hx-get" value ∧
        EncodedPath "" pieces values value := by
  intro path request record context
  have parsed : Template.parse "/{:>8}/{}" =
      .ok [.char '/', .slot ⟨' ', .right, 8, none⟩, .char '/', .slot Template.bare] := by
    with_unfolding_all rfl
  have slots : path.HasSlots 0 := ⟨_, _, rfl, parsed, rfl⟩
  have format : Built (·.isText) path := Component.built_format rfl parsed (by decide)
  have built : Built (·.isText) request :=
    Component.built_request .get true format slots (by simp [args, path])
  have plain : ∀ t, path.templateText? = some t → '%' ∉ t.toList := by
    rintro _ ⟨⟩
    decide
  have reads : ([text "section", text "title"].mapM record.field).MayGive context
      [text "é", text "5 %"] := ⟨{}, {}, rfl⟩
  have rendered : (request.renderRequest record).outcome context {} =
      (.ok (attributeText "hx-get" "/  %C3%A9/5%20%25"), {}) := by
    apply renderRequest_texts ["é", "5 %"] rfl reads fun _ _ _ _ => rfl
    rw [substitute_eq rfl parsed rfl rfl]
    exact congrArg pure (by decide)
  obtain ⟨_, pieces, values, value, -, -, -, shown, encoded⟩ :=
    renderRequest_escapes built.accepted rfl plain (by decide) rendered
  exact ⟨built.accepted, plain, rendered, pieces, values, value, shown, encoded⟩

theorem renderRequest_escapes_cut :
    let path := component (.format (text "/{:.2}") [text "title"])
    let request := component (.request .get path (bool true))
    let record := dict [("title", text "é")]
    let context : Context := { mappings := fun _ v => .ok v }
    Accepted request ∧ (∀ t, path.templateText? = some t → '%' ∉ t.toList) ∧
      (request.renderRequest record).outcome context {} = (.ok (attributeText "hx-get" "/%C"), {}) ∧
      decode "%C" ≠ some "é" ∧
      ∃ before after, "/%C".toList = before ++ '%' :: after ∧ ∀ h l rest, after ≠ h :: l :: rest := by
  intro path request record context
  have parsed : Template.parse "/{:.2}" = .ok [.char '/', .slot ⟨' ', .left, 0, some 2⟩] := by
    with_unfolding_all rfl
  have slots : path.HasSlots 0 := ⟨_, _, rfl, parsed, rfl⟩
  have format : Built (·.isText) path := Component.built_format rfl parsed (by decide)
  have built : Built (·.isText) request :=
    Component.built_request .get true format slots (by simp [args, path])
  have plain : ∀ t, path.templateText? = some t → '%' ∉ t.toList := by
    rintro _ ⟨⟩
    decide
  have reads : ([text "title"].mapM record.field).MayGive context [text "é"] := ⟨{}, {}, rfl⟩
  refine ⟨built.accepted, plain, ?_, by decide, ['/'], ['C'], rfl, by simp⟩
  apply renderRequest_texts ["é"] rfl reads fun _ _ _ _ => rfl
  rw [substitute_eq rfl parsed rfl rfl]
  exact congrArg pure (by decide)

end Request

end Value

end RecordMarkup

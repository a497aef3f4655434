import RecordMarkup.Proofs.Render.ElementEnds
import RecordMarkup.Proofs.Template.Junction

namespace RecordMarkup.Value

open Template (Written)

def IsWord (v : Value) : Prop := ∃ e n s, v = member (.word e n s)

def IsEmptyWord (v : Value) : Prop := ∃ e n, v = member (.word e n "")

theorem slotText_of_not_isWord {v : Value} (h : ¬v.IsWord) : v.slotText = v.canonical := by
  cases v with
  | member m =>
    cases m with
    | word e n s => exact absurd ⟨e, n, s, rfl⟩ h
    | label | number | double => rfl
  | _ => rfl

def between (a b : String) (us ws : List Value) (s : Eval String) : Eval String := do
  let x ← (text a).substitute us
  let s ← s
  let y ← (text b).substitute ws
  return x ++ s ++ y

theorem substitute_between {template v : Value} {a b : String} {us ws : List Value}
    (ht : template.text? = some (a ++ "{}" ++ b)) (ha : Written a.toList us.length)
    (hb : Written b.toList ws.length) (hv : ¬v.IsWord) :
    template.substitute (us ++ v :: ws) = between a b us ws v.toText := by
  rw [substitute_around ht ha hb, slotText_of_not_isWord hv, between]
  refine bind_congr fun x => ?_
  unfold toText
  split
  · rfl
  · simp only [pure_bind]

section Content

variable {tag before after : Value} {attributes : List Value} {b a : String}

theorem exists_surrounding (tag : Value) (attributes : List Value) (hb : before.text? = some b)
    (ha : after.text? = some a) (record : Value) :
    ∃ (opening : Eval String) (closing : String), ∀ content s,
      (component (.element tag attributes content before after)).wrap record (text s) =
        (fun start => start ++ s ++ closing) <$> opening := by
  -- Of the parts only the open tag looks into the record, for the attributes.
  let tagged : Eval String := do
    if tag.isNull then return ""
    else return "<" ++ tag.display ++ (← (tuple attributes).renderAttributes record) ++ ">"
  let closing := if tag.isNull then "" else "</" ++ tag.display ++ ">"
  refine ⟨(· ++ b) <$> tagged, a ++ closing, fun content s => ?_⟩
  have opened : (component (.element tag attributes content before after)).openTag record =
      text <$> tagged := by
    simp only [openTag, tagged]
    split <;> simp
  have closed : (component (.element tag attributes content before after)).closeTag =
      pure (text closing) := rfl
  simp only [wrap, opened, closed, slot_element_before, slot_element_after, pure_bind,
    join_surround hb ha, map_eq_pure_bind, bind_assoc]

theorem renderElement_element (name policy tag before after content : Value) (attributes : List Value)
    (record v : Value) :
    (component (.field name policy (component (.element tag attributes content before after)))).renderElement
        record v =
      (component (.element tag attributes content before after)).renderContent record v >>=
        (component (.element tag attributes content before after)).wrap record := by
  rw [renderElement, fieldElement_component, pure_bind]

theorem renderContent_null (record v : Value) :
    (component (.element tag attributes null before after)).renderContent record v =
      text <$> v.toText := by
  rw [map_eq_pure_bind]
  rfl

theorem renderContent_bare {template : Value} (ht : template.text? = some "{}") (record v : Value) :
    (component (.element tag attributes (component (.format template [])) before after)).renderContent
      record v = (fun _ => text v.slotText) <$> v.toText := by
  have none : Written "".toList ([] : List Value).length := .nil
  have around : template.text? = some ("" ++ "{}" ++ "") := by
    rw [ht, String.empty_append, String.append_empty]
  have empty : (text "").substitute [] = pure "" := substitute_escape ""
  have filled := substitute_around around none none v
  simp only [empty, pure_bind, String.empty_append, String.append_empty, List.nil_append] at filled
  have present : (component (.format template [])).isNull = false := rfl
  simp only [renderContent, present, Bool.false_eq_true, if_false, evaluate, List.mapM_nil, pure_bind,
    List.append_nil, filled, bind_assoc, map_eq_pure_bind]

theorem renderContent_bare_of_not_isWord {template v : Value} (ht : template.text? = some "{}")
    (hv : ¬v.IsWord) (record : Value) :
    (component (.element tag attributes (component (.format template [])) before after)).renderContent
      record v = text <$> v.toText := by
  rw [renderContent_bare ht, slotText_of_not_isWord hv]
  unfold toText
  split <;> rfl

end Content

section Slot

variable {record v format : Value} {context : Context} {a b : String} {us ws : List Value}

/-- A format with a bare slot between two templates. From the record come `us` for the slots of the one,
`v` for the bare slot and `ws` for the slots of the other. -/
inductive Feeds (record : Value) (context : Context) (a b : String) (us : List Value) (v : Value)
    (ws : List Value) : Value → Prop
  | intro {template : Value} {args : List Value}
      (written : template.text? = some (a ++ "{}" ++ b)) (first : Written a.toList us.length)
      (last : Written b.toList ws.length)
      (reads : (args.mapM record.field).MayGive context (us ++ v :: ws)) :
      Feeds record context a b us v ws (component (.format template args))

theorem reads_outcome {args values : List Value} (h : (args.mapM record.field).MayGive context values)
    (state : State) : (args.mapM record.field).outcome context state = (.ok values, state) :=
  (Eval.Stateless.mapM fun arg _ => field_stateless record arg).outcome h state

theorem renderDynamic_outcome {key template : Value} {args values : List Value}
    (reads : (args.mapM record.field).MayGive context values) (state : State) :
    ((component (.dynamic key (component (.format template args)))).renderDynamic record).outcome context
      state = (attributeText key.display <$> template.substitute values).outcome context state := by
  simp only [renderDynamic, slot_dynamic_key, slot_dynamic_expr, evaluate, pure_bind, bind_assoc,
    List.nil_append]
  rw [Eval.outcome_bind_ok (reads_outcome reads state), map_eq_pure_bind]
  rfl

theorem renderRequest_eq (m : Method) (template encode record : Value) (args : List Value) :
    (component (.request m (component (.format template args)) encode)).renderRequest record = (do
      let values ← args.mapM record.field
      let values ← pathValues encode values
      let name ← (method m).slot "attribute"
      return attributeText name.display (← template.substitute values)) := by
  simp only [renderRequest, slot_request_path, slot_request_encode, slot_request_method,
    slot_format_args, slot_format_template, pure_bind, forEach_tuple]

theorem renderRequest_outcome {m : Method} {template encode : Value} {args values : List Value}
    (reads : (args.mapM record.field).MayGive context values) (state : State) :
    ((component (.request m (component (.format template args)) encode)).renderRequest record).outcome
      context state = (do
        let values ← pathValues encode values
        attributeText (context.settings.requestNamespace ++ m.word) <$>
          template.substitute values : Eval String).outcome context state := by
  rw [renderRequest_eq, Eval.outcome_bind_ok (reads_outcome reads state)]
  refine Eval.outcome_bind_congr fun values state => ?_
  rw [Eval.outcome_bind_ok (slot_method_attribute m context state), map_eq_pure_bind]
  rfl

theorem eq_text_empty (hv : ¬v.IsEmptyWord) (h : v.text? = some "") : v = text "" := by
  unfold text? at h
  split at h
  · rw [Option.some.inj h]
  · exact absurd ⟨_, _, by rw [Option.some.inj h]⟩ hv
  · cases h

theorem encoded_eq (hv : ¬v.IsEmptyWord) : v.encoded = text <$> v.percentEncode := by
  unfold encoded
  split
  next empty =>
    obtain rfl := eq_text_empty hv empty
    have nothing : (text "").percentEncode = pure "" := Eval.ext fun context state => by
      rw [percentEncode_outcome]
      rfl
    rw [nothing]
    rfl
  next => rw [map_eq_pure_bind]

end Slot

/-- What each place inserts for a value: its canonical text, which is percent-encoded in the slots of an
encoded request. What stands around it does not depend on the value. -/
structure Uniform (record : Value) : Prop where
  bare (name policy tag before after : Value) (attributes : List Value) {template v : Value} :
    template.text? = some "{}" → ¬v.IsWord →
      let field (content : Value) :=
        component (.field name policy (component (.element tag attributes content before after)))
      (field (component (.format template []))).renderElement record v =
        (field null).renderElement record v
  content (name policy tag : Value) (attributes : List Value) {before after : Value} :
    before.isText → after.isText →
      let field :=
        component (.field name policy (component (.element tag attributes null before after)))
      ∃ (opening : Eval String) (closing : String), ∀ v : Value,
        field.renderElement record v = do
          let s ← v.toText
          return (← opening) ++ s ++ closing
  slot {context : Context} {a b : String} {us ws : List Value} {v format : Value} :
    Feeds record context a b us v ws format → ¬v.IsWord → ∀ state,
      (∀ key, ((component (.dynamic key format)).renderDynamic record).outcome context state =
        (attributeText key.display <$> between a b us ws v.toText).outcome context state) ∧
      ∀ m encode, encode.truthy = false →
        ((component (.request m format encode)).renderRequest record).outcome context state =
          (attributeText (context.settings.requestNamespace ++ m.word) <$>
            between a b us ws v.toText).outcome context state
  encoded {context : Context} {a b : String} {us ws : List Value} {v format : Value} :
    Feeds record context a b us v ws format → ¬v.IsEmptyWord → ∀ state m encode, encode.truthy →
      ((component (.request m format encode)).renderRequest record).outcome context state = (do
        let us ← us.mapM encoded
        let s ← v.percentEncode
        let ws ← ws.mapM encoded
        attributeText (context.settings.requestNamespace ++ m.word) <$>
          between a b us ws (pure s) : Eval String).outcome context state

/-- The text of a value is the same in all places, unless the value is a word, or in an encoded request
an empty word. -/
theorem uniform (record : Value) : record.Uniform where
  bare := by
    intro name policy tag before after attributes template v ht hw field
    rw [renderElement_element, renderElement_element, renderContent_bare_of_not_isWord ht hw,
      renderContent_null]
    simp only [bind_map_left]
    rfl
  content := by
    intro name policy tag attributes before after hb ha field
    obtain ⟨b, hb⟩ := Option.isSome_iff_exists.1 hb
    obtain ⟨a, ha⟩ := Option.isSome_iff_exists.1 ha
    obtain ⟨opening, closing, wrapped⟩ := exists_surrounding tag attributes hb ha record
    refine ⟨opening, closing, fun v => ?_⟩
    rw [renderElement_element, renderContent_null, bind_map_left]
    refine bind_congr fun s => ?_
    rw [wrapped, map_eq_pure_bind]
  slot := by
    intro context a b us ws v format ⟨written, first, last, reads⟩ hw state
    have filled := substitute_between written first last hw
    refine ⟨fun key => ?_, fun m encode he => ?_⟩
    · rw [renderDynamic_outcome reads, filled]
    · have plain (values : List Value) : pathValues encode values = pure values := by
        rw [pathValues, he, if_neg Bool.false_ne_true]
      rw [renderRequest_outcome reads, plain, pure_bind, filled]
  encoded := by
    intro context a b us ws v format ⟨written, first, last, reads⟩ hw state m encode he
    have codes (values : List Value) : pathValues encode values = values.mapM encoded := by
      rw [pathValues, if_pos he]
    rw [renderRequest_outcome reads, codes]
    refine congrArg (fun action : Eval String => action.outcome context state) ?_
    simp only [List.mapM_append, List.mapM_cons, encoded_eq hw, bind_map_left, bind_assoc, pure_bind]
    refine Eval.bind_congr fun _ _ us' _ hu => bind_congr fun s => ?_
    refine Eval.bind_congr fun _ _ ws' _ hws => ?_
    have plain : ¬(text s).IsWord := by simp [IsWord]
    rw [(Eval.rows_of_mapM_ok hu).length_eq] at first
    rw [(Eval.rows_of_mapM_ok hws).length_eq] at last
    rw [substitute_between written first last plain, toText_eq rfl]
    rfl

theorem uniform_level :
    let high := member (.number ⟨"Level", [("LOW", .int 1), ("HIGH", .int (-7))]⟩ "HIGH" (-7))
    let record := dict [("level", high)]
    let context : Context := { mappings := fun _ v => .ok v }
    let field (content : Value) := component (.field (text "level") (component .plain)
      (component (.element (text "b") [] content (text "") (text ""))))
    let path := component (.format (text "/{}") [text "level"])
    ¬high.IsWord ∧ Feeds record context "/" "" [] high [] path ∧
      (field (component (.format (text "{}") []))).renderElement record high =
        (field null).renderElement record high ∧
      (∀ state, ((component (.request .get path (bool false))).renderRequest record).outcome context
        state = (.ok (attributeText "hx-get" ("/" ++ high.canonical ++ "")), state)) ∧
      ∀ state, ((component (.request .get path (bool true))).renderRequest record).outcome context
        state = (.ok (attributeText "hx-get"
          ("/" ++ Text.Percent.encode "" high.canonical ++ "")), state) := by
  intro high record context field path
  have number : ¬high.IsWord := by simp [IsWord, high]
  have nonempty : ¬high.IsEmptyWord := by simp [IsEmptyWord, high]
  have writable : high.unwritable? = none := by decide +kernel
  have shown : high.toText = pure high.canonical := toText_eq writable
  have coded {state : State} : high.percentEncode.outcome context state =
      (.ok (Text.Percent.encode "" high.canonical), state) :=
    percentEncode_ok_iff.2 ⟨⟨writable, fun _ _ => rfl⟩, rfl, rfl⟩
  have first : Written "/".toList ([] : List Value).length :=
    Written.char (by decide) (by decide) .nil
  have feeds : Feeds record context "/" "" [] high [] path := .intro rfl first .nil ⟨{}, {}, rfl⟩
  have slash : (text "/").substitute [] = pure "/" := substitute_escape "/"
  have empty : (text "").substitute [] = pure "" := substitute_escape ""
  refine ⟨number, feeds, (uniform record).bare _ _ _ _ _ _ rfl number, ?_, ?_⟩
  · intro state
    rw [((uniform record).slot feeds number state).2 .get (bool false) rfl, between, slash, shown, empty]
    rfl
  · intro state
    rw [(uniform record).encoded feeds nonempty state .get (bool true) rfl]
    simp only [List.mapM_nil, pure_bind]
    rw [Eval.outcome_bind_ok coded, between, slash, empty]
    rfl

theorem uniform_tone :
    let warm := member (.word ⟨"Tone", [("WARM", .text "warm")]⟩ "WARM" "warm")
    let wrapper (content : Value) := component (.element (text "p") [] content (text "") (text ""))
    let field (content : Value) := component (.field (text "tone") (component .plain) (wrapper content))
    let bare := component (.format (text "{}") [])
    Accepted (field null) ∧ Accepted (field bare) ∧
      (field null).renderElement (dict []) warm = pure "<p>warm</p>" ∧
      (field bare).renderElement (dict []) warm = pure "<p>Tone.WARM</p>" := by
  intro warm wrapper field bare
  have parsed : Template.parse "{}" = .ok [.slot ⟨' ', .left, 0, none⟩] := by
    with_unfolding_all rfl
  have format : Built (·.isText) bare := Component.built_format rfl parsed (by simp)
  have plain : Built (·.isText) (component .plain) :=
    Component.built_of_valid (fun _ h => h) trivial (by simp [Component.parts]) rfl trivial
  have built {content : Value} (typed : OrNull (IsA .format) content)
      (parts : ∀ part ∈ content.present, Built (·.isText) part)
      (slots : content ≠ null → content.HasSlots 1) :
      Accepted (field content) := by
    have element : Built (·.isText) (wrapper content) :=
      Component.built_of_valid (fun _ h => h) ⟨.inr rfl, by simp, typed, rfl, rfl⟩
        (by simpa [Component.parts] using parts) rfl ⟨.inr rfl, by simp, by simp, rfl, rfl⟩
    have checked : Built (·.isText) (field content) :=
      Component.built_of_valid (fun _ h => h) ⟨rfl, ⟨.plain, rfl, _, rfl, rfl⟩, .inr ⟨_, rfl, rfl⟩⟩
        (by simpa [Component.parts, wrapper] using ⟨plain, element⟩) rfl
        ⟨rfl, fun _ => by simp [IsTagged, wrapper], fun h => ⟨rfl, slots h⟩⟩
    exact checked.accepted
  have accepted : Accepted (field null) := built (.inl rfl) (by simp) fun h => absurd rfl h
  have accepted_bare : Accepted (field bare) :=
    built (.inr ⟨_, rfl, rfl⟩) (by simpa [bare] using format) fun _ => ⟨_, _, rfl, parsed, rfl⟩
  refine ⟨accepted, accepted_bare, ?_, ?_⟩
  · rw [renderElement_element, renderContent_null]
    rfl
  · rw [renderElement_element, renderContent_bare rfl]
    rfl

end RecordMarkup.Value

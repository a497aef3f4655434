import RecordMarkup.Proofs.Lookup
import RecordMarkup.Proofs.Render.Ends
import RecordMarkup.Proofs.Render.Referenced
import RecordMarkup.Proofs.Render.Stateless

namespace RecordMarkup

open Value (component dict OrNull IsA)

theorem Eval.Matches.eq {α : Type} {a b : Eval α} (h : ∀ context, a.Matches b context)
    (ends : ∀ context state, a.Ends context state (fun _ => True) fun f =>
      ∀ v name, f ≠ .noAttribute v name) : a = b := by
  refine Eval.ext fun context state => ?_
  obtain ⟨result, same⟩ := h context state
  have failure := ends context state
  unfold Eval.Ends at failure
  generalize a.outcome context state = left at result same failure ⊢
  generalize b.outcome context state = right at result same ⊢
  obtain ⟨l, s⟩ := left
  obtain ⟨r, t⟩ := right
  obtain rfl : s = t := same
  cases result with
  | ok => rfl
  | error alike =>
    cases alike with
    | refl => rfl
    | noAttribute => exact absurd rfl (failure _ _)

theorem Accepted.with_plain {name policy wrapper : Value}
    (h : Accepted (component (.field name policy wrapper))) :
    Accepted (component (.field name (component .plain) wrapper)) := by
  obtain ⟨named, -, slots⟩ := h.valid
  have content : OrNull Value.IsFormat wrapper.content := by
    by_cases hc : wrapper.content = .null
    · exact .inl hc
    · refine .inr ?_
      have format := (slots hc).2
      obtain ⟨template, args, he⟩ := format.format
      rw [he] at format
      obtain ⟨s, -, hs, -⟩ := format
      exact ⟨template, args, s, he, hs⟩
  have valid : Component.Valid (.field name (component .plain) wrapper) := by
    refine ⟨named, fun flat => ?_, fun hc => ⟨rfl, (slots hc).2⟩⟩
    cases Value.component.inj flat
  have decided : Decides (component (.field name (component .plain) wrapper)).defects
      (Component.Valid (.field name (component .plain) wrapper)) := by
    simp only [Value.defects_component]
    exact Value.fieldDefects_decides ⟨.plain, rfl, _, rfl, rfl⟩ h.holds.2 content
  obtain ⟨-, events, -, made⟩ | ⟨hn, -⟩ := Component.accept_settles decided
  · have plain : Built (·.isText) (component .plain) :=
      .of_construct { mappings := fun _ v => .ok v } {} trivial (by simp [Component.parts]) rfl
    refine .mk (c := .field name (component .plain) wrapper) ?_ (made { mappings := fun _ v => .ok v } {})
    exact List.forall_mem_cons.2 ⟨plain.accepted, fun part hp => h.parts part (.tail _ hp)⟩
  · exact absurd valid hn

namespace Value

variable {name wrapper policy : Value} {n : String} {entries : List (String × Value)}

theorem field_dict (hn : name.text? = some n) (entries : List (String × Value)) :
    (dict entries).field name = pure ((entries.lookup n).getD null) := by
  simp [field, requireHashable, unhashable?_of_text hn, hn]

def Ignores (wrapper : Value) (n : String) : Prop := ∀ arg ∈ wrapper.elementArgs, arg.text? ≠ some n

theorem Ignores.agreeOn (hi : wrapper.Ignores n) (ht : ∀ arg ∈ wrapper.elementArgs, arg.isText)
    (x : Value) (entries : List (String × Value)) (context : Context) :
    (dict entries).AgreeOn (dict (setEntry n x entries)) context wrapper.elementArgs := by
  intro arg ha
  obtain ⟨m, hm⟩ := Option.isSome_iff_exists.1 (ht arg ha)
  have other : m ≠ n := by
    rintro rfl
    exact hi arg ha hm
  rw [field_dict hm, field_dict hm, lookup_setEntry_ne other]
  exact .refl _

/-- Why a value cannot be put into an element: it or a record field that the element names cannot be
written, or one of those that are percent-encoded has no UTF-8 form. -/
inductive Blocks (context : Context) (wrapper record x : Value) (f : Failure) : Prop
  | content : x.toText.MayFail context f → Blocks context wrapper record x f
  | argument {y : Value} : record.Reads context wrapper.elementArgs y → y.toText.MayFail context f →
      Blocks context wrapper record x f
  | encoded {y : Value} : record.Reads context wrapper.elementEncodedArgs y →
      y.percentEncode.MayFail context f → Blocks context wrapper record x f

theorem Blocks.ne_noAttribute {context : Context} {record x : Value} {f : Failure}
    (h : Blocks context wrapper record x f) (v : Value) (s : String) : f ≠ .noAttribute v s := by
  cases h with
  | content hf | argument _ hf =>
    obtain ⟨cause, rfl⟩ := toText_mayFail hf
    exact nofun
  | encoded _ hf =>
    obtain ⟨cause, rfl⟩ | ⟨row, rfl⟩ := percentEncode_mayFail hf <;> exact nofun

theorem fills_dict (ht : ∀ n ∈ wrapper.elementArgs, n.isText) (context : Context)
    (entries : List (String × Value)) (x : Value) :
    (dict entries).Fills context False (Blocks context wrapper (dict entries) x)
      wrapper.elementArgs wrapper.elementEncodedArgs where
  misses := by
    rintro f ⟨m, hm, before, after, hf⟩
    obtain ⟨s, hs⟩ := Option.isSome_iff_exists.1 (ht m hm)
    rw [field_dict hs] at hf
    cases hf
  written := fun y hy f hf => .argument hy hf
  encoded := fun y hy f hf => .encoded hy hf
  inert := False.elim

theorem Accepted.wrapper_parts (ha : Accepted (component (.field name policy wrapper))) :
    ∀ part ∈ wrapper.present, Accepted part :=
  fun part hp => ha.parts part (.tail _ hp)

theorem fieldElement_dict (ha : Accepted (component (.field name policy wrapper)))
    (entries : List (String × Value)) (x : Value) (context : Context) :
    ∃ e : Value, (component (.field name policy wrapper)).fieldElement = pure e ∧
      e.Fits (dict entries) context False (Blocks context wrapper (dict entries) x) :=
  fieldElement_fits policy (Accepted.wrapper_parts ha) ha.holds.2 (fun hc => (ha.valid.2.2 hc).2)
    (fills_dict (Accepted.elementArgs_text (Accepted.wrapper_parts ha)) context entries x)
    False.elim False.elim

theorem renderElement_dict_ends (ha : Accepted (component (.field name policy wrapper)))
    (entries : List (String × Value)) (x : Value) (context : Context) (state : State) :
    ((component (.field name policy wrapper)).renderElement (dict entries) x).Ends context state
      (fun s => False → Markup.Nested s.toList) (Blocks context wrapper (dict entries) x) :=
  renderElement_ends (fieldElement_dict ha entries x context) (fun _ => .content) False.elim

theorem renderElement_dict (ha : Accepted (component (.field name policy wrapper)))
    (entries : List (String × Value)) (x : Value) (context : Context) :
    ∃ result, (∀ state, ((component (.field name policy wrapper)).renderElement (dict entries)
        x).outcome context state = (result, state)) ∧
      ∀ f, result = .error f → Blocks context wrapper (dict entries) x f := by
  obtain ⟨result, same⟩ :=
    renderElement_stateless (Accepted.isElement (Accepted.wrapper_parts ha) ha.holds.2) x context
  refine ⟨result, same, ?_⟩
  rintro f rfl
  have ends := renderElement_dict_ends ha entries x context {}
  rwa [Eval.Ends, same] at ends

abbrev fieldBy (name wrapper : Value) (policy : Component Value) : Value :=
  component (.field name (component policy) wrapper)

def renderPlain (name wrapper : Value) (n : String) (entries : List (String × Value)) (x : Value) :
    Eval String :=
  renderField (fieldBy name wrapper .plain) (dict (setEntry n x entries))

theorem renderPlain_setEntry (x y : Value) :
    renderPlain name wrapper n (setEntry n x entries) y = renderPlain name wrapper n entries y := by
  rw [renderPlain, setEntry_setEntry, renderPlain]

theorem renderElement_policy (name policy other wrapper : Value) :
    (component (.field name policy wrapper)).renderElement =
      (component (.field name other wrapper)).renderElement := by
  funext record v
  simp only [renderElement, fieldElement, slot_field_element]

theorem renderElement_eq (ha : Accepted (component (.field name policy wrapper)))
    (hn : name.text? = some n) (hi : wrapper.Ignores n) (entries : List (String × Value)) :
    (component (.field name policy wrapper)).renderElement (dict entries) =
      renderPlain name wrapper n entries := by
  funext x
  have parts := Accepted.wrapper_parts ha
  have texts := Accepted.elementArgs_text parts
  have record : (component (.field name policy wrapper)).renderElement (dict entries) x =
      (component (.field name policy wrapper)).renderElement (dict (setEntry n x entries)) x :=
    Eval.Matches.eq
      (fun context => renderElement_matches (Accepted.isElement parts ha.holds.2)
        (fun hc => (ha.valid.2.2 hc).2) (hi.agreeOn texts x entries context) x)
      fun context state => (renderElement_dict_ends ha entries x context state).mono
        (fun _ _ => trivial) fun _ => Blocks.ne_noAttribute
  rw [renderPlain, renderField, renderFieldWith_eq rfl, field_dict hn, pure_bind,
    lookup_setEntry_self, record, renderElement_policy name policy (component .plain)]
  rfl

theorem renderField_dict {c : Component Value} (hk : c.kind.isPolicy) (hn : name.text? = some n) :
    renderField (fieldBy name wrapper c) (dict entries) =
      renderByKind render (fieldBy name wrapper c) (component c) (dict entries)
        ((entries.lookup n).getD null) c.kind := by
  rw [renderField, renderFieldWith_eq hk, field_dict hn, pure_bind]

def listed (v : Value) : Value := if v.truthy then v else tuple []

theorem forEach_listed {α : Type} (items : List Value) (action : Value → Eval α) :
    (listed (list items)).forEach action = items.mapM action := by
  cases items <;> rfl

theorem forEach_listed_of_false {α : Type} {v : Value} (hv : v.truthy = false)
    (action : Value → Eval α) : (listed v).forEach action = pure [] := by
  simp only [listed, hv, Bool.false_eq_true, if_false, forEach_tuple, List.mapM_nil]

section Policy

variable {field record default function item v : Value}

theorem isNull_eq_false (h : v ≠ null) : v.isNull = false := by
  rwa [← Bool.not_eq_true, isNull_iff]

theorem isNull_null : null.isNull = true := rfl

theorem renderOptional_absent (field record function : Value) :
    field.renderOptional (component (.optional null function)) record null = pure "" := by
  simp only [renderOptional, slot_optional_default, pure_bind, isNull_null, if_true]

theorem renderOptional_default (hd : default ≠ null) :
    field.renderOptional (component (.optional default function)) record null =
      field.renderElement record default := by
  simp only [renderOptional, slot_optional_default, pure_bind, isNull_null, if_true,
    isNull_eq_false hd, Bool.false_eq_true, if_false]

theorem renderOptional_present (hv : v ≠ null) :
    field.renderOptional (component (.optional default null)) record v =
      field.renderElement record v := by
  simp only [renderOptional, slot_optional_map, pure_bind, isNull_null, if_true, isNull_eq_false hv,
    Bool.false_eq_true, if_false]

theorem renderOptional_mapped (hv : v ≠ null) (hf : function ≠ null) :
    field.renderOptional (component (.optional default function)) record v =
      function.applyMapping v >>= field.renderElement record := by
  simp only [renderOptional, slot_optional_map, pure_bind, isNull_eq_false hv, isNull_eq_false hf,
    Bool.false_eq_true, if_false]

theorem renderList_flat (render : Value → Value → Eval String) (field record v : Value) :
    renderList render field (component (.list null)) record v =
      String.join <$> (listed v).forEach (field.renderElement record) := by
  have bare : (bool !null.isNull).truthy = false := rfl
  simp only [renderList, nested_slot, bare, listed, pure_bind, map_eq_pure_bind, Bool.not_false,
    if_true]

theorem renderElement_text {name wrapper element : Value} (policy : Value)
    (he : (component (.field name policy wrapper)).fieldElement = pure element)
    (hc : element.IsElement) (hn : element.content = null) (record : Value) (s : String) :
    (component (.field name policy wrapper)).renderElement record (text s) =
      element.wrap record (text s) := by
  obtain @⟨tag, content, before, after, attributes, sources, -, -⟩ := hc
  obtain rfl : content = null := hn
  have same : (text s).toText = pure s := rfl
  simp only [renderElement, he, renderContent, isNull_null, if_true, pure_bind, same]

theorem renderList_nested {name wrapper element shown : Value} (hi : item ≠ null)
    (he : (component (.field name (component (.list item)) wrapper)).fieldElement = pure element)
    (hs : item.displayName = pure shown) (hc : element.IsElement) (hn : element.content = null) :
    renderList render (component (.field name (component (.list item)) wrapper))
      (component (.list item)) record v = (do
        Eval.log (.renderedList name shown)
        let inner ← (listed v).forEach (render item)
        (component (.field name (component (.list item)) wrapper)).renderElement record
          (text (String.join inner))) := by
  have through : (bool !item.isNull).truthy = true := by rw [isNull_eq_false hi]; rfl
  simp only [renderElement_text _ he hc hn, renderList, nested_slot, through, listed, slot_list_item,
    slot_field_name, hs, he, pure_bind, Bool.not_true, Bool.false_eq_true, if_false]

theorem wrap_text {element : Value} {context : Context} {p : Prop} {bad : Failure → Prop}
    (h : element.Fits record context p bad) :
    ∃ around : Except Failure (String × String), ∀ s state,
      (element.wrap record (text s)).outcome context state =
        (around.map fun (opening, closing) => opening ++ s ++ closing, state) := by
  obtain ⟨closing, hclose, hopen⟩ := openTag_ends {} h
  obtain ⟨before, after, b, a, hbefore, hafter, hb, ha, -⟩ := surround_eq h
  obtain ⟨result, opened⟩ := openTag_stateless h.checked context
  rw [Eval.Ends, opened] at hopen
  cases result with
  | error f =>
    exact ⟨.error f, fun s state => by rw [wrap, Eval.outcome_bind_error (opened state)]; rfl⟩
  | ok w =>
    obtain ⟨-, opening, rfl, -⟩ := hopen
    refine ⟨.ok (opening ++ b, a ++ closing), fun s state => ?_⟩
    rw [wrap, Eval.outcome_bind_ok (opened state), hbefore, pure_bind, hafter, pure_bind, hclose,
      pure_bind, join_surround hb ha, Eval.outcome_pure]
    rfl

end Policy

theorem render_without {before after : List Value} {f element label type record : Value}
    (ha : Accepted (component (.schema (before ++ f :: after) element label type)))
    (hf : renderField f record = pure "") :
    render (component (.schema (before ++ f :: after) element label type)) record =
      render (component (.schema (before ++ after) element label type)) record := by
  have written : renderFieldWith render f record = pure "" := hf
  have around (context : Context) : element = null ∨ element.Fits record context False fun _ => True := by
    refine ha.holds.2.imp id fun hk => ?_
    have accepted := ha.parts element (List.mem_append_right _ (mem_present.2 ⟨hk.ne_null, rfl⟩))
    have fills : record.Fills context False (fun _ => True) element.elementArgs
        element.elementEncodedArgs :=
      ⟨fun _ _ => trivial, fun _ _ _ _ => trivial, fun _ _ _ _ => trivial, False.elim⟩
    exact fits_of_accepted accepted hk (fun hc => absurd ha.valid.1 hc) fills False.elim False.elim
  rw [render_eq, render_eq]
  simp only [renderWith, slot_schema_element, slot_schema_fields, pure_bind, forEach_tuple]
  refine Eval.bind_congr fun context state start mid ho => ?_
  obtain ⟨finish, hfinish, finishTexts, started⟩ := recordStart_ends state (around context)
  rw [Eval.Ends, ho] at started
  have startTexts := started.2.1
  simp only [hfinish, List.mapM_append, List.mapM_cons, written, bind_assoc, pure_bind]
  refine bind_congr fun first => bind_congr fun rest => ?_
  have texts (fragments : List String) :
      ∀ part ∈ start ++ fragments.map text ++ finish, part.isText := by
    simp only [List.mem_append, List.mem_map]
    rintro part ((hm | ⟨t, -, rfl⟩) | hm)
    · exact startTexts part hm
    · rfl
    · exact finishTexts part hm
  rw [join_texts (texts _), join_texts (texts _)]
  refine congrArg Pure.pure (String.toList_injective ?_)
  simp only [toList_intercalate_empty]
  simp

/-- How the policies render a dictionary with the value under the name of the field, in terms of the
plain one. A flat list is written item by item; a nested one is written once around all items. -/
structure Reduces (name wrapper : Value) (n : String) (entries : List (String × Value)) (v : Value)
    (plain : Value → Eval String) : Prop where
  total {policy : Component Value} : Accepted (fieldBy name wrapper policy) →
    Accepted (fieldBy name wrapper .plain) ∧
      ∀ context x, ∃ result, (∀ state, (plain x).outcome context state = (result, state)) ∧
        ∀ f, result = .error f → Blocks context wrapper (dict entries) x f
  absent {function : Value} : Accepted (fieldBy name wrapper (.optional null function)) → v = null →
    renderField (fieldBy name wrapper (.optional null function)) (dict entries) = pure ""
  skipped {function element label type : Value} {before after : List Value} :
    Accepted (component (.schema
      (before ++ fieldBy name wrapper (.optional null function) :: after) element label type)) →
    v = null →
      render (component (.schema
        (before ++ fieldBy name wrapper (.optional null function) :: after) element label type))
        (dict entries) =
      render (component (.schema (before ++ after) element label type)) (dict entries)
  default {instead function : Value} :
    Accepted (fieldBy name wrapper (.optional instead function)) → v = null → instead ≠ null →
      renderField (fieldBy name wrapper (.optional instead function)) (dict entries) = plain instead
  present {instead : Value} : Accepted (fieldBy name wrapper (.optional instead null)) → v ≠ null →
    renderField (fieldBy name wrapper (.optional instead null)) (dict entries) = plain v
  map {function : Value} : Accepted (fieldBy name wrapper (.map function)) →
    renderField (fieldBy name wrapper (.map function)) (dict entries) =
      function.applyMapping v >>= plain
  optionalMap {instead function : Value} :
    Accepted (fieldBy name wrapper (.optional instead function)) → v ≠ null → function ≠ null →
      renderField (fieldBy name wrapper (.optional instead function)) (dict entries) =
        function.applyMapping v >>= plain
  flat : Accepted (fieldBy name wrapper (.list null)) →
    renderField (fieldBy name wrapper (.list null)) (dict entries) =
      String.join <$> (listed v).forEach plain
  flatItems (items : List Value) : Accepted (fieldBy name wrapper (.list null)) →
    renderField (fieldBy name wrapper (.list null)) (dict (setEntry n (list items) entries)) =
      String.join <$> items.mapM plain
  flatAppend (xs ys : List Value) : Accepted (fieldBy name wrapper (.list null)) →
    renderField (fieldBy name wrapper (.list null)) (dict (setEntry n (list (xs ++ ys)) entries)) = do
      let first ← renderField (fieldBy name wrapper (.list null)) (dict (setEntry n (list xs) entries))
      let rest ← renderField (fieldBy name wrapper (.list null)) (dict (setEntry n (list ys) entries))
      return first ++ rest
  flatEmpty : Accepted (fieldBy name wrapper (.list null)) → v.truthy = false →
    renderField (fieldBy name wrapper (.list null)) (dict entries) = pure ""
  nested {item : Value} : Accepted (fieldBy name wrapper (.list item)) → item ≠ null →
    ∃ shown, item.displayName = pure shown ∧
      (renderField (fieldBy name wrapper (.list item)) (dict entries) = do
        Eval.log (.renderedList name shown)
        let inner ← (listed v).forEach (render item)
        plain (text (String.join inner))) ∧
      (v.truthy = false → renderField (fieldBy name wrapper (.list item)) (dict entries) = do
        Eval.log (.renderedList name shown)
        plain (text "")) ∧
      ∃ element, (fieldBy name wrapper (.list item)).fieldElement = pure element ∧
        (∀ s, plain (text s) = element.wrap (dict entries) (text s)) ∧
        ∀ context, ∃ around : Except Failure (String × String), ∀ s state,
          (plain (text s)).outcome context state =
            (around.map fun (opening, closing) => opening ++ s ++ closing, state)

theorem renderField_flat (ha : Accepted (fieldBy name wrapper (.list null))) (hn : name.text? = some n)
    (hi : wrapper.Ignores n) (entries : List (String × Value)) :
    renderField (fieldBy name wrapper (.list null)) (dict entries) =
      String.join <$> (listed ((entries.lookup n).getD null)).forEach
        (renderPlain name wrapper n entries) := by
  rw [renderField_dict rfl hn, Component.kind, renderByKind, renderList_flat,
    renderElement_eq ha hn hi]

theorem renderField_flat_list (ha : Accepted (fieldBy name wrapper (.list null)))
    (hn : name.text? = some n) (hi : wrapper.Ignores n) (entries : List (String × Value))
    (items : List Value) :
    renderField (fieldBy name wrapper (.list null)) (dict (setEntry n (list items) entries)) =
      String.join <$> items.mapM (renderPlain name wrapper n entries) := by
  rw [renderField_flat ha hn hi, lookup_setEntry_self, Option.getD_some, forEach_listed,
    funext (renderPlain_setEntry (list items))]

theorem nested_element {item : Value} (ha : Accepted (fieldBy name wrapper (.list item)))
    (hi : item ≠ null) (entries : List (String × Value)) :
    ∃ element : Value, (fieldBy name wrapper (.list item)).fieldElement = pure element ∧
      element.content = null ∧
        ∀ context, element.Fits (dict entries) context False
          (Blocks context wrapper (dict entries) null) := by
  have empty : wrapper.content = null := by
    refine Classical.byContradiction fun hc => ?_
    have none := (ha.valid.2.2 hc).1
    rw [inner?, isNull_eq_false hi] at none
    cases none
  obtain ⟨element, he, -, -, hc⟩ := fieldElement_eq name (component (.list item))
    (Accepted.isElement (Accepted.wrapper_parts ha) ha.holds.2)
  refine ⟨element, he, hc.trans empty, fun context => ?_⟩
  obtain ⟨other, ho, fits⟩ := fieldElement_dict ha entries null context
  rwa [Eval.pure_inj (he.symm.trans ho)]

theorem renderField_nested {item shown : Value} (ha : Accepted (fieldBy name wrapper (.list item)))
    (hn : name.text? = some n) (hi : wrapper.Ignores n) (hitem : item ≠ null)
    (hs : item.displayName = pure shown) (entries : List (String × Value)) :
    renderField (fieldBy name wrapper (.list item)) (dict entries) = (do
      Eval.log (.renderedList name shown)
      let inner ← (listed ((entries.lookup n).getD null)).forEach (render item)
      renderPlain name wrapper n entries (text (String.join inner))) := by
  obtain ⟨element, he, hc, fits⟩ := nested_element ha hitem entries
  rw [renderField_dict rfl hn, Component.kind, renderByKind,
    renderList_nested hitem he hs (fits { mappings := fun _ v => .ok v }).checked hc, renderElement_eq ha hn hi]

end Value

end RecordMarkup

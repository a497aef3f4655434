import RecordMarkup.Proofs.Render.AttributeOrder
import RecordMarkup.Proofs.Render.Inert

namespace RecordMarkup

open Value (attributeText text tuple component ordered fragment InOrder)

namespace Markup

/-- How far attributes have been read: whole ones, or up to somewhere in a name, to the equals sign, or
to somewhere in a value. What was read of a name or a value comes last character first. -/
inductive Reader
  | whole
  | name (read : List Char)
  | equals (name : String)
  | value (name : String) (read : List Char)

def Reader.run : Reader → List Char → Option (List (String × String))
  | whole, [] => some []
  | whole, ' ' :: cs => run (name []) cs
  | name read, '=' :: cs => run (equals (.ofList read.reverse)) cs
  | name read, c :: cs => run (name (c :: read)) cs
  | equals n, '"' :: cs => run (value n []) cs
  | value n read, '"' :: cs => ((n, .ofList read.reverse) :: ·) <$> run whole cs
  | value n read, c :: cs => run (value n (c :: read)) cs
  | _, _ => none

/-- Reads attributes: each is a space, a name up to the first equals sign, and a value between
quotation marks. -/
def readAttributes (s : String) : Option (List (String × String)) := Reader.whole.run s.toList

namespace Reader

theorem run_name {name : List Char} (h : '=' ∉ name) (read rest : List Char) :
    (Reader.name read).run (name ++ '=' :: rest) =
      (equals (.ofList (read.reverse ++ name))).run rest := by
  induction name generalizing read with
  | nil => simp [run]
  | cons c cs ih =>
    obtain ⟨hc, h⟩ := not_or.1 (mt List.mem_cons.2 h)
    rw [List.cons_append, run, ih h]
    · simp
    · exact fun he => hc he.symm

theorem run_value {value : List Char} (h : '"' ∉ value) (n : String) (read rest : List Char) :
    (Reader.value n read).run (value ++ '"' :: rest) =
      ((n, .ofList (read.reverse ++ value)) :: ·) <$> whole.run rest := by
  induction value generalizing read with
  | nil => simp [run]
  | cons c cs ih =>
    obtain ⟨hc, h⟩ := not_or.1 (mt List.mem_cons.2 h)
    rw [List.cons_append, run, ih h]
    · simp
    · exact fun he => hc he.symm

theorem run_attributeText {name value : String} (hn : '=' ∉ name.toList) (hv : '"' ∉ value.toList)
    (rest : List Char) :
    whole.run ((attributeText name value).toList ++ rest) =
      ((name, value) :: ·) <$> whole.run rest := by
  have text : (attributeText name value).toList ++ rest =
      ' ' :: (name.toList ++ '=' :: '"' :: (value.toList ++ '"' :: rest)) := by
    simp [attributeText]
  rw [text, run, run_name hn, run, run_value hv]
  simp

end Reader

theorem readAttributes_join {pairs : List (String × String)}
    (h : ∀ p ∈ pairs, '=' ∉ p.1.toList ∧ '"' ∉ p.2.toList) :
    readAttributes (String.join (pairs.map fun p => attributeText p.1 p.2)) = some pairs := by
  induction pairs with
  | nil => rfl
  | cons p pairs ih =>
    obtain ⟨⟨hn, hv⟩, h⟩ := List.forall_mem_cons.1 h
    rw [readAttributes] at ih ⊢
    rw [List.map_cons, String.join_cons, String.toList_append, Reader.run_attributeText hn hv, ih h]
    rfl

end Markup

namespace Text

theorem equals_not_mem_of_isAttributeKey {s : String} (h : isAttributeKey s) : '=' ∉ s.toList := by
  have other : ∀ c ∈ s.toList, c ≠ '=' := by
    refine (isAttributeKey_iff.1 h).forall_mem (fun cs key c hc => ?_) (by decide)
    rintro rfl
    exact (key.2 _ hc).2 (by decide)
  exact fun hm => other _ hm rfl

end Text

theorem Method.equals_not_mem_word (m : Method) : '=' ∉ m.word.toList := by
  cases m <;> decide

namespace Value

variable {context : Context} {state after : State} {record s : Value} {sources : List Value}

/-- The value comes from the constructor of an attribute, with a plain text for its key. -/
inductive IsConstructed : Value → Prop
  | static {key : String} {value s : Value} {context : Context} {state after : State}
      (h : (Build.static (text key) value).outcome context state = (.ok s, after)) : IsConstructed s
  | dynamic {key : String} {expr s : Value} {context : Context} {state after : State}
      (h : (Build.dynamic (text key) expr).outcome context state = (.ok s, after)) : IsConstructed s
  | requestAttr {key : String} {value s : Value} {context : Context} {state after : State}
      (h : (Build.requestAttr (text key) value).outcome context state = (.ok s, after)) :
      IsConstructed s
  | request {name path encode s : Value} {context : Context} {state after : State}
      (h : (Build.request name path encode).outcome context state = (.ok s, after)) : IsConstructed s

inductive IsKeyed : Value → Prop
  | static {key : String} (value : Value) (h : Text.isAttributeKey key) :
      IsKeyed (component (.static (text key) value))
  | dynamic {key : String} (expr : Value) (h : Text.isAttributeKey key) :
      IsKeyed (component (.dynamic (text key) expr))
  | requestAttr {key : String} (value : Value) (h : Text.isAttributeKey key) :
      IsKeyed (component (.requestAttr (text key) value))
  | request (m : Method) (path encode : Value) : IsKeyed (component (.request m path encode))

theorem IsConstructed.isKeyed (h : s.IsConstructed) : s.IsKeyed := by
  cases h with
  | static h =>
    obtain ⟨rfl, mid, hd⟩ := Component.accept_ok h
    simp only [defects_component] at hd
    have valid := (literalDefects_decides rfl rfl).holds hd
    exact .static _ valid.1
  | dynamic h =>
    obtain ⟨format, mid, -, h⟩ := Eval.of_bind_ok h
    obtain ⟨rfl, mid, hd⟩ := Component.accept_ok h
    simp only [defects_component] at hd
    exact .dynamic _ (dynamic_key hd)
  | requestAttr h =>
    obtain ⟨rfl, mid, hd⟩ := Component.accept_ok h
    simp only [defects_component] at hd
    have valid := (literalDefects_decides rfl rfl).holds hd
    exact .requestAttr _ valid.1
  | request h =>
    obtain ⟨m, mid, -, h⟩ := Eval.of_bind_ok h
    obtain ⟨format, mid, -, h⟩ := Eval.of_bind_ok h
    obtain ⟨rfl, -⟩ := Component.accept_ok h
    exact .request m _ _

def attributeName (space : String) : Value → String
  | component (.static key _) | component (.dynamic key _) => key.display
  | component (.requestAttr key _) =>
    if space.toList.isPrefixOf key.display.toList then key.display else space ++ key.display
  | component (.request m _ _) => space ++ m.word
  | _ => ""

def attributeValue (record : Value) : Value → Eval String
  | component (.static _ value) | component (.requestAttr _ value) => return value.display
  | component (.dynamic _ expr) => return (← expr.evaluate record []).display
  | component (.request _ path encode) => do
    let values ← (← path.slot "args").forEach record.field
    let values ← pathValues encode values
    (← path.slot "template").substitute values
  | _ => return ""

def attributePair (record s : Value) : Eval (String × String) := do
  let space := (← Eval.settings).requestNamespace
  return (attributeName space s, ← attributeValue record s)

theorem display_text (s : String) : (text s).display = s := rfl

theorem IsKeyed.isAttribute (h : s.IsKeyed) : s.IsAttribute := by
  cases h <;> exact isAttribute_component rfl

theorem IsKeyed.equals_not_mem (h : s.IsKeyed) {space : String} (hs : '=' ∉ space.toList) :
    '=' ∉ (attributeName space s).toList := by
  cases h with
  | static value hk => exact Text.equals_not_mem_of_isAttributeKey hk
  | dynamic expr hk => exact Text.equals_not_mem_of_isAttributeKey hk
  | requestAttr value hk =>
    have key := Text.equals_not_mem_of_isAttributeKey hk
    rw [attributeName]
    split
    · exact key
    · rw [display_text, String.toList_append, List.mem_append, not_or]
      exact ⟨hs, key⟩
  | request m path encode =>
    rw [attributeName, String.toList_append, List.mem_append, not_or]
    exact ⟨hs, m.equals_not_mem_word⟩

theorem requestAttrName_text (key : String) (value : Value) (context : Context) (state : State) :
    (requestAttrName (text key)).outcome context state =
      (.ok (text (attributeName context.settings.requestNamespace
        (component (.requestAttr (text key) value)))), state) := by
  have lies (space : String) : (text key).liesIn space = pure (space.toList.isPrefixOf key.toList) :=
    liesIn_eq rfl space
  have named (space : String) : attributeName space (component (.requestAttr (text key) value)) =
      if space.toList.isPrefixOf key.toList then key else space ++ key := rfl
  rw [requestAttrName, Eval.outcome_bind_ok (Eval.outcome_settings ..), named]
  simp only [lies, pure_bind, Eval.outcome_pure]
  split <;> rfl

theorem attributePair_outcome (f : String × String → String) (context : Context) (state : State) :
    (f <$> attributePair record s).outcome context state =
      ((fun v => f (attributeName context.settings.requestNamespace s, v)) <$>
        attributeValue record s).outcome context state := by
  simp only [attributePair, map_eq_pure_bind, bind_assoc, pure_bind]
  rw [Eval.outcome_bind_ok (Eval.outcome_settings ..)]

theorem IsKeyed.fragment_eq (h : s.IsKeyed) :
    fragment record s = (fun p => attributeText p.1 p.2) <$> attributePair record s := by
  refine Eval.ext fun context state => ?_
  rw [attributePair_outcome, fragment]
  cases h with
  | static value hk =>
    simp [tag_kind_component, Component.kind, renderAttribute, renderStatic, attributeValue,
      attributeName]
  | dynamic expr hk =>
    simp [tag_kind_component, Component.kind, renderAttribute, renderDynamic, attributeValue,
      attributeName]
  | @requestAttr key value hk =>
    simp only [tag_kind_component, Component.kind, renderAttribute, renderRequestAttr,
      slot_requestAttr_key, slot_requestAttr_value, pure_bind]
    rw [Eval.outcome_bind_ok (requestAttrName_text key value context state)]
    rfl
  | request m path encode =>
    simp only [tag_kind_component, Component.kind, renderAttribute, renderRequest, attributeValue,
      slot_request_path, slot_request_encode, slot_request_method, pure_bind, map_eq_pure_bind,
      bind_assoc]
    refine Eval.outcome_bind_congr fun args state => Eval.outcome_bind_congr fun values state =>
      Eval.outcome_bind_congr fun values state => ?_
    rw [Eval.outcome_bind_ok (slot_method_attribute m context state)]
    rfl

theorem mapM_fragment {attributes : List Value} (h : ∀ s ∈ attributes, s.IsKeyed) :
    attributes.mapM (fragment record) =
      (List.map fun p => attributeText p.1 p.2) <$> attributes.mapM (attributePair record) := by
  induction attributes with
  | nil => rfl
  | cons s attributes ih =>
    obtain ⟨hs, h⟩ := List.forall_mem_cons.1 h
    rw [List.mapM_cons, List.mapM_cons, hs.fragment_eq, ih h]
    simp

theorem renderAttributes_pairs (h : ∀ s ∈ sources, s.IsKeyed) :
    (tuple sources).renderAttributes record =
      (fun pairs => String.join (pairs.map fun p => attributeText p.1 p.2)) <$>
        (ordered sources).mapM (attributePair record) := by
  have sorted : ∀ s ∈ ordered sources, s.IsKeyed := fun s hs =>
    h s ((perm_ordered fun s hs => (h s hs).isAttribute).mem_iff.1 hs)
  rw [renderAttributes_eq fun s hs => (h s hs).isAttribute.tagged, mapM_fragment sorted]
  simp

theorem equals_not_mem_names {attributes : List Value} {pairs : List (String × String)}
    (h : ∀ s ∈ attributes, s.IsKeyed) (hs : '=' ∉ context.settings.requestNamespace.toList)
    (hp : (attributes.mapM (attributePair record)).outcome context state = (.ok pairs, after)) :
    ∀ p ∈ pairs, '=' ∉ p.1.toList := by
  intro p hm
  obtain ⟨s, hsm, before, last, given⟩ := exists_of_mem_right (Eval.rows_of_mapM_ok hp) hm
  rw [attributePair, Eval.outcome_bind_ok (Eval.outcome_settings ..)] at given
  obtain ⟨value, mid, -, given⟩ := Eval.of_bind_ok given
  obtain rfl : _ = p := Except.ok.inj (Prod.mk.inj given).1
  exact (h s hsm).equals_not_mem hs

/-- Constructed attributes are written as the text, by names and values without quotation marks among
the values. -/
structure Writes (context : Context) (record : Value) (sources : List Value) (written : String)
    (pairs : List (String × String)) : Prop where
  constructed : ∀ s ∈ sources, s.IsConstructed
  space : '=' ∉ context.settings.requestNamespace.toList
  run : ∃ state after, ((ordered sources).mapM (attributePair record)).outcome context state =
      (.ok pairs, after) ∧
    ((tuple sources).renderAttributes record).outcome context state = (.ok written, after)
  values : ∀ p ∈ pairs, '"' ∉ p.2.toList

theorem Writes.read {written : String} {pairs : List (String × String)}
    (h : Writes context record sources written pairs) :
    Markup.readAttributes written = some pairs := by
  have keyed : ∀ s ∈ sources, s.IsKeyed := fun s hs => (h.constructed s hs).isKeyed
  obtain ⟨state, after, hp, hw⟩ := h.run
  rw [renderAttributes_pairs keyed, map_eq_pure_bind, Eval.outcome_bind_ok hp] at hw
  obtain rfl : _ = written := Except.ok.inj (Prod.mk.inj hw).1
  have sorted : ∀ s ∈ ordered sources, s.IsKeyed := fun s hs =>
    keyed s ((perm_ordered fun s hs => (keyed s hs).isAttribute).mem_iff.1 hs)
  have names := equals_not_mem_names sorted h.space hp
  exact Markup.readAttributes_join fun p hm => ⟨names p hm, h.values p hm⟩

/-- The names and values of attributes can be read off what is written of them, whatever the values
are, except for quotation marks. So whatever else is written so has the same names and values. -/
theorem renderAttributes_decodable {written : String} (made : ∀ s ∈ sources, s.IsConstructed)
    (space : '=' ∉ context.settings.requestNamespace.toList)
    (rendered : ((tuple sources).renderAttributes record).outcome context state =
      (.ok written, after)) :
    InOrder sources (ordered sources) ∧ ∃ pairs,
      ((ordered sources).mapM (attributePair record)).outcome context state = (.ok pairs, after) ∧
      ((∀ p ∈ pairs, '"' ∉ p.2.toList) → Markup.readAttributes written = some pairs ∧
        ∀ (other : Context) (record' : Value) (sources' : List Value)
          (pairs' : List (String × String)),
          Writes other record' sources' written pairs' → pairs' = pairs) := by
  have keyed : ∀ s ∈ sources, s.IsKeyed := fun s hs => (made s hs).isKeyed
  refine ⟨inOrder_ordered fun s hs => (keyed s hs).isAttribute, ?_⟩
  have run := rendered
  rw [renderAttributes_pairs keyed, map_eq_pure_bind] at run
  obtain ⟨pairs, mid, hp, hw⟩ := Eval.of_bind_ok run
  obtain rfl : mid = after := (Prod.mk.inj hw).2
  refine ⟨pairs, hp, fun values => ?_⟩
  have read := Writes.read ⟨made, space, ⟨_, _, hp, rendered⟩, values⟩
  exact ⟨read, fun other record' sources' pairs' h => Option.some.inj (h.read.symm.trans read)⟩

theorem renderAttributes_decodable_lookalikes :
    let context : Context := { mappings := fun _ v => .ok v }
    let sources := [component (.requestAttr (text "target") (text "a=b")),
      component (.static (text "title") (text " class='x' id="))]
    let written := " title=\" class='x' id=\" hx-target=\"a=b\""
    (∀ s ∈ sources, s.IsConstructed) ∧ '=' ∉ context.settings.requestNamespace.toList ∧
      ((tuple sources).renderAttributes null).outcome context {} = (.ok written, {}) ∧
      Markup.readAttributes written = some [("title", " class='x' id="), ("hx-target", "a=b")] := by
  intro context sources written
  have target : (Build.requestAttr (text "target") (text "a=b")).outcome context {} =
      (.ok (component (.requestAttr (text "target") (text "a=b"))), {}) := rfl
  have title : (Build.static (text "title") (text " class='x' id=")).outcome context {} =
      (.ok (component (.static (text "title") (text " class='x' id="))), {}) := rfl
  have made : ∀ s ∈ sources, s.IsConstructed :=
    List.forall_mem_cons.2 ⟨.requestAttr target, List.forall_mem_singleton.2 (.static title)⟩
  have space : '=' ∉ context.settings.requestNamespace.toList := by decide
  have order : ordered sources = [component (.static (text "title") (text " class='x' id=")),
      component (.requestAttr (text "target") (text "a=b"))] := by
    simp [sources, ordered, attributeOrder, hasKind_component, Component.kind]
  have run : ((ordered sources).mapM (attributePair null)).outcome context {} =
      (.ok [("title", " class='x' id="), ("hx-target", "a=b")], {}) := by
    have name : attributeName "hx-" (component (.requestAttr (text "target") (text "a=b"))) =
        "hx-target" := by decide
    have value : (attributePair null (component (.requestAttr (text "target") (text "a=b")))).outcome
        context {} = (.ok ("hx-target", "a=b"), {}) := by
      rw [← name]
      rfl
    have own : (attributePair null (component (.static (text "title")
        (text " class='x' id=")))).outcome context {} = (.ok ("title", " class='x' id="), {}) := rfl
    simp only [order, List.mapM_cons, List.mapM_nil, pure_bind, bind_assoc]
    rw [Eval.outcome_bind_ok own, Eval.outcome_bind_ok value, Eval.outcome_pure]
  have rendered : ((tuple sources).renderAttributes null).outcome context {} = (.ok written, {}) := by
    rw [renderAttributes_pairs fun s hs => (made s hs).isKeyed, map_eq_pure_bind,
      Eval.outcome_bind_ok run, Eval.outcome_pure]
    rfl
  obtain ⟨-, pairs, hp, read⟩ := renderAttributes_decodable made space rendered
  obtain rfl := Except.ok.inj (Prod.mk.inj (run.symm.trans hp)).1
  exact ⟨made, space, rendered, (read (by decide)).1⟩

end Value

end RecordMarkup

import RecordMarkup.Proofs.Component.Accepted
import RecordMarkup.Proofs.Text.Name
import RecordMarkup.Render.Element

namespace RecordMarkup

open Value (text tuple null component)
open Text (IsField IsTag IsKey UpToLineFeed)

namespace Eval

variable {α β : Type} {context : Context} {state : State}

def Succeeds (action : Eval α) (context : Context) (state : State) : Prop :=
  ∃ a after, action.outcome context state = (.ok a, after)

theorem succeeds_bind {action : Eval α} {next : α → Eval β} :
    (action >>= next).Succeeds context state ↔
      ∃ a mid, action.outcome context state = (.ok a, mid) ∧ (next a).Succeeds context mid := by
  constructor
  · rintro ⟨b, after, h⟩
    obtain ⟨a, mid, ha, hb⟩ := of_bind_ok h
    exact ⟨a, mid, ha, b, after, hb⟩
  · rintro ⟨a, mid, ha, b, after, hb⟩
    exact ⟨b, after, by rw [outcome_bind_ok ha, hb]⟩

def Clear (check : Eval (List Defect)) (context : Context) (state : State) : Prop :=
  ∃ after, check.outcome context state = (.ok [], after)

end Eval

open Eval (Clear)

inductive SameVerdict :
    Except Failure (List Defect) × State → Except Failure (List Defect) × State → Prop
  | ok {ds es : List Defect} {s : State} (h : ds = [] ↔ es = []) : SameVerdict (.ok ds, s) (.ok es, s)
  | error {f g : Failure} {s t : State} : SameVerdict (.error f, s) (.error g, t)

def Agree (a b : Eval (List Defect)) : Prop :=
  ∀ context state, SameVerdict (a.outcome context state) (b.outcome context state)

namespace Agree

variable {α : Type} {a b : Eval (List Defect)} {context : Context} {state : State}

theorem refl (a : Eval (List Defect)) : Agree a a := by
  intro context state
  match a.outcome context state with
  | (.ok ds, s) => exact .ok Iff.rfl
  | (.error f, s) => exact .error

theorem pure {ds es : List Defect} (h : ds = [] ↔ es = []) : Agree (Pure.pure ds) (Pure.pure es) :=
  fun _ _ => .ok h

theorem bind {f g : List Defect → Eval (List Defect)} (h : Agree a b)
    (hfg : ∀ ds es : List Defect, (ds = [] ↔ es = []) → Agree (f ds) (g es)) :
    Agree (a >>= f) (b >>= g) := by
  intro context state
  have verdict := h context state
  rw [Eval.outcome_bind, Eval.outcome_bind]
  generalize a.outcome context state = left at verdict ⊢
  generalize b.outcome context state = right at verdict ⊢
  cases verdict with
  | ok h => exact hfg _ _ h context _
  | error => exact .error

theorem bind_right {action : Eval α} {f g : α → Eval (List Defect)} (h : ∀ r, Agree (f r) (g r)) :
    Agree (action >>= f) (action >>= g) := by
  intro context state
  rw [Eval.outcome_bind, Eval.outcome_bind]
  match action.outcome context state with
  | (.ok r, s) => exact h r context s
  | (.error f, s) => exact .error

theorem clear_iff (h : Agree a b) : Clear a context state ↔ Clear b context state := by
  have verdict := h context state
  rw [Clear, Clear]
  generalize a.outcome context state = left at verdict ⊢
  generalize b.outcome context state = right at verdict ⊢
  cases verdict with
  | @ok ds es s h => simp [h]
  | error => simp

end Agree

theorem Decides.agree {a b : Eval (List Defect)} {p : Prop} (ha : Decides a p) (hb : Decides b p) :
    Agree a b := by
  obtain ⟨ds, rfl, hd⟩ := ha
  obtain ⟨es, rfl, he⟩ := hb
  exact .pure (hd.trans he.symm)

theorem Component.accept_succeeds {c : Component Value} {context : Context} {state : State} :
    c.accept.Succeeds context state ↔ Clear (component c).defects context state := by
  constructor
  · rintro ⟨v, after, h⟩
    exact (accept_ok h).2
  · rintro ⟨mid, h⟩
    exact ⟨component c, mid, by rw [accept, Eval.outcome_bind_ok h]; rfl⟩

structure TestsName (check : Value → Eval (List Defect)) (test : String → Bool) : Prop where
  holds {context : Context} {state : State} {v : Value} (hv : v.isText)
    (h : Clear (check v) context state) : v.isTextWhere test
  agree {v w : Value} (hv : v.isTextWhere test) (hw : w.isTextWhere test) : Agree (check v) (check w)

/-- The text is accepted exactly if it is a word, up to a line feed, provided that some text is accepted. -/
def Recognizes (build : Value → Eval Value) (word : List Char → Prop) (s : String) : Prop :=
  ∀ (context : Context) (state : State) (v w : Value), v.text? = some s → w.isText →
    (build w).Succeeds context state → ((build v).Succeeds context state ↔ UpToLineFeed word s)

section Recognizes

variable {α : Type} {build : Value → Eval Value} {word : List Char → Prop} {test : String → Bool}
  {s : String}

theorem Recognizes.bind {action : Eval α} {next : α → Value → Eval Value}
    (h : ∀ a, Recognizes (next a) word s) :
    Recognizes (fun v => action >>= fun a => next a v) word s := by
  intro context state v w hv hw accepted
  obtain ⟨a, mid, ha, accepted⟩ := Eval.succeeds_bind.1 accepted
  rw [← h a context mid v w hv hw accepted, Eval.succeeds_bind]
  constructor
  · rintro ⟨a', mid', ha', hv⟩
    obtain ⟨same, rfl⟩ := Prod.mk.inj (ha.symm.trans ha')
    exact Except.ok.inj same ▸ hv
  · exact fun hv => ⟨a, mid, ha, hv⟩

theorem Recognizes.iff (h : Recognizes build word s) {w : Value} {context : Context} {state : State}
    (hw : w.isText) (accepted : (build w).Succeeds context state) :
    (build (text s)).Succeeds context state ↔ UpToLineFeed word s :=
  h context state (text s) w rfl hw accepted

theorem Recognizes.congr {other : Value → Eval Value} (h : Recognizes other word s)
    (he : ∀ v : Value, v.isText → build v = other v) : Recognizes build word s := by
  intro context state v w hv hw
  rw [he v (by simp [Value.isText, hv]), he w hw]
  exact h context state v w hv hw

theorem TestsName.recognizes {make : Value → Component Value}
    (h : TestsName (fun v => (component (make v)).defects) test)
    (ht : test s ↔ UpToLineFeed word s) : Recognizes (fun v => (make v).accept) word s := by
  intro context state v w hv hw accepted
  rw [Component.accept_succeeds] at accepted ⊢
  have tested : v.isTextWhere test ↔ UpToLineFeed word s := by
    rw [← ht, Value.isTextWhere, hv]
  rw [← tested]
  refine ⟨h.holds (by simp [Value.isText, hv]), fun good => ?_⟩
  exact (h.agree good (h.holds hw accepted)).clear_iff.2 accepted

end Recognizes

section Tests

open Value

theorem Decides.testsName {check : Value → Eval (List Defect)} {test : String → Bool} {p : Prop}
    (h : ∀ v : Value, Decides (check v) (v.isTextWhere test ∧ p)) : TestsName check test where
  holds _ := fun ⟨_, clear⟩ => ((h _).holds clear).1
  agree hv hw := ((h _).iff (and_iff_right hv)).agree ((h _).iff (and_iff_right hw))

theorem mapping_testsName (function : Value) :
    TestsName (fun v => (component (.mapping v function)).defects) Text.isFieldName := by
  simp only [defects_component]
  exact Decides.testsName fun v => mappingDefects_decides v function

theorem static_testsName (value : Value) :
    TestsName (fun v => (component (.static v value)).defects) Text.isAttributeKey := by
  simp only [defects_component]
  exact Decides.testsName fun v => literalDefects_decides rfl rfl

theorem requestAttr_testsName (value : Value) :
    TestsName (fun v => (component (.requestAttr v value)).defects) Text.isAttributeKey := by
  simp only [defects_component]
  exact Decides.testsName fun v => literalDefects_decides rfl rfl

theorem format_testsName (template : Value) (front rest : List Value) :
    TestsName (fun v => (component (.format template (front ++ v :: rest))).defects)
      Text.isFieldName := by
  simp only [defects_component]
  have others (v : Value) : (∀ arg ∈ front ++ v :: rest, arg.isTextWhere Text.isFieldName) ↔
      v.isTextWhere Text.isFieldName ∧ ∀ arg ∈ front ++ rest, arg.isTextWhere Text.isFieldName := by
    simp only [List.forall_mem_append, List.forall_mem_cons]
    exact and_left_comm
  cases ht : template.text? with
  | some s =>
    have each (v : Value) : Decides (component (.format template (front ++ v :: rest))).formatDefects
        (v.isTextWhere Text.isFieldName ∧ template.IsTemplate ∧
          ∀ arg ∈ front ++ rest, arg.isTextWhere Text.isFieldName) := by
      refine (formatDefects_decides ht).iff ?_
      rw [Component.Valid, others]
      exact and_left_comm
    exact Decides.testsName each
  | none =>
    have each (v : Value) : Decides (component (.format template (front ++ v :: rest))).formatDefects
        (v.isTextWhere Text.isFieldName ∧ False) := by
      rw [formatDefects, slot_format_template, pure_bind, if_pos (by simp [isText, ht])]
      exact .pure (by simp)
    exact Decides.testsName each

theorem templateDefects_agree (format expected : Value) (place other : Place) :
    Agree (format.templateDefects expected place) (format.templateDefects expected other) := by
  unfold templateDefects
  refine .bind_right fun template => .bind_right fun read => ?_
  cases read with
  | error fault => exact .pure (by simp)
  | ok pieces =>
    refine .bind_right fun isCount => .pure ?_
    cases isCount <;> simp

theorem dynamic_testsName (expr : Value) :
    TestsName (fun v => (component (.dynamic v expr)).defects) Text.isAttributeKey where
  holds _ := fun ⟨_, clear⟩ => by
    simp only [defects_component] at clear
    exact dynamic_key clear
  agree {v w} hv hw := by
    simp only [defects_component, pure_bind, dynamicDefects, slot_dynamic_key,
      slot_dynamic_expr]
    refine .bind_right fun args => .bind_right fun count => ?_
    refine (templateDefects_agree expr _ _ _).bind fun ds es h => .pure ?_
    simpa [keyDefects, hv, hw] using h

theorem isNull_of_isText {v : Value} (h : v.isText) : v.isNull = false := by
  cases v <;> simp_all [isText, text?, isNull]

theorem element_testsName (sources : List Value) (content before after : Value) :
    TestsName (fun v => (component (.element v sources content before after)).defects)
      Text.isTagName where
  holds {context state v} hv := fun ⟨_, clear⟩ => by
    simp only [defects_component, pure_bind, elementDefects, slot_element_tag,
      isNull_of_isText hv] at clear
    obtain ⟨attributes, mid, -, clear⟩ := Eval.of_bind_ok clear
    obtain ⟨reports, mid, -, clear⟩ := Eval.of_bind_ok clear
    obtain ⟨elements, mid, -, clear⟩ := Eval.of_bind_ok clear
    obtain ⟨requests, mid, -, clear⟩ := Eval.of_bind_ok clear
    obtain ⟨surround, mid, -, clear⟩ := Eval.of_bind_ok clear
    simp only [Eval.outcome_pure, Prod.mk.injEq, Except.ok.injEq, List.append_eq_nil_iff] at clear
    simpa using clear.1.1.1.1.1
  agree {v w} hv hw := by
    simp only [defects_component, pure_bind, elementDefects, slot_element_tag,
      slot_element_attributes, surroundDefects, slot_element_before, slot_element_after, hv, hw,
      isNull_of_isText (isText_of_isTextWhere hv), isNull_of_isText (isText_of_isTextWhere hw)]
    exact .refl _

theorem itemTagDefects_agree (name other element : Value) (kind : Kind) (nested : Bool) :
    Agree (itemTagDefects name element kind nested) (itemTagDefects other element kind nested) := by
  unfold itemTagDefects
  split
  · exact .pure Iff.rfl
  · refine .bind_right fun tagless => .pure ?_
    cases tagless <;> simp

theorem fieldElementDefects_agree (name other policy element : Value) (kind : Kind)
    {errors faults : List Defect} (h : errors = [] ↔ faults = []) :
    Agree (fieldElementDefects name policy element kind errors)
      (fieldElementDefects other policy element kind faults) := by
  unfold fieldElementDefects
  refine .bind_right fun nested => (itemTagDefects_agree name other element kind nested).bind ?_
  intro ds es hd
  have both : errors ++ ds = [] ↔ faults ++ es = [] := by simp [h, hd]
  split
  · exact .pure both
  refine .bind_right fun content => ?_
  split
  · exact .pure both
  cases nested with
  | true =>
    simp only [if_true]
    rw [if_pos (by simp), if_pos (by simp)]
    exact .pure (by simp)
  | false =>
    simp only [Bool.false_eq_true, if_false]
    by_cases hn : errors ++ ds = []
    · rw [if_neg (by simp [hn]), if_neg (by simp [both.1 hn])]
      exact .bind_right fun args => .bind_right fun count => templateDefects_agree _ _ _ _
    · rw [if_pos (by simpa using hn), if_pos (by simpa using mt both.2 hn)]
      exact .pure both

theorem fieldElementDefects_clear {name policy element : Value} {kind : Kind} {errors : List Defect}
    {context : Context} {state : State}
    (h : Clear (fieldElementDefects name policy element kind errors) context state) : errors = [] := by
  obtain ⟨after, h⟩ := h
  unfold fieldElementDefects at h
  obtain ⟨nested, mid, -, h⟩ := Eval.of_bind_ok h
  obtain ⟨tags, mid, -, h⟩ := Eval.of_bind_ok h
  have first {s t : State} (h : ((pure (errors ++ tags) : Eval (List Defect)).outcome context s) =
      (.ok [], t)) : errors = [] :=
    (List.append_eq_nil_iff.1 (Except.ok.inj (Prod.mk.inj h).1)).1
  split at h
  · exact first h
  obtain ⟨content, mid, -, h⟩ := Eval.of_bind_ok h
  split at h
  · exact first h
  refine Classical.byContradiction fun hn => ?_
  cases nested with
  | true =>
    simp only [if_true] at h
    rw [if_pos (by simp)] at h
    simp at h
  | false =>
    simp only [Bool.false_eq_true, if_false] at h
    rw [if_pos (by simp [hn])] at h
    exact hn (first h)

theorem field_testsName (policy wrapper : Value) :
    TestsName (fun v => (component (.field v policy wrapper)).defects) Text.isFieldName where
  holds {context state v} _ := fun ⟨_, clear⟩ => by
    simp only [defects_component, pure_bind, fieldDefects, slot_field_name,
      slot_field_policy, slot_field_element] at clear
    obtain ⟨kind, mid, -, clear⟩ := Eval.of_bind_ok clear
    have tested : (if v.isTextWhere Text.isFieldName then [] else [Defect.badFieldName v]) = [] := by
      split at clear
      · simp at clear
      · split at clear
        · simp at clear
        · exact fieldElementDefects_clear ⟨_, clear⟩
    simpa using tested
  agree {v w} hv hw := by
    simp only [defects_component, pure_bind, fieldDefects, slot_field_name,
      slot_field_policy, slot_field_element, hv, hw]
    refine .bind_right fun kind => ?_
    split
    · exact .pure (by simp)
    · split
      · exact .pure (by simp)
      · exact fieldElementDefects_agree v w policy wrapper _ Iff.rfl

end Tests

section Constructors

open Text (isFieldName_iff isTagName_iff isAttributeKey_iff)

variable {s : String}

theorem Build.element_recognizes (attributes content before after : Value) :
    Recognizes (fun v => element v attributes content before after) IsTag s :=
  .bind fun sources => .bind fun content =>
    (element_testsName sources content before after).recognizes isTagName_iff

theorem Build.dynamic_recognizes (expr : Value) : Recognizes (fun v => dynamic v expr) IsKey s :=
  .bind fun format => (dynamic_testsName format).recognizes isAttributeKey_iff

theorem Build.format_recognizes (template : Value) (front rest : List Value) :
    Recognizes (fun v => format template (tuple (front ++ v :: rest))) IsField s := by
  have made := (format_testsName template front rest).recognizes (@isFieldName_iff s)
  refine made.congr fun v _ => ?_
  have all : arguments (tuple (front ++ v :: rest)) = pure (front ++ v :: rest) :=
    Value.elements_tuple _
  rw [format, all, pure_bind]

theorem Build.format_recognizes_text (template : Value) :
    Recognizes (fun v => format template v) IsField s := by
  have made := (format_testsName template [] []).recognizes (@isFieldName_iff s)
  refine made.congr fun v hv => ?_
  rw [format, arguments, if_pos hv, pure_bind, List.nil_append]

theorem Build.field_recognizes (policy wrapper : Value) :
    Recognizes (fun v => field v policy wrapper) IsField s :=
  (field_testsName policy wrapper).recognizes isFieldName_iff

theorem Build.mapping_recognizes (function : Value) :
    Recognizes (fun v => mapping v function) IsField s :=
  (mapping_testsName function).recognizes isFieldName_iff

theorem Build.static_recognizes (value : Value) : Recognizes (fun v => static v value) IsKey s :=
  (static_testsName value).recognizes isAttributeKey_iff

theorem Build.requestAttr_recognizes (value : Value) :
    Recognizes (fun v => requestAttr v value) IsKey s :=
  (requestAttr_testsName value).recognizes isAttributeKey_iff

theorem Build.mapping_accepts {name function : Value} (hn : name.isTextWhere Text.isFieldName)
    (hf : function.isCallable) (context : Context) (state : State) :
    (mapping name function).Succeeds context state := by
  refine Component.accept_succeeds.2 ?_
  obtain ⟨ds, hd, hiff⟩ := Value.mappingDefects_decides name function
  simp only [Value.defects_component, hd]
  rw [hiff.2 ⟨hn, hf⟩]
  exact ⟨state, rfl⟩

end Constructors

/-- What each constructor accepts for a name: exactly the words of a grammar and the same with a line
feed behind them, whatever the other arguments are, if these are accepted at all. -/
structure NamesByGrammar (s : String) : Prop where
  tag (attributes content before after : Value) :
    Recognizes (fun v => Build.element v attributes content before after) IsTag s
  field (policy wrapper : Value) : Recognizes (fun v => Build.field v policy wrapper) IsField s
  argument (template : Value) (front rest : List Value) :
    Recognizes (fun v => Build.format template (tuple (front ++ v :: rest))) IsField s
  soleArgument (template : Value) : Recognizes (fun v => Build.format template v) IsField s
  variableName (function : Value) : Recognizes (fun v => Build.mapping v function) IsField s
  staticKey (value : Value) : Recognizes (fun v => Build.static v value) IsKey s
  dynamicKey (expr : Value) : Recognizes (fun v => Build.dynamic v expr) IsKey s
  requestKey (value : Value) : Recognizes (fun v => Build.requestAttr v value) IsKey s
  plain (context : Context) (state : State) :
    ((Build.element (text s) (tuple []) null (text "") (text "")).Succeeds context state ↔
        UpToLineFeed IsTag s) ∧
      ((Build.field (text s) (component .plain) null).Succeeds context state ↔
        UpToLineFeed IsField s) ∧
      ((Build.format (text "") (text s)).Succeeds context state ↔ UpToLineFeed IsField s) ∧
      (∀ function : Value, function.isCallable →
        ((Build.mapping (text s) function).Succeeds context state ↔ UpToLineFeed IsField s)) ∧
      ((Build.static (text s) (text "")).Succeeds context state ↔ UpToLineFeed IsKey s) ∧
      ((Build.dynamic (text s) (text "")).Succeeds context state ↔ UpToLineFeed IsKey s) ∧
      ((Build.requestAttr (text s) (text "")).Succeeds context state ↔ UpToLineFeed IsKey s)
  words (h : s.toList.getLast? ≠ some '\n') :
    (UpToLineFeed IsTag s ↔ IsTag s.toList) ∧ (UpToLineFeed IsField s ↔ IsField s.toList) ∧
      (UpToLineFeed IsKey s ↔ IsKey s.toList)
  blank (h : UpToLineFeed IsTag s ∨ UpToLineFeed IsKey s) :
    ∃ cs, (∀ c ∈ cs, Text.isBlank c = false) ∧ (s.toList = cs ∨ s.toList = cs ++ ['\n'])

theorem namesByGrammar (s : String) : NamesByGrammar s where
  tag := Build.element_recognizes
  field := Build.field_recognizes
  argument := Build.format_recognizes
  soleArgument := Build.format_recognizes_text
  variableName := Build.mapping_recognizes
  staticKey := Build.static_recognizes
  dynamicKey := Build.dynamic_recognizes
  requestKey := Build.requestAttr_recognizes
  plain context state := by
    have named : (text "x").isText := rfl
    have format : (Build.format (text "") (text "x")).Succeeds context state :=
      ⟨_, _, by with_unfolding_all rfl⟩
    have dynamic : (Build.dynamic (text "x") (text "")).Succeeds context state :=
      ⟨_, _, by with_unfolding_all rfl⟩
    exact ⟨(Build.element_recognizes _ _ _ _).iff named ⟨_, _, rfl⟩,
      (Build.field_recognizes _ _).iff named ⟨_, _, rfl⟩,
      (Build.format_recognizes_text _).iff named format,
      fun function hf => (Build.mapping_recognizes function).iff named
        (Build.mapping_accepts rfl hf context state),
      (Build.static_recognizes _).iff named ⟨_, _, rfl⟩,
      (Build.dynamic_recognizes _).iff named dynamic,
      (Build.requestAttr_recognizes _).iff named ⟨_, _, rfl⟩⟩
  words h := ⟨UpToLineFeed.iff_word h, UpToLineFeed.iff_word h, UpToLineFeed.iff_word h⟩
  blank := by
    rintro (⟨cs, word, h⟩ | ⟨cs, word, h⟩)
    · exact ⟨cs, word.not_blank, h⟩
    · exact ⟨cs, fun c hc => (word.2 c hc).1, h⟩

theorem namesByGrammar_keys :
    let context : Context := { mappings := fun _ v => .ok v }
    let build (key : String) := Build.static (text key) (text "wide")
    (build "data-id").Succeeds context {} ∧ "a b".toList.getLast? ≠ some '\n' ∧
      ((build "a b").Succeeds context {} ↔ IsKey "a b".toList) :=
  have accepted : (Build.static (text "data-id") (text "wide")).Succeeds { mappings := fun _ v => .ok v } {} :=
    ⟨_, _, rfl⟩
  have last : "a b".toList.getLast? ≠ some '\n' := by decide
  have names := namesByGrammar "a b"
  ⟨accepted, last, (names.staticKey _ _ _ (text "a b") (text "data-id") rfl rfl accepted).trans
    (names.words last).2.2⟩

theorem element_line_feed :
    ∃ element, (Build.element (text "p\n") (tuple []) null (text "") (text "")).outcome
        { mappings := fun _ v => .ok v } {} = (.ok element, {}) ∧
      ¬IsTag "p\n".toList ∧ element.openTag null = pure (text "<p\n>") := by
  refine ⟨component (.element (text "p\n") [] null (text "") (text "")), rfl, fun word => ?_, rfl⟩
  have blank := word.not_blank '\n' (by decide)
  exact absurd blank (by decide)

end RecordMarkup

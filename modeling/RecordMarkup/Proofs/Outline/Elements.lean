import RecordMarkup.Proofs.Component.Within
import RecordMarkup.Proofs.Document.Elements
import RecordMarkup.Proofs.Outline.Writing
import RecordMarkup.Proofs.Render.Alike

namespace RecordMarkup

namespace Value

/-- A text, and no other value that counts as one. -/
def IsPlain (v : Value) : Prop := ∃ s, v = text s

def string (v : Value) : String := v.text?.getD ""

def key? : Value → Option Value
  | component (.static key _) | component (.dynamic key _) | component (.requestAttr key _) => some key
  | _ => none

def DistinctKeys (attributes : List Value) : Prop :=
  ∀ k ∈ [Kind.static, .dynamic, .requestAttr], ((attributes.filter (hasKind k)).filterMap key?).Nodup

theorem IsPlain.isText {v : Value} (h : v.IsPlain) : v.isText := by
  obtain ⟨s, rfl⟩ := h
  rfl

theorem IsPlain.text_string {v : Value} (h : v.IsPlain) : text v.string = v := by
  obtain ⟨s, rfl⟩ := h
  rfl

theorem textOrNull_text? {v : Value} (h : OrNull IsPlain v) : Document.textOrNull v.text? = v := by
  obtain rfl | ⟨s, rfl⟩ := h
  · rfl
  · rfl

end Value

namespace Document

open Value (IsA OrNull IsPlain hasKind)

variable {v : Value}

def Format.of : Value → Format
  | .component (.format template args) => ⟨template.string, args.map Value.string⟩
  | _ => ⟨"", []⟩

def Request.of? : Value → Option Request
  | .component (.request m path encode) =>
    some ⟨m.word, (Format.of path).template, (Format.of path).args, encode.truthy⟩
  | _ => none

def dynamicPair? : Value → Option (String × Content)
  | .component (.dynamic key expr) => some (key.string, .format (Format.of expr))
  | _ => none

def staticPair? : Value → Option (String × String)
  | .component (.static key value) => some (key.string, value.string)
  | _ => none

def otherPair? : Value → Option (String × String)
  | .component (.requestAttr key value) => some (key.string, value.string)
  | _ => none

def contentOf? (v : Value) : Option Content := if v.isNull then none else some (.format (Format.of v))

def Element.of (tag : Value) (attributes : List Value) (content before after : Value) : Element where
  tag := tag.text?
  attrs := attributes.filterMap staticPair?
  dynamic := attributes.filterMap dynamicPair?
  hx := attributes.filterMap otherPair?
  request := attributes.findSome? Request.of?
  content := contentOf? content
  before := before.string
  after := after.string

def Element.of? : Value → Option Element
  | .component (.element tag attributes content before after) =>
    some (.of tag attributes content before after)
  | _ => none

theorem Format.value_of (hb : Built IsPlain v) (hk : IsA .format v) : (Format.of v).value = v := by
  obtain ⟨c, rfl, typed, -, -⟩ := hb.inv fun _ => IsPlain.isText
  cases c with
  | format template args =>
    have texts : args.map (Value.text ∘ Value.string) = args :=
      (List.map_congr_left fun arg ha => (typed.2 arg ha).text_string).trans (List.map_id' args)
    simp [Format.of, Format.value, Format.component, typed.1.text_string, texts]
  | _ => simp [Component.kind] at hk

theorem Format.valid_of (hb : Built IsPlain v) (hk : IsA .format v) :
    (Format.of v).component.Valid := by
  have built : Built IsPlain (Format.of v).value := (Format.value_of hb hk).symm ▸ hb
  exact built.valid fun _ => IsPlain.isText

theorem dynamicPair?_some {entry : String × Content} (hb : Built IsPlain v)
    (h : dynamicPair? v = some entry) : .component (Element.dynamicComponent entry) = v ∧
      entry.2.Sound ∧ (Element.dynamicComponent entry).Valid := by
  obtain ⟨c, rfl, typed, valid, parts⟩ := hb.inv fun _ => IsPlain.isText
  cases c with
  | dynamic key expr =>
    obtain rfl := Option.some.inj h
    have inside : Built IsPlain expr := parts expr (.head _)
    have same : Element.dynamicComponent (key.string, .format (Format.of expr)) =
        .dynamic key expr := by
      simp [Element.dynamicComponent, typed.1.text_string, Content.value, Content.meant,
        Format.value_of inside typed.2]
    rw [same]
    exact ⟨rfl, Format.valid_of inside typed.2, valid⟩
  | _ => simp [dynamicPair?] at h

theorem staticPair?_some {entry : String × String} (hb : Built IsPlain v)
    (h : staticPair? v = some entry) : .component (Element.staticComponent entry) = v ∧
      (Element.staticComponent entry).Valid := by
  obtain ⟨c, rfl, typed, valid, -⟩ := hb.inv fun _ => IsPlain.isText
  cases c with
  | static key value =>
    obtain rfl := Option.some.inj h
    have same : Element.staticComponent (key.string, value.string) = .static key value := by
      simp [Element.staticComponent, typed.1.text_string, typed.2.text_string]
    rw [same]
    exact ⟨rfl, valid⟩
  | _ => simp [staticPair?] at h

theorem otherPair?_some {entry : String × String} (hb : Built IsPlain v)
    (h : otherPair? v = some entry) : .component (Element.otherComponent entry) = v ∧
      (Element.otherComponent entry).Valid := by
  obtain ⟨c, rfl, typed, valid, -⟩ := hb.inv fun _ => IsPlain.isText
  cases c with
  | requestAttr key value =>
    obtain rfl := Option.some.inj h
    have same : Element.otherComponent (key.string, value.string) = .requestAttr key value := by
      simp [Element.otherComponent, typed.1.text_string, typed.2.text_string]
    rw [same]
    exact ⟨rfl, valid⟩
  | _ => simp [otherPair?] at h

theorem lower_word (m : Method) : Text.lower m.word = m.word := by
  cases m <;> rfl

theorem Request.of?_some {r : Request} (hb : Built IsPlain v) (h : Request.of? v = some r) :
    r.value = v ∧ r.Sound ∧ Text.lower r.method = r.method := by
  obtain ⟨c, rfl, typed, valid, parts⟩ := hb.inv fun _ => IsPlain.isText
  cases c with
  | request m path encode =>
    obtain rfl := Option.some.inj h
    obtain ⟨hp, b, rfl⟩ := typed
    have inside : Built IsPlain path := parts path (.head _)
    have method : Request.method? ⟨m.word, (Format.of path).template, (Format.of path).args,
        Value.truthy (.bool b)⟩ = some m := by
      rw [Request.method?, lower_word, Method.ofWord?_word]
    have same : Request.component ⟨m.word, (Format.of path).template, (Format.of path).args,
        Value.truthy (.bool b)⟩ = .request m path (.bool b) := by
      rw [Request.component, method]
      simp [Request.target, Format.value_of inside hp, Value.truthy]
    refine ⟨congrArg _ same, ⟨by rw [method]; rfl, Format.valid_of inside hp, ?_⟩, lower_word m⟩
    rw [same]
    exact valid
  | _ => simp [Request.of?] at h

section Group

variable {sources : List Value}

theorem group_eq {α : Type} {pair? : Value → Option α} {give : α → Value} {kind : Kind}
    (hs : ∀ source ∈ sources, Built IsPlain source)
    (given : ∀ source entry, Built IsPlain source → pair? source = some entry → give entry = source)
    (known : ∀ c, (pair? (.component c)).isSome = hasKind kind (.component c)) :
    (sources.filterMap pair?).map give = sources.filter (hasKind kind) := by
  rw [List.map_filterMap, ← List.filterMap_eq_filter]
  refine List.filterMap_congr fun source hm => ?_
  have built := hs source hm
  obtain ⟨c, rfl, -⟩ := built.shape
  cases he : pair? (.component c) with
  | none => simp [Option.guard, ← known, he]
  | some entry => simp [Option.guard, ← known, he, given _ entry built he]

theorem dynamics_eq (hs : ∀ source ∈ sources, Built IsPlain source) :
    (sources.filterMap dynamicPair?).map (fun e => .component (Element.dynamicComponent e)) =
      sources.filter (hasKind .dynamic) :=
  group_eq hs (fun _ _ hb h => (dynamicPair?_some hb h).1) fun c => by
    cases c <;> simp [dynamicPair?, Value.hasKind_component, Component.kind]

theorem statics_eq (hs : ∀ source ∈ sources, Built IsPlain source) :
    (sources.filterMap staticPair?).map (fun e => .component (Element.staticComponent e)) =
      sources.filter (hasKind .static) :=
  group_eq hs (fun _ _ hb h => (staticPair?_some hb h).1) fun c => by
    cases c <;> simp [staticPair?, Value.hasKind_component, Component.kind]

theorem others_eq (hs : ∀ source ∈ sources, Built IsPlain source) :
    (sources.filterMap otherPair?).map (fun e => .component (Element.otherComponent e)) =
      sources.filter (hasKind .requestAttr) :=
  group_eq hs (fun _ _ hb h => (otherPair?_some hb h).1) fun c => by
    cases c <;> simp [otherPair?, Value.hasKind_component, Component.kind]

theorem request_eq (hs : ∀ source ∈ sources, Built IsPlain source)
    (one : (sources.filter (hasKind .request)).length ≤ 1) :
    (sources.findSome? Request.of?).toList.map Request.value = sources.filter (hasKind .request) := by
  have all : (sources.filterMap Request.of?).map Request.value =
      sources.filter (hasKind .request) :=
    group_eq hs (fun _ _ hb h => (Request.of?_some hb h).1) fun c => by
      cases c <;> simp [Request.of?, Value.hasKind_component, Component.kind]
  rw [← all, List.length_map] at one
  rw [← all, ← List.head?_filterMap]
  cases h : sources.filterMap Request.of? with
  | nil => rfl
  | cons r others =>
    rw [h] at one
    obtain rfl : others = [] := List.length_eq_zero_iff.1 (by simpa using one)
    rfl

end Group

namespace Element

variable {tag content before after : Value} {attributes : List Value}

theorem contentValue_of (hb : ∀ part ∈ content.present, Built IsPlain part)
    (hc : OrNull (IsA .format) content) : contentValue (contentOf? content) = content ∧
      ∀ c, contentOf? content = some c → c.Sound := by
  obtain rfl | hc := hc
  · exact ⟨rfl, by simp [contentOf?, Value.isNull]⟩
  · obtain ⟨c, rfl, hk⟩ := hc
    have built : Built IsPlain (.component c) := hb _ (by simp)
    refine ⟨Format.value_of built ⟨c, rfl, hk⟩, fun f hf => ?_⟩
    obtain rfl := Option.some.inj hf
    exact Format.valid_of built ⟨c, rfl, hk⟩

theorem component_of (hb : Built IsPlain (.component (.element tag attributes content before after))) :
    (Element.of tag attributes content before after).component =
      .element tag (Value.ordered attributes) content before after := by
  have sources : ∀ source ∈ attributes, Built IsPlain source := fun source hs =>
    hb.parts source (List.mem_append_left _ hs)
  obtain ⟨-, one, -⟩ := hb.valid fun _ => IsPlain.isText
  obtain ⟨ht, -, hc, hbefore, hafter⟩ := hb.typed
  have hcontent := (contentValue_of (fun part hp => hb.parts part (List.mem_append_right _ hp)) hc).1
  rw [Element.component, Element.attributes, Element.of, request_eq sources one,
    dynamics_eq sources, statics_eq sources, others_eq sources, ← Value.ordered_eq, hcontent,
    Value.textOrNull_text? ht, hbefore.text_string, hafter.text_string]

/-- What an element is written out as can be built, and differs from it only in that the attributes
stand in groups. -/
theorem of?_spec (hb : Built IsPlain v) (hk : IsA .element v) :
    ∃ e, Element.of? v = some e ∧ e.Sound ∧ v.Regrouped e.value := by
  obtain ⟨c, rfl, hk⟩ := hk
  cases c with
  | element tag attributes content before after =>
    obtain ⟨htag, one, untagged, texts⟩ := hb.valid fun _ => IsPlain.isText
    obtain ⟨-, -, hc, -⟩ := hb.typed
    have same := component_of hb
    have sources : ∀ source ∈ attributes, Built IsPlain source := fun source hs =>
      hb.parts source (List.mem_append_left _ hs)
    have components : ∀ source ∈ attributes, ∃ c, source = .component c := fun source hs =>
      (sources source hs).shape.imp fun _ h => h.1
    have contentSound := (contentValue_of
      (fun part hp => hb.parts part (List.mem_append_right _ hp)) hc).2
    refine ⟨_, rfl, ⟨fun r hr => ?_, fun entry he => ?_, fun entry he => ?_, fun entry he => ?_, contentSound,
      ?_⟩, ?_⟩
    · obtain ⟨source, hs, h⟩ := List.exists_of_findSome?_eq_some (Option.mem_toList.1 hr)
      exact (Request.of?_some (sources source hs) h).2.1
    · obtain ⟨source, hs, h⟩ := List.mem_filterMap.1 he
      exact (dynamicPair?_some (sources source hs) h).2
    · obtain ⟨source, hs, h⟩ := List.mem_filterMap.1 he
      exact (staticPair?_some (sources source hs) h).2
    · obtain ⟨source, hs, h⟩ := List.mem_filterMap.1 he
      exact (otherPair?_some (sources source hs) h).2
    · rw [same]
      refine ⟨htag, ?_, fun h => ?_, texts⟩
      · rwa [Value.filter_ordered (.head _)]
      · simp [untagged h, Value.ordered]
    · rw [Element.value, same]
      refine .element components (fun source hs => components source ?_) fun k hk =>
        (Value.filter_ordered hk).symm
      obtain ⟨k, -, hs⟩ := List.mem_flatMap.1 hs
      exact (List.mem_filter.1 hs).1
  | _ => simp [Component.kind] at hk

theorem keys_nodup {α : Type} {give : String × α → Value} {entries : List (String × α)}
    (key : ∀ e, (give e).key? = some (.text e.1))
    (h : ((entries.map give).filterMap Value.key?).Nodup) : (entries.map Prod.fst).Nodup := by
  have keys : (entries.map give).filterMap Value.key? = (entries.map Prod.fst).map Value.text := by
    rw [List.filterMap_map, List.map_map, ← List.filterMap_eq_map]
    exact List.filterMap_congr fun e _ => key e
  rw [keys] at h
  exact List.Pairwise.of_map Value.text (fun _ _ hn he => hn (congrArg Value.text he)) h

theorem of_writable (hb : Built IsPlain (.component (.element tag attributes content before after)))
    (hk : Value.DistinctKeys attributes) : (of tag attributes content before after).Writable := by
  have sources : ∀ source ∈ attributes, Built IsPlain source := fun source hs =>
    hb.parts source (List.mem_append_left _ hs)
  have statics := hk .static (by simp)
  have dynamics := hk .dynamic (by simp)
  have others := hk .requestAttr (by simp)
  rw [← statics_eq sources] at statics
  rw [← dynamics_eq sources] at dynamics
  rw [← others_eq sources] at others
  refine ⟨keys_nodup (fun _ => rfl) statics, keys_nodup (fun _ => rfl) dynamics,
    keys_nodup (fun _ => rfl) others, fun r hr => ?_⟩
  obtain ⟨source, hs, h⟩ := List.exists_of_findSome?_eq_some hr
  exact (Request.of?_some (sources source hs) h).2.2

end Element

end Document

end RecordMarkup

import RecordMarkup.Document.Resolve
import RecordMarkup.Proofs.Document.Plan

namespace RecordMarkup

namespace Component

variable {c : Component Value}

theorem performs (typed : c.Typed (·.isText)) (parts : ∀ part ∈ c.parts, Built (·.isText) part)
    (untyped : c.recordType = .null) :
    c.construct.Performs (.make c) (.component c) c.Valid :=
  construct_performs (fun _ h => h) typed parts untyped

theorem built (typed : c.Typed (·.isText)) (parts : ∀ part ∈ c.parts, Built (·.isText) part)
    (untyped : c.recordType = .null) (h : c.Valid) : Built (·.isText) (.component c) :=
  built_of_valid (fun _ h => h) typed parts untyped h

end Component

namespace Document

open Value (IsA OrNull)

namespace Format

def component (f : Format) : Component Value := .format (.text f.template) (f.args.map .text)

def value (f : Format) : Value := .component f.component

def plan (f : Format) : Plan := .make f.component

theorem typed (f : Format) : f.component.Typed (·.isText) :=
  ⟨rfl, by simp [Value.isText, Value.text?]⟩

theorem build_performs (f : Format) : f.build.Performs f.plan f.value f.component.Valid :=
  Component.performs f.typed (by simp [component, Component.parts]) rfl

theorem built {f : Format} (h : f.component.Valid) : Built (·.isText) f.value :=
  Component.built f.typed (by simp [component, Component.parts]) rfl h

end Format

namespace Content

def meant : Content → Format
  | text template => ⟨template, []⟩
  | format f => f

def value (c : Content) : Value := c.meant.value

def plan (c : Content) : Plan := c.meant.plan

@[simp] theorem visits_plan (c : Content) : c.plan.visits = [] := rfl

def Sound (c : Content) : Prop := c.meant.component.Valid

theorem build_performs (c : Content) : c.build.Performs c.plan c.value c.Sound := by
  have h : c.build = c.meant.build := by cases c <;> rfl
  rw [h]
  exact c.meant.build_performs

theorem build_settles (c : Content) : c.build.Settles c.value c.Sound := c.build_performs.settles

theorem Sound.built {c : Content} (h : c.Sound) : Built (·.isText) c.value := c.meant.built h

end Content

def contentValue : Option Content → Value
  | some c => c.value
  | none => .null

def contentPlan : Option Content → Plan
  | some c => c.plan
  | none => []

theorem buildContent_performs (c : Option Content) :
    (buildContent c).Performs (contentPlan c) (contentValue c) (∀ f, c = some f → f.Sound) := by
  cases c with
  | none => exact (Eval.Performs.pure Value.null).iff (by simp)
  | some f => exact f.build_performs.iff (by simp)

theorem contentValue_orNull (c : Option Content) : OrNull (IsA .format) (contentValue c) := by
  cases c with
  | none => exact .inl rfl
  | some f => exact .inr ⟨_, rfl, rfl⟩

namespace Request

def method? (r : Request) : Option Method := Method.ofWord? (Text.lower r.method)

def target (r : Request) : Format := ⟨r.path, r.args⟩

def component (r : Request) : Component Value :=
  .request (r.method?.getD .get) r.target.value (.bool r.urlencode)

def value (r : Request) : Value := .component r.component

def methodPlan (r : Request) : Plan :=
  if r.method?.isSome then [] else .refuse (.unknownMethod (.text r.method))

/-- An unknown method is refused, but the path is looked at before. -/
def plan (r : Request) : Plan :=
  r.target.plan ++ (r.methodPlan ++ .make r.component)

@[simp] theorem visits_plan (r : Request) : r.plan.visits = [] := by
  simp only [plan, methodPlan, Format.plan, Plan.visits_append, Plan.visits_make, List.nil_append,
    List.append_nil]
  split <;> rfl

structure Sound (r : Request) : Prop where
  method : r.method?.isSome
  target : r.target.component.Valid
  valid : r.component.Valid

theorem typed (r : Request) : r.component.Typed (·.isText) :=
  ⟨⟨_, rfl, rfl⟩, _, rfl⟩

theorem method_performs (r : Request) :
    (Build.method (.text r.method)).Performs r.methodPlan (r.method?.getD .get)
      r.method?.isSome := by
  have h : Method.ofWord? (Text.lower (Value.text r.method).display) = r.method? := rfl
  simp only [Build.method, h, methodPlan]
  cases r.method? with
  | some m => exact (Eval.Performs.pure m).iff (by simp)
  | none =>
    exact ⟨[.unknownMethod (.text r.method)], [], Plan.reports_refuse _ [], by simp, by simp, by simp⟩

theorem build_performs (r : Request) : r.build.Performs r.plan r.value r.Sound := by
  have h : r.build = r.target.build >>= fun path => Build.method (.text r.method) >>= fun m =>
      (Component.request m path (.bool r.urlencode)).construct := by
    simp [build, target, Format.build, Build.request, Component.construct, Build.method]
  rw [h]
  refine Eval.Performs.iff (r.target.build_performs.bind fun ht => r.method_performs.bind fun _ =>
    Component.performs r.typed ?_ rfl) ⟨fun h => ⟨h.2.1, h.1, h.2.2⟩, fun h => ⟨h.2, h.1, h.3⟩⟩
  simpa [component, Component.parts] using r.target.built ht

theorem build_settles (r : Request) : r.build.Settles r.value r.Sound := r.build_performs.settles

theorem Sound.built {r : Request} (h : r.Sound) : Built (·.isText) r.value :=
  Component.built r.typed (by simpa [component, Component.parts] using r.target.built h.target) rfl
    h.valid

end Request

namespace Element

def dynamicComponent (entry : String × Content) : Component Value :=
  .dynamic (.text entry.1) entry.2.value

def staticComponent (entry : String × String) : Component Value :=
  .static (.text entry.1) (.text entry.2)

def otherComponent (entry : String × String) : Component Value :=
  .requestAttr (.text entry.1) (.text entry.2)

def attributes (e : Element) : List Value :=
  e.request.toList.map Request.value ++
    e.dynamic.map (fun entry => .component (dynamicComponent entry)) ++
    e.attrs.map (fun entry => .component (staticComponent entry)) ++
    e.hx.map (fun entry => .component (otherComponent entry))

def component (e : Element) : Component Value :=
  .element (textOrNull e.tag) e.attributes (contentValue e.content) (.text e.before) (.text e.after)

def value (e : Element) : Value := .component e.component

def attributePlan (e : Element) : Plan :=
  e.request.toList.flatMap Request.plan ++
    (e.dynamic.flatMap (fun entry => entry.2.plan ++ Plan.make (dynamicComponent entry)) ++
    (e.attrs.flatMap (fun entry => Plan.make (staticComponent entry)) ++
    e.hx.flatMap (fun entry => Plan.make (otherComponent entry))))

def plan (e : Element) : Plan := e.attributePlan ++ (contentPlan e.content ++ .make e.component)

@[simp] theorem visits_plan (e : Element) : e.plan.visits = [] := by
  have content : (contentPlan e.content).visits = [] := by cases e.content <;> rfl
  simp [plan, attributePlan, content, Plan.visits_flatMap, List.flatMap_eq_nil_iff]

structure Sound (e : Element) : Prop where
  request : ∀ r ∈ e.request.toList, r.Sound
  dynamic : ∀ entry ∈ e.dynamic, entry.2.Sound ∧ (dynamicComponent entry).Valid
  attrs : ∀ entry ∈ e.attrs, (staticComponent entry).Valid
  hx : ∀ entry ∈ e.hx, (otherComponent entry).Valid
  content : ∀ c, e.content = some c → c.Sound
  valid : e.component.Valid

theorem dynamicComponent_typed (entry : String × Content) :
    (dynamicComponent entry).Typed (·.isText) := ⟨rfl, _, rfl, rfl⟩

theorem dynamic_performs (entry : String × Content) :
    (do Build.dynamic (.text entry.1) (← entry.2.build) : Eval Value).Performs
      (entry.2.plan ++ .make (dynamicComponent entry)) (.component (dynamicComponent entry))
      (entry.2.Sound ∧ (dynamicComponent entry).Valid) := by
  refine entry.2.build_performs.bind fun h => ?_
  refine Component.performs (dynamicComponent_typed entry) ?_ rfl
  simpa [dynamicComponent, Component.parts] using h.built

theorem static_performs (entry : String × String) :
    (Build.static (.text entry.1) (.text entry.2)).Performs (.make (staticComponent entry))
      (.component (staticComponent entry)) (staticComponent entry).Valid :=
  Component.performs ⟨rfl, rfl⟩ (by simp [staticComponent, Component.parts]) rfl

theorem other_performs (entry : String × String) :
    (Build.requestAttr (.text entry.1) (.text entry.2)).Performs (.make (otherComponent entry))
      (.component (otherComponent entry)) (otherComponent entry).Valid :=
  Component.performs ⟨rfl, rfl⟩ (by simp [otherComponent, Component.parts]) rfl

theorem buildAttributes_performs (e : Element) :
    e.buildAttributes.Performs e.attributePlan e.attributes ((∀ r ∈ e.request.toList, r.Sound) ∧
      (∀ entry ∈ e.dynamic, entry.2.Sound ∧ (dynamicComponent entry).Valid) ∧
      (∀ entry ∈ e.attrs, (staticComponent entry).Valid) ∧
      ∀ entry ∈ e.hx, (otherComponent entry).Valid) := by
  have requests := Eval.Performs.mapM fun r (_ : r ∈ e.request.toList) => r.build_performs
  have dynamics := Eval.Performs.mapM fun entry (_ : entry ∈ e.dynamic) => dynamic_performs entry
  have statics := Eval.Performs.mapM fun entry (_ : entry ∈ e.attrs) => static_performs entry
  have others := Eval.Performs.mapM fun entry (_ : entry ∈ e.hx) => other_performs entry
  exact requests.bind fun _ => dynamics.bind fun _ => statics.bind fun _ => others.map _

theorem static_settles (entry : String × String) :
    (Build.static (.text entry.1) (.text entry.2)).Settles (.component (staticComponent entry))
      (staticComponent entry).Valid :=
  (static_performs entry).settles

theorem other_settles (entry : String × String) :
    (Build.requestAttr (.text entry.1) (.text entry.2)).Settles (.component (otherComponent entry))
      (otherComponent entry).Valid :=
  (other_performs entry).settles

theorem buildAttributes_settles (e : Element) :
    e.buildAttributes.Settles e.attributes ((∀ r ∈ e.request.toList, r.Sound) ∧
      (∀ entry ∈ e.dynamic, entry.2.Sound ∧ (dynamicComponent entry).Valid) ∧
      (∀ entry ∈ e.attrs, (staticComponent entry).Valid) ∧
      ∀ entry ∈ e.hx, (otherComponent entry).Valid) :=
  e.buildAttributes_performs.settles

theorem mem_attributes {e : Element} {v : Value} : v ∈ e.attributes ↔
    (∃ r ∈ e.request.toList, r.value = v) ∨
      (∃ entry ∈ e.dynamic, .component (dynamicComponent entry) = v) ∨
      (∃ entry ∈ e.attrs, .component (staticComponent entry) = v) ∨
      ∃ entry ∈ e.hx, .component (otherComponent entry) = v := by
  simp only [attributes, List.mem_append, List.mem_map, or_assoc]

theorem typed (e : Element) : e.component.Typed (·.isText) := by
  refine ⟨?_, fun v hv => ?_, contentValue_orNull e.content, rfl, rfl⟩
  · cases e.tag with
    | none => exact .inl rfl
    | some s => exact .inr rfl
  · obtain ⟨r, -, rfl⟩ | ⟨entry, -, rfl⟩ | ⟨entry, -, rfl⟩ | ⟨entry, -, rfl⟩ :=
      mem_attributes.1 hv
    · exact ⟨.request, rfl, _, rfl, rfl⟩
    · exact ⟨.dynamic, rfl, _, rfl, rfl⟩
    · exact ⟨.static, rfl, _, rfl, rfl⟩
    · exact ⟨.requestAttr, rfl, _, rfl, rfl⟩

theorem parts_built {e : Element} (request : ∀ r ∈ e.request.toList, r.Sound)
    (dynamic : ∀ entry ∈ e.dynamic, entry.2.Sound ∧ (dynamicComponent entry).Valid)
    (attrs : ∀ entry ∈ e.attrs, (staticComponent entry).Valid)
    (hx : ∀ entry ∈ e.hx, (otherComponent entry).Valid)
    (content : ∀ c, e.content = some c → c.Sound) :
    ∀ part ∈ e.component.parts, Built (·.isText) part := by
  intro part hp
  obtain hp | hp := List.mem_append.1 hp
  · obtain ⟨r, hr, rfl⟩ | ⟨entry, he, rfl⟩ | ⟨entry, he, rfl⟩ | ⟨entry, he, rfl⟩ :=
      mem_attributes.1 hp
    · exact (request r hr).built
    · obtain ⟨sound, valid⟩ := dynamic entry he
      refine Component.built (dynamicComponent_typed entry) ?_ rfl valid
      simpa [dynamicComponent, Component.parts] using sound.built
    · exact Component.built ⟨rfl, rfl⟩ (by simp [staticComponent, Component.parts]) rfl
        (attrs entry he)
    · exact Component.built ⟨rfl, rfl⟩ (by simp [otherComponent, Component.parts]) rfl
        (hx entry he)
  · obtain ⟨hn, rfl⟩ := Value.mem_present.1 hp
    cases hc : e.content with
    | none => exact absurd (by rw [hc]; rfl) hn
    | some c => exact (content c hc).built

theorem Sound.parts {e : Element} (h : e.Sound) : ∀ part ∈ e.component.parts, Built (·.isText) part :=
  parts_built h.request h.dynamic h.attrs h.hx h.content

theorem build_performs (e : Element) : e.build.Performs e.plan e.value e.Sound := by
  refine Eval.Performs.iff (e.buildAttributes_performs.bind fun ha =>
    (buildContent_performs e.content).bind fun hc => Component.performs e.typed ?_ rfl) ?_
  · exact parts_built ha.1 ha.2.1 ha.2.2.1 ha.2.2.2 hc
  · refine ⟨?_, fun h => ⟨⟨h.request, h.dynamic, h.attrs, h.hx⟩, h.content, h.valid⟩⟩
    rintro ⟨⟨hr, hd, hs, ho⟩, hc, hv⟩
    exact ⟨hr, hd, hs, ho, hc, hv⟩

theorem Sound.built {e : Element} (h : e.Sound) : Built (·.isText) e.value :=
  Component.built e.typed h.parts rfl h.valid

end Element

def elementValue : Option Element → Value
  | some e => e.value
  | none => .null

def ElementSound (e : Option Element) : Prop := ∀ spec, e = some spec → spec.Sound

def elementPlan : Option Element → Plan
  | some e => e.plan
  | none => []

theorem buildElement_performs (e : Option Element) :
    (buildElement e).Performs (elementPlan e) (elementValue e) (ElementSound e) := by
  cases e with
  | none => exact (Eval.Performs.pure Value.null).iff (by simp [ElementSound])
  | some e => exact e.build_performs.iff (by simp [ElementSound])

@[simp] theorem visits_elementPlan (e : Option Element) : (elementPlan e).visits = [] := by
  cases e with
  | none => rfl
  | some e => simp [elementPlan]

theorem elementValue_orNull (e : Option Element) : OrNull (IsA .element) (elementValue e) := by
  cases e with
  | none => exact .inl rfl
  | some e => exact .inr ⟨_, rfl, rfl⟩

theorem elementValue_built {e : Option Element} (h : ElementSound e) :
    ∀ part ∈ (elementValue e).present, Built (·.isText) part := by
  cases e with
  | none => simp [elementValue]
  | some e =>
    intro part hp
    obtain rfl := (Value.mem_present.1 hp).2
    exact (h e rfl).built

end Document

end RecordMarkup

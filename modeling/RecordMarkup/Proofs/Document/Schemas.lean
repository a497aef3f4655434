import RecordMarkup.Proofs.Document.Elements

namespace RecordMarkup.Document

open Value (IsA OrNull)

theorem given?_of_ne {name : String} (h : name ≠ "") : given? (some name) = some name := by
  simp [given?, h]

namespace Field

def Coherent (f : Field) : Prop :=
  if f.list then f.optional = false ∧ f.default = none ∧ f.map = none
  else if (given? f.nest).isSome then f.default = none ∧ f.map = none
  else f.default.isSome → f.optional

def mappingComponent (mappers : List (String × Value)) (name : String) : Component Value :=
  .mapping (.text name) ((mappers.lookup name).getD .null)

def mapping (mappers : List (String × Value)) (f : Field) : Value :=
  match given? f.map with
  | some name => .component (mappingComponent mappers name)
  | none => .null

def policy (mappers : List (String × Value)) (f : Field) (inner : Value) : Component Value :=
  if f.list then .list (if (given? f.nest).isSome then inner else .null)
  else if (given? f.nest).isSome then .nest inner (.bool f.optional)
  else if f.optional then .optional (textOrNull f.default) (f.mapping mappers)
  else if (given? f.map).isSome then .map (f.mapping mappers)
  else .plain

def component (mappers : List (String × Value)) (f : Field) (inner : Value) : Component Value :=
  .field (.text f.name) (.component (f.policy mappers inner)) (elementValue f.element)

def value (mappers : List (String × Value)) (f : Field) (inner : Value) : Value :=
  .component (f.component mappers inner)

def Known (mappers : List (String × Value)) (f : Field) : Prop :=
  ∀ name, given? f.map = some name →
    (mappers.lookup name).isSome ∧ (mappingComponent mappers name).Valid

def mappingPlan (mappers : List (String × Value)) (f : Field) : Plan :=
  match given? f.map with
  | none => []
  | some name =>
    if (mappers.lookup name).isSome then .make (mappingComponent mappers name)
    else .refuse (.unknownMapper name)

def optionPlan (f : Field) : Plan :=
  if f.list then
    if f.optional || f.default.isSome || f.map.isSome then .refuse .listExcludesOptions else []
  else if (given? f.nest).isSome then
    if f.default.isSome || f.map.isSome then .refuse .nestExcludesOptions else []
  else if f.default.isSome && !f.optional then .refuse .defaultRequiresOptional else []

def nestPlan (f : Field) : Plan :=
  match given? f.nest with
  | none => []
  | some name => .visit name

def named (inner : String → Value) (f : Field) : Value :=
  match given? f.nest with
  | some name => inner name
  | none => .null

def policyPlan (mappers : List (String × Value)) (inner : String → Value) (f : Field) : Plan :=
  f.optionPlan ++ (f.nestPlan ++ (f.mappingPlan mappers ++ .make (f.policy mappers (f.named inner))))

def plan (mappers : List (String × Value)) (inner : String → Value) (owner : String) (f : Field) :
    Plan :=
  Plan.inside [(owner, f.name)] (f.policyPlan mappers inner ++
    (elementPlan f.element ++ .make (f.component mappers (f.named inner))))

@[simp] theorem visits_plan (mappers : List (String × Value)) (inner : String → Value)
    (owner : String) (f : Field) : (f.plan mappers inner owner).visits =
      (given? f.nest).toList.map fun n => ([(owner, f.name)], n) := by
  have options : f.optionPlan.visits = [] := by
    unfold optionPlan
    repeat' split
    all_goals rfl
  have mapping : (f.mappingPlan mappers).visits = [] := by
    unfold mappingPlan
    repeat' split
    all_goals rfl
  have nest : f.nestPlan.visits = (given? f.nest).toList.map fun n => ([], n) := by
    unfold nestPlan
    cases given? f.nest <;> rfl
  simp [plan, policyPlan, options, mapping, nest]

structure PolicySound (mappers : List (String × Value)) (f : Field) : Prop where
  coherent : f.Coherent
  known : f.Known mappers
  valid : (f.policy mappers .null).Valid

/-- What the constructors ask of the field, whatever schema it names. -/
structure Sound (mappers : List (String × Value)) (f : Field) : Prop where
  policy : f.PolicySound mappers
  element : ElementSound f.element
  valid : ∀ inner, ((given? f.nest).isSome → inner ≠ .null) → (f.component mappers inner).Valid

variable {mappers : List (String × Value)} {f : Field} {inner : Value}

theorem coherent_of_list (h : f.list = true) :
    f.Coherent ↔ f.optional = false ∧ f.default = none ∧ f.map = none := by
  rw [Coherent, if_pos h]

theorem coherent_of_nest {name : String} (h : ¬f.list) (hn : given? f.nest = some name) :
    f.Coherent ↔ f.default = none ∧ f.map = none := by
  rw [Coherent, if_neg h, if_pos (by simp [hn])]

theorem coherent_of_none (h : ¬f.list) (hn : given? f.nest = none) :
    f.Coherent ↔ (f.default.isSome → f.optional) := by
  rw [Coherent, if_neg h, if_neg (by simp [hn])]

theorem policy_isPolicy : (f.policy mappers inner).kind.isPolicy := by
  unfold policy
  repeat' split
  all_goals rfl

theorem policy_valid_iff (other : Value) :
    (f.policy mappers inner).Valid ↔ (f.policy mappers other).Valid := by
  unfold policy
  repeat' split
  all_goals rfl

theorem policy_inner (h : (given? f.nest).isSome → inner ≠ .null) :
    (Value.component (f.policy mappers inner)).inner? = (given? f.nest).map fun _ => inner := by
  unfold policy
  cases hn : given? f.nest with
  | none =>
    repeat' split
    all_goals simp_all [Value.inner?, Value.isNull]
  | some name =>
    have hi : ¬inner.isNull := fun hi => h (by simp [hn]) (Value.isNull_iff.1 hi)
    split
    all_goals simp [Value.inner?, hi]

theorem policy_isFlat (h : (given? f.nest).isSome → inner ≠ .null) :
    (Value.component (f.policy mappers inner)).IsFlat ↔ f.list ∧ given? f.nest = none := by
  unfold policy Value.IsFlat
  cases hn : given? f.nest with
  | none =>
    repeat' split
    all_goals simp_all
  | some name =>
    have hi : inner ≠ .null := h (by simp [hn])
    split
    all_goals simp_all

theorem component_valid_iff {other : Value} (h : (given? f.nest).isSome → inner ≠ .null)
    (ho : (given? f.nest).isSome → other ≠ .null) :
    (f.component mappers inner).Valid ↔ (f.component mappers other).Valid := by
  simp only [component, Component.Valid, policy_isFlat h, policy_isFlat ho, policy_inner h,
    policy_inner ho, Option.map_eq_none_iff]

theorem known_of_map (h : f.map = none) : f.Known mappers := by
  simp [Known, h, given?]

theorem mappingPlan_of_map (h : f.map = none) : f.mappingPlan mappers = [] := by
  simp [mappingPlan, h, given?]

theorem mapping_isA (mappers : List (String × Value)) (h : (given? f.map).isSome) :
    IsA .mapping (f.mapping mappers) := by
  obtain ⟨name, hn⟩ := Option.isSome_iff_exists.1 h
  exact ⟨_, by rw [mapping, hn], rfl⟩

theorem mapping_orNull : OrNull (IsA .mapping) (f.mapping mappers) := by
  unfold mapping
  split
  · exact .inr ⟨_, rfl, rfl⟩
  · exact .inl rfl

theorem mapping_built (h : f.Known mappers) :
    ∀ part ∈ (f.mapping mappers).present, Built (·.isText) part := by
  unfold mapping
  split
  next name hn =>
    obtain ⟨-, valid⟩ := h name hn
    have typed : (mappingComponent mappers name).Typed (·.isText) := ⟨rfl, valid.2⟩
    simpa using Component.built typed (by simp [mappingComponent, Component.parts]) rfl valid
  next => simp

theorem policy_typed (hi : (given? f.nest).isSome → IsA .schema inner) :
    (f.policy mappers inner).Typed (·.isText) := by
  unfold policy
  split
  · split
    next hn => exact .inr (hi hn)
    next => exact .inl rfl
  · split
    next hn => exact ⟨hi hn, _, rfl⟩
    next =>
      split
      · refine ⟨?_, mapping_orNull⟩
        cases f.default with
        | none => exact .inl rfl
        | some s => exact .inr rfl
      · split
        next hm => exact mapping_isA mappers hm
        next => trivial

theorem policy_parts (hk : f.Known mappers)
    (hi : (given? f.nest).isSome → Built (·.isText) inner) :
    ∀ part ∈ (f.policy mappers inner).parts, Built (·.isText) part := by
  have mapped : ∀ part ∈ (f.mapping mappers).present, Built (·.isText) part := mapping_built hk
  unfold policy
  split
  · split
    next hn =>
      intro part hp
      obtain rfl := (Value.mem_present.1 hp).2
      exact hi hn
    next => simp [Component.parts]
  · split
    next hn => simpa [Component.parts] using hi hn
    next =>
      split
      · exact mapped
      · split
        next hm =>
          obtain ⟨c, hc, -⟩ := mapping_isA mappers hm
          simpa [Component.parts, hc] using mapped
        next => simp [Component.parts]

theorem policy_untyped : (f.policy mappers inner).recordType = .null := by
  unfold policy
  repeat' split
  all_goals rfl

theorem construct_policy (h : ¬f.list) (hn : given? f.nest = none) :
    (f.policy mappers inner).construct =
      if f.optional then Build.optional (textOrNull f.default) (f.mapping mappers)
      else if (f.mapping mappers).isNull then Build.plain
      else Build.map (f.mapping mappers) := by
  have mapped : (f.mapping mappers).isNull = (given? f.map).isNone := by
    rw [mapping]
    cases given? f.map <;> rfl
  rw [mapped]
  simp only [policy, if_neg h, hn]
  cases f.optional <;> cases given? f.map <;> simp [Component.construct]

theorem policy_performs (hk : f.Known mappers)
    (hi : (given? f.nest).isSome → Built (·.isText) inner ∧ IsA .schema inner) :
    (f.policy mappers inner).construct.Performs (.make (f.policy mappers inner))
      (.component (f.policy mappers inner)) (f.policy mappers .null).Valid :=
  (Component.performs (policy_typed fun h => (hi h).2) (policy_parts hk fun h => (hi h).1)
    policy_untyped).iff (policy_valid_iff _)

theorem PolicySound.built (h : f.PolicySound mappers)
    (hi : (given? f.nest).isSome → Built (·.isText) inner ∧ IsA .schema inner) :
    Built (·.isText) (.component (f.policy mappers inner)) :=
  Component.built (policy_typed fun h => (hi h).2) (policy_parts h.known fun h => (hi h).1)
    policy_untyped ((policy_valid_iff _).1 h.valid)

theorem component_typed : (f.component mappers inner).Typed (·.isText) :=
  ⟨rfl, ⟨_, policy_isPolicy, _, rfl, rfl⟩, elementValue_orNull f.element⟩

theorem component_parts (hp : Built (·.isText) (.component (f.policy mappers inner)))
    (he : ElementSound f.element) :
    ∀ part ∈ (f.component mappers inner).parts, Built (·.isText) part :=
  List.forall_mem_cons.2 ⟨hp, elementValue_built he⟩

theorem Sound.built (h : f.Sound mappers)
    (hi : (given? f.nest).isSome → Built (·.isText) inner ∧ IsA .schema inner) :
    Built (·.isText) (f.value mappers inner) := by
  refine Component.built component_typed (component_parts (h.policy.built hi) h.element) rfl
    (h.valid inner fun hn => ?_)
  obtain ⟨c, rfl, -⟩ := (hi hn).2
  exact Value.component_ne_null c

end Field

namespace Schema

def references (s : Schema) : List String := s.fields.filterMap fun f => given? f.nest

def component (mappers : List (String × Value)) (inner : String → Value) (name : String)
    (s : Schema) : Component Value :=
  .schema (s.fields.map fun f => f.value mappers (f.named inner)) (elementValue s.element)
    (.text name) .null

def value (mappers : List (String × Value)) (inner : String → Value) (name : String)
    (s : Schema) : Value := .component (s.component mappers inner name)

def plan (mappers : List (String × Value)) (inner : String → Value) (name : String) (s : Schema) :
    Plan :=
  s.fields.flatMap (Field.plan mappers inner name) ++
    (elementPlan s.element ++ .make (s.component mappers inner name))

structure Sound (mappers : List (String × Value)) (s : Schema) : Prop where
  fields : ∀ f ∈ s.fields, f.Sound mappers
  element : ElementSound s.element
  content : (elementValue s.element).content = .null
  names : (s.fields.map Field.name).Nodup

variable {mappers : List (String × Value)} {inner : String → Value} {name : String} {s : Schema}

theorem mem_references {n : String} :
    n ∈ s.references ↔ ∃ f ∈ s.fields, given? f.nest = some n := List.mem_filterMap

theorem mem_visits {route : Route} {n : String} : (route, n) ∈ (s.plan mappers inner name).visits ↔
    ∃ f ∈ s.fields, given? f.nest = some n ∧ route = [(name, f.name)] := by
  simp only [plan, Plan.visits_append, visits_elementPlan, Plan.visits_make, List.append_nil,
    Plan.visits_flatMap, List.mem_flatMap, Field.visits_plan, List.mem_map, Option.mem_toList,
    Prod.mk.injEq]
  refine exists_congr fun f => and_congr_right fun _ => ⟨?_, ?_⟩
  · rintro ⟨m, hm, rfl, rfl⟩
    exact ⟨hm, rfl⟩
  · rintro ⟨hn, rfl⟩
    exact ⟨n, hn, rfl, rfl⟩

theorem mem_references_of_visits {route : Route} {n : String}
    (h : (route, n) ∈ (s.plan mappers inner name).visits) : n ∈ s.references := by
  obtain ⟨f, hf, hn, -⟩ := mem_visits.1 h
  exact mem_references.2 ⟨f, hf, hn⟩

theorem component_valid : (s.component mappers inner name).Valid ↔
    (elementValue s.element).content = .null ∧ (s.fields.map Field.name).Nodup := by
  have names : (s.fields.map fun f => f.value mappers (f.named inner)).map Value.nameText? =
      (s.fields.map Field.name).map some := by
    simp only [List.map_map]
    rfl
  rw [component, Component.Valid, names]
  refine and_congr_right fun _ => ⟨List.Pairwise.of_map some ?_, List.Pairwise.map some ?_⟩
  · exact fun _ _ h => fun he => h (congrArg some he)
  · exact fun _ _ h he => h (Option.some.inj he)

theorem component_typed : (s.component mappers inner name).Typed (·.isText) := by
  refine ⟨fun f hf => ?_, elementValue_orNull s.element, .inr rfl, .inl rfl⟩
  obtain ⟨f, -, rfl⟩ := List.mem_map.1 hf
  exact ⟨_, rfl, rfl⟩

theorem component_parts (hf : ∀ f ∈ s.fields, f.Sound mappers) (he : ElementSound s.element)
    (hi : ∀ n ∈ s.references, Built (·.isText) (inner n) ∧ IsA .schema (inner n)) :
    ∀ part ∈ (s.component mappers inner name).parts, Built (·.isText) part := by
  refine List.forall_mem_append.2 ⟨fun part hp => ?_, elementValue_built he⟩
  obtain ⟨f, hm, rfl⟩ := List.mem_map.1 hp
  refine (hf f hm).built fun hn => ?_
  obtain ⟨n, hn⟩ := Option.isSome_iff_exists.1 hn
  rw [Field.named, hn]
  exact hi n (mem_references.2 ⟨f, hm, hn⟩)

theorem Sound.built (h : s.Sound mappers)
    (hi : ∀ n ∈ s.references, Built (·.isText) (inner n) ∧ IsA .schema (inner n)) :
    Built (·.isText) (s.value mappers inner name) :=
  Component.built component_typed (component_parts h.fields h.element hi) rfl
    (component_valid.2 ⟨h.content, h.names⟩)

theorem value_congr {other : String → Value} (h : ∀ n ∈ s.references, inner n = other n) :
    s.value mappers inner name = s.value mappers other name := by
  have fields : (s.fields.map fun f => f.value mappers (f.named inner)) =
      s.fields.map fun f => f.value mappers (f.named other) := by
    refine List.map_congr_left fun f hf => ?_
    have same : f.named inner = f.named other := by
      unfold Field.named
      split
      next n hn => exact h n (mem_references.2 ⟨f, hf, hn⟩)
      next => rfl
    rw [same]
  rw [value, value, component, component, fields]

end Schema

end RecordMarkup.Document

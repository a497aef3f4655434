import RecordMarkup.Proofs.Document.Compiled

namespace RecordMarkup.Document

open Value (IsA)

inductive Maps (function : Value) : Component Value → Prop
  | optional (default : Value) : Maps function (.optional default function)
  | map : Maps function (.map function)

namespace Field

/-- An option that is given shows in the policy: the name of a schema as the result under that name, and
the name of a mapper as the function under that name, each exactly if it is not empty. -/
structure Kept (schemas mappers : List (String × Value)) (f : Field) (policy : Component Value) :
    Prop where
  nest (name : String) : f.nest = some name → (name ≠ "" ↔ ∃ inner, schemas.lookup name = some inner ∧
    policy = if f.list then .list inner else .nest inner (.bool f.optional))
  map (name : String) : f.map = some name → (name ≠ "" ↔ ∃ function,
    mappers.lookup name = some function ∧ function.isCallable ∧
      Maps (.component (.mapping (.text name) function)) policy)
  default (s : String) : f.default = some s → ∃ function, policy = .optional (.text s) function
  optional : f.optional → (∃ default function, policy = .optional default function) ∨
    ∃ inner, policy = .nest inner (.bool true)
  list : f.list → ∃ item, policy = .list item

inductive Combines (mappers : List (String × Value)) (f : Field) (inner : Value) :
    Component Value → Prop
  | nestedList {name : String} (list : f.list = true) (nest : given? f.nest = some name)
      (optional : f.optional = false) (default : f.default = none) (map : f.map = none) :
      Combines mappers f inner (.list inner)
  | flatList (list : f.list = true) (nest : given? f.nest = none) (optional : f.optional = false)
      (default : f.default = none) (map : f.map = none) : Combines mappers f inner (.list .null)
  | nest {name : String} (list : f.list = false) (nest : given? f.nest = some name)
      (default : f.default = none) (map : f.map = none) :
      Combines mappers f inner (.nest inner (.bool f.optional))
  | optional (list : f.list = false) (nest : given? f.nest = none) (optional : f.optional = true) :
      Combines mappers f inner (.optional (textOrNull f.default) (f.mapping mappers))
  | map {name : String} (list : f.list = false) (nest : given? f.nest = none)
      (optional : f.optional = false) (default : f.default = none) (map : given? f.map = some name) :
      Combines mappers f inner (.map (f.mapping mappers))
  | plain (list : f.list = false) (nest : given? f.nest = none) (optional : f.optional = false)
      (default : f.default = none) (map : given? f.map = none) : Combines mappers f inner .plain

variable {mappers schemas : List (String × Value)} {f : Field} {inner : Value}

theorem PolicySound.combines (h : f.PolicySound mappers) (inner : Value) :
    Combines mappers f inner (f.policy mappers inner) := by
  rw [policy]
  cases hl : f.list with
  | true =>
    obtain ⟨ho, hd, hm⟩ := (coherent_of_list hl).1 h.coherent
    cases hn : given? f.nest with
    | some name => exact .nestedList hl hn ho hd hm
    | none => exact .flatList hl hn ho hd hm
  | false =>
    have list : ¬f.list := by simp [hl]
    cases hn : given? f.nest with
    | some name =>
      obtain ⟨hd, hm⟩ := (coherent_of_nest list hn).1 h.coherent
      exact .nest hl hn hd hm
    | none =>
      have coherent := (coherent_of_none list hn).1 h.coherent
      cases ho : f.optional with
      | true => exact .optional hl hn ho
      | false =>
        have hd : f.default = none := by
          simpa [ho] using coherent
        cases hm : given? f.map with
        | some name => exact .map hl hn ho hd hm
        | none => exact .plain hl hn ho hd hm

theorem Known.mapping {name : String} (h : f.Known mappers) (hm : given? f.map = some name) :
    ∃ function, mappers.lookup name = some function ∧ function.isCallable ∧
      f.mapping mappers = .component (.mapping (.text name) function) := by
  obtain ⟨found, -, callable⟩ := h name hm
  obtain ⟨function, hf⟩ := Option.isSome_iff_exists.1 found
  rw [hf] at callable
  refine ⟨function, hf, callable, ?_⟩
  simp only [Field.mapping, hm, mappingComponent, hf, Option.getD_some]

section Combines

variable {policy : Component Value} {name : String}

theorem given?_empty {option : Option String} (h : option = some "") : given? option = none := by
  simp [h, given?]

theorem Combines.nest_iff (h : Combines mappers f inner policy)
    (hs : ∀ name v, schemas.lookup name = some v → IsA .schema v)
    (hi : ∀ name, given? f.nest = some name → schemas.lookup name = some inner)
    (hn : f.nest = some name) : name ≠ "" ↔ ∃ inner, schemas.lookup name = some inner ∧
      policy = if f.list then .list inner else .nest inner (.bool f.optional) := by
  constructor
  · intro hne
    have given : given? f.nest = some name := hn ▸ given?_of_ne hne
    refine ⟨inner, hi name given, ?_⟩
    cases h with
    | nestedList list => rw [if_pos list]
    | nest list => rw [if_neg (by simp [list])]
    | flatList _ nest | optional _ nest | map _ nest | plain _ nest => simp [given] at nest
  · rintro ⟨v, hv, he⟩ rfl
    have none := given?_empty hn
    cases h with
    | nestedList _ nest | nest _ nest => simp [none] at nest
    | flatList list =>
      -- The name of a flat list would be that of a schema that is absent.
      rw [if_pos list] at he
      obtain rfl := Component.list.inj he
      obtain ⟨c, hc, -⟩ := hs "" _ hv
      exact Value.component_ne_null c hc.symm
    | optional list | map list | plain list => simp [list] at he

theorem Combines.map_iff (h : Combines mappers f inner policy) (hk : f.Known mappers)
    (hm : f.map = some name) : name ≠ "" ↔ ∃ function, mappers.lookup name = some function ∧
      function.isCallable ∧ Maps (.component (.mapping (.text name) function)) policy := by
  constructor
  · intro hne
    have given : given? f.map = some name := hm ▸ given?_of_ne hne
    obtain ⟨function, hf, callable, same⟩ := hk.mapping given
    refine ⟨function, hf, callable, ?_⟩
    cases h with
    | nestedList _ _ _ _ map | flatList _ _ _ _ map | nest _ _ _ map => simp [hm] at map
    | optional => exact same ▸ .optional _
    | map => exact same ▸ .map
    | plain _ _ _ _ map => simp [given] at map
  · rintro ⟨function, -, -, he⟩ rfl
    have none := given?_empty hm
    cases h with
    | nestedList _ _ _ _ map | flatList _ _ _ _ map | nest _ _ _ map => simp [hm] at map
    | optional =>
      simp only [Field.mapping, none] at he
      cases he
    | map _ _ _ _ map => simp [none] at map
    | plain => cases he

theorem Combines.kept (h : Combines mappers f inner policy) (hk : f.Known mappers)
    (hs : ∀ name v, schemas.lookup name = some v → IsA .schema v)
    (hi : ∀ name, given? f.nest = some name → schemas.lookup name = some inner) :
    f.Kept schemas mappers policy where
  nest _ := h.nest_iff hs hi
  map _ := h.map_iff hk
  default s hd := by
    cases h with
    | optional => exact ⟨f.mapping mappers, by rw [hd, textOrNull]⟩
    | nestedList _ _ _ default | flatList _ _ _ default | nest _ _ default | map _ _ _ default
    | plain _ _ _ default => simp [hd] at default
  optional ho := by
    cases h with
    | optional => exact .inl ⟨_, _, rfl⟩
    | nest => exact .inr ⟨inner, by rw [ho]⟩
    | nestedList _ _ optional | flatList _ _ optional | map _ _ optional | plain _ _ optional =>
      simp [ho] at optional
  list hl := by
    cases h with
    | nestedList | flatList => exact ⟨_, rfl⟩
    | nest list | optional list | map list | plain list => simp [hl] at list

end Combines

end Field

variable {documents mappers : List (String × Value)} {context : Context} {state after : State}

/-- The fields of a compiled schema, each with the document that it was compiled from. -/
def Shows (schemas mappers : List (String × Value)) (s : Schema) (v : Value) : Prop :=
  ∃ fields wrapper name type, v = .component (.schema fields wrapper name type) ∧
    List.Forall₂ (fun (f : Field) field => ∃ policy wrapper,
      field = .component (.field (.text f.name) (.component policy) wrapper) ∧
        f.Kept schemas mappers policy) s.fields fields

theorem Defines.shows {library : Library} {schemas : List (String × Value)} {name : String}
    {s : Schema} {v : Value} (h : Defines library name v)
    (hl : library.documents.lookup name = some s)
    (hs : ∀ name v, schemas.lookup name = some v → IsA .schema v)
    (hall : ∀ n w, Defines library n w → schemas.lookup n = some w) :
    Shows schemas library.mappers s v := by
  obtain ⟨inner, sound, inside, rfl⟩ := h.inv_of_lookup hl
  refine ⟨_, _, _, _, rfl, List.forall₂_map_right_iff.2 (List.forall₂_same.2 fun f hf => ?_)⟩
  have policy := (sound.fields f hf).policy
  refine ⟨_, _, rfl, (policy.combines _).kept policy.known hs fun n hn => ?_⟩
  rw [Field.named, hn]
  exact hall n _ (inside n (Schema.mem_references.2 ⟨f, hf, hn⟩))

theorem Finished.shows {library : Library} {schemas : List (String × Value)}
    (h : Finished library schemas) (hn : (library.documents.map Prod.fst).Nodup) :
    List.Forall₂ (fun d r => d.1 = r.1 ∧ Shows schemas library.mappers d.2 r.2) library.documents
      schemas := by
  have members : List.Forall₂ (fun d r => d ∈ library.documents ∧ d.1 = r.1 ∧
      Defines library r.1 r.2) library.documents schemas :=
    (List.forall₂_and_left _ _).2 ⟨fun _ hd => hd, h⟩
  refine members.imp ?_
  rintro d r ⟨hd, hk, hr⟩
  have defined : Defines library d.1 r.2 := hk ▸ hr
  exact ⟨hk, defined.shows (lookup_of_mem hn hd) (fun _ _ hl => ((h.lookup_iff hn).1 hl).built.2)
    fun n w hw => h.lookup hn hw⟩

def Field.Unknown (documents mappers : List String) (f : Field) (name : String) : Prop :=
  f.nest = some name ∧ name ∉ documents ∨ f.map = some name ∧ name ∉ mappers

theorem Finished.known {library : Library} {schemas : List (String × Value)}
    (h : Finished library schemas) (hn : (library.documents.map Prod.fst).Nodup)
    {d : String × Schema} (hd : d ∈ library.documents) {f : Field} (hf : f ∈ d.2.fields)
    {name : String} (hne : name ≠ "") :
    ¬f.Unknown (library.documents.map Prod.fst) (library.mappers.map Prod.fst) name := by
  obtain ⟨sound, closed, -⟩ := (defines_iff hn).1 h.defines
  rintro (⟨hnest, hm⟩ | ⟨hmap, hm⟩)
  · have refers : name ∈ d.2.references :=
      Schema.mem_references.2 ⟨f, hf, hnest ▸ given?_of_ne hne⟩
    exact hm (closed d hd name refers)
  · have known := ((sound d hd).fields f hf).policy.known
    exact hm (mem_keys_of_lookup (known name (hmap ▸ given?_of_ne hne)).1)

/-- Where documents compile, the options of a field show in its policy, a name exactly if it is not empty;
and a name that is not empty and not known is always refused. -/
theorem compile_options (context : Context) (state : State)
    (hn : (documents.map Prod.fst).Nodup) :
    (∀ schemas after, (compile documents mappers).outcome context state = (.ok schemas, after) →
      ∃ parsed mid, ReadsTo documents state parsed mid ∧
        List.Forall₂ (fun d r => d.1 = r.1 ∧ Shows schemas mappers d.2 r.2) parsed schemas) ∧
    ∀ parsed mid, ReadsTo documents state parsed mid → ∀ d ∈ parsed, ∀ f ∈ d.2.fields,
      ∀ name, name ≠ "" → f.Unknown (documents.map Prod.fst) (mappers.map Prod.fst) name →
        ∃ defects after,
          (compile documents mappers).outcome context state = (.error (.schema defects), after) := by
  refine ⟨fun schemas after h => ?_, fun parsed mid hr d hd f hf name hne unknown => ?_⟩
  · obtain ⟨parsed, mid, hr, finished⟩ := finished_of_compile h
    exact ⟨parsed, mid, hr, finished.shows (hr.keys ▸ hn)⟩
  · obtain ⟨schemas, after, parsed', mid', -, hr', finished⟩ | ⟨defects, after, h, -⟩ :=
      compile_ends documents mappers context state
    · obtain ⟨rfl, -⟩ := hr.unique hr'
      exact absurd (hr.keys ▸ unknown) (finished.known (hr.keys ▸ hn) hd hf hne)
    · exact ⟨defects, after, h⟩

theorem compile_options_page :
    let page := Value.dict [("fields", .list [
      .dict [("name", .text "items"), ("list", .bool true), ("nest", .text "item")]])]
    let item := Value.dict [("fields", .list [
      .dict [("name", .text "title"), ("optional", .bool true), ("map", .text "upper")]])]
    let mappers := [("upper", Value.mapper 0 "upper")]
    let parsed : List (String × Schema) :=
      [("page", { fields := [{ name := "items", list := true, nest := some "item" }] }),
        ("item", { fields := [{ name := "title", optional := true, map := some "upper" }] })]
    ∃ (schemas : List (String × Value)) (after : State),
      (compile [("page", page), ("item", item)] mappers).outcome { mappings := fun _ v => .ok v } {} =
          (.ok schemas, after) ∧
        List.Forall₂ (fun d r => d.1 = r.1 ∧ Shows schemas mappers d.2 r.2) parsed schemas := by
  intro page item mappers parsed
  obtain ⟨schemas, after, h⟩ : ∃ schemas after,
      (compile [("page", page), ("item", item)] mappers).outcome { mappings := fun _ v => .ok v } {} =
        (.ok schemas, after) := ⟨_, _, rfl⟩
  have reads : ReadsTo [("page", page), ("item", item)] {} parsed {} := readsTo_iff.2 rfl
  obtain ⟨others, mid, reads', shows⟩ := (compile_options _ _ (by simp)).1 schemas after h
  obtain ⟨rfl, -⟩ := reads.unique reads'
  exact ⟨schemas, after, h, shows⟩

/-- No schema and no mapper goes by the empty name, and still the fields that name them compile, to
plain ones. -/
theorem compile_options_empty_name :
    let nest := Value.dict [("fields", .list [.dict [("name", .text "x"), ("nest", .text "")]])]
    let map := Value.dict [("fields", .list [.dict [("name", .text "x"), ("map", .text "")]])]
    let field := Value.component (.field (.text "x") (.component .plain) .null)
    ∃ after, (compile [("a", nest), ("b", map)] []).outcome { mappings := fun _ v => .ok v } {} =
      (.ok [("a", .component (.schema [field] .null (.text "a") .null)),
        ("b", .component (.schema [field] .null (.text "b") .null))], after) :=
  ⟨_, rfl⟩

end RecordMarkup.Document

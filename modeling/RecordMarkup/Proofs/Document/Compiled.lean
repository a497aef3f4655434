import RecordMarkup.Proofs.Document.Resolving
import RecordMarkup.Proofs.Document.Streams

namespace RecordMarkup.Document

open Value (IsA)

inductive ReadsTo : List (String × Value) → State → List (String × Schema) → State → Prop
  | nil {state : State} : ReadsTo [] state [] state
  | cons {documents : List (String × Value)} {parsed : List (String × Schema)}
      {state mid after : State} {name : String} {v : Value} {s : Schema}
      (first : Schema.read v state = (.ok s, mid)) (rest : ReadsTo documents mid parsed after) :
      ReadsTo ((name, v) :: documents) state ((name, s) :: parsed) after

variable {documents mappers : List (String × Value)} {parsed : List (String × Schema)}
  {context : Context} {state after : State}

theorem withOthers_eq_ok {name : String} {first : Except (List Issue) Schema}
    {others : Except (List Defect) (List (String × Schema))} :
    withOthers name first others = .ok parsed ↔
      ∃ s rest, first = .ok s ∧ others = .ok rest ∧ parsed = (name, s) :: rest := by
  cases first <;> cases others <;> simp [withOthers, eq_comm]

def errorsOf {ε α : Type} : Except (List ε) α → List ε
  | .ok _ => []
  | .error errors => errors

theorem errorsOf_withOthers (name : String) (first : Except (List Issue) Schema)
    (others : Except (List Defect) (List (String × Schema))) :
    errorsOf (withOthers name first others) =
      (errorsOf first).map (.document name) ++ errorsOf others := by
  cases first <;> cases others <;> simp [withOthers, errorsOf]

theorem log_readAll (documents : List (String × Value)) (state : State) :
    (readAll documents state).2.log = state.log := by
  induction documents generalizing state with
  | nil => rfl
  | cons entry documents ih => exact (ih _).trans ((Schema.read_made entry.2).log state)

theorem readsTo_iff : ReadsTo documents state parsed after ↔
    readAll documents state = (.ok parsed, after) := by
  induction documents generalizing state parsed with
  | nil =>
    refine ⟨fun h => ?_, fun h => ?_⟩
    · cases h
      rfl
    · obtain ⟨rfl, rfl⟩ : [] = parsed ∧ state = after := by simpa [readAll] using h
      exact .nil
  | cons entry documents ih =>
    obtain ⟨name, v⟩ := entry
    rw [readAll]
    refine ⟨fun h => ?_, fun h => ?_⟩
    · cases h with
      | cons first rest =>
        rw [ih] at rest
        simp [first, rest, withOthers]
    · obtain ⟨hw, hs⟩ := Prod.mk.inj h
      obtain ⟨s, others, hf, ho, rfl⟩ := withOthers_eq_ok.1 hw
      exact .cons (Prod.ext hf rfl) (ih.2 (Prod.ext ho hs))

theorem ReadsTo.keys (h : ReadsTo documents state parsed after) :
    parsed.map Prod.fst = documents.map Prod.fst := by
  induction h with
  | nil => rfl
  | cons first rest ih => rw [List.map_cons, List.map_cons, ih]

theorem ReadsTo.unique {parsed' : List (String × Schema)} {after' : State}
    (h : ReadsTo documents state parsed after) (k : ReadsTo documents state parsed' after') :
    parsed = parsed' ∧ after = after' := by
  rw [readsTo_iff] at h k
  obtain ⟨hp, hs⟩ := Prod.mk.inj (h.symm.trans k)
  exact ⟨Except.ok.inj hp, hs⟩

abbrev Finished (library : Library) (schemas : List (String × Value)) : Prop :=
  List.Forall₂ (fun d r => d.1 = r.1 ∧ Defines library r.1 r.2) library.documents schemas

theorem outcome_readAll : (modifyGet (readAll documents) : Eval _).outcome context state =
    (.ok (readAll documents state).1, (readAll documents state).2) := rfl

theorem outcome_compile_of_error {defects : List Defect} {mid : State}
    (h : readAll documents state = (.error defects, mid)) (mappers : List (String × Value))
    (context : Context) :
    (compile documents mappers).outcome context state =
      (.error (.schema defects), mid.logged [.invalidDocuments defects.length]) := by
  have read : (modifyGet (readAll documents) : Eval _).outcome context state =
      (.ok (.error defects), mid) := by
    rw [outcome_readAll, h]
  rw [compile, Eval.outcome_bind_ok read]
  rfl

theorem defects_unique {α : Type} {run : Except Failure α × State} {defects others : List Defect}
    {after later : State} (h : run = (.error (.schema defects), after))
    (k : run = (.error (.schema others), later)) : defects = others :=
  Failure.schema.inj (Except.error.inj (Prod.mk.inj (h.symm.trans k)).1)

theorem compile_runs {inner : String → Value} {mid : State} (hr : ReadsTo documents state parsed mid)
    (hi : ∀ n v, Defines ⟨parsed, mappers⟩ n v → inner n = v) (context : Context) :
    ∃ defects later, Resolve.Runs (Resolve.Resolves ⟨parsed, mappers⟩ inner (parsed.length + 1))
        (Library.plan ⟨parsed, mappers⟩) ({}, mid) defects later ∧
      ((defects = [] ∧ (∀ d ∈ parsed, Defines ⟨parsed, mappers⟩ d.1 (inner d.1)) ∧
          (compile documents mappers).outcome context state =
            (.ok (parsed.map fun d => (d.1, inner d.1)), later.2.logged [.compiled parsed.length])) ∨
        defects ≠ [] ∧ (¬∀ d ∈ parsed, ∃ v, Defines ⟨parsed, mappers⟩ d.1 v) ∧
          (compile documents mappers).outcome context state =
            (.error (.schema defects), later.2)) := by
  obtain ⟨result, defects, later, hb, runs, hend⟩ := build_runs hi context mid
  have read : (modifyGet (readAll documents) : Eval _).outcome context state =
      (.ok (.ok parsed), mid) := by
    rw [outcome_readAll, readsTo_iff.1 hr]
  refine ⟨defects, later, runs, ?_⟩
  rw [compile, Eval.outcome_bind_ok read]
  cases result with
  | ok schemas =>
    obtain ⟨rfl, rfl, defined⟩ := hend
    refine .inl ⟨rfl, defined, ?_⟩
    have count : (parsed.map fun d => (d.1, inner d.1)).length = parsed.length := List.length_map _
    rw [Eval.outcome_bind_ok hb, ← count]
    rfl
  | error f =>
    obtain ⟨unsure, hd, rfl⟩ := hend
    exact .inr ⟨hd, unsure, Eval.outcome_bind_error hb⟩

theorem compile_ends (documents mappers : List (String × Value)) (context : Context)
    (state : State) :
    (∃ schemas after parsed mid,
      (compile documents mappers).outcome context state = (.ok schemas, after) ∧
        ReadsTo documents state parsed mid ∧
        Finished ⟨parsed, mappers⟩ schemas) ∨
    (∃ defects after,
      (compile documents mappers).outcome context state = (.error (.schema defects), after) ∧
        ¬∃ parsed mid, ReadsTo documents state parsed mid ∧
          ∀ d ∈ parsed, ∃ v, Defines ⟨parsed, mappers⟩ d.1 v) := by
  cases hr : readAll documents state with
  | mk result mid =>
    cases result with
    | error defects =>
      refine .inr ⟨defects, _, outcome_compile_of_error hr mappers context, ?_⟩
      rintro ⟨parsed, mid', h, -⟩
      rw [readsTo_iff, hr] at h
      simp at h
    | ok parsed =>
      have hreads := readsTo_iff.2 hr
      obtain ⟨inner, hi⟩ := exists_inner ⟨parsed, mappers⟩
      obtain ⟨defects, later, -, ⟨-, defined, ho⟩ | ⟨-, unsure, ho⟩⟩ :=
        compile_runs hreads hi context
      · exact .inl ⟨_, _, parsed, mid, ho, hreads,
          List.forall₂_map_right_iff.2 (List.forall₂_same.2 fun d hd => ⟨rfl, defined d hd⟩)⟩
      · refine .inr ⟨defects, _, ho, ?_⟩
        rintro ⟨parsed', mid', h, hall⟩
        obtain ⟨rfl, rfl⟩ := hreads.unique h
        exact unsure hall

theorem documentWith_pure_iff {standIn : String → Value}
    (hs : ∀ n, Built (·.isText) (standIn n) ∧ IsA .schema (standIn n)) (name : String)
    (s : Schema) : (∃ v books, (Resolve.documentWith (fun n => pure (standIn n)) mappers name
      s).outcome context ({}, state) = (.ok v, books)) ↔ s.Sound mappers := by
  have performs : Resolve.Performs context Resolve.Given (fun _ => True) _ _ _ (s.Sound mappers) :=
    Resolve.documentWith_pure mappers name fun n _ => hs n
  obtain ⟨result, defects, later, ho, -, -, hend⟩ := performs ({}, state) trivial
  refine ⟨?_, fun sound => ?_⟩
  · rintro ⟨v, books, h⟩
    obtain rfl := (Prod.mk.inj (ho.symm.trans h)).1
    exact hend.2.2
  · cases result with
    | ok v => exact ⟨v, _, ho⟩
    | error f => exact absurd sound hend.1

/-- The schema of a document, which has one field for each of the document's, in order; a policy that
goes through a schema goes through the result of the name that the field gives. -/
def IsCompiled (schemas : List (String × Value)) (name : String) (s : Schema) (v : Value) : Prop :=
  ∃ fields wrapper, v = .component (.schema fields wrapper (.text name) .null) ∧
    List.Forall₂ (fun (f : Field) field => ∃ policy wrapper,
      field = .component (.field (.text f.name) policy wrapper) ∧
        policy.inner?.isSome = (given? f.nest).isSome ∧
        policy.inner? = (given? f.nest).bind fun n => schemas.lookup n) s.fields fields

theorem Defines.isCompiled {library : Library} {schemas : List (String × Value)} {name : String}
    {s : Schema} {v : Value} (h : Defines library name v)
    (hs : library.documents.lookup name = some s)
    (hall : ∀ n w, Defines library n w → schemas.lookup n = some w) :
    IsCompiled schemas name s v := by
  obtain ⟨inner, -, inside, rfl⟩ := h.inv_of_lookup hs
  refine ⟨_, _, rfl, List.forall₂_map_right_iff.2 (List.forall₂_same.2 fun f hf => ?_)⟩
  refine ⟨_, _, rfl, ?_⟩
  cases hn : given? f.nest with
  | none =>
    rw [Field.policy_inner (by simp [hn]), hn]
    simp
  | some n =>
    have hw := inside n (Schema.mem_references.2 ⟨f, hf, hn⟩)
    have named : f.named inner = inner n := by
      rw [Field.named, hn]
    have present : f.named inner ≠ .null := by
      obtain ⟨c, hc, -⟩ := hw.built.2
      rw [named, hc]
      exact Value.component_ne_null c
    rw [Field.policy_inner fun _ => present, hn, named]
    simp [hall n _ hw]

namespace Finished

variable {library : Library} {schemas : List (String × Value)}

theorem keys (h : Finished library schemas) :
    schemas.map Prod.fst = library.documents.map Prod.fst := by
  have same : List.Forall₂ (· = ·) (library.documents.map Prod.fst) (schemas.map Prod.fst) :=
    List.forall₂_map_left_iff.2 (List.forall₂_map_right_iff.2 (h.imp fun _ _ hr => hr.1))
  rw [List.forall₂_eq_eq_eq] at same
  exact same.symm

theorem lookup (h : Finished library schemas) (hn : (library.documents.map Prod.fst).Nodup)
    {name : String} {v : Value} (hv : Defines library name v) : schemas.lookup name = some v := by
  obtain ⟨s, -, found, -⟩ := hv.inv
  obtain ⟨r, hr, rfl, hd⟩ := exists_of_mem_left h (mem_of_lookup found)
  rw [hv.unique hd]
  exact lookup_of_mem (h.keys ▸ hn) hr

theorem defines (h : Finished library schemas) :
    ∀ d ∈ library.documents, ∃ v, Defines library d.1 v := by
  intro d hd
  obtain ⟨r, -, hk, hr⟩ := exists_of_mem_left h hd
  exact ⟨r.2, hk ▸ hr⟩

theorem lookup_iff (h : Finished library schemas) (hn : (library.documents.map Prod.fst).Nodup)
    {name : String} {v : Value} : schemas.lookup name = some v ↔ Defines library name v := by
  refine ⟨fun hl => ?_, h.lookup hn⟩
  have key : name ∈ library.documents.map Prod.fst := h.keys ▸ mem_keys_of_lookup (by simp [hl])
  obtain ⟨d, hd, rfl⟩ := List.mem_map.1 key
  obtain ⟨w, hw⟩ := h.defines d hd
  rwa [Option.some.inj (hl.symm.trans (h.lookup hn hw))]

theorem isCompiled (h : Finished library schemas) (hn : (library.documents.map Prod.fst).Nodup) :
    List.Forall₂ (fun d r => IsCompiled schemas d.1 d.2 r.2) library.documents schemas := by
  have members : List.Forall₂ (fun d r => d ∈ library.documents ∧ d.1 = r.1 ∧
      Defines library r.1 r.2) library.documents schemas :=
    (List.forall₂_and_left _ _).2 ⟨fun _ hd => hd, h⟩
  refine members.imp ?_
  rintro d r ⟨hd, hk, hr⟩
  exact Defines.isCompiled (hk ▸ hr) (lookup_of_mem hn hd) fun n w hw => h.lookup hn hw

end Finished

theorem finished_of_compile {schemas : List (String × Value)}
    (h : (compile documents mappers).outcome context state = (.ok schemas, after)) :
    ∃ parsed mid, ReadsTo documents state parsed mid ∧ Finished ⟨parsed, mappers⟩ schemas := by
  obtain ⟨schemas', after', parsed, mid, h', hr, hf⟩ | ⟨defects, after', h', -⟩ :=
    compile_ends documents mappers context state
  · obtain rfl := Except.ok.inj (Prod.mk.inj (h'.symm.trans h)).1
    exact ⟨parsed, mid, hr, hf⟩
  · simp [h'] at h

/-- A set of documents compiles if and only if all of them can be read, their parts are accepted with
any schemas in place of the names, and the names are those of documents and form no cycle. The results
stand under the names in order, and hold each other where the documents name each other. -/
theorem compile_ok_iff {standIn : String → Value} (context : Context) (state : State)
    (hn : (documents.map Prod.fst).Nodup)
    (hs : ∀ n, Built (·.isText) (standIn n) ∧ IsA .schema (standIn n)) :
    ((∃ schemas after, (compile documents mappers).outcome context state = (.ok schemas, after)) ↔
      ∃ parsed mid, ReadsTo documents state parsed mid ∧
        (∀ d ∈ parsed, ∃ v books, (Resolve.documentWith (fun n => pure (standIn n)) mappers d.1
          d.2).outcome context ({}, mid) = (.ok v, books)) ∧
        (∀ d ∈ parsed, ∀ n ∈ d.2.references, n ∈ documents.map Prod.fst) ∧
        ∀ name, ¬Relation.TransGen (Refers parsed) name name) ∧
    ∀ schemas after, (compile documents mappers).outcome context state = (.ok schemas, after) →
      schemas.map Prod.fst = documents.map Prod.fst ∧ ∃ parsed mid,
        ReadsTo documents state parsed mid ∧
          List.Forall₂ (fun d r => IsCompiled schemas d.1 d.2 r.2) parsed schemas := by
  refine ⟨⟨?_, ?_⟩, fun schemas after h => ?_⟩
  · rintro ⟨schemas, after, h⟩
    obtain ⟨parsed, mid, hr, hf⟩ := finished_of_compile h
    have hk : (parsed.map Prod.fst).Nodup := hr.keys ▸ hn
    obtain ⟨sound, closed, acyclic⟩ := (defines_iff hk).1 hf.defines
    exact ⟨parsed, mid, hr, fun d hd => (documentWith_pure_iff hs d.1 d.2).2 (sound d hd),
      hr.keys ▸ closed, acyclic⟩
  · rintro ⟨parsed, mid, hr, built, closed, acyclic⟩
    have hk : (parsed.map Prod.fst).Nodup := hr.keys ▸ hn
    obtain ⟨schemas, after, -, -, h, -⟩ | ⟨-, -, -, hnone⟩ :=
      compile_ends documents mappers context state
    · exact ⟨schemas, after, h⟩
    · have defined : ∀ d ∈ parsed, ∃ v, Defines ⟨parsed, mappers⟩ d.1 v := by
        have iff := @defines_iff ⟨parsed, mappers⟩ hk
        refine iff.2 ⟨fun d hd => ?_, ?_, acyclic⟩
        · exact (documentWith_pure_iff hs d.1 d.2).1 (built d hd)
        · exact hr.keys ▸ closed
      exact absurd ⟨parsed, mid, hr, defined⟩ hnone
  · obtain ⟨parsed, mid, hr, hf⟩ := finished_of_compile h
    exact ⟨hf.keys.trans hr.keys, parsed, mid, hr, hf.isCompiled (hr.keys ▸ hn)⟩

theorem compile_ok_iff_reference : ∃ schemas after,
    (compile [("page", .dict [("fields", .list [.dict [("name", .text "item"),
      ("nest", .text "item")]])]), ("item", .dict [])] []).outcome { mappings := fun _ v => .ok v } {} =
        (.ok schemas, after) := by
  have stand : ∀ _ : String, Built (·.isText) (.component (.schema [] .null .null .null)) ∧
      IsA .schema (.component (.schema [] .null .null .null)) := fun _ =>
    ⟨.of_construct { mappings := fun _ v => .ok v } {} ⟨by simp, .inl rfl, .inl rfl, .inl rfl⟩
      (by simp [Component.parts]) rfl, _, rfl, rfl⟩
  refine (compile_ok_iff _ _ (by decide) stand).1.2
    ⟨[("page", { fields := [{ name := "item", nest := some "item" }] }), ("item", {})], {},
      .cons rfl (.cons rfl .nil), ?_, ?_, ?_⟩
  · intro d hd
    simp only [List.mem_cons, List.not_mem_nil, or_false] at hd
    obtain rfl | rfl := hd
    · exact ⟨_, _, rfl⟩
    · exact ⟨_, _, rfl⟩
  · decide
  · intro name hc
    have edge : ∀ a b, Refers [("page", { fields := [{ name := "item", nest := some "item" }] }),
        ("item", {})] a b → a = "page" ∧ b = "item" := by
      rintro a b ⟨s, hs, hb⟩
      have hm := mem_of_lookup hs
      simp only [List.mem_cons, List.not_mem_nil, or_false, Prod.mk.injEq] at hm
      obtain ⟨rfl, rfl⟩ | ⟨rfl, rfl⟩ := hm
      · have hb : "item" = b ∧ b ≠ "" := by simpa [Schema.references, given?] using hb
        exact ⟨rfl, hb.1.symm⟩
      · simp [Schema.references] at hb
    obtain ⟨other, hfirst, -⟩ := Relation.TransGen.head'_iff.1 hc
    obtain ⟨other', -, hlast⟩ := Relation.TransGen.tail'_iff.1 hc
    exact absurd ((edge _ _ hfirst).1.symm.trans (edge _ _ hlast).2) (by decide)

end RecordMarkup.Document

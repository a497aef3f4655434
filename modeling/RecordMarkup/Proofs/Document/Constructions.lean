import RecordMarkup.Proofs.Document.Compiled

/-!
Which defects are reported. All that building takes is written down as one plan, in which the plan of a
document stands wherever a field names it. The resolver builds each document once, but what it reports is
what the first task of that plan finds that finds anything.
-/

namespace RecordMarkup.Document

variable {library : Library} {inner : String → Value} {path : List String} {name : String}
  {mappers : List (String × Value)}

namespace Library

def unfinished (library : Library) (path : List String) : List (String × Schema) :=
  library.documents.filter fun d => d.1 ∉ path

theorem unfinished_lt {s : Schema} (hp : name ∉ path)
    (hl : library.documents.lookup name = some s) :
    (library.unfinished (name :: path)).length < (library.unfinished path).length := by
  have fewer : library.unfinished (name :: path) =
      (library.unfinished path).filter fun d => d.1 ≠ name := by
    simp [unfinished, List.filter_filter]
  rw [fewer, List.length_filter_lt_length_iff_exists]
  exact ⟨(name, s), List.mem_filter.2 ⟨mem_of_lookup hl, by simpa using hp⟩, by simp⟩

/-- All that the schema of a name takes while the documents on the path are under construction,
innermost first. -/
def constructions (library : Library) (inner : String → Value) (path : List String)
    (name : String) : Plan :=
  if name ∈ path then .refuse (.referenceCycle (Resolve.cycle path name))
  else
    match _found : library.documents.lookup name with
    | none => .refuse (.unknownReference name)
    | some s =>
      (s.plan library.mappers inner name).expand (library.constructions inner (name :: path))
termination_by (library.unfinished path).length
decreasing_by exact unfinished_lt ‹_› ‹_›

def allConstructions (library : Library) (inner : String → Value) : Plan :=
  library.documents.flatMap fun d => library.constructions inner [] d.1

theorem constructions_of_mem (h : name ∈ path) :
    library.constructions inner path name =
      .refuse (.referenceCycle (Resolve.cycle path name)) := by
  rw [constructions, if_pos h]

theorem constructions_of_none (hp : name ∉ path) (hl : library.documents.lookup name = none) :
    library.constructions inner path name = .refuse (.unknownReference name) := by
  rw [constructions, if_neg hp]
  split
  next => rfl
  next s hs => simp [hs] at hl

theorem constructions_of_some {s : Schema} (hp : name ∉ path)
    (hl : library.documents.lookup name = some s) :
    library.constructions inner path name =
      (s.plan library.mappers inner name).expand (library.constructions inner (name :: path)) := by
  rw [constructions, if_neg hp]
  split
  next hs => simp [hs] at hl
  next t hs => rw [Option.some.inj (hs.symm.trans hl)]

end Library

namespace Resolve

theorem Runs.reports {schema : String → Plan} {plan : Plan} {books later : Books}
    {defects : List Defect}
    (h : Runs (fun n _ defects _ => (schema n).Reports defects) plan books defects later) :
    (plan.expand schema).Reports defects := by
  induction h with
  | done => exact .nil
  | logged _ _ ih => exact ih
  | passed hf _ ih =>
    rw [Plan.expand_cons, Plan.expand_of_finds hf]
    exact .passed hf ih
  | found hf hd =>
    rw [Plan.expand_cons, Plan.expand_of_finds hf]
    exact .found hf hd
  | @visited route _ _ _ _ _ _ first _ ih =>
    rw [Plan.expand_cons, Plan.expand_visit]
    exact (first.inside route).append ih
  | @stopped route _ _ _ _ _ first hd =>
    rw [Plan.expand_cons, Plan.expand_visit]
    exact (first.inside route).append_of_ne (by simpa using hd) _

end Resolve

theorem Schema.Sound.reports {s : Schema} {schema : String → Plan} (h : s.Sound mappers)
    (name : String)
    (hi : ∀ n ∈ s.references, Built (·.isText) (inner n) ∧ Value.IsA .schema (inner n))
    (hr : ∀ n ∈ s.references, (schema n).Reports []) :
    ((s.plan mappers inner name).expand schema).Reports [] := by
  have performs : Resolve.Performs { mappings := fun _ v => .ok v } Resolve.Given (fun _ => True) _ _ _
    (s.Sound mappers) := Resolve.documentWith_pure mappers name hi
  obtain ⟨result, defects, later, -, runs, -, hend⟩ := performs ({}, {}) trivial
  have none : defects = [] := by
    cases result with
    | ok v => exact hend.1
    | error f => exact absurd h hend.1
  subst none
  refine (runs.imp (p := fun _ => True) trivial fun route n hn books defects later _ given =>
    ?_).2.reports
  rw [given.1]
  exact ⟨trivial, hr n (mem_references_of_visits hn)⟩

theorem Defines.reports {v : Value} (hi : ∀ n v, Defines library n v → inner n = v)
    (h : Defines library name v) (trail : Trail library.documents path name) :
    (library.constructions inner path name).Reports [] := by
  induction h generalizing path with
  | @mk name s other found sound inside ih =>
    have hp : name ∉ path := fun hm =>
      (Defines.mk found sound inside).not_cyclic (trail.leads name hm)
    rw [library.constructions_of_some hp found]
    refine sound.reports name (fun n hn => ?_) fun n hn => ih n hn (trail.cons hp ⟨s, found, hn⟩)
    rw [hi n _ (inside n hn)]
    exact (inside n hn).built

namespace Resolve

theorem Visits.reports {visit : String → Books → List Defect → Books → Prop} {books later : Books}
    {defects : List Defect} (hi : ∀ n v, Defines library n v → inner n = v)
    (trail : Trail library.documents path name)
    (h : Visits visit library inner name books defects later) (hb : Kept library path books.1)
    (hv : name ∉ path → ∀ n, Refers library.documents name n → ∀ books defects later,
      Kept library (name :: path) books.1 → visit n books defects later →
        Kept library (name :: path) later.1 ∧
          (library.constructions inner (name :: path) n).Reports defects) :
    Kept library path later.1 ∧ (library.constructions inner path name).Reports defects := by
  obtain ⟨rfl, built⟩ := hb
  cases h with
  | known hb => exact ⟨⟨rfl, built⟩, Defines.reports hi (built _ (mem_of_lookup hb)) trail⟩
  | cycle hb hp =>
    rw [library.constructions_of_mem hp]
    exact ⟨⟨rfl, built⟩, by simpa using Plan.reports_refuse _ []⟩
  | unknown hb hp hl =>
    rw [library.constructions_of_none hp hl]
    exact ⟨⟨rfl, built⟩, by simpa using Plan.reports_refuse _ []⟩
  | @refused progress after state later s defects hb hp hl runs hd =>
    rw [library.constructions_of_some hp hl]
    obtain ⟨kept, runs⟩ := runs.imp (p := Kept library (name :: progress.path)) ⟨rfl, built⟩
      fun _ n hn => hv hp n ⟨s, hl, Schema.mem_references_of_visits hn⟩
    exact ⟨⟨congrArg List.tail kept.path, kept.built⟩, runs.reports⟩
  | @finished progress after state later s hb hp hl runs defined =>
    rw [library.constructions_of_some hp hl]
    obtain ⟨kept, runs⟩ := runs.imp (p := Kept library (name :: progress.path)) ⟨rfl, built⟩
      fun _ n hn => hv hp n ⟨s, hl, Schema.mem_references_of_visits hn⟩
    exact ⟨⟨congrArg List.tail kept.path, List.forall_mem_cons.2 ⟨defined, kept.built⟩⟩,
      runs.reports⟩

theorem Resolves.reports (hi : ∀ n v, Defines library n v → inner n = v) (bound : Nat)
    {path : List String} {name : String} {books later : Books} {defects : List Defect}
    (trail : Trail library.documents path name) (hb : Kept library path books.1)
    (h : Resolves library inner bound name books defects later) :
    Kept library path later.1 ∧ (library.constructions inner path name).Reports defects := by
  induction bound generalizing path name books defects later with
  | zero => exact h.elim
  | succ bound ih =>
    exact Visits.reports hi trail h hb fun hp n hr _ _ _ hb h => ih (trail.cons hp hr) hb h

end Resolve

variable {documents : List (String × Value)} {parsed : List (String × Schema)} {state mid : State}

theorem compile_reports (hr : ReadsTo documents state parsed mid)
    (hi : ∀ n v, Defines ⟨parsed, mappers⟩ n v → inner n = v) (context : Context) :
    ∃ defects after, (Library.allConstructions ⟨parsed, mappers⟩ inner).Reports defects ∧
      ((defects = [] ∧ ∃ schemas,
          (compile documents mappers).outcome context state = (.ok schemas, after)) ∨
        defects ≠ [] ∧ (compile documents mappers).outcome context state =
          (.error (.schema defects), after)) := by
  obtain ⟨defects, later, runs, hend⟩ := compile_runs hr hi context
  have expanded : (Library.plan ⟨parsed, mappers⟩).expand
      (Library.constructions ⟨parsed, mappers⟩ inner []) =
        Library.allConstructions ⟨parsed, mappers⟩ inner := by
    simp only [Library.plan, Plan.expand_flatMap, Plan.expand_visit_name]
    rfl
  have reports := (runs.imp (p := Resolve.Kept ⟨parsed, mappers⟩ []) ⟨rfl, by simp⟩
    fun _ n _ books defects later hb h => Resolve.Resolves.reports hi _ .nil hb h).2.reports
  rw [expanded] at reports
  obtain ⟨hd, -, ho⟩ | ⟨hd, -, ho⟩ := hend
  · exact ⟨defects, _, reports, .inl ⟨hd, _, ho⟩⟩
  · exact ⟨defects, _, reports, .inr ⟨hd, ho⟩⟩

theorem first_of_compile {defects : List Defect} {after : State} {context : Context}
    (h : (compile documents mappers).outcome context state = (.error (.schema defects), after))
    (hr : ReadsTo documents state parsed mid)
    (hi : ∀ n v, Defines ⟨parsed, mappers⟩ n v → inner n = v) :
    ∃ earlier route task later found,
      Library.allConstructions ⟨parsed, mappers⟩ inner = earlier ++ (route, task) :: later ∧
      (∀ step ∈ earlier, step.2.Finds []) ∧ task.Finds found ∧ found ≠ [] ∧
      defects = found.map (·.under route) := by
  obtain ⟨told, later, reports, ⟨-, schemas, ho⟩ | ⟨hd, ho⟩⟩ := compile_reports hr hi context
  · exact nomatch ho.symm.trans h
  · obtain rfl := defects_unique ho h
    exact reports.first hd

/-- A set of documents that can be read compiles if no construction finds anything, and else fails with
what the first one finds that does: the defects of that one, in their order, each under the fields that
led to it, the outermost first. -/
theorem compile_first_found (hr : ReadsTo documents state parsed mid)
    (hi : ∀ n v, Defines ⟨parsed, mappers⟩ n v → inner n = v) (context : Context) :
    (∃ schemas after, (compile documents mappers).outcome context state = (.ok schemas, after) ∧
      ∀ step ∈ Library.allConstructions ⟨parsed, mappers⟩ inner, step.2.Finds []) ∨
    ∃ defects after, (compile documents mappers).outcome context state =
        (.error (.schema defects), after) ∧
      ∃ earlier route task later found,
        Library.allConstructions ⟨parsed, mappers⟩ inner = earlier ++ (route, task) :: later ∧
        (∀ step ∈ earlier, step.2.Finds []) ∧ task.Finds found ∧ found ≠ [] ∧
        defects = found.map (·.under route) ∧
        defects.map Defect.message = found.map fun defect => route.text ++ defect.message := by
  obtain ⟨defects, after, reports, ⟨rfl, schemas, ho⟩ | ⟨hd, ho⟩⟩ := compile_reports hr hi context
  · exact .inl ⟨schemas, after, ho, reports.finds⟩
  · obtain ⟨earlier, route, task, rest, found, split, passed, finds, hf, rfl⟩ := reports.first hd
    refine .inr ⟨_, _, ho, earlier, route, task, rest, found, split, passed, finds, hf, rfl, ?_⟩
    rw [List.map_map]
    exact List.map_congr_left fun defect _ => Defect.message_under route defect

def pageOfOptionalList : List (String × Value) :=
  [("page", .dict [("fields", .list [.dict [("name", .text "entry"), ("nest", .text "item")]])]),
    ("item", .dict [("fields", .list [.dict [("name", .text "title"), ("list", .bool true),
      ("optional", .bool true)]])])]

theorem compile_first_found_nested : ∃ (inner : String → Value) (parsed : List (String × Schema))
    (defects : List Defect) (after : State),
    (compile pageOfOptionalList []).outcome { mappings := fun _ v => .ok v } {} =
      (.error (.schema defects), after) ∧
    (∃ earlier route task later found,
      Library.allConstructions ⟨parsed, []⟩ inner = earlier ++ (route, task) :: later ∧
      (∀ step ∈ earlier, step.2.Finds []) ∧ task.Finds found ∧ found ≠ [] ∧
      defects.map Defect.message = found.map fun defect => route.text ++ defect.message) ∧
    defects.map Defect.message =
      ["page.entry: item.title: list fields cannot be optional, defaulted or mapped"] := by
  have reads : ReadsTo pageOfOptionalList {}
      [("page", { fields := [{ name := "entry", nest := some "item" }] }),
        ("item", { fields := [{ name := "title", list := true, optional := true }] })] {} :=
    .cons rfl (.cons rfl .nil)
  have told : (compile pageOfOptionalList []).outcome { mappings := fun _ v => .ok v } {} =
      (.error (.schema [.within "page" "entry" (.within "item" "title" .listExcludesOptions)]),
        {}) := rfl
  obtain ⟨inner, hi⟩ := exists_inner ⟨_, []⟩
  obtain ⟨schemas, after, ho, -⟩ | ⟨defects, after, ho, earlier, route, task, later, found, split,
    passed, finds, hf, -, messages⟩ := compile_first_found reads hi { mappings := fun _ v => .ok v }
  · exact nomatch told.symm.trans ho
  · obtain rfl := defects_unique told ho
    exact ⟨inner, _, _, _, told, ⟨earlier, route, task, later, found, split, passed, finds, hf,
      messages⟩, rfl⟩

end RecordMarkup.Document

import RecordMarkup.Proofs.Document.Defined
import RecordMarkup.Proofs.Document.Runs

namespace RecordMarkup.Document

variable {library : Library} {inner : String → Value} {name : String} {path : List String}

def Library.plan (library : Library) : Plan := library.documents.flatMap fun d => Plan.visit d.1

namespace Resolve

/-- The schema of a name is got: what that comes to, and the books that are left. A schema that is
finished is not built again. -/
inductive Visits (visit : String → Books → List Defect → Books → Prop) (library : Library)
    (inner : String → Value) (name : String) : Books → List Defect → Books → Prop
  | known {books : Books} {v : Value} (hb : books.1.built.lookup name = some v) :
      Visits visit library inner name books [] books
  | cycle {books : Books} (hb : books.1.built.lookup name = none) (hp : name ∈ books.1.path) :
      Visits visit library inner name books [.referenceCycle (cycle books.1.path name)] books
  | unknown {books : Books} (hb : books.1.built.lookup name = none) (hp : name ∉ books.1.path)
      (hl : library.documents.lookup name = none) :
      Visits visit library inner name books [.unknownReference name] books
  | refused {progress after : Progress} {state later : State} {s : Schema} {defects : List Defect}
      (hb : progress.built.lookup name = none) (hp : name ∉ progress.path)
      (hl : library.documents.lookup name = some s)
      (runs : Runs visit (s.plan library.mappers inner name)
        ({ progress with path := name :: progress.path }, state) defects (after, later))
      (hd : defects ≠ []) :
      Visits visit library inner name (progress, state) defects
        ({ after with path := after.path.tail }, later)
  | finished {progress after : Progress} {state later : State} {s : Schema}
      (hb : progress.built.lookup name = none) (hp : name ∉ progress.path)
      (hl : library.documents.lookup name = some s)
      (runs : Runs visit (s.plan library.mappers inner name)
        ({ progress with path := name :: progress.path }, state) [] (after, later))
      (defined : Defines library name (inner name)) :
      Visits visit library inner name (progress, state) []
        (⟨after.path.tail, (name, inner name) :: after.built⟩, later.logged [.compiledSchema name])

def Resolves (library : Library) (inner : String → Value) :
    Nat → String → Books → List Defect → Books → Prop
  | 0, _, _, _, _ => False
  | bound + 1, name, books, defects, later =>
    Visits (Resolves library inner bound) library inner name books defects later

structure Kept (library : Library) (path : List String) (progress : Progress) : Prop where
  path : progress.path = path
  built : ∀ entry ∈ progress.built, Defines library entry.1 entry.2

section Outcome

variable {context : Context} {schema : String → Resolve Value} {progress : Progress} {state : State}

theorem schemaWith_known {v : Value} (hb : progress.built.lookup name = some v) :
    (schemaWith schema library name).outcome context (progress, state) =
      (.ok v, (progress, state)) := by
  rw [schemaWith, outcome_bind_ok (outcome_progress _ _)]
  simp [hb]

theorem schemaWith_cycle (hb : progress.built.lookup name = none) (hp : name ∈ progress.path) :
    (schemaWith schema library name).outcome context (progress, state) =
      (.error (.schema [.referenceCycle (cycle progress.path name)]), (progress, state)) := by
  rw [schemaWith, outcome_bind_ok (outcome_progress _ _)]
  simp [hb, hp]

theorem schemaWith_unknown (hb : progress.built.lookup name = none) (hp : name ∉ progress.path)
    (hl : library.documents.lookup name = none) :
    (schemaWith schema library name).outcome context (progress, state) =
      (.error (.schema [.unknownReference name]), (progress, state)) := by
  rw [schemaWith, outcome_bind_ok (outcome_progress _ _)]
  simp [hb, hp, hl]

theorem schemaWith_found {s : Schema} (hb : progress.built.lookup name = none)
    (hp : name ∉ progress.path) (hl : library.documents.lookup name = some s) :
    (schemaWith schema library name).outcome context (progress, state) =
      match (documentWith schema library.mappers name s).outcome context
        ({ progress with path := name :: progress.path }, state) with
      | (.ok v, (after, later)) =>
        (.ok v, (⟨after.path.tail, (name, v) :: after.built⟩, later.logged [.compiledSchema name]))
      | (.error f, (after, later)) => (.error f, ({ after with path := after.path.tail }, later)) := by
  have entered := outcome_entering name (documentWith schema library.mappers name s) context
    progress state
  rw [schemaWith, outcome_bind_ok (outcome_progress _ _)]
  simp only [hb, List.contains_iff_mem, if_neg hp, hl]
  cases ho : (documentWith schema library.mappers name s).outcome context
    ({ progress with path := name :: progress.path }, state) with
  | mk result books =>
    rw [ho] at entered
    cases result with
    | ok v =>
      rw [outcome_bind_ok entered]
      rfl
    | error f => exact outcome_bind_error entered

end Outcome

theorem schemaWith_performs {context : Context} {schema : String → Resolve Value}
    {visit : String → Books → List Defect → Books → Prop}
    (hi : ∀ n v, Defines library n v → inner n = v) (trail : Trail library.documents path name)
    (hs : name ∉ path → ∀ n, Refers library.documents name n →
      Performs context visit (Kept library (name :: path)) (schema n) (.visit n)
        (fun v => v = inner n ∧ Defines library n (inner n)) (∃ v, Defines library n v)) :
    Performs context (Visits visit library inner) (Kept library path)
      (schemaWith schema library name) (.visit name)
      (fun v => v = inner name ∧ Defines library name (inner name)) (∃ v, Defines library name v) := by
  refine .of_outcome ?_
  rintro ⟨progress, state⟩ ⟨rfl, built⟩
  cases hb : progress.built.lookup name with
  | some v =>
    have defined : Defines library name v := built _ (mem_of_lookup hb)
    obtain rfl := hi name v defined
    exact ⟨_, [], _, schemaWith_known hb, .known hb, ⟨rfl, built⟩, rfl, rfl, defined⟩
  | none =>
    by_cases hp : name ∈ progress.path
    · refine ⟨_, _, _, schemaWith_cycle hb hp, .cycle hb hp, ⟨rfl, built⟩, ?_,
        List.cons_ne_nil _ _, rfl⟩
      rintro ⟨v, hv⟩
      exact hv.not_cyclic (trail.leads name hp)
    · cases hl : library.documents.lookup name with
      | none =>
        refine ⟨_, _, _, schemaWith_unknown hb hp hl, .unknown hb hp hl, ⟨rfl, built⟩, ?_,
          List.cons_ne_nil _ _, rfl⟩
        rintro ⟨v, hv⟩
        obtain ⟨s, -, found, -⟩ := hv.inv
        simp [found] at hl
      | some s =>
        have document := documentWith_performs library.mappers name s
          (fun n h => Defines.built h) fun n hn => hs hp n ⟨s, hl, hn⟩
        obtain ⟨result, defects, ⟨after, later⟩, ho, runs, kept, hend⟩ :=
          document ({ progress with path := name :: progress.path }, state) ⟨rfl, built⟩
        have popped : after.path.tail = progress.path := congrArg List.tail kept.path
        rw [schemaWith_found hb hp hl, ho]
        cases result with
        | ok v =>
          obtain ⟨rfl, rfl, sound, inside⟩ := hend
          have defined : Defines library name (s.value library.mappers inner name) :=
            .mk hl sound inside
          have value := hi name _ defined
          rw [← value] at defined ⊢
          exact ⟨_, [], _, rfl, .finished hb hp hl runs defined,
            ⟨popped, List.forall_mem_cons.2 ⟨defined, kept.built⟩⟩, rfl, rfl, defined⟩
        | error f =>
          obtain ⟨unsure, hd, rfl⟩ := hend
          refine ⟨_, defects, _, rfl, .refused hb hp hl runs hd, ⟨popped, kept.built⟩, ?_, hd, rfl⟩
          rintro ⟨v, hv⟩
          obtain ⟨inner', sound, inside, -⟩ := hv.inv_of_lookup hl
          exact unsure ⟨fun n hn => ⟨_, inside n hn⟩, sound⟩

theorem schemaTo_performs {context : Context} (hi : ∀ n v, Defines library n v → inner n = v)
    (bound : Nat) {path : List String} {name : String} (trail : Trail library.documents path name)
    (room : library.documents.length < bound + path.length) :
    Performs context (Resolves library inner bound) (Kept library path)
      (schemaTo library bound name) (.visit name)
      (fun v => v = inner name ∧ Defines library name (inner name)) (∃ v, Defines library name v) := by
  -- A trail has no name twice, so it is no longer than the library and the bound is never used up.
  induction bound generalizing path name with
  | zero =>
    have := trail.length_le
    omega
  | succ bound ih =>
    refine schemaWith_performs hi trail fun hp n hr => ih (trail.cons hp hr) ?_
    simp only [List.length_cons]
    omega

theorem all_performs (hi : ∀ n v, Defines library n v → inner n = v) (context : Context) :
    Performs context (Resolves library inner (library.documents.length + 1)) (Kept library [])
      (all library) library.plan
      (fun schemas => schemas = library.documents.map (fun d => (d.1, inner d.1)) ∧
        ∀ d ∈ library.documents, Defines library d.1 (inner d.1))
      (∀ d ∈ library.documents, ∃ v, Defines library d.1 v) := by
  refine .mapM fun d _ => ?_
  refine (schemaTo_performs hi _ .nil (Nat.lt_succ_self _)).map fun v hv => ?_
  exact ⟨by rw [hv.1], hv.2⟩

end Resolve

theorem exists_inner (library : Library) :
    ∃ inner : String → Value, ∀ n v, Defines library n v → inner n = v := by
  have chosen : ∀ n, ∃ w, ∀ v, Defines library n v → w = v := by
    intro n
    by_cases hn : ∃ w, Defines library n w
    · obtain ⟨w, hw⟩ := hn
      exact ⟨w, fun v hv => hw.unique hv⟩
    · exact ⟨.null, fun v hv => absurd ⟨v, hv⟩ hn⟩
  exact Classical.skolem.1 chosen

theorem outcome_build (library : Library) (context : Context) (state : State) :
    (build library).outcome context state =
      let run := (Resolve.all library).outcome context ({}, state)
      (run.1, run.2.2) := rfl

theorem build_runs (hi : ∀ n v, Defines library n v → inner n = v) (context : Context)
    (state : State) :
    ∃ result defects later, (build library).outcome context state = (result, later.2) ∧
      Resolve.Runs (Resolve.Resolves library inner (library.documents.length + 1)) library.plan
        ({}, state) defects later ∧
      Resolve.Accords (fun schemas => schemas = library.documents.map (fun d => (d.1, inner d.1)) ∧
        ∀ d ∈ library.documents, Defines library d.1 (inner d.1))
        (∀ d ∈ library.documents, ∃ v, Defines library d.1 v) result defects := by
  obtain ⟨result, defects, later, ho, runs, -, hend⟩ :=
    Resolve.all_performs hi context ({}, state) ⟨rfl, by simp⟩
  exact ⟨result, defects, later, by rw [outcome_build, ho], runs, hend⟩

end RecordMarkup.Document

import RecordMarkup.Proofs.Document.Finishing

/-!
The books of the resolver, checked while it runs. An audited resolver looks at the books whenever a
schema is asked for and again when the answer is there, be it a schema or a failure, and goes astray
where they are not in order, or where calls are nested deeper than the documents allow. Audited or not,
compiling comes to the same, so the books are always in order.
-/

namespace RecordMarkup.Document

namespace Resolve

variable {α β : Type} {p : Progress → Prop}

def Agree (p : Progress → Prop) (a b : Resolve α) : Prop :=
  ∀ context books, p books.1 →
    a.outcome context books = b.outcome context books ∧ p (b.outcome context books).2.1

namespace Agree

theorem pure (a : α) : Agree p (Pure.pure a) (Pure.pure a) := fun _ _ hb => ⟨rfl, hb⟩

theorem refuse (defect : Defect) :
    Agree p (Resolve.refuse defect : Resolve α) (Resolve.refuse defect) := fun _ _ hb => ⟨rfl, hb⟩

theorem lift (action : Eval α) : Agree p (Resolve.lift action) (Resolve.lift action) :=
  fun _ _ hb => ⟨rfl, hb⟩

theorem bind {a b : Resolve α} {f g : α → Resolve β} (h : Agree p a b)
    (hf : ∀ x, Agree p (f x) (g x)) : Agree p (a >>= f) (b >>= g) := by
  intro context books hb
  obtain ⟨same, kept⟩ := h context books hb
  rw [outcome_bind, outcome_bind, same]
  cases hr : b.outcome context books with
  | mk result later =>
    rw [hr] at kept
    cases result with
    | ok x => exact hf x context later kept
    | error f => exact ⟨rfl, kept⟩

theorem within {a b : Resolve α} (owner field : String) (h : Agree p a b) :
    Agree p (Resolve.within owner field a) (Resolve.within owner field b) := by
  intro context books hb
  obtain ⟨same, kept⟩ := h context books hb
  rw [outcome_within, outcome_within, same]
  refine ⟨rfl, ?_⟩
  cases hr : b.outcome context books with
  | mk result later =>
    rw [hr] at kept
    cases result with
    | ok x => exact kept
    | error f => cases f <;> exact kept

theorem mapM {f g : α → Resolve β} {xs : List α} (h : ∀ x ∈ xs, Agree p (f x) (g x)) :
    Agree p (xs.mapM f) (xs.mapM g) := by
  induction xs with
  | nil => exact .pure _
  | cons x xs ih =>
    rw [List.mapM_cons, List.mapM_cons]
    exact (h x (.head _)).bind fun _ => (ih fun y hy => h y (.tail _ hy)).bind fun _ => .pure _

end Agree

section Document

variable {schema other : String → Resolve Value} {mappers : List (String × Value)}

theorem itemWith_agree {name : Option String}
    (h : ∀ n, given? name = some n → Agree p (schema n) (other n)) :
    Agree p (itemWith schema name) (itemWith other name) := by
  unfold itemWith
  cases hn : given? name with
  | none => exact .pure _
  | some n => exact h n hn

theorem mapping_agree (name : Option String) :
    Agree p (mapping mappers name) (mapping mappers name) := by
  unfold mapping
  cases given? name with
  | none => exact .pure _
  | some n =>
    dsimp only
    cases mappers.lookup n with
    | none => exact .refuse _
    | some function => exact .lift _

theorem policyWith_agree {f : Field}
    (h : ∀ n, given? f.nest = some n → Agree p (schema n) (other n)) :
    Agree p (policyWith schema mappers f) (policyWith other mappers f) := by
  unfold policyWith
  split
  · split
    · exact .refuse _
    · exact (itemWith_agree h).bind fun _ => .lift _
  · cases hn : given? f.nest with
    | some n =>
      dsimp only
      split
      · exact .refuse _
      · exact (h n hn).bind fun _ => .lift _
    | none =>
      dsimp only
      split
      · exact .refuse _
      · exact (mapping_agree f.map).bind fun _ => .lift _

theorem fieldWith_agree (owner : String) {f : Field}
    (h : ∀ n, given? f.nest = some n → Agree p (schema n) (other n)) :
    Agree p (fieldWith schema mappers owner f) (fieldWith other mappers owner f) :=
  .within owner f.name <| (policyWith_agree h).bind fun _ => (Agree.lift _).bind fun _ => .lift _

theorem documentWith_agree (mappers : List (String × Value)) (name : String) {s : Schema}
    (h : ∀ n ∈ s.references, Agree p (schema n) (other n)) :
    Agree p (documentWith schema mappers name s) (documentWith other mappers name s) :=
  Agree.bind (.mapM fun f hf => fieldWith_agree name fun n hn =>
      h n (Schema.mem_references.2 ⟨f, hf, hn⟩))
    fun _ => (Agree.lift _).bind fun _ => .lift _

end Document

/-- What holds of the books when the schema of a name is asked for. The path has no name twice, all
its names are documents, none of them is finished, and each document on it refers to the next, the
innermost to the name. What is finished is what its name stands for, and so is all that it refers to. -/
structure InOrder (library : Library) (name : String) (progress : Progress) : Prop where
  nodup : progress.path.Nodup
  known : ∀ n ∈ progress.path, n ∈ library.documents.map Prod.fst
  apart : ∀ n ∈ progress.path, n ∉ progress.built.map Prod.fst
  chain : (name :: progress.path).IsChain fun inner outer => Refers library.documents outer inner
  finished : ∀ entry ∈ progress.built, Defines library entry.1 entry.2
  closed : ∀ n ∈ progress.built.map Prod.fst, ∀ other, Refers library.documents n other →
    other ∈ progress.built.map Prod.fst

/-- The path is as before, and more schemas may be finished. -/
structure Grows (before after : Progress) : Prop where
  path : after.path = before.path
  built : before.built <:+ after.built

open Classical in
/-- Raises the alarm if the books are not in order before the action or have not grown after it,
however the action ends. -/
noncomputable def audit (library : Library) (name : String) (alarm action : Resolve Value) :
    Resolve Value := fun context => ExceptT.mk fun books =>
  if InOrder library name books.1 then
    let (result, later) := action.outcome context books
    if Grows books.1 later.1 then (result, later) else alarm.outcome context later
  else alarm.outcome context books

noncomputable def auditedTo (library : Library) (alarm : String → Resolve Value) :
    Nat → String → Resolve Value
  | 0, name => alarm name
  | bound + 1, name =>
    audit library name (alarm name) (schemaWith (auditedTo library alarm bound) library name)

/-- At most one call more than there are documents is nested in another. -/
noncomputable def audited (alarm : String → Resolve Value) (library : Library) (name : String) :
    Resolve Value :=
  auditedTo library alarm (library.documents.length + 1) name

open Classical in
theorem outcome_audit {library : Library} {name : String} {alarm action : Resolve Value}
    {context : Context} {books : Books} (ho : InOrder library name books.1)
    (hg : Grows books.1 (action.outcome context books).2.1) :
    (audit library name alarm action).outcome context books = action.outcome context books := by
  change (if InOrder library name books.1 then
    if Grows books.1 (action.outcome context books).2.1 then
      action.outcome context books
    else _ else _) = _
  rw [if_pos ho, if_pos hg]

structure Tidy (library : Library) (path : List String) (start : List (String × Value))
    (progress : Progress) : Prop where
  kept : Kept library path progress
  orderly : Orderly library.documents path progress
  grown : start <:+ progress.built

variable {library : Library} {path : List String} {name : String} {start : List (String × Value)}

namespace Tidy

theorem inOrder {progress : Progress} (h : Tidy library path start progress)
    (trail : Trail library.documents path name) : InOrder library name progress := by
  obtain ⟨⟨rfl, finished⟩, orderly, -⟩ := h
  refine ⟨trail.nodup, fun n hn => mem_keys_of_lookup (trail.known n hn), ?_, trail.chain, finished,
    ?_⟩
  · intro n hn hm
    exact orderly.apart n hn (List.mem_reverse.2 hm)
  · intro n hn other hr
    obtain ⟨earlier, later, he⟩ := List.append_of_mem (List.mem_reverse.2 hn)
    have before : other ∈ earlier := orderly.order.before he other hr
    exact List.mem_reverse.1 (he ▸ List.mem_append_left _ before)

theorem entering {progress : Progress} (h : Tidy library path start progress)
    (hb : progress.built.lookup name = none) :
    Tidy library (name :: path) progress.built { progress with path := name :: progress.path } :=
  ⟨⟨by rw [h.kept.path], h.kept.built⟩, h.orderly.entering hb, List.suffix_rfl⟩

theorem of_schemaTo (bound : Nat) (trail : Trail library.documents path name)
    (room : library.documents.length < bound + path.length) (context : Context) {books : Books}
    (h : Tidy library path start books.1)
    (grows : Grows books.1 ((schemaTo library bound name).outcome context books).2.1) :
    Tidy library path start ((schemaTo library bound name).outcome context books).2.1 := by
  obtain ⟨inner, hi⟩ := exists_inner library
  obtain ⟨result, defects, later, ho, runs, kept, -⟩ :=
    schemaTo_performs hi bound trail room books h.kept
  have grown := h.grown.trans grows.built
  rw [ho] at grown ⊢
  exact ⟨kept, (runs.imp h.orderly fun _ _ _ _ _ _ hb hv => Resolves.finishes bound hb hv).1, grown⟩

end Tidy

theorem schemaWith_agree {schema other : String → Resolve Value}
    (h : name ∉ path → ∀ n, Refers library.documents name n → ∀ start,
      Agree (Tidy library (name :: path) start) (schema n) (other n))
    (context : Context) {books : Books} (tidy : Tidy library path start books.1) :
    (schemaWith schema library name).outcome context books =
        (schemaWith other library name).outcome context books ∧
      Grows books.1 ((schemaWith other library name).outcome context books).2.1 := by
  obtain ⟨progress, state⟩ := books
  cases hb : progress.built.lookup name with
  | some v =>
    rw [schemaWith_known hb, schemaWith_known hb]
    exact ⟨rfl, rfl, List.suffix_rfl⟩
  | none =>
    by_cases hp : name ∈ progress.path
    · rw [schemaWith_cycle hb hp, schemaWith_cycle hb hp]
      exact ⟨rfl, rfl, List.suffix_rfl⟩
    · cases hl : library.documents.lookup name with
      | none =>
        rw [schemaWith_unknown hb hp hl, schemaWith_unknown hb hp hl]
        exact ⟨rfl, rfl, List.suffix_rfl⟩
      | some s =>
        rw [schemaWith_found hb hp hl, schemaWith_found hb hp hl]
        obtain ⟨same, inside⟩ := documentWith_agree library.mappers name
          (fun n hn => h (tidy.kept.path ▸ hp) n ⟨s, hl, hn⟩ progress.built) context
          (_, state) (tidy.entering hb)
        rw [same]
        refine ⟨rfl, ?_⟩
        cases ho : (documentWith other library.mappers name s).outcome context
            ({ progress with path := name :: progress.path }, state) with
        | mk result later =>
          rw [ho] at inside
          have popped : later.1.path.tail = progress.path :=
            (congrArg List.tail inside.kept.path).trans tidy.kept.path.symm
          cases result with
          | ok v => exact ⟨popped, inside.grown.trans (List.suffix_cons _ _)⟩
          | error f => exact ⟨popped, inside.grown⟩

theorem auditedTo_agree (alarm : String → Resolve Value) (bound : Nat) {path : List String}
    {name : String} (trail : Trail library.documents path name)
    (room : library.documents.length < bound + path.length) (start : List (String × Value)) :
    Agree (Tidy library path start) (auditedTo library alarm bound name)
      (schemaTo library bound name) := by
  -- The trail tells what is on the path; the books are held against it at every name.
  induction bound generalizing path name start with
  | zero =>
    have := trail.length_le
    omega
  | succ bound ih =>
    intro context books tidy
    have inside : name ∉ path → ∀ n, Refers library.documents name n → ∀ start,
        Agree (Tidy library (name :: path) start) (auditedTo library alarm bound n)
          (schemaTo library bound n) := by
      intro hp n hr start
      refine ih (trail.cons hp hr) ?_ start
      simp only [List.length_cons]
      omega
    obtain ⟨same, grows⟩ := schemaWith_agree inside context tidy
    refine ⟨?_, tidy.of_schemaTo _ trail room context grows⟩
    rw [auditedTo, schemaTo, outcome_audit (tidy.inOrder trail) (same ▸ grows), same]

end Resolve

def buildBy (resolve : Library → String → Resolve Value) (library : Library) :
    Eval (List (String × Value)) := fun context =>
  ExceptT.mk fun state =>
    let action := library.documents.mapM fun (name, _) => return (name, ← resolve library name)
    let (result, (_, state)) := (action.run context).run.run ({}, state)
    (result, state)

def compileBy (resolve : Library → String → Resolve Value)
    (documents mappers : List (String × Value)) : Eval (List (String × Value)) := do
  match ← modifyGet (readAll documents) with
  | .error defects =>
    Eval.log (.invalidDocuments defects.length)
    throw (.schema defects)
  | .ok documents =>
    let schemas ← buildBy resolve ⟨documents, mappers⟩
    Eval.log (.compiled schemas.length)
    return schemas

theorem compileBy_schema : compileBy Resolve.schema = compile := rfl

theorem buildBy_audited (alarm : String → Resolve Value) :
    buildBy (Resolve.audited alarm) = buildBy Resolve.schema := by
  refine funext fun library => Eval.ext fun context state => ?_
  have all : Resolve.Agree (Resolve.Tidy library [] [])
      (library.documents.mapM fun (name, _) => return (name, ← Resolve.audited alarm library name))
      (library.documents.mapM fun (name, _) => return (name, ← Resolve.schema library name)) :=
    .mapM fun d _ => (Resolve.auditedTo_agree alarm _ .nil (Nat.lt_succ_self _) []).bind
      fun _ => .pure _
  have empty : Resolve.Tidy library [] [] {} := ⟨⟨rfl, nofun⟩, ⟨rfl, .nil, nofun⟩, List.suffix_rfl⟩
  have same := (all context ({}, state) empty).1
  exact congrArg (fun run => (run.1, run.2.2)) same

/-- Whenever a schema is asked for while documents are compiled, the books are in order, and when the
answer is there, a schema or a failure, the path is as it was and no finished schema is lost; and never
are more calls nested than there are documents, and one. For if the resolver checks all that, compiling
comes to the same, whatever it does when a check fails. -/
theorem compile_audited (alarm : String → Resolve Value) (documents mappers : List (String × Value)) :
    compileBy (Resolve.audited alarm) documents mappers = compile documents mappers := by
  rw [← compileBy_schema]
  simp only [compileBy, buildBy_audited]

end RecordMarkup.Document

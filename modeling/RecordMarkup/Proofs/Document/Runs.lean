import RecordMarkup.Proofs.Document.Schemas

/-!
How plans are carried out where books are kept. `Runs` follows a plan task by task up to the first that
finds anything, whatever is done to get a schema; `Performs` says of an action of the resolver that it
carries a plan out. A document is built by carrying out its plan.
-/

namespace RecordMarkup.Document

abbrev Books := Progress × State

namespace Resolve

variable {α β : Type} {context : Context} {books later : Books}

def outcome (action : Resolve α) (context : Context) (books : Progress × State) :
    Except Failure α × (Progress × State) :=
  (action.run context).run.run books

@[simp] theorem outcome_pure (a : α) (context : Context) (books : Progress × State) :
    (pure a : Resolve α).outcome context books = (.ok a, books) := rfl

@[simp] theorem outcome_refuse (defect : Defect) (context : Context) (books : Progress × State) :
    (refuse defect : Resolve α).outcome context books = (.error (.schema [defect]), books) := rfl

@[simp] theorem outcome_progress (context : Context) (books : Progress × State) :
    progress.outcome context books = (.ok books.1, books) := rfl

@[simp] theorem outcome_lift (action : Eval α) (context : Context) (books : Progress × State) :
    (lift action).outcome context books =
      ((action.outcome context books.2).1, (books.1, (action.outcome context books.2).2)) := rfl

theorem outcome_entering (name : String) (action : Resolve α) (context : Context)
    (progress : Progress) (state : State) :
    (entering name action).outcome context (progress, state) =
      let run := action.outcome context ({ progress with path := name :: progress.path }, state)
      (run.1, ({ run.2.1 with path := run.2.1.path.tail }, run.2.2)) := rfl

theorem outcome_bind (action : Resolve α) (next : α → Resolve β) (context : Context)
    (books : Progress × State) :
    (action >>= next).outcome context books =
      match action.outcome context books with
      | (.ok a, books) => (next a).outcome context books
      | (.error f, books) => (.error f, books) := by
  change (ExceptT.bind (action context) fun a => next a context).run.run books = _
  simp only [outcome, ExceptT.bind, ExceptT.run, ExceptT.mk, ReaderT.run]
  change (match (action context).run books with
    | (r, books) => (ExceptT.bindCont (fun a => next a context) r).run books) = _
  split
  next r books' h =>
    rw [show StateT.run (action context) books = (r, books') from h]
    cases r <;> rfl

theorem outcome_within (owner field : String) (action : Resolve α) (context : Context)
    (books : Progress × State) :
    (within owner field action).outcome context books =
      match action.outcome context books with
      | (.error (.schema defects), books) =>
        (.error (.schema (defects.map (.within owner field))), books)
      | other => other := by
  change (ExceptT.tryCatch (action context) _).run.run books = _
  simp only [outcome, ExceptT.tryCatch, ExceptT.run, ExceptT.mk, ReaderT.run, StateT.run_bind]
  change (match StateT.run (action context) books with
    | (r, books) => _) = _
  generalize StateT.run (action context) books = run
  obtain ⟨r, books⟩ := run
  cases r with
  | ok a => rfl
  | error f => cases f <;> rfl

theorem outcome_bind_ok {action : Resolve α} {next : α → Resolve β} {a : α}
    (h : action.outcome context books = (.ok a, later)) :
    (action >>= next).outcome context books = (next a).outcome context later := by
  rw [outcome_bind, h]

theorem outcome_bind_error {action : Resolve α} {next : α → Resolve β} {f : Failure}
    (h : action.outcome context books = (.error f, later)) :
    (action >>= next).outcome context books = (.error f, later) := by
  rw [outcome_bind, h]

/-- A plan is carried out: what it comes to, and the books that are left. `visit` says so of getting the
schema of a name. Building may be logged at any point. -/
inductive Runs (visit : String → Books → List Defect → Books → Prop) :
    Plan → Books → List Defect → Books → Prop
  | done {books : Books} : Runs visit [] books [] books
  | logged {plan : Plan} {progress : Progress} {state : State} {events : List Logging.Event}
      {defects : List Defect} {later : Books} (quiet : ∀ event ∈ events, event.origin = .construction)
      (rest : Runs visit plan (progress, state.logged events) defects later) :
      Runs visit plan (progress, state) defects later
  | passed {step : Route × Task} {plan : Plan} {books later : Books} {defects : List Defect}
      (h : step.2.Finds []) (rest : Runs visit plan books defects later) :
      Runs visit (step :: plan) books defects later
  | found {route : Route} {task : Task} {plan : Plan} {books : Books} {defects : List Defect}
      (h : task.Finds defects) (hd : defects ≠ []) :
      Runs visit ((route, task) :: plan) books (defects.map (·.under route)) books
  | visited {route : Route} {name : String} {plan : Plan} {books mid later : Books}
      {defects : List Defect} (h : visit name books [] mid)
      (rest : Runs visit plan mid defects later) :
      Runs visit ((route, .visit name) :: plan) books defects later
  | stopped {route : Route} {name : String} {plan : Plan} {books later : Books}
      {defects : List Defect} (h : visit name books defects later) (hd : defects ≠ []) :
      Runs visit ((route, .visit name) :: plan) books (defects.map (·.under route)) later

namespace Runs

variable {visit : String → Books → List Defect → Books → Prop} {plan more : Plan} {mid : Books}
  {defects : List Defect}

theorem of_visit {name : String} (h : visit name books defects later) :
    Runs visit (.visit name) books defects later := by
  cases defects with
  | nil => exact .visited h .done
  | cons d ds =>
    rw [← Plan.map_under_nil (d :: ds)]
    exact .stopped h (List.cons_ne_nil d ds)

theorem of_reports (h : plan.Reports defects) (books : Books) :
    Runs visit plan books defects books := by
  induction h with
  | nil => exact .done
  | passed hf _ ih => exact .passed hf ih
  | found hf hd => exact .found hf hd

theorem append (h : Runs visit plan books [] mid) (k : Runs visit more mid defects later) :
    Runs visit (plan ++ more) books defects later := by
  generalize hn : ([] : List Defect) = none at h
  induction h with
  | done => exact k
  | logged quiet _ ih => exact .logged quiet (ih k hn)
  | passed hf _ ih => exact .passed hf (ih k hn)
  | found _ hd => exact absurd (List.map_eq_nil_iff.1 hn.symm) hd
  | visited hv _ ih => exact .visited hv (ih k hn)
  | stopped _ hd => exact absurd (List.map_eq_nil_iff.1 hn.symm) hd

theorem append_of_ne (h : Runs visit plan books defects later) (hd : defects ≠ []) (more : Plan) :
    Runs visit (plan ++ more) books defects later := by
  induction h with
  | done => exact absurd rfl hd
  | logged quiet _ ih => exact .logged quiet (ih hd)
  | passed hf _ ih => exact .passed hf (ih hd)
  | found hf hn => exact .found hf hn
  | visited hv _ ih => exact .visited hv (ih hd)
  | stopped hv hn => exact .stopped hv hn

theorem inside (h : Runs visit plan books defects later) (route : Route) :
    Runs visit (plan.inside route) books (defects.map (·.under route)) later := by
  induction h with
  | done => exact .done
  | logged quiet _ ih => exact .logged quiet ih
  | passed hf _ ih => exact .passed hf ih
  | found hf hn =>
    rw [Plan.map_under_map_under]
    exact .found hf hn
  | visited hv _ ih => exact .visited hv ih
  | stopped hv hn =>
    rw [Plan.map_under_map_under]
    exact .stopped hv hn

theorem imp {visit' : String → Books → List Defect → Books → Prop} {p : Progress → Prop}
    (h : Runs visit plan books defects later) (hb : p books.1)
    (hv : ∀ route n, (route, n) ∈ plan.visits → ∀ books defects later, p books.1 →
      visit n books defects later → p later.1 ∧ visit' n books defects later) :
    p later.1 ∧ Runs visit' plan books defects later := by
  induction h with
  | done => exact ⟨hb, .done⟩
  | logged quiet _ ih =>
    obtain ⟨hl, runs⟩ := ih hb hv
    exact ⟨hl, .logged quiet runs⟩
  | passed hf _ ih =>
    rw [Plan.visits_of_finds hf] at hv
    obtain ⟨hl, runs⟩ := ih hb hv
    exact ⟨hl, .passed hf runs⟩
  | found hf hd => exact ⟨hb, .found hf hd⟩
  | visited hvisit _ ih =>
    obtain ⟨hm, first⟩ := hv _ _ (.head _) _ _ _ hb hvisit
    obtain ⟨hl, runs⟩ := ih hm fun route n hn => hv route n (.tail _ hn)
    exact ⟨hl, .visited first runs⟩
  | stopped hvisit hd =>
    obtain ⟨hl, first⟩ := hv _ _ (.head _) _ _ _ hb hvisit
    exact ⟨hl, .stopped first hd⟩

end Runs

/-- A run gives a result with the property and finds nothing, or it is refused with what it finds, which
it is not where success is sure. -/
def Accords (post : α → Prop) (sure : Prop) : Except Failure α → List Defect → Prop
  | .ok a, defects => defects = [] ∧ post a
  | .error f, defects => ¬sure ∧ defects ≠ [] ∧ f = .schema defects

def Performs (context : Context) (visit : String → Books → List Defect → Books → Prop)
    (sound : Progress → Prop) (action : Resolve α) (plan : Plan) (post : α → Prop) (sure : Prop) :
    Prop :=
  ∀ books : Books, sound books.1 → ∃ result defects later,
    action.outcome context books = (result, later) ∧ Runs visit plan books defects later ∧
      sound later.1 ∧ Accords post sure result defects

namespace Performs

variable {visit : String → Books → List Defect → Books → Prop} {sound : Progress → Prop}
  {plan more : Plan} {post : α → Prop} {sure : Prop}

theorem pure {a : α} (h : post a) : Performs context visit sound (Pure.pure a) [] post sure :=
  fun books hb => ⟨.ok a, [], books, rfl, .done, hb, rfl, h⟩

theorem of_outcome {action : Resolve α} {name : String}
    (h : ∀ books : Books, sound books.1 → ∃ result defects later,
      action.outcome context books = (result, later) ∧ visit name books defects later ∧
        sound later.1 ∧ Accords post sure result defects) :
    Performs context visit sound action (.visit name) post sure := by
  intro books hb
  obtain ⟨result, defects, later, ho, visits, hl, hend⟩ := h books hb
  exact ⟨result, defects, later, ho, .of_visit visits, hl, hend⟩

theorem refuse {defect : Defect} (h : ¬sure) (plan : Plan) :
    Performs context visit sound (Resolve.refuse defect) (.refuse defect ++ plan) post sure :=
  fun books hb => ⟨_, [defect], books, outcome_refuse _ _ _,
    .of_reports (Plan.reports_refuse defect plan) books, hb, h, List.cons_ne_nil _ _, rfl⟩

theorem check {c : Prop} [Decidable c] {defect : Defect} {action : Resolve α} (hc : sure → ¬c)
    (h : ¬c → Performs context visit sound action plan post sure) :
    Performs context visit sound (if c then Resolve.refuse defect else action)
      ((if c then Plan.refuse defect else []) ++ plan) post sure := by
  split
  next hn => exact .refuse (fun hs => hc hs hn) plan
  next hn => exact h hn

theorem mono {action : Resolve α} {mid : α → Prop} {p : Prop}
    (h : Performs context visit sound action plan mid p) (hp : ∀ a, mid a → post a)
    (hs : sure → p) : Performs context visit sound action plan post sure := by
  intro books hb
  obtain ⟨result, defects, later, ho, runs, hl, hend⟩ := h books hb
  refine ⟨result, defects, later, ho, runs, hl, ?_⟩
  cases result with
  | ok a => exact ⟨hend.1, hp a hend.2⟩
  | error f => exact ⟨fun h => hend.1 (hs h), hend.2⟩

theorem bind {action : Resolve α} {next : α → Resolve β} {mid : α → Prop} {post : β → Prop}
    {p q : Prop} (h : Performs context visit sound action plan mid p)
    (hn : ∀ a, mid a → Performs context visit sound (next a) more post q) :
    Performs context visit sound (action >>= next) (plan ++ more) post (p ∧ q) := by
  intro books hb
  obtain ⟨result, defects, later, ho, runs, hl, hend⟩ := h books hb
  cases result with
  | ok a =>
    obtain ⟨rfl, ha⟩ := hend
    obtain ⟨last, others, final, ho', runs', hf, hlast⟩ := hn a ha later hl
    refine ⟨last, others, final, by rw [outcome_bind_ok ho, ho'], runs.append runs', hf, ?_⟩
    cases last with
    | ok b => exact hlast
    | error f => exact ⟨fun h => hlast.1 h.2, hlast.2⟩
  | error f =>
    obtain ⟨hs, hd, rfl⟩ := hend
    exact ⟨_, defects, later, outcome_bind_error ho, runs.append_of_ne hd more, hl,
      fun h => hs h.1, hd, rfl⟩

theorem map {f : α → β} {action : Resolve α} {mid : α → Prop} {post : β → Prop}
    (h : Performs context visit sound action plan mid sure) (hp : ∀ a, mid a → post (f a)) :
    Performs context visit sound (do return f (← action)) plan post sure := by
  have all : Performs context visit sound (do return f (← action)) (plan ++ []) post (sure ∧ True) :=
    h.bind fun a ha => .pure (hp a ha)
  rwa [List.append_nil, and_true] at all

theorem lift {action : Eval α} {a : α} {p : Prop} (h : action.Performs plan a p) :
    Performs context visit sound (Resolve.lift action) plan (fun b => b = a ∧ p) p := by
  intro books hb
  obtain ⟨defects, events, reports, hp, quiet, ho⟩ := h
  have runs : Runs visit plan books defects (books.1, books.2.logged events) :=
    .logged quiet (.of_reports reports _)
  rw [outcome_lift, ho]
  by_cases hd : defects = []
  · exact ⟨.ok a, defects, _, by rw [if_pos hd], runs, hb, hd, rfl, hp.1 hd⟩
  · exact ⟨.error (.schema defects), defects, _, by rw [if_neg hd], runs, hb,
      fun h => hd (hp.2 h), hd, rfl⟩

theorem within {action : Resolve α} (owner field : String)
    (h : Performs context visit sound action plan post sure) :
    Performs context visit sound (Resolve.within owner field action) (plan.inside [(owner, field)])
      post sure := by
  intro books hb
  obtain ⟨result, defects, later, ho, runs, hl, hend⟩ := h books hb
  rw [outcome_within, ho]
  cases result with
  | ok a =>
    obtain ⟨rfl, ha⟩ := hend
    exact ⟨.ok a, [], later, rfl, runs.inside _, hl, rfl, ha⟩
  | error f =>
    obtain ⟨hs, hd, rfl⟩ := hend
    exact ⟨_, _, later, rfl, runs.inside _, hl, hs, by simpa using hd, rfl⟩

theorem mapM {f : α → Resolve β} {plan : α → Plan} {g : α → β} {post : α → Prop} {sure : α → Prop}
    {xs : List α}
    (h : ∀ x ∈ xs, Performs context visit sound (f x) (plan x) (fun y => y = g x ∧ post x) (sure x)) :
    Performs context visit sound (xs.mapM f) (xs.flatMap plan)
      (fun ys => ys = xs.map g ∧ ∀ x ∈ xs, post x) (∀ x ∈ xs, sure x) := by
  induction xs with
  | nil => exact .pure ⟨rfl, nofun⟩
  | cons x xs ih =>
    rw [List.mapM_cons, List.flatMap_cons]
    have rest := ih fun y hy => h y (.tail _ hy)
    refine mono ((h x (.head _)).bind fun y hy => rest.map (f := (y :: ·)) ?_) (fun _ h => h)
      List.forall_mem_cons.1
    rintro ys ⟨rfl, hys⟩
    exact ⟨by rw [hy.1, List.map_cons], List.forall_mem_cons.2 ⟨hy.2, hys⟩⟩

end Performs

section Document

variable {visit : String → Books → List Defect → Books → Prop} {sound : Progress → Prop}
  {schema : String → Resolve Value} {mappers : List (String × Value)} {inner : String → Value}
  {given sureOf : String → Prop}

theorem mapping_performs (f : Field) :
    Performs context visit sound (mapping mappers f.map) (f.mappingPlan mappers)
      (fun v => v = f.mapping mappers ∧ f.Known mappers) (f.Known mappers) := by
  unfold mapping Field.mapping Field.Known Field.mappingPlan
  cases given? f.map with
  | none => exact .pure ⟨rfl, by simp⟩
  | some name =>
    simp only [Option.some.injEq, forall_eq', Field.mappingComponent]
    cases mappers.lookup name with
    | none => exact .refuse (by simp) []
    | some function =>
      refine (Performs.lift (Component.mapping_performs _ _)).mono ?_ ?_
      · exact fun v hv => ⟨hv.1, rfl, hv.2⟩
      · exact fun h => h.2

theorem named_eq {f : Field} {n : String} (hn : given? f.nest = some n) : f.named inner = inner n := by
  rw [Field.named, hn]

theorem named_given {f : Field} {p : Value → Prop} (hg : ∀ n, given n → p (inner n))
    (hi : ∀ n, given? f.nest = some n → given n) (hn : (given? f.nest).isSome) :
    p (f.named inner) := by
  obtain ⟨n, hn⟩ := Option.isSome_iff_exists.1 hn
  rw [named_eq hn]
  exact hg n (hi n hn)

theorem itemWith_performs {f : Field} (hs : ∀ n, given? f.nest = some n →
    Performs context visit sound (schema n) (.visit n) (fun v => v = inner n ∧ given n) (sureOf n)) :
    Performs context visit sound (itemWith schema f.nest) f.nestPlan
      (fun v => v = f.named inner ∧ ∀ n, given? f.nest = some n → given n)
      (∀ n, given? f.nest = some n → sureOf n) := by
  unfold itemWith Field.nestPlan Field.named
  cases hn : given? f.nest with
  | none => exact .pure ⟨rfl, nofun⟩
  | some n => exact (hs n hn).mono (by simp) (by simp)

theorem policy_performs {f : Field} {action : Eval Value} (hc : f.Coherent) (hk : f.Known mappers)
    (he : action = (f.policy mappers (f.named inner)).construct)
    (hg : ∀ n, given n → Built (·.isText) (inner n) ∧ Value.IsA .schema (inner n))
    (hi : ∀ n, given? f.nest = some n → given n) :
    Performs context visit sound (lift action) (.make (f.policy mappers (f.named inner)))
      (fun v => v = .component (f.policy mappers (f.named inner)) ∧ f.PolicySound mappers ∧
        ∀ n, given? f.nest = some n → given n)
      (f.PolicySound mappers) := by
  have named : (given? f.nest).isSome →
      Built (·.isText) (f.named inner) ∧ Value.IsA .schema (f.named inner) :=
    named_given (p := fun v => Built (·.isText) v ∧ Value.IsA .schema v) hg hi
  rw [he]
  exact (Performs.lift (Field.policy_performs hk named)).mono
    (fun v hv => ⟨hv.1, ⟨hc, hk, hv.2⟩, hi⟩) (·.valid)

theorem policyWith_performs {f : Field}
    (hg : ∀ n, given n → Built (·.isText) (inner n) ∧ Value.IsA .schema (inner n))
    (hs : ∀ n, given? f.nest = some n → Performs context visit sound (schema n) (.visit n)
      (fun v => v = inner n ∧ given n) (sureOf n)) :
    Performs context visit sound (policyWith schema mappers f) (f.policyPlan mappers inner)
      (fun v => v = .component (f.policy mappers (f.named inner)) ∧ f.PolicySound mappers ∧
        ∀ n, given? f.nest = some n → given n)
      ((∀ n, given? f.nest = some n → sureOf n) ∧ f.PolicySound mappers) := by
  rw [policyWith, Field.policyPlan, Field.optionPlan]
  by_cases hl : f.list
  · rw [if_pos hl, if_pos hl]
    have coherent := Field.coherent_of_list hl
    refine .check (fun h => ?_) fun hc => ?_
    · simp [coherent.1 h.2.coherent]
    · have options : f.optional = false ∧ f.default = none ∧ f.map = none := by
        simpa [and_assoc] using hc
      rw [Field.mappingPlan_of_map options.2.2]
      refine (itemWith_performs hs).bind fun v hv =>
        policy_performs (coherent.2 options) (Field.known_of_map options.2.2) ?_ hg hv.2
      cases hn : given? f.nest with
      | none => simp [Field.policy, hl, hn, hv.1, Field.named, Component.construct]
      | some n => simp [Field.policy, hl, hn, hv.1, Component.construct]
  · rw [if_neg hl, if_neg hl]
    cases hn : given? f.nest with
    | some name =>
      have coherent := Field.coherent_of_nest hl hn
      have nest : f.nestPlan = .visit name := by rw [Field.nestPlan, hn]
      simp only [Option.isSome_some, if_true]
      refine .check (fun h => ?_) fun hc => ?_
      · simp [coherent.1 h.2.coherent]
      · have options : f.default = none ∧ f.map = none := by simpa using hc
        rw [Field.mappingPlan_of_map options.2, nest]
        refine Performs.mono ((hs name hn).bind fun v hv =>
          policy_performs (coherent.2 options) (Field.known_of_map options.2) ?_ hg ?_)
          (by simp [hn]) fun h => ⟨h.1 name rfl, h.2⟩
        · simp [Field.policy, hl, hn, hv.1, named_eq hn, Component.construct]
        · simpa [hn] using hv.2
    | none =>
      have coherent := Field.coherent_of_none hl hn
      have nest : f.nestPlan = [] := by rw [Field.nestPlan, hn]
      simp only [Option.isSome_none, Bool.false_eq_true, if_false]
      refine .check (fun h => ?_) fun hc => ?_
      · simpa using coherent.1 h.2.coherent
      · have options : f.Coherent := coherent.2 (by simpa using hc)
        rw [nest]
        refine Performs.mono ((mapping_performs f).bind fun v hv =>
          policy_performs options hv.2 ?_ hg (by simp [hn])) (by simp [hn])
          fun h => ⟨h.2.known, h.2⟩
        rw [Field.construct_policy hl hn, hv.1]

theorem fieldWith_performs (mappers : List (String × Value)) (owner : String) {f : Field}
    (hg : ∀ n, given n → Built (·.isText) (inner n) ∧ Value.IsA .schema (inner n))
    (hs : ∀ n, given? f.nest = some n → Performs context visit sound (schema n) (.visit n)
      (fun v => v = inner n ∧ given n) (sureOf n)) :
    Performs context visit sound (fieldWith schema mappers owner f) (f.plan mappers inner owner)
      (fun v => v = f.value mappers (f.named inner) ∧ f.Sound mappers ∧
        ∀ n, given? f.nest = some n → given n)
      ((∀ n, given? f.nest = some n → sureOf n) ∧ f.Sound mappers) := by
  refine .within owner f.name ?_
  refine Performs.mono ((policyWith_performs hg hs).bind fun policy hpolicy =>
    (Performs.lift (buildElement_performs f.element)).bind (q := f.Sound mappers) fun element he => ?_)
    (fun _ h => h) fun h => ⟨⟨h.1, h.2.policy⟩, h.2.element, h.2⟩
  obtain ⟨rfl, sound, hi⟩ := hpolicy
  obtain ⟨rfl, hsound⟩ := he
  have named : (given? f.nest).isSome →
      Built (·.isText) (f.named inner) ∧ Value.IsA .schema (f.named inner) :=
    named_given (p := fun v => Built (·.isText) v ∧ Value.IsA .schema v) hg hi
  have present : (given? f.nest).isSome → f.named inner ≠ .null := fun hn => (named hn).2.ne_null
  have performs : (f.component mappers (f.named inner)).construct.Performs
      (.make (f.component mappers (f.named inner))) (f.value mappers (f.named inner))
      (f.Sound mappers) := by
    refine (Component.performs Field.component_typed
      (Field.component_parts (sound.built named) hsound) rfl).iff ⟨fun h => ?_, fun h => ?_⟩
    · exact ⟨sound, hsound, fun other ho => (Field.component_valid_iff present ho).1 h⟩
    · exact h.valid _ present
  exact (Performs.lift performs).mono (fun v hv => ⟨hv.1, hv.2, hi⟩) id

theorem documentWith_performs (mappers : List (String × Value)) (name : String) (s : Schema)
    (hg : ∀ n, given n → Built (·.isText) (inner n) ∧ Value.IsA .schema (inner n))
    (hs : ∀ n ∈ s.references, Performs context visit sound (schema n) (.visit n)
      (fun v => v = inner n ∧ given n) (sureOf n)) :
    Performs context visit sound (documentWith schema mappers name s) (s.plan mappers inner name)
      (fun v => v = s.value mappers inner name ∧ s.Sound mappers ∧ ∀ n ∈ s.references, given n)
      ((∀ n ∈ s.references, sureOf n) ∧ s.Sound mappers) := by
  have fields := Performs.mapM fun f (hf : f ∈ s.fields) =>
    fieldWith_performs mappers name hg fun n hn => hs n (Schema.mem_references.2 ⟨f, hf, hn⟩)
  refine Performs.mono (fields.bind fun values hvalues =>
    (Performs.lift (buildElement_performs s.element)).bind (q := s.Sound mappers) fun element he => ?_)
    (fun _ h => h) fun h => ⟨fun f hf => ⟨fun n hn => ?_, h.2.fields f hf⟩, h.2.element, h.2⟩
  · obtain ⟨rfl, hfields⟩ := hvalues
    obtain ⟨rfl, helement⟩ := he
    have sound : ∀ f ∈ s.fields, f.Sound mappers := fun f hf => (hfields f hf).1
    have named : ∀ n ∈ s.references, given n := by
      intro n hn
      obtain ⟨f, hf, hn⟩ := Schema.mem_references.1 hn
      exact (hfields f hf).2 n hn
    have performs : (s.component mappers inner name).construct.Performs
        (.make (s.component mappers inner name)) (s.value mappers inner name) (s.Sound mappers) := by
      refine (Component.performs Schema.component_typed (Schema.component_parts sound helement
        fun n hn => hg n (named n hn)) rfl).iff (Schema.component_valid.trans ⟨fun h => ?_,
          fun h => ?_⟩)
      · exact ⟨sound, helement, h.1, h.2⟩
      · exact ⟨h.content, h.names⟩
    exact (Performs.lift performs).mono (fun v hv => ⟨hv.1, hv.2, named⟩) id
  · exact h.1 n (Schema.mem_references.2 ⟨f, hf, hn⟩)

def Given (_ : String) (books : Books) (defects : List Defect) (later : Books) : Prop :=
  defects = [] ∧ later = books

theorem documentWith_pure (mappers : List (String × Value)) (name : String) {s : Schema}
    (hg : ∀ n ∈ s.references, Built (·.isText) (inner n) ∧ Value.IsA .schema (inner n)) :
    Performs context Given sound (documentWith (fun n => pure (inner n)) mappers name s)
      (s.plan mappers inner name) (fun v => v = s.value mappers inner name ∧ s.Sound mappers)
      (s.Sound mappers) := by
  refine (documentWith_performs mappers name s
    hg fun n hn => .of_outcome fun books hb => ?_).mono (fun v hv => ⟨hv.1, hv.2.1⟩)
    fun h => ⟨fun _ _ => trivial, h⟩
  exact ⟨.ok (inner n), [], books, rfl, ⟨rfl, rfl⟩, hb, rfl, rfl, hn⟩

end Document

end Resolve

end RecordMarkup.Document

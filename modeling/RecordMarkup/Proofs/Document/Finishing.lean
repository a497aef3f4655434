import RecordMarkup.Proofs.Document.Compiled

namespace RecordMarkup.Document

open Logging (Event)

/-- The documents that the log tells of as finished, in order. -/
def finishedNames (events : List Event) : List String :=
  events.filterMap fun event =>
    match event with
    | .compiledSchema name => some name
    | _ => none

theorem finishedNames_append (events more : List Event) :
    finishedNames (events ++ more) = finishedNames events ++ finishedNames more :=
  List.filterMap_append

theorem finishedNames_of_construction {events : List Event}
    (h : ∀ event ∈ events, event.origin = .construction) : finishedNames events = [] := by
  refine List.filterMap_eq_nil_iff.2 fun event he => ?_
  cases event with
  | compiledSchema name => exact nomatch h _ he
  | _ => rfl

/-- The names of documents, each once, and each after those that its document refers to. -/
inductive Ordered (documents : List (String × Schema)) : List String → Prop
  | nil : Ordered documents []
  | snoc {names : List String} {name : String} (h : Ordered documents names) (new : name ∉ names)
      (found : (documents.lookup name).isSome)
      (inside : ∀ other, Refers documents name other → other ∈ names) :
      Ordered documents (names ++ [name])

namespace Ordered

variable {documents : List (String × Schema)} {names : List String}

theorem nodup (h : Ordered documents names) : names.Nodup := by
  induction h with
  | nil => exact .nil
  | snoc _ new _ _ ih =>
    refine List.nodup_append.2 ⟨ih, by simp, ?_⟩
    rintro n hn _ hm rfl
    exact new (List.mem_singleton.1 hm ▸ hn)

theorem known (h : Ordered documents names) : ∀ n ∈ names, n ∈ documents.map Prod.fst := by
  induction h with
  | nil => exact nofun
  | snoc _ _ found _ ih =>
    exact List.forall_mem_append.2 ⟨ih, by simpa using mem_keys_of_lookup found⟩

theorem before (h : Ordered documents names) {earlier later : List String} {name : String}
    (he : names = earlier ++ name :: later) :
    ∀ other, Refers documents name other → other ∈ earlier := by
  induction h generalizing later with
  | nil => simp at he
  | @snoc names last _ _ _ inside ih =>
    obtain rfl | ⟨others, final, rfl⟩ := later.eq_nil_or_concat
    · obtain ⟨rfl, hs⟩ := List.append_inj' he rfl
      obtain rfl := List.singleton_inj.1 hs
      exact inside
    · rw [List.concat_eq_append, ← List.cons_append, ← List.append_assoc] at he
      exact ih (List.append_inj' he rfl).1

end Ordered

def Progress.finished (progress : Progress) : List String := (progress.built.map Prod.fst).reverse

theorem Progress.not_mem_finished {progress : Progress} {name : String}
    (h : progress.built.lookup name = none) : name ∉ progress.finished := by
  intro hm
  exact not_mem_keys_of_lookup h (List.mem_reverse.1 hm)

theorem Progress.finished_cons (progress : Progress) (path : List String) (name : String)
    (v : Value) : finished ⟨path, (name, v) :: progress.built⟩ = progress.finished ++ [name] := by
  simp [finished]

namespace Resolve

variable {library : Library} {inner : String → Value} {path : List String} {name : String}
  {books mid later : Books} {defects : List Defect}

structure Orderly (documents : List (String × Schema)) (path : List String) (progress : Progress) :
    Prop where
  same : progress.path = path
  order : Ordered documents progress.finished
  apart : ∀ n ∈ path, n ∉ progress.finished

theorem Orderly.entering {documents : List (String × Schema)} {progress : Progress}
    (h : Orderly documents path progress) (hb : progress.built.lookup name = none) :
    Orderly documents (name :: path) { progress with path := name :: progress.path } :=
  ⟨by rw [h.same], h.order,
    List.forall_mem_cons.2 ⟨Progress.not_mem_finished hb, h.apart⟩⟩

theorem Orderly.finishing {documents : List (String × Schema)} {progress after : Progress}
    {s : Schema} (h : Orderly documents path progress) (hp : name ∉ progress.path)
    (hl : documents.lookup name = some s) (kept : Orderly documents (name :: path) after)
    (visited : ∀ n ∈ s.references, n ∈ after.finished) (v : Value) :
    Orderly documents path ⟨after.path.tail, (name, v) :: after.built⟩ := by
  have new : name ∉ after.finished := kept.apart name (.head _)
  have added := after.finished_cons after.path.tail name v
  refine ⟨congrArg List.tail kept.same, ?_, fun n hn => ?_⟩
  · rw [added]
    refine kept.order.snoc new (by simp [hl]) fun other hr => ?_
    obtain ⟨t, ht, hm⟩ := hr
    obtain rfl := Option.some.inj (hl.symm.trans ht)
    exact visited other hm
  · rw [added, List.mem_append, List.mem_singleton]
    rintro (hm | rfl)
    · exact kept.apart n (.tail _ hn) hm
    · exact hp (h.same ▸ hn)

def Extends (books later : Books) : Prop :=
  ∃ events, later.2.log = books.2.log ++ events ∧
    later.1.finished = books.1.finished ++ finishedNames events

namespace Extends

theorem refl (books : Books) : Extends books books := ⟨[], by simp, by simp [finishedNames]⟩

theorem trans (h : Extends books mid) (k : Extends mid later) : Extends books later := by
  obtain ⟨events, hl, hf⟩ := h
  obtain ⟨more, kl, kf⟩ := k
  refine ⟨events ++ more, ?_, ?_⟩
  · rw [kl, hl, List.append_assoc]
  · rw [kf, hf, finishedNames_append, List.append_assoc]

theorem mem (h : Extends books later) (hn : name ∈ books.1.finished) : name ∈ later.1.finished := by
  obtain ⟨events, -, hf⟩ := h
  rw [hf]
  exact List.mem_append_left _ hn

end Extends

def Finishes (name : String) (books : Books) (defects : List Defect) (later : Books) : Prop :=
  Extends books later ∧ (defects = [] → name ∈ later.1.finished)

theorem Runs.finishes {plan : Plan} (h : Runs Finishes plan books defects later) :
    Extends books later ∧
      (defects = [] → ∀ route n, (route, n) ∈ plan.visits → n ∈ later.1.finished) := by
  induction h with
  | done => exact ⟨.refl _, fun _ => nofun⟩
  | @logged _ progress state events _ _ quiet _ ih =>
    refine ⟨.trans ⟨events, rfl, ?_⟩ ih.1, ih.2⟩
    rw [finishedNames_of_construction quiet, List.append_nil]
  | passed hf _ ih =>
    rw [Plan.visits_of_finds hf]
    exact ih
  | found hf hd => exact ⟨.refl _, fun hn => absurd (List.map_eq_nil_iff.1 hn) hd⟩
  | visited first _ ih =>
    refine ⟨first.1.trans ih.1, fun hn route n hv => ?_⟩
    obtain hv | hv := List.mem_cons.1 hv
    · obtain ⟨rfl, rfl⟩ := Prod.mk.inj hv
      exact ih.1.mem (first.2 rfl)
    · exact ih.2 hn route n hv
  | stopped first hd => exact ⟨first.1, fun hn => absurd (List.map_eq_nil_iff.1 hn) hd⟩

theorem Visits.finishes {visit : String → Books → List Defect → Books → Prop}
    (h : Visits visit library inner name books defects later)
    (hb : Orderly library.documents path books.1)
    (hv : ∀ n, Refers library.documents name n → ∀ books defects later,
      Orderly library.documents (name :: path) books.1 → visit n books defects later →
        Orderly library.documents (name :: path) later.1 ∧ Finishes n books defects later) :
    Orderly library.documents path later.1 ∧ Finishes name books defects later := by
  cases h with
  | @known _ v known =>
    refine ⟨hb, .refl _, fun _ => List.mem_reverse.2 ?_⟩
    exact mem_keys_of_lookup (by simp [known])
  | cycle => exact ⟨hb, .refl _, nofun⟩
  | unknown => exact ⟨hb, .refl _, nofun⟩
  | refused hnone hp hl runs hd =>
    obtain ⟨kept, runs⟩ := runs.imp (hb.entering hnone)
      fun _ n hn => hv n ⟨_, hl, Schema.mem_references_of_visits hn⟩
    refine ⟨⟨congrArg List.tail kept.same, kept.order, fun n hn => kept.apart n (.tail _ hn)⟩,
      runs.finishes.1, ?_⟩
    exact fun hn => absurd hn hd
  | @finished progress after state later s hnone hp hl runs =>
    obtain ⟨kept, runs⟩ := runs.imp (hb.entering hnone)
      fun _ n hn => hv n ⟨_, hl, Schema.mem_references_of_visits hn⟩
    obtain ⟨⟨events, hlog, hf⟩, visited⟩ := runs.finishes
    have needed : ∀ n ∈ s.references, n ∈ after.finished := by
      intro n hn
      obtain ⟨f, hf, hn⟩ := Schema.mem_references.1 hn
      exact visited rfl _ n (Schema.mem_visits.2 ⟨f, hf, hn, rfl⟩)
    have added := after.finished_cons after.path.tail name (inner name)
    refine ⟨hb.finishing hp hl kept needed _, ⟨events ++ [.compiledSchema name], ?_, ?_⟩, ?_⟩
    · rw [State.logged, hlog, List.append_assoc]
    · rw [added, hf, finishedNames_append, ← List.append_assoc]
      rfl
    · rw [added]
      simp

theorem Resolves.finishes (bound : Nat) {path : List String} {name : String} {books later : Books}
    {defects : List Defect} (hb : Orderly library.documents path books.1)
    (h : Resolves library inner bound name books defects later) :
    Orderly library.documents path later.1 ∧ Finishes name books defects later := by
  induction bound generalizing path name books defects later with
  | zero => exact h.elim
  | succ bound ih => exact Visits.finishes h hb fun n _ _ _ _ hb h => ih hb h

end Resolve

theorem Library.mem_visits {library : Library} {name : String}
    (h : name ∈ library.documents.map Prod.fst) : ([], name) ∈ library.plan.visits := by
  obtain ⟨d, hd, rfl⟩ := List.mem_map.1 h
  rw [Library.plan, Plan.visits_flatMap]
  exact List.mem_flatMap.2 ⟨d, hd, .head _⟩

theorem Library.finishes {library : Library} {inner : String → Value} {bound : Nat} {state : State}
    {later : Books} {defects : List Defect}
    (h : Resolve.Runs (Resolve.Resolves library inner bound) library.plan ({}, state) defects later) :
    ∃ events, later.2.log = state.log ++ events ∧
      Ordered library.documents (finishedNames events) ∧
      (defects = [] → ∀ name ∈ library.documents.map Prod.fst, name ∈ finishedNames events) := by
  obtain ⟨kept, runs⟩ := h.imp (p := Resolve.Orderly library.documents []) ⟨rfl, .nil, nofun⟩
    fun _ n _ _ _ _ hb h => Resolve.Resolves.finishes bound hb h
  obtain ⟨⟨events, hlog, hf⟩, visited⟩ := runs.finishes
  have told : later.1.finished = finishedNames events := hf
  exact ⟨events, hlog, told ▸ kept.order, fun hd name hm =>
    told ▸ visited hd _ name (Library.mem_visits hm)⟩

theorem finishedNames_append_compiled (events : List Event) (count : Nat) :
    finishedNames (events ++ [.compiled count]) = finishedNames events :=
  (finishedNames_append _ _).trans (List.append_nil _)

theorem compile_finishes {documents : List (String × Value)} {state mid : State}
    {parsed : List (String × Schema)} (reads : ReadsTo documents state parsed mid)
    (mappers : List (String × Value)) (context : Context) :
    ∃ result after events,
      (compile documents mappers).outcome context state = (result, after) ∧
      after.log = state.log ++ events ∧ Ordered parsed (finishedNames events) ∧
      ∀ schemas, result = .ok schemas →
        ∀ name ∈ documents.map Prod.fst, name ∈ finishedNames events := by
  have quiet := log_readAll documents state
  rw [readsTo_iff.1 reads] at quiet
  obtain ⟨inner, hi⟩ := exists_inner ⟨parsed, mappers⟩
  obtain ⟨defects, later, runs, hend⟩ := compile_runs reads hi context
  obtain ⟨events, hlog, order, all⟩ := Library.finishes runs
  have told : later.2.log = state.log ++ events := hlog.trans (by rw [← quiet])
  obtain ⟨rfl, -, ho⟩ | ⟨-, -, ho⟩ := hend
  · refine ⟨_, _, events ++ [.compiled parsed.length], ho, ?_, ?_, fun _ _ => ?_⟩
    · rw [State.logged, told, List.append_assoc]
    · rwa [finishedNames_append_compiled]
    · rw [finishedNames_append_compiled, ← reads.keys]
      exact all rfl
  · refine ⟨_, _, events, ho, told, order, fun _ hs => ?_⟩
    simp at hs

/-- The log of a call tells of documents as finished, each at most once and after those that it refers
to; if the call succeeds, it tells so of all documents. -/
theorem compile_children_first {documents : List (String × Value)}
    (hn : (documents.map Prod.fst).Nodup) (mappers : List (String × Value)) (context : Context)
    (state : State) :
    ∃ result after events,
      (compile documents mappers).outcome context state = (result, after) ∧
      after.log = state.log ++ events ∧ (finishedNames events).Nodup ∧
      (∀ parsed mid, ReadsTo documents state parsed mid → ∀ earlier name later,
        finishedNames events = earlier ++ name :: later → name ∈ documents.map Prod.fst ∧
          ∀ other, Refers parsed name other → other ∈ earlier) ∧
      ∀ schemas, result = .ok schemas → (finishedNames events).Perm (documents.map Prod.fst) := by
  cases hr : readAll documents state with
  | mk read mid =>
    cases read with
    | error issues =>
      refine ⟨_, _, [.invalidDocuments issues.length], outcome_compile_of_error hr mappers context,
        ?_, .nil, ?_, ?_⟩
      · rw [State.logged, ← log_readAll documents state, hr]
      · intro parsed mid' reads
        rw [readsTo_iff, hr] at reads
        simp at reads
      · intro schemas hs
        simp at hs
    | ok parsed =>
      have reads := readsTo_iff.2 hr
      obtain ⟨result, after, events, ho, hlog, order, all⟩ := compile_finishes reads mappers context
      refine ⟨result, after, events, ho, hlog, order.nodup, ?_, fun schemas hs => ?_⟩
      · intro parsed' mid' reads' earlier name later he
        obtain ⟨rfl, rfl⟩ := reads.unique reads'
        exact ⟨reads.keys ▸ order.known name (by simp [he]), order.before he⟩
      · refine (List.perm_ext_iff_of_nodup order.nodup hn).2 fun name =>
          ⟨fun hm => ?_, all schemas hs name⟩
        exact reads.keys ▸ order.known name hm

def pageOfShared : List (String × Value) :=
  [("page", .dict [("fields", .list [.dict [("name", .text "head"), ("nest", .text "top")],
      .dict [("name", .text "tail"), ("nest", .text "end")]])]),
    ("top", .dict [("fields", .list [.dict [("name", .text "link"), ("nest", .text "mark")]])]),
    ("end", .dict [("fields", .list [.dict [("name", .text "link"), ("nest", .text "mark")]])]),
    ("mark", .dict [])]

/-- What is shared is finished once, before both parts. -/
theorem compile_children_first_shared :
    let link : Field := { name := "link", nest := some "mark" }
    let parsed : List (String × Schema) :=
      [("page", { fields := [{ name := "head", nest := some "top" },
          { name := "tail", nest := some "end" }] }),
        ("top", { fields := [link] }), ("end", { fields := [link] }), ("mark", {})]
    (pageOfShared.map Prod.fst).Nodup ∧ ∃ schemas after,
      (compile pageOfShared []).outcome { mappings := fun _ v => .ok v } {} = (.ok schemas, after) ∧
      finishedNames after.log = ["mark", "top", "end", "page"] ∧
      ["mark", "top", "end", "page"].Perm ["page", "top", "end", "mark"] ∧
      (∀ other, Refers parsed "top" other → other ∈ ["mark"]) ∧
      (∀ other, Refers parsed "end" other → other ∈ ["mark", "top"]) ∧
      ∀ other, Refers parsed "page" other → other ∈ ["mark", "top", "end"] := by
  intro link parsed
  have distinct : (pageOfShared.map Prod.fst).Nodup := by decide
  obtain ⟨schemas, after, run⟩ : ∃ schemas after,
      (compile pageOfShared []).outcome { mappings := fun _ v => .ok v } {} = (.ok schemas, after) :=
    ⟨_, _, by with_unfolding_all rfl⟩
  have named : finishedNames ((compile pageOfShared []).outcome
      { mappings := fun _ v => .ok v } {}).2.log = ["mark", "top", "end", "page"] := by
    with_unfolding_all rfl
  obtain ⟨result, last, events, run', log, -, first, all⟩ :=
    compile_children_first distinct [] { mappings := fun _ v => .ok v } {}
  obtain ⟨rfl, rfl⟩ := Prod.mk.inj (run.symm.trans run')
  rw [run, log, State.log, List.nil_append] at named
  have before := first parsed {} (readsTo_iff.2 rfl)
  rw [named] at before all
  exact ⟨distinct, schemas, after, run, by rw [log, State.log, List.nil_append, named], all _ rfl,
    (before ["mark"] "top" ["end", "page"] rfl).2, (before ["mark", "top"] "end" ["page"] rfl).2,
    (before ["mark", "top", "end"] "page" [] rfl).2⟩

end RecordMarkup.Document

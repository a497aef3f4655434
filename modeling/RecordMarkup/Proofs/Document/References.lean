import RecordMarkup.Proofs.Component.Defects
import RecordMarkup.Proofs.Document.Constructions

namespace RecordMarkup

namespace Defect

def core : Defect → Defect
  | within _ _ defect => defect.core
  | defect => defect

theorem core_under (route : Route) (defect : Defect) : (defect.under route).core = defect.core := by
  induction route with
  | nil => rfl
  | cons field route ih => exact ih

theorem core_of_local {defect : Defect} (h : defect.isLocal) : defect.core = defect := by
  cases defect with
  | within owner field defect => exact nomatch h
  | _ => rfl

end Defect

namespace Document

def Task.IsLocal (task : Task) : Prop := ∀ defects, task.Finds defects → ∀ d ∈ defects, d.isLocal

theorem Task.IsLocal.make (c : Component Value) : (make c).IsLocal := by
  rintro defects ⟨h⟩
  exact Value.defects_local _ { mappings := fun _ v => .ok v } {} defects {} (by rw [h]; rfl)

theorem Task.IsLocal.refuse {defect : Defect} (h : defect.isLocal) : (refuse defect).IsLocal := by
  rintro _ ⟨⟩
  simpa using h

theorem Task.IsLocal.visit (name : String) : (visit name).IsLocal := nofun

namespace Plan

def IsLocal (plan : Plan) : Prop := ∀ step ∈ plan, step.2.IsLocal

namespace IsLocal

variable {plan more : Plan}

theorem nil : IsLocal [] := nofun

theorem make (c : Component Value) : IsLocal (Plan.make c) := by
  simpa [IsLocal, Plan.make] using Task.IsLocal.make c

theorem refuse {defect : Defect} (h : defect.isLocal) : IsLocal (Plan.refuse defect) := by
  simpa [IsLocal, Plan.refuse] using Task.IsLocal.refuse h

theorem visit (name : String) : IsLocal (Plan.visit name) := by
  simpa [IsLocal, Plan.visit] using Task.IsLocal.visit name

theorem append (h : plan.IsLocal) (k : more.IsLocal) : IsLocal (plan ++ more) :=
  List.forall_mem_append.2 ⟨h, k⟩

theorem inside (h : plan.IsLocal) (route : Route) : (plan.inside route).IsLocal := by
  intro step hs
  obtain ⟨inner, hi, rfl⟩ := mem_inside.1 hs
  exact h inner hi

theorem flatMap {α : Type} {f : α → Plan} (h : ∀ x, (f x).IsLocal) (xs : List α) :
    IsLocal (xs.flatMap f) := by
  intro step hs
  obtain ⟨x, -, hx⟩ := List.mem_flatMap.1 hs
  exact h x step hx

end IsLocal

end Plan

theorem Request.plan_isLocal (r : Request) : r.plan.IsLocal := by
  refine .append (.make _) (.append ?_ (.make _))
  unfold methodPlan
  split
  · exact .nil
  · exact .refuse rfl

theorem contentPlan_isLocal (c : Option Content) : (contentPlan c).IsLocal := by
  cases c with
  | none => exact .nil
  | some c => exact .make _

theorem Element.plan_isLocal (e : Element) : e.plan.IsLocal :=
  .append (.append (.flatMap Request.plan_isLocal _) (.append
    (.flatMap (fun _ => .append (.make _) (.make _)) _)
    (.append (.flatMap (fun _ => .make _) _) (.flatMap (fun _ => .make _) _))))
    (.append (contentPlan_isLocal _) (.make _))

theorem elementPlan_isLocal (e : Option Element) : (elementPlan e).IsLocal := by
  cases e with
  | none => exact .nil
  | some e => exact e.plan_isLocal

theorem Field.plan_isLocal (mappers : List (String × Value)) (inner : String → Value) (owner : String)
    (f : Field) : (f.plan mappers inner owner).IsLocal := by
  have options : f.optionPlan.IsLocal := by
    unfold optionPlan
    repeat' split
    all_goals first | exact .nil | exact .refuse rfl
  have mapping : (f.mappingPlan mappers).IsLocal := by
    unfold mappingPlan
    repeat' split
    · exact .nil
    · exact .make _
    · exact .refuse rfl
  have nest : f.nestPlan.IsLocal := by
    unfold nestPlan
    split
    · exact .nil
    · exact .visit _
  exact .inside (.append (.append options (.append nest (.append mapping (.make _))))
    (.append (elementPlan_isLocal _) (.make _))) _

theorem Schema.plan_isLocal (mappers : List (String × Value)) (inner : String → Value)
    (name : String) (s : Schema) : (s.plan mappers inner name).IsLocal :=
  .append (.flatMap (Field.plan_isLocal mappers inner name) _)
    (.append (elementPlan_isLocal _) (.make _))

/-- The fields lead from one document to what the last of them names. -/
inductive Leads (documents : List (String × Schema)) : String → Route → String → Prop
  | here {name : String} : Leads documents name [] name
  | through {name next last : String} {route : Route} {s : Schema} {f : Field}
      (found : documents.lookup name = some s) (hf : f ∈ s.fields) (hn : given? f.nest = some next)
      (rest : Leads documents next route last) : Leads documents name ((name, f.name) :: route) last

/-- Documents refer to each other in turn, each met once, until the last refers to the first. -/
structure IsCircle (documents : List (String × Schema)) (first : String) (between : List String) :
    Prop where
  nodup : (first :: between).Nodup
  chain : (first :: between ++ [first]).IsChain (Refers documents)

variable {documents : List (String × Schema)} {path : List String} {name : String}

theorem Leads.reaches {route : Route} {last : String} (h : Leads documents name route last) :
    Relation.ReflTransGen (Refers documents) name last := by
  induction h with
  | here => exact .refl
  | through found hf hn _ ih => exact .head ⟨_, found, Schema.mem_references.2 ⟨_, hf, hn⟩⟩ ih

namespace IsCircle

variable {first : String} {between : List String}

theorem returns (h : IsCircle documents first between) :
    ∀ n ∈ first :: between, Relation.TransGen (Refers documents) n n := by
  have further : (first :: between ++ [first]).Pairwise (Relation.TransGen (Refers documents)) :=
    List.isChain_iff_pairwise.1 (h.chain.imp fun _ _ hr => .single hr)
  obtain ⟨fromFirst, rest⟩ := List.pairwise_cons.1 further
  have toFirst := (List.pairwise_append.1 rest).2.2
  refine List.forall_mem_cons.2 ⟨fromFirst first (by simp), fun n hn => ?_⟩
  exact (toFirst n hn first (by simp)).trans (fromFirst n (List.mem_append_left _ hn))

theorem known (h : IsCircle documents first between) :
    ∀ n ∈ first :: between, n ∈ documents.map Prod.fst := by
  intro n hn
  obtain ⟨_, ⟨s, hs, -⟩, -⟩ := Relation.TransGen.head'_iff.1 (h.returns n hn)
  exact mem_keys_of_lookup (by simp [hs])

end IsCircle

theorem Trail.circle (h : Trail documents path name) (hm : name ∈ path) :
    ∃ between, Resolve.cycle path name = name :: between ++ [name] ∧
      IsCircle documents name between := by
  obtain ⟨newer, older, rfl, hn⟩ := List.eq_append_cons_of_mem hm
  have since : (newer ++ name :: older).takeWhile (· ≠ name) = newer := by
    rw [List.takeWhile_append_of_pos fun n hm => by
      have : n ≠ name := fun he => hn (he ▸ hm)
      simpa using this]
    simp
  refine ⟨newer.reverse, by rw [Resolve.cycle, since], ?_, ?_⟩
  · have distinct := (List.nodup_append.1 h.nodup).1
    exact List.nodup_cons.2 ⟨by simpa using hn, newer.reverse_perm.nodup_iff.2 distinct⟩
  · have chain : (name :: newer ++ [name]).IsChain fun inner outer => Refers documents outer inner := by
      have all := h.chain
      rw [show name :: (newer ++ name :: older) = (name :: newer ++ [name]) ++ older by simp] at all
      exact all.left_of_append
    have turned := List.isChain_reverse.2 chain
    simpa using turned

inductive Tells (documents : List (String × Schema)) (name : String) : Route × Task → Prop
  | ofPart {step : Route × Task} (h : step.2.IsLocal) : Tells documents name step
  | cycle {route : Route} {first : String} {between : List String}
      (leads : Leads documents name route first) (real : IsCircle documents first between) :
      Tells documents name (route, .refuse (.referenceCycle (first :: between ++ [first])))
  | unknown {route : Route} {other : String} (leads : Leads documents name route other)
      (hl : documents.lookup other = none) :
      Tells documents name (route, .refuse (.unknownReference other))

theorem Tells.through {step : Route × Task} {next : String} {s : Schema} {f : Field}
    (found : documents.lookup name = some s) (hf : f ∈ s.fields) (hn : given? f.nest = some next)
    (h : Tells documents next step) :
    Tells documents name ((name, f.name) :: step.1, step.2) := by
  cases h with
  | ofPart h => exact .ofPart h
  | cycle leads real => exact .cycle (.through found hf hn leads) real
  | unknown leads hl => exact .unknown (.through found hf hn leads) hl

theorem Tells.cycle_of_finds {route : Route} {task : Task} {found : List Defect} {defect : Defect}
    {names : List String} (h : Tells documents name (route, task)) (finds : task.Finds found)
    (hd : defect ∈ found) (hc : defect.core = .referenceCycle names) :
    defect = .referenceCycle names ∧ ∃ first between, Leads documents name route first ∧
      names = first :: between ++ [first] ∧ IsCircle documents first between := by
  cases h with
  | ofPart h =>
    have hl := h _ finds defect hd
    rw [Defect.core_of_local hl] at hc
    subst hc
    exact nomatch hl
  | cycle leads real =>
    cases finds
    obtain rfl := List.mem_singleton.1 hd
    obtain rfl := Defect.referenceCycle.inj hc
    exact ⟨rfl, _, _, leads, rfl, real⟩
  | unknown leads hl =>
    cases finds
    obtain rfl := List.mem_singleton.1 hd
    exact nomatch hc

theorem Tells.unknown_of_finds {route : Route} {task : Task} {found : List Defect} {defect : Defect}
    {other : String} (h : Tells documents name (route, task)) (finds : task.Finds found)
    (hd : defect ∈ found) (hc : defect.core = .unknownReference other) :
    defect = .unknownReference other ∧ Leads documents name route other ∧
      documents.lookup other = none := by
  cases h with
  | ofPart h =>
    have hl := h _ finds defect hd
    rw [Defect.core_of_local hl] at hc
    subst hc
    exact nomatch hl
  | cycle leads real =>
    cases finds
    obtain rfl := List.mem_singleton.1 hd
    exact nomatch hc
  | unknown leads hl =>
    cases finds
    obtain rfl := List.mem_singleton.1 hd
    obtain rfl := Defect.unknownReference.inj hc
    exact ⟨rfl, leads, hl⟩

theorem Leads.owner {route : Route} {root other : String} (h : Leads documents root route other)
    (rooted : root ∈ documents.map Prod.fst) (hl : documents.lookup other = none) :
    ∃ owner, Relation.ReflTransGen (Refers documents) root owner ∧ Refers documents owner other := by
  obtain rfl | ⟨owner, reaches, refers⟩ := Relation.ReflTransGen.cases_tail h.reaches
  · exact absurd rooted (not_mem_keys_of_lookup hl)
  · exact ⟨owner, reaches, refers⟩

theorem Library.constructions_tell (library : Library) (inner : String → Value)
    (path : List String) (name : String) (trail : Trail library.documents path name) :
    ∀ step ∈ library.constructions inner path name, Tells library.documents name step := by
  induction path, name using Library.constructions.induct library with
  | case1 path name hp =>
    obtain ⟨between, he, real⟩ := trail.circle hp
    rw [library.constructions_of_mem hp, he]
    simpa [Plan.refuse] using Tells.cycle .here real
  | case2 path name hp hl =>
    rw [library.constructions_of_none hp hl]
    simpa [Plan.refuse] using Tells.unknown .here hl
  | case3 path name hp s hl ih =>
    rw [library.constructions_of_some hp hl]
    intro step hs
    obtain hs | ⟨route, next, hv, inside, hi, rfl⟩ := Plan.mem_expand hs
    · exact .ofPart (s.plan_isLocal _ _ _ step hs)
    · obtain ⟨f, hf, hn, rfl⟩ := Schema.mem_visits.1 hv
      have refers : Refers library.documents name next := ⟨s, hl, Schema.mem_references.2 ⟨f, hf, hn⟩⟩
      exact .through hl hf hn (ih next (trail.cons hp refers) inside hi)

theorem exists_document_of_readAll (entries : List (String × Value)) (state : State) :
    ∀ d ∈ errorsOf (readAll entries state).1, ∃ name issue, d = .document name issue := by
  induction entries generalizing state with
  | nil => exact nofun
  | cons entry entries ih =>
    rw [readAll, errorsOf_withOthers]
    refine List.forall_mem_append.2 ⟨fun d hd => ?_, ih _⟩
    obtain ⟨issue, -, rfl⟩ := List.mem_map.1 hd
    exact ⟨_, issue, rfl⟩

/-- Whatever a run reports, a cycle is a circle of documents, to which the fields of the defect lead
from a document of the set; and an unknown name is no document's, and is asked for where they lead. -/
theorem compile_references_real {documents mappers : List (String × Value)} {context : Context}
    {state after : State} {defects : List Defect}
    (h : (compile documents mappers).outcome context state = (.error (.schema defects), after)) :
    ∀ d ∈ defects,
      (∀ names, d.core = .referenceCycle names → ∃ parsed mid root route first between,
        ReadsTo documents state parsed mid ∧ d = (Defect.referenceCycle names).under route ∧
        root ∈ documents.map Prod.fst ∧ Leads parsed root route first ∧
        names = first :: between ++ [first] ∧ IsCircle parsed first between ∧
        ∀ n ∈ first :: between, n ∈ documents.map Prod.fst ∧
          Relation.TransGen (Refers parsed) n n) ∧
      ∀ name, d.core = .unknownReference name → ∃ parsed mid root route owner,
        ReadsTo documents state parsed mid ∧ d = (Defect.unknownReference name).under route ∧
        root ∈ documents.map Prod.fst ∧ Leads parsed root route name ∧
        Relation.ReflTransGen (Refers parsed) root owner ∧ Refers parsed owner name ∧
        name ∉ documents.map Prod.fst := by
  cases hr : readAll documents state with
  | mk result mid =>
    cases result with
    | error issues =>
      intro d hd
      have told := outcome_compile_of_error hr mappers context
      obtain rfl := defects_unique told h
      obtain ⟨name, issue, rfl⟩ := exists_document_of_readAll documents state d (by rwa [hr])
      exact ⟨nofun, nofun⟩
    | ok parsed =>
      have reads := readsTo_iff.2 hr
      obtain ⟨inner, hi⟩ := exists_inner ⟨parsed, mappers⟩
      obtain ⟨earlier, route, task, later, found, split, -, finds, -, rfl⟩ :=
        first_of_compile h reads hi
      have hm : (route, task) ∈ Library.allConstructions ⟨parsed, mappers⟩ inner := by simp [split]
      obtain ⟨root, hroot, hm⟩ := List.mem_flatMap.1 hm
      have tells := Library.constructions_tell ⟨parsed, mappers⟩ inner [] root.1 .nil _ hm
      have rooted : root.1 ∈ parsed.map Prod.fst := List.mem_map_of_mem hroot
      rw [← reads.keys]
      intro d hd
      obtain ⟨inside, hf, rfl⟩ := List.mem_map.1 hd
      rw [Defect.core_under]
      refine ⟨fun names hc => ?_, fun name hc => ?_⟩
      · obtain ⟨rfl, first, between, leads, rfl, real⟩ := tells.cycle_of_finds finds hf hc
        exact ⟨parsed, mid, root.1, route, first, between, reads, rfl, rooted, leads, rfl, real,
          fun n hn => ⟨real.known n hn, real.returns n hn⟩⟩
      · obtain ⟨rfl, leads, hl⟩ := tells.unknown_of_finds finds hf hc
        obtain ⟨owner, reaches, refers⟩ := leads.owner rooted hl
        exact ⟨parsed, mid, root.1, route, owner, reads, rfl, rooted, leads, reaches, refers,
          not_mem_keys_of_lookup hl⟩

def pageOfCircle : List (String × Value) :=
  [("page", .dict [("fields", .list [.dict [("name", .text "part"), ("nest", .text "left")]])]),
    ("left", .dict [("fields", .list [.dict [("name", .text "next"), ("nest", .text "right")]])]),
    ("right", .dict [("fields", .list [.dict [("name", .text "back"), ("nest", .text "left")]])])]

theorem compile_references_real_circle : ∃ defects after,
    (compile pageOfCircle []).outcome { mappings := fun _ v => .ok v } {} = (.error (.schema defects), after) ∧
    ∃ d ∈ defects, d.core = .referenceCycle ["left", "right", "left"] ∧
      ∃ parsed mid root route first between, ReadsTo pageOfCircle {} parsed mid ∧
        d = (Defect.referenceCycle ["left", "right", "left"]).under route ∧
        root ∈ pageOfCircle.map Prod.fst ∧ Leads parsed root route first ∧
        ["left", "right", "left"] = first :: between ++ [first] ∧ IsCircle parsed first between ∧
        ∀ n ∈ first :: between, n ∈ pageOfCircle.map Prod.fst ∧
          Relation.TransGen (Refers parsed) n n := by
  have told : (compile pageOfCircle []).outcome { mappings := fun _ v => .ok v } {} =
      (.error (.schema [.within "page" "part" (.within "left" "next" (.within "right" "back"
        (.referenceCycle ["left", "right", "left"])))]), {}) := rfl
  exact ⟨_, _, told, _, .head _, rfl, (compile_references_real told _ (.head _)).1 _ rfl⟩

end Document

end RecordMarkup

import RecordMarkup.Proofs.Component.Checks

/-!
What building something takes, as a list: the components that are checked, what is refused before there
is a component, and the schemas that are needed, in order, each with the fields in which it is. A plan
`Reports` what the first of its tasks finds that finds anything; `Performs` says of a computation that it
does what the plan lists.
-/

namespace RecordMarkup

/-- Fields that lie in one another, each with the document that it belongs to; the outermost first. -/
abbrev Route := List (String × String)

def Route.text (route : Route) : String :=
  String.join (route.map fun field => field.1 ++ "." ++ field.2 ++ ": ")

namespace Defect

def under (route : Route) (defect : Defect) : Defect :=
  route.foldr (fun field inner => .within field.1 field.2 inner) defect

@[simp] theorem under_nil (defect : Defect) : defect.under [] = defect := rfl

theorem under_append (outer inner : Route) (defect : Defect) :
    defect.under (outer ++ inner) = (defect.under inner).under outer := List.foldr_append

theorem message_under (route : Route) (defect : Defect) :
    (defect.under route).message = route.text ++ defect.message := by
  induction route with
  | nil => simp [Route.text]
  | cons field route ih =>
    have inner : (defect.under (field :: route)).message =
        field.1 ++ "." ++ field.2 ++ ": " ++ (defect.under route).message := rfl
    rw [inner, ih, Route.text, Route.text, List.map_cons, String.join_cons]
    simp only [String.append_assoc]

end Defect

namespace Document

inductive Task
  | make (c : Component Value)
  | refuse (defect : Defect)
  | visit (name : String)

inductive Task.Finds : Task → List Defect → Prop
  | make {c : Component Value} {defects : List Defect}
      (h : (Value.component c).defects = pure defects) : (make c).Finds defects
  | refuse (defect : Defect) : (refuse defect).Finds [defect]

abbrev Plan := List (Route × Task)

namespace Plan

def make (c : Component Value) : Plan := [([], .make c)]

def refuse (defect : Defect) : Plan := [([], .refuse defect)]

def visit (name : String) : Plan := [([], .visit name)]

def inside (route : Route) (plan : Plan) : Plan := plan.map fun step => (route ++ step.1, step.2)

def expand (schema : String → Plan) (plan : Plan) : Plan :=
  plan.flatMap fun step =>
    match step.2 with
    | .visit name => (schema name).inside step.1
    | _ => [step]

def visits (plan : Plan) : List (Route × String) :=
  plan.filterMap fun step =>
    match step.2 with
    | .visit name => some (step.1, name)
    | _ => none

/-- What the first task finds that finds anything; nothing if there is none. -/
inductive Reports : Plan → List Defect → Prop
  | nil : Reports [] []
  | passed {step : Route × Task} {plan : Plan} {defects : List Defect} (h : step.2.Finds [])
      (rest : Reports plan defects) : Reports (step :: plan) defects
  | found {route : Route} {task : Task} {plan : Plan} {defects : List Defect}
      (h : task.Finds defects) (hd : defects ≠ []) :
      Reports ((route, task) :: plan) (defects.map (·.under route))

variable {plan more : Plan} {defects : List Defect}

theorem mem_inside {route : Route} {step : Route × Task} :
    step ∈ plan.inside route ↔ ∃ inner ∈ plan, (route ++ inner.1, inner.2) = step := List.mem_map

@[simp] theorem map_under_nil (defects : List Defect) : defects.map (·.under []) = defects :=
  List.map_id defects

@[simp] theorem visits_make (c : Component Value) : (make c).visits = [] := rfl

@[simp] theorem visits_append (plan more : Plan) :
    (plan ++ more).visits = plan.visits ++ more.visits := List.filterMap_append

@[simp] theorem visits_inside (route : Route) (plan : Plan) :
    (plan.inside route).visits = plan.visits.map fun visit => (route ++ visit.1, visit.2) := by
  induction plan with
  | nil => rfl
  | cons step plan ih =>
    obtain ⟨outer, task⟩ := step
    cases task with
    | visit name => exact congrArg (List.cons _) ih
    | make c => exact ih
    | refuse defect => exact ih

theorem visits_flatMap {α : Type} (f : α → Plan) (xs : List α) :
    visits (xs.flatMap f) = xs.flatMap fun x => (f x).visits := List.filterMap_flatMap

theorem expand_cons (schema : String → Plan) (step : Route × Task) (plan : Plan) :
    expand schema (step :: plan) = expand schema [step] ++ expand schema plan := by
  simp [expand]

theorem expand_visit (schema : String → Plan) (route : Route) (name : String) :
    expand schema [(route, .visit name)] = (schema name).inside route := by
  simp [expand]

theorem mem_expand {schema : String → Plan} {step : Route × Task} (h : step ∈ plan.expand schema) :
    step ∈ plan ∨ ∃ route name, (route, name) ∈ plan.visits ∧
      ∃ inner ∈ schema name, step = (route ++ inner.1, inner.2) := by
  obtain ⟨⟨route, task⟩, hp, hs⟩ := List.mem_flatMap.1 h
  cases task with
  | visit name =>
    obtain ⟨inner, hi, rfl⟩ := mem_inside.1 hs
    exact .inr ⟨route, name, List.mem_filterMap.2 ⟨_, hp, rfl⟩, inner, hi, rfl⟩
  | make c => exact .inl (List.mem_singleton.1 hs ▸ hp)
  | refuse defect => exact .inl (List.mem_singleton.1 hs ▸ hp)

@[simp] theorem inside_empty (plan : Plan) : plan.inside [] = plan := by
  simp [inside]

theorem expand_visit_name (schema : String → Plan) (name : String) :
    (visit name).expand schema = schema name :=
  (expand_visit schema [] name).trans (inside_empty _)

theorem expand_flatMap {α : Type} (schema : String → Plan) (f : α → Plan) (xs : List α) :
    expand schema (xs.flatMap f) = xs.flatMap fun x => (f x).expand schema := List.flatMap_assoc

theorem visits_of_finds {step : Route × Task} {defects : List Defect} (h : step.2.Finds defects)
    (plan : Plan) : visits (step :: plan) = plan.visits := by
  obtain ⟨route, task⟩ := step
  cases h <;> rfl

theorem expand_of_finds {schema : String → Plan} {step : Route × Task} {defects : List Defect}
    (h : step.2.Finds defects) : expand schema [step] = [step] := by
  obtain ⟨route, task⟩ := step
  cases h <;> rfl

theorem map_under_map_under (outer inner : Route) (defects : List Defect) :
    (defects.map (·.under inner)).map (·.under outer) = defects.map (·.under (outer ++ inner)) := by
  rw [List.map_map]
  exact List.map_congr_left fun d _ => (Defect.under_append outer inner d).symm

namespace Reports

theorem append (h : Reports plan []) (k : Reports more defects) : Reports (plan ++ more) defects := by
  generalize hn : ([] : List Defect) = none at h
  induction h with
  | nil => exact k
  | passed hf _ ih => exact .passed hf (ih hn)
  | found _ hd => exact absurd (List.map_eq_nil_iff.1 hn.symm) hd

theorem append_of_ne (h : Reports plan defects) (hd : defects ≠ []) (more : Plan) :
    Reports (plan ++ more) defects := by
  induction h with
  | nil => exact absurd rfl hd
  | passed hf _ ih => exact .passed hf (ih hd)
  | found hf hn => exact .found hf hn

theorem inside (h : Reports plan defects) (route : Route) :
    Reports (plan.inside route) (defects.map (·.under route)) := by
  induction h with
  | nil => exact .nil
  | passed hf _ ih => exact .passed hf ih
  | found hf hd =>
    rw [map_under_map_under]
    exact .found hf hd

theorem finds (h : Reports plan []) : ∀ step ∈ plan, step.2.Finds [] := by
  generalize hn : ([] : List Defect) = none at h
  induction h with
  | nil => exact nofun
  | passed hf _ ih => exact List.forall_mem_cons.2 ⟨hn ▸ hf, hn ▸ ih hn⟩
  | found _ hd => exact absurd (List.map_eq_nil_iff.1 hn.symm) hd

theorem first (h : Reports plan defects) (hd : defects ≠ []) :
    ∃ earlier route task later found, plan = earlier ++ (route, task) :: later ∧
      (∀ step ∈ earlier, step.2.Finds []) ∧ task.Finds found ∧ found ≠ [] ∧
        defects = found.map (·.under route) := by
  induction h with
  | nil => exact absurd rfl hd
  | @passed step plan defects hf _ ih =>
    obtain ⟨earlier, route, task, later, found, rfl, he, ht, hn, rfl⟩ := ih hd
    exact ⟨step :: earlier, route, task, later, found, rfl, List.forall_mem_cons.2 ⟨hf, he⟩, ht, hn,
      rfl⟩
  | @found route task plan found hf hn =>
    exact ⟨[], route, task, plan, found, rfl, nofun, hf, hn, rfl⟩

end Reports

theorem reports_make {c : Component Value} {defects : List Defect}
    (h : (Value.component c).defects = pure defects) : Reports (make c) defects := by
  cases defects with
  | nil => exact .passed (.make h) .nil
  | cons d ds =>
    rw [← map_under_nil (d :: ds)]
    exact .found (.make h) (List.cons_ne_nil d ds)

theorem reports_refuse (defect : Defect) (plan : Plan) : Reports (refuse defect ++ plan) [defect] :=
  .found (.refuse defect) (List.cons_ne_nil _ _)

end Plan

end Document

namespace Eval

open Document (Plan)
open Document.Plan (Reports)

variable {α β : Type}

/-- The action gives the value if its plan reports nothing, which is so under the condition, and else
fails with what the plan reports. Of the state it touches the log alone. -/
def Performs (action : Eval α) (plan : Plan) (a : α) (condition : Prop) : Prop :=
  ∃ (defects : List Defect) (events : List Logging.Event), Reports plan defects ∧
    (defects = [] ↔ condition) ∧ (∀ event ∈ events, event.origin = .construction) ∧
    ∀ context state, action.outcome context state =
      (if defects = [] then .ok a else .error (.schema defects), state.logged events)

namespace Performs

theorem settles {action : Eval α} {plan : Plan} {a : α} {p : Prop} (h : action.Performs plan a p) :
    action.Settles a p := by
  obtain ⟨defects, events, -, hp, quiet, ho⟩ := h
  by_cases hd : defects = []
  · exact .inl ⟨hp.1 hd, events, quiet, fun context state => by rw [ho, if_pos hd]⟩
  · refine .inr ⟨fun h => hd (hp.2 h), defects, events, hd, quiet, fun context state => ?_⟩
    rw [ho, if_neg hd]

theorem pure (a : α) : (Pure.pure a : Eval α).Performs [] a True :=
  ⟨[], [], .nil, by simp, by simp, by simp⟩

theorem iff {action : Eval α} {plan : Plan} {a : α} {p q : Prop} (h : action.Performs plan a p)
    (hpq : p ↔ q) : action.Performs plan a q := by
  rwa [← propext hpq]

theorem bind {action : Eval α} {next : α → Eval β} {plan more : Plan} {a : α} {b : β} {p q : Prop}
    (h : action.Performs plan a p) (hn : p → (next a).Performs more b q) :
    (action >>= next).Performs (plan ++ more) b (p ∧ q) := by
  obtain ⟨defects, events, reports, hp, quiet, ho⟩ := h
  by_cases hd : defects = []
  · subst hd
    obtain ⟨others, further, reports', hq, quiet', ho'⟩ := hn (hp.1 rfl)
    refine ⟨others, events ++ further, reports.append reports', ?_,
      List.forall_mem_append.2 ⟨quiet, quiet'⟩, fun context state => ?_⟩
    · rw [hq, and_iff_right (hp.1 rfl)]
    · rw [outcome_bind_ok (ho context state), ho', State.logged_logged]
  · refine ⟨defects, events, reports.append_of_ne hd more, ?_, quiet, fun context state => ?_⟩
    · exact ⟨fun h => absurd h hd, fun h => hp.2 h.1⟩
    · have failed := ho context state
      rw [if_neg hd] at failed
      rw [outcome_bind_error failed, if_neg hd]

theorem map (f : α → β) {action : Eval α} {plan : Plan} {a : α} {p : Prop}
    (h : action.Performs plan a p) : (do return f (← action) : Eval β).Performs plan (f a) p := by
  have all : (do return f (← action) : Eval β).Performs (plan ++ []) (f a) (p ∧ True) :=
    h.bind fun _ => pure (f a)
  rwa [List.append_nil, and_true] at all

theorem mapM {f : α → Eval β} {g : α → β} {plan : α → Plan} {p : α → Prop} {xs : List α}
    (h : ∀ x ∈ xs, (f x).Performs (plan x) (g x) (p x)) :
    (xs.mapM f).Performs (xs.flatMap plan) (xs.map g) (∀ x ∈ xs, p x) := by
  induction xs with
  | nil => exact (pure []).iff (by simp)
  | cons x xs ih =>
    rw [List.mapM_cons, List.flatMap_cons]
    have rest := ih fun y hy => h y (.tail _ hy)
    exact iff ((h x (.head _)).bind fun _ => rest.map (g x :: ·)) (by simp)

end Performs

end Eval

namespace Component

open Document (Plan)

variable {c : Component Value}

theorem accept_performs {p : Prop} (h : Decides (Value.component c).defects p) :
    c.accept.Performs (.make c) (.component c) p := by
  obtain ⟨defects, hd, hiff⟩ := h
  refine ⟨defects, if defects = [] then [] else [.rejected c.kind defects], Plan.reports_make hd, hiff,
    ?_, fun context state => ?_⟩
  · split <;> simp [Logging.Event.origin]
  · simp only [accept, hd, pure_bind]
    by_cases hn : defects = []
    · simp [hn]
    · rw [if_neg (by simpa using hn), if_neg hn, if_neg hn]
      rfl

theorem mapping_performs (name function : Value) :
    (Build.mapping name function).Performs (.make (.mapping name function))
      (.component (.mapping name function)) (Component.mapping name function).Valid := by
  refine accept_performs ?_
  simp only [Value.defects_component]
  exact Value.mappingDefects_decides name function

theorem construct_performs {str : Value → Prop} (hstr : ∀ v, str v → v.isText) (typed : c.Typed str)
    (parts : ∀ part ∈ c.parts, Built str part) (untyped : c.recordType = .null) :
    c.construct.Performs (.make c) (.component c) c.Valid := by
  rw [construct_eq typed.parts_component]
  obtain ⟨events, quiet, announced⟩ := announce_gives typed
  have told : c.announce.Performs [] () True :=
    ⟨[], events, .nil, by simp, quiet, by simpa using announced⟩
  have accepted := accept_performs (defects_decide hstr typed parts untyped)
  exact Eval.Performs.iff (accepted.bind fun _ => told.map fun _ => Value.component c) (by simp)

end Component

end RecordMarkup

import RecordMarkup.Proofs.Document.Refusal

namespace RecordMarkup

inductive Value.IsJson : Value → Prop
  | null : IsJson .null
  | bool (b : Bool) : IsJson (.bool b)
  | int (n : Int) : IsJson (.int n)
  | float (x : Float) : IsJson (.float x)
  | text (s : String) : IsJson (.text s)
  | list {items : List Value} (h : ∀ v ∈ items, IsJson v) : IsJson (.list items)
  | dict {entries : List (String × Value)} (h : ∀ entry ∈ entries, IsJson entry.2) :
      IsJson (.dict entries)

namespace Value

theorem itemStreams_eq_nil {items : List Value} (h : ∀ v ∈ items, v.streams = []) :
    itemStreams items = [] := by
  induction items with
  | nil => rfl
  | cons item items ih =>
    obtain ⟨first, rest⟩ := List.forall_mem_cons.1 h
    rw [itemStreams, first, ih rest, List.append_nil]

theorem entryStreams_eq_nil {entries : List (String × Value)}
    (h : ∀ entry ∈ entries, entry.2.streams = []) : entryStreams entries = [] := by
  induction entries with
  | nil => rfl
  | cons entry entries ih =>
    obtain ⟨first, rest⟩ := List.forall_mem_cons.1 h
    rw [entryStreams, first, ih rest, List.append_nil]

theorem IsJson.streams {v : Value} (h : v.IsJson) : v.streams = [] := by
  induction h with
  | list _ ih => exact itemStreams_eq_nil ih
  | dict _ ih => exact entryStreams_eq_nil ih
  | _ => rfl

end Value

namespace Document

namespace Shape

def spellings : Shape → List (List String)
  | schema => [["element"], ["fields"]]
  | field => [["name"], ["element"], ["optional"], ["default"], ["map", "map_with"],
      ["list", "as_list"], ["nest"]]
  | element => [["tag"], ["attrs"], ["dynamic"], ["hx"], ["request"], ["content"], ["before"],
      ["after"]]
  | request => [["method"], ["path"], ["args"], ["urlencode"]]
  | format => [["template"], ["args"]]

def keys (shape : Shape) : List String := shape.spellings.flatten

end Shape

/-- An object of one shape holds an object of another at the end of the steps. The keys of a group are
free, and a template that is an object is told apart from a text. -/
inductive Part : Shape → Entries → List Step → Shape → Entries → Prop
  | element {shape : Shape} {entries inside : Entries} (hs : shape = .schema ∨ shape = .field)
      (h : entries.lookup "element" = some (.dict inside)) :
      Part shape entries [.key "element"] .element inside
  | field {entries inside : Entries} {items : List Value} {i : Nat}
      (h : entries.lookup "fields" = some (.list items)) (hi : items[i]? = some (.dict inside)) :
      Part .schema entries [.key "fields", .index i] .field inside
  | request {entries inside : Entries} (h : entries.lookup "request" = some (.dict inside)) :
      Part .element entries [.key "request"] .request inside
  | content {entries inside : Entries} (h : entries.lookup "content" = some (.dict inside)) :
      Part .element entries [.key "content", .key Shape.format.label] .format inside
  | dynamic {entries groups inside : Entries} {key : String}
      (h : entries.lookup "dynamic" = some (.dict groups)) (hm : (key, .dict inside) ∈ groups) :
      Part .element entries [.key "dynamic", .key key, .key Shape.format.label] .format inside

/-- An object holds another, at any depth. -/
inductive Holds : Shape → Entries → List Step → Shape → Entries → Prop
  | self {shape : Shape} {entries : Entries} : Holds shape entries [] shape entries
  | part {outer shape inner : Shape} {entries inside found : Entries} {steps path : List Step}
      (hp : Part outer entries steps shape inside) (rest : Holds shape inside path inner found) :
      Holds outer entries (steps ++ path) inner found

theorem errorsOf_both {α β : Type} (f : Except (List Issue) (α → β)) (a : Except (List Issue) α) :
    errorsOf (Reading.both f a) = errorsOf f ++ errorsOf a := by
  cases f <;> cases a <;> simp [Reading.both, errorsOf]

theorem errorsOf_mapError {α : Type} {f : List Issue → List Issue} (hf : f [] = [])
    (result : Except (List Issue) α) : errorsOf (result.mapError f) = f (errorsOf result) := by
  cases result with
  | ok a => exact hf.symm
  | error issues => rfl

namespace Reading

variable {α β : Type} {reading : Reading α} {issue other : Issue}

def Reports (reading : Reading α) (issue : Issue) : Prop :=
  ∀ state, issue ∈ errorsOf (reading state).1

namespace Reports

theorem fail (problem : Problem) : Reports (Reading.fail problem : Reading α) ⟨[], problem⟩ :=
  fun _ => .head _

theorem seq_left {f : Reading (α → β)} (h : Reports f issue) (reading : Reading α) :
    Reports (f <*> reading) issue := by
  intro state
  rw [seq_fst, errorsOf_both]
  exact List.mem_append_left _ (h state)

theorem seq_right (f : Reading (α → β)) (h : Reports reading issue) :
    Reports (f <*> reading) issue := by
  intro state
  rw [seq_fst, errorsOf_both]
  exact List.mem_append_right _ (h _)

theorem map (f : α → β) (h : Reports reading issue) : Reports (f <$> reading) issue :=
  seq_right (pure f) h

theorem below (step : Step) (h : Reports reading issue) :
    Reports (reading.below step) (issue.below step) := by
  intro state
  rw [below_fst, errorsOf_mapError rfl]
  exact List.mem_map_of_mem (h state)

theorem either {second : Reading α} (hf : Reports reading other) (h : Reports second issue) :
    Reports (reading.either second) issue := by
  intro state
  have failed := hf state
  unfold Reading.either
  cases hr : reading state with
  | mk result mid =>
    cases result with
    | ok a => simp [hr, errorsOf] at failed
    | error issues =>
      have told := h mid
      cases hs : second mid with
      | mk result after =>
        cases result with
        | ok a => simp [hs, errorsOf] at told
        | error more =>
          rw [hs] at told
          simp only [hs]
          exact List.mem_append_right issues told

theorem each {read : α → Reading β} {x : α} {xs : List α} (h : Reports (read x) issue)
    (hx : x ∈ xs) : Reports (Reading.each read xs) issue := by
  induction xs with
  | nil => simp at hx
  | cons y xs ih =>
    obtain rfl | hx := List.mem_cons.1 hx
    · exact (h.map _).seq_left _
    · exact seq_right _ (ih hx)

end Reports

end Reading

section Read

variable {α : Type} {read : Value → Reading α} {issue : Issue} {v : Value} {entries : Entries}

theorem readList_reports {items : List Value} {i : Nat} (hi : items[i]? = some v)
    (h : (read v).Reports issue) :
    (readList read (.list items)).Reports (issue.below (.index i)) :=
  Reading.Reports.each (x := (v, i)) (h.below _) (List.mem_zipIdx_iff_getElem?.2 hi)

theorem readDict_reports {key : String} (hm : (key, v) ∈ entries) (h : (read v).Reports issue) :
    (readDict read (.dict entries)).Reports (issue.below (.key key)) :=
  Reading.Reports.each (x := (key, v)) ((h.map _).below _) hm

theorem readOptional_reports (h : (read (.dict entries)).Reports issue) :
    (readOptional read (.dict entries)).Reports issue := h.map _

theorem defaulted_reports {key : String} {default : α} (hl : entries.lookup key = some v)
    (h : (read v).Reports issue) :
    (defaulted entries [key] default read).Reports (issue.below (.key key)) := by
  simp only [defaulted, find?, hl]
  exact h.below _

theorem mem_of_find? {spellings : List String} {key : String}
    (h : find? entries spellings = some (key, v)) : key ∈ spellings := by
  induction spellings with
  | nil => simp [find?] at h
  | cons spelling others ih =>
    rw [find?] at h
    split at h
    next w _ =>
      obtain ⟨rfl, -⟩ := Prod.mk.inj (Option.some.inj h)
      exact .head _
    next => exact .tail _ (ih h)

theorem noOthers_reports {keys : List (List String)} {key : String} (hk : key ∉ keys.flatten)
    (hm : (key, v) ∈ entries) : (noOthers entries keys).Reports ⟨[.key key], .unknownKey⟩ := by
  have unused : key ∉ keys.filterMap fun spellings => (find? entries spellings).map Prod.fst := by
    intro hu
    obtain ⟨spellings, hs, hf⟩ := List.mem_filterMap.1 hu
    obtain ⟨⟨_, w⟩, found, rfl⟩ := Option.map_eq_some_iff.1 hf
    exact hk (List.mem_flatten.2 ⟨spellings, hs, mem_of_find? found⟩)
  have left : (key, v) ∈ entries.filter fun entry =>
      !(keys.filterMap fun spellings => (find? entries spellings).map Prod.fst).contains entry.1 :=
    List.mem_filter.2 ⟨hm, by simpa using unused⟩
  simp only [noOthers]
  split
  next hn => exact absurd (hn ▸ left) List.not_mem_nil
  next => exact fun state => List.mem_map.2 ⟨_, left, rfl⟩

theorem readShape_reports {read : Entries → Reading α} (shape : Shape) (keys : List (List String))
    (h : (read entries).Reports issue) : (readShape shape keys read (.dict entries)).Reports issue :=
  (h.map _).seq_left _

theorem readShape_reports_unknown {read : Entries → Reading α} (shape : Shape)
    {keys : List (List String)} {key : String} (hk : key ∉ keys.flatten) (hm : (key, v) ∈ entries) :
    (readShape shape keys read (.dict entries)).Reports ⟨[.key key], .unknownKey⟩ :=
  .seq_right (Function.const Unit <$> read entries) (noOthers_reports hk hm)

end Read

namespace Shape

def Reports : Shape → Entries → Issue → Prop
  | schema, entries => (Schema.read (.dict entries)).Reports
  | field, entries => (Field.read (.dict entries)).Reports
  | element, entries => (Element.read (.dict entries)).Reports
  | request, entries => (Request.read (.dict entries)).Reports
  | format, entries => (Format.read (.dict entries)).Reports

theorem reports_unknown {shape : Shape} {entries : Entries} {key : String} {v : Value}
    (hm : (key, v) ∈ entries) (hk : key ∉ shape.keys) :
    shape.Reports entries ⟨[.key key], .unknownKey⟩ := by
  cases shape
  all_goals exact readShape_reports_unknown _ hk hm

end Shape

theorem Content.read_reports {inside : Entries} {issue : Issue}
    (h : (Format.read (.dict inside)).Reports issue) :
    (Content.read (.dict inside)).Reports (issue.below (.key Shape.format.label)) :=
  .either (((Reading.Reports.fail .notText).map _).below _) ((h.map _).below _)

theorem Part.reports {outer shape : Shape} {entries inside : Entries} {steps : List Step}
    {issue : Issue} (hp : Part outer entries steps shape inside) (h : shape.Reports inside issue) :
    outer.Reports entries (steps.foldr Issue.below issue) := by
  -- a key is as many steps to the left in the chain of readings as there are keys read after it
  cases hp with
  | element hs hl =>
    have read : (defaulted entries ["element"] none (readOptional Element.read)).Reports
        (issue.below (.key "element")) := defaulted_reports hl (readOptional_reports h)
    obtain rfl | rfl := hs
    · exact readShape_reports _ _ ((read.map _).seq_left _)
    · refine readShape_reports _ _ ?_
      exact ((((((read.seq_right _).seq_left _).seq_left _).seq_left _).seq_left _).seq_left _)
  | field hl hi =>
    refine readShape_reports _ _ ?_
    exact (defaulted_reports hl (readList_reports hi h)).seq_right _
  | request hl =>
    refine readShape_reports _ _ ?_
    exact ((((defaulted_reports hl (readOptional_reports h)).seq_right _).seq_left _).seq_left
      _).seq_left _
  | content hl =>
    refine readShape_reports _ _ ?_
    exact (((defaulted_reports hl (readOptional_reports (Content.read_reports h))).seq_right
      _).seq_left _).seq_left _
  | dynamic hl hm =>
    refine readShape_reports _ _ ?_
    exact ((((((defaulted_reports hl (readDict_reports hm (Content.read_reports h))).seq_right
      _).seq_left _).seq_left _).seq_left _).seq_left _).seq_left _

theorem Holds.reports_unknown {outer inner : Shape} {entries found : Entries} {path : List Step}
    {key : String} {v : Value} (h : Holds outer entries path inner found) (hm : (key, v) ∈ found)
    (hk : key ∉ inner.keys) : outer.Reports entries ⟨path ++ [.key key], .unknownKey⟩ := by
  induction h with
  | self => exact Shape.reports_unknown hm hk
  | @part _ _ _ _ _ _ steps path hp _ ih =>
    have below (steps path : List Step) (problem : Problem) :
        steps.foldr Issue.below ⟨path, problem⟩ = ⟨steps ++ path, problem⟩ := by
      induction steps with
      | nil => rfl
      | cons step steps ih => rw [List.foldr_cons, ih]; rfl
    have told := hp.reports (ih hm hk)
    rwa [below, ← List.append_assoc] at told

def Schema.issues (v : Value) : List Issue := errorsOf (Schema.read v {}).1

theorem Schema.issues_eq_nil_iff {v : Value} :
    Schema.issues v = [] ↔ ∃ s, (Schema.read v {}).1 = .ok s := by
  have told := (Schema.read_made v).explains {}
  cases hr : (Schema.read v {}).1 with
  | ok s => simp [Schema.issues, hr, errorsOf]
  | error issues =>
    have present : issues ≠ [] := fun he => told (he ▸ hr)
    simpa [Schema.issues, hr, errorsOf] using present

theorem Schema.exists_dict_of_issues {v : Value} (h : Schema.issues v = []) :
    ∃ entries, v = .dict entries := by
  cases v with
  | dict entries => exact ⟨entries, rfl⟩
  | _ => exact absurd h (List.cons_ne_nil _ _)

theorem Schema.read_json {v : Value} (h : v.IsJson) (state : State) :
    (Schema.read v state).1 = (Schema.read v {}).1 :=
  ((Schema.read_confined v).agree state {} (by rw [h.streams]; exact nofun)).1

variable {documents : List (String × Value)}

theorem errorsOf_readAll (json : ∀ d ∈ documents, d.2.IsJson) (state : State) :
    errorsOf (readAll documents state).1 =
      documents.flatMap fun d => (Schema.issues d.2).map (.document d.1) := by
  induction documents generalizing state with
  | nil => rfl
  | cons d documents ih =>
    obtain ⟨first, rest⟩ := List.forall_mem_cons.1 json
    rw [readAll, errorsOf_withOthers, ih rest, Schema.read_json first, List.flatMap_cons]
    rfl

theorem compile_of_issues (json : ∀ d ∈ documents, d.2.IsJson)
    (hi : ∃ d ∈ documents, Schema.issues d.2 ≠ []) (mappers : List (String × Value))
    (context : Context) (state : State) : ∃ defects after,
    (compile documents mappers).outcome context state = (.error (.schema defects), after) ∧
      defects = (documents.flatMap fun d => (Schema.issues d.2).map (.document d.1)) ∧
      after.log = state.log ++ [.invalidDocuments defects.length] := by
  have quiet := log_readAll documents state
  have told := errorsOf_readAll json state
  cases hr : readAll documents state with
  | mk result mid =>
    rw [hr] at quiet told
    cases result with
    | ok parsed =>
      obtain ⟨d, hd, hn⟩ := hi
      have none := List.flatMap_eq_nil_iff.1 told.symm d hd
      exact absurd (List.map_eq_nil_iff.1 none) hn
    | error defects =>
      refine ⟨defects, _, outcome_compile_of_error hr mappers context, told, ?_⟩
      rw [State.logged, quiet]

theorem issues_of_readsTo (json : ∀ d ∈ documents, d.2.IsJson) {state mid : State}
    {parsed : List (String × Schema)} (h : ReadsTo documents state parsed mid) :
    ∀ d ∈ documents, Schema.issues d.2 = [] := by
  have told := errorsOf_readAll json state
  rw [readsTo_iff.1 h] at told
  exact fun d hd => List.map_eq_nil_iff.1 (List.flatMap_eq_nil_iff.1 told.symm d hd)

/-- A set of documents in JSON compiles only if all keys of all its objects are known. If any document
has issues, nothing is built, and the messages are those of all documents in order, each at its place
in its document; they are the messages that the documents with issues give alone, one after the other.
A key that its object may not have is among the issues, whatever else is wrong. -/
theorem compile_strict (json : ∀ d ∈ documents, d.2.IsJson) (mappers : List (String × Value))
    (context : Context) (state : State) :
    (∀ schemas after, (compile documents mappers).outcome context state = (.ok schemas, after) →
      ∀ d ∈ documents, ∃ entries, d.2 = .dict entries ∧ ∀ path shape found,
        Holds .schema entries path shape found → ∀ entry ∈ found, entry.1 ∈ shape.keys) ∧
    ((∃ d ∈ documents, Schema.issues d.2 ≠ []) → ∃ defects after,
      (compile documents mappers).outcome context state = (.error (.schema defects), after) ∧
        after.log = state.log ++ [.invalidDocuments defects.length] ∧
        defects = (documents.flatMap fun d => (Schema.issues d.2).map (.document d.1)) ∧
        defects.map Defect.message = documents.flatMap fun d => (Schema.issues d.2).map fun issue =>
          d.1 ++ "." ++ (".".intercalate (issue.path.map Step.text) ++ ": " ++
            issue.problem.message)) ∧
    (∀ d ∈ documents, Schema.issues d.2 ≠ [] → ∃ after,
      (compile [d] mappers).outcome context state =
        (.error (.schema ((Schema.issues d.2).map (.document d.1))), after)) ∧
    (∀ d ∈ documents, Schema.issues d.2 = [] ↔ ∃ s after, ReadsTo [d] state [(d.1, s)] after) ∧
    ∀ d ∈ documents, ∀ entries, d.2 = .dict entries → ∀ path shape found,
      Holds .schema entries path shape found → ∀ entry ∈ found, entry.1 ∉ shape.keys →
        ⟨path ++ [.key entry.1], .unknownKey⟩ ∈ Schema.issues d.2 := by
  refine ⟨fun schemas after h d hd => ?_, fun hi => ?_, fun d hd hi => ?_, fun d hd => ?_, ?_⟩
  · obtain ⟨parsed, mid, hr, -⟩ := finished_of_compile h
    have none := issues_of_readsTo json hr d hd
    obtain ⟨name, v⟩ := d
    obtain ⟨entries, rfl⟩ := Schema.exists_dict_of_issues none
    refine ⟨entries, rfl, fun path shape found holds entry hm => ?_⟩
    by_contra hk
    have told : _ ∈ Schema.issues (.dict entries) := holds.reports_unknown hm hk {}
    exact absurd (none ▸ told) List.not_mem_nil
  · obtain ⟨defects, after, ho, rfl, log⟩ := compile_of_issues json hi mappers context state
    refine ⟨_, after, ho, log, rfl, ?_⟩
    rw [List.map_flatMap]
    simp only [List.map_map]
    rfl
  · have alone : ∀ e ∈ [d], e.2.IsJson := by simpa using json d hd
    obtain ⟨defects, after, ho, rfl, -⟩ :=
      compile_of_issues alone ⟨d, .head _, hi⟩ mappers context state
    exact ⟨after, by rw [ho]; simp⟩
  · rw [Schema.issues_eq_nil_iff, ← Schema.read_json (json d hd) state]
    refine exists_congr fun s => ⟨fun h => ?_, ?_⟩
    · exact ⟨_, .cons (Prod.ext h rfl) .nil⟩
    · rintro ⟨after, h⟩
      cases h with
      | cons first _ => rw [first]
  · rintro ⟨name, v⟩ - entries rfl path shape found holds entry hm hk
    exact holds.reports_unknown hm hk {}

def pageOfStrayKey : List (String × Value) :=
  [("page", .dict [("fields", .list [.dict [("name", .text "title"), ("colour", .int 3)]])]),
    ("item", .dict [])]

theorem compile_strict_stray_key : (∀ d ∈ pageOfStrayKey, d.2.IsJson) ∧ ∃ defects after,
    (compile pageOfStrayKey []).outcome { mappings := fun _ v => .ok v } {} =
      (.error (.schema defects), after) ∧
    after.log = [.invalidDocuments defects.length] ∧
    defects.map Defect.message = ["page.fields.0.colour: Extra inputs are not permitted"] := by
  have json : ∀ d ∈ pageOfStrayKey, d.2.IsJson := by
    have field : (Value.dict [("name", .text "title"), ("colour", .int 3)]).IsJson := by
      refine .dict ?_
      simp [Value.IsJson.text, Value.IsJson.int]
    have page : (Value.dict [("fields", .list [.dict [("name", .text "title"),
        ("colour", .int 3)]])]).IsJson := by
      refine .dict ?_
      simpa using Value.IsJson.list (by simpa using field)
    simpa [pageOfStrayKey] using ⟨page, .dict (by simp)⟩
  obtain ⟨-, refused, -, -, stray⟩ := compile_strict json [] { mappings := fun _ v => .ok v } {}
  have found : _ ∈ Schema.issues _ := stray _ (.head _) _ rfl _ .field _
    (.part (.field (i := 0) rfl rfl) .self) ("colour", .int 3) (.tail _ (.head _)) (by decide)
  obtain ⟨defects, after, ho, log, -, messages⟩ :=
    refused ⟨_, .head _, List.ne_nil_of_mem found⟩
  exact ⟨json, defects, after, ho, log, messages.trans rfl⟩

end Document

end RecordMarkup

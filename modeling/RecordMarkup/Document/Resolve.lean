import RecordMarkup.Construct
import RecordMarkup.Document.Basic

/-!
From documents to schemas. A document may name others in its fields; these are built first, each
once, whatever refers to it. A name that is no document's and a document that is met while it is
itself under construction are defects.

How one document is built is said once, in `Resolve.schemaWith`, for any way to build the documents
that it names.
-/

namespace RecordMarkup.Document

/-- The books of a run: the documents under construction, innermost first, and the schemas that are
finished, latest first. -/
structure Progress where
  path : List String := []
  built : List (String × Value) := []

abbrev Resolve := ReaderT Context (ExceptT Failure (StateM (Progress × State)))

structure Library where
  documents : List (String × Schema)
  mappers : List (String × Value)

namespace Resolve

def lift (action : Eval α) : Resolve α := fun context => ExceptT.mk fun (progress, state) =>
  let (result, state) := action.outcome context state
  (result, (progress, state))

def progress : Resolve Progress := return (← get).1

def refuse (defect : Defect) : Resolve α := throw (.schema [defect])

/-- While the action runs, the name is on the path; however it ends, the innermost name is taken off. -/
def entering (name : String) (action : Resolve α) : Resolve α := fun context =>
  ExceptT.mk fun (progress, state) =>
    let (result, (after, state)) :=
      (action.run context).run.run ({ progress with path := name :: progress.path }, state)
    (result, ({ after with path := after.path.tail }, state))

def within (owner field : String) (action : Resolve α) : Resolve α :=
  tryCatch action fun
    | .schema defects => throw (.schema (defects.map (.within owner field)))
    | failure => throw failure

def cycle (path : List String) (name : String) : List String :=
  name :: (path.takeWhile (· ≠ name)).reverse ++ [name]

end Resolve

/-- An empty name is no name. -/
def given? (name : Option String) : Option String := name.filter (· ≠ "")

def Format.build (f : Format) : Eval Value :=
  Build.format (.text f.template) (.tuple (f.args.map .text))

def Content.build : Content → Eval Value
  | .text template => Build.format (.text template) (.tuple [])
  | .format f => f.build

def Request.build (r : Request) : Eval Value := do
  let path ← Build.format (.text r.path) (.tuple (r.args.map .text))
  Build.request (.text r.method) path (.bool r.urlencode)

def Element.buildAttributes (e : Element) : Eval (List Value) := do
  let requests ← e.request.toList.mapM Request.build
  let dynamics ← e.dynamic.mapM fun (key, content) => do
    Build.dynamic (.text key) (← content.build)
  let statics ← e.attrs.mapM fun (key, value) => Build.static (.text key) (.text value)
  let others ← e.hx.mapM fun (key, value) => Build.requestAttr (.text key) (.text value)
  return requests ++ dynamics ++ statics ++ others

def buildContent : Option Content → Eval Value
  | some content => content.build
  | none => return .null

def textOrNull : Option String → Value
  | some s => .text s
  | none => .null

def Element.build (e : Element) : Eval Value := do
  let attributes ← e.buildAttributes
  let content ← buildContent e.content
  Build.element (textOrNull e.tag) (.tuple attributes) content (.text e.before) (.text e.after)

def buildElement : Option Element → Eval Value
  | some e => e.build
  | none => return .null

namespace Resolve

def mapping (mappers : List (String × Value)) (name : Option String) : Resolve Value :=
  match given? name with
  | none => return .null
  | some name =>
    match mappers.lookup name with
    | some function => lift (Build.mapping (.text name) function)
    | none => refuse (.unknownMapper name)

def itemWith (schema : String → Resolve Value) (name : Option String) : Resolve Value :=
  match given? name with
  | none => return .null
  | some name => schema name

def policyWith (schema : String → Resolve Value) (mappers : List (String × Value)) (f : Field) :
    Resolve Value := do
  if f.list then
    if f.optional || f.default.isSome || f.map.isSome then refuse .listExcludesOptions
    else lift (Build.list (← itemWith schema f.nest))
  else match given? f.nest with
  | some name =>
    if f.default.isSome || f.map.isSome then refuse .nestExcludesOptions
    else lift (Build.nest (← schema name) (.bool f.optional))
  | none =>
    if f.default.isSome && !f.optional then refuse .defaultRequiresOptional
    else
      let function ← mapping mappers f.map
      lift <|
        if f.optional then Build.optional (textOrNull f.default) function
        else if function.isNull then Build.plain
        else Build.map function

def fieldWith (schema : String → Resolve Value) (mappers : List (String × Value)) (owner : String)
    (f : Field) : Resolve Value :=
  within owner f.name do
    let policy ← policyWith schema mappers f
    let element ← lift (buildElement f.element)
    lift (Build.field (.text f.name) policy element)

def documentWith (schema : String → Resolve Value) (mappers : List (String × Value))
    (name : String) (s : Schema) : Resolve Value := do
  let fields ← s.fields.mapM (fieldWith schema mappers name)
  let element ← lift (buildElement s.element)
  lift (Build.schema (.tuple fields) element (.text name) .null)

def schemaWith (schema : String → Resolve Value) (library : Library) (name : String) :
    Resolve Value := do
  let progress ← progress
  match progress.built.lookup name with
  | some built => return built
  | none =>
    if progress.path.contains name then refuse (.referenceCycle (cycle progress.path name))
    else
      match library.documents.lookup name with
      | none => refuse (.unknownReference name)
      | some document =>
        let built ← entering name (documentWith schema library.mappers name document)
        lift (Eval.log (.compiledSchema name))
        modify fun (progress, state) =>
          ({ progress with built := (name, built) :: progress.built }, state)
        return built

def schemaTo (library : Library) : Nat → String → Resolve Value
  | 0, name => refuse (.referenceCycle [name])
  | bound + 1, name => schemaWith (schemaTo library bound) library name

/-- The schema of a name. A path holds no name twice, so it is no longer than the library. -/
def schema (library : Library) (name : String) : Resolve Value :=
  schemaTo library (library.documents.length + 1) name

def all (library : Library) : Resolve (List (String × Value)) :=
  library.documents.mapM fun (name, _) => return (name, ← schema library name)

end Resolve

def withOthers (name : String) : Except (List Issue) Schema →
    Except (List Defect) (List (String × Schema)) → Except (List Defect) (List (String × Schema))
  | .ok s, .ok others => .ok ((name, s) :: others)
  | .ok _, .error defects => .error defects
  | .error issues, .ok _ => .error (issues.map (.document name))
  | .error issues, .error defects => .error (issues.map (.document name) ++ defects)

def readAll : List (String × Value) → State →
    Except (List Defect) (List (String × Schema)) × State
  | [], state => (.ok [], state)
  | (name, v) :: documents, state =>
    let (first, state) := Schema.read v state
    let (others, state) := readAll documents state
    (withOthers name first others, state)

def build (library : Library) : Eval (List (String × Value)) := fun context =>
  ExceptT.mk fun state =>
    let (result, (_, state)) := ((Resolve.all library).run context).run.run ({}, state)
    (result, state)

def compile (documents mappers : List (String × Value)) : Eval (List (String × Value)) := do
  match ← modifyGet (readAll documents) with
  | .error defects =>
    Eval.log (.invalidDocuments defects.length)
    throw (.schema defects)
  | .ok documents =>
    let schemas ← build ⟨documents, mappers⟩
    Eval.log (.compiled schemas.length)
    return schemas

def compileOne (name : String) (document : Value) (mappers : List (String × Value)) :
    Eval Value := do
  let schemas ← compile [(name, document)] mappers
  return (schemas.lookup name).getD .null

end RecordMarkup.Document

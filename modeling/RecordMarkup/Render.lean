import RecordMarkup.Render.Element
import RecordMarkup.Value.Basic

/-!
Rendering: a schema and a record give markup. The output is the fragments of the fields in order,
within the element of the schema; nothing is put between them.

How a schema is rendered is said once, in `renderWith`, for any way to render the schemas that are
nested in it; `render` is its own such way.
-/

namespace RecordMarkup.Value

mutual

def depth : Value → Nat
  | list items | tuple items | stream _ items => depthItems items + 1
  | dict entries | record _ entries | typedRecord _ entries => depthEntries entries + 1
  | component c => depthParts c + 1
  | operation owner _ => depth owner + 1
  | _ => 0

def depthItems : List Value → Nat
  | [] => 0
  | v :: vs => max (depth v) (depthItems vs)

def depthEntries : List (String × Value) → Nat
  | [] => 0
  | (_, v) :: entries => max (depth v) (depthEntries entries)

/-- A sequence of components in a slot counts as one step by itself. -/
def depthParts : Component Value → Nat
  | .format t as => max (depth t) (depthItems as + 1)
  | .mapping n f => max (depth n) (depth f)
  | .static k v | .dynamic k v | .requestAttr k v => max (depth k) (depth v)
  | .request _ p e => max (depth p) (depth e)
  | .element t as c b a =>
    max (depth t) <| max (depthItems as + 1) <| max (depth c) <| max (depth b) (depth a)
  | .plain => 0
  | .optional d m => max (depth d) (depth m)
  | .map m => depth m
  | .list i => depth i
  | .nest s o => max (depth s) (depth o)
  | .field n p e => max (depth n) <| max (depth p) (depth e)
  | .schema fs e n t => max (depthItems fs + 1) <| max (depth e) <| max (depth n) (depth t)

end

def fieldElement (field : Value) : Eval Value := do
  let element ← field.slot "element"
  return if element.truthy then element else bareElement

def renderElement (field record v : Value) : Eval String := do
  let element ← field.fieldElement
  let content ← element.renderContent record v
  element.wrap record content

def renderOptional (field policy record v : Value) : Eval String := do
  if v.isNull then
    let default ← policy.slot "default"
    if default.isNull then return "" else field.renderElement record default
  else
    let mapping ← policy.slot "map"
    if mapping.isNull then field.renderElement record v
    else field.renderElement record (← mapping.applyMapping v)

def renderList (render : Value → Value → Eval String) (field policy record v : Value) :
    Eval String := do
  let items := if v.truthy then v else tuple []
  if !(← policy.slot "nested").truthy then
    return String.join (← items.forEach (field.renderElement record))
  let item ← policy.slot "item_schema"
  Eval.log (.renderedList (← field.slot "name") (← item.displayName))
  let element ← field.fieldElement
  let inner ← items.forEach (render item)
  element.wrap record (text (String.join inner))

def skipsNest (policy v : Value) : Eval Bool := do
  if !v.isNull then return false
  return (← policy.slot "optional").truthy

def renderNest (render : Value → Value → Eval String) (field policy record v : Value) :
    Eval String := do
  if ← skipsNest policy v then return ""
  let schema ← policy.slot "schema"
  Eval.log (.renderedNest (← field.slot "name") (← schema.displayName))
  let element ← field.fieldElement
  element.wrap record (text (← render schema v))

def renderFieldWith (render : Value → Value → Eval String) (field record : Value) :
    Eval String := do
  let policy ← field.slot "policy"
  let tag ← policy.slot "kind"
  tag.requireHashable
  match tag.kind?.filter Kind.isPolicy with
  | none => throw (.unknownPolicy tag)
  | some kind =>
    let v ← record.field (← field.slot "name")
    match kind with
    | .optional => field.renderOptional policy record v
    | .map => field.renderElement record (← (← policy.slot "map").applyMapping v)
    | .list => renderList render field policy record v
    | .nest => renderNest render field policy record v
    | _ => field.renderElement record v

def recordStart (element record : Value) : Eval (List Value) := do
  if element.isNull then return []
  return [← element.openTag record, ← element.slot "before"]

def recordEnd (element : Value) : Eval (List Value) := do
  if element.isNull then return []
  return [← element.slot "after", ← element.closeTag]

def renderWith (render : Value → Value → Eval String) (schema record : Value) : Eval String := do
  let element ← schema.slot "element"
  let start ← element.recordStart record
  let fields ← (← schema.slot "fields").forEach fun field => renderFieldWith render field record
  let finish ← element.recordEnd
  join "" (start ++ fields.map text ++ finish)

/-- Renders schemas that are nested less deep than the bound. -/
def renderTo : Nat → Value → Value → Eval String
  | 0, schema, _ => throw (.noAttribute schema "element")
  | bound + 1, schema, r => renderWith (renderTo bound) schema r

def render (schema record : Value) : Eval String := renderTo (schema.depth + 1) schema record

def renderField (field record : Value) : Eval String := renderFieldWith render field record

end RecordMarkup.Value
